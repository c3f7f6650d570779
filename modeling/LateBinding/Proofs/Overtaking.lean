import LateBinding.Proofs.Passages

/-!
# Overtaking

Hooks that are due are served like a stack: what becomes due while a hook is running is called
before the hooks that were due already. So of two calls that become due one after the other,
the second one is made first exactly if it became due while the first one was waiting.
-/

namespace LateBinding

/-- A call became due while another one was due and had not been made. -/
def Course.Overtakes [NameHash] (course : List Moment) (later earlier : Call) : Prop :=
  ∃ past moment rest, course = past ++ moment :: rest ∧ later ∈ moment.queued ∧
    earlier ∈ past.flatMap Moment.queued ∧ earlier ∉ past.flatMap Moment.loads

/-- The part of a concatenation that the second of two elements is in. -/
theorem exists_part_of_pair {α β : Type} {parts : List α} {content : α → List β}
    {first second : β} (ordered : [first, second].Sublist (parts.flatMap content)) :
    ∃ past part rest, parts = past ++ part :: rest ∧ second ∈ content part ∧
      (first ∈ past.flatMap content ∨ [first, second].Sublist (content part)) := by
  induction parts with
  | nil => cases ordered
  | cons head rest inductionHypothesis =>
    rw [List.flatMap_cons] at ordered
    obtain ⟨here, later, both, hereIn, laterIn⟩ := List.sublist_append_iff.mp ordered
    rcases here with _ | ⟨one, _ | ⟨two, more⟩⟩
    · cases both
      obtain ⟨past, part, others, rfl, among, earlier⟩ := inductionHypothesis laterIn
      refine ⟨head :: past, part, others, rfl, among, earlier.imp_left fun before => ?_⟩
      rw [List.flatMap_cons]
      exact List.mem_append_right _ before
    · cases both
      obtain ⟨part, member, among⟩ := List.mem_flatMap.mp (List.singleton_sublist.mp laterIn)
      obtain ⟨past, others, rfl⟩ := List.append_of_mem member
      refine ⟨head :: past, part, others, rfl, among, .inl ?_⟩
      rw [List.flatMap_cons]
      exact List.mem_append_left _ (List.singleton_sublist.mp hereIn)
    · simp only [List.cons_append, List.cons.injEq, List.nil_eq_append_iff] at both
      obtain ⟨rfl, rfl, rfl, rfl⟩ := both
      exact ⟨[], head, rest, rfl, hereIn.subset (by simp), .inr hereIn⟩

/-- Where two elements stand in both orders, one of them stands there twice. -/
theorem two_le_count_of_pairs {list : List Call} {first second : Call}
    (inOrder : [first, second].Sublist list) (reversed : [second, first].Sublist list) :
    2 ≤ list.count first ∨ 2 ≤ list.count second := by
  induction list with
  | nil => cases inOrder
  | cons head rest inductionHypothesis =>
    have twice : ∀ call, head = call → call ∈ rest → 2 ≤ (head :: rest).count call := by
      rintro call rfl later
      rw [List.count_cons_self]
      exact Nat.succ_le_succ (List.count_pos_iff.mpr later)
    cases inOrder with
    | cons_cons _ secondLater =>
      cases reversed with
      | cons_cons _ firstLater => exact .inl (twice _ rfl (List.singleton_sublist.mp firstLater))
      | cons _ pair => exact .inl (twice _ rfl (pair.subset (by simp)))
    | cons _ pair =>
      cases reversed with
      | cons_cons _ _ => exact .inr (twice _ rfl (pair.subset (by simp)))
      | cons _ reversedPair =>
        refine (inductionHypothesis pair reversedPair).imp ?_ ?_ <;>
          exact fun both => both.trans List.count_le_count_cons

namespace Course.Serves

variable [NameHash] {owed due : List Call} {course past rest : List Moment} {first second : Call}

/-- What is due in the middle of a course. -/
theorem split (serves : Serves owed (past ++ rest) due) :
    ∃ between, Serves owed past between ∧ Serves between rest due := by
  induction past generalizing owed with
  | nil => exact ⟨owed, .done owed, serves⟩
  | cons moment past inductionHypothesis =>
    cases serves with
    | next others =>
      obtain ⟨between, begun, ended⟩ := inductionHypothesis others
      exact ⟨between, .next begun, ended⟩

/-- Of two calls that are due, the first one is made first. -/
theorem inOrder (serves : Serves owed course due) (ordered : [first, second].Sublist owed)
    (once : owed.count second + (course.flatMap Moment.queued).count second ≤ 1)
    (called : second ∈ course.flatMap Moment.loads) :
    [first, second].Sublist (course.flatMap Moment.loads) := by
  induction serves with
  | done due => cases called
  | @next moment rest waiting later others inductionHypothesis =>
    rw [List.flatMap_cons, List.count_append, List.count_append] at once
    rw [List.flatMap_cons] at called ⊢
    -- A call that waits behind those made here is not one of them, as it is due only once.
    have notHere : second ∈ waiting → second ∈ rest.flatMap Moment.loads := by
      intro waits
      refine (List.mem_append.mp called).resolve_left fun here => ?_
      have := List.count_pos_iff.mpr here
      have := List.count_pos_iff.mpr waits
      omega
    obtain ⟨made, left, both, madeHere, leftWaiting⟩ := List.sublist_append_iff.mp ordered
    rcases made with _ | ⟨head, _ | ⟨next, more⟩⟩
    · cases both
      have served := inductionHypothesis (leftWaiting.trans (List.sublist_append_right _ _))
        (by rw [List.count_append]; omega) (notHere (leftWaiting.subset (by simp)))
      exact served.trans (List.sublist_append_right _ _)
    · cases both
      have waits := List.singleton_sublist.mp leftWaiting
      exact madeHere.append (List.singleton_sublist.mpr (notHere waits))
    · simp only [List.cons_append, List.cons.injEq, List.nil_eq_append_iff] at both
      obtain ⟨rfl, rfl, rfl, rfl⟩ := both
      exact madeHere.trans (List.sublist_append_left _ _)

/-- What has been called is what was owed or became due. -/
theorem count_loads_le (serves : Serves owed course due) (call : Call) :
    (course.flatMap Moment.loads).count call ≤
      owed.count call + (course.flatMap Moment.queued).count call := by
  have balance := serves.balance call
  omega

variable {moment : Moment}

/-- A deed that makes hooks due calls none. -/
theorem loads_of_queued (queued : second ∈ moment.queued) : moment.loads = [] := by
  obtain ⟨before, deed, after⟩ := moment
  cases deed with
  | changed => rfl
  | refused | began | finished | called | noted | rested => cases queued

/-- A call that has overtaken another is made before it. -/
theorem reversed (serves : Serves [] course due) (overtakes : Overtakes course second first)
    (once : (course.flatMap Moment.queued).count first ≤ 1)
    (called : first ∈ course.flatMap Moment.loads) :
    [second, first].Sublist (course.flatMap Moment.loads) := by
  obtain ⟨past, moment, rest, rfl, queued, waits, uncalled⟩ := overtakes
  obtain ⟨between, begun, ended⟩ := serves.split
  have balance := begun.balance first
  have unmade := List.count_eq_zero_of_not_mem uncalled
  have due := List.count_pos_iff.mpr waits
  cases ended with
  | @next _ _ others _ further =>
    rw [loads_of_queued queued, List.nil_append] at balance
    simp only [List.flatMap_append, List.flatMap_cons, List.count_append, List.count_nil,
      List.mem_append, loads_of_queued queued, List.nil_append] at once called balance ⊢
    have among : first ∈ others := List.count_pos_iff.mp (by omega)
    have ordered : [second, first].Sublist (moment.queued ++ others) :=
      (List.singleton_sublist.mpr queued).append (List.singleton_sublist.mpr among)
    have made := further.inOrder ordered (by rw [List.count_append]; omega)
      (called.resolve_left uncalled)
    exact made.trans (List.sublist_append_right _ _)

/-- A call that became due after another one, and has not overtaken it, is made after it. -/
theorem kept (serves : Serves [] course due)
    (ordered : [first, second].Sublist (course.flatMap Moment.queued))
    (once : (course.flatMap Moment.queued).count second ≤ 1)
    (called : second ∈ course.flatMap Moment.loads) (fair : ¬ Overtakes course second first) :
    [first, second].Sublist (course.flatMap Moment.loads) := by
  obtain ⟨past, moment, rest, rfl, queued, earlier⟩ := exists_part_of_pair ordered
  obtain ⟨between, begun, ended⟩ := serves.split
  have here := List.count_pos_iff.mpr queued
  have before := begun.count_loads_le second
  cases ended with
  | @next _ _ others _ further =>
    have balance := begun.balance second
    simp only [List.flatMap_append, List.flatMap_cons, List.count_append, List.count_nil,
      List.mem_append, loads_of_queued queued, List.nil_append] at once called before balance ⊢
    have made := called.resolve_left fun early => by
      have := List.count_pos_iff.mpr early
      omega
    rcases earlier with waited | together
    · have finished : first ∈ past.flatMap Moment.loads := by
        by_contra uncalled
        exact fair ⟨past, moment, rest, rfl, queued, waited, uncalled⟩
      exact (List.singleton_sublist.mpr finished).append (List.singleton_sublist.mpr made)
    · have served := further.inOrder (together.trans (List.sublist_append_left _ others))
        (by rw [List.count_append]; omega) made
      exact served.trans (List.sublist_append_right _ _)

/-- Of two calls that became due in order, the second one is made first exactly if it has
    overtaken the first one. -/
theorem inOrder_iff (serves : Serves [] course due)
    (ordered : [first, second].Sublist (course.flatMap Moment.queued))
    (firstOnce : (course.flatMap Moment.queued).count first ≤ 1)
    (secondOnce : (course.flatMap Moment.queued).count second ≤ 1)
    (firstCalled : first ∈ course.flatMap Moment.loads)
    (secondCalled : second ∈ course.flatMap Moment.loads) :
    [first, second].Sublist (course.flatMap Moment.loads) ↔ ¬ Overtakes course second first := by
  refine ⟨fun inOrder overtakes => ?_, serves.kept ordered secondOnce secondCalled⟩
  have twice := two_le_count_of_pairs inOrder (serves.reversed overtakes firstOnce firstCalled)
  have firstMade := serves.count_loads_le first
  have secondMade := serves.count_loads_le second
  rw [List.count_nil] at firstMade secondMade
  omega

end Course.Serves

end LateBinding
