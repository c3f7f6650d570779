import LateBinding.Proofs.Ascent
import LateBinding.Proofs.Changes

/-!
# How a walk along superclass names ends

From a class, superclass names lead to one class after another. This comes to an end at a
class that declares no superclass or at a name that nobody registered, or it never does.
`follow` takes the steps one by one and does not look back, so the three cases are described
without a bound and without a list of the classes passed.

The chain of a class tells the cases apart. It stops at the first class that it meets again.
That class lies on a cycle, which the class it started from need not do. `Walks` is the walk
that the chain makes, but with nothing to end it except what it finds. No class is passed
twice, so there are no more steps than classes, and the bound on the chain is never what ends
it.
-/

namespace LateBinding.Registry

/-- The class that so many superclass names lead to, one after the other. -/
def follow (registry : Registry) (id : ClassId) : (steps : Nat) → Option ClassId
  | 0 => some id
  | steps + 1 => (registry.follow id steps).bind registry.declaredSuper?

/-- The names lead to a class without a superclass, by way of these classes. -/
def Rises (registry : Registry) (id : ClassId) (path : List ClassId) : Prop :=
  ∃ steps top, registry.follow id steps = some top ∧ (registry.entry top).superName = none ∧
    path.map some = (List.range (steps + 1)).map (registry.follow id)

/-- The names lead to one that nobody registered. -/
def Breaks (registry : Registry) (id : ClassId) (missing : String) : Prop :=
  ∃ steps last, registry.follow id steps = some last ∧
    (registry.entry last).superName = some missing ∧ registry.find? missing = none

/-- The names lead back to a class, and to no class twice before that. -/
def Returns (registry : Registry) (id target : ClassId) : Prop :=
  ∃ first again, first < again ∧ registry.follow id first = some target ∧
    registry.follow id again = some target ∧
    ∀ early late, early < late → late < again →
      registry.follow id early ≠ registry.follow id late

/-- The names lead on for ever. -/
def Endless (registry : Registry) (id : ClassId) : Prop :=
  ∀ steps, (registry.follow id steps).isSome = true

/-- A walk that started at `origin` and goes on from `current`, the last of the `passed`
    classes, has this result. -/
inductive Walks (registry : Registry) (origin : ClassId) :
    List ClassId → ClassId → Except Error (List ClassId) → Prop
  | root {passed : List ClassId} {current : ClassId}
      (declared : (registry.entry current).superName = none) :
      Walks registry origin passed current (.ok passed.reverse)
  | missing {passed : List ClassId} {current : ClassId} {name : String}
      (declared : (registry.entry current).superName = some name)
      (unknown : registry.find? name = none) :
      Walks registry origin passed current
        (.error (.unresolvedSuperclass (registry.entry origin).name name))
  | again {passed : List ClassId} {current next : ClassId} {name : String}
      (declared : (registry.entry current).superName = some name)
      (found : registry.find? name = some next) (met : next ∈ passed) :
      Walks registry origin passed current (.error (.inheritanceCycle name))
  | step {passed : List ClassId} {current next : ClassId} {name : String}
      {result : Except Error (List ClassId)}
      (declared : (registry.entry current).superName = some name)
      (found : registry.find? name = some next) (fresh : next ∉ passed)
      (further : Walks registry origin (next :: passed) next result) :
      Walks registry origin passed current result

variable {registry : Registry} {id : ClassId}

/-- What the walk finds at each class decides how it goes on, so it has one result at most. -/
theorem Walks.unique {origin current : ClassId} {passed : List ClassId}
    {result other : Except Error (List ClassId)}
    (walks : registry.Walks origin passed current result)
    (second : registry.Walks origin passed current other) : result = other := by
  induction walks generalizing other with
  | root declared => cases second <;> simp_all
  | missing declared unknown => cases second <;> simp_all
  | again declared found met => cases second <;> simp_all
  | step declared found fresh _ inductionHypothesis =>
    cases second with
    | root otherDeclared => simp_all
    | missing otherDeclared unknown => simp_all
    | again otherDeclared otherFound met => simp_all
    | step otherDeclared otherFound _ further =>
      rw [declared, Option.some.injEq] at otherDeclared
      subst otherDeclared
      rw [found, Option.some.injEq] at otherFound
      subst otherFound
      exact inductionHypothesis further

/-- Where all classes have been passed, the next one has been passed as well. -/
theorem mem_of_full {passed : List ClassId} (distinct : passed.Nodup)
    (inside : ∀ known ∈ passed, known < registry.size) (full : registry.size ≤ passed.length)
    {next : ClassId} (registered : next < registry.size) : next ∈ passed := by
  have subset : passed.toFinset ⊆ Finset.range registry.size := by
    intro known member
    exact Finset.mem_range.mpr (inside known (List.mem_toFinset.mp member))
  have count : (Finset.range registry.size).card ≤ passed.toFinset.card := by
    rwa [Finset.card_range, List.toFinset_card_of_nodup distinct]
  have all := Finset.eq_of_subset_of_card_le subset count
  exact List.mem_toFinset.mp (all ▸ Finset.mem_range.mpr registered)

/-- A walk with room for every class that has not been passed finds what it would find with
    no bound at all. -/
theorem walks_walk (indexed : registry.Indexed) (origin : ClassId) {room : Nat}
    {passed : List ClassId} {current : ClassId} (distinct : passed.Nodup)
    (inside : ∀ known ∈ passed, known < registry.size)
    (enough : registry.size ≤ passed.length + room) :
    registry.Walks origin passed current (registry.walk origin room passed current) := by
  induction room generalizing passed current with
  | zero =>
    rw [walk]
    split
    · rename_i declared
      exact .root declared
    · rename_i name declared
      split
      · rename_i unknown
        exact .missing declared unknown
      -- All classes have been passed, so a name that is found leads to one of them.
      · rename_i next found
        have met : next ∈ passed :=
          mem_of_full distinct inside enough ((indexed name next).mp found).1
        rw [if_pos met]
        exact .again declared found met
  | succ room inductionHypothesis =>
    rw [walk]
    split
    · rename_i declared
      exact .root declared
    · rename_i name declared
      split
      · rename_i unknown
        exact .missing declared unknown
      · rename_i next found
        split
        · rename_i met
          exact .again declared found met
        · rename_i fresh
          refine .step declared found fresh (inductionHypothesis ?_ ?_ ?_)
          · exact List.nodup_cons.mpr ⟨fresh, distinct⟩
          · intro known member
            rcases List.mem_cons.mp member with rfl | before
            · exact ((indexed name known).mp found).1
            · exact inside known before
          · rw [List.length_cons]
            omega

/-- The chain of a class is the result of its walk. -/
theorem walks_chain (indexed : registry.Indexed) (inside : id < registry.size) :
    registry.Walks id [id] id (registry.chain id) := by
  apply walks_walk indexed id (List.nodup_singleton id)
  · intro known member
    rw [List.mem_singleton] at member
    exact member ▸ inside
  · rw [List.length_singleton]
    omega

/-- Steps can be taken in two parts. -/
theorem follow_add (id : ClassId) (steps more : Nat) :
    registry.follow id (steps + more) =
      (registry.follow id steps).bind fun between => registry.follow between more := by
  induction more with
  | zero => cases registry.follow id steps <;> rfl
  | succ more inductionHypothesis =>
    change (registry.follow id (steps + more)).bind registry.declaredSuper? = _
    rw [inductionHypothesis, Option.bind_assoc]
    rfl

/-- Once the names have led nowhere they lead nowhere for good. -/
theorem follow_eq_none_of_le {steps later : Nat} (ended : registry.follow id steps = none)
    (le : steps ≤ later) : registry.follow id later = none := by
  obtain ⟨more, rfl⟩ := Nat.exists_eq_add_of_le le
  rw [follow_add, ended, Option.bind_none]

/-- Where the names lead no further is one more than the number of steps that can be taken. -/
theorem follow_isSome_iff {steps : Nat} {last : ClassId}
    (arrived : registry.follow id steps = some last)
    (ends : registry.declaredSuper? last = none) (count : Nat) :
    (registry.follow id count).isSome = true ↔ count ≤ steps := by
  have ended : registry.follow id (steps + 1) = none := by
    rw [follow, arrived, Option.bind_some, ends]
  constructor
  · intro present
    by_contra beyond
    rw [follow_eq_none_of_le ended (by omega)] at present
    cases present
  · intro le
    by_contra absent
    rw [Option.not_isSome_iff_eq_none] at absent
    rw [follow_eq_none_of_le absent le] at arrived
    cases arrived

/-- The names lead no further in one place only. -/
theorem last_unique {steps other : Nat} {last otherLast : ClassId}
    (arrived : registry.follow id steps = some last)
    (ends : registry.declaredSuper? last = none)
    (otherArrived : registry.follow id other = some otherLast)
    (otherEnds : registry.declaredSuper? otherLast = none) : steps = other ∧ last = otherLast := by
  have forward := (follow_isSome_iff arrived ends other).mp (by rw [otherArrived]; rfl)
  have backward := (follow_isSome_iff otherArrived otherEnds steps).mp (by rw [arrived]; rfl)
  have same : steps = other := by omega
  subst same
  rw [arrived, Option.some.injEq] at otherArrived
  exact ⟨rfl, otherArrived⟩

/-- A class that declares no superclass leads to none. -/
theorem declaredSuper?_of_root {top : ClassId} (declared : (registry.entry top).superName = none) :
    registry.declaredSuper? top = none := by
  rw [declaredSuper?, declared, Option.bind_none]

/-- Neither does one that declares a name nobody has registered. -/
theorem declaredSuper?_of_missing {last : ClassId} {missing : String}
    (declared : (registry.entry last).superName = some missing)
    (unknown : registry.find? missing = none) : registry.declaredSuper? last = none := by
  rw [declaredSuper?, declared, Option.bind_some, unknown]

/-- Names lead to a root in one way. -/
theorem Rises.unique {path other : List ClassId} (rises : registry.Rises id path)
    (second : registry.Rises id other) : path = other := by
  obtain ⟨steps, top, arrived, root, passes⟩ := rises
  obtain ⟨otherSteps, otherTop, otherArrived, otherRoot, otherPasses⟩ := second
  obtain ⟨rfl, -⟩ := last_unique arrived (declaredSuper?_of_root root) otherArrived
    (declaredSuper?_of_root otherRoot)
  exact List.map_injective_iff.mpr (Option.some_injective _) (passes.trans otherPasses.symm)

/-- Where they do, they do not break off. -/
theorem Rises.not_breaks {path : List ClassId} (rises : registry.Rises id path) {missing : String} :
    ¬ registry.Breaks id missing := by
  rintro ⟨steps, last, arrived, declared, unknown⟩
  obtain ⟨otherSteps, top, otherArrived, root, -⟩ := rises
  obtain ⟨-, rfl⟩ := last_unique arrived (declaredSuper?_of_missing declared unknown) otherArrived
    (declaredSuper?_of_root root)
  rw [root] at declared
  cases declared

/-- They break off at one name. -/
theorem Breaks.unique {missing other : String} (breaks : registry.Breaks id missing)
    (second : registry.Breaks id other) : missing = other := by
  obtain ⟨steps, last, arrived, declared, unknown⟩ := breaks
  obtain ⟨otherSteps, otherLast, otherArrived, otherDeclared, otherUnknown⟩ := second
  obtain ⟨-, rfl⟩ := last_unique arrived (declaredSuper?_of_missing declared unknown) otherArrived
    (declaredSuper?_of_missing otherDeclared otherUnknown)
  rw [declared, Option.some.injEq] at otherDeclared
  exact otherDeclared

/-- Where they lead to a root, they end. -/
theorem Rises.not_endless {path : List ClassId} (rises : registry.Rises id path) :
    ¬ registry.Endless id := by
  obtain ⟨steps, top, arrived, root, -⟩ := rises
  intro endless
  have beyond := (follow_isSome_iff arrived (declaredSuper?_of_root root) (steps + 1)).mp
    (endless (steps + 1))
  omega

/-- Where they break off, they end, too. -/
theorem Breaks.not_endless {missing : String} (breaks : registry.Breaks id missing) :
    ¬ registry.Endless id := by
  obtain ⟨steps, last, arrived, declared, unknown⟩ := breaks
  intro endless
  have beyond := (follow_isSome_iff arrived (declaredSuper?_of_missing declared unknown)
    (steps + 1)).mp (endless (steps + 1))
  omega

/-- A class that the names lead back to lies on a cycle. -/
theorem Returns.cycle {target : ClassId} (returns : registry.Returns id target) :
    ∃ period, 0 < period ∧ registry.follow target period = some target := by
  obtain ⟨first, again, before, left, met, -⟩ := returns
  refine ⟨again - first, by omega, ?_⟩
  have split := registry.follow_add id first (again - first)
  rw [Nat.add_sub_cancel' before.le, left, Option.bind_some, met] at split
  exact split.symm

/-- Names that lead to one class twice lead on for ever. -/
theorem endless_of_follow_eq {first again : Nat} {target : ClassId} (before : first < again)
    (left : registry.follow id first = some target)
    (met : registry.follow id again = some target) : registry.Endless id := by
  -- The steps after the return repeat those after the first visit.
  have repeats : ∀ more, registry.follow id (first + more) = registry.follow id (again + more) := by
    intro more
    rw [follow_add, left, follow_add, met]
  intro steps
  induction steps using Nat.strong_induction_on with
  | _ steps inductionHypothesis =>
    rcases Nat.lt_or_ge steps again with early | late
    · by_contra absent
      rw [Option.not_isSome_iff_eq_none] at absent
      rw [follow_eq_none_of_le absent early.le] at met
      cases met
    · have sooner := inductionHypothesis (first + (steps - again)) (by omega)
      rw [repeats, Nat.add_sub_cancel' late] at sooner
      exact sooner

/-- Where they return, they do not end. -/
theorem Returns.endless {target : ClassId} (returns : registry.Returns id target) :
    registry.Endless id := by
  obtain ⟨first, again, before, left, met, -⟩ := returns
  exact endless_of_follow_eq before left met

/-- A path to a root meets no class twice. -/
theorem Rises.nodup {path : List ClassId} (rises : registry.Rises id path) : path.Nodup := by
  have finite := rises.not_endless
  obtain ⟨steps, top, arrived, root, passes⟩ := rises
  apply List.Nodup.of_map some
  rw [passes]
  refine List.Nodup.map_on ?_ List.nodup_range
  intro early earlyInside late lateInside same
  have within : early ≤ steps := Nat.le_of_lt_succ (List.mem_range.mp earlyInside)
  obtain ⟨target, left⟩ := Option.isSome_iff_exists.mp
    ((follow_isSome_iff arrived (declaredSuper?_of_root root) early).mpr within)
  have met := same.symm.trans left
  rcases Nat.lt_trichotomy early late with before | equal | after
  · exact absurd (endless_of_follow_eq before left met) finite
  · exact equal
  · exact absurd (endless_of_follow_eq after met left) finite

/-- They return to one class first. -/
theorem Returns.unique {target other : ClassId} (returns : registry.Returns id target)
    (second : registry.Returns id other) : target = other := by
  obtain ⟨first, again, before, left, met, fresh⟩ := returns
  obtain ⟨otherFirst, otherAgain, otherBefore, otherLeft, otherMet, otherFresh⟩ := second
  have same : again = otherAgain := by
    rcases Nat.lt_trichotomy again otherAgain with sooner | same | later
    · exact absurd (left.trans met.symm) (otherFresh first again before sooner)
    · exact same
    · exact absurd (otherLeft.trans otherMet.symm) (fresh otherFirst otherAgain otherBefore later)
  subst same
  rw [met, Option.some.injEq] at otherMet
  exact otherMet

/-- The classes passed, the last one first, are those that the names lead to, and none of
    them twice. -/
structure Trail (registry : Registry) (id : ClassId) (passed : List ClassId) (current : ClassId) :
    Prop where
  steps : passed.reverse.map some = (List.range passed.length).map (registry.follow id)
  here : ∃ before, passed = current :: before
  distinct : passed.Nodup

/-- A trail starts at the class itself. -/
theorem trail_start (id : ClassId) : registry.Trail id [id] id :=
  ⟨rfl, ⟨[], rfl⟩, List.nodup_singleton id⟩

namespace Trail

variable {passed : List ClassId} {current : ClassId}

/-- The place of a step among the classes passed. -/
theorem getElem? (trail : registry.Trail id passed current) {steps : Nat}
    (inside : steps < passed.length) : passed.reverse[steps]? = registry.follow id steps := by
  have same := congrArg (fun row => row[steps]?) trail.steps
  simp only [List.getElem?_map, List.getElem?_range inside, Option.map_some] at same
  cases found : passed.reverse[steps]? with
  | none =>
    rw [found] at same
    cases same
  | some known =>
    rw [found, Option.map_some, Option.some.injEq] at same
    exact same

/-- The class that a trail has come to is the one that its steps lead to. -/
theorem arrived (trail : registry.Trail id passed current) :
    registry.follow id (passed.length - 1) = some current := by
  obtain ⟨before, rfl⟩ := trail.here
  rw [← trail.getElem? (by simp)]
  simp

/-- One more name leads on from the last class passed. -/
theorem follow_length (trail : registry.Trail id passed current) :
    registry.follow id passed.length = registry.declaredSuper? current := by
  have arrived := trail.arrived
  obtain ⟨before, rfl⟩ := trail.here
  rw [List.length_cons, Nat.add_sub_cancel] at arrived
  rw [List.length_cons, follow, arrived, Option.bind_some]

/-- Classes passed at different steps differ. -/
theorem follow_ne (trail : registry.Trail id passed current) {early late : Nat}
    (before : early < late) (inside : late < passed.length) :
    registry.follow id early ≠ registry.follow id late := by
  rw [← trail.getElem? inside, ← trail.getElem? (before.trans inside)]
  intro same
  have shorter : early < passed.reverse.length := by simpa using before.trans inside
  have equal := (List.getElem?_inj shorter (List.nodup_reverse.mpr trail.distinct)).mp same
  omega

/-- A trail goes on to a class that it has not passed. -/
theorem step (trail : registry.Trail id passed current) {next : ClassId}
    (leads : registry.declaredSuper? current = some next) (fresh : next ∉ passed) :
    registry.Trail id (next :: passed) next where
  steps := by
    rw [List.reverse_cons, List.map_append, trail.steps, List.length_cons, List.range_succ,
      List.map_append, List.map_singleton, List.map_singleton, trail.follow_length, leads]
  here := ⟨passed, rfl⟩
  distinct := List.nodup_cons.mpr ⟨fresh, trail.distinct⟩

end Trail

/-- What a result says of where the names lead. -/
def Reports (registry : Registry) (id : ClassId) : Except Error (List ClassId) → Prop
  | .ok path => registry.Rises id path
  | .error (.unresolvedSuperclass name missing) =>
    name = (registry.entry id).name ∧ registry.Breaks id missing
  | .error (.inheritanceCycle name) =>
    ∃ target, registry.Returns id target ∧ (registry.entry target).name = name
  | .error _ => False

/-- The three ways to end exclude one another, and each has one result. -/
theorem Reports.unique {result other : Except Error (List ClassId)}
    (reports : registry.Reports id result) (second : registry.Reports id other) :
    result = other := by
  unfold Reports at reports second
  split at reports <;> split at second
  · rw [reports.unique second]
  · exact absurd second.2 reports.not_breaks
  · obtain ⟨target, returns, -⟩ := second
    exact absurd returns.endless reports.not_endless
  · exact second.elim
  · exact absurd reports.2 second.not_breaks
  · rw [reports.1, second.1, reports.2.unique second.2]
  · obtain ⟨target, returns, -⟩ := second
    exact absurd returns.endless reports.2.not_endless
  · exact second.elim
  · obtain ⟨target, returns, -⟩ := reports
    exact absurd returns.endless second.not_endless
  · obtain ⟨target, returns, -⟩ := reports
    exact absurd returns.endless second.2.not_endless
  · obtain ⟨target, returns, named⟩ := reports
    obtain ⟨otherTarget, again, otherNamed⟩ := second
    rw [← named, ← otherNamed, returns.unique again]
  · exact second.elim
  all_goals exact reports.elim

/-- A walk says truly where the names lead: at each of its ends it has passed just the classes
    that they lead to. -/
theorem Walks.reports (indexed : registry.Indexed) {passed : List ClassId} {current : ClassId}
    {result : Except Error (List ClassId)} (walks : registry.Walks id passed current result)
    (trail : registry.Trail id passed current) : registry.Reports id result := by
  induction walks with
  | @root passed current declared =>
    refine ⟨passed.length - 1, current, trail.arrived, declared, ?_⟩
    obtain ⟨before, rfl⟩ := trail.here
    exact trail.steps
  | missing declared unknown => exact ⟨rfl, _, _, trail.arrived, declared, unknown⟩
  | @again passed current next name declared found met =>
    have leads : registry.declaredSuper? current = some next := by
      rw [declaredSuper?, declared, Option.bind_some, found]
    obtain ⟨first, inside, seen⟩ := List.mem_iff_getElem.mp (List.mem_reverse.mpr met)
    rw [List.length_reverse] at inside
    refine ⟨next, ⟨first, passed.length, inside, ?_, ?_, ?_⟩, ((indexed name next).mp found).2⟩
    · rw [← trail.getElem? inside, ← seen, List.getElem?_eq_getElem]
    · rw [trail.follow_length, leads]
    · intro early late before sooner
      exact trail.follow_ne before sooner
  | step declared found fresh _ inductionHypothesis =>
    refine inductionHypothesis (trail.step ?_ fresh)
    rw [declaredSuper?, declared, Option.bind_some, found]

/-- The chain of a class reports where its names lead. -/
theorem chain_reports (indexed : registry.Indexed) (inside : id < registry.size) :
    registry.Reports id (registry.chain id) :=
  (walks_chain indexed inside).reports indexed (trail_start id)

/-- The chain of a class is the one result that says where its names lead. -/
theorem chain_eq_iff (indexed : registry.Indexed) (inside : id < registry.size)
    (result : Except Error (List ClassId)) :
    registry.chain id = result ↔ registry.Reports id result :=
  ⟨fun same => same ▸ chain_reports indexed inside,
    fun reports => (chain_reports indexed inside).unique reports⟩

/-- Names that never end are those that come back somewhere. -/
theorem endless_iff (indexed : registry.Indexed) (inside : id < registry.size) :
    registry.Endless id ↔ ∃ name, registry.chain id = .error (.inheritanceCycle name) := by
  constructor
  · intro endless
    have reports := chain_reports indexed inside
    generalize registry.chain id = result at reports
    unfold Reports at reports
    split at reports
    · exact absurd endless reports.not_endless
    · exact absurd endless reports.2.not_endless
    · exact ⟨_, rfl⟩
    · exact reports.elim
  · rintro ⟨name, refused⟩
    obtain ⟨target, returns, -⟩ := (chain_eq_iff indexed inside _).mp refused
    exact returns.endless

/-- Where names and numbers agree, the chain of a class comes to an end without its bound and
    says where the superclass names lead. It is the path to a root exactly if there is a root at
    the end, and no class is on it twice. It refuses a missing name exactly if that is where the
    names end, on behalf of the class it started from. It refuses a cycle exactly if the names
    never end, and names the first class that is met twice, which lies on the cycle. -/
theorem chain_exact (indexed : registry.Indexed) (inside : id < registry.size) :
    (∀ result, registry.Walks id [id] id result ↔ registry.chain id = result) ∧
    (∀ path, registry.chain id = .ok path ↔ registry.Rises id path) ∧
    (∀ path, registry.chain id = .ok path → path.Nodup) ∧
    (∀ name missing, registry.chain id = .error (.unresolvedSuperclass name missing) ↔
      name = (registry.entry id).name ∧ registry.Breaks id missing) ∧
    ((∃ name, registry.chain id = .error (.inheritanceCycle name)) ↔ registry.Endless id) ∧
    (∀ name, registry.chain id = .error (.inheritanceCycle name) ↔
      ∃ target, registry.Returns id target ∧ (registry.entry target).name = name) ∧
    ∀ target, registry.Returns id target →
      ∃ period, 0 < period ∧ registry.follow target period = some target := by
  have walks := walks_chain indexed inside
  have exactly := chain_eq_iff indexed inside
  refine ⟨?_, fun path => exactly (.ok path), ?_, fun name missing => exactly (.error _),
    (endless_iff indexed inside).symm, fun name => exactly (.error _), ?_⟩
  · intro result
    exact ⟨fun second => walks.unique second, fun same => same ▸ walks⟩
  · intro path chained
    exact Rises.nodup ((exactly (.ok path)).mp chained)
  · intro target returns
    exact returns.cycle

/-- A class whose names lead into a cycle that it is not on itself: the class reported is the
    first one on the cycle. Beside it there are a class on the way to a root and one whose
    superclass is missing. -/
theorem chain_exact_of_tail : ∃ registry : Registry,
    registry.names = ["Tail", "Ring", "Link", "Leaf", "Base", "Lost"] ∧
    registry.chain 0 = .error (.inheritanceCycle "Ring") ∧ registry.Endless 0 ∧
    (∃ target, registry.Returns 0 target ∧ (registry.entry target).name = "Ring") ∧
    registry.Rises 3 [3, 4] ∧ registry.Breaks 5 "Nobody" := by
  let declare (registry : Registry) (name : String) (superName : Option String) : Registry :=
    registry.push (.declared name superName 0 (.both []))
  let tail := declare .empty "Tail" (some "Ring")
  let ring := declare tail "Ring" (some "Link")
  let link := declare ring "Link" (some "Ring")
  let leaf := declare link "Leaf" (some "Base")
  let base := declare leaf "Base" none
  let registry := declare base "Lost" (some "Nobody")
  have indexedTail : tail.Indexed := indexed_empty.push (by decide)
  have indexedRing : ring.Indexed := indexedTail.push (by decide)
  have indexedLink : link.Indexed := indexedRing.push (by decide)
  have indexedLeaf : leaf.Indexed := indexedLink.push (by decide)
  have indexedBase : base.Indexed := indexedLeaf.push (by decide)
  have indexed : registry.Indexed := indexedBase.push (by decide)
  have looped : registry.chain 0 = .error (.inheritanceCycle "Ring") := by decide
  have rooted : registry.chain 3 = .ok [3, 4] := by decide
  have lost : registry.chain 5 = .error (.unresolvedSuperclass "Lost" "Nobody") := by decide
  obtain ⟨-, -, -, -, endless, cycles, -⟩ := chain_exact indexed (by decide : 0 < registry.size)
  obtain ⟨-, rises, -⟩ := chain_exact indexed (by decide : 3 < registry.size)
  obtain ⟨-, -, -, breaks, -⟩ := chain_exact indexed (by decide : 5 < registry.size)
  exact ⟨registry, by decide, looped, endless.mp ⟨"Ring", looped⟩, (cycles "Ring").mp looped,
    (rises [3, 4]).mp rooted, ((breaks "Lost" "Nobody").mp lost).2⟩

end LateBinding.Registry
