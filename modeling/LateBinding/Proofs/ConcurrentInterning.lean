import LateBinding.Proofs.Interning
import Mathlib.Data.List.Dedup

/-!
# Interning by several callers at once

A call takes one step or two. The first only reads: a signature that is found is the answer.
A call that found nothing takes a second step, which looks again and adds the signature if it
is still missing. Steps of different calls come in any order, and between the two steps of
one call others may add the same signature, move all selectors to new buckets, or use up the
last selector.

The law is that a race looks as if every call had been made whole, at the moment of its last
step. A first step that finds nothing changes nothing, so it can be left out; a second step
looks again, so it does what a whole call would do there. The order of last steps is read off
the order of all steps, by keeping the last one of each call.
-/

namespace LateBinding.SelectorTable

variable {hash : String → Nat} {table first : SelectorTable hash}

/-- What is given to callers that come one after the other, and the table after the last. -/
def internAll (table : SelectorTable hash) :
    List Signature → List (Except Failure Selector) × SelectorTable hash
  | [] => ([], table)
  | signature :: rest =>
    let interned := table.intern signature
    let (results, last) := interned.table.internAll rest
    (interned.result :: results, last)

/-- A table that has come about by interning. -/
def Reachable (table : SelectorTable hash) : Prop :=
  ∃ buckets load limit fresh signatures, create buckets load limit = .ok fresh ∧
    (fresh.internAll signatures).2 = table

/-- Looking once more before adding makes no difference when nothing happens in between. -/
theorem claim_eq_intern (table : SelectorTable hash) (signature : Signature) :
    table.claim signature = table.intern signature := by
  unfold intern
  split
  · rename_i found
    simp only [claim, found]
  · rfl

/-- A lawful table stays lawful when signatures are interned in turn. -/
theorem Lawful.internAll (lawful : table.Lawful) (signatures : List Signature) :
    (table.internAll signatures).2.Lawful := by
  induction signatures generalizing table with
  | nil => exact lawful
  | cons signature rest inductionHypothesis => exact inductionHypothesis (lawful.intern signature)

/-- Tables that can be reached are lawful. -/
theorem Reachable.lawful (reachable : table.Reachable) : table.Lawful := by
  obtain ⟨buckets, load, limit, fresh, signatures, created, rfl⟩ := reachable
  obtain ⟨count, roomy, rfl⟩ := create_cases created
  exact (lawful_empty roomy load limit).internAll signatures

/-- A lawful table has every signature once. -/
theorem Lawful.nodup (lawful : table.Lawful) : table.signatures.toList.Nodup := by
  rw [List.nodup_iff_injective_getElem]
  intro place other same
  have found : table.resolve? place.1 = some table.signatures.toList[place] := by
    simp [resolve?]
  have otherFound : table.resolve? other.1 = some table.signatures.toList[place] := by
    simp [resolve?, same]
  exact Fin.ext (lawful.distinct _ _ _ found otherFound)

/-- Callers that come later change none of the selectors given before. -/
theorem extends_internAll (table : SelectorTable hash) (signatures : List Signature) :
    table.Extends (table.internAll signatures).2 := by
  induction signatures generalizing table with
  | nil => exact .refl table
  | cons signature rest inductionHypothesis =>
    exact (extends_intern signature).trans (inductionHypothesis _)

/-- A selector that one of several callers was given stands for its signature afterwards. -/
theorem resolve?_internAll {signatures : List Signature} {place : Nat} {signature : Signature}
    {selector : Selector} (asked : signatures[place]? = some signature)
    (given : (table.internAll signatures).1[place]? = some (.ok selector)) :
    (table.internAll signatures).2.resolve? selector = some signature := by
  induction signatures generalizing table place with
  | nil => cases asked
  | cons head rest inductionHypothesis =>
    cases place with
    | zero =>
      cases asked
      exact extends_internAll _ rest selector signature (resolve?_intern (Option.some.inj given))
    | succ place => exact inductionHypothesis asked given

/-- The number of a call. -/
abbrev CallId := Nat

/-- How far a call has got. -/
inductive CallPhase where
  | started
  /-- The call has read the table and found nothing. -/
  | missed
  | returned (result : Except Failure Selector)

/-- Whether a call has its answer. -/
def CallPhase.isReturned : CallPhase → Bool
  | .returned _ => true
  | _ => false

/-- A table and the calls that are under way. -/
structure Race (hash : String → Nat) where
  table : SelectorTable hash
  phase : CallId → CallPhase

namespace Race

variable {asked : CallId → Signature} {race next last : Race hash}

/-- No call has taken a step. -/
def start (table : SelectorTable hash) : Race hash := ⟨table, fun _ => .started⟩

/-- The race in which a call has got further. -/
def proceed (race : Race hash) (call : CallId) (phase : CallPhase) : Race hash :=
  { race with phase := fun other => if other = call then phase else race.phase other }

/-- The next step of a call, which asks for a signature. A call that has returned takes none. -/
def step? (asked : CallId → Signature) (race : Race hash) (call : CallId) : Option (Race hash) :=
  match race.phase call with
  | .started =>
    match race.table.find? (asked call) with
    | some selector => some (race.proceed call (.returned (.ok selector)))
    | none => some (race.proceed call .missed)
  | .missed =>
    let claimed := race.table.claim (asked call)
    some { race.proceed call (.returned claimed.result) with table := claimed.table }
  | .returned _ => none

/-- Steps of the given calls, in the given order. -/
def run? (asked : CallId → Signature) (race : Race hash) (moves : List CallId) :
    Option (Race hash) :=
  moves.foldlM (step? asked) race

/-- The calls that have returned, in the order of their last steps. -/
def order (race : Race hash) (moves : List CallId) : List CallId :=
  moves.dedup.filter fun call => (race.phase call).isReturned

/-- What a step does: it finds nothing and changes nothing but the phase of its call, or it is
    the last step of the call and does what the whole call would do. -/
theorem step?_cases {call : CallId} (stepped : race.step? asked call = some next) :
    (race.phase call).isReturned = false ∧
      (∀ other, other ≠ call → next.phase other = race.phase other) ∧
      ((next.table = race.table ∧ next.phase call = .missed) ∨
        (next.table = (race.table.intern (asked call)).table ∧
          next.phase call = .returned (race.table.intern (asked call)).result)) := by
  unfold step? at stepped
  split at stepped
  · rename_i phase
    rw [phase]
    split at stepped
    · rename_i selector found
      cases stepped
      refine ⟨rfl, fun other different => if_neg different, .inr ?_⟩
      simp [intern, found, proceed]
    · cases stepped
      exact ⟨rfl, fun other different => if_neg different, .inl ⟨rfl, if_pos rfl⟩⟩
  · rename_i phase
    rw [phase]
    cases stepped
    refine ⟨rfl, fun other different => if_neg different, .inr ?_⟩
    rw [← claim_eq_intern]
    exact ⟨rfl, if_pos rfl⟩
  · cases stepped

/-- Only the calls that take steps get further. -/
theorem phase_of_run? {moves : List CallId} (ran : race.run? asked moves = some last)
    {call : CallId} (idle : call ∉ moves) : last.phase call = race.phase call := by
  induction moves generalizing race with
  | nil =>
    cases ran
    rfl
  | cons move rest inductionHypothesis =>
    obtain ⟨between, stepped, further⟩ := Option.bind_eq_some_iff.mp ran
    rw [List.mem_cons, not_or] at idle
    obtain ⟨different, absent⟩ := idle
    rw [inductionHypothesis further absent]
    exact (step?_cases stepped).2.1 call different

/-- A call that has returned takes no more steps. -/
theorem not_mem_of_isReturned {moves : List CallId} (ran : race.run? asked moves = some last)
    {call : CallId} (returned : (race.phase call).isReturned = true) : call ∉ moves := by
  induction moves generalizing race with
  | nil => exact List.not_mem_nil
  | cons move rest inductionHypothesis =>
    obtain ⟨between, stepped, further⟩ := Option.bind_eq_some_iff.mp ran
    obtain ⟨running, others, -⟩ := step?_cases stepped
    have different : call ≠ move := by
      rintro rfl
      rw [running] at returned
      cases returned
    rw [List.mem_cons, not_or]
    exact ⟨different, inductionHypothesis further (others call different ▸ returned)⟩

/-- A race gives what its calls would be given one after the other in the order of their last
    steps, and leaves the table that they would leave. -/
theorem internAll_order {moves : List CallId} (ran : race.run? asked moves = some last) :
    (race.table.internAll ((last.order moves).map asked)).2 = last.table ∧
      (race.table.internAll ((last.order moves).map asked)).1.map .returned =
        (last.order moves).map last.phase := by
  -- The induction is from the first step on, so that a call which returns at once is the first
  -- of the order, and one which does not is left to its later step or has no answer at all.
  induction moves generalizing race with
  | nil =>
    cases ran
    exact ⟨rfl, rfl⟩
  | cons move rest inductionHypothesis =>
    obtain ⟨between, stepped, further⟩ := Option.bind_eq_some_iff.mp ran
    obtain ⟨table, results⟩ := inductionHypothesis further
    obtain ⟨-, -, ⟨unchanged, missed⟩ | ⟨interned, returned⟩⟩ := step?_cases stepped
    · have same : last.order (move :: rest) = last.order rest := by
        unfold order
        by_cases again : move ∈ rest
        · rw [List.dedup_cons_of_mem again]
        · rw [List.dedup_cons_of_notMem again, List.filter_cons_of_neg]
          rw [phase_of_run? further again, missed]
          exact Bool.false_ne_true
      rw [same, ← unchanged]
      exact ⟨table, results⟩
    · have done : (between.phase move).isReturned = true := by
        rw [returned]
        rfl
      have gone := not_mem_of_isReturned further done
      have kept := phase_of_run? further gone
      have leading : last.order (move :: rest) = move :: last.order rest := by
        unfold order
        rw [List.dedup_cons_of_notMem gone, List.filter_cons_of_pos]
        rw [kept]
        exact done
      rw [leading, List.map_cons, List.map_cons, internAll, kept, returned, ← interned]
      exact ⟨table, by rw [List.map_cons, results]⟩

/-- The calls that have returned are those of the order. -/
theorem mem_order_iff {moves : List CallId} (ran : (start first).run? asked moves = some last)
    (call : CallId) : call ∈ last.order moves ↔ (last.phase call).isReturned = true := by
  rw [order, List.mem_filter, List.mem_dedup]
  refine ⟨And.right, fun returned => ⟨?_, returned⟩⟩
  by_contra idle
  rw [phase_of_run? ran idle] at returned
  cases returned

/-- A selector that a call returned stands for its signature at the end of the race. -/
theorem resolve?_of_returned {moves : List CallId}
    (ran : (start first).run? asked moves = some last) {call : CallId} {selector : Selector}
    (returned : last.phase call = .returned (.ok selector)) :
    last.table.resolve? selector = some (asked call) := by
  obtain ⟨table, results⟩ := internAll_order ran
  have listed := (mem_order_iff ran call).mpr (by rw [returned]; rfl)
  obtain ⟨place, found⟩ := List.mem_iff_getElem?.mp listed
  have given := congrArg (·[place]?) results
  simp only [List.getElem?_map, found, Option.map_some, returned, Option.map_eq_some_iff,
    CallPhase.returned.injEq, exists_eq_right] at given
  rw [← table]
  exact resolve?_internAll (by rw [List.getElem?_map, found]; rfl) given

/-- Calls race for a table that has come about by interning. Whatever the order of their steps,
    those that return do so with what they would be given one after the other, in the order of
    their last steps, and the table is the one that they would leave. All that succeed for one
    signature return one selector, and the table has the signature once. -/
theorem linearizable (reachable : first.Reachable) {moves : List CallId}
    (ran : (start first).run? asked moves = some last) :
    (∀ call, call ∈ last.order moves ↔ (last.phase call).isReturned = true) ∧
    (first.internAll ((last.order moves).map asked)).1.map .returned =
      (last.order moves).map last.phase ∧
    (first.internAll ((last.order moves).map asked)).2 = last.table ∧
    ∀ call selector, last.phase call = .returned (.ok selector) →
      last.table.signatures.toList.count (asked call) = 1 ∧
      ∀ other otherSelector, asked other = asked call →
        last.phase other = .returned (.ok otherSelector) → otherSelector = selector := by
  obtain ⟨table, results⟩ := internAll_order ran
  have lawful : last.table.Lawful := by
    rw [← table]
    exact reachable.lawful.internAll _
  refine ⟨mem_order_iff ran, results, table, fun call selector returned => ⟨?_, ?_⟩⟩
  · have stored := resolve?_of_returned ran returned
    refine List.count_eq_one_of_mem lawful.nodup ?_
    rw [Array.mem_toList_iff]
    exact Array.mem_of_getElem? stored
  · intro other otherSelector same otherReturned
    have stored := resolve?_of_returned ran returned
    have otherStored := resolve?_of_returned ran otherReturned
    rw [same] at otherStored
    exact lawful.distinct _ _ _ otherStored stored

/-- Calls 0 and 1 ask for one signature, call 2 for another of the same name, and call 3 for a
    third. -/
def rivals : CallId → Signature
  | 0 | 1 => ⟨"count", none⟩
  | 2 => ⟨"count", some "i@:"⟩
  | _ => ⟨"count", some "q@:"⟩

/-- All four calls find nothing before any of them adds its signature to a table with one
    bucket and room for two. The second call adds what the first one asks for as well, the third
    makes the buckets double again, and the fourth is refused. -/
theorem linearizable_of_rivals : ∃ (fresh : SelectorTable fun _ => 7) (last : Race fun _ => 7),
    create 1 ⟨3, 4⟩ 2 = .ok fresh ∧
      (start fresh).run? rivals [0, 1, 2, 3, 1, 0, 2, 3] = some last ∧
      last.table.bucketCount = 4 ∧
      (fresh.internAll ([1, 0, 2, 3].map rivals)).1 =
        [.ok 0, .ok 0, .ok 1, .error (.refused .outOfSelectors)] ∧
      (fresh.internAll ([1, 0, 2, 3].map rivals)).2 = last.table ∧
      last.table.signatures.toList.count ⟨"count", none⟩ = 1 := by
  let fresh : SelectorTable fun _ => 7 := empty 1 ⟨3, 4⟩ 2
  have reachable : fresh.Reachable := ⟨1, ⟨3, 4⟩, 2, fresh, [], rfl, rfl⟩
  have checked : ((start fresh).run? rivals [0, 1, 2, 3, 1, 0, 2, 3]).map (fun race =>
      (race.order [0, 1, 2, 3, 1, 0, 2, 3], race.table.bucketCount)) =
      some ([1, 0, 2, 3], 4) := by decide +kernel
  have given : (fresh.internAll ([1, 0, 2, 3].map rivals)).1 =
      [.ok 0, .ok 0, .ok 1, .error (.refused .outOfSelectors)] := by cbv
  obtain ⟨last, ran, same⟩ := Option.map_eq_some_iff.mp checked
  obtain ⟨order, buckets⟩ := Prod.mk.inj same
  obtain ⟨-, results, table, once⟩ := linearizable reachable ran
  rw [order] at results table
  rw [given] at results
  have first : last.phase 0 = .returned (.ok 0) := by
    simp only [List.map_cons, List.cons.injEq] at results
    exact results.2.1.symm
  exact ⟨fresh, last, rfl, ran, buckets, given, table, (once 0 0 first).1⟩

end Race

end LateBinding.SelectorTable
