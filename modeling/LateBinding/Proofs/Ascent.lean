import LateBinding.Registry.Basic
import Mathlib.Data.Finset.Card
import Mathlib.Data.Finset.Range

/-!
# Following superclass names to a root

`Ascent` is the path that a class describes by the superclass names declared along it. It
exists exactly when the names lead to a root: a name that nobody registered and a cycle
both leave a class without one. No bound enters into it.

The walk that the registry makes remembers the classes it has passed and has room for as
many as there are. A path never meets a class twice, since what follows a class on a path
is determined by the class, so the room is never what ends the walk.
-/

namespace LateBinding.Registry

/-- By the declared superclass names, a class is followed by exactly the classes of this
    path, itself the first, and the last of them is a root. -/
inductive Ascent (registry : Registry) : ClassId → List ClassId → Prop
  | root {id : ClassId} (declared : (registry.entry id).superName = none) :
      Ascent registry id [id]
  | step {id above : ClassId} {name : String} {path : List ClassId}
      (declared : (registry.entry id).superName = some name)
      (found : registry.find? name = some above) (rest : Ascent registry above path) :
      Ascent registry id (id :: path)

variable {registry : Registry}

/-- A path starts at the class itself. -/
theorem Ascent.head {id : ClassId} {path : List ClassId} (ascent : registry.Ascent id path) :
    ∃ above, path = id :: above := by
  cases ascent with
  | root declared => exact ⟨[], rfl⟩
  | step declared found rest => exact ⟨_, rfl⟩

/-- A class has at most one path. -/
theorem Ascent.unique {id : ClassId} {path other : List ClassId}
    (ascent : registry.Ascent id path) (second : registry.Ascent id other) : path = other := by
  induction ascent generalizing other with
  | root declared =>
    cases second with
    | root _ => rfl
    | step otherDeclared _ _ => rw [declared] at otherDeclared; cases otherDeclared
  | step declared found rest inductionHypothesis =>
    cases second with
    | root otherDeclared => rw [declared] at otherDeclared; cases otherDeclared
    | step otherDeclared otherFound otherRest =>
      rw [declared, Option.some.injEq] at otherDeclared
      subst otherDeclared
      rw [found, Option.some.injEq] at otherFound
      subst otherFound
      rw [inductionHypothesis otherRest]

/-- From any of its classes on, a path is the path of that class. -/
theorem Ascent.suffix {id passed : ClassId} {before rest : List ClassId}
    (ascent : registry.Ascent id (before ++ passed :: rest)) :
    registry.Ascent passed (passed :: rest) := by
  induction before generalizing id with
  | nil =>
    obtain ⟨above, same⟩ := ascent.head
    rw [List.nil_append, List.cons.injEq] at same
    rw [same.1] at ascent ⊢
    exact ascent
  | cons first before inductionHypothesis =>
    generalize split : first :: before ++ passed :: rest = path at ascent
    rw [List.cons_append] at split
    cases ascent with
    | root declared =>
      rw [List.cons.injEq] at split
      exact absurd split.2 (by simp)
    | step declared found further =>
      rw [List.cons.injEq] at split
      exact inductionHypothesis (split.2 ▸ further)

/-- A path never comes back to a class: the same path would have to start there again,
    and be shorter. -/
theorem Ascent.nodup {id : ClassId} {path : List ClassId} (ascent : registry.Ascent id path) :
    path.Nodup := by
  induction ascent with
  | root declared => exact List.nodup_singleton _
  | @step id above name path declared found rest inductionHypothesis =>
    refine List.nodup_cons.mpr ⟨?_, inductionHypothesis⟩
    intro member
    obtain ⟨before, after, split⟩ := List.append_of_mem member
    have again : registry.Ascent id (id :: after) := (split ▸ rest).suffix
    have same : id :: path = id :: after := (Ascent.step declared found rest).unique again
    have lengths := congrArg List.length split
    rw [(List.cons.inj same).2, List.length_append, List.length_cons] at lengths
    omega

/-- All classes on it are there. -/
theorem Ascent.inside {id : ClassId} {path : List ClassId} (ascent : registry.Ascent id path)
    (registered : ∀ name found, registry.find? name = some found → found < registry.size)
    (given : id < registry.size) : ∀ passed ∈ path, passed < registry.size := by
  induction ascent with
  | root declared =>
    intro passed member
    rw [List.mem_singleton] at member
    exact member ▸ given
  | step declared found rest inductionHypothesis =>
    intro passed member
    rcases List.mem_cons.mp member with same | later
    · exact same ▸ given
    · exact inductionHypothesis (registered _ _ found) passed later

/-- There are no more classes on a path than in the registry. -/
theorem Ascent.length_le {id : ClassId} {path : List ClassId} (ascent : registry.Ascent id path)
    (registered : ∀ name found, registry.find? name = some found → found < registry.size)
    (given : id < registry.size) : path.length ≤ registry.size := by
  have subset : path.toFinset ⊆ Finset.range registry.size := by
    intro passed member
    exact Finset.mem_range.mpr (ascent.inside registered given passed (List.mem_toFinset.mp member))
  have bound := Finset.card_le_card subset
  rwa [List.toFinset_card_of_nodup ascent.nodup, Finset.card_range] at bound

/-- A path depends on the registry by the declared names and by where they lead, and stays
    when more names are registered. -/
theorem Ascent.transfer {id : ClassId} {path : List ClassId} (ascent : registry.Ascent id path)
    {after : Registry}
    (declared : ∀ passed ∈ path, (after.entry passed).superName = (registry.entry passed).superName)
    (found : ∀ name above, registry.find? name = some above → after.find? name = some above) :
    after.Ascent id path := by
  induction ascent with
  | root given => exact .root (by rw [declared _ (List.mem_singleton_self _), given])
  | step given leads rest inductionHypothesis =>
    refine .step (by rw [declared _ List.mem_cons_self, given]) (found _ _ leads) ?_
    exact inductionHypothesis fun passed member => declared passed (List.mem_cons_of_mem _ member)

/-- A walk that succeeds has followed a path. -/
theorem ascent_of_walk {origin : ClassId} {room : Nat} {passed chain : List ClassId}
    {current : ClassId} (walked : registry.walk origin room passed current = .ok chain) :
    ∃ above, registry.Ascent current (current :: above) ∧ chain = passed.reverse ++ above := by
  induction room generalizing passed current with
  | zero =>
    rw [walk] at walked
    split at walked
    · rename_i declared
      cases walked
      exact ⟨[], .root declared, by simp⟩
    · split at walked
      · cases walked
      · split at walked <;> cases walked
  | succ room inductionHypothesis =>
    rw [walk] at walked
    split at walked
    · rename_i declared
      cases walked
      exact ⟨[], .root declared, by simp⟩
    · rename_i name declared
      split at walked
      · cases walked
      · rename_i next found
        split at walked
        · cases walked
        · obtain ⟨above, ascent, rfl⟩ := inductionHypothesis walked
          exact ⟨next :: above, .step declared found ascent, by simp⟩

/-- A path that fits into the room and keeps clear of the classes passed is walked. -/
theorem walk_of_ascent {origin current : ClassId} {room : Nat} {passed path : List ClassId}
    (ascent : registry.Ascent current path) (fresh : ∀ id ∈ path.tail, id ∉ passed)
    (fits : path.length ≤ room + 1) :
    registry.walk origin room passed current = .ok (passed.reverse ++ path.tail) := by
  induction ascent generalizing room passed with
  | root declared =>
    rw [walk, declared]
    simp
  | @step id above name path declared found rest inductionHypothesis =>
    obtain ⟨further, rfl⟩ := rest.head
    have unseen : above ∉ passed := fresh above (by simp)
    have distinct : above ∉ further := (List.nodup_cons.mp rest.nodup).1
    cases room with
    | zero => simp at fits
    | succ room =>
      rw [walk, declared]
      simp only [found, unseen, ↓reduceIte]
      rw [inductionHypothesis]
      · simp
      · intro later member seen
        rcases List.mem_cons.mp seen with same | before
        · exact distinct (same ▸ member)
        · exact fresh later (by simpa using Or.inr member) before
      · simpa using fits

/-- The chain of a class is its path. -/
theorem chain_eq_ok_iff {id : ClassId} {path : List ClassId}
    (registered : ∀ name found, registry.find? name = some found → found < registry.size)
    (given : id < registry.size) : registry.chain id = .ok path ↔ registry.Ascent id path := by
  constructor
  · intro walked
    obtain ⟨above, ascent, rfl⟩ := ascent_of_walk walked
    simpa using ascent
  · intro ascent
    obtain ⟨above, rfl⟩ := ascent.head
    have distinct : id ∉ above := (List.nodup_cons.mp ascent.nodup).1
    have bound := ascent.length_le registered given
    rw [chain, walk_of_ascent ascent]
    · simp
    · intro later member seen
      rw [List.mem_singleton] at seen
      exact distinct (seen ▸ member)
    · omega

/-- A chain fails only for a missing name or a cycle. -/
theorem walk_error {origin : ClassId} {room : Nat} {passed : List ClassId} {current : ClassId}
    {error : Error} (walked : registry.walk origin room passed current = .error error) :
    (∃ name missing, error = .unresolvedSuperclass name missing) ∨
      ∃ name, error = .inheritanceCycle name := by
  induction room generalizing passed current with
  | zero =>
    rw [walk] at walked
    split at walked
    · cases walked
    · split at walked
      · cases walked
        exact .inl ⟨_, _, rfl⟩
      · split at walked <;> cases walked <;> exact .inr ⟨_, rfl⟩
  | succ room inductionHypothesis =>
    rw [walk] at walked
    split at walked
    · cases walked
    · split at walked
      · cases walked
        exact .inl ⟨_, _, rfl⟩
      · split at walked
        · cases walked
          exact .inr ⟨_, rfl⟩
        · exact inductionHypothesis walked

end LateBinding.Registry
