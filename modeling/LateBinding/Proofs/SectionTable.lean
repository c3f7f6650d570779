import LateBinding.Lock.Sections
import Mathlib.Data.List.Nodup

/-!
# What the table of sections says of an object

The table is read by object: `find?` gives the entry of an object, and an entry names a
lock. Each operation on the table is described by the entries that can be found afterwards
and by the locks. Registering never changes a lock, and a lock that is made anew is free, as
a number without a lock counts.

Every object has one entry at most, so the entry that goes with its last user leaves the
object without one.
-/

namespace LateBinding

namespace RecursiveLock

variable {lock : RecursiveLock} {thread : Thread}

/-- The depth of the owner is the count, and that of any other thread is nothing. -/
theorem depth_eq (lock : RecursiveLock) (thread : Thread) :
    lock.depth thread = if lock.owner = some thread then lock.count else 0 := by
  simp [depth, isOwnedBy]

/-- A lock is taken once more by its owner, or by anybody if it has none. -/
theorem acquire?_eq_some {taken : RecursiveLock} (released : lock.owner = none → lock.count = 0)
    (acquired : lock.acquire? thread = some taken) :
    taken = ⟨some thread, lock.count + 1⟩ ∧ (lock.owner = none ∨ lock.owner = some thread) := by
  unfold acquire? at acquired
  split at acquired
  · rename_i own
    rw [Option.some.injEq] at acquired
    exact ⟨by rw [← acquired, own], .inr own⟩
  · split at acquired
    · rename_i ownerless
      rw [Option.some.injEq] at acquired
      exact ⟨by rw [← acquired, released ownerless], .inl ownerless⟩
    · cases acquired

/-- Only its owner releases a lock, and the last release sets it free. -/
theorem release_eq_ok {left : RecursiveLock} (released : lock.release thread = .ok left) :
    lock.owner = some thread ∧ 0 < lock.count ∧
      left = if lock.count = 1 then free else ⟨some thread, lock.count - 1⟩ := by
  unfold release at released
  split at released
  · cases released
  · rename_i held
    split at released
    · cases released
    · rename_i own
      have owned : lock.owner = some thread := Decidable.not_not.mp own
      refine ⟨owned, Nat.pos_of_ne_zero fun zero => held (.inr zero), ?_⟩
      split at released
      · rename_i once
        cases released
        rw [if_pos once]
      · rename_i again
        cases released
        rw [if_neg again, owned]

/-- Taking a lock makes it one level deeper for the thread, and for no other. -/
theorem depth_acquire? {taken : RecursiveLock} (released : lock.owner = none → lock.count = 0)
    (acquired : lock.acquire? thread = some taken) (other : Thread) :
    taken.depth other = if other = thread then lock.depth other + 1 else lock.depth other := by
  obtain ⟨rfl, owner⟩ := acquire?_eq_some released acquired
  rw [depth_eq, depth_eq]
  by_cases same : other = thread
  · subst same
    rw [if_pos rfl, if_pos rfl]
    rcases owner with none | own
    · rw [none, released none, if_neg (by simp)]
    · rw [if_pos own]
  · rw [if_neg (by simp [Ne.symm same]), if_neg same, if_neg]
    rcases owner with none | own
    · simp [none]
    · simp [own, Ne.symm same]

/-- A release takes one off the count. -/
theorem count_release {left : RecursiveLock} (released : lock.release thread = .ok left) :
    left.count = lock.count - 1 := by
  obtain ⟨-, -, rfl⟩ := release_eq_ok released
  split
  · rename_i once
    rw [once]
    rfl
  · rfl

/-- A lock that was released has no owner if nothing is left to release. -/
theorem owner_release {left : RecursiveLock} (released : lock.release thread = .ok left) :
    left.owner = none ↔ left.count = 0 := by
  obtain ⟨-, positive, rfl⟩ := release_eq_ok released
  split
  · exact ⟨fun _ => rfl, fun _ => rfl⟩
  · constructor
    · intro impossible
      cases impossible
    · intro zero
      dsimp only at zero
      omega

/-- Releasing a lock takes a level from its owner, and other threads have none. -/
theorem depth_release {left : RecursiveLock} (released : lock.release thread = .ok left)
    (other : Thread) : left.depth other = lock.depth other - 1 := by
  have count := count_release released
  obtain ⟨owner, -, rfl⟩ := release_eq_ok released
  rw [depth_eq, depth_eq, count, owner]
  by_cases same : thread = other
  · subst same
    rw [if_pos rfl]
    split
    · rename_i once
      rw [once, ite_self]
    · rw [if_pos rfl]
  · rw [if_neg, if_neg (by simp [same])]
    split
    · exact fun impossible => by cases impossible
    · simp [same]

end RecursiveLock

namespace Sections

variable {sections : Sections} {object other : Object}

/-- Every object has one entry at most. -/
def Distinct (sections : Sections) : Prop :=
  (sections.entries.map SectionEntry.object).Nodup

/-- What is found for an object is an entry for it. -/
theorem object_of_find? {entry : SectionEntry} (found : sections.find? object = some entry) :
    entry.object = object := by
  unfold find? at found
  have named := List.find?_some found
  exact beq_iff_eq.mp named

/-- Changing the entry of an object changes what is found for it alone. -/
theorem find?_modifyEntry (change : SectionEntry → SectionEntry)
    (kept : ∀ entry, (change entry).object = entry.object) :
    (sections.modifyEntry object change).find? other =
      if other = object then (sections.find? object).map change else sections.find? other := by
  have same : ((fun entry : SectionEntry => entry.object == other) ∘ fun entry : SectionEntry =>
      if entry.object == object then change entry else entry) =
      fun entry : SectionEntry => entry.object == other := by
    funext entry
    simp only [Function.comp]
    split
    · rw [kept]
    · rfl
  simp only [find?, modifyEntry, List.find?_map, same]
  split
  · rename_i atObject
    subst atObject
    cases found : sections.entries.find? (·.object == other) with
    | none => rfl
    | some entry => rw [Option.map_some, Option.map_some, if_pos (List.find?_some found)]
  · rename_i elsewhere
    cases found : sections.entries.find? (·.object == other) with
    | none => rfl
    | some entry =>
      have named := object_of_find? found
      rw [Option.map_some, if_neg (by rw [named, beq_iff_eq]; exact elsewhere)]

/-- No object gets a second entry. -/
theorem distinct_modifyEntry (change : SectionEntry → SectionEntry)
    (kept : ∀ entry, (change entry).object = entry.object) (distinct : sections.Distinct) :
    (sections.modifyEntry object change).Distinct := by
  have same : (sections.modifyEntry object change).entries.map SectionEntry.object =
      sections.entries.map SectionEntry.object := by
    simp only [modifyEntry, List.map_map]
    refine List.map_congr_left fun entry _ => ?_
    simp only [Function.comp]
    split
    · rw [kept]
    · rfl
  rw [Distinct, same]
  exact distinct

/-- Registering counts one more use of the object, under the lock it has or a new one. -/
theorem find?_register :
    (sections.register object).2.find? other =
      if other = object then
        some (((sections.find? object).map fun entry =>
          { entry with users := entry.users + 1 }).getD ⟨object, sections.locks.size, 1⟩)
      else sections.find? other := by
  unfold register
  cases found : sections.find? object with
  | some entry =>
    dsimp only
    rw [find?_modifyEntry, found]
    · rfl
    · exact fun _ => rfl
  | none =>
    simp only [find?, List.find?_append] at found ⊢
    by_cases atObject : other = object
    · subst atObject
      simp [found]
    · simp [atObject, beq_eq_false_iff_ne.mpr (Ne.symm atObject)]

/-- After registering, an entry has the lock that the entry of its object had, or it is the
    new entry with the new lock. -/
theorem lock_of_find?_register {entry : SectionEntry}
    (found : (sections.register object).2.find? other = some entry) :
    (∃ before, sections.find? other = some before ∧ entry.lock = before.lock) ∨
      (other = object ∧ entry.lock = sections.locks.size) := by
  rw [find?_register] at found
  split at found
  · rename_i same
    rw [Option.some.injEq] at found
    cases before : sections.find? object with
    | some old =>
      rw [before] at found
      exact .inl ⟨old, same ▸ before, found ▸ rfl⟩
    | none =>
      rw [before] at found
      exact .inr ⟨same, found ▸ rfl⟩
  · exact .inl ⟨entry, found, rfl⟩

/-- Whoever registers gets the lock of the entry, or a new one. -/
theorem register_fst :
    (sections.register object).1 =
      ((sections.find? object).map SectionEntry.lock).getD sections.locks.size := by
  unfold register
  cases sections.find? object with
  | some entry => rfl
  | none => rfl

/-- Registering leaves all locks as they are. -/
theorem lock_register (number : Nat) :
    (sections.register object).2.lock number = sections.lock number := by
  unfold register
  cases sections.find? object with
  | some entry => rfl
  | none =>
    simp only [lock, Array.getD_eq_getD_getElem?, Array.getElem?_push]
    split
    · rename_i last
      rw [last, Array.getElem?_eq_none (Nat.le_refl _)]
      rfl
    · rfl

/-- A lock is made only for a new entry. -/
theorem locks_size_register :
    (sections.register object).2.locks.size =
      if (sections.find? object).isSome then sections.locks.size else sections.locks.size + 1 := by
  unfold register
  cases sections.find? object with
  | some entry => rfl
  | none => simp

/-- Registering gives an object one entry at most. -/
theorem distinct_register (distinct : sections.Distinct) :
    (sections.register object).2.Distinct := by
  unfold register
  cases found : sections.find? object with
  | some entry => exact distinct_modifyEntry _ (fun _ => rfl) distinct
  | none =>
    simp only [Distinct, List.map_append, List.map_cons, List.map_nil]
    refine List.nodup_append.mpr ⟨distinct, List.nodup_singleton _, ?_⟩
    intro first present second last
    rw [List.mem_singleton] at last
    obtain ⟨entry, member, rfl⟩ := List.mem_map.mp present
    have different := List.find?_eq_none.mp found entry member
    rw [beq_iff_eq] at different
    exact last ▸ different

/-- The table with one lock in another state. -/
def setLock (sections : Sections) (number : Nat) (new : RecursiveLock) : Sections :=
  { sections with locks := sections.locks.setIfInBounds number new }

/-- A change of a lock does not touch entries. -/
@[simp] theorem find?_setLock (number : Nat) (new : RecursiveLock) :
    (sections.setLock number new).find? object = sections.find? object := rfl

/-- It makes no lock. -/
@[simp] theorem locks_size_setLock (number : Nat) (new : RecursiveLock) :
    (sections.setLock number new).locks.size = sections.locks.size := by
  simp [setLock]

/-- It changes one lock. -/
theorem lock_setLock (number : Nat) (new : RecursiveLock) (asked : Nat) :
    (sections.setLock number new).lock asked =
      if number = asked ∧ number < sections.locks.size then new else sections.lock asked := by
  simp only [lock, setLock, Array.getD_eq_getD_getElem?, Array.getElem?_setIfInBounds]
  by_cases same : number = asked
  · subst same
    by_cases inside : number < sections.locks.size <;> simp [inside]
  · simp [same]

/-- Taking a lock is taking it where the table keeps it. -/
theorem acquire?_eq_some {thread : Thread} {number : Nat} {after : Sections}
    (acquired : sections.acquire? thread number = some after) :
    ∃ taken, (sections.lock number).acquire? thread = some taken ∧
      after = sections.setLock number taken := by
  obtain ⟨taken, lockTaken, same⟩ := Option.map_eq_some_iff.mp acquired
  exact ⟨taken, lockTaken, same.symm⟩

/-- In a list with one entry at most for an object, dropping that entry leaves none. -/
theorem find?_dropUnused (entries : List SectionEntry)
    (distinct : (entries.map SectionEntry.object).Nodup) :
    (entries.filter fun entry => !(entry.object == object && entry.users == 0)).find?
        (·.object == object) =
      (entries.find? (·.object == object)).bind fun entry =>
        if entry.users = 0 then none else some entry := by
  induction entries with
  | nil => rfl
  | cons entry rest inductionHypothesis =>
    rw [List.map_cons, List.nodup_cons] at distinct
    obtain ⟨apart, restDistinct⟩ := distinct
    have restFound := inductionHypothesis restDistinct
    by_cases here : entry.object = object
    · have gone : rest.find? (·.object == object) = none := by
        refine List.find?_eq_none.mpr fun later member named => apart ?_
        rw [here, ← beq_iff_eq.mp named]
        exact List.mem_map_of_mem member
      by_cases unused : entry.users = 0
      · rw [List.filter_cons_of_neg (by simp [here, unused]), restFound, gone]
        simp [here, unused]
      · rw [List.filter_cons_of_pos (by simp [unused])]
        simp [here, unused]
    · rw [List.filter_cons_of_pos (by simp [here]), List.find?_cons_of_neg (by simp [here]),
        restFound, List.find?_cons_of_neg (by simp [here])]

/-- Withdrawing takes one use away from the object, and its entry with the last. -/
theorem find?_withdraw (distinct : sections.Distinct) :
    (sections.withdraw object).find? other =
      if other = object then
        (sections.find? object).bind fun entry =>
          if entry.users - 1 = 0 then none else some { entry with users := entry.users - 1 }
      else sections.find? other := by
  let fewer := sections.modifyEntry object fun entry => { entry with users := entry.users - 1 }
  have counted : fewer.find? other = _ := find?_modifyEntry _ fun _ => rfl
  have fewerDistinct : fewer.Distinct := distinct_modifyEntry _ (fun _ => rfl) distinct
  by_cases atObject : other = object
  · subst atObject
    rw [if_pos rfl] at counted ⊢
    change (fewer.entries.filter _).find? _ = _
    rw [find?_dropUnused fewer.entries fewerDistinct]
    change (fewer.find? other).bind _ = _
    rw [counted]
    cases sections.find? other <;> rfl
  · rw [if_neg atObject] at counted ⊢
    rw [← counted]
    change (fewer.entries.filter _).find? _ = fewer.entries.find? _
    rw [List.find?_filter]
    congr 1
    funext entry
    by_cases named : entry.object = other
    · simp [named, atObject]
    · simp [named]

/-- After withdrawing, an entry has the lock that the entry of its object had. -/
theorem lock_of_find?_withdraw (distinct : sections.Distinct) {entry : SectionEntry}
    (found : (sections.withdraw object).find? other = some entry) :
    ∃ before, sections.find? other = some before ∧ entry.lock = before.lock := by
  rw [find?_withdraw distinct] at found
  split at found
  · rename_i same
    obtain ⟨before, present, kept⟩ := Option.bind_eq_some_iff.mp found
    split at kept
    · cases kept
    · cases kept
      exact ⟨before, same ▸ present, rfl⟩
  · exact ⟨entry, found, rfl⟩

/-- Withdrawing adds no entry. -/
theorem distinct_withdraw (distinct : sections.Distinct) :
    (sections.withdraw object).Distinct := by
  have fewer : (sections.modifyEntry object fun entry =>
      { entry with users := entry.users - 1 }).Distinct :=
    distinct_modifyEntry _ (fun _ => rfl) distinct
  exact fewer.sublist (List.filter_sublist.map _)

/-- It does not touch locks. -/
@[simp] theorem lock_withdraw (number : Nat) :
    (sections.withdraw object).lock number = sections.lock number := rfl

/-- Leaving succeeds by releasing the lock of the entry and withdrawing one use. -/
theorem leave_eq_ok {thread : Thread} {after : Sections} (real : object.isNull = false)
    (left : sections.leave thread object = .ok after) :
    ∃ entry released, sections.find? object = some entry ∧
      (sections.lock entry.lock).release thread = .ok released ∧
      after = (sections.setLock entry.lock released).withdraw object := by
  unfold leave at left
  rw [real] at left
  cases found : sections.find? object with
  | none =>
    rw [found] at left
    cases left
  | some entry =>
    simp only [found, Bool.false_eq_true, if_false] at left
    split at left
    · cases left
    · cases left
    · rename_i released lockReleased
      cases left
      exact ⟨entry, released, rfl, lockReleased, rfl⟩

end Sections

end LateBinding
