import LateBinding.Proofs.LockBalance

/-!
# A table of sections in order

An entry of the table names a lock of its own and counts at least the levels of that lock. This is
so whoever works on the table, because entering and leaving keep it by themselves; nothing has to
be known about the threads.

It is enough to tell what leaving does. A thread can leave an object exactly if it is at some
level of it, and gives back one level and nothing else. A section that was entered can be left
when the table is as it was then, and the table is as it was before: the entry has lost the use
that was counted, or is gone if it was made for that use. A lock that was made for it stays in the
table under its number, free, and no entry names it.
-/

namespace LateBinding

namespace RecursiveLock

/-- A thread can release a lock exactly if it has a level to give back. -/
theorem depth_cases (lock : RecursiveLock) (thread : Thread) :
    (lock.depth thread = 0 ∧ ∃ error, lock.release thread = .error error) ∨
      (0 < lock.depth thread ∧ ∃ left, lock.release thread = .ok left) := by
  rw [depth_eq]
  unfold release
  by_cases own : lock.owner = some thread
  · by_cases zero : lock.count = 0
    · exact .inl ⟨by simp [own, zero], _, by simp [own, zero]; rfl⟩
    · have positive : 0 < lock.count := Nat.pos_of_ne_zero zero
      by_cases once : lock.count = 1
      · exact .inr ⟨by simp [own, positive], free, by simp [own, once]⟩
      · exact .inr ⟨by simp [own, positive], _, by simp [own, zero, once]; rfl⟩
  · by_cases held : lock.owner = none ∨ lock.count = 0
    · exact .inl ⟨by simp [own], .lockNotHeld, by simp [held]⟩
    · exact .inl ⟨by simp [own], .lockNotOwned, by simp [held, own]⟩

/-- A lock that was taken can be released, and is as before then. -/
theorem Consistent.release_acquire? {lock taken : RecursiveLock} {thread : Thread}
    (consistent : lock.Consistent) (acquired : lock.acquire? thread = some taken) :
    taken.release thread = .ok lock := by
  obtain ⟨rfl, owner⟩ := acquire?_eq_some consistent.mp acquired
  have known : lock = free ∨ lock = ⟨some thread, lock.count⟩ ∧ lock.count ≠ 0 := by
    rcases owner with none | own
    · left
      cases lock
      simp_all [Consistent, free]
    · right
      cases lock
      simp_all [Consistent]
  rcases known with rfl | ⟨same, held⟩
  · simp [release, free]
  · rw [same]
    simp [release, held]

end RecursiveLock

namespace Sections

variable {sections before after between : Sections} {thread : Thread} {object : Object}
variable {entry : SectionEntry}

/-- How many levels of an object a thread is inside. -/
def depth (sections : Sections) (thread : Thread) (object : Object) : Nat :=
  ((sections.find? object).map fun entry => (sections.lock entry.lock).depth thread).getD 0

/-- What holds of an entry whoever works on the table: its lock is there and in order, and its
    users are at least the levels of the lock. -/
structure Backs (sections : Sections) (entry : SectionEntry) : Prop where
  made : entry.lock < sections.locks.size
  consistent : (sections.lock entry.lock).Consistent
  used : 0 < entry.users
  counted : (sections.lock entry.lock).count ≤ entry.users

/-- Each object has one entry at most, and each entry a lock of its own. -/
structure Orderly (sections : Sections) : Prop where
  distinct : sections.Distinct
  apart : ∀ object other entry second, sections.find? object = some entry →
    sections.find? other = some second → entry.lock = second.lock → object = other
  backs : ∀ object entry, sections.find? object = some entry → sections.Backs entry

/-- Nothing has changed but for one object. -/
def SameElsewhere (before after : Sections) (object : Object) : Prop :=
  ∀ other, other ≠ object → after.find? other = before.find? other ∧
    ∀ entry, before.find? other = some entry → after.lock entry.lock = before.lock entry.lock

/-- How deep a thread is in a section is told by the lock of its entry. -/
theorem depth_of_find? (found : sections.find? object = some entry) :
    sections.depth thread object = (sections.lock entry.lock).depth thread := by
  rw [depth, found]
  rfl

/-- In a section without an entry there is nobody. -/
theorem depth_of_unused (missing : sections.find? object = none) :
    sections.depth thread object = 0 := by
  rw [depth, missing]
  rfl

/-- Elsewhere everybody is as deep as before. -/
theorem SameElsewhere.depth (same : before.SameElsewhere after object) {other : Object}
    (different : other ≠ object) : after.depth thread other = before.depth thread other := by
  obtain ⟨entries, locks⟩ := same other different
  cases found : before.find? other with
  | none => rw [depth_of_unused found, depth_of_unused (entries.trans found)]
  | some entry =>
    rw [depth_of_find? found, depth_of_find? (entries.trans found), locks entry found]

/-- An entry is found for its object. -/
theorem find?_of_mem (distinct : sections.Distinct) (member : entry ∈ sections.entries) :
    sections.find? entry.object = some entry := by
  have there : (sections.find? entry.object).isSome := by
    rw [find?, List.find?_isSome]
    exact ⟨entry, member, beq_self_eq_true _⟩
  obtain ⟨other, found⟩ := Option.isSome_iff_exists.mp there
  have same : other = entry := List.inj_on_of_nodup_map distinct
    (List.mem_of_find?_eq_some found) member (object_of_find? found)
  rw [found, same]

/-- A lock that has not been made is free. -/
theorem lock_of_le {number : Nat} (outside : sections.locks.size ≤ number) :
    sections.lock number = .free := by
  rw [lock, Array.getD_eq_getD_getElem?, Array.getElem?_eq_none outside]
  rfl

/-- Registering an object takes no lock away. -/
theorem locks_size_le_register (sections : Sections) (object : Object) :
    sections.locks.size ≤ (sections.register object).2.locks.size := by
  rw [locks_size_register]
  split <;> omega

/-- A table is orderly after a change at one object if the entry there is in order and its lock
    is not that of another entry. -/
theorem Orderly.change (orderly : before.Orderly) (distinct : after.Distinct)
    (size : before.locks.size ≤ after.locks.size) (elsewhere : before.SameElsewhere after object)
    (here : ∀ entry, after.find? object = some entry → after.Backs entry ∧
      ∀ other second, other ≠ object → before.find? other = some second →
        entry.lock ≠ second.lock) : after.Orderly where
  distinct := distinct
  apart first second one two foundOne foundTwo sameLock := by
    by_contra different
    by_cases atFirst : first = object
    · subst atFirst
      have otherwise := elsewhere second (Ne.symm different)
      rw [otherwise.1] at foundTwo
      exact (here one foundOne).2 second two (Ne.symm different) foundTwo sameLock
    · rw [(elsewhere first atFirst).1] at foundOne
      by_cases atSecond : second = object
      · subst atSecond
        exact (here two foundTwo).2 first one different foundOne sameLock.symm
      · rw [(elsewhere second atSecond).1] at foundTwo
        exact different (orderly.apart first second one two foundOne foundTwo sameLock)
  backs other entry found := by
    by_cases atObject : other = object
    · subst atObject
      exact (here entry found).1
    · obtain ⟨entries, locks⟩ := elsewhere other atObject
      rw [entries] at found
      have backs := orderly.backs other entry found
      have same := locks entry found
      exact ⟨Nat.lt_of_lt_of_le backs.made size, same ▸ backs.consistent, backs.used,
        same ▸ backs.counted⟩

/-- Entering an object takes a lock that no other entry names: the one the object has, or a new
    one. -/
theorem Orderly.enter?_eq_some (orderly : sections.Orderly) (real : object.isNull = false)
    (entered : sections.enter? thread object = some after) :
    ∃ number taken, (sections.lock number).Consistent ∧
      (sections.lock number).acquire? thread = some taken ∧
      after = (sections.register object).2.setLock number taken ∧
      after.lock number = taken ∧
      (sections.find? object = none ∧ number = sections.locks.size ∧
          after.find? object = some ⟨object, number, 1⟩ ∨
        ∃ entry, sections.find? object = some entry ∧ number = entry.lock ∧
          after.find? object = some { entry with users := entry.users + 1 }) ∧
      sections.SameElsewhere after object := by
  have taking : (sections.register object).2.acquire? thread (sections.register object).1 =
      some after := by
    simpa only [Sections.enter?, real, Bool.false_eq_true, if_false] using entered
  obtain ⟨taken, acquired, rfl⟩ := acquire?_eq_some taking
  rw [lock_register] at acquired
  refine ⟨(sections.register object).1, taken, ?_, acquired, rfl, ?_, ?_, ?_⟩
  · rw [register_fst]
    cases found : sections.find? object with
    | none =>
      rw [Option.map_none, Option.getD_none, lock_of_le (Nat.le_refl _)]
      exact RecursiveLock.consistent_free
    | some entry => exact (orderly.backs object entry found).consistent
  · rw [lock_setLock, if_pos]
    refine ⟨rfl, ?_⟩
    rw [register_fst, locks_size_register]
    cases found : sections.find? object with
    | none => simp
    | some entry => simpa using (orderly.backs object entry found).made
  · rw [find?_setLock, find?_register, if_pos rfl, register_fst]
    cases found : sections.find? object with
    | none => exact .inl ⟨rfl, rfl, rfl⟩
    | some entry => exact .inr ⟨entry, rfl, rfl, rfl⟩
  -- Entries have locks of their own, so taking this one leaves those of other objects alone.
  · intro other different
    rw [find?_setLock, find?_register, if_neg different]
    refine ⟨rfl, fun second foundSecond => ?_⟩
    rw [lock_setLock, if_neg, lock_register]
    rintro ⟨sameLock, -⟩
    rw [register_fst] at sameLock
    cases found : sections.find? object with
    | none =>
      rw [found] at sameLock
      have inside := (orderly.backs other second foundSecond).made
      simp only [Option.map_none, Option.getD_none] at sameLock
      omega
    | some entry =>
      rw [found] at sameLock
      exact different (orderly.apart object other entry second found foundSecond sameLock).symm

/-- Leaving an object releases its lock and takes one use away, the entry with the last. -/
theorem Orderly.leave_eq_ok (orderly : sections.Orderly) (real : object.isNull = false)
    (left : sections.leave thread object = .ok after) :
    ∃ entry released, sections.find? object = some entry ∧
      (sections.lock entry.lock).release thread = .ok released ∧
      after = (sections.setLock entry.lock released).withdraw object ∧
      after.lock entry.lock = released ∧
      after.find? object =
        (if entry.users = 1 then none else some { entry with users := entry.users - 1 }) ∧
      sections.SameElsewhere after object := by
  obtain ⟨entry, released, found, lockReleased, rfl⟩ := Sections.leave_eq_ok real left
  have backs := orderly.backs object entry found
  have distinct : (sections.setLock entry.lock released).Distinct := orderly.distinct
  refine ⟨entry, released, found, lockReleased, rfl, ?_, ?_, ?_⟩
  · rw [lock_withdraw, lock_setLock, if_pos ⟨rfl, backs.made⟩]
  · rw [find?_withdraw distinct, if_pos rfl, find?_setLock, found, Option.bind_some]
    have used := backs.used
    by_cases last : entry.users = 1
    · simp [last]
    · rw [if_neg (by omega), if_neg last]
  · intro other different
    rw [find?_withdraw distinct, if_neg different, find?_setLock]
    refine ⟨rfl, fun second foundSecond => ?_⟩
    rw [lock_withdraw, lock_setLock, if_neg]
    rintro ⟨sameLock, -⟩
    exact different (orderly.apart object other entry second found foundSecond sameLock).symm

/-- Entering keeps a table orderly. -/
theorem Orderly.enter? (orderly : sections.Orderly)
    (entered : sections.enter? thread object = some after) : after.Orderly := by
  cases real : object.isNull with
  | true =>
    simp only [Sections.enter?, real, if_true, Option.some.injEq] at entered
    exact entered ▸ orderly
  | false =>
    obtain ⟨number, taken, consistent, acquired, same, lock, here, elsewhere⟩ :=
      orderly.enter?_eq_some real entered
    have size : after.locks.size = (sections.register object).2.locks.size := by
      rw [same, locks_size_setLock]
    rw [locks_size_register] at size
    have deeper : taken.count = (sections.lock number).count + 1 := by
      obtain ⟨rfl, -⟩ := RecursiveLock.acquire?_eq_some consistent.mp acquired
      rfl
    refine orderly.change ?_ ?_ elsewhere ?_
    · rw [same]
      exact distinct_register orderly.distinct
    · rw [same, locks_size_setLock]
      exact locks_size_le_register sections object
    · intro entry found
      have takenConsistent := RecursiveLock.consistent_acquire? consistent acquired
      obtain ⟨missing, rfl, new⟩ | ⟨old, before, rfl, counted⟩ := here
      · cases found.symm.trans new
        rw [missing] at size
        rw [lock_of_le (Nat.le_refl _)] at deeper
        refine ⟨⟨?_, lock ▸ takenConsistent, Nat.one_pos, ?_⟩, ?_⟩
        · simp [size]
        · simp [lock, deeper, RecursiveLock.free]
        · intro other second _ foundSecond sameLock
          exact Nat.ne_of_gt (orderly.backs other second foundSecond).made sameLock
      · cases found.symm.trans counted
        have backs := orderly.backs object old before
        rw [before] at size
        refine ⟨⟨?_, lock ▸ takenConsistent, Nat.succ_pos _, ?_⟩, ?_⟩
        · simpa [size] using backs.made
        · have counted := backs.counted
          dsimp only
          rw [lock]
          omega
        · intro other second different foundSecond sameLock
          exact different (orderly.apart object other old second before foundSecond sameLock).symm

/-- Leaving keeps a table orderly. -/
theorem Orderly.leave (orderly : sections.Orderly)
    (left : sections.leave thread object = .ok after) : after.Orderly := by
  cases real : object.isNull with
  | true =>
    simp only [Sections.leave, real, if_true, Except.ok.injEq] at left
    exact left ▸ orderly
  | false =>
    obtain ⟨old, released, before, lockReleased, same, lock, here, elsewhere⟩ :=
      orderly.leave_eq_ok real left
    have size : after.locks.size = sections.locks.size := by
      rw [same]
      exact locks_size_setLock _ _
    have backs := orderly.backs object old before
    refine orderly.change ?_ (Nat.le_of_eq size.symm) elsewhere ?_
    · rw [same]
      exact distinct_withdraw orderly.distinct
    · intro entry found
      rw [here] at found
      split at found
      · cases found
      · rename_i others
        cases found
        have shallower := RecursiveLock.count_release lockReleased
        have counted := backs.counted
        have used := backs.used
        refine ⟨⟨?_, ?_, ?_, ?_⟩, ?_⟩
        · simpa [size] using backs.made
        · rw [lock]
          exact RecursiveLock.owner_release lockReleased
        · dsimp only
          omega
        · rw [lock]
          dsimp only
          omega
        · intro other second different foundSecond sameLock
          exact different (orderly.apart object other old second before foundSecond sameLock).symm

/-- A thread can leave an object exactly if it has a level of it to give back. -/
theorem leave_cases (sections : Sections) (thread : Thread) (real : object.isNull = false) :
    (sections.depth thread object = 0 ∧ ∃ error, sections.leave thread object = .error error) ∨
      (0 < sections.depth thread object ∧ ∃ left, sections.leave thread object = .ok left) := by
  unfold leave
  rw [real]
  cases found : sections.find? object with
  | none => exact .inl ⟨depth_of_unused found, _, rfl⟩
  | some entry =>
    rw [depth_of_find? found]
    obtain ⟨zero, error, refused⟩ | ⟨positive, left, released⟩ :=
      (sections.lock entry.lock).depth_cases thread
    · refine .inl ⟨zero, ?_⟩
      cases error <;> exact ⟨_, by simp [refused]; rfl⟩
    · exact .inr ⟨positive, _, by simp [released]; rfl⟩

/-- One table is another one after a thread has given back one level of an object: it is one
    level less deep, the entry has one use less and is gone with the last, and nothing else has
    changed. -/
structure Released (before after : Sections) (thread : Thread) (object : Object) : Prop where
  depth : after.depth thread object + 1 = before.depth thread object
  others : ∀ other asked, ¬(other = thread ∧ asked = object) →
    after.depth other asked = before.depth other asked
  entry : ∃ entry, before.find? object = some entry ∧ after.find? object =
    if entry.users = 1 then none else some { entry with users := entry.users - 1 }
  elsewhere : before.SameElsewhere after object

/-- To leave an object is to give back one level of it. -/
theorem Orderly.released (orderly : sections.Orderly) (real : object.isNull = false)
    (left : sections.leave thread object = .ok after) :
    sections.Released after thread object := by
  obtain ⟨entry, released, found, lockReleased, -, lock, here, elsewhere⟩ :=
    orderly.leave_eq_ok real left
  have backs := orderly.backs object entry found
  obtain ⟨owner, positive, -⟩ := RecursiveLock.release_eq_ok lockReleased
  have depths : ∀ other, after.depth other object = sections.depth other object - 1 := by
    intro other
    have shallower := RecursiveLock.depth_release lockReleased other
    rw [depth_of_find? found]
    by_cases last : entry.users = 1
    · -- The entry was counted once, so the lock was not deeper than that.
      rw [if_pos last] at here
      have counted := backs.counted
      rw [depth_of_unused here, RecursiveLock.depth_eq]
      split <;> omega
    · rw [if_neg last] at here
      rw [depth_of_find? here, lock, shallower]
  have deep : sections.depth thread object = (sections.lock entry.lock).count := by
    rw [depth_of_find? found, RecursiveLock.depth_eq, if_pos owner]
  refine ⟨?_, ?_, ⟨entry, found, here⟩, elsewhere⟩
  · rw [depths, deep]
    omega
  · intro other asked different
    by_cases atObject : asked = object
    · subst atObject
      have apart : other ≠ thread := fun same => different ⟨same, rfl⟩
      have outside : sections.depth other asked = 0 := by
        rw [depth_of_find? found, RecursiveLock.depth_eq, owner, if_neg]
        simpa using Ne.symm apart
      rw [depths, outside]
    · exact elsewhere.depth atObject

/-- One table is the same as another one: it has the same entries in the same order, and under
    each number a lock with the same owner and count. Free locks may have been made since. -/
structure Restored (before after : Sections) : Prop where
  entries : after.entries = before.entries
  lock : ∀ number, after.lock number = before.lock number
  size : before.locks.size ≤ after.locks.size

/-- Sections are restored where nothing happens. -/
theorem Restored.refl (sections : Sections) : sections.Restored sections where
  entries := rfl
  lock _ := rfl
  size := Nat.le_refl _

/-- What is restored twice in a row is restored. -/
theorem Restored.trans (first : before.Restored between) (second : between.Restored after) :
    before.Restored after where
  entries := second.entries.trans first.entries
  lock number := (second.lock number).trans (first.lock number)
  size := Nat.le_trans first.size second.size

/-- The same entries are found as before. -/
theorem Restored.find? (restored : before.Restored after) (object : Object) :
    after.find? object = before.find? object := by
  rw [Sections.find?, restored.entries]
  rfl

/-- Sections in order are in order when they are restored. -/
theorem Restored.orderly (restored : before.Restored after) (orderly : before.Orderly) :
    after.Orderly where
  distinct := by
    rw [Distinct, restored.entries]
    exact orderly.distinct
  apart := by
    simpa only [restored.find?] using orderly.apart
  backs object entry found := by
    rw [restored.find?] at found
    have backs := orderly.backs object entry found
    have same := restored.lock entry.lock
    exact ⟨Nat.lt_of_lt_of_le backs.made restored.size, same ▸ backs.consistent, backs.used,
      same ▸ backs.counted⟩

/-- Registering a further use of an object and withdrawing it leaves the entries as they were. -/
theorem entries_withdraw_used (used : ∀ entry ∈ before.entries, 0 < entry.users)
    (same : between.entries = (before.modifyEntry object fun entry =>
      { entry with users := entry.users + 1 }).entries) :
    (between.withdraw object).entries = before.entries := by
  have undone : (between.modifyEntry object fun entry =>
      { entry with users := entry.users - 1 }).entries = before.entries := by
    simp only [modifyEntry, same, List.map_map]
    calc before.entries.map _ = before.entries.map id := by
          apply List.map_congr_left
          intro entry _
          by_cases named : entry.object = object
          · subst named
            simp
          · simp [named]
      _ = before.entries := List.map_id _
  simp only [withdraw, undone, List.filter_eq_self]
  intro entry member
  have positive := used entry member
  simp only [Bool.not_eq_true', Bool.and_eq_false_iff, beq_eq_false_iff_ne]
  exact .inr (Nat.ne_of_gt positive)

/-- Registering an object that was not in use and withdrawing it leaves the entries as they
    were. -/
theorem entries_withdraw_unused {number : Nat} (missing : before.find? object = none)
    (same : between.entries = before.entries ++ [⟨object, number, 1⟩]) :
    (between.withdraw object).entries = before.entries := by
  have apart : ∀ entry ∈ before.entries, ¬entry.object = object := by
    intro entry member
    simpa using List.find?_eq_none.mp missing entry member
  have undone : (between.modifyEntry object fun entry =>
      { entry with users := entry.users - 1 }).entries =
      before.entries ++ [⟨object, number, 0⟩] := by
    simp only [modifyEntry, same, List.map_append, List.map_cons, List.map_nil,
      beq_self_eq_true, if_true, Nat.sub_self]
    congr 1
    calc before.entries.map _ = before.entries.map id := by
          apply List.map_congr_left
          intro entry member
          simp [apart entry member]
      _ = before.entries := List.map_id _
  have kept : before.entries.filter
      (fun entry => !(entry.object == object && entry.users == 0)) = before.entries := by
    rw [List.filter_eq_self]
    intro entry member
    simp [apart entry member]
  simp only [withdraw, undone, List.filter_append, kept]
  simp

/-- Registering an object and withdrawing it leaves the entries of an orderly table as they
    were. -/
theorem Orderly.entries_withdraw_register (orderly : before.Orderly)
    (same : between.entries = (before.register object).2.entries) :
    (between.withdraw object).entries = before.entries := by
  cases found : before.find? object with
  | none =>
    apply entries_withdraw_unused found
    simpa [register, found] using same
  | some entry =>
    apply entries_withdraw_used
    · intro member listed
      exact (orderly.backs _ member (find?_of_mem orderly.distinct listed)).used
    · simpa [register, found] using same

/-- A section that was entered can be left when the table is as it was then, and the table is as
    it was before. -/
theorem Orderly.leave_entered (orderly : before.Orderly) {inside ended : Sections}
    (entered : before.enter? thread object = some inside) (restored : inside.Restored ended) :
    ∃ left, ended.leave thread object = .ok left ∧ before.Restored left := by
  cases real : object.isNull with
  | true =>
    simp only [Sections.enter?, real, if_true, Option.some.injEq] at entered
    subst entered
    exact ⟨ended, by simp [Sections.leave, real], restored⟩
  | false =>
    obtain ⟨number, taken, consistent, acquired, same, lock, here, -⟩ :=
      orderly.enter?_eq_some real entered
    have releasable := consistent.release_acquire? acquired
    have insideOrderly := orderly.enter? entered
    obtain ⟨entry, found, named⟩ : ∃ entry, inside.find? object = some entry ∧
        entry.lock = number := by
      obtain ⟨-, -, new⟩ | ⟨old, -, rfl, counted⟩ := here
      · exact ⟨_, new, rfl⟩
      · exact ⟨_, counted, rfl⟩
    subst named
    have endedFound : ended.find? object = some entry := (restored.find? object).trans found
    have endedLock : (ended.lock entry.lock).release thread = .ok (before.lock entry.lock) := by
      rw [restored.lock, lock, releasable]
    have made : entry.lock < ended.locks.size := by
      have inserted := (insideOrderly.backs object entry found).made
      have size := restored.size
      omega
    -- What was registered on entering is withdrawn, and the lock is as free as it was before.
    refine ⟨(ended.setLock entry.lock (before.lock entry.lock)).withdraw object, ?_, ?_, ?_, ?_⟩
    · simp [Sections.leave, real, endedFound, endedLock, setLock]
    · apply orderly.entries_withdraw_register
      change ended.entries = (before.register object).2.entries
      rw [restored.entries, same]
      rfl
    · intro asked
      rw [lock_withdraw, lock_setLock]
      split
      · rename_i atNumber
        rw [atNumber.1]
      · rename_i elsewhere
        have different : entry.lock ≠ asked := fun atNumber => elsewhere ⟨atNumber, made⟩
        rw [restored.lock, same, lock_setLock, if_neg fun both => different both.1, lock_register]
    · change before.locks.size ≤ (ended.setLock entry.lock (before.lock entry.lock)).locks.size
      have grown : before.locks.size ≤ inside.locks.size := by
        rw [same, locks_size_setLock]
        exact locks_size_le_register before object
      rw [locks_size_setLock]
      exact Nat.le_trans grown restored.size

end Sections

end LateBinding
