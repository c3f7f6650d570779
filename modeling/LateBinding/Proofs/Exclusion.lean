import LateBinding.Proofs.SectionTable
import Mathlib.Data.Finset.Card

/-!
# Threads exclude one another

Threads enter a section in two moves and leave it in one, in any order between them. A
thread first registers as a user of the object and remembers the lock that the entry names,
and takes that lock in a move of its own, when it can; until then it does nothing else.

Between the two moves the entry of the object may lose all of its other users. It stays
because the waiting thread is counted. So there is an entry as long as somebody is inside or
waits, all of them use the one lock that it names, and that lock has one owner: the uses
that are counted are the levels at which the owner is inside and the threads that wait.
-/

namespace LateBinding

/-- A table of sections with the threads that use it, and what they have done. -/
structure Contention where
  sections : Sections
  /-- The object a thread has registered for and not entered, with the lock it remembers. -/
  waiting : Thread → Option (Object × Nat)
  /-- The locks a thread has taken for an object and not given back, the latest first. -/
  held : Thread → Object → List Nat
  /-- How many times a thread has come to be inside an object. -/
  enters : Thread → Object → Nat
  /-- How many times a thread has left an object with success. -/
  exits : Thread → Object → Nat

namespace Contention

/-- One move of a thread. -/
inductive Move where
  | register (thread : Thread) (object : Object)
  | acquire (thread : Thread)
  | leave (thread : Thread) (object : Object)

/-- Changes what belongs to a thread and an object. -/
def alter {α : Type} (values : Thread → Object → α) (thread : Thread) (object : Object)
    (change : α → α) : Thread → Object → α := fun other asked =>
  if other = thread ∧ asked = object then change (values other asked) else values other asked

/-- The state after a thread has registered for an object. -/
def registered (state : Contention) (thread : Thread) (object : Object) : Contention :=
  { state with
    sections := (state.sections.register object).2
    waiting := Function.update state.waiting thread
      (some (object, (state.sections.register object).1)) }

/-- The state after a thread has taken the lock that it waited for. -/
def acquired (state : Contention) (thread : Thread) (object : Object) (number : Nat)
    (sections : Sections) : Contention :=
  { sections
    waiting := Function.update state.waiting thread none
    held := alter state.held thread object (number :: ·)
    enters := alter state.enters thread object (· + 1)
    exits := state.exits }

/-- The state after a thread has left an object. -/
def departed (state : Contention) (thread : Thread) (object : Object) (sections : Sections) :
    Contention :=
  { state with
    sections
    held := alter state.held thread object List.tail
    exits := alter state.exits thread object (· + 1) }

/-- The state after a move, if the thread can make it. Nobody moves on the null object, a
    thread that waits can only take the lock it waits for, and only when that is free or its
    own. Leaving may be refused, and then nothing changes. -/
def move? (state : Contention) : Move → Option Contention
  | .register thread object =>
    if object.isNull || (state.waiting thread).isSome then none
    else some (state.registered thread object)
  | .acquire thread =>
    match state.waiting thread with
    | none => none
    | some (object, number) =>
      (state.sections.acquire? thread number).map (state.acquired thread object number)
  | .leave thread object =>
    if object.isNull || (state.waiting thread).isSome then none
    else
      match state.sections.leave thread object with
      | .ok sections => some (state.departed thread object sections)
      | .error _ => some state

/-- The state after moves in the given order, if all of them can be made. -/
def run? (state : Contention) (moves : List Move) : Option Contention :=
  moves.foldlM move? state

/-- An empty table that nobody uses. -/
def start : Contention where
  sections := .empty
  waiting _ := none
  held _ _ := []
  enters _ _ := 0
  exits _ _ := 0

/-- A thread has entered an object more often than it has left it. -/
def Inside (state : Contention) (thread : Thread) (object : Object) : Prop :=
  state.exits thread object < state.enters thread object

/-- A thread has registered for an object and not entered it yet. -/
def Waits (state : Contention) (thread : Thread) (object : Object) : Prop :=
  ∃ number, state.waiting thread = some (object, number)

/-- What holds of an object and its entry: each thread has taken the lock of the entry as
    often as the lock says, and the users are those levels and the threads that wait. -/
structure Governs (state : Contention) (object : Object) (entry : SectionEntry) : Prop where
  made : entry.lock < state.sections.locks.size
  held : ∀ thread, state.held thread object =
    List.replicate ((state.sections.lock entry.lock).depth thread) entry.lock
  owned : (state.sections.lock entry.lock).owner = none ↔
    (state.sections.lock entry.lock).count = 0
  users : ∃ waiters : Finset Thread, (∀ thread, thread ∈ waiters ↔ state.Waits thread object) ∧
    entry.users = (state.sections.lock entry.lock).count + waiters.card
  used : 0 < entry.users

/-- Entries, locks and threads are in order. -/
structure InOrder (state : Contention) : Prop where
  distinct : state.sections.Distinct
  apart : ∀ object other entry second, state.sections.find? object = some entry →
    state.sections.find? other = some second → entry.lock = second.lock → object = other
  governs : ∀ object entry, state.sections.find? object = some entry → state.Governs object entry
  unused : ∀ object, state.sections.find? object = none → ∀ thread, state.held thread object = []
  waits : ∀ thread object number, state.waiting thread = some (object, number) →
    ∃ entry, state.sections.find? object = some entry ∧ entry.lock = number
  counted : ∀ thread object, state.enters thread object =
    state.exits thread object + (state.held thread object).length

variable {state after : Contention} {thread : Thread} {object : Object}

/-- At the start everything is in order. -/
theorem start_inOrder : start.InOrder where
  distinct := List.nodup_nil
  apart _ _ _ _ found := by cases found
  governs _ _ found := by cases found
  unused _ _ _ := rfl
  waits _ _ _ waiting := by cases waiting
  counted _ _ := rfl

/-- An object is governed as before if its lock and its threads are as before. -/
theorem Governs.congr {entry : SectionEntry} (governs : state.Governs object entry)
    (size : state.sections.locks.size ≤ after.sections.locks.size)
    (lock : after.sections.lock entry.lock = state.sections.lock entry.lock)
    (held : ∀ thread, after.held thread object = state.held thread object)
    (waits : ∀ thread, after.Waits thread object ↔ state.Waits thread object) :
    after.Governs object entry where
  made := governs.made.trans_le size
  held thread := by rw [held, lock, governs.held]
  owned := by rw [lock, governs.owned]
  users := by
    obtain ⟨waiters, members, counted⟩ := governs.users
    exact ⟨waiters, fun thread => (members thread).trans (waits thread).symm, by rw [lock, counted]⟩
  used := governs.used

/-- What is altered for a thread and an object is altered there. -/
theorem alter_same {α : Type} (values : Thread → Object → α) (change : α → α) :
    alter values thread object change thread object = change (values thread object) :=
  if_pos ⟨rfl, rfl⟩

/-- It is the same for all others. -/
theorem alter_of_ne {α : Type} (values : Thread → Object → α) (change : α → α) {other : Thread}
    {asked : Object} (different : ¬(other = thread ∧ asked = object)) :
    alter values thread object change other asked = values other asked :=
  if_neg different

/-- A thread that registers waits for the object, and for nothing else. -/
theorem waits_registered (idle : state.waiting thread = none) (other : Thread) (asked : Object) :
    (state.registered thread object).Waits other asked ↔
      (other = thread ∧ asked = object) ∨ state.Waits other asked := by
  by_cases same : other = thread
  · subst same
    simp [registered, Waits, idle, eq_comm]
  · simp [registered, Waits, same]

/-- Registering for an object that is in use makes one user more. -/
theorem InOrder.registered_used (inOrder : state.InOrder) (idle : state.waiting thread = none)
    {entry : SectionEntry} (found : state.sections.find? object = some entry) :
    (state.registered thread object).Governs object { entry with users := entry.users + 1 } := by
  have governs := inOrder.governs object entry found
  have lock := @Sections.lock_register state.sections object entry.lock
  obtain ⟨waiters, members, counted⟩ := governs.users
  have absent : thread ∉ waiters := by
    rw [members, Waits, idle]
    rintro ⟨number, impossible⟩
    cases impossible
  refine ⟨?_, ?_, ?_, ⟨insert thread waiters, ?_, ?_⟩, Nat.succ_pos _⟩
  · rw [registered, Sections.locks_size_register, found]
    exact governs.made
  · intro other
    rw [registered, lock]
    exact governs.held other
  · rw [registered, lock]
    exact governs.owned
  · intro other
    rw [Finset.mem_insert, members, waits_registered idle]
    simp
  · rw [registered, lock, Finset.card_insert_of_notMem absent, counted, Nat.add_assoc]

/-- The first to register for an object makes a lock that is free. -/
theorem InOrder.registered_unused (inOrder : state.InOrder) (idle : state.waiting thread = none)
    (missing : state.sections.find? object = none) :
    (state.registered thread object).Governs object ⟨object, state.sections.locks.size, 1⟩ := by
  have free : (state.registered thread object).sections.lock state.sections.locks.size = .free := by
    rw [registered, Sections.lock_register, Sections.lock, Array.getD_eq_getD_getElem?,
      Array.getElem?_eq_none (Nat.le_refl _)]
    rfl
  refine ⟨?_, ?_, ?_, ⟨{thread}, ?_, ?_⟩, Nat.one_pos⟩
  · rw [registered, Sections.locks_size_register, missing]
    exact Nat.lt_succ_self _
  · intro other
    rw [free]
    exact inOrder.unused object missing other
  · rw [free]
    exact ⟨fun _ => rfl, fun _ => rfl⟩
  · intro other
    rw [Finset.mem_singleton, waits_registered idle]
    refine ⟨fun same => .inl ⟨same, rfl⟩, ?_⟩
    rintro (⟨same, -⟩ | ⟨number, waiting⟩)
    · exact same
    · obtain ⟨entry, found, -⟩ := inOrder.waits other object number waiting
      rw [missing] at found
      cases found
  · rw [free, Finset.card_singleton]
    rfl

/-- Two objects do not share a lock after registering: the new lock is not in use yet. -/
theorem InOrder.registered_apart (inOrder : state.InOrder) {first second : Object}
    {one two : SectionEntry}
    (foundFirst : (state.sections.register object).2.find? first = some one)
    (foundSecond : (state.sections.register object).2.find? second = some two)
    (sameLock : one.lock = two.lock) : first = second := by
  have unused : ∀ {asked entry}, state.sections.find? asked = some entry →
      entry.lock ≠ state.sections.locks.size :=
    fun found => Nat.ne_of_lt (inOrder.governs _ _ found).made
  rcases Sections.lock_of_find?_register foundFirst with ⟨old, before, lock⟩ | ⟨atFirst, new⟩
  · rcases Sections.lock_of_find?_register foundSecond with ⟨older, present, same⟩ | ⟨-, new⟩
    · apply inOrder.apart first second old older before present
      rw [← lock, sameLock, same]
    · exact absurd (lock.symm.trans (sameLock.trans new)) (unused before)
  · rcases Sections.lock_of_find?_register foundSecond with ⟨older, present, same⟩ | ⟨atSecond, -⟩
    · exact absurd (same.symm.trans (sameLock.symm.trans new)) (unused present)
    · exact atFirst.trans atSecond.symm

/-- Registering leaves all objects governed. -/
theorem InOrder.registered_governs (inOrder : state.InOrder) (idle : state.waiting thread = none)
    {other : Object} {entry : SectionEntry}
    (found : (state.sections.register object).2.find? other = some entry) :
    (state.registered thread object).Governs other entry := by
  rw [Sections.find?_register] at found
  split at found
  · rename_i same
    subst same
    rw [Option.some.injEq] at found
    cases before : state.sections.find? other with
    | some old =>
      rw [before] at found
      exact found ▸ inOrder.registered_used idle before
    | none =>
      rw [before] at found
      exact found ▸ inOrder.registered_unused idle before
  · rename_i different
    refine (inOrder.governs other entry found).congr ?_ ?_ (fun _ => rfl) ?_
    · rw [Contention.registered, Sections.locks_size_register]
      split
      · exact Nat.le_refl _
      · exact Nat.le_succ _
    · exact Sections.lock_register entry.lock
    · intro asking
      rw [waits_registered idle]
      exact ⟨fun given => given.resolve_left fun both => different both.2, .inr⟩

/-- After registering, every thread that waits remembers the lock of an entry. -/
theorem InOrder.registered_waits (inOrder : state.InOrder) {asking : Thread} {other : Object}
    {number : Nat}
    (waiting : (state.registered thread object).waiting asking = some (other, number)) :
    ∃ entry, (state.sections.register object).2.find? other = some entry ∧
      entry.lock = number := by
  by_cases same : asking = thread
  · subst same
    simp only [Contention.registered, Function.update_self, Option.some.injEq,
      Prod.mk.injEq] at waiting
    obtain ⟨rfl, rfl⟩ := waiting
    rw [Sections.find?_register, if_pos rfl, Sections.register_fst]
    refine ⟨_, rfl, ?_⟩
    cases state.sections.find? object with
    | some old => rfl
    | none => rfl
  · simp only [Contention.registered, Function.update_of_ne same] at waiting
    obtain ⟨old, before, lock⟩ := inOrder.waits asking other number waiting
    rw [Sections.find?_register]
    split
    · rename_i atObject
      rw [← atObject, before]
      exact ⟨_, rfl, lock⟩
    · exact ⟨old, before, lock⟩

/-- Registering keeps the state in order. -/
theorem InOrder.registered (inOrder : state.InOrder) (idle : state.waiting thread = none) :
    (state.registered thread object).InOrder where
  distinct := Sections.distinct_register inOrder.distinct
  apart _ _ _ _ := inOrder.registered_apart
  governs _ _ := inOrder.registered_governs idle
  unused other missing asking := by
    rw [Contention.registered, Sections.find?_register] at missing
    split at missing
    · cases missing
    · exact inOrder.unused other missing asking
  waits _ _ _ := inOrder.registered_waits
  counted := inOrder.counted

section

variable {number : Nat} {sections : Sections}

/-- The sections after an acquisition are those that it left. -/
@[simp] theorem acquired_sections :
    (state.acquired thread object number sections).sections = sections := rfl

/-- The thread holds one lock more. -/
@[simp] theorem acquired_held :
    (state.acquired thread object number sections).held =
      alter state.held thread object (number :: ·) := rfl

/-- The sections after a departure are those that it left. -/
@[simp] theorem departed_sections : (state.departed thread object sections).sections = sections :=
  rfl

/-- The thread holds one lock less. -/
@[simp] theorem departed_held :
    (state.departed thread object sections).held = alter state.held thread object List.tail := rfl

end

/-- A thread that has taken its lock waits no more. -/
theorem waits_acquired {number : Nat} {sections : Sections} (other : Thread) (asked : Object) :
    (state.acquired thread object number sections).Waits other asked ↔
      other ≠ thread ∧ state.Waits other asked := by
  by_cases same : other = thread
  · subst same
    simp [acquired, Waits]
  · simp [acquired, Waits, same]

/-- Taking the lock of an entry makes a waiting thread the owner, one level deeper. -/
theorem InOrder.acquired_governs (inOrder : state.InOrder) {entry : SectionEntry}
    (found : state.sections.find? object = some entry)
    (waits : state.waiting thread = some (object, entry.lock)) {lock : RecursiveLock}
    (taken : (state.sections.lock entry.lock).acquire? thread = some lock) :
    (state.acquired thread object entry.lock (state.sections.setLock entry.lock lock)).Governs
      object entry := by
  have governs := inOrder.governs object entry found
  have depth := RecursiveLock.depth_acquire? governs.owned.mp taken
  obtain ⟨waiters, members, counted⟩ := governs.users
  have member : thread ∈ waiters := (members thread).mpr ⟨_, waits⟩
  have now : (state.sections.setLock entry.lock lock).lock entry.lock = lock := by
    rw [Sections.lock_setLock, if_pos ⟨rfl, governs.made⟩]
  refine ⟨?_, ?_, ?_, ⟨waiters.erase thread, ?_, ?_⟩, governs.used⟩
  · simpa using governs.made
  · intro other
    rw [acquired_sections, acquired_held, now, depth]
    by_cases same : other = thread
    · subst same
      rw [alter_same, governs.held, if_pos rfl, List.replicate_succ]
    · rw [alter_of_ne _ _ fun both => same both.1, governs.held, if_neg same]
  · obtain ⟨rfl, -⟩ := RecursiveLock.acquire?_eq_some governs.owned.mp taken
    rw [acquired_sections, now]
    simp
  · intro other
    rw [Finset.mem_erase, members, waits_acquired]
  · obtain ⟨rfl, -⟩ := RecursiveLock.acquire?_eq_some governs.owned.mp taken
    have occupied := Finset.card_pos.mpr ⟨thread, member⟩
    rw [acquired_sections, now, Finset.card_erase_of_mem member, counted]
    dsimp only
    omega

/-- Taking the lock of one entry leaves the other objects governed. -/
theorem InOrder.acquired_governs_of_ne (inOrder : state.InOrder) {entry second : SectionEntry}
    (found : state.sections.find? object = some entry)
    (waits : state.waiting thread = some (object, entry.lock)) (lock : RecursiveLock)
    {other : Object} (different : other ≠ object)
    (foundOther : state.sections.find? other = some second) :
    (state.acquired thread object entry.lock (state.sections.setLock entry.lock lock)).Governs
      other second := by
  refine (inOrder.governs other second foundOther).congr (by simp) ?_ ?_ ?_
  · rw [acquired_sections, Sections.lock_setLock, if_neg]
    rintro ⟨sameLock, -⟩
    exact different (inOrder.apart other object second entry foundOther found sameLock.symm)
  · exact fun asking => alter_of_ne _ _ fun both => different both.2
  · intro asking
    rw [waits_acquired]
    refine ⟨fun given => given.2, fun given => ⟨?_, given⟩⟩
    rintro rfl
    obtain ⟨_, elsewhere⟩ := given
    rw [waits, Option.some.injEq, Prod.mk.injEq] at elsewhere
    exact different elsewhere.1.symm

/-- Taking a lock keeps the state in order. -/
theorem InOrder.acquired (inOrder : state.InOrder) {number : Nat} {sections : Sections}
    (waiting : state.waiting thread = some (object, number))
    (taken : state.sections.acquire? thread number = some sections) :
    (state.acquired thread object number sections).InOrder := by
  obtain ⟨entry, found, rfl⟩ := inOrder.waits thread object number waiting
  obtain ⟨lock, lockTaken, rfl⟩ := Sections.acquire?_eq_some taken
  refine ⟨inOrder.distinct, inOrder.apart, ?_, ?_, ?_, ?_⟩
  · intro other second foundOther
    by_cases same : other = object
    · subst same
      rw [Option.some.inj (foundOther.symm.trans found)]
      exact inOrder.acquired_governs found waiting lockTaken
    · exact inOrder.acquired_governs_of_ne found waiting lock same foundOther
  · intro other missing asking
    have different : other ≠ object := by
      rintro rfl
      exact absurd (missing.symm.trans found) (by simp)
    rw [acquired_held, alter_of_ne _ _ fun both => different both.2]
    exact inOrder.unused other missing asking
  · intro asking other number given
    by_cases same : asking = thread
    · subst same
      simp [Contention.acquired] at given
    · simp only [Contention.acquired, Function.update_of_ne same] at given
      exact inOrder.waits asking other number given
  · intro asking other
    have counted := inOrder.counted asking other
    simp only [Contention.acquired]
    by_cases same : asking = thread ∧ other = object
    · obtain ⟨rfl, rfl⟩ := same
      rw [alter_same, alter_same, List.length_cons, counted, Nat.add_assoc]
    · rw [alter_of_ne _ _ same, alter_of_ne _ _ same, counted]

/-- The owner that leaves an object gives back the latest level, and other threads have no
    level to give back. -/
theorem InOrder.departed_levels (inOrder : state.InOrder) {entry : SectionEntry}
    (found : state.sections.find? object = some entry) {released : RecursiveLock}
    (left : (state.sections.lock entry.lock).release thread = .ok released) (other : Thread) :
    alter state.held thread object List.tail other object =
      List.replicate (released.depth other) entry.lock := by
  have held := (inOrder.governs object entry found).held other
  rw [RecursiveLock.depth_release left]
  by_cases same : other = thread
  · subst same
    rw [alter_same, held, List.tail_replicate]
  · obtain ⟨owner, -, -⟩ := RecursiveLock.release_eq_ok left
    rw [RecursiveLock.depth_eq, owner, if_neg (by simp [Ne.symm same])] at held ⊢
    rw [alter_of_ne _ _ fun both => same both.1, held]

/-- Leaving takes one use from the entry. What remains are the levels still held and the
    threads that wait. -/
theorem InOrder.departed_users (inOrder : state.InOrder) {entry : SectionEntry}
    (found : state.sections.find? object = some entry) {released : RecursiveLock}
    (left : (state.sections.lock entry.lock).release thread = .ok released) :
    ∃ waiters : Finset Thread, (∀ other, other ∈ waiters ↔ state.Waits other object) ∧
      entry.users - 1 = released.count + waiters.card := by
  obtain ⟨waiters, members, counted⟩ := (inOrder.governs object entry found).users
  obtain ⟨-, positive, -⟩ := RecursiveLock.release_eq_ok left
  have count := RecursiveLock.count_release left
  exact ⟨waiters, members, by omega⟩

/-- Leaving an object that stays in use leaves it governed. -/
theorem InOrder.departed_governs (inOrder : state.InOrder) {entry : SectionEntry}
    (found : state.sections.find? object = some entry) {released : RecursiveLock}
    (left : (state.sections.lock entry.lock).release thread = .ok released)
    (remaining : entry.users - 1 ≠ 0) :
    (state.departed thread object ((state.sections.setLock entry.lock released).withdraw
      object)).Governs object { entry with users := entry.users - 1 } := by
  have governs := inOrder.governs object entry found
  have now : (state.sections.setLock entry.lock released).lock entry.lock = released := by
    rw [Sections.lock_setLock, if_pos ⟨rfl, governs.made⟩]
  obtain ⟨waiters, members, users⟩ := inOrder.departed_users found left
  refine ⟨?_, ?_, ?_, ⟨waiters, members, ?_⟩, Nat.pos_of_ne_zero remaining⟩
  · exact governs.made.trans_le (Sections.locks_size_setLock _ _).ge
  · intro asking
    rw [departed_sections, Sections.lock_withdraw, now]
    exact inOrder.departed_levels found left asking
  · rw [departed_sections, Sections.lock_withdraw, now]
    exact RecursiveLock.owner_release left
  · rw [departed_sections, Sections.lock_withdraw, now]
    exact users

/-- Leaving one object leaves the others governed. -/
theorem InOrder.departed_governs_of_ne (inOrder : state.InOrder) {entry second : SectionEntry}
    (found : state.sections.find? object = some entry) (released : RecursiveLock) {other : Object}
    (different : other ≠ object) (foundOther : state.sections.find? other = some second) :
    (state.departed thread object ((state.sections.setLock entry.lock released).withdraw
      object)).Governs other second := by
  refine (inOrder.governs other second foundOther).congr ?_ ?_ ?_ (fun _ => Iff.rfl)
  · exact (Sections.locks_size_setLock _ _).ge
  · rw [departed_sections, Sections.lock_withdraw, Sections.lock_setLock, if_neg]
    rintro ⟨sameLock, -⟩
    exact different (inOrder.apart other object second entry foundOther found sameLock.symm)
  · exact fun asking => alter_of_ne _ _ fun both => different both.2

/-- Leaving an object counts one more exit for each level given back. -/
theorem InOrder.departed_counted (inOrder : state.InOrder) {entry : SectionEntry}
    (found : state.sections.find? object = some entry) {released : RecursiveLock}
    (left : (state.sections.lock entry.lock).release thread = .ok released) (asking : Thread)
    (other : Object) :
    state.enters asking other = alter state.exits thread object (· + 1) asking other +
      (alter state.held thread object List.tail asking other).length := by
  have counted := inOrder.counted asking other
  by_cases same : asking = thread ∧ other = object
  · obtain ⟨rfl, rfl⟩ := same
    have deep : 0 < (state.held asking other).length := by
      obtain ⟨owner, positive, -⟩ := RecursiveLock.release_eq_ok left
      rw [(inOrder.governs other entry found).held, List.length_replicate,
        RecursiveLock.depth_eq, if_pos owner]
      exact positive
    rw [alter_same, alter_same, List.length_tail, counted]
    omega
  · rw [alter_of_ne _ _ same, alter_of_ne _ _ same, counted]

/-- Leaving keeps the state in order. The entry goes only if nobody is left who waits. -/
theorem InOrder.departed (inOrder : state.InOrder) {sections : Sections}
    (real : object.isNull = false) (left : state.sections.leave thread object = .ok sections) :
    (state.departed thread object sections).InOrder := by
  obtain ⟨entry, released, found, lockReleased, rfl⟩ := Sections.leave_eq_ok real left
  have distinct : (state.sections.setLock entry.lock released).Distinct := inOrder.distinct
  have reads : ∀ other, ((state.sections.setLock entry.lock released).withdraw object).find? other =
      if other = object then
        if entry.users - 1 = 0 then none else some { entry with users := entry.users - 1 }
      else state.sections.find? other := by
    intro other
    rw [Sections.find?_withdraw distinct, Sections.find?_setLock, Sections.find?_setLock, found,
      Option.bind_some]
  refine ⟨Sections.distinct_withdraw distinct, ?_, ?_, ?_, ?_, ?_⟩
  · intro first second one two foundFirst foundSecond sameLock
    obtain ⟨old, before, lock⟩ := Sections.lock_of_find?_withdraw distinct foundFirst
    obtain ⟨older, present, same⟩ := Sections.lock_of_find?_withdraw distinct foundSecond
    apply inOrder.apart first second old older before present
    rw [← lock, sameLock, same]
  · intro other second given
    rw [departed_sections, reads] at given
    split at given
    · rename_i same
      subst same
      split at given
      · cases given
      · rename_i remaining
        cases given
        exact inOrder.departed_governs found lockReleased remaining
    · rename_i different
      exact inOrder.departed_governs_of_ne found released different given
  · intro other missing asking
    rw [departed_sections, reads] at missing
    rw [departed_held]
    split at missing
    · rename_i same
      subst same
      split at missing
      · obtain ⟨waiters, -, users⟩ := inOrder.departed_users found lockReleased
        have none : released.count = 0 := by omega
        rw [inOrder.departed_levels found lockReleased, RecursiveLock.depth_eq, none, ite_self]
        rfl
      · cases missing
    · rename_i different
      rw [alter_of_ne _ _ fun both => different both.2]
      exact inOrder.unused other missing asking
  -- Whoever waits counts as a user, so the entry is not withdrawn under its feet.
  · intro asking other number waiting
    obtain ⟨before, foundBefore, lock⟩ := inOrder.waits asking other number waiting
    rw [departed_sections, reads]
    split
    · rename_i same
      subst same
      obtain ⟨waiters, members, users⟩ := inOrder.departed_users found lockReleased
      have waits : asking ∈ waiters := (members asking).mpr ⟨number, waiting⟩
      have occupied := Finset.card_pos.mpr ⟨asking, waits⟩
      rw [if_neg (by omega)]
      refine ⟨_, rfl, ?_⟩
      rw [← lock, Option.some.inj (found.symm.trans foundBefore)]
    · exact ⟨before, foundBefore, lock⟩
  · exact inOrder.departed_counted found lockReleased

/-- A move keeps the state in order, whoever makes it. -/
theorem InOrder.move (inOrder : state.InOrder) {move : Move}
    (moved : state.move? move = some after) : after.InOrder := by
  cases move with
  | register thread object =>
    simp only [move?, Option.ite_none_left_eq_some, Bool.or_eq_true, not_or, Bool.not_eq_true,
      Option.isSome_eq_false_iff, Option.isNone_iff_eq_none, Option.some.injEq] at moved
    obtain ⟨⟨-, idle⟩, rfl⟩ := moved
    exact inOrder.registered idle
  | acquire thread =>
    simp only [move?] at moved
    split at moved
    · cases moved
    · rename_i object number waiting
      obtain ⟨sections, taken, rfl⟩ := Option.map_eq_some_iff.mp moved
      exact inOrder.acquired waiting taken
  | leave thread object =>
    simp only [move?, Option.ite_none_left_eq_some, Bool.or_eq_true, not_or, Bool.not_eq_true,
      Option.isSome_eq_false_iff, Option.isNone_iff_eq_none] at moved
    obtain ⟨⟨real, -⟩, moved⟩ := moved
    split at moved
    · rename_i sections left
      cases moved
      exact inOrder.departed real left
    · cases moved
      exact inOrder

/-- Any moves in any order keep the state in order. -/
theorem InOrder.run (inOrder : state.InOrder) {moves : List Move}
    (ran : state.run? moves = some after) : after.InOrder := by
  induction moves generalizing state with
  | nil =>
    cases ran
    exact inOrder
  | cons move moves inductionHypothesis =>
    obtain ⟨next, moved, rest⟩ := Option.bind_eq_some_iff.mp ran
    exact inductionHypothesis (inOrder.move moved) rest

/-- The levels at which a thread is inside an object in use are those its lock counts. -/
theorem InOrder.levels (inOrder : state.InOrder) {entry : SectionEntry}
    (found : state.sections.find? object = some entry) (thread : Thread) :
    state.enters thread object - state.exits thread object =
      (state.sections.lock entry.lock).depth thread := by
  rw [inOrder.counted, (inOrder.governs object entry found).held, List.length_replicate,
    Nat.add_sub_cancel_left]

/-- A thread is inside an object if it owns the lock that the entry of the object names. -/
theorem InOrder.inside_iff (inOrder : state.InOrder) (thread : Thread) (object : Object) :
    state.Inside thread object ↔ ∃ entry, state.sections.find? object = some entry ∧
      (state.sections.lock entry.lock).owner = some thread := by
  cases found : state.sections.find? object with
  | none =>
    rw [Inside, inOrder.counted, inOrder.unused object found]
    simp
  | some entry =>
    have levels := inOrder.levels found thread
    rw [RecursiveLock.depth_eq] at levels
    have owned := (inOrder.governs object entry found).owned
    rw [Inside]
    constructor
    · intro inside
      refine ⟨entry, rfl, ?_⟩
      by_contra other
      rw [if_neg other] at levels
      omega
    · rintro ⟨_, same, owner⟩
      cases same
      have positive : (state.sections.lock entry.lock).count ≠ 0 := by
        rw [Ne, ← owned, owner]
        simp
      rw [if_pos owner] at levels
      omega

/-- Nobody is inside an object in use if its lock has no owner. -/
theorem InOrder.nobody_inside (inOrder : state.InOrder) {entry : SectionEntry}
    (found : state.sections.find? object = some entry)
    (ownerless : (state.sections.lock entry.lock).owner = none) (thread : Thread) :
    ¬state.Inside thread object := by
  rw [inOrder.inside_iff]
  rintro ⟨_, same, owner⟩
  cases found.symm.trans same
  cases ownerless.symm.trans owner

/-- One thread at most is inside an object. -/
theorem InOrder.inside_unique (inOrder : state.InOrder) {first second : Thread}
    (firstInside : state.Inside first object) (secondInside : state.Inside second object) :
    first = second := by
  obtain ⟨entry, found, owner⟩ := (inOrder.inside_iff first object).mp firstInside
  obtain ⟨_, same, otherOwner⟩ := (inOrder.inside_iff second object).mp secondInside
  cases found.symm.trans same
  exact Option.some.inj (owner.symm.trans otherOwner)

/-- The users of an entry are the levels of the thread inside, if there is one, and the
    threads that wait. -/
theorem InOrder.users (inOrder : state.InOrder) {entry : SectionEntry}
    (found : state.sections.find? object = some entry) :
    ∃ waiters : Finset Thread, (∀ thread, thread ∈ waiters ↔ state.Waits thread object) ∧
      ((∃ holder, state.Inside holder object ∧ entry.users =
          (state.enters holder object - state.exits holder object) + waiters.card) ∨
        ((∀ thread, ¬state.Inside thread object) ∧ entry.users = waiters.card)) := by
  have governs := inOrder.governs object entry found
  obtain ⟨waiters, members, counted⟩ := governs.users
  refine ⟨waiters, members, ?_⟩
  cases owner : (state.sections.lock entry.lock).owner with
  | none =>
    refine .inr ⟨inOrder.nobody_inside found owner, ?_⟩
    rw [counted, governs.owned.mp owner, Nat.zero_add]
  | some holder =>
    refine .inl ⟨holder, (inOrder.inside_iff holder object).mpr ⟨entry, found, owner⟩, ?_⟩
    rw [inOrder.levels found, RecursiveLock.depth_eq, if_pos owner, counted]

/-- An object is in use if somebody is inside or waits. -/
theorem InOrder.find?_isSome (inOrder : state.InOrder) (object : Object) :
    (state.sections.find? object).isSome ↔
      ∃ thread, state.Inside thread object ∨ state.Waits thread object := by
  rw [Option.isSome_iff_exists]
  constructor
  · rintro ⟨entry, found⟩
    obtain ⟨waiters, members, ⟨holder, inside, -⟩ | ⟨-, counted⟩⟩ := inOrder.users found
    · exact ⟨holder, .inl inside⟩
    · have used := (inOrder.governs object entry found).used
      rw [counted, Finset.card_pos] at used
      obtain ⟨thread, member⟩ := used
      exact ⟨thread, .inr ((members thread).mp member)⟩
  · rintro ⟨thread, inside | ⟨number, waiting⟩⟩
    · obtain ⟨entry, found, -⟩ := (inOrder.inside_iff thread object).mp inside
      exact ⟨entry, found⟩
    · obtain ⟨entry, found, -⟩ := inOrder.waits thread object number waiting
      exact ⟨entry, found⟩

/-- What leaving says depends on who is inside alone: the thread itself, another one, or
    nobody, even if some thread waits. -/
theorem InOrder.leave (inOrder : state.InOrder) (real : object.isNull = false) (thread : Thread) :
    (state.Inside thread object ∧ ∃ sections, state.sections.leave thread object = .ok sections) ∨
    ((∃ other, other ≠ thread ∧ state.Inside other object) ∧
      state.sections.leave thread object = .error .lockNotOwned) ∨
    ((∀ other, ¬state.Inside other object) ∧
      state.sections.leave thread object = .error .sectionNotEntered) := by
  unfold Sections.leave
  rw [real]
  cases found : state.sections.find? object with
  | none =>
    refine .inr (.inr ⟨fun other inside => ?_, by simp⟩)
    obtain ⟨entry, present, -⟩ := (inOrder.inside_iff other object).mp inside
    cases found.symm.trans present
  | some entry =>
    have owned := (inOrder.governs object entry found).owned
    cases owner : (state.sections.lock entry.lock).owner with
    | none =>
      refine .inr (.inr ⟨inOrder.nobody_inside found owner, ?_⟩)
      simp [RecursiveLock.release, owner]
    | some holder =>
      have inside := (inOrder.inside_iff holder object).mpr ⟨entry, found, owner⟩
      have positive : (state.sections.lock entry.lock).count ≠ 0 := by
        rw [Ne, ← owned, owner]
        simp
      by_cases same : holder = thread
      · subst same
        refine .inl ⟨inside, ?_⟩
        by_cases once : (state.sections.lock entry.lock).count = 1
        · simp [RecursiveLock.release, owner, once]
        · simp [RecursiveLock.release, owner, positive, once]
      · refine .inr (.inl ⟨⟨holder, same, inside⟩, ?_⟩)
        simp [RecursiveLock.release, owner, positive, same]

/-- However threads interleave, one of them at most is inside an object; each thread that is
    inside or waits uses the lock of the entry the object has now; there is an entry exactly
    while somebody is inside or waits, and its users are the levels of the thread inside and
    the threads that wait; and leaving tells who is inside. -/
theorem exclusive {moves : List Move} (ran : start.run? moves = some state) (object : Object) :
    (∀ first second, state.Inside first object → state.Inside second object → first = second) ∧
    (∀ thread, state.Inside thread object → ∃ entry,
      state.sections.find? object = some entry ∧
      state.held thread object = List.replicate
        (state.enters thread object - state.exits thread object) entry.lock ∧
      (state.sections.lock entry.lock).owner = some thread) ∧
    (∀ thread number, state.waiting thread = some (object, number) → ∃ entry,
      state.sections.find? object = some entry ∧ entry.lock = number) ∧
    ((state.sections.find? object).isSome ↔
      ∃ thread, state.Inside thread object ∨ state.Waits thread object) ∧
    (∀ entry, state.sections.find? object = some entry → 0 < entry.users ∧
      ∃ waiters : Finset Thread, (∀ thread, thread ∈ waiters ↔ state.Waits thread object) ∧
        ((∃ holder, state.Inside holder object ∧ entry.users =
            (state.enters holder object - state.exits holder object) + waiters.card) ∨
          ((∀ thread, ¬state.Inside thread object) ∧ entry.users = waiters.card))) ∧
    (object.isNull = false → ∀ thread,
      (state.Inside thread object ∧ ∃ sections, state.sections.leave thread object = .ok sections) ∨
      ((∃ other, other ≠ thread ∧ state.Inside other object) ∧
        state.sections.leave thread object = .error .lockNotOwned) ∨
      ((∀ other, ¬state.Inside other object) ∧
        state.sections.leave thread object = .error .sectionNotEntered)) := by
  have inOrder := start_inOrder.run ran
  refine ⟨fun _ _ => inOrder.inside_unique, ?_, ?_, inOrder.find?_isSome object, ?_, ?_⟩
  · intro thread inside
    obtain ⟨entry, found, owner⟩ := (inOrder.inside_iff thread object).mp inside
    refine ⟨entry, found, ?_, owner⟩
    rw [inOrder.levels found]
    exact (inOrder.governs object entry found).held thread
  · exact fun thread number => inOrder.waits thread object number
  · exact fun entry found => ⟨(inOrder.governs object entry found).used, inOrder.users found⟩
  · exact fun real thread => inOrder.leave real thread

/-- A thread that was inside twice leaves twice while another waits. -/
def handover (object : Object) : List Move :=
  [.register (.spawned 1) object, .acquire (.spawned 1), .register (.spawned 1) object,
    .acquire (.spawned 1), .register (.spawned 2) object, .leave (.spawned 1) object,
    .leave (.spawned 1) object]

/-- After the handover the entry stays for the thread that waits, with the lock it
    remembers. -/
theorem exclusive_of_handover :
    ∃ state, start.run? (handover (.address 8)) = some state ∧
      ∃ entry, state.sections.find? (.address 8) = some entry ∧ entry.lock = 0 ∧
        0 < entry.users := by
  have possible : (start.run? (handover (.address 8))).isSome := by decide
  obtain ⟨-, -, waits, -, users, -⟩ := exclusive (Option.some_get possible).symm (.address 8)
  obtain ⟨entry, found, lock⟩ := waits (.spawned 2) 0 rfl
  exact ⟨_, (Option.some_get possible).symm, entry, found, lock, (users entry found).1⟩

end Contention

end LateBinding
