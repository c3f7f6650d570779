import LateBinding.Lock.Guarded
import LateBinding.Proofs.LockBalance
import Mathlib.Data.List.Nodup

/-!
# Guards are given up in any order

Here the guards of a guarded value are told apart. A guard has a number of its own, and it is the
thread that took it that gives it up, which need not be in the reverse order of taking. Giving one
up releases the lock once, and a release that failed would be the end of the program.

It never fails. The lock is held once for each guard that is alive, and its owner is the thread
that has them all. So which guard is given up makes no difference to the lock, and while a thread
can reach the value no other thread has a guard. Between two moves of one thread the others may
make any moves that need no waiting; the count of the guards that are alive ties the histories of
all threads together.
-/

namespace LateBinding

/-- A guard, and the thread that has it. A guard stays with the thread that took it. -/
structure Guard where
  number : Nat
  holder : Thread
deriving DecidableEq

/-- A guarded value together with its guards. -/
structure Custody (α : Type) where
  guarded : Guarded α
  /-- The guards that are alive, the latest first. -/
  live : List Guard
  /-- The number of guards taken so far. -/
  taken : Nat

namespace Custody

variable {α : Type}

/-- What threads do with a guarded value. -/
inductive Move (α : Type) where
  | lock (thread : Thread)
  | tryLock (thread : Thread)
  /-- The thread that has this guard gives it up. -/
  | drop (number : Nat)
  /-- The thread that has this guard changes the value through it. -/
  | update (number : Nat) (change : α → α)

/-- A value that nobody has a guard of. -/
def start (value : α) : Custody α := ⟨.new value, [], 0⟩

/-- The guard with a number, if it is alive. -/
def find? (custody : Custody α) (number : Nat) : Option Guard :=
  custody.live.find? (·.number == number)

/-- Hands the next guard to a thread that has got the lock. -/
def hand (custody : Custody α) (guarded : Guarded α) (thread : Thread) : Custody α where
  guarded := guarded
  live := ⟨custody.taken, thread⟩ :: custody.live
  taken := custody.taken + 1

/-- Makes a move. There is no result where the thread has to wait, or has no such guard. An error
    is that of a release, and fatal. -/
def step? (custody : Custody α) : Move α → Option (Except Error (Custody α))
  | .lock thread =>
    (custody.guarded.guard? thread).map fun guarded => .ok (custody.hand guarded thread)
  | .tryLock thread =>
    match custody.guarded.lock.tryAcquire thread with
    | (true, lock) =>
      let guards := thread :: custody.guarded.guards
      some (.ok (custody.hand { custody.guarded with lock, guards } thread))
    | (false, lock) => some (.ok { custody with guarded := { custody.guarded with lock } })
  | .drop number =>
    (custody.find? number).map fun guard =>
      (custody.guarded.giveUp guard.holder).map fun guarded =>
        { custody with guarded, live := custody.live.erase guard }
  | .update number change =>
    (custody.find? number).bind fun guard =>
      (custody.guarded.update? guard.holder change).map fun guarded => .ok { custody with guarded }

/-- Makes moves in the given order, up to the first that is fatal. -/
def run? (custody : Custody α) : List (Move α) → Option (Except Error (Custody α))
  | [] => some (.ok custody)
  | move :: rest =>
    match custody.step? move with
    | none => none
    | some (.error error) => some (.error error)
    | some (.ok next) => next.run? rest

/-- The lock, and what the value knows of its guards, agree with the guards that are alive. -/
structure Tied (custody : Custody α) : Prop where
  consistent : custody.guarded.lock.Consistent
  count : custody.guarded.lock.count = custody.live.length
  owned : ∀ guard ∈ custody.live, custody.guarded.lock.owner = some guard.holder
  known : custody.guarded.guards.Perm (custody.live.map Guard.holder)
  fresh : ∀ guard ∈ custody.live, guard.number < custody.taken
  distinct : (custody.live.map Guard.number).Nodup

variable {custody next last : Custody α} {thread : Thread}

/-- At the start no guard is out. -/
theorem tied_start (value : α) : (start value).Tied where
  consistent := RecursiveLock.consistent_free
  count := rfl
  owned guard member := by cases member
  known := .nil
  fresh guard member := by cases member
  distinct := .nil

namespace Tied

/-- A guard that is alive is found by its number. -/
theorem find?_of_mem (tied : custody.Tied) {guard : Guard} (member : guard ∈ custody.live) :
    custody.find? guard.number = some guard := by
  have found : (custody.find? guard.number).isSome := by
    rw [find?, List.find?_isSome]
    exact ⟨guard, member, beq_self_eq_true _⟩
  obtain ⟨other, same⟩ := Option.isSome_iff_exists.mp found
  have number : other.number = guard.number := by simpa using List.find?_some same
  have unique := List.inj_on_of_nodup_map tied.distinct (List.mem_of_find?_eq_some same) member
  rw [same, unique number]

/-- The lock has no owner exactly if no guard is alive. -/
theorem owner_eq_none_iff (tied : custody.Tied) :
    custody.guarded.lock.owner = none ↔ custody.live = [] := by
  have consistent : custody.guarded.lock.owner = none ↔ custody.guarded.lock.count = 0 :=
    tied.consistent
  rw [consistent, tied.count, List.length_eq_zero_iff]

/-- All guards that are alive belong to one thread. -/
theorem holder_eq (tied : custody.Tied) {one other : Guard} (first : one ∈ custody.live)
    (second : other ∈ custody.live) : one.holder = other.holder :=
  Option.some.inj ((tied.owned one first).symm.trans (tied.owned other second))

/-- A thread is known to have a guard exactly if one of its guards is alive. -/
theorem mem_guards_iff (tied : custody.Tied) :
    thread ∈ custody.guarded.guards ↔ ∃ guard ∈ custody.live, guard.holder = thread := by
  rw [tied.known.mem_iff, List.mem_map]

/-- A thread can take the lock exactly if no other thread has a guard. -/
theorem acquire?_isSome_iff (tied : custody.Tied) :
    (custody.guarded.lock.acquire? thread).isSome ↔
      ∀ guard ∈ custody.live, guard.holder = thread := by
  rw [RecursiveLock.acquire?_isSome_iff, tied.owner_eq_none_iff]
  constructor
  · rintro (none | own) guard member
    · rw [none] at member
      cases member
    · rw [tied.owned guard member, Option.some.injEq] at own
      exact own
  · intro alone
    cases live : custody.live with
    | nil => exact .inl rfl
    | cons guard rest =>
      have member : guard ∈ custody.live := by simp [live]
      exact .inr (by rw [tied.owned guard member, alone guard member])

/-- The owner of the lock gets one more guard. -/
theorem hand (tied : custody.Tied) {lock : RecursiveLock}
    (acquired : custody.guarded.lock.acquire? thread = some lock) :
    (custody.hand ⟨custody.guarded.value, lock, thread :: custody.guarded.guards⟩ thread).Tied := by
  have alone := tied.acquire?_isSome_iff.mp (by rw [acquired]; rfl)
  obtain ⟨rfl, -⟩ := RecursiveLock.acquire?_eq_some tied.consistent.mp acquired
  refine ⟨RecursiveLock.consistent_acquire? tied.consistent acquired, ?_, ?_, ?_, ?_, ?_⟩
  · exact congrArg (· + 1) tied.count
  · intro guard member
    rcases List.mem_cons.mp member with rfl | older
    · rfl
    · exact congrArg some (alone guard older).symm
  · exact tied.known.cons thread
  · intro guard member
    rcases List.mem_cons.mp member with rfl | older
    · exact Nat.lt_succ_self _
    · exact Nat.lt_succ_of_lt (tied.fresh guard older)
  · refine List.nodup_cons.mpr ⟨fun reused => ?_, tied.distinct⟩
    obtain ⟨guard, older, same⟩ := List.mem_map.mp reused
    exact absurd same (Nat.ne_of_lt (tied.fresh guard older))

/-- Any guard that is alive can be given up, and that leaves the others. -/
theorem giveUp (tied : custody.Tied) {guard : Guard} (member : guard ∈ custody.live) :
    ∃ next, custody.step? (.drop guard.number) = some (.ok next) ∧ next.Tied ∧
      next.live = custody.live.erase guard ∧ next.guarded.value = custody.guarded.value := by
  have owner := tied.owned guard member
  obtain ⟨lock, released⟩ : ∃ lock, custody.guarded.lock.release guard.holder = .ok lock := by
    obtain ⟨-, given⟩ | ⟨free, -⟩ | ⟨⟨other, foreign, owned⟩, -⟩ :=
      tied.consistent.release_cases guard.holder
    · exact given
    · rw [owner] at free
      cases free
    · rw [owner, Option.some.injEq] at owned
      exact absurd owned.symm foreign
  have count : lock.count = (custody.live.erase guard).length := by
    rw [RecursiveLock.count_release released, tied.count, List.length_erase_of_mem member]
  have owned : ∀ other ∈ custody.live.erase guard, lock.owner = some other.holder := by
    -- While a guard is left the lock is held, and it keeps its owner as long as it is held.
    intro other left
    have held : lock.count ≠ 0 := by
      rw [count]
      exact Nat.ne_of_gt (List.length_pos_of_mem left)
    obtain ⟨-, -, rfl⟩ := RecursiveLock.release_eq_ok released
    split at held
    · exact absurd rfl held
    · rename_i again
      rw [if_neg again, tied.holder_eq (List.mem_of_mem_erase left) member]
  have known : (custody.guarded.guards.erase guard.holder).Perm
      ((custody.live.erase guard).map Guard.holder) := by
    have split := (List.perm_cons_erase member).map Guard.holder
    have erased := (tied.known.trans split).erase guard.holder
    rwa [List.map_cons, List.erase_cons_head] at erased
  let after : Custody α :=
    { custody with
      guarded := { custody.guarded with lock, guards := custody.guarded.guards.erase guard.holder }
      live := custody.live.erase guard }
  have dropped : custody.step? (.drop guard.number) = some (.ok after) := by
    simp only [step?, tied.find?_of_mem member, Guarded.giveUp, released, Option.map_some,
      Except.map, after]
  exact ⟨after, dropped,
    { consistent := RecursiveLock.owner_release released
      count := count
      owned := owned
      known := known
      fresh := fun other left => tied.fresh other (List.mem_of_mem_erase left)
      distinct := tied.distinct.sublist (List.erase_sublist.map _) }, rfl, rfl⟩

/-- No move is fatal, and every move keeps the lock tied to its guards. -/
theorem step (tied : custody.Tied) {move : Move α} {result : Except Error (Custody α)}
    (moved : custody.step? move = some result) : ∃ next, result = .ok next ∧ next.Tied := by
  cases move with
  | lock thread =>
    obtain ⟨guarded, given, rfl⟩ := Option.map_eq_some_iff.mp moved
    obtain ⟨lock, acquired, rfl⟩ := Option.map_eq_some_iff.mp given
    exact ⟨_, rfl, tied.hand acquired⟩
  | tryLock thread =>
    obtain ⟨lock, acquired, tried⟩ | ⟨-, tried⟩ :=
      RecursiveLock.tryAcquire_cases custody.guarded.lock thread
    · simp only [step?, tried, Option.some.injEq] at moved
      subst moved
      exact ⟨_, rfl, tied.hand acquired⟩
    · simp only [step?, tried, Option.some.injEq] at moved
      subst moved
      exact ⟨_, rfl, tied⟩
  | drop number =>
    obtain ⟨guard, found, -⟩ := Option.map_eq_some_iff.mp moved
    have named : guard.number = number := by simpa using List.find?_some found
    obtain ⟨next, dropped, nextTied, -⟩ := tied.giveUp (List.mem_of_find?_eq_some found)
    rw [← named, dropped, Option.some.injEq] at moved
    exact ⟨next, moved.symm, nextTied⟩
  | update number change =>
    obtain ⟨guard, -, changed⟩ := Option.bind_eq_some_iff.mp moved
    obtain ⟨guarded, reached, rfl⟩ := Option.map_eq_some_iff.mp changed
    unfold Guarded.update? at reached
    split at reached
    · cases reached
      exact ⟨_, rfl, tied.consistent, tied.count, tied.owned, tied.known, tied.fresh, tied.distinct⟩
    · cases reached

/-- No run is fatal, and every run keeps the lock tied to its guards. -/
theorem run (tied : custody.Tied) {moves : List (Move α)} {result : Except Error (Custody α)}
    (ran : custody.run? moves = some result) : ∃ last, result = .ok last ∧ last.Tied := by
  induction moves generalizing custody with
  | nil =>
    cases ran
    exact ⟨custody, rfl, tied⟩
  | cons move rest inductionHypothesis =>
    rw [run?] at ran
    split at ran
    · cases ran
    · rename_i error moved
      obtain ⟨next, impossible, -⟩ := tied.step moved
      cases impossible
    · rename_i next moved
      obtain ⟨same, equal, nextTied⟩ := tied.step moved
      cases equal
      exact inductionHypothesis nextTied ran

/-- The guards that are alive can be given up in any order, and the lock is free then. -/
theorem drain (tied : custody.Tied) {order : List Guard} (listed : order.Perm custody.live) :
    ∃ last, custody.run? (order.map fun guard => .drop guard.number) = some (.ok last) ∧
      last.live = [] ∧ last.guarded.lock = .free ∧
      last.guarded.value = custody.guarded.value := by
  induction order generalizing custody with
  | nil =>
    have empty : custody.live = [] := listed.nil_eq.symm
    have count := tied.count
    have owner := tied.owner_eq_none_iff.mpr empty
    rw [empty] at count
    refine ⟨custody, rfl, empty, ?_, rfl⟩
    cases lock : custody.guarded.lock with
    | mk holder depth =>
      rw [lock] at owner count
      change holder = none at owner
      change depth = 0 at count
      rw [owner, count, RecursiveLock.free]
  | cons guard rest inductionHypothesis =>
    have member : guard ∈ custody.live := listed.subset List.mem_cons_self
    obtain ⟨next, dropped, nextTied, left, value⟩ := tied.giveUp member
    have remaining : rest.Perm next.live := by
      rw [left]
      exact (List.cons_perm_iff_perm_erase.mp listed).2
    obtain ⟨last, ran, none, free, same⟩ := inductionHypothesis nextTied remaining
    refine ⟨last, ?_, none, free, same.trans value⟩
    rw [List.map_cons, run?, dropped]
    exact ran

/-- A thread reaches the value exactly if there are guards and all of them are its own. -/
theorem mem_guards_iff_alone (tied : custody.Tied) :
    thread ∈ custody.guarded.guards ↔
      custody.live ≠ [] ∧ ∀ guard ∈ custody.live, guard.holder = thread := by
  rw [tied.mem_guards_iff]
  constructor
  · rintro ⟨guard, member, rfl⟩
    exact ⟨List.ne_nil_of_mem member, fun other also => tied.holder_eq also member⟩
  · rintro ⟨some, alone⟩
    obtain ⟨guard, member⟩ := List.exists_mem_of_ne_nil _ some
    exact ⟨guard, member, alone guard member⟩

end Tied

/-- However threads interleave, and in whatever order they give their guards up: no run comes to a
    release that fails. Where a run has come, all guards that are alive belong to one thread, which
    owns the lock; the lock is held as often as there are guards, and has no owner exactly if there
    are none; the guards can be given up in any order, which leaves the lock free; a thread takes
    the lock without waiting exactly if no other thread has a guard; and it reaches the value
    exactly if it has a guard, and then no other thread has one. -/
theorem never_fatal {value : α} {moves : List (Move α)} :
    (∀ error, (start value).run? moves ≠ some (.error error)) ∧
    ∀ custody, (start value).run? moves = some (.ok custody) →
      (∀ one ∈ custody.live, ∀ other ∈ custody.live, one.holder = other.holder) ∧
      (∀ guard ∈ custody.live, custody.guarded.lock.owner = some guard.holder) ∧
      custody.guarded.lock.count = custody.live.length ∧
      (custody.guarded.lock.owner = none ↔ custody.live = []) ∧
      (∀ order : List Guard, order.Perm custody.live →
        ∃ last, custody.run? (order.map fun guard => .drop guard.number) = some (.ok last) ∧
          last.live = [] ∧ last.guarded.lock = .free ∧
          last.guarded.value = custody.guarded.value) ∧
      (∀ thread, (custody.guarded.guard? thread).isSome ↔
        ∀ guard ∈ custody.live, guard.holder = thread) ∧
      ∀ thread, ((custody.guarded.read? thread).isSome ↔
          custody.live ≠ [] ∧ ∀ guard ∈ custody.live, guard.holder = thread) ∧
        ∀ change, (custody.guarded.update? thread change).isSome ↔
          custody.live ≠ [] ∧ ∀ guard ∈ custody.live, guard.holder = thread := by
  refine ⟨fun error ran => ?_, fun custody ran => ?_⟩
  · obtain ⟨_, impossible, -⟩ := (tied_start value).run ran
    cases impossible
  · obtain ⟨_, same, tied⟩ := (tied_start value).run ran
    cases same
    refine ⟨fun one first other second => tied.holder_eq first second, tied.owned, tied.count,
      tied.owner_eq_none_iff, fun order listed => tied.drain listed, fun thread => ?_,
      fun thread => ⟨?_, fun change => ?_⟩⟩
    · rw [Guarded.guard?, Option.isSome_map]
      exact tied.acquire?_isSome_iff
    · rw [← tied.mem_guards_iff_alone, Guarded.read?, Option.isSome_ite]
    · rw [← tied.mem_guards_iff_alone, Guarded.update?, Option.isSome_ite]

/-- A thread takes three guards, gives up the second and then the first, and changes the value
    through the third; another tries in between. -/
def disorderly : List (Move Nat) :=
  [.lock (.spawned 1), .tryLock (.spawned 1), .lock (.spawned 1), .drop 1, .tryLock (.spawned 2),
    .drop 0, .update 2 (· + 5)]

/-- After that the lock is held once, by the first thread, the second waits, and only the first
    reaches the value. -/
theorem never_fatal_of_disorderly : ∃ custody : Custody Nat,
    (start 0).run? disorderly = some (.ok custody) ∧ custody.live = [⟨2, .spawned 1⟩] ∧
      custody.guarded.lock.count = 1 ∧ custody.guarded.value = 5 ∧
      ¬(custody.guarded.guard? (.spawned 2)).isSome ∧
      ¬(custody.guarded.read? (.spawned 2)).isSome ∧
      (custody.guarded.read? (.spawned 1)).isSome := by
  have ran : (start 0).run? disorderly =
      some (.ok ⟨⟨5, ⟨some (.spawned 1), 1⟩, [.spawned 1]⟩, [⟨2, .spawned 1⟩], 3⟩) := rfl
  obtain ⟨-, -, count, -, -, waits, reaches⟩ := (never_fatal.2 _) ran
  refine ⟨_, ran, rfl, count, rfl, ?_, ?_, ?_⟩
  · rw [waits]
    decide
  · rw [(reaches (.spawned 2)).1]
    decide
  · rw [(reaches (.spawned 1)).1]
    decide

end Custody

end LateBinding
