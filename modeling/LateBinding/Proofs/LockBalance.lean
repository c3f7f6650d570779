import LateBinding.Proofs.SectionTable

/-!
# Acquisitions and releases of a lock balance

Threads take a lock, try to take it and release it, in any order between them. Taking it is
a step only when the lock is free or the thread's own; a thread that has to wait makes no
step. What comes of each step is put down in a history, and the lock is compared with the
whole history of every thread: its owner holds it as often as it has acquired it and not
released it, and no other thread has an acquisition open.

So another thread gets the lock exactly when every acquisition has found its release.
-/

namespace LateBinding.RecursiveLock

/-- What a thread asks of a lock. -/
inductive Demand where
  | lock (thread : Thread)
  | tryLock (thread : Thread)
  | unlock (thread : Thread)

/-- What came of a demand. -/
inductive Deed where
  | acquired (thread : Thread)
  | denied (thread : Thread)
  | released (thread : Thread)
  | failed (thread : Thread) (error : Error)
deriving DecidableEq

/-- Meets a demand, if the thread does not have to wait. A release that fails leaves the
    lock alone. -/
def meet? (lock : RecursiveLock) : Demand → Option (Deed × RecursiveLock)
  | .lock thread => (lock.acquire? thread).map fun taken => (.acquired thread, taken)
  | .tryLock thread =>
    match lock.tryAcquire thread with
    | (true, taken) => some (.acquired thread, taken)
    | (false, same) => some (.denied thread, same)
  | .unlock thread =>
    match lock.release thread with
    | .ok left => some (.released thread, left)
    | .error error => some (.failed thread error, lock)

/-- Meets demands in the given order, if none of them has to wait, and gives the history. -/
def meetAll? (lock : RecursiveLock) : List Demand → Option (List Deed × RecursiveLock)
  | [] => some ([], lock)
  | demand :: rest => do
    let (deed, next) ← lock.meet? demand
    let (deeds, last) ← next.meetAll? rest
    return (deed :: deeds, last)

/-- How often a thread has acquired the lock in a history. -/
def acquisitions (history : List Deed) (thread : Thread) : Nat :=
  history.count (.acquired thread)

/-- How often a thread has released the lock in a history. -/
def releases (history : List Deed) (thread : Thread) : Nat :=
  history.count (.released thread)

/-- A lock has no owner exactly if it is held no times. -/
def Consistent (lock : RecursiveLock) : Prop :=
  lock.owner = none ↔ lock.count = 0

variable {lock next last : RecursiveLock} {thread : Thread}

/-- A free lock is consistent. -/
theorem consistent_free : free.Consistent := ⟨fun _ => rfl, fun _ => rfl⟩

/-- It stays so when it is acquired. -/
theorem consistent_acquire? (consistent : lock.Consistent)
    (acquired : lock.acquire? thread = some next) : next.Consistent := by
  obtain ⟨rfl, -⟩ := acquire?_eq_some consistent.mp acquired
  simp [Consistent]

/-- A thread can take a lock that is free or its own. -/
theorem acquire?_isSome_iff :
    (lock.acquire? thread).isSome ↔ lock.owner = none ∨ lock.owner = some thread := by
  unfold acquire?
  by_cases own : lock.owner = some thread
  · simp [own]
  · by_cases ownerless : lock.owner = none
    · simp [ownerless]
    · simp [own, ownerless]

/-- A try does what taking the lock would do, or is denied where that would wait. -/
theorem tryAcquire_cases (lock : RecursiveLock) (thread : Thread) :
    (∃ taken, lock.acquire? thread = some taken ∧ lock.tryAcquire thread = (true, taken)) ∨
      (lock.acquire? thread = none ∧ lock.tryAcquire thread = (false, lock)) := by
  unfold tryAcquire
  cases lock.acquire? thread with
  | some taken => exact .inl ⟨taken, rfl, rfl⟩
  | none => exact .inr ⟨rfl, rfl⟩

/-- A try is denied exactly while another thread owns the lock. -/
theorem tryAcquire_eq_false_iff :
    (lock.tryAcquire thread).1 = false ↔ ∃ other, other ≠ thread ∧ lock.owner = some other := by
  have enabled : (lock.tryAcquire thread).1 = (lock.acquire? thread).isSome := by
    obtain ⟨taken, acquired, tried⟩ | ⟨waits, tried⟩ := tryAcquire_cases lock thread
    · rw [acquired, tried]
      rfl
    · rw [waits, tried]
      rfl
  rw [enabled, Bool.eq_false_iff, Ne, acquire?_isSome_iff]
  cases owner : lock.owner with
  | none => simp
  | some holder => simp

/-- Only the owner releases a lock; the error tells whether it has one. -/
theorem Consistent.release_cases (consistent : lock.Consistent) (thread : Thread) :
    (lock.owner = some thread ∧ ∃ left, lock.release thread = .ok left) ∨
    (lock.owner = none ∧ lock.release thread = .error .lockNotHeld) ∨
    ((∃ other, other ≠ thread ∧ lock.owner = some other) ∧
      lock.release thread = .error .lockNotOwned) := by
  unfold release
  cases owner : lock.owner with
  | none => exact .inr (.inl ⟨rfl, by simp⟩)
  | some holder =>
    have held : lock.count ≠ 0 := by
      intro zero
      cases (consistent.mpr zero).symm.trans owner
    by_cases own : holder = thread
    · refine .inl ⟨by rw [own], ?_⟩
      by_cases once : lock.count = 1
      · exact ⟨free, by simp [own, once]⟩
      · exact ⟨_, by simp [own, held, once]; rfl⟩
    · exact .inr (.inr ⟨⟨holder, own, rfl⟩, by simp [held, own]⟩)

/-- What meeting a demand does: the lock is taken, it is released, or nothing changes. -/
theorem meet?_cases {demand : Demand} {deed : Deed} (met : lock.meet? demand = some (deed, next)) :
    (∃ thread, deed = .acquired thread ∧ lock.acquire? thread = some next) ∨
    (∃ thread, deed = .released thread ∧ lock.release thread = .ok next) ∨
    ((∀ thread, deed ≠ .acquired thread ∧ deed ≠ .released thread) ∧ next = lock) := by
  cases demand with
  | lock thread =>
    obtain ⟨taken, acquired, same⟩ := Option.map_eq_some_iff.mp met
    cases same
    exact .inl ⟨thread, rfl, acquired⟩
  | tryLock thread =>
    obtain ⟨taken, acquired, tried⟩ | ⟨-, tried⟩ := tryAcquire_cases lock thread
    · simp only [meet?, tried, Option.some.injEq, Prod.mk.injEq] at met
      obtain ⟨rfl, rfl⟩ := met
      exact .inl ⟨thread, rfl, acquired⟩
    · simp only [meet?, tried, Option.some.injEq, Prod.mk.injEq] at met
      obtain ⟨rfl, rfl⟩ := met
      exact .inr (.inr ⟨by simp, rfl⟩)
  | unlock thread =>
    cases released : lock.release thread with
    | ok left =>
      simp only [meet?, released, Option.some.injEq, Prod.mk.injEq] at met
      obtain ⟨rfl, rfl⟩ := met
      exact .inr (.inl ⟨thread, rfl, released⟩)
    | error error =>
      simp only [meet?, released, Option.some.injEq, Prod.mk.injEq] at met
      obtain ⟨rfl, rfl⟩ := met
      exact .inr (.inr ⟨by simp, rfl⟩)

/-- It stays so whatever is demanded of it. -/
theorem Consistent.meet (consistent : lock.Consistent) {demand : Demand} {deed : Deed}
    (met : lock.meet? demand = some (deed, next)) : next.Consistent := by
  obtain ⟨thread, -, acquired⟩ | ⟨thread, -, released⟩ | ⟨-, rfl⟩ := meet?_cases met
  · exact consistent_acquire? consistent acquired
  · exact owner_release released
  · exact consistent

/-- One step adds to the depth of each thread what it has acquired, less what it has
    released. -/
theorem Consistent.depth_meet (consistent : lock.Consistent) {demand : Demand} {deed : Deed}
    (met : lock.meet? demand = some (deed, next)) (thread : Thread) :
    acquisitions [deed] thread + lock.depth thread =
      releases [deed] thread + next.depth thread := by
  obtain ⟨actor, rfl, acquired⟩ | ⟨actor, rfl, released⟩ | ⟨neither, rfl⟩ := meet?_cases met
  · rw [depth_acquire? consistent.mp acquired]
    by_cases same : thread = actor
    · simp [acquisitions, releases, same, Nat.add_comm]
    · simp [acquisitions, releases, same, Ne.symm same]
  · have level := depth_release released thread
    obtain ⟨owner, positive, -⟩ := release_eq_ok released
    by_cases same : thread = actor
    · subst same
      have held : lock.depth thread = lock.count := by rw [depth_eq, if_pos owner]
      simp only [acquisitions, releases, List.count_singleton, beq_self_eq_true, beq_iff_eq,
        reduceCtorEq, if_true, if_false, level, held]
      omega
    · have none : lock.depth thread = 0 := by
        rw [depth_eq, owner, if_neg (by simp [Ne.symm same])]
      simp [acquisitions, releases, level, none, Ne.symm same]
  · have quiet := neither thread
    simp [acquisitions, releases, quiet.1, quiet.2]

/-- Along a whole run the depth of each thread is what it has acquired, less what it has
    released. -/
theorem Consistent.depth_meetAll (consistent : lock.Consistent) {demands : List Demand}
    {history : List Deed} (ran : lock.meetAll? demands = some (history, last)) :
    last.Consistent ∧ ∀ thread, acquisitions history thread + lock.depth thread =
      releases history thread + last.depth thread := by
  induction demands generalizing lock history with
  | nil =>
    cases ran
    exact ⟨consistent, fun thread => rfl⟩
  | cons demand rest inductionHypothesis =>
    obtain ⟨⟨deed, next⟩, met, ran⟩ := Option.bind_eq_some_iff.mp ran
    obtain ⟨⟨deeds, final⟩, further, same⟩ := Option.bind_eq_some_iff.mp ran
    cases same
    obtain ⟨kept, balance⟩ := inductionHypothesis (consistent.meet met) further
    refine ⟨kept, fun thread => ?_⟩
    have step := consistent.depth_meet met thread
    have rest := balance thread
    have split : ∀ wanted : Deed, (deed :: deeds).count wanted =
        [deed].count wanted + deeds.count wanted := by
      intro wanted
      rw [← List.singleton_append, List.count_append]
    simp only [acquisitions, releases] at step rest ⊢
    rw [split, split]
    omega

/-- However threads interleave: a lock has no owner exactly if it is held no times; its owner
    holds it as often as it has acquired and not released it, and all acquisitions of other
    threads are released; tries are denied, and releases fail, by who owns the lock, and then
    change nothing; and a thread gets the lock exactly if every other thread has released it
    as often as it has acquired it. -/
theorem balanced {demands : List Demand} {history : List Deed}
    (ran : free.meetAll? demands = some (history, lock)) :
    (lock.owner = none ↔ lock.count = 0) ∧
    (∀ thread, lock.owner = some thread →
      acquisitions history thread = releases history thread + lock.count) ∧
    (∀ thread, lock.owner ≠ some thread →
      acquisitions history thread = releases history thread) ∧
    (∀ thread, (lock.acquire? thread).isSome ↔
      lock.owner = none ∨ lock.owner = some thread) ∧
    (∀ thread, (lock.tryAcquire thread).1 = false ↔
      ∃ other, other ≠ thread ∧ lock.owner = some other) ∧
    (∀ thread, ((∃ left, lock.release thread = .ok left) ↔ lock.owner = some thread) ∧
      (lock.release thread = .error .lockNotHeld ↔ lock.owner = none) ∧
      (lock.release thread = .error .lockNotOwned ↔
        ∃ other, other ≠ thread ∧ lock.owner = some other)) ∧
    (∀ demand deed after, lock.meet? demand = some (deed, after) →
      (∀ thread, deed ≠ .acquired thread ∧ deed ≠ .released thread) → after = lock) ∧
    ∀ thread, (lock.acquire? thread).isSome ↔
      ∀ other, other ≠ thread → acquisitions history other = releases history other := by
  obtain ⟨consistent, balance⟩ := consistent_free.depth_meetAll ran
  have owned : ∀ thread, lock.owner = some thread →
      acquisitions history thread = releases history thread + lock.count := by
    intro thread owner
    have level := balance thread
    rwa [depth_eq lock, if_pos owner] at level
  have others : ∀ thread, lock.owner ≠ some thread →
      acquisitions history thread = releases history thread := by
    intro thread foreign
    have level := balance thread
    rwa [depth_eq lock, if_neg foreign] at level
  refine ⟨consistent, owned, others, fun _ => acquire?_isSome_iff,
    fun _ => tryAcquire_eq_false_iff, ?_, ?_, ?_⟩
  · intro thread
    obtain ⟨owner, left, released⟩ | ⟨owner, failed⟩ | ⟨⟨other, foreign, owner⟩, failed⟩ :=
      consistent.release_cases thread
    · simp [owner, released]
    · simp [owner, failed]
    · simp [owner, failed, foreign]
  · intro demand deed after met neither
    obtain ⟨thread, rfl, -⟩ | ⟨thread, rfl, -⟩ | ⟨-, same⟩ := meet?_cases met
    · exact absurd rfl (neither thread).1
    · exact absurd rfl (neither thread).2
    · exact same
  · intro thread
    rw [acquire?_isSome_iff]
    constructor
    · intro free other different
      apply others other
      rcases free with none | own
      · simp [none]
      · simpa [own] using different.symm
    · intro settled
      cases owner : lock.owner with
      | none => exact .inl rfl
      | some holder =>
        by_cases own : holder = thread
        · exact .inr (by rw [own])
        · -- A foreign owner would have an acquisition open.
          have level := owned holder owner
          rw [settled holder own] at level
          have unheld : lock.count = 0 := by omega
          cases (consistent.mpr unheld).symm.trans owner

/-- A thread takes a lock twice and releases it once; another is denied it in between and fails
    to release it. -/
def reentrant : List Demand :=
  [.lock (.spawned 1), .tryLock (.spawned 1), .tryLock (.spawned 2), .unlock (.spawned 2),
    .unlock (.spawned 1)]

/-- After that the first thread has one acquisition open, and the second still has to wait. -/
theorem balanced_of_reentrant : ∃ history lock,
    free.meetAll? reentrant = some (history, lock) ∧ lock.owner = some (.spawned 1) ∧
      acquisitions history (.spawned 1) = releases history (.spawned 1) + 1 ∧
      ¬(lock.acquire? (.spawned 2)).isSome := by
  have ran : free.meetAll? reentrant = some
      ([.acquired (.spawned 1), .acquired (.spawned 1), .denied (.spawned 2),
        .failed (.spawned 2) .lockNotOwned, .released (.spawned 1)], ⟨some (.spawned 1), 1⟩) := rfl
  obtain ⟨-, owned, -, -, -, -, -, gets⟩ := balanced ran
  refine ⟨_, _, ran, rfl, owned (.spawned 1) rfl, ?_⟩
  rw [gets]
  intro settled
  exact absurd (settled (.spawned 1) (by decide)) (by decide)

end LateBinding.RecursiveLock
