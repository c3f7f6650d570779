import LateBinding.Error

/-!
# Recursive locks

A recursive lock belongs to at most one thread at a time. Its owner may take it again
without waiting and has to release it as often as it took it. Releasing a lock that
nobody holds, and releasing one that another thread holds, are two different errors,
and neither changes the lock.

A thread that asks for a lock held by another waits; here that is the absence of a
result, and the request is made again later.
-/

namespace LateBinding

/-- A thread, known by a name or by the order in which it was started. -/
inductive Thread where
  | named (name : String)
  | spawned (number : Nat)
deriving DecidableEq, Inhabited

/-- Who holds a lock, and how many times. -/
structure RecursiveLock where
  owner : Option Thread
  count : Nat
deriving DecidableEq, Inhabited

namespace RecursiveLock

/-- A lock that nobody holds. -/
def free : RecursiveLock := ⟨none, 0⟩

/-- Takes the lock if it is free or already held by the thread. Otherwise the thread
    has to wait, and there is no result. -/
def acquire? (lock : RecursiveLock) (thread : Thread) : Option RecursiveLock :=
  if lock.owner = some thread then some { lock with count := lock.count + 1 }
  else if lock.owner = none then some ⟨some thread, 1⟩
  else none

/-- Takes the lock several times. -/
def acquireTimes? (lock : RecursiveLock) (thread : Thread) : Nat → Option RecursiveLock
  | 0 => some lock
  | times + 1 => (lock.acquire? thread).bind fun taken => taken.acquireTimes? thread times

/-- Takes the lock if that needs no waiting, and tells whether it did. -/
def tryAcquire (lock : RecursiveLock) (thread : Thread) : Bool × RecursiveLock :=
  match lock.acquire? thread with
  | some taken => (true, taken)
  | none => (false, lock)

/-- Releases the lock once. The last release sets it free. -/
def release (lock : RecursiveLock) (thread : Thread) : Except Error RecursiveLock :=
  if lock.owner = none ∨ lock.count = 0 then .error .lockNotHeld
  else if lock.owner ≠ some thread then .error .lockNotOwned
  else if lock.count = 1 then .ok free
  else .ok { lock with count := lock.count - 1 }

/-- Whether some thread holds the lock. -/
def isHeld (lock : RecursiveLock) : Bool :=
  lock.owner.isSome

/-- Whether a thread holds the lock. -/
def isOwnedBy (lock : RecursiveLock) (thread : Thread) : Bool :=
  lock.owner == some thread

/-- How many times a thread holds the lock. -/
def depth (lock : RecursiveLock) (thread : Thread) : Nat :=
  if lock.isOwnedBy thread then lock.count else 0

/-- The structured description of a lock. Which thread holds it is not shown. -/
def form (lock : RecursiveLock) : Text.Form :=
  .record "RawRecursiveMutex"
    [("owner", .word (if lock.isHeld then "#" else "0")), ("count", .number lock.count)] true

end RecursiveLock

end LateBinding
