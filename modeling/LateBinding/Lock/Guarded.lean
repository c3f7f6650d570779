import LateBinding.Lock.Recursive

/-!
# Guarded values

A guarded value is reached through guards only. A guard is a right to the value that
holds the lock once; a thread may have several at a time and gives them up in any
order. Giving up a guard releases the lock once, and a lock that could not be released
then would leave nothing to go on with.

The guards of a thread are interchangeable, so they are only counted.
-/

namespace LateBinding

/-- A value, the lock around it, and the threads that have a guard, one occurrence for
    each guard. -/
structure Guarded (α : Type) where
  value : α
  lock : RecursiveLock
  guards : List Thread

namespace Guarded

variable {α : Type}

/-- A value without guards. -/
def new (value : α) : Guarded α := ⟨value, .free, []⟩

/-- The number of guards a thread has. -/
def guardCount (guarded : Guarded α) (thread : Thread) : Nat :=
  guarded.guards.count thread

/-- Takes a guard. A thread that has to wait for the lock gets no result. -/
def guard? (guarded : Guarded α) (thread : Thread) : Option (Guarded α) :=
  (guarded.lock.acquire? thread).map fun lock =>
    { guarded with lock, guards := thread :: guarded.guards }

/-- Gives up a guard. The error is that of the lock, and fatal to the program. -/
def giveUp (guarded : Guarded α) (thread : Thread) : Except Error (Guarded α) :=
  (guarded.lock.release thread).map fun lock =>
    { guarded with lock, guards := guarded.guards.erase thread }

/-- Changes the value. Only a thread that has a guard reaches it. -/
def update? (guarded : Guarded α) (thread : Thread) (change : α → α) : Option (Guarded α) :=
  if thread ∈ guarded.guards then some { guarded with value := change guarded.value } else none

/-- Reads the value. Only a thread that has a guard reaches it. -/
def read? (guarded : Guarded α) (thread : Thread) : Option α :=
  if thread ∈ guarded.guards then some guarded.value else none

/-- The structured description: the lock without the value. -/
def form (guarded : Guarded α) : Text.Form :=
  .record "RecursiveMutex" [("raw", guarded.lock.form)] false

end Guarded

end LateBinding
