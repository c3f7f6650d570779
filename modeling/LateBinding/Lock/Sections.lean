import LateBinding.Lock.Recursive
import LateBinding.Object

/-!
# Synchronized sections

A section excludes threads from one another on one object. Each object that some
thread is inside of, or waits for, has an entry that names a lock and counts its users:
every level at which a thread is inside, and every thread that waits. The entry is made
by the first user and goes with the last, and a later user makes a new one with a new
lock.

Entering takes two steps. A thread first registers as a user of the entry and remembers
the lock it names; then it takes that lock, possibly after waiting. Between the two
steps the entry cannot go away, because the thread is counted. Locks are therefore kept
by number, apart from the entries that name them.

Nobody waits for the null object, and entering or leaving it does nothing.
-/

namespace LateBinding

/-- An object in use: the number of its lock, and how many uses it has. -/
structure SectionEntry where
  object : Object
  lock : Nat
  users : Nat
deriving DecidableEq

/-- The locks made so far, by number, and the objects in use. -/
structure Sections where
  locks : Array RecursiveLock
  entries : List SectionEntry

namespace Sections

/-- No object is in use. -/
def empty : Sections := ⟨#[], []⟩

instance : Inhabited Sections := ⟨empty⟩

/-- The number of objects in use. -/
def size (sections : Sections) : Nat := sections.entries.length

/-- The entry of an object, if it is in use. -/
def find? (sections : Sections) (object : Object) : Option SectionEntry :=
  sections.entries.find? (·.object == object)

/-- The lock with a number. A number without a lock counts as a free one. -/
def lock (sections : Sections) (number : Nat) : RecursiveLock :=
  sections.locks.getD number .free

/-- Changes the entry of an object. -/
def modifyEntry (sections : Sections) (object : Object)
    (change : SectionEntry → SectionEntry) : Sections :=
  { sections with
    entries := sections.entries.map fun entry =>
      if entry.object == object then change entry else entry }

/-- The first step of entering: counts one more use of an object, making its entry and
    a new lock if it has none, and gives the number of the lock. -/
def register (sections : Sections) (object : Object) : Nat × Sections :=
  match sections.find? object with
  | some entry =>
    (entry.lock, sections.modifyEntry object fun entry => { entry with users := entry.users + 1 })
  | none =>
    (sections.locks.size,
      { locks := sections.locks.push .free
        entries := sections.entries ++ [⟨object, sections.locks.size, 1⟩] })

/-- The second step of entering: takes the lock, unless the thread has to wait for it. -/
def acquire? (sections : Sections) (thread : Thread) (number : Nat) : Option Sections :=
  ((sections.lock number).acquire? thread).map fun lock =>
    { sections with locks := sections.locks.setIfInBounds number lock }

/-- Enters the section of an object, both steps at once. A thread that has to wait gets
    no result. -/
def enter? (sections : Sections) (thread : Thread) (object : Object) : Option Sections :=
  if object.isNull then some sections
  else
    let (number, registered) := sections.register object
    registered.acquire? thread number

/-- Takes away one use of an object, and its entry with the last. -/
def withdraw (sections : Sections) (object : Object) : Sections :=
  let fewer := sections.modifyEntry object fun entry => { entry with users := entry.users - 1 }
  { fewer with
    entries := fewer.entries.filter fun entry => !(entry.object == object && entry.users == 0) }

/-- Leaves the section of an object once. An object that is not in use was not entered,
    and neither was one whose only users still wait for it. -/
def leave (sections : Sections) (thread : Thread) (object : Object) : Except Error Sections :=
  if object.isNull then .ok sections
  else
    match sections.find? object with
    | none => .error .sectionNotEntered
    | some entry =>
      match (sections.lock entry.lock).release thread with
      | .error .lockNotHeld => .error .sectionNotEntered
      | .error other => .error other
      | .ok lock =>
        .ok (Sections.withdraw
          { sections with locks := sections.locks.setIfInBounds entry.lock lock } object)

/-- The structured description: how many objects are in use. -/
def form (sections : Sections) : Text.Form :=
  .record "SyncTable" [("entered", .number sections.size)] true

end Sections

end LateBinding
