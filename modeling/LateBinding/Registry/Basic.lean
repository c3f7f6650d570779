import LateBinding.Registry.Class

/-!
# The registry of classes

The registry holds every class of an image under its number and under its name, and
the categories whose classes are not loaded yet. Numbers are handed out in the order
of registration and names are never reused, so both identify a class for good.

Superclasses are declared by name. `chain` follows the names from a class to its root
and tells apart the three ways in which that can end.
-/

namespace LateBinding

/-- One side of a class of a registry. -/
structure SideRef where
  id : ClassId
  side : Side
deriving DecidableEq, Inhabited

/-- The classes of an image, and the categories that wait for one. -/
structure Registry where
  /-- The classes in the order of their numbers. -/
  classes : Array ClassEntry
  /-- The number of each registered name. -/
  index : List (String × ClassId)
  /-- The waiting categories of all class names, first registered first. -/
  parked : List Category
  /-- The number of categories registered so far. -/
  categoryCount : Nat
deriving Inhabited

namespace Registry

/-- The registry without classes. -/
def empty : Registry where
  classes := #[]
  index := []
  parked := []
  categoryCount := 0

/-- The number of classes. -/
def size (registry : Registry) : Nat := registry.classes.size

/-- The number of the class with a name. -/
def find? (registry : Registry) (name : String) : Option ClassId :=
  registry.index.lookup name

/-- What is kept of a class. Numbers that were not handed out have an empty entry. -/
def entry (registry : Registry) (id : ClassId) : ClassEntry :=
  registry.classes.getD id default

/-- The categories that wait for a class name, first registered first. -/
def parkedFor (registry : Registry) (name : String) : List Category :=
  registry.parked.filter (·.className == name)

/-- The stage of the instance side of a class. -/
def stage (registry : Registry) (id : ClassId) : Stage :=
  (registry.entry id).stage.inst

/-- Whether a class has reached a stage. -/
def reached (registry : Registry) (id : ClassId) (goal : Stage) : Bool :=
  (registry.stage id).reached goal

/-- The published dispatch table of a side. -/
def table? (registry : Registry) (ref : SideRef) : Option DispatchTable :=
  (registry.entry ref.id).table.get ref.side

/-- Follows superclass names from the class `current`, the last of the `passed` ones,
    for a walk that started at `origin`. `room` is the number of classes that have not
    been passed; when it is used up, the next class has been passed as well. -/
def walk (registry : Registry) (origin : ClassId) :
    (room : Nat) → (passed : List ClassId) → (current : ClassId) → Except Error (List ClassId)
  | room, passed, current =>
    match (registry.entry current).superName with
    | none => .ok passed.reverse
    | some name =>
      match registry.find? name with
      | none => .error (.unresolvedSuperclass (registry.entry origin).name name)
      | some next =>
        if next ∈ passed then .error (.inheritanceCycle name)
        else
          match room with
          | 0 => .error (.inheritanceCycle name)
          | room + 1 => registry.walk origin room (next :: passed) next

/-- A class followed by its ancestors up to the root, by declared superclass names. The
    walk fails at the first name that is not registered, and at the first class that it
    meets twice. -/
def chain (registry : Registry) (id : ClassId) : Except Error (List ClassId) :=
  registry.walk id (registry.size - 1) [id] id

end Registry

end LateBinding
