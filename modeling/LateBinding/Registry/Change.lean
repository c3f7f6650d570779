import LateBinding.Registry.Basic

/-!
# Changes of a registry

Each change is one movement of a class or category and is a function of the registry
alone. Which change is due, and what is reported about it, is decided elsewhere.
-/

namespace LateBinding.Registry

/-- Changes what is kept of a class. -/
def modify (registry : Registry) (id : ClassId) (change : ClassEntry → ClassEntry) : Registry :=
  { registry with classes := registry.classes.modify id change }

/-- Adds a class under the next number. -/
def push (registry : Registry) (entry : ClassEntry) : Registry :=
  { registry with
    classes := registry.classes.push entry
    index := (entry.name, registry.size) :: registry.index }

/-- The class registered under the declared superclass name of a class. -/
def declaredSuper? (registry : Registry) (id : ClassId) : Option ClassId :=
  (registry.entry id).superName.bind registry.find?

/-- The size of a class that is linked to the superclass it declares: its own declared
    size and the size of the superclass as it is now. -/
def fullSize (registry : Registry) (id : ClassId) : Nat :=
  ((registry.declaredSuper? id).map fun above => (registry.entry above).size).getD 0 +
    (registry.entry id).declaredSize

/-- Notes a class below its superclass. -/
def addSubclass (registry : Registry) (superclass : Option ClassId) (id : ClassId) : Registry :=
  match superclass with
  | some above =>
    registry.modify above fun entry => { entry with subclasses := entry.subclasses ++ [id] }
  | none => registry

/-- Gives a class the link to the superclass that it declares, and nothing else. -/
def tie (registry : Registry) (id : ClassId) : Registry :=
  registry.modify id fun entry => { entry with superclass := registry.declaredSuper? id }

/-- Links a class to the superclass it declares. The class is then set up. -/
def link (registry : Registry) (id : ClassId) : Registry :=
  (registry.modify id fun entry =>
    { entry.advance .setUp with
      superclass := registry.declaredSuper? id
      size := registry.fullSize id }).addSubclass (registry.declaredSuper? id) id

/-- Attaches the categories that wait for a class. The class is then loaded. -/
def absorb (registry : Registry) (id : ClassId) : Registry :=
  let name := (registry.entry id).name
  { registry.modify id fun entry =>
      { entry.advance .loaded with categories := entry.categories ++ registry.parkedFor name }
    with parked := registry.parked.filter (·.className != name) }

/-- Counts one more category. -/
def countCategory (registry : Registry) : Registry :=
  { registry with categoryCount := registry.categoryCount + 1 }

/-- Attaches a category to a class. -/
def attach (registry : Registry) (id : ClassId) (category : Category) : Registry :=
  registry.modify id fun entry => { entry with categories := entry.categories ++ [category] }

/-- Lets a category wait for its class. -/
def park (registry : Registry) (category : Category) : Registry :=
  { registry with parked := registry.parked ++ [category] }

/-- Gives a side another implementation for a selector among its own methods. -/
def replaceMethod (registry : Registry) (ref : SideRef) (selector : Selector) (imp : Imp) :
    Registry :=
  registry.modify ref.id fun entry =>
    { entry with
      methods := entry.methods.set ref.side
        (Method.replaceLast selector imp (entry.methods.get ref.side)) }

/-- Publishes a dispatch table for a side, in place of the one it had. -/
def publish (registry : Registry) (ref : SideRef) (table : DispatchTable) : Registry :=
  registry.modify ref.id fun entry => { entry with table := entry.table.set ref.side (some table) }

/-- Marks a class as being prepared for its first message by a thread. -/
def beginInit (registry : Registry) (id : ClassId) (thread : Thread) : Registry :=
  registry.modify id fun entry => { entry with initializing := some thread }

/-- Marks a class as initialized. -/
def endInit (registry : Registry) (id : ClassId) : Registry :=
  registry.modify id fun entry => { entry.advance .initialized with initializing := none }

end LateBinding.Registry
