import LateBinding.Declaration
import LateBinding.Lock.Recursive

/-!
# Classes as an image keeps them

A class has two sides. Messages to its instances go to the instance side, messages to
the class itself go to its metaclass; each side has its own methods, its own stage of
life and its own dispatch table. A category adds methods to both sides of a class it
names, before or after that class is registered.

The life of a class goes through four stages and never back. A class is `registered`
under its name; `setUp` once it is linked to its superclass, which fixes its size;
`loaded` once the categories that waited for it are attached; and `initialized` once
it has been prepared for its first message.
-/

namespace LateBinding

/-- The number of a class in its image, in the order of registration. -/
abbrev ClassId := Nat

/-- From selectors to implementations. -/
abbrev DispatchTable := SparseMap Imp

/-- One of the two sides of a class. -/
inductive Side where
  | inst
  | metaclass
deriving DecidableEq, Inhabited

/-- A value for each side of a class. -/
structure BySide (α : Type) where
  inst : α
  metaclass : α

namespace BySide

variable {α : Type}

/-- The same value for both sides. -/
def both (value : α) : BySide α := ⟨value, value⟩

/-- The value of one side. -/
def get (values : BySide α) : Side → α
  | .inst => values.inst
  | .metaclass => values.metaclass

/-- Changes the value of one side. -/
def set (values : BySide α) (side : Side) (value : α) : BySide α :=
  match side with
  | .inst => { values with inst := value }
  | .metaclass => { values with metaclass := value }

/-- Changes both values in the same way. -/
def map (values : BySide α) (change : α → α) : BySide α :=
  ⟨change values.inst, change values.metaclass⟩

end BySide

/-- The stage of life of one side of a class. -/
inductive Stage where
  | registered
  | setUp
  | loaded
  | initialized
deriving DecidableEq, Inhabited

namespace Stage

/-- Position in the order of stages. -/
def rank : Stage → Nat
  | .registered => 0
  | .setUp => 1
  | .loaded => 2
  | .initialized => 3

/-- Whether a stage is `goal` or a later one. -/
def reached (stage goal : Stage) : Bool :=
  goal.rank ≤ stage.rank

/-- Moves on to `goal`, unless it has been reached. -/
def advance (stage goal : Stage) : Stage :=
  if stage.reached goal then stage else goal

/-- The name shown in descriptions. -/
def title : Stage → String
  | .registered => "Registered"
  | .setUp => "Setup"
  | .loaded => "Loaded"
  | .initialized => "Initialized"

end Stage

/-- A method with its selector interned. -/
structure Method where
  selector : Selector
  imp : Imp
deriving DecidableEq

/-- The structured description of a method. An implementation is shown by its number. -/
def Method.form (method : Method) : Text.Form :=
  .record "Method"
    [("selector", Selector.form method.selector), ("imp", .text ("#" ++ toString method.imp))] true

/-- The implementation of the last method for a selector: a later method overrides an
    earlier one of the same list. -/
def Method.lastFor (methods : List Method) (selector : Selector) : Option Imp :=
  (methods.reverse.find? (·.selector == selector)).map Method.imp

/-- Methods with the last one for a selector changed, or one added at the end if there
    is none. -/
def Method.replaceLast (selector : Selector) (imp : Imp) : List Method → List Method
  | [] => [⟨selector, imp⟩]
  | method :: rest =>
    if method.selector == selector && !rest.any (·.selector == selector) then
      { method with imp } :: rest
    else method :: replaceLast selector imp rest

/-- A registered category. The serial number tells two categories of one image apart,
    whatever they contain. -/
structure Category where
  serial : Nat
  name : String
  className : String
  methods : BySide (List Method)

/-- The name of a category together with that of its class. -/
def Category.fullName (category : Category) : String :=
  category.className ++ "(" ++ category.name ++ ")"

/-- The structured description of a category. -/
def Category.form (category : Category) : Text.Form :=
  .word ("Category(" ++ category.fullName ++ ")")

/-- What an image keeps of a class. -/
structure ClassEntry where
  name : String
  /-- The superclass as declared, registered or not. -/
  superName : Option String
  declaredSize : Nat
  /-- The declared size until the class is set up, then that of all ancestors added. -/
  size : Nat
  /-- The superclass the class is linked to. -/
  superclass : Option ClassId
  /-- The methods declared by the class itself, first declared first. -/
  methods : BySide (List Method)
  /-- The attached categories, first registered first. -/
  categories : List Category
  /-- The classes linked to this one as their superclass. -/
  subclasses : List ClassId
  stage : BySide Stage
  table : BySide (Option DispatchTable)
  /-- The thread that prepares the class for its first message, while it does. -/
  initializing : Option Thread

namespace ClassEntry

/-- A class as it is when it is registered. -/
def declared (name : String) (superName : Option String) (size : Nat)
    (methods : BySide (List Method)) : ClassEntry where
  name := name
  superName := superName
  declaredSize := size
  size := size
  superclass := none
  methods := methods
  categories := []
  subclasses := []
  stage := .both .registered
  table := .both none
  initializing := none

instance : Inhabited ClassEntry := ⟨declared "" none 0 (.both [])⟩

/-- Moves both sides on to a stage. -/
def advance (entry : ClassEntry) (goal : Stage) : ClassEntry :=
  { entry with stage := entry.stage.map (·.advance goal) }

/-- Everything a side declares, in the order in which it is applied to a dispatch
    table: the methods of the class, then those of its categories. -/
def declarations (entry : ClassEntry) (side : Side) : List Method :=
  entry.methods.get side ++ entry.categories.flatMap fun category => category.methods.get side

end ClassEntry

end LateBinding
