import LateBinding.Image.Tables

/-!
# Setting up and loading classes

Classes and categories arrive in any order. A class makes progress as soon as its
chain of superclasses leads to a root: the chain is then set up and loaded from the
root down. Setting up links a class to its superclass and fixes its size. Loading
attaches the categories that waited for the class and collects the `load`
implementations, that of the class before those of its categories.

After each registration `settle` gives every class the chance to make progress. A class
whose chain has a gap or a cycle stays registered.
-/

namespace LateBinding.Edit

variable [NameHash]

/-- Links a class to its superclass, which is set up already, and fixes its size, which has
    to be a word. If it is none, the class has its own link by then, but the superclass does not
    know of it. -/
def setUp (id : ClassId) : Edit Unit := do
  let before ← registry
  if before.reached id .setUp then pure ()
  else if before.fullSize id > Word.largest then
    modifyRegistry (·.tie id)
    throw (.panicked .sumOverflow)
  else
    modifyRegistry (·.link id)
    report .trace ("class " ++ (before.entry id).name ++ " is set up (" ++
      toString (before.fullSize id) ++ " bytes)")

/-- Collects the `load` implementation among class methods, the last one declared. -/
def collectLoad (receiver : ClassId) (category : Option Nat) (owner : String)
    (methods : List Method) : Edit Unit := do
  match Method.lastFor methods (← get).image.loadSelector with
  | some imp => collect ⟨imp, receiver, category, owner⟩
  | none => pure ()

/-- Collects the `load` implementation of a category that is being attached. -/
def collectCategoryLoad (receiver : ClassId) (category : Category) : Edit Unit :=
  collectLoad receiver (some category.serial) category.fullName category.methods.metaclass

/-- Reports that waiting categories are attached, if there are any. -/
def reportMerging (waiting : List Category) (name : String) : Edit Unit :=
  if waiting.isEmpty then pure ()
  else report .debug ("merging " ++ toString waiting.length ++ " pending categories into " ++ name)

/-- Builds both tables of a class that has just been loaded, if the image is to do that
    early. -/
def ensureEarly (id : ClassId) : Edit Unit := do
  if (← get).image.config.eager then
    let _ ← ensure ⟨id, .inst⟩
    let _ ← ensure ⟨id, .metaclass⟩
  else pure ()

/-- Attaches the categories that waited for a class which is set up, and collects the
    `load` implementations. -/
def load (id : ClassId) : Edit Unit := do
  let before ← registry
  if before.reached id .loaded then pure ()
  else
    let entry := before.entry id
    let waiting := before.parkedFor entry.name
    reportMerging waiting entry.name
    collectLoad id none entry.name entry.methods.metaclass
    waiting.forM (collectCategoryLoad id)
    modifyRegistry (·.absorb id)
    report .trace ("class " ++ entry.name ++ " is loaded")
    ensureEarly id

/-- Sets up and loads the classes of a chain, root first. -/
def advanceAlong (chain : List ClassId) : Edit Unit :=
  chain.reverse.forM fun id => do
    setUp id
    load id

/-- Sets up and loads a class and its ancestors. -/
def advance (id : ClassId) : Edit Unit := do
  match (← registry).chain id with
  | .ok chain => advanceAlong chain
  | .error error => refuse error

/-- Advances a class if its chain leads to a root. -/
def settleClass (id : ClassId) : Edit Unit := do
  let before ← registry
  if before.reached id .loaded then pure ()
  else
    match before.chain id with
    | .ok chain => advanceAlong chain
    | .error _ => pure ()

/-- Advances every class that can make progress, in one pass by number. -/
def settle : Edit Unit := do
  (List.range (← registry).size).forM settleClass

end LateBinding.Edit
