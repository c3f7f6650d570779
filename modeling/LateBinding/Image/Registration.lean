import LateBinding.Image.Loading

/-!
# Registering classes, categories and modules

A class is registered under a name that is not taken. A category attaches at once if
its class is loaded and waits for it otherwise. A module brings selectors, classes and
categories, in this order; a class of it whose name is taken is left out. Replacing a
method changes what one side of a class declares itself, and the categories of the
class still come after it.
-/

namespace LateBinding.Edit

variable [NameHash]

/-- Adds a class. A taken name is refused before any selector is interned. -/
def insertClass (decl : ClassDecl) : Edit ClassId := do
  match (← registry).find? decl.name with
  | some _ =>
    report .warn ("class " ++ decl.name ++ " is already registered, ignoring duplicate")
    refuse (.classAlreadyExists decl.name)
  | none =>
    let methods ← internMethods decl.methods
    let classMethods ← internMethods decl.classMethods
    let id := (← registry).size
    modifyRegistry (·.push (.declared decl.name decl.superclass decl.size ⟨methods, classMethods⟩))
    report .debug ("registered class " ++ decl.name)
    return id

/-- Attaches a category to a loaded class and brings the tables up to date. -/
def attach (id : ClassId) (category : Category) : Edit Unit := do
  modifyRegistry (·.attach id category)
  report .debug ("attached category " ++ category.fullName ++ " to loaded class")
  collectCategoryLoad id category
  rebuild id

/-- Lets a category wait for its class. -/
def park (category : Category) : Edit Unit := do
  modifyRegistry (·.park category)
  report .debug ("category " ++ category.fullName ++ " pending until its class loads")

/-- Adds a category: to its class, if that is loaded, and to the waiting ones otherwise. -/
def insertCategory (decl : CategoryDecl) : Edit Category := do
  let methods ← internMethods decl.methods
  let classMethods ← internMethods decl.classMethods
  let before ← registry
  let category : Category :=
    ⟨before.categoryCount, decl.name, decl.className, ⟨methods, classMethods⟩⟩
  modifyRegistry (·.countCategory)
  match before.find? category.className with
  | some id => if before.reached id .loaded then attach id category else park category
  | none => park category
  return category

/-- Registers a class and advances every class that can now make progress. -/
def registerClass (decl : ClassDecl) : Edit ClassId := do
  let id ← insertClass decl
  settle
  return id

/-- Adds a class of a module, unless its name is taken. -/
def insertNewClass (decl : ClassDecl) : Edit (Option ClassId) := fun draft =>
  match insertClass decl draft with
  | .ok id after => .ok (some id) after
  | .error (.refused (.classAlreadyExists _)) after => .ok none after
  | .error failure after => .error failure after

/-- Registers everything a module declares and gives the classes that are new. -/
def loadModule (decl : ModuleDecl) : Edit (List ClassId) := do
  decl.signatures.forM fun signature => do
    let _ ← intern signature
  let inserted ← decl.classes.mapM insertNewClass
  decl.categories.forM fun category => do
    let _ ← insertCategory category
  settle
  let classes := inserted.filterMap id
  report .info ("loaded module " ++ decl.name ++ " (" ++ toString classes.length ++
    " classes, " ++ toString (← get).hooks.length ++ " load hooks)")
  return classes

/-- Gives one side of a class another implementation for a selector, and gives back the
    one it declared itself before. -/
def replaceMethod (ref : SideRef) (selector : Selector) (imp : Imp) : Edit (Option Imp) := do
  let before := ((← registry).entry ref.id).methods.get ref.side
  modifyRegistry (·.replaceMethod ref selector imp)
  rebuild ref.id
  let draft ← get
  report .debug ("replaced " ++ draft.image.selectors.nameOf selector ++ " in " ++
    (draft.image.registry.entry ref.id).name)
  return Method.lastFor before selector

end LateBinding.Edit
