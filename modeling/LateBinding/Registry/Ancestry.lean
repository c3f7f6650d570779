import LateBinding.Registry.Basic

/-!
# Inheritance between sides

Linked classes form a forest. Each side of a class inherits from the same side of its
superclass, and the metaclass of a root inherits from the root's instance side, so
every path of inheritance ends at the instance side of a root.

Two relations follow the links. `parent?` is the one that dispatch tables are built
along. `superside?` is the one a class shows to others: it is the same relation, but a
root that is not set up yet does not show where its metaclass leads.

Paths and subtrees are lists computed from the links. A path has no more sides than
the registry has classes, plus the one step from a metaclass to an instance side, and a
subtree is no deeper than that; the bounds are never what ends a walk along a forest.
-/

namespace LateBinding

/-- Follows `next` from `start` for at most `steps` steps, the start included. -/
def climb {α : Type} (next : α → Option α) : (steps : Nat) → (start : α) → List α
  | 0, start => [start]
  | steps + 1, start =>
    match next start with
    | none => [start]
    | some above => start :: climb next steps above

namespace Registry

/-- The side whose dispatch table a side starts from. -/
def parent? (registry : Registry) (ref : SideRef) : Option SideRef :=
  match (registry.entry ref.id).superclass, ref.side with
  | some superclass, side => some ⟨superclass, side⟩
  | none, .metaclass => some ⟨ref.id, .inst⟩
  | none, .inst => none

/-- The side that a side shows as its superclass. -/
def superside? (registry : Registry) (ref : SideRef) : Option SideRef :=
  match (registry.entry ref.id).superclass, ref.side with
  | some superclass, side => some ⟨superclass, side⟩
  | none, .metaclass =>
    if ((registry.entry ref.id).stage.metaclass).reached .setUp then some ⟨ref.id, .inst⟩ else none
  | none, .inst => none

/-- A side and all sides its dispatch table builds on. -/
def lineage (registry : Registry) (ref : SideRef) : List SideRef :=
  climb registry.parent? (registry.size + 1) ref

/-- A side and all sides above it as shown to others. -/
def superclasses (registry : Registry) (ref : SideRef) : List SideRef :=
  climb registry.superside? (registry.size + 1) ref

/-- Whether `other` is the side itself or one of those above it. -/
def isSubclass (registry : Registry) (ref other : SideRef) : Bool :=
  (registry.superclasses ref).contains other

/-- A class and the classes linked below it, each before those below itself, to a depth. -/
def subtree (registry : Registry) : (depth : Nat) → (id : ClassId) → List ClassId
  | 0, id => [id]
  | depth + 1, id => id :: (registry.entry id).subclasses.flatMap (registry.subtree depth)

/-- A class and all classes linked below it, every class after its superclass. -/
def descendants (registry : Registry) (id : ClassId) : List ClassId :=
  registry.subtree registry.size id

/-- The implementation that the published tables give for a selector: the first table
    on the way up that has an entry for it decides. -/
def lookup (registry : Registry) (ref : SideRef) (selector : Selector) : Option Imp :=
  (registry.superclasses ref).findSome? fun above =>
    (registry.table? above).bind (·.get? selector)

end Registry

end LateBinding
