import LateBinding.Image.Basic

/-!
# Edits of an image

A registration changes an image in several places, reports what it does, and collects
the `load` implementations that are to be called once it is done. `Edit` is a
computation with these effects on a draft of the image. An edit that is refused half
way keeps what it has done so far.

Nothing is called while an edit runs. The implementations it collected run afterwards,
when the image is whole again, and may themselves edit it.
-/

namespace LateBinding

/-- A `load` implementation to be called on a class. -/
structure LoadHook where
  imp : Imp
  receiver : ClassId
  /-- The serial number of the category that declares it, or none for the class itself. -/
  category : Option Nat
  /-- The name of the class or category that declares it, for reports. -/
  owner : String
deriving DecidableEq

variable [NameHash]

/-- An image being changed, the implementations to call afterwards, and the reports. -/
structure Draft where
  image : Image
  hooks : List LoadHook := []
  reports : List Log.Message := []

/-- A change of an image. -/
abbrev Edit := EStateM Failure Draft

namespace Edit

/-- The registry as it is now. -/
def registry : Edit Registry := do
  return (← get).image.registry

/-- Changes the registry. -/
def modifyRegistry (change : Registry → Registry) : Edit Unit :=
  modify fun draft =>
    { draft with image := { draft.image with registry := change draft.image.registry } }

/-- Reports something. -/
def report (level : Log.Level) (text : String) : Edit Unit :=
  modify fun draft => { draft with reports := draft.reports ++ [⟨level, text⟩] }

/-- Collects an implementation to be called afterwards. -/
def collect (hook : LoadHook) : Edit Unit :=
  modify fun draft => { draft with hooks := draft.hooks ++ [hook] }

/-- Ends the edit with an error. -/
def refuse {α : Type} (error : Error) : Edit α :=
  throw (.refused error)

/-- Interns a signature. -/
def intern (signature : Signature) : Edit Selector := do
  let draft ← get
  let interned := draft.image.selectors.intern signature
  set { draft with
    image := { draft.image with selectors := interned.table }
    reports := draft.reports ++ Image.growthMessages interned }
  match interned.result with
  | .ok selector => return selector
  | .error failure => throw failure

/-- Interns the signatures of declared methods, in order. -/
def internMethods (methods : List MethodDecl) : Edit (List Method) :=
  methods.mapM fun method => do
    return ⟨← intern method.signature, method.imp⟩

end Edit

end LateBinding
