import LateBinding.Selector.Table

/-!
# Declarations

A loader describes classes, categories and modules by name before any of them is
known to an image. A declaration holds names, type encodings and implementations;
selectors are interned and names resolved when it is registered.
-/

namespace LateBinding

/-- The number of a method implementation. The image calls implementations and never
    looks inside them. -/
abbrev Imp := Nat

/-- A method as a class or category declares it. -/
structure MethodDecl where
  signature : Signature
  imp : Imp
deriving DecidableEq

/-- A class together with its metaclass. -/
structure ClassDecl where
  name : String
  /-- Absent for a root class. -/
  superclass : Option String
  /-- The bytes this class adds to those of its superclass. -/
  size : Nat
  methods : List MethodDecl
  classMethods : List MethodDecl
deriving DecidableEq

/-- Methods to be added to a class that may not be registered yet. -/
structure CategoryDecl where
  name : String
  className : String
  methods : List MethodDecl
  classMethods : List MethodDecl
deriving DecidableEq

/-- What one compiled unit declares and refers to. -/
structure ModuleDecl where
  name : String
  signatures : List Signature
  classes : List ClassDecl
  categories : List CategoryDecl
deriving DecidableEq

/-- The structured description of a method declaration. Its implementation is not shown. -/
def MethodDecl.form (method : MethodDecl) : Text.Form :=
  .record "MethodDescriptor"
    [("name", .text method.signature.name), ("types", .textOption method.signature.types)] false

/-- The structured description of a class declaration. -/
def ClassDecl.form (decl : ClassDecl) : Text.Form :=
  .record "ClassDescriptor"
    [("name", .text decl.name), ("superclass", .textOption decl.superclass),
     ("instance_size", .number decl.size),
     ("instance_methods", .list (decl.methods.map MethodDecl.form)),
     ("class_methods", .list (decl.classMethods.map MethodDecl.form))] true

/-- The structured description of a category declaration. -/
def CategoryDecl.form (decl : CategoryDecl) : Text.Form :=
  .record "CategoryDescriptor"
    [("name", .text decl.name), ("class_name", .text decl.className),
     ("instance_methods", .list (decl.methods.map MethodDecl.form)),
     ("class_methods", .list (decl.classMethods.map MethodDecl.form))] true

/-- The structured description of a signature that a module refers to. -/
def Signature.referenceForm (signature : Signature) : Text.Form :=
  .record "SelectorDescriptor"
    [("name", .text signature.name), ("types", .textOption signature.types)] true

/-- The structured description of a module declaration. -/
def ModuleDecl.form (decl : ModuleDecl) : Text.Form :=
  .record "ModuleDescriptor"
    [("name", .text decl.name),
     ("selectors", .list (decl.signatures.map Signature.referenceForm)),
     ("classes", .list (decl.classes.map ClassDecl.form)),
     ("categories", .list (decl.categories.map CategoryDecl.form))] true

end LateBinding
