import LateBinding.Text.Form

/-!
# Refusals and failures

An operation that cannot do what it is asked returns an `Error` and can be asked
again. Two conditions are not errors in this sense but stop the program: a `Panic`
is a broken precondition of the arithmetic or of the caller, and a fatal error is an
`Error` at a point where the program has no way to go on. An operation that can end in
an error or a panic has a `Failure`.
-/

namespace LateBinding

/-- Why an operation is refused. -/
inductive Error where
  /-- Every selector number has been handed out. -/
  | outOfSelectors
  /-- A key of a sparse map is wider than 24 bits. -/
  | keyOutOfRange (key : Nat)
  | classAlreadyExists (name : String)
  | classNotFound (name : String)
  /-- The chain of superclass names of a class leads to a name nobody registered. -/
  | unresolvedSuperclass (name superclass : String)
  /-- The chain of superclass names comes back to a class it has passed. -/
  | inheritanceCycle (name : String)
  | methodNotFound (name selector : String)
  /-- A lock is released by a thread that does not hold it. -/
  | lockNotOwned
  /-- A lock is released while nobody holds it. -/
  | lockNotHeld
  /-- A section is left that was not entered. -/
  | sectionNotEntered
deriving DecidableEq

namespace Error

/-- The name of the kind of error. -/
def kind : Error → String
  | .outOfSelectors => "OutOfSelectorSlots"
  | .keyOutOfRange _ => "KeyOutOfRange"
  | .classAlreadyExists _ => "ClassAlreadyExists"
  | .classNotFound _ => "ClassNotFound"
  | .unresolvedSuperclass _ _ => "UnresolvedSuperclass"
  | .inheritanceCycle _ => "InheritanceCycle"
  | .methodNotFound _ _ => "MethodNotFound"
  | .lockNotOwned => "MutexNotOwned"
  | .lockNotHeld => "MutexNotLocked"
  | .sectionNotEntered => "SyncNotEntered"

/-- The text shown to a person. -/
def message : Error → String
  | .outOfSelectors => "Out of selector slots"
  | .keyOutOfRange key =>
    "Sparse array key 0x" ++ String.ofList (Text.hex key) ++ " does not fit in 24 bits"
  | .classAlreadyExists name => "Class " ++ name ++ " is already registered"
  | .classNotFound name => "Class " ++ name ++ " is not registered"
  | .unresolvedSuperclass name superclass =>
    "Class " ++ name ++ " has unresolved superclass " ++ superclass
  | .inheritanceCycle name => "Inheritance cycle through class " ++ name
  | .methodNotFound name selector =>
    "Selector " ++ selector ++ " is not implemented by class " ++ name
  | .lockNotOwned => "Mutex released by a thread that does not own it"
  | .lockNotHeld => "Mutex released while not locked"
  | .sectionNotEntered => "Synchronized section exited without matching enter"

/-- The data an error carries, by name. -/
def details : Error → List (String × Text.Form)
  | .keyOutOfRange key => [("key", .number key)]
  | .classAlreadyExists name => [("name", .text name)]
  | .classNotFound name => [("name", .text name)]
  | .unresolvedSuperclass name superclass =>
    [("class", .text name), ("superclass", .text superclass)]
  | .inheritanceCycle name => [("class", .text name)]
  | .methodNotFound name selector => [("class", .text name), ("selector", .text selector)]
  | .outOfSelectors | .lockNotOwned | .lockNotHeld | .sectionNotEntered => []

/-- The structured description of an error: its kind, with its data if it has any. -/
def form (error : Error) : Text.Form :=
  match error.details with
  | [] => .word error.kind
  | details => .record error.kind details true

end Error

/-- A broken precondition, which stops the program. -/
inductive Panic where
  /-- A load factor with a zero part. -/
  | emptyLoadFactor
  /-- A sum above the largest 64-bit number. -/
  | sumOverflow
  /-- A product above the largest 64-bit number. -/
  | productOverflow
  /-- A table larger than any memory can be. -/
  | capacityOverflow
deriving DecidableEq

/-- The text shown when the program stops. -/
def Panic.message : Panic → String
  | .emptyLoadFactor => "load factor must be a positive ratio"
  | .sumOverflow => "attempt to add with overflow"
  | .productOverflow => "attempt to multiply with overflow"
  | .capacityOverflow => "capacity overflow"

/-- Why an operation does not come to its end. -/
inductive Failure where
  | refused (error : Error)
  | panicked (panic : Panic)
deriving DecidableEq

end LateBinding
