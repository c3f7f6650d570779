import LateBinding.Registry.Basic

/-!
# Objects and class handles

Objects live outside an image. All that is needed of them is identity: two handles
are the same object or not, and one address stands for no object at all. A class is an
object as well, and its two sides are two different objects.
-/

namespace LateBinding

/-- The number of an image among those of one session. -/
abbrev ImageId := Nat

/-- A side of a class, wherever it is registered. -/
structure ClassHandle where
  image : ImageId
  ref : SideRef
deriving DecidableEq, Inhabited

/-- The identity of an object. -/
inductive Object where
  | address (address : Nat)
  | classObject (handle : ClassHandle)
deriving DecidableEq

namespace Object

/-- The address that stands for no object. -/
def null : Object := .address 0

/-- Whether this is no object. -/
def isNull (object : Object) : Bool := object == null

end Object

/-- The written form of an object at an address. -/
def describeAddress (address : Nat) : String :=
  "ObjectPtr(0x" ++ String.ofList (Text.hex address) ++ ")"

end LateBinding
