/-!
# Nodes with 256 slots

A node is a row of 256 slots, some of them filled, together with the number of
filled ones. The number is kept beside the slots so that a node can tell at once
whether it has become empty; no operation counts the slots again.
-/

namespace LateBinding

/-- A row of 256 slots and the number of filled ones. -/
structure Node (α : Type) where
  slots : Vector (Option α) 256
  count : Nat

namespace Node

variable {α : Type}

/-- The node without values. -/
def empty : Node α where
  slots := Vector.replicate 256 none
  count := 0

/-- The value in a slot, if the slot is filled. -/
def get? (node : Node α) (slot : Fin 256) : Option α :=
  node.slots[slot]

/-- Fills a slot, over whatever it held. -/
def put (node : Node α) (slot : Fin 256) (value : α) : Node α where
  slots := node.slots.set slot (some value)
  count := if (node.get? slot).isSome then node.count else node.count + 1

/-- Clears a slot, filled or not. -/
def clear (node : Node α) (slot : Fin 256) : Node α where
  slots := node.slots.set slot none
  count := if (node.get? slot).isSome then node.count - 1 else node.count

/-- The filled slots with their values, in ascending order. -/
def toList (node : Node α) : List (Fin 256 × α) :=
  (List.finRange 256).filterMap fun slot => (node.get? slot).map fun value => (slot, value)

end Node

end LateBinding
