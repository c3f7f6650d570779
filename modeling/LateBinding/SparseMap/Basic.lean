import LateBinding.Error
import LateBinding.SparseMap.Node

/-!
# Sparse maps over 24-bit keys

A sparse map is a tree of three levels. The three bytes of a key, most significant
first, choose a branch, a leaf of that branch and a slot of that leaf. Branches and
leaves exist only where a key is populated: writing a key makes the levels it needs,
and removing the last key below a level takes the level away again. Looking a key up
is three indexed reads.

Keys are numbers; one that needs more than 24 bits is never present, cannot be
written, and is reported as such.
-/

namespace LateBinding

/-- A map from 24-bit keys, as a tree of branches, leaves and slots. -/
structure SparseMap (α : Type) where
  branches : Vector (Option (Node (Node α))) 256
  /-- The number of populated keys. -/
  size : Nat

namespace SparseMap

variable {α : Type}

/-- The number of keys. -/
def capacity : Nat := 0x1000000

/-- The three bytes of a key, most significant first. A wider key has none. -/
def split (key : Nat) : Option (Fin 256 × Fin 256 × Fin 256) :=
  if key < capacity then
    some (Fin.ofNat 256 (key / 65536), Fin.ofNat 256 (key / 256), Fin.ofNat 256 key)
  else none

/-- The key with the given bytes. -/
def join (branch leaf slot : Fin 256) : Nat :=
  branch.val * 65536 + leaf.val * 256 + slot.val

/-- The map without keys. -/
def empty : SparseMap α where
  branches := Vector.replicate 256 none
  size := 0

instance : Inhabited (SparseMap α) := ⟨empty⟩

/-- The value at a key, if the key is populated. -/
def get? (map : SparseMap α) (key : Nat) : Option α := do
  let (i, j, k) ← split key
  let branch ← map.branches.get i
  let leaf ← branch.get? j
  leaf.get? k

/-- Whether a key is populated. -/
def contains (map : SparseMap α) (key : Nat) : Bool :=
  (map.get? key).isSome

/-- Whether no key is populated. -/
def isEmpty (map : SparseMap α) : Bool :=
  map.size == 0

/-- Writes a value at a key and gives back the value that stood there before. Missing
    levels are made on the way. A key wider than 24 bits is refused. -/
def set (map : SparseMap α) (key : Nat) (value : α) : Except Error (Option α × SparseMap α) :=
  match split key with
  | none => .error (.keyOutOfRange key)
  | some (i, j, k) =>
    let branch := (map.branches.get i).getD .empty
    let leaf := (branch.get? j).getD .empty
    let previous := leaf.get? k
    .ok (previous,
      { branches := map.branches.setIfInBounds i (some (branch.put j (leaf.put k value)))
        size := if previous.isSome then map.size else map.size + 1 })

/-- A branch after one of its leaves was replaced by `leaf`: an empty leaf is released,
    and then an empty branch with it. -/
def release (branch : Node (Node α)) (j : Fin 256) (leaf : Node α) : Option (Node (Node α)) :=
  if leaf.count == 0 then
    let rest := branch.clear j
    if rest.count == 0 then none else some rest
  else some (branch.put j leaf)

/-- Clears a key and gives back its value. Levels left empty are released. -/
def remove (map : SparseMap α) (key : Nat) : Option α × SparseMap α :=
  match split key with
  | none => (none, map)
  | some (i, j, k) =>
    match map.branches.get i with
    | none => (none, map)
    | some branch =>
      match branch.get? j with
      | none => (none, map)
      | some leaf =>
        match leaf.get? k with
        | none => (none, map)
        | some value =>
          (some value,
            { branches := map.branches.setIfInBounds i (release branch j (leaf.clear k))
              size := map.size - 1 })

/-- The number of leaves. -/
def leafCount (map : SparseMap α) : Nat :=
  map.branches.toList.foldl (fun sum branch => sum + (branch.map Node.count).getD 0) 0

/-- The populated keys with their values, in ascending order. -/
def toList (map : SparseMap α) : List (Nat × α) :=
  (List.finRange 256).flatMap fun i =>
    (((map.branches.get i).map Node.toList).getD []).flatMap fun (j, leaf) =>
      leaf.toList.map fun (k, value) => (join i j k, value)

/-- The structured description: how many keys and how many leaves. -/
def form (map : SparseMap α) : Text.Form :=
  .record "SparseArray" [("len", .number map.size), ("leaves", .number map.leafCount)] true

end SparseMap

end LateBinding
