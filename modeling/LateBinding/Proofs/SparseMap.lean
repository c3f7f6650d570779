import LateBinding.SparseMap.Basic

/-!
# Reading after writing in a sparse map

A written key reads as the value written to it and every other key as before. The three
bytes of a key determine it, so two keys that share a branch and a leaf differ in their
slot, and the write of one never reaches the slot of the other.
-/

namespace LateBinding

namespace Node

variable {α : Type}

/-- In an empty node there is no value. -/
theorem get?_empty (slot : Fin 256) : (empty : Node α).get? slot = none := by
  simp [empty, get?]

/-- A value that is put into a slot is read there. -/
theorem get?_put (node : Node α) (written read : Fin 256) (value : α) :
    (node.put written value).get? read =
      if written = read then some value else node.get? read := by
  simp only [get?, put, Fin.getElem_fin, Vector.getElem_set, Fin.val_inj]

end Node

namespace SparseMap

variable {α : Type}

/-- A key has three bytes. -/
theorem split_of_lt {key : Nat} (inside : key < capacity) :
    split key =
      some (Fin.ofNat 256 (key / 65536), Fin.ofNat 256 (key / 256), Fin.ofNat 256 key) := by
  simp [split, inside]

/-- A number that is too large for a key has none. -/
theorem split_of_not_lt {key : Nat} (outside : ¬ key < capacity) : split key = none := by
  simp [split, outside]

/-- The bytes of a key determine it. -/
theorem split_injective {first second : Nat} (inside : first < capacity)
    (same : split first = split second) : first = second := by
  by_cases secondInside : second < capacity
  · rw [split_of_lt inside, split_of_lt secondInside] at same
    simp only [Option.some.injEq, Prod.mk.injEq, Fin.ofNat, Fin.mk.injEq, capacity] at *
    omega
  · rw [split_of_lt inside, split_of_not_lt secondInside] at same
    cases same

/-- What stands in the slot that three bytes lead to. -/
def slot (map : SparseMap α) (bytes : Fin 256 × Fin 256 × Fin 256) : Option α :=
  (map.branches.get bytes.1).bind fun branch => (branch.get? bytes.2.1).bind (·.get? bytes.2.2)

/-- A key is read at its bytes. -/
theorem get?_eq_slot (map : SparseMap α) (key : Nat) :
    map.get? key = (split key).bind map.slot := rfl

/-- In an empty array there is no value. -/
theorem get?_empty (key : Nat) : (empty : SparseMap α).get? key = none := by
  rw [get?_eq_slot]
  cases split key with
  | none => rfl
  | some bytes => simp [slot, empty, Vector.get]

/-- A key that needs more than 24 bits is never present. -/
theorem get?_of_not_lt (map : SparseMap α) {key : Nat} (outside : ¬ key < capacity) :
    map.get? key = none := by
  rw [get?_eq_slot, split_of_not_lt outside]
  rfl

/-- A branch that was replaced reads as the new one, and the others as before. -/
theorem branches_get {β : Type} (branches : Vector β 256) (written read : Fin 256) (branch : β) :
    (branches.setIfInBounds written branch).get read =
      if written = read then branch else branches.get read := by
  change (branches.setIfInBounds written branch)[read.val] =
    if written = read then branch else branches[read.val]
  simp only [Vector.getElem_setIfInBounds, Fin.val_inj]

/-- Writing below a branch and a leaf, made empty if they are missing, changes the slot
    written and no other. -/
theorem slot_write (map : SparseMap α) (i j k : Fin 256) (value : α) (size : Nat)
    (bytes : Fin 256 × Fin 256 × Fin 256) :
    let branch := (map.branches.get i).getD .empty
    let leaf := (branch.get? j).getD .empty
    SparseMap.slot ⟨map.branches.setIfInBounds i (some (branch.put j (leaf.put k value))), size⟩
        bytes =
      if (i, j, k) = bytes then some value else map.slot bytes := by
  obtain ⟨i', j', k'⟩ := bytes
  intro branch leaf
  have written : SparseMap.slot
      ⟨map.branches.setIfInBounds i (some (branch.put j (leaf.put k value))), size⟩ (i', j', k') =
      if i = i' then ((branch.put j (leaf.put k value)).get? j').bind (·.get? k')
      else map.slot (i', j', k') := by
    simp only [slot, branches_get]
    split <;> rfl
  have atLeaf : leaf.get? k' = (branch.get? j).bind (·.get? k') := by
    cases found : branch.get? j <;> simp [leaf, found, Node.get?_empty]
  have atBranch : (branch.get? j').bind (·.get? k') = map.slot (i, j', k') := by
    cases found : map.branches.get i <;> simp [branch, slot, found, Node.get?_empty]
  rw [written]
  by_cases sameBranch : i = i'
  · subst sameBranch
    by_cases sameLeaf : j = j'
    · subst sameLeaf
      simp only [↓reduceIte, Node.get?_put, Option.bind_some, Prod.mk.injEq, true_and, atLeaf,
        atBranch]
    · simp only [↓reduceIte, Node.get?_put, sameLeaf, Prod.mk.injEq, false_and, and_false, atBranch]
  · simp only [sameBranch, ↓reduceIte, Prod.mk.injEq, false_and]

/-- A key of 24 bits can be written. Afterwards it reads as the value written, and every
    other key reads as before. -/
theorem set_spec (map : SparseMap α) {key : Nat} (value : α) (inside : key < capacity) :
    ∃ written, map.set key value = .ok (map.get? key, written) ∧
      ∀ other, written.get? other = if key = other then some value else map.get? other := by
  obtain ⟨⟨i, j, k⟩, bytes⟩ : ∃ bytes, split key = some bytes := ⟨_, split_of_lt inside⟩
  let branch := (map.branches.get i).getD .empty
  let leaf := (branch.get? j).getD .empty
  have atLeaf : leaf.get? k = map.get? key := by
    rw [get?_eq_slot, bytes]
    cases found : map.branches.get i with
    | none => simp [leaf, branch, slot, found, Node.get?_empty]
    | some old =>
      cases below : old.get? j <;> simp [leaf, branch, slot, found, below, Node.get?_empty]
  refine ⟨⟨map.branches.setIfInBounds i (some (branch.put j (leaf.put k value))),
    if (map.get? key).isSome then map.size else map.size + 1⟩, ?_, ?_⟩
  · rw [← atLeaf]
    simp only [set, bytes, branch, leaf]
  · intro other
    by_cases same : key = other
    · subst same
      rw [get?_eq_slot, bytes, Option.bind_some, slot_write]
      simp
    · rw [if_neg same, get?_eq_slot _ other, get?_eq_slot map other]
      cases otherBytes : split other with
      | none => rfl
      | some others =>
        have different : (i, j, k) ≠ others := by
          intro equal
          exact same (split_injective inside (by rw [bytes, otherBytes, equal]))
        rw [Option.bind_some, Option.bind_some, slot_write, if_neg different]

end SparseMap

end LateBinding
