import LateBinding.Error

/-!
# Machine words

Sizes and counts are kept in words of 64 bits. A sum or a product that does not fit into
one is a panic: it is never wrapped round and never cut off. Rounding up to a power of two
is a sum as well, since a power of two is one more than a row of set bits.
-/

namespace LateBinding.Word

/-- The largest word. -/
def largest : Nat := 0xFFFFFFFFFFFFFFFF

/-- The sum of two words, if it is a word. -/
def sum (a b : Nat) : Except Panic Nat :=
  if a + b ≤ largest then .ok (a + b) else .error .sumOverflow

/-- The product of two words, if it is a word. -/
def product (a b : Nat) : Except Panic Nat :=
  if a * b ≤ largest then .ok (a * b) else .error .productOverflow

/-- The least power of two that is not below `n`. -/
def powerOfTwoAbove (n : Nat) : Nat :=
  if n ≤ 1 then 1 else 1 <<< (Nat.log2 (n - 1) + 1)

/-- The least power of two that is not below `n`, if it is a word. -/
def roundUp (n : Nat) : Except Panic Nat :=
  sum (powerOfTwoAbove n - 1) 1

/-- A sum is exact when it is given at all. -/
theorem sum_eq_ok_iff (a b total : Nat) :
    sum a b = .ok total ↔ total = a + b ∧ total ≤ largest := by
  unfold sum
  split <;> simp <;> omega

/-- A product is exact when it is given at all. -/
theorem product_eq_ok_iff (a b total : Nat) :
    product a b = .ok total ↔ total = a * b ∧ total ≤ largest := by
  unfold product
  split <;> rename_i fits
  · constructor
    · intro same
      cases same
      exact ⟨rfl, fits⟩
    · rintro ⟨rfl, -⟩
      rfl
  · constructor
    · intro same
      cases same
    · rintro ⟨rfl, bounded⟩
      exact absurd bounded fits

end LateBinding.Word
