/-!
# Blank characters

A name written by hand may be surrounded by blanks. Blank means the White_Space
property of Unicode, which is wider than the four characters of ASCII space, tab
and line ends: it holds the no-break space and the ideographic space, and leaves
out the zero-width characters and the information separators `U+001C` to `U+001F`.
-/

namespace LateBinding.Text

/-- The White_Space property as closed ranges of code points, ascending. -/
def blankRanges : List (Nat × Nat) :=
  [(0x9, 0xd), (0x20, 0x20), (0x85, 0x85), (0xa0, 0xa0), (0x1680, 0x1680), (0x2000, 0x200a),
   (0x2028, 0x2029), (0x202f, 0x202f), (0x205f, 0x205f), (0x3000, 0x3000)]

/-- A character is blank when its code point lies in one of the ranges. -/
def isBlank (c : Char) : Bool :=
  blankRanges.any fun range => range.1 ≤ c.toNat && c.toNat ≤ range.2

/-- Removes the blanks at both ends and keeps those between other characters. -/
def trim (text : List Char) : List Char :=
  ((text.dropWhile isBlank).reverse.dropWhile isBlank).reverse

/-- The table agrees with the narrow class of core on the characters core knows. -/
theorem isBlank_of_isWhitespace (c : Char) (white : c.isWhitespace = true) : isBlank c = true := by
  simp only [Char.isWhitespace, Bool.or_eq_true, decide_eq_true_eq] at white
  rcases white with ((same | same) | same) | same <;> subst same <;> decide

end LateBinding.Text
