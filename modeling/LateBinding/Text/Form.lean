import LateBinding.Text.Quoted

/-!
# Structured descriptions

Diagnostics describe a value by the shape of its data: a record is its name with
its fields in order, an optional value is `None` or `Some(..)`, a list stands in
square brackets. A record that keeps some of its fields to itself says so with two
dots before its closing brace. `Form` is that shape, and `Form.text` the one place
where its punctuation is decided.
-/

namespace LateBinding.Text

/-- The shape of a described value. -/
inductive Form where
  /-- Written as it is: a number, a truth value, the name of an alternative. -/
  | word (shown : String)
  /-- A text, written between quotes. -/
  | text (content : String)
  | absent
  | present (value : Form)
  | pair (first second : Form)
  | list (items : List Form)
  /-- A named record. The last field tells whether all of its fields are shown. -/
  | record (name : String) (fields : List (String × Form)) (complete : Bool)

namespace Form

/-- A natural number in decimal digits. -/
def number (n : Nat) : Form := .word (toString n)

/-- A truth value by its name. -/
def flag (b : Bool) : Form := .word (if b then "true" else "false")

/-- An optional text. -/
def textOption : Option String → Form
  | none => .absent
  | some content => .present (.text content)

mutual

/-- The written description. -/
def written : Form → String
  | .word shown => shown
  | .text content => quote content
  | .absent => "None"
  | .present value => "Some(" ++ value.written ++ ")"
  | .pair first second => "(" ++ first.written ++ ", " ++ second.written ++ ")"
  | .list items => "[" ++ writtenItems items ++ "]"
  | .record name fields complete =>
    name ++ " \x7b " ++ writtenFields fields ++ (if complete then " \x7d" else ", .. \x7d")

/-- The items of a list, separated by commas. -/
def writtenItems : List Form → String
  | [] => ""
  | [item] => item.written
  | item :: rest => item.written ++ ", " ++ writtenItems rest

/-- The fields of a record, each with its name, separated by commas. -/
def writtenFields : List (String × Form) → String
  | [] => ""
  | [(name, value)] => name ++ ": " ++ value.written
  | (name, value) :: rest => name ++ ": " ++ value.written ++ ", " ++ writtenFields rest

end

end Form

end LateBinding.Text
