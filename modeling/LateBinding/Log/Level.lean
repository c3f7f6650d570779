import LateBinding.Text.Blank

/-!
# Severity levels

A record carries one of five levels, from `error`, the most severe, to `trace`. A
threshold lets through the records that are at least as severe as itself, so `warn`
shows errors and warnings and hides the rest.

A level is read from text by name. Blanks around the name and the case of its ASCII
letters do not matter, and `warning` is a second name of `warn`. A text that names no
level is refused with a message that shows it unchanged.
-/

namespace LateBinding.Log

/-- How severe a record is, most severe first. -/
inductive Level where
  | error
  | warn
  | info
  | debug
  | trace
deriving DecidableEq, Inhabited

namespace Level

/-- All levels, most severe first. -/
def all : List Level := [.error, .warn, .info, .debug, .trace]

/-- Position in the order of severity: zero is the most severe. -/
def rank : Level → Nat
  | .error => 0
  | .warn => 1
  | .info => 2
  | .debug => 3
  | .trace => 4

/-- The name shown in records. -/
def label : Level → String
  | .error => "ERROR"
  | .warn => "WARN"
  | .info => "INFO"
  | .debug => "DEBUG"
  | .trace => "TRACE"

/-- The name shown in descriptions of other values. -/
def title : Level → String
  | .error => "Error"
  | .warn => "Warn"
  | .info => "Info"
  | .debug => "Debug"
  | .trace => "Trace"

/-- The names under which a level is read. -/
def names : Level → List String
  | .error => ["error"]
  | .warn => ["warn", "warning"]
  | .info => ["info"]
  | .debug => ["debug"]
  | .trace => ["trace"]

/-- A threshold admits the records that are at least as severe as itself. -/
def admits (threshold level : Level) : Bool :=
  level.rank ≤ threshold.rank

/-- Reads a level by name. Only the ASCII letters have their case folded, so a letter
    that merely looks like one of them is not accepted. -/
def parse? (text : String) : Option Level :=
  let word := (Text.trim text.toList).map Char.toLower
  all.find? fun level => level.names.any fun name => name.toList == word

/-- What is said of a text that names no level. -/
def rejection (text : String) : String :=
  "invalid log level: " ++ text

/-- Reads a level by name, or says why the text names none. -/
def read (text : String) : Except String Level :=
  match parse? text with
  | some level => .ok level
  | none => .error (rejection text)

/-- The threshold a process starts with, given its environment setting. An unset or
    rejected setting gives `warn`. -/
def ofSetting (setting : Option String) : Level :=
  (setting.bind parse?).getD .warn

end Level

end LateBinding.Log
