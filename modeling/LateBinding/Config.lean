import LateBinding.Log.Level
import LateBinding.Selector.Table

/-!
# Configuration

An image is created from a configuration: the size and load factor of its selector
table, whether dispatch tables are built as soon as a class is loaded, and a log
threshold to set. A configuration is made from the default one by changes, of which
only a load factor with a zero part is not allowed.
-/

namespace LateBinding

/-- How an image is to be created. -/
structure Config where
  /-- Initial number of buckets of the selector table, before rounding. -/
  buckets : Nat := 64
  load : LoadFactor := ⟨3, 4⟩
  /-- Build the dispatch tables of a class when it is loaded, not when it is first used. -/
  eager : Bool := false
  /-- The log threshold to set when the image is created. -/
  level : Option Log.Level := none
deriving DecidableEq

namespace Config

/-- The configuration without changes. -/
def standard : Config := {}

instance : Inhabited Config := ⟨standard⟩

/-- One change to a configuration. -/
inductive Change where
  | buckets (count : Nat)
  | load (num den : Nat)
  | eager (on : Bool)
  | level (level : Log.Level)
deriving DecidableEq

/-- A configuration after one change. -/
def change (config : Config) : Change → Except Panic Config
  | .buckets count => .ok { config with buckets := count }
  | .load num den =>
    if num > 0 && den > 0 then .ok { config with load := ⟨num, den⟩ } else .error .emptyLoadFactor
  | .eager on => .ok { config with eager := on }
  | .level level => .ok { config with level := some level }

/-- The default configuration after some changes, the first of them first. -/
def ofChanges (changes : List Change) : Except Panic Config :=
  changes.foldlM change standard

/-- The new selector table that a configuration asks for. It may hand out every selector
    there is. -/
def selectorTable {hash : String → Nat} (config : Config) : Except Panic (SelectorTable hash) :=
  SelectorTable.create config.buckets config.load SparseMap.capacity

/-- The structured description of a configuration. -/
def form (config : Config) : Text.Form :=
  .record "RuntimeConfig"
    [("selector_buckets", .number config.buckets),
     ("selector_load_factor", .pair (.number config.load.num) (.number config.load.den)),
     ("eager_dispatch_tables", .flag config.eager),
     ("log_level", match config.level with
       | none => .absent
       | some level => .present (.word level.title))] true

end Config

end LateBinding
