import LateBinding.Config
import LateBinding.Log.Logger
import LateBinding.Lock.Sections
import LateBinding.Registry.Ancestry
import LateBinding.Registry.Change

/-!
# Images

An image is one independent system of classes: a selector table, a registry, a table
of synchronized sections, and a choice of what to do with messages that no class
implements. Two messages are sent by the image itself, `load` to a class and its
categories when the class is loaded, and `initialize` to a class before its first
message. Their selectors are the first two of every image.
-/

namespace LateBinding

variable [NameHash]

/-- An independent system of classes. -/
structure Image where
  config : Config
  selectors : SelectorTable NameHash.hash
  registry : Registry
  /-- Whether messages without an implementation go to a handler. If not, they are fatal. -/
  forwards : Bool
  sections : Sections
  loadSelector : Selector
  initSelector : Selector
deriving Inhabited

namespace Image

/-- The message sent to a class and its categories when the class is loaded. -/
def loadSignature : Signature := ⟨"load", none⟩

/-- The message sent to a class before its first message. -/
def initSignature : Signature := ⟨"initialize", none⟩

/-- What a growing selector table reports. -/
def growthMessages {hash : String → Nat} (interned : SelectorTable.Interned hash) :
    List Log.Message :=
  match interned.grown with
  | none => []
  | some buckets => [⟨.trace, SelectorTable.growthReport buckets⟩]

/-- The selector of a signature that every image needs. The selector table of a new image
    may hand out every selector there is, so nothing but a panic stands in the way. -/
def reserved {hash : String → Nat} (interned : SelectorTable.Interned hash) :
    Except Panic Selector :=
  match interned.result with
  | .ok selector => .ok selector
  | .error (.panicked panic) => .error panic
  | .error (.refused _) => .ok interned.table.size

/-- A new image, with what its creation reports. -/
def create (config : Config) : Except Panic (Image × List Log.Message) := do
  let table ← config.selectorTable
  let load := table.intern loadSignature
  let loadSelector ← reserved load
  let init := load.table.intern initSignature
  let initSelector ← reserved init
  return ({ config
            selectors := init.table
            registry := .empty
            forwards := false
            sections := .empty
            loadSelector
            initSelector },
          growthMessages load ++ growthMessages init)

/-- The structured description of an image. -/
def form (image : Image) : Text.Form :=
  .record "Runtime"
    [("config", image.config.form), ("selectors", image.selectors.form),
     ("sync", image.sections.form)] false

end Image

end LateBinding
