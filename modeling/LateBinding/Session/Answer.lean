import LateBinding.Image.Basic

/-!
# Answers and events

An answer is what a step gives: a value, a view of part of an image as it was at that
moment, or a refusal. An event is something that happened while a step ran: a report
that reached the log, a call of an implementation, a message that went to the handler,
or the answer of a step that an implementation took on its own account.
-/

namespace LateBinding

/-- A side of a class by name. -/
structure ClassLabel where
  name : String
  side : Side
deriving DecidableEq

/-- The written label: a metaclass has a leading plus sign. -/
def ClassLabel.text (label : ClassLabel) : String :=
  match label.side with
  | .inst => label.name
  | .metaclass => "+" ++ label.name

/-- A side of a class as it is at one moment. -/
structure ClassView where
  label : ClassLabel
  stage : Stage
  size : Nat
  superName : Option String
  superclass : Option ClassLabel
  table : Option DispatchTable

/-- The structured description of a side of a class. -/
def ClassView.form (view : ClassView) : Text.Form :=
  .record "Class"
    [("name", .text view.label.name), ("meta", .flag (view.label.side == .metaclass)),
     ("superclass", .textOption view.superName), ("state", .word view.stage.title)] true

/-- A class of a dump: both sides, and the names of its categories. -/
structure ClassDump where
  inst : ClassView
  metaclass : ClassView
  categories : List String
  waiting : List String

/-- Everything there is to see of the classes and selectors of an image. -/
structure ImageDump where
  classes : List ClassDump
  selectors : Nat
  buckets : Nat

/-- What a step gives. -/
inductive Answer where
  | done
  | nothing
  | refused (error : Error)
  | flag (b : Bool)
  | number (n : Nat)
  | text (s : String)
  | texts (ss : List String)
  | labels (labels : List ClassLabel)
  | matrix (rows : List (List Bool))
  | signature (signature : Signature)
  /-- The implementation that was found, if any. -/
  | found (imp : Option Imp)
  /-- The implementation that was replaced, if any. -/
  | replaced (imp : Option Imp)
  /-- What a call returned. -/
  | returned (value : Imp)
  | returnedAll (values : List Imp)
  | classView (view : ClassView)
  | classViews (views : List ClassView)
  | category (category : Category)
  | categories (categories : List Category)
  | table (table : DispatchTable)
  | statistics (selectors buckets : Nat)
  | body (answers : List Answer)
  | dump (dump : ImageDump)

/-- Why an implementation is called. -/
inductive Purpose where
  /-- A message was sent. -/
  | message
  /-- A class was loaded, or a category attached: its serial number. -/
  | load (category : Option Nat)
  /-- A class is prepared for its first message. -/
  | init
deriving DecidableEq

/-- A call of an implementation: on a class object or on no object, for a selector. -/
structure Call where
  imp : Imp
  receiver : Option ClassHandle
  selector : Selector
  purpose : Purpose
deriving DecidableEq

/-- What happened while a step ran. -/
inductive Event where
  | logged (message : Log.Message)
  /-- A call, with the label of its receiver. -/
  | called (call : Call) (receiver : Option ClassLabel)
  /-- A message that went to the handler. -/
  | forwarded (label : ClassLabel) (selector : Selector) (name : String)
  /-- A step that an implementation or the handler took. -/
  | acted (answer : Answer)
  /-- Steps that were not taken because calls were nested too deeply. -/
  | tooDeep

/-- The label of a side. -/
def Registry.label (registry : Registry) (ref : SideRef) : ClassLabel :=
  ⟨(registry.entry ref.id).name, ref.side⟩

/-- A side as it is now. -/
def Registry.view (registry : Registry) (ref : SideRef) : ClassView where
  label := registry.label ref
  stage := (registry.entry ref.id).stage.get ref.side
  size := (registry.entry ref.id).size
  superName := (registry.entry ref.id).superName
  superclass := (registry.superside? ref).map registry.label
  table := registry.table? ref

variable [NameHash]

/-- The classes and selectors of an image as they are now, in the order of registration. -/
def Image.dump (image : Image) : ImageDump where
  classes := (List.range image.registry.size).map fun id =>
    { inst := image.registry.view ⟨id, .inst⟩
      metaclass := image.registry.view ⟨id, .metaclass⟩
      categories := (image.registry.entry id).categories.map Category.name
      waiting := (image.registry.parkedFor (image.registry.entry id).name).map Category.name }
  selectors := image.selectors.size
  buckets := image.selectors.bucketCount

end LateBinding
