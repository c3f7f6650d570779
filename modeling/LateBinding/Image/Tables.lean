import LateBinding.Image.Edit

/-!
# Building dispatch tables

The dispatch table of a side starts as a copy of the table of the side it inherits
from, or empty at the end of the line. The methods of the class are written over it in
the order of declaration, and then those of each attached category in the order of
registration. The last writer wins, so a category overrides its class and the earlier
categories, and all of them override what is inherited.

A table is published whole and never changed afterwards. When a class changes, the
tables that exist in its subtree are built anew and published in place of the old ones;
whoever still holds an old table sees it unchanged. A side that never had a table does
not get one by this.
-/

namespace LateBinding.Edit

variable [NameHash]

/-- Writes methods over a table, in order. -/
def overlay (table : DispatchTable) (methods : List Method) : Edit DispatchTable :=
  methods.foldlM
    (fun table method =>
      match table.set method.selector method.imp with
      | .ok (_, written) => pure written
      | .error error => refuse error)
    table

/-- Writes what a side declares over a table. -/
def overlaySide (table : DispatchTable) (ref : SideRef) : Edit DispatchTable := do
  overlay table (((← registry).entry ref.id).declarations ref.side)

/-- The word for a side in reports. -/
def sideWord : Side → String
  | .inst => "instance"
  | .metaclass => "class"

/-- The published table of the first side of a line of inheritance. If it has none, one
    is built on that of the rest of the line and published. -/
def ensureAlong : List SideRef → Edit DispatchTable
  | [] => pure .empty
  | ref :: above => do
    match (← registry).table? ref with
    | some table => return table
    | none =>
      let table ← overlaySide (← ensureAlong above) ref
      modifyRegistry (·.publish ref table)
      report .trace ("built " ++ sideWord ref.side ++ " dispatch table of " ++
        ((← registry).entry ref.id).name ++ " (" ++ toString table.size ++ " entries)")
      return table

/-- The published table of a side, built on first use. -/
def ensure (ref : SideRef) : Edit DispatchTable := do
  ensureAlong ((← registry).lineage ref)

/-- A new table for a side, not yet published. -/
def build (ref : SideRef) : Edit DispatchTable := do
  match (← registry).parent? ref with
  | some above => overlaySide (← ensure above) ref
  | none => overlaySide .empty ref

/-- Replaces the table of a side, if it has one. -/
def rebuildSide (ref : SideRef) : Edit Unit := do
  if ((← registry).table? ref).isSome then
    let table ← build ref
    modifyRegistry (·.publish ref table)

/-- Replaces the tables of a class. The instance side comes first, because the metaclass
    of a root starts from it. -/
def rebuildClass (id : ClassId) : Edit Unit := do
  rebuildSide ⟨id, .inst⟩
  rebuildSide ⟨id, .metaclass⟩
  report .debug ("rebuilt dispatch tables of " ++ ((← registry).entry id).name)

/-- Replaces the tables of a class and of all classes below it, each after the one it
    inherits from. -/
def rebuild (id : ClassId) : Edit Unit := do
  ((← registry).descendants id).forM rebuildClass

end LateBinding.Edit
