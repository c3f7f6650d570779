import LateBinding.Registry.Ancestry
import LateBinding.Registry.Change

/-!
# What a change leaves as it was

A change of the registry is described by the entries it leaves: one equation for each
change, which says what becomes of every class at once. Later arguments look at entries
and do not open the changes again.

A registry without its tables is `bare`. Publishing a table leaves the bare registry as
it is, and whatever is computed without reading tables is the same for two registries
with one bare form.
-/

namespace LateBinding

/-- A value that is set for a side is what the side has. -/
@[simp] theorem BySide.get_set_same {α : Type} (values : BySide α) (side : Side) (value : α) :
    (values.set side value).get side = value := by
  cases side <;> rfl

/-- The other side keeps its own. -/
theorem BySide.get_set_of_ne {α : Type} (values : BySide α) {side other : Side} (value : α)
    (different : other ≠ side) : (values.set side value).get other = values.get other := by
  cases side <;> cases other <;> simp_all [BySide.get, BySide.set]

/-- A value for both sides is that of each. -/
@[simp] theorem BySide.get_both {α : Type} (value : α) (side : Side) :
    (BySide.both value).get side = value := by
  cases side <;> rfl

/-- A class that has reached being loaded is loaded or initialized. -/
theorem Stage.reached_loaded_iff (stage : Stage) :
    stage.reached .loaded = true ↔ stage = .loaded ∨ stage = .initialized := by
  cases stage <;> decide

namespace Registry

variable (registry : Registry)

/-- Changing a class adds none. -/
@[simp] theorem size_modify (id : ClassId) (change : ClassEntry → ClassEntry) :
    (registry.modify id change).size = registry.size := by
  simp [size, modify]

/-- Names are found where they were. -/
@[simp] theorem find?_modify (id : ClassId) (change : ClassEntry → ClassEntry) (name : String) :
    (registry.modify id change).find? name = registry.find? name := rfl

/-- A number that was not handed out has the empty entry. -/
theorem entry_of_size_le {id : ClassId} (outside : registry.size ≤ id) :
    registry.entry id = default := by
  rw [entry, Array.getD_eq_getD_getElem?, Array.getElem?_eq_none outside]
  rfl

/-- A change applies to one class, if there is such a class. -/
theorem entry_modify (id : ClassId) (change : ClassEntry → ClassEntry) (other : ClassId) :
    (registry.modify id change).entry other =
      if id = other ∧ other < registry.size then change (registry.entry other)
      else registry.entry other := by
  simp only [entry, modify, size, Array.getD_eq_getD_getElem?, Array.getElem?_modify]
  by_cases inside : other < registry.classes.size
  · by_cases same : id = other <;> simp [same, inside]
  · by_cases same : id = other <;> simp [same, inside]

/-- The class is as it was changed. -/
theorem entry_modify_same {id : ClassId} (change : ClassEntry → ClassEntry)
    (inside : id < registry.size) :
    (registry.modify id change).entry id = change (registry.entry id) := by
  rw [entry_modify, if_pos ⟨rfl, inside⟩]

/-- The others are as they were. -/
theorem entry_modify_of_ne {id other : ClassId} (change : ClassEntry → ClassEntry)
    (different : id ≠ other) : (registry.modify id change).entry other = registry.entry other := by
  rw [entry_modify, if_neg fun both => different both.1]

/-- What a change of a class does not touch reads as before, in all classes. -/
theorem field_modify (id : ClassId) (change : ClassEntry → ClassEntry) {β : Type}
    (field : ClassEntry → β)
    (kept : field (change (registry.entry id)) = field (registry.entry id)) (other : ClassId) :
    field ((registry.modify id change).entry other) = field (registry.entry other) := by
  rw [entry_modify]
  split
  · rename_i same
    rw [← same.1, kept]
  · rfl

/-- What methods have no part in reads as before when one is replaced. -/
theorem field_replaceMethod (ref : SideRef) (selector : Selector) (imp : Imp) {β : Type}
    (field : ClassEntry → β)
    (blind : ∀ (entry : ClassEntry) methods, field { entry with methods } = field entry)
    (id : ClassId) :
    field ((registry.replaceMethod ref selector imp).entry id) = field (registry.entry id) :=
  registry.field_modify ref.id _ field (blind _ _) id

/-- A class that is added is one more. -/
@[simp] theorem size_push (new : ClassEntry) : (registry.push new).size = registry.size + 1 := by
  simp [size, push]

/-- It has the next number, and the others are as they were. -/
theorem entry_push (new : ClassEntry) (id : ClassId) :
    (registry.push new).entry id = if id = registry.size then new else registry.entry id := by
  simp only [entry, push, size, Array.getD_eq_getD_getElem?, Array.getElem?_push]
  split <;> rfl

/-- The next number is that of the new class. -/
theorem entry_push_size (new : ClassEntry) : (registry.push new).entry registry.size = new := by
  rw [entry_push, if_pos rfl]

/-- Under any other number there is what was there. -/
theorem entry_push_of_ne (new : ClassEntry) {id : ClassId} (older : id ≠ registry.size) :
    (registry.push new).entry id = registry.entry id := by
  rw [entry_push, if_neg older]

/-- What a new class has in common with the empty entry reads as before, in all classes. -/
theorem field_push {β : Type} (field : ClassEntry → β) (new : ClassEntry)
    (blank : field new = field default) (id : ClassId) :
    field ((registry.push new).entry id) = field (registry.entry id) := by
  by_cases last : id = registry.size
  · rw [last, entry_push_size, blank, entry_of_size_le registry (Nat.le_refl _)]
  · rw [entry_push_of_ne registry new last]

/-- What the classes of a registry have in one respect, in the order of their numbers. -/
def column {β : Type} (field : ClassEntry → β) : List β :=
  (List.range registry.size).map fun id => field (registry.entry id)

/-- The names of the classes of a registry, in the order of their numbers. -/
def names : List String := registry.column ClassEntry.name

/-- A column has an entry for each class. -/
theorem length_column {β : Type} (field : ClassEntry → β) :
    (registry.column field).length = registry.size := by
  rw [column, List.length_map, List.length_range]

/-- The entry is the field of the class with that number. -/
theorem getElem?_column {β : Type} (field : ClassEntry → β) {id : ClassId}
    (inside : id < registry.size) :
    (registry.column field)[id]? = some (field (registry.entry id)) := by
  rw [column, List.getElem?_map, List.getElem?_range inside, Option.map_some]

/-- There is a name for each class. -/
theorem length_names : registry.names.length = registry.size := registry.length_column _

/-- A new class comes last. -/
theorem column_push {β : Type} (field : ClassEntry → β) (new : ClassEntry) :
    (registry.push new).column field = registry.column field ++ [field new] := by
  rw [column, size_push, List.range_succ, List.map_append, List.map_singleton, entry_push_size]
  refine congrArg (· ++ _) (List.map_congr_left fun id member => ?_)
  rw [entry_push_of_ne _ _ (Nat.ne_of_lt (List.mem_range.mp member))]

/-- A new class is found under its name, and the others under theirs. -/
theorem find?_push (new : ClassEntry) (name : String) :
    (registry.push new).find? name =
      if name = new.name then some registry.size else registry.find? name := by
  simp only [find?, push, List.lookup_cons]
  by_cases same : name = new.name
  · simp [same]
  · rw [if_neg same, beq_eq_false_iff_ne.mpr same]

/-- A new class under a name that is not taken hides no other class. -/
theorem find?_push_of_found {new : ClassEntry} (fresh : registry.find? new.name = none)
    {name : String} {id : ClassId} (found : registry.find? name = some id) :
    (registry.push new).find? name = some id := by
  rw [find?_push, if_neg, found]
  intro same
  rw [same, fresh] at found
  cases found

/-- Names lead to the numbers of the classes that have them. -/
def Indexed : Prop :=
  ∀ name id, registry.find? name = some id ↔ id < registry.size ∧ (registry.entry id).name = name

/-- The index of an empty registry is right. -/
theorem indexed_empty : empty.Indexed := by simp [Indexed, find?, empty, size]

variable {registry}

/-- A name that leads nowhere is no name of a class. -/
theorem Indexed.find?_eq_none_iff (indexed : registry.Indexed) (name : String) :
    registry.find? name = none ↔ name ∉ registry.names := by
  rw [Option.eq_none_iff_forall_ne_some, names, column, List.mem_map]
  constructor
  · rintro absent ⟨id, inside, named⟩
    exact absent id ((indexed name id).mpr ⟨List.mem_range.mp inside, named⟩)
  · intro absent id found
    obtain ⟨inside, named⟩ := (indexed name id).mp found
    exact absent ⟨id, List.mem_range.mpr inside, named⟩

/-- A class that is added under a name that is not taken can be found by it. -/
theorem Indexed.push (indexed : registry.Indexed) {new : ClassEntry}
    (fresh : registry.find? new.name = none) : (registry.push new).Indexed := by
  intro name id
  rw [size_push, Nat.lt_succ_iff_lt_or_eq]
  constructor
  · intro found
    rw [find?_push] at found
    split at found
    · rename_i same
      cases found
      exact ⟨.inr rfl, by rw [entry_push_size, same]⟩
    · obtain ⟨inside, named⟩ := (indexed name id).mp found
      exact ⟨.inl inside, by rw [entry_push_of_ne _ _ (Nat.ne_of_lt inside), named]⟩
  · rintro ⟨inside | rfl, named⟩
    · rw [entry_push_of_ne _ _ (Nat.ne_of_lt inside)] at named
      exact find?_push_of_found _ fresh ((indexed name id).mpr ⟨inside, named⟩)
    · rw [entry_push_size] at named
      rw [find?_push, if_pos named.symm]

end Registry

/-- A class without its tables. -/
def ClassEntry.bare (entry : ClassEntry) : ClassEntry := { entry with table := .both none }

/-- A registry without tables. -/
def Registry.bare (registry : Registry) : Registry :=
  { registry with classes := registry.classes.map ClassEntry.bare }

namespace Registry

variable (registry : Registry)

/-- Without tables there are the same classes. -/
@[simp] theorem size_bare : registry.bare.size = registry.size := by
  simp [size, bare]

/-- They are found under the same names. -/
@[simp] theorem find?_bare (name : String) : registry.bare.find? name = registry.find? name := rfl

/-- The same categories wait. -/
@[simp] theorem parked_bare : registry.bare.parked = registry.parked := rfl

/-- As many categories have been counted. -/
@[simp] theorem categoryCount_bare : registry.bare.categoryCount = registry.categoryCount := rfl

/-- A class without tables is the class with its tables left out. -/
@[simp] theorem entry_bare (id : ClassId) : registry.bare.entry id = (registry.entry id).bare := by
  simp only [entry, bare, Array.getD_eq_getD_getElem?, Array.getElem?_map]
  cases registry.classes[id]? <;> rfl

section

variable {registry} {after : Registry} (same : after.bare = registry.bare)

include same

/-- There are as many classes. -/
theorem size_of_bare : after.size = registry.size := by
  rw [← size_bare after, same, size_bare]

/-- They are found under the same names. -/
theorem find?_of_bare (name : String) : after.find? name = registry.find? name := by
  rw [← find?_bare after, same, find?_bare]

/-- The same categories wait. -/
theorem parked_of_bare : after.parked = registry.parked := by
  rw [← parked_bare after, same, parked_bare]

/-- As many categories have been counted. -/
theorem categoryCount_of_bare : after.categoryCount = registry.categoryCount := by
  rw [← categoryCount_bare after, same, categoryCount_bare]

/-- Registries that are the same without tables agree in whatever tables have no part in. -/
theorem field_of_bare {β : Type} (field : ClassEntry → β)
    (blind : ∀ entry : ClassEntry, field entry.bare = field entry) (id : ClassId) :
    field (after.entry id) = field (registry.entry id) := by
  rw [← blind, ← entry_bare, same, entry_bare, blind]

/-- Classes have reached the same stages. -/
theorem reached_of_bare (id : ClassId) (goal : Stage) :
    after.reached id goal = registry.reached id goal :=
  field_of_bare same (·.stage.inst.reached goal) (fun _ => rfl) id

/-- Sides have the same parents. -/
theorem parent?_of_bare (ref : SideRef) : after.parent? ref = registry.parent? ref := by
  rw [parent?, parent?, field_of_bare same ClassEntry.superclass fun _ => rfl]

end

/-- Publishing changes nothing but a table. -/
@[simp] theorem bare_publish (ref : SideRef) (table : DispatchTable) :
    (registry.publish ref table).bare = registry.bare := by
  simp only [bare, publish, modify, mk.injEq, and_true]
  apply Array.ext
  · simp
  · intro id inside _
    simp only [Array.getElem_map, Array.getElem_modify]
    split <;> rfl

/-- A table that is published is the table of its side, and of no other one. -/
theorem table?_publish (ref other : SideRef) (table : DispatchTable)
    (inside : ref.id < registry.size) :
    (registry.publish ref table).table? other =
      if other = ref then some table else registry.table? other := by
  obtain ⟨id, side⟩ := ref
  obtain ⟨otherId, otherSide⟩ := other
  simp only [table?, publish]
  by_cases same : id = otherId
  · subst same
    rw [entry_modify_same _ _ inside]
    by_cases sameSide : otherSide = side
    · subst sameSide
      simp
    · simp [sameSide, BySide.get_set_of_ne _ _ sameSide]
  · rw [entry_modify_of_ne _ _ same]
    simp [Ne.symm same]

end Registry

end LateBinding
