import LateBinding.Proofs.Building

/-!
# Sound registries and how they grow

A registry is sound if it is formed and all of its tables are right. Each change of a
class or category keeps a registry sound, or, if it alters what a class declares, leaves
right the tables of the classes that are not below it; rebuilding repairs the others.

Registries only grow: classes and names are added and never lost, what a class declares
above itself stays, stages do not go back, and a side that has a table keeps having one.
-/

namespace LateBinding.Registry

/-- Names, links, selectors and tables are in order. -/
structure Sound (registry : Registry) : Prop where
  formed : registry.Formed
  tabled : registry.Tabled fun _ => True

/-- What is there before is there after, at the same stage or a later one. -/
structure Grows (before after : Registry) : Prop where
  size : before.size ≤ after.size
  found : ∀ name id, before.find? name = some id → after.find? name = some id
  declared : ∀ id, id < before.size → (after.entry id).superName = (before.entry id).superName
  stages : ∀ id, (before.stage id).rank ≤ (after.stage id).rank
  tables : ∀ ref, (before.table? ref).isSome = true → (after.table? ref).isSome = true

namespace Grows

variable {before between after : Registry}

/-- A registry grows out of itself. -/
theorem refl (registry : Registry) : registry.Grows registry :=
  ⟨Nat.le_refl _, fun _ _ found => found, fun _ _ => rfl, fun _ => Nat.le_refl _,
    fun _ present => present⟩

/-- One that grows out of another that grows out of a third grows out of the third. -/
theorem trans (first : before.Grows between) (second : between.Grows after) :
    before.Grows after where
  size := first.size.trans second.size
  found name id given := second.found name id (first.found name id given)
  declared id inside := by
    rw [second.declared id (Nat.lt_of_lt_of_le inside first.size), first.declared id inside]
  stages id := (first.stages id).trans (second.stages id)
  tables ref present := second.tables ref (first.tables ref present)

/-- What a class has reached it has reached later. -/
theorem reached (grows : before.Grows after) {id : ClassId} {goal : Stage}
    (given : before.reached id goal = true) : after.reached id goal = true := by
  simp only [Registry.reached, Stage.reached, decide_eq_true_eq] at given ⊢
  exact given.trans (grows.stages id)

/-- The classes above a class are those above it later. -/
theorem ascent (grows : before.Grows after) (formed : before.Formed) {id : ClassId}
    {path : List ClassId} (inside : id < before.size) (ascent : before.Ascent id path) :
    after.Ascent id path :=
  ascent.transfer
    (fun passed member => grows.declared passed
      (ascent.inside formed.lt_of_find? inside passed member))
    grows.found

/-- What follows a class on its path is the path of the next class, also after growing. -/
theorem ascent_tail (grows : before.Grows after) (formed : before.Formed) {id : ClassId}
    {above : List ClassId} (ascent : before.Ascent id (id :: above)) :
    ∀ next ∈ above.head?, next < after.size ∧ after.Ascent next above := by
  intro next isNext
  cases ascent with
  | root declared => cases isNext
  | step declared found further =>
    obtain ⟨rest, rfl⟩ := further.head
    cases isNext
    have within := formed.lt_of_find? _ _ found
    exact ⟨within.trans_le grows.size, grows.ascent formed within further⟩

/-- A registry that grows without new classes has no new names. -/
theorem find?_eq (grows : before.Grows after) (formed : before.Formed) (formedAfter : after.Formed)
    (size : after.size = before.size) (name : String) : after.find? name = before.find? name := by
  cases found : before.find? name with
  | some id => exact grows.found name id found
  | none =>
    cases foundAfter : after.find? name with
    | none => rfl
    | some id =>
      -- The class had a name before, kept it, and it is this one.
      obtain ⟨inside, named⟩ := (formedAfter.named name id).mp foundAfter
      have old := (formed.named _ id).mpr ⟨size ▸ inside, rfl⟩
      have kept := ((formedAfter.named _ id).mp (grows.found _ id old)).2
      rw [← named, kept, old] at found
      cases found

/-- The paths in a registry that grows without new classes are those it had. -/
theorem ascent_iff (grows : before.Grows after) (formed : before.Formed)
    (formedAfter : after.Formed) (size : after.size = before.size) {id : ClassId}
    {path : List ClassId} (inside : id < before.size) :
    after.Ascent id path ↔ before.Ascent id path := by
  refine ⟨fun ascent => ascent.transfer ?_ ?_, grows.ascent formed inside⟩
  · intro passed member
    have within := ascent.inside formedAfter.lt_of_find? (size.symm ▸ inside) passed member
    exact (grows.declared passed (size ▸ within)).symm
  · intro name above found
    rw [← grows.find?_eq formed formedAfter size, found]

end Grows

/-- Every class whose names lead to a root is loaded. -/
def Settled (registry : Registry) : Prop :=
  ∀ id path, id < registry.size → registry.Ascent id path → registry.reached id .loaded = true

/-- A class of a settled registry is loaded exactly if its chain leads to a root. -/
theorem Settled.loaded_iff {registry : Registry} (settled : registry.Settled)
    (formed : registry.Formed) {id : ClassId} (inside : id < registry.size) :
    registry.reached id .loaded = true ↔ ∃ path, registry.chain id = .ok path := by
  constructor
  · intro loaded
    obtain ⟨-, -, path, ascent⟩ := formed.linked id (stage_ne_registered_of_reached loaded)
    exact ⟨path, (chain_eq_ok_iff formed.lt_of_find? inside).mpr ascent⟩
  · rintro ⟨path, chained⟩
    exact settled id path inside ((chain_eq_ok_iff formed.lt_of_find? inside).mp chained)

/-- Only classes whose names lead to a root are linked, so a settled registry is loose. -/
theorem Settled.loose {registry : Registry} (settled : registry.Settled)
    (formed : registry.Formed) : registry.Loose := by
  intro id registered
  cases link : (registry.entry id).superclass with
  | none => rfl
  | some above =>
    obtain ⟨path, ascent⟩ := formed.rooted_of_superclass link
    have loaded := settled id path (Formed.lt_size_of_superclass link) ascent
    exact absurd registered (stage_ne_registered_of_reached loaded)

/-- A settled registry that grows without new classes stays settled. -/
theorem Settled.grows {before after : Registry} (settled : before.Settled)
    (grows : before.Grows after) (formed : before.Formed) (formedAfter : after.Formed)
    (size : after.size = before.size) : after.Settled := by
  intro id path inside ascent
  rw [size] at inside
  exact grows.reached (settled id path inside
    ((grows.ascent_iff formed formedAfter size inside).mp ascent))

variable {registry : Registry} {current : SideRef → Prop}

/-- Tables stay in order under a change that publishes none, if the sides that have them
    keep their lines and the current ones keep the meaning of selectors. -/
theorem Tabled.alter (tabled : registry.Tabled current) {after : Registry}
    {still : SideRef → Prop} (tables : ∀ ref, after.table? ref = registry.table? ref)
    (loaded : ∀ id, registry.reached id .loaded = true → after.reached id .loaded = true)
    (parents : ∀ ref, registry.reached ref.id .loaded = true →
      after.parent? ref = registry.parent? ref)
    (meaning : ∀ ref, still ref → registry.reached ref.id .loaded = true →
      current ref ∧ ∀ selector, after.resolve ref selector = registry.resolve ref selector)
    (ready : ∀ id, after.isPrepared id = true → ∀ side,
      (registry.table? ⟨id, side⟩).isSome = true) : after.Tabled still where
  loaded ref present := by
    rw [tables] at present
    exact loaded ref.id (tabled.loaded ref present)
  closed ref above leads present := by
    rw [tables] at present ⊢
    rw [parents ref (tabled.loaded ref present)] at leads
    exact tabled.closed ref above leads present
  exact ref isStill table found selector := by
    rw [tables] at found
    have present : (registry.table? ref).isSome = true := by rw [found]; rfl
    obtain ⟨isCurrent, same⟩ := meaning ref isStill (tabled.loaded ref present)
    rw [same selector]
    exact tabled.exact ref isCurrent table found selector
  ready id prepared side := by
    rw [tables]
    exact ready id prepared side

/-- An empty registry is in order. -/
theorem sound_empty : empty.Sound where
  formed := formed_empty
  tabled := by
    have vacant : ∀ id, empty.entry id = default := fun id => entry_of_size_le _ (Nat.zero_le id)
    have absent : ∀ ref, empty.table? ref = none := by
      intro ref
      rw [table?, vacant]
      exact BySide.get_both none ref.side
    exact {
      loaded := fun ref present => by rw [absent] at present; cases present
      closed := fun ref above _ present => by rw [absent] at present; cases present
      exact := fun ref _ table found => by rw [absent] at found; cases found
      ready := fun id prepared => by
        rw [isPrepared, reached, stage, vacant] at prepared
        cases prepared }

/-- Registering a class under a name that is not taken keeps a registry sound. -/
theorem Sound.push (sound : registry.Sound) {name : String} {superName : Option String}
    {declaredSize : Nat} {methods : BySide (List Method)} (fresh : registry.find? name = none)
    (issued : ∀ side, Method.Issued (methods.get side)) :
    (registry.push (.declared name superName declaredSize methods)).Sound ∧
      registry.Grows (registry.push (.declared name superName declaredSize methods)) := by
  let new := ClassEntry.declared name superName declaredSize methods
  have formed : (registry.push new).Formed := sound.formed.push fresh issued
  have older : ∀ id, id ≠ registry.size → (registry.push new).entry id = registry.entry id :=
    fun id => entry_push_of_ne registry new
  have tables : ∀ ref, (registry.push new).table? ref = registry.table? ref :=
    fun ref => registry.field_push (·.table.get ref.side) new rfl ref.id
  have stages : ∀ id, (registry.push new).stage id = registry.stage id :=
    registry.field_push (·.stage.inst) new rfl
  have marks : ∀ id, ((registry.push new).entry id).initializing =
      (registry.entry id).initializing :=
    registry.field_push ClassEntry.initializing new rfl
  have notLast : ∀ id, registry.reached id .loaded = true → id ≠ registry.size :=
    fun id loaded => Nat.ne_of_lt (lt_size_of_reached loaded)
  refine ⟨⟨formed, sound.tabled.alter tables ?_ ?_ ?_ ?_⟩, ?_⟩
  · intro id loaded
    rw [reached, stages]
    exact loaded
  · intro ref loaded
    rw [parent?, parent?, older ref.id (notLast ref.id loaded)]
  -- The new class is not loaded, so no loaded class is below it and selectors mean what they did.
  · intro ref _ loaded
    refine ⟨trivial, sound.formed.resolve_congr formed (· ≠ registry.size) ?_ ?_ ?_ ref
      (notLast ref.id loaded)⟩
    · intro id above _ link
      exact notLast above (sound.formed.supported id above link)
    · intro id different
      rw [older id different]
    · intro id side different
      rw [older id different]
  · intro id prepared
    rw [isPrepared, reached, stages, marks] at prepared
    exact sound.tabled.ready id prepared
  · refine ⟨by rw [size_push]; exact Nat.le_succ _, ?_, ?_, ?_, ?_⟩
    · intro asked id
      exact find?_push_of_found _ fresh
    · intro id inside
      rw [older id (Nat.ne_of_lt inside)]
    · intro id
      rw [stages]
    · intro ref present
      rw [tables]
      exact present

/-- Raising a class touches no table. -/
theorem table?_raise {id : ClassId} (raisable : registry.Raisable id) (ref : SideRef) :
    (registry.raise id).table? ref = registry.table? ref := by
  rw [table?, table?]
  by_cases same : id = ref.id
  · rw [← same, entry_raise_same raisable.inside raisable.proper]
    rfl
  · rw [entry_raise_of_ne same]
    split <;> rfl

/-- Raising a class keeps a registry sound: the class has no tables yet, and no class that
    has them inherits from it. -/
theorem Sound.raise (sound : registry.Sound) {id : ClassId} (raisable : registry.Raisable id) :
    (registry.raise id).Sound ∧ registry.Grows (registry.raise id) := by
  have formed : (registry.raise id).Formed := sound.formed.raise raisable
  have notRaised : ∀ other, registry.reached other .loaded = true → other ≠ id :=
    fun other loaded same =>
      stage_ne_registered_of_reached loaded (same ▸ raisable.registered)
  refine ⟨⟨formed, sound.tabled.alter (table?_raise raisable) ?_ ?_ ?_ ?_⟩, ?_⟩
  · exact fun other => raisable.reached_loaded
  · intro ref loaded
    rw [parent?, parent?, raisable.superclass, if_neg (notRaised ref.id loaded)]
  · intro ref _ loaded
    refine ⟨trivial, sound.formed.resolve_congr formed (· ≠ id) ?_ ?_ ?_ ref
      (notRaised ref.id loaded)⟩
    · intro other above _ link
      exact notRaised above (sound.formed.supported other above link)
    · intro other different
      rw [raisable.superclass, if_neg different]
    · intro other side different
      rw [entry_raise_of_ne (Ne.symm different)]
      split <;> rfl
  · intro other prepared
    apply sound.tabled.ready other
    rw [isPrepared_eq_true] at prepared ⊢
    by_cases same : other = id
    · subst same
      rw [reached, raisable.stage, if_pos rfl,
        entry_raise_same raisable.inside raisable.proper] at prepared
      exact prepared.imp_left fun impossible => by cases impossible
    · rw [reached, raisable.stage, if_neg same, entry_raise_of_ne (Ne.symm same)] at prepared
      refine prepared.imp_right fun mark => ?_
      split at mark <;> exact mark
  · refine ⟨(size_raise id).ge, fun name other found => by rw [find?_raise, found],
      fun other _ => (raisable.names other).2, ?_, fun ref present => by
        rw [table?_raise raisable, present]⟩
    intro other
    rw [raisable.stage]
    split
    · rename_i same
      rw [same, raisable.registered]
      exact Nat.zero_le _
    · exact Nat.le_refl _

/-- A change of a class that keeps its superclass name and its tables, and does not move it
    back, lets the registry grow. -/
theorem grows_modify {id : ClassId} {change : ClassEntry → ClassEntry}
    (declared : (change (registry.entry id)).superName = (registry.entry id).superName)
    (later : (registry.stage id).rank ≤ (change (registry.entry id)).stage.inst.rank)
    (table : (change (registry.entry id)).table = (registry.entry id).table) :
    registry.Grows (registry.modify id change) := by
  refine ⟨(size_modify _ _ _).ge, fun name other found => found, ?_, ?_, ?_⟩
  · exact fun other _ => registry.field_modify id change ClassEntry.superName declared other
  · intro other
    rw [stage, stage, entry_modify]
    split
    · rename_i same
      exact same.1 ▸ later
    · exact Nat.le_refl _
  · intro ref present
    rw [table?, registry.field_modify id change ClassEntry.table table]
    exact present

/-- A class that gets its link only has no tables, and no class that has them inherits from it. -/
theorem Sound.tie (sound : registry.Sound) {id : ClassId} (raisable : registry.Raisable id) :
    (registry.tie id).Sound ∧ registry.Grows (registry.tie id) := by
  have formed : (registry.tie id).Formed := sound.formed.tie raisable
  have tables : ∀ other, ((registry.tie id).entry other).table = (registry.entry other).table :=
    registry.field_modify id _ ClassEntry.table rfl
  have stages : ∀ other, ((registry.tie id).entry other).stage = (registry.entry other).stage :=
    registry.field_modify id _ ClassEntry.stage rfl
  have marks : ∀ other, ((registry.tie id).entry other).initializing =
      (registry.entry other).initializing :=
    registry.field_modify id _ ClassEntry.initializing rfl
  have grows : registry.Grows (registry.tie id) := grows_modify rfl (Nat.le_refl _) rfl
  have others : ∀ other, registry.reached other .loaded = true →
      (registry.tie id).entry other = registry.entry other := by
    intro other loaded
    refine entry_modify_of_ne _ _ fun same => ?_
    exact stage_ne_registered_of_reached loaded (same ▸ raisable.registered)
  refine ⟨⟨formed, sound.tabled.alter ?_ (fun other => grows.reached) ?_ ?_ ?_⟩, grows⟩
  · intro ref
    rw [table?, tables, table?]
  · intro ref loaded
    rw [parent?, parent?, others ref.id loaded]
  · intro ref _ loaded
    refine ⟨trivial, sound.formed.resolve_congr formed
      (registry.reached · .loaded = true) ?_ ?_ ?_ ref loaded⟩
    · exact fun other above _ link => sound.formed.supported other above link
    · exact fun other awake => by rw [others other awake]
    · exact fun other side awake => by rw [others other awake]
  · intro other prepared
    rw [isPrepared, reached, stage, stages, marks] at prepared
    exact sound.tabled.ready other prepared

/-- A class that changes in the methods and categories it declares leaves the registry
    formed, and right the tables of the classes that are not below it. -/
theorem Sound.redeclare (sound : registry.Sound) (id : ClassId)
    (change : ClassEntry → ClassEntry)
    (kept : change (registry.entry id) = { registry.entry id with
      methods := (change (registry.entry id)).methods
      categories := (change (registry.entry id)).categories })
    (issued : (change (registry.entry id)).Issued) :
    (registry.modify id change).Formed ∧
      ((registry.modify id change).Tabled
        fun ref => ref.id ∉ (registry.modify id change).descendants id) ∧
      registry.Grows (registry.modify id change) := by
  have continues : (registry.entry id).Continues (change (registry.entry id)) := by
    rw [kept]
    exact ⟨rfl, rfl, rfl, rfl, fun level => level, Iff.rfl, fun loaded => loaded⟩
  have formed : (registry.modify id change).Formed := sound.formed.modify id change continues issued
  have tables := registry.field_modify id change ClassEntry.table (by rw [kept])
  have stages := registry.field_modify id change ClassEntry.stage (by rw [kept])
  have marks := registry.field_modify id change ClassEntry.initializing (by rw [kept])
  have links := registry.field_modify id change ClassEntry.superclass continues.superclass
  have grows : registry.Grows (registry.modify id change) :=
    grows_modify continues.superName (by rw [kept, stage]) (by rw [kept])
  refine ⟨formed, sound.tabled.alter ?_ (fun other => grows.reached) ?_ ?_ ?_, grows⟩
  · intro ref
    rw [table?, tables, table?]
  · intro ref _
    rw [parent?, links, parent?]
  · intro ref apart loaded
    refine ⟨trivial, fun selector => Eq.symm ?_⟩
    refine formed.resolve_congr sound.formed
      (fun other => other ∉ (registry.modify id change).descendants id ∧
        (registry.modify id change).reached other .loaded = true)
      ?_ ?_ ?_ ref ⟨apart, grows.reached loaded⟩ selector
    · rintro other above ⟨apart, awake⟩ link
      exact ⟨fun below => apart (formed.descendants_closed below link awake),
        formed.supported other above link⟩
    · exact fun other _ => (links other).symm
    · rintro other side ⟨apart, -⟩
      have different : id ≠ other := fun same => apart (same ▸ self_mem_subtree _ _)
      rw [entry_modify_of_ne _ _ different]
  · intro other prepared
    rw [isPrepared, reached, stage, stages, marks] at prepared
    exact sound.tabled.ready other prepared

/-- A class that has both tables may be marked as being prepared, and moved on to a later
    stage. -/
theorem Sound.mark (sound : registry.Sound) (id : ClassId) (change : ClassEntry → ClassEntry)
    (kept : change (registry.entry id) = { registry.entry id with
      stage := (change (registry.entry id)).stage
      initializing := (change (registry.entry id)).initializing })
    (continues : (registry.entry id).Continues (change (registry.entry id)))
    (later : (registry.stage id).rank ≤ (change (registry.entry id)).stage.inst.rank)
    (tabled : ∀ side, (registry.table? ⟨id, side⟩).isSome = true) :
    (registry.modify id change).Sound ∧ registry.Grows (registry.modify id change) := by
  have issued : (change (registry.entry id)).Issued := by
    rw [kept]
    exact ⟨(sound.formed.issued id).methods, (sound.formed.issued id).categories⟩
  have formed : (registry.modify id change).Formed := sound.formed.modify id change continues issued
  have tables := registry.field_modify id change ClassEntry.table (by rw [kept])
  have declarations := fun side =>
    registry.field_modify id change (fun entry => entry.declarations side) (by rw [kept]; rfl)
  have links := registry.field_modify id change ClassEntry.superclass continues.superclass
  have grows : registry.Grows (registry.modify id change) :=
    grows_modify continues.superName later (by rw [kept])
  refine ⟨⟨formed, sound.tabled.alter ?_ (fun other => grows.reached) ?_ ?_ ?_⟩, grows⟩
  · intro ref
    rw [table?, tables, table?]
  · intro ref _
    rw [parent?, links, parent?]
  · intro ref _ _
    exact ⟨trivial, sound.formed.resolve_congr formed (fun _ => True) (fun _ _ _ _ => trivial)
      (fun other _ => links other) (fun other side _ => declarations side other) ref trivial⟩
  · intro other prepared
    by_cases same : id = other
    · subst same
      exact tabled
    · rw [isPrepared, reached, stage, entry_modify_of_ne _ _ same] at prepared
      exact sound.tabled.ready other prepared

/-- A category can be parked. -/
theorem Sound.park (sound : registry.Sound) {category : Category} (issued : category.Issued) :
    (registry.park category).Sound :=
  ⟨sound.formed.park issued, sound.tabled.loaded, sound.tabled.closed, sound.tabled.exact,
    sound.tabled.ready⟩

/-- Counting categories touches no class. -/
theorem Sound.countCategory (sound : registry.Sound) : registry.countCategory.Sound :=
  ⟨sound.formed.countCategory, sound.tabled.loaded, sound.tabled.closed, sound.tabled.exact,
    sound.tabled.ready⟩

/-- What is done to waiting categories does not change the classes. -/
theorem grows_of_classes {after : Registry} (classes : after.classes = registry.classes)
    (index : after.index = registry.index) : registry.Grows after := by
  have entries : ∀ id, after.entry id = registry.entry id := by
    intro id
    rw [entry, classes, entry]
  refine ⟨?_, ?_, fun id _ => by rw [entries], ?_, ?_⟩
  · rw [size, size, classes]
  · intro name id found
    rw [find?, index]
    exact found
  · intro id
    rw [stage, stage, entries]
  · intro ref present
    rw [table?, entries]
    exact present

/-- Building tables is growing. -/
theorem grows_of_bare {after : Registry} (same : after.bare = registry.bare)
    (tables : ∀ ref, (registry.table? ref).isSome = true → (after.table? ref).isSome = true) :
    registry.Grows after := by
  refine ⟨(size_of_bare same).ge, ?_, ?_, ?_, tables⟩
  · intro name id found
    rw [find?_of_bare same, found]
  · exact fun id _ => field_of_bare same ClassEntry.superName (fun _ => rfl) id
  · exact fun id => (field_of_bare same (·.stage.inst.rank) (fun _ => rfl) id).ge

end LateBinding.Registry
