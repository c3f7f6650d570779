import LateBinding.Proofs.Traversal

/-!
# How tables are renewed

Rebuilding a class goes through the class and those below it, and gives every side of them that
has a table a new one. It takes its turns in a fixed order: both sides of a class, the instance
side first, and then its report. A new table is a copy of the one that is published for the side
above at that moment, with what the side declares written over it. That one is there, so nothing
is built on the way that was not there before, and it has been renewed in an earlier turn unless
it belongs to a class above the one that is rebuilt.
-/

namespace LateBinding

namespace Edit

variable [NameHash]

/-- A turn of rebuilding. -/
inductive Turn where
  /-- A side gets a new table. -/
  | renewed (ref : SideRef)
  /-- A class is done with. -/
  | finished (id : ClassId)

/-- Takes a turn. -/
def Turn.take : Turn → Edit Unit
  | .renewed ref => do
    let table ← build ref
    modifyRegistry (·.publish ref table)
  | .finished id => do
    report .debug ("rebuilt dispatch tables of " ++ ((← registry).entry id).name)

/-- Takes turns, one after the other. -/
def takeAll (turns : List Turn) : Edit Unit := turns.forM Turn.take

/-- Turns are taken one list after the other. -/
theorem takeAll_append (first rest : List Turn) :
    takeAll (first ++ rest) = (takeAll first >>= fun _ => takeAll rest) := List.forM_append

end Edit

namespace Registry

/-- The sides of a class that have tables, the instance side first. -/
def tabledSides (registry : Registry) (id : ClassId) : List SideRef :=
  [⟨id, .inst⟩, ⟨id, .metaclass⟩].filter fun ref => (registry.table? ref).isSome

/-- The turns of rebuilding a single class. -/
def turnsOf (registry : Registry) (id : ClassId) : List Edit.Turn :=
  (registry.tabledSides id).map .renewed ++ [.finished id]

/-- The turns of rebuilding a class and all classes below it. -/
def turns (registry : Registry) (target : ClassId) : List Edit.Turn :=
  (registry.descendants target).flatMap registry.turnsOf

variable {registry : Registry}

/-- The tabled sides of a class are those with a table. -/
theorem mem_tabledSides {id : ClassId} {ref : SideRef} :
    ref ∈ registry.tabledSides id ↔ ref.id = id ∧ (registry.table? ref).isSome = true := by
  obtain ⟨other, side⟩ := ref
  simp only [tabledSides, List.mem_filter, List.mem_cons, List.not_mem_nil, or_false,
    SideRef.mk.injEq]
  cases side <;> simp

/-- A class takes a turn for each of these. -/
theorem renewed_mem_turnsOf {id : ClassId} {ref : SideRef} :
    .renewed ref ∈ registry.turnsOf id ↔ ref.id = id ∧ (registry.table? ref).isSome = true := by
  simp [turnsOf, mem_tabledSides]

/-- A list that is put together from parts is split inside one of them. -/
theorem flatMap_split {α β : Type} {part : α → List β} {items : List α} {earlier later : List β}
    {middle : β} (split : items.flatMap part = earlier ++ middle :: later) :
    ∃ passed item rest before after, items = passed ++ item :: rest ∧
      part item = before ++ middle :: after ∧ earlier = passed.flatMap part ++ before := by
  induction items generalizing earlier with
  | nil => simp at split
  | cons first others inductionHypothesis =>
    rw [List.flatMap_cons, List.append_eq_append_iff] at split
    rcases split with ⟨more, rfl, split⟩ | ⟨more, inside, split⟩
    · obtain ⟨passed, item, rest, before, after, rfl, inItem, rfl⟩ := inductionHypothesis split
      exact ⟨first :: passed, item, rest, before, after, rfl, inItem, by simp⟩
    · cases more with
      | nil =>
        rw [List.nil_append] at split
        obtain ⟨passed, item, rest, before, after, rfl, inItem, passedNone⟩ :=
          @inductionHypothesis [] split.symm
        refine ⟨first :: passed, item, rest, before, after, rfl, inItem, ?_⟩
        rw [List.flatMap_cons, List.append_assoc, ← passedNone, inside]
        simp
      | cons found after =>
        rw [List.cons_append, List.cons.injEq] at split
        exact ⟨[], first, others, earlier, after, rfl, by rw [inside, split.1], rfl⟩

/-- A class is gone through if it is linked below, and each of its sides that has a table is
    renewed. -/
theorem Formed.renewed_mem_turns (formed : registry.Formed)
    {current : SideRef → Prop} (tabled : registry.Tabled current) {target : ClassId}
    {ref : SideRef} :
    .renewed ref ∈ registry.turns target ↔
      Relation.ReflTransGen registry.LinkedTo ref.id target ∧
        (registry.table? ref).isSome = true := by
  simp only [turns, List.mem_flatMap, renewed_mem_turnsOf]
  constructor
  · rintro ⟨_, visited, rfl, present⟩
    exact ⟨formed.linked_of_mem_descendants visited, present⟩
  · rintro ⟨linked, present⟩
    have visited := formed.mem_descendants_of_linked (tabled.loaded ref present) linked
    exact ⟨ref.id, visited, rfl, present⟩

/-- The instance side of a class is renewed before its metaclass. -/
theorem renewed_inst_first {id : ClassId} {before after : List Edit.Turn}
    (split : registry.turnsOf id = before ++ .renewed ⟨id, .metaclass⟩ :: after)
    (present : (registry.table? ⟨id, .inst⟩).isSome = true) :
    .renewed ⟨id, .inst⟩ ∈ before := by
  have leading : registry.turnsOf id = .renewed ⟨id, .inst⟩ ::
      ((([⟨id, .metaclass⟩] : List SideRef).filter fun ref => (registry.table? ref).isSome).map
        .renewed ++ [.finished id]) := by
    rw [turnsOf, tabledSides, List.filter_cons, if_pos present]
    rfl
  rw [leading] at split
  cases before with
  | nil => cases split
  | cons first rest =>
    obtain ⟨rfl, -⟩ := List.cons.inj split
    exact List.mem_cons_self

/-- A side that inherits from one that is gone through as well is renewed after that one. -/
theorem Formed.renewed_after_parent (formed : registry.Formed) (supported : registry.Supported)
    {target : ClassId} {earlier later : List Edit.Turn} {ref above : SideRef}
    (split : registry.turns target = earlier ++ .renewed ref :: later)
    (leads : registry.parent? ref = some above) (inside : above.id ∈ registry.descendants target) :
    .renewed above ∈ earlier := by
  obtain ⟨passed, id, rest, before, after, visits, inTurns, rfl⟩ := flatMap_split split
  have member : Edit.Turn.renewed ref ∈ registry.turnsOf id := by rw [inTurns]; simp
  obtain ⟨rfl, present⟩ := renewed_mem_turnsOf.mp member
  have abovePresent := supported ref above leads present
  rcases parent?_cases leads with ⟨link, -⟩ | ⟨unlinked, isMeta, rfl⟩
  · have below : ref.id ≠ target := by
      rintro rfl
      exact formed.above_not_mem_descendants link inside
    obtain ⟨superclass, seen, upward⟩ := formed.descendants_ordered visits below
    have same : superclass = above.id := Option.some.inj ((Eq.symm upward).trans link)
    exact List.mem_append_left _
      (List.mem_flatMap.mpr ⟨superclass, seen, renewed_mem_turnsOf.mpr ⟨same.symm, abovePresent⟩⟩)
  · obtain ⟨id, side⟩ := ref
    cases isMeta
    exact List.mem_append_right _ (renewed_inst_first inTurns abovePresent)

end Registry

namespace Draft.Refreshed

variable [NameHash] {before after : Draft}

/-- Refreshing lets no table come or go. -/
theorem isSome_table? (refreshed : before.Refreshed after) (ref : SideRef) :
    (after.image.registry.table? ref).isSome = (before.image.registry.table? ref).isSome :=
  Bool.eq_iff_iff.mpr ⟨refreshed.only ref, refreshed.tables ref⟩

/-- So the turns are the same as before. -/
theorem turnsOf (refreshed : before.Refreshed after) :
    after.image.registry.turnsOf = before.image.registry.turnsOf := by
  funext id
  rw [Registry.turnsOf, Registry.turnsOf, Registry.tabledSides, Registry.tabledSides,
    funext refreshed.isSome_table?]

end Draft.Refreshed

namespace Edit

open Registry

variable [NameHash] {draft : Draft}

/-- Rebuilding a side is renewing it, if it has a table. -/
theorem rebuildSide_eq (ref : SideRef) :
    rebuildSide ref draft = takeAll (([ref].filter fun ref =>
      (draft.image.registry.table? ref).isSome).map Turn.renewed) draft := by
  rw [rebuildSide, registry_bind, List.filter_singleton]
  cases (draft.image.registry.table? ref).isSome with
  | false => rfl
  | true =>
    change (Turn.renewed ref).take draft = ((Turn.renewed ref).take >>= fun _ => pure ()) draft
    rw [bind_pure_unit]

/-- Rebuilding a class is taking its turns. -/
theorem rebuildClass_eq (formed : draft.image.registry.Formed)
    (supported : draft.image.registry.Supported) (id : ClassId) :
    rebuildClass id draft = takeAll (draft.image.registry.turnsOf id) draft := by
  let renewing := fun (now : Draft) (ref : SideRef) =>
    ([ref].filter fun ref => (now.image.registry.table? ref).isSome).map Turn.renewed
  let rest := renewing draft ⟨id, .metaclass⟩ ++ [.finished id]
  have turns : draft.image.registry.turnsOf id = renewing draft ⟨id, .inst⟩ ++ rest := by
    rw [Registry.turnsOf, tabledSides, ← List.append_assoc, ← List.map_append, ← List.filter_append,
      List.singleton_append]
  have done : (Turn.finished id).take = takeAll [.finished id] := bind_pure_unit.symm
  -- Whether the metaclass has a table does not depend on what is done to the instance side.
  have second : rebuildClass id draft =
      (rebuildSide ⟨id, .inst⟩ >>= fun _ => takeAll rest) draft := by
    refine (rebuildSide_refreshes formed supported ⟨id, .inst⟩).bind_congr ?_
    rintro _ next ⟨refreshed, -⟩
    have same : renewing next = renewing draft := by
      funext ref
      simp only [renewing, funext refreshed.isSome_table?]
    change (rebuildSide ⟨id, .metaclass⟩ >>= fun _ => (Turn.finished id).take) next = _
    rw [done, takeAll_append, ← same]
    simp only [bind, EStateM.bind, rebuildSide_eq]
    rfl
  rw [second, turns, takeAll_append (renewing draft ⟨id, .inst⟩) rest]
  simp only [bind, EStateM.bind, rebuildSide_eq]
  rfl

/-- A side whose turn it is to be renewed has a table. -/
theorem renewed_present {target : ClassId} {ref : SideRef}
    (due : .renewed ref ∈ draft.image.registry.turns target) :
    (draft.image.registry.table? ref).isSome = true := by
  obtain ⟨id, -, member⟩ := List.mem_flatMap.mp due
  exact (renewed_mem_turnsOf.mp member).2

/-- A turn puts tables in place of tables. -/
theorem Turn.take_refreshes (formed : draft.image.registry.Formed)
    (supported : draft.image.registry.Supported) {turn : Turn}
    (due : ∀ ref, turn = .renewed ref → (draft.image.registry.table? ref).isSome = true) :
    Outcome (turn.take draft) (fun _ after => draft.Refreshed after) (fun _ _ => False) := by
  cases turn with
  | renewed ref =>
    have refreshes := rebuildSide_refreshes formed supported ref
    rw [rebuildSide, registry_bind, if_pos (due ref rfl)] at refreshes
    exact refreshes.imp fun _ _ given => given.1
  | finished id => exact .report _ _

/-- Taking turns refreshes, if all of them are for tables there are. -/
theorem takeAll_refreshes (formed : draft.image.registry.Formed)
    (supported : draft.image.registry.Supported) {turns : List Turn}
    (due : ∀ ref, .renewed ref ∈ turns → (draft.image.registry.table? ref).isSome = true) :
    Outcome (takeAll turns draft) (fun _ after => draft.Refreshed after) (fun _ _ => False) := by
  -- No table is taken away, so a side whose turn is still to come stays one that has a table.
  let invariant := fun (rest : List Turn) (now : Draft) => draft.Refreshed now ∧
    ∀ ref, .renewed ref ∈ rest → (now.image.registry.table? ref).isSome = true
  refine (outcome_forM invariant ?turn turns draft ⟨.refl draft, due⟩).imp fun _ _ given => given.1
  rintro turn rest now ⟨refreshed, left⟩
  apply (Turn.take_refreshes (formed.of_bare refreshed.bare) (supported.refreshed refreshed)
    fun ref same => left ref (same ▸ List.mem_cons_self)).imp
  intro _ after further
  exact ⟨refreshed.trans further, fun ref member =>
    further.tables ref (left ref (List.mem_cons_of_mem _ member))⟩

/-- Rebuilding classes is taking the turns of each. -/
theorem forM_rebuildClass_eq (formed : draft.image.registry.Formed)
    (supported : draft.image.registry.Supported) (ids : List ClassId) :
    ids.forM rebuildClass draft = takeAll (ids.flatMap draft.image.registry.turnsOf) draft := by
  induction ids generalizing draft with
  | nil => rfl
  | cons id rest inductionHypothesis =>
    -- The turns of the rest are known beforehand: the first class changes nothing about them.
    have first : (id :: rest).forM rebuildClass draft = (rebuildClass id >>= fun _ =>
        takeAll (rest.flatMap draft.image.registry.turnsOf)) draft := by
      refine (rebuildClass_refreshes formed supported id).bind_congr ?_
      rintro _ next ⟨refreshed, -⟩
      have further := inductionHypothesis (formed.of_bare refreshed.bare)
        (supported.refreshed refreshed)
      rw [refreshed.turnsOf] at further
      exact further
    rw [first, List.flatMap_cons, takeAll_append]
    simp only [bind, EStateM.bind, rebuildClass_eq formed supported]

/-- A rebuild is its turns, one after the other. -/
theorem rebuild_eq_takeAll (formed : draft.image.registry.Formed)
    (supported : draft.image.registry.Supported) (target : ClassId) :
    rebuild target draft = takeAll (draft.image.registry.turns target) draft :=
  forM_rebuildClass_eq formed supported _

/-- Where the side above has a table, a table is built on that one, and nothing is published. -/
theorem build_on_published (formed : draft.image.registry.Formed) {ref : SideRef}
    (supported : ∀ above, draft.image.registry.parent? ref = some above →
      (draft.image.registry.table? above).isSome = true) :
    ∃ table, build ref draft = .ok table draft ∧
      ∀ above, draft.image.registry.parent? ref = some above →
        ∃ inherited, draft.image.registry.table? above = some inherited ∧
          overlaySide inherited ref draft = .ok table draft := by
  obtain ⟨table, after, built, rfl, -⟩ := (build_outcome formed supported).exists_ok
  refine ⟨table, built, fun above leads => ?_⟩
  obtain ⟨inherited, published⟩ := Option.isSome_iff_exists.mp (supported above leads)
  refine ⟨inherited, published, ?_⟩
  rw [build, registry_bind, leads] at built
  simp only [bind, EStateM.bind, ensure_of_table formed published] at built
  exact built

end Edit

/-- Rebuilding a class goes through the turns of it and of the classes linked below it, and comes
    to an end. -/
structure Draft.Rebuilds [NameHash] (draft : Draft) (target : ClassId) : Prop where
  /-- Rebuilding is taking the turns. -/
  pass : Edit.rebuild target draft = Edit.takeAll (draft.image.registry.turns target) draft
  /-- The sides that get a new table are those below that have one. -/
  renews : ∀ ref, .renewed ref ∈ draft.image.registry.turns target ↔
    Relation.ReflTransGen draft.image.registry.LinkedTo ref.id target ∧
      (draft.image.registry.table? ref).isSome = true
  /-- No side gets a table that has none, and no side loses one. -/
  ends : ∃ after, Edit.rebuild target draft = .ok () after ∧
    ∀ ref, (after.image.registry.table? ref).isSome = (draft.image.registry.table? ref).isSome
  /-- When its turn comes, a side is given what it declares, over the table that is published for
      the side above at that moment, and nothing else is published. -/
  current : ∀ earlier ref later,
    draft.image.registry.turns target = earlier ++ .renewed ref :: later →
      ∃ now table, Edit.takeAll earlier draft = .ok () now ∧
        Edit.build ref now = .ok table now ∧
        ∀ above, draft.image.registry.parent? ref = some above →
          ∃ inherited, now.image.registry.table? above = some inherited ∧
            Edit.overlaySide inherited ref now = .ok table now
  /-- The side above has had its turn by then, if it is gone through at all. It is for every class
      but the first. -/
  ordered : ∀ earlier ref later,
    draft.image.registry.turns target = earlier ++ .renewed ref :: later →
      (ref.id ≠ target → ∃ above, draft.image.registry.parent? ref = some above ∧
        .renewed above ∈ earlier) ∧
      ∀ above, draft.image.registry.parent? ref = some above →
        Relation.ReflTransGen draft.image.registry.LinkedTo above.id target →
          .renewed above ∈ earlier

/-- Where links and tables are in order, every class can be rebuilt. -/
theorem Draft.rebuilds [NameHash] {draft : Draft} (formed : draft.image.registry.Formed)
    {current : SideRef → Prop} (tabled : draft.image.registry.Tabled current) (target : ClassId) :
    draft.Rebuilds target where
  pass := Edit.rebuild_eq_takeAll formed tabled.closed target
  renews _ := formed.renewed_mem_turns tabled
  ends := by
    have supported : draft.image.registry.Supported := tabled.closed
    have refreshes := Edit.takeAll_refreshes formed supported
      fun ref => @Edit.renewed_present _ draft target ref
    rw [← Edit.rebuild_eq_takeAll formed supported] at refreshes
    obtain ⟨_, after, ended, refreshed⟩ := refreshes.exists_ok
    exact ⟨after, ended, refreshed.isSome_table?⟩
  current earlier ref later split := by
    have supported : draft.image.registry.Supported := tabled.closed
    have due : ∀ other, .renewed other ∈ earlier ++ .renewed ref :: later →
        (draft.image.registry.table? other).isSome = true :=
      fun other member => Edit.renewed_present (split ▸ member)
    have passed := Edit.takeAll_refreshes formed supported
      fun other member => due other (List.mem_append_left _ member)
    obtain ⟨_, now, ended, refreshed⟩ := passed.exists_ok
    have present := refreshed.tables ref (due ref (by simp))
    obtain ⟨table, built, copied⟩ := Edit.build_on_published (formed.of_bare refreshed.bare)
      fun above leads => supported.refreshed refreshed ref above leads present
    rw [Registry.parent?_of_bare refreshed.bare] at copied
    exact ⟨now, table, ended, built, copied⟩
  ordered earlier ref later split := by
    have due : .renewed ref ∈ draft.image.registry.turns target := by rw [split]; simp
    obtain ⟨linked, present⟩ := (formed.renewed_mem_turns tabled).mp due
    have followed : ∀ above, draft.image.registry.parent? ref = some above →
        Relation.ReflTransGen draft.image.registry.LinkedTo above.id target →
          .renewed above ∈ earlier := fun above leads inside =>
      formed.renewed_after_parent tabled.closed split leads
        (formed.mem_descendants_of_linked
          (tabled.loaded above (tabled.closed ref above leads present)) inside)
    refine ⟨fun below => ?_, followed⟩
    -- A side below the class is linked to something that is listed, and that comes before it.
    obtain same | ⟨above, link, onwards⟩ := Relation.ReflTransGen.cases_head linked
    · exact absurd same below
    · have leads : draft.image.registry.parent? ref = some ⟨above, ref.side⟩ := by
        rw [Registry.parent?,
          show (draft.image.registry.entry ref.id).superclass = some above from link]
      exact ⟨_, leads, followed _ leads onwards⟩

end LateBinding
