import LateBinding.Proofs.Forest
import LateBinding.Proofs.Histories

/-!
# Recursion along the links

Tables are built up the line of a side and rebuilt down the lists of subclasses. Both are
defined over lists that are computed beforehand. Here they are shown to take one step at a
time: a table is built on the one that is ensured for the side above, and rebuilding a class
goes on to rebuild its subclasses in the order of their list. Since the links are a forest,
both come to an end at every point that can be observed, and rebuilding visits what it should
and in the right order.
-/

namespace LateBinding

/-- An edit has put tables in place of tables and has otherwise changed nothing but reports. -/
structure Draft.Refreshed [NameHash] (before after : Draft) : Prop
    extends before.Retabled after where
  only : ∀ ref, (after.image.registry.table? ref).isSome = true →
    (before.image.registry.table? ref).isSome = true

namespace Draft.Refreshed

variable [NameHash] {before between after : Draft}

/-- Nothing is refreshed where nothing happens. -/
theorem refl (draft : Draft) : draft.Refreshed draft :=
  ⟨.refl draft, fun _ present => present⟩

/-- What is refreshed by two edits in a row is refreshed by both together. -/
theorem trans (first : before.Refreshed between) (second : between.Refreshed after) :
    before.Refreshed after :=
  ⟨first.toRetabled.trans second.toRetabled,
    fun ref present => first.only ref (second.only ref present)⟩

/-- Reports touch no table. -/
theorem report (draft : Draft) (reports : List Log.Message) :
    draft.Refreshed { draft with reports } :=
  ⟨.report draft reports, fun _ present => present⟩

end Draft.Refreshed

namespace Registry

/-- A side that has a table inherits from a side that has one. -/
def Supported (registry : Registry) : Prop :=
  ∀ ref above, registry.parent? ref = some above → (registry.table? ref).isSome = true →
    (registry.table? above).isSome = true

/-- What is reported when the tables of a class have been rebuilt. -/
def rebuilt (registry : Registry) (id : ClassId) : Log.Message :=
  ⟨.debug, "rebuilt dispatch tables of " ++ (registry.entry id).name⟩

variable {registry : Registry}

/-- A class with a table is there. -/
theorem lt_size_of_table {ref : SideRef} (present : (registry.table? ref).isSome = true) :
    ref.id < registry.size := by
  by_contra outside
  rw [table?, entry_of_size_le registry (Nat.le_of_not_lt outside)] at present
  obtain ⟨id, side⟩ := ref
  cases side <;> cases present

/-- Tables stay above tables when they are refreshed. -/
theorem Supported.refreshed [NameHash] {before after : Draft}
    (supported : before.image.registry.Supported) (refreshed : before.Refreshed after) :
    after.image.registry.Supported := by
  intro ref above leads present
  rw [parent?_of_bare refreshed.bare] at leads
  exact refreshed.tables above (supported ref above leads (refreshed.only ref present))

/-- Tables have no part in what is below a class. -/
theorem subtree_of_bare {after : Registry} (same : after.bare = registry.bare) (depth : Nat)
    (id : ClassId) : after.subtree depth id = registry.subtree depth id := by
  induction depth generalizing id with
  | zero => rfl
  | succ depth inductionHypothesis =>
    rw [subtree, subtree, field_of_bare same ClassEntry.subclasses (fun _ => rfl),
      funext inductionHypothesis]

/-- The classes below a class do not depend on tables. -/
theorem descendants_of_bare {after : Registry} (same : after.bare = registry.bare) (id : ClassId) :
    after.descendants id = registry.descendants id := by
  rw [descendants, descendants, size_of_bare same, subtree_of_bare same]

/-- Neither does the order in which they are rebuilt. -/
theorem rebuilt_of_bare {after : Registry} (same : after.bare = registry.bare) (id : ClassId) :
    after.rebuilt id = registry.rebuilt id := by
  rw [rebuilt, rebuilt, field_of_bare same ClassEntry.name (fun _ => rfl)]

end Registry

namespace Edit

open Registry

variable [NameHash] {draft : Draft}

/-- What goes on from the registry goes on from the registry there is. -/
theorem registry_bind {α : Type} (next : Registry → Edit α) :
    (registry >>= next) draft = next draft.image.registry draft := rfl

/-- The published table of a side. If there is none, one is made and published. -/
def tableOr (ref : SideRef) (making : Edit DispatchTable) : Edit DispatchTable := do
  match (← registry).table? ref with
  | some table => return table
  | none =>
    let table ← making
    modifyRegistry (·.publish ref table)
    report .trace ("built " ++ sideWord ref.side ++ " dispatch table of " ++
      ((← registry).entry ref.id).name ++ " (" ++ toString table.size ++ " entries)")
    return table

/-- A table is made from the draft as it is. -/
theorem tableOr_congr {making other : Edit DispatchTable} (same : making draft = other draft)
    (ref : SideRef) : tableOr ref making draft = tableOr ref other draft := by
  rw [tableOr, tableOr, registry_bind, registry_bind]
  cases draft.image.registry.table? ref with
  | some table => rfl
  | none => simp only [bind, EStateM.bind, same]

/-- Along a line, a side without a table gets one from the sides above it. -/
theorem ensureAlong_cons (ref : SideRef) (above : List SideRef) :
    ensureAlong (ref :: above) = tableOr ref (do overlaySide (← ensureAlong above) ref) := by
  rw [ensureAlong, tableOr]
  refine congrArg (registry >>= ·) (funext fun now => ?_)
  cases now.table? ref with
  | some table => rfl
  | none => exact (bind_assoc _ _ _).symm

/-- A table is ensured one step at a time: unless it is published, it is built on the table
    that is ensured for the side above. -/
theorem ensure_eq (formed : draft.image.registry.Formed) (ref : SideRef) :
    ensure ref draft = tableOr ref (build ref) draft := by
  rw [ensure, registry_bind, formed.lineage_eq, ensureAlong_cons]
  apply tableOr_congr
  rw [build, registry_bind]
  cases draft.image.registry.parent? ref <;> rfl

/-- A table is built if one is ensured for the side above. -/
theorem build_of_ensure (formed : draft.image.registry.Formed) (ref : SideRef)
    (ensured : ∀ above, draft.image.registry.parent? ref = some above →
      Outcome (ensure above draft)
        (fun _ after => after.image.registry.bare = draft.image.registry.bare)
        (fun _ _ => False)) :
    Outcome (build ref draft)
      (fun _ after => after.image.registry.bare = draft.image.registry.bare)
      (fun _ _ => False) := by
  simp only [build, outcome_bind, outcome_registry]
  cases leads : draft.image.registry.parent? ref with
  | none =>
    obtain ⟨written, overlaid, -⟩ := overlaySide_spec formed ref .empty
    simp only [overlaid, outcome_ok]
  | some above =>
    simp only [outcome_bind]
    refine (ensured above leads).imp fun table between same => ?_
    obtain ⟨written, overlaid, -⟩ := overlaySide_spec (formed.of_bare same) ref table
    simp only [overlaid, outcome_ok, same]

/-- A table is ensured for every side, and only tables change. -/
theorem ensure_bare (formed : draft.image.registry.Formed) (ref : SideRef) :
    Outcome (ensure ref draft)
      (fun _ after => after.image.registry.bare = draft.image.registry.bare)
      (fun _ _ => False) := by
  induction ref using formed.parent_induction with
  | _ ref inductionHypothesis =>
    rw [ensure_eq formed, tableOr]
    simp only [outcome_bind, outcome_registry]
    cases draft.image.registry.table? ref with
    | some table => rfl
    | none =>
      simp only [outcome_bind, outcome_modifyRegistry, outcome_registry, outcome_report,
        outcome_pure]
      exact (build_of_ensure formed ref inductionHypothesis).imp
        fun table between same => (bare_publish _ _ _).trans same

/-- Rebuilding a side puts a table in place of the one it has, and says nothing. -/
theorem rebuildSide_refreshes (formed : draft.image.registry.Formed)
    (supported : draft.image.registry.Supported) (ref : SideRef) :
    Outcome (rebuildSide ref draft)
      (fun _ after => draft.Refreshed after ∧ after.reports = draft.reports)
      (fun _ _ => False) := by
  simp only [rebuildSide, outcome_bind, outcome_registry]
  split
  · rename_i present
    have inside := lt_size_of_table present
    simp only [outcome_bind]
    apply (build_outcome formed fun above leads => supported ref above leads present).imp
    rintro table after ⟨unchanged, -⟩
    subst after
    refine ⟨⟨.publish table inside, fun other published => ?_⟩, rfl⟩
    simp only [table?_publish _ ref other table inside] at published
    by_cases same : other = ref
    · exact same ▸ present
    · rwa [if_neg same] at published
  · exact ⟨.refl draft, rfl⟩

/-- Rebuilding a class reports it, and puts tables in place of tables. -/
theorem rebuildClass_refreshes (formed : draft.image.registry.Formed)
    (supported : draft.image.registry.Supported) (id : ClassId) :
    Outcome (rebuildClass id draft)
      (fun _ after => draft.Refreshed after ∧
        after.reports = draft.reports ++ [draft.image.registry.rebuilt id])
      (fun _ _ => False) := by
  simp only [rebuildClass, outcome_bind, outcome_registry, outcome_report]
  apply (rebuildSide_refreshes formed supported ⟨id, .inst⟩).imp
  rintro _ between ⟨first, silent⟩
  apply (rebuildSide_refreshes (formed.of_bare first.bare) (supported.refreshed first)
    ⟨id, .metaclass⟩).imp
  rintro _ after ⟨second, silentAgain⟩
  have refreshed := first.trans second
  refine ⟨refreshed.trans (.report _ _), ?_⟩
  change after.reports ++ [after.image.registry.rebuilt id] = _
  rw [silentAgain, silent, rebuilt_of_bare refreshed.bare]

/-- Rebuilding classes in turn reports each of them, in this order. -/
theorem forM_rebuildClass_refreshes (formed : draft.image.registry.Formed)
    (supported : draft.image.registry.Supported) (ids : List ClassId) :
    Outcome (ids.forM rebuildClass draft)
      (fun _ after => draft.Refreshed after ∧
        after.reports = draft.reports ++ ids.map draft.image.registry.rebuilt)
      (fun _ _ => False) := by
  -- What is reported so far and what the rest is about to report make up the whole.
  let invariant := fun (rest : List ClassId) (now : Draft) => draft.Refreshed now ∧
    now.reports ++ rest.map draft.image.registry.rebuilt =
      draft.reports ++ ids.map draft.image.registry.rebuilt
  refine (outcome_forM invariant ?turn ids draft ⟨.refl draft, rfl⟩).imp ?ended
  case ended =>
    rintro _ after ⟨refreshed, reports⟩
    exact ⟨refreshed, by simpa using reports⟩
  case turn =>
    rintro next rest now ⟨refreshed, reports⟩
    apply (rebuildClass_refreshes (formed.of_bare refreshed.bare) (supported.refreshed refreshed)
      next).imp
    rintro _ after ⟨again, reported⟩
    refine ⟨refreshed.trans again, ?_⟩
    rw [reported, rebuilt_of_bare refreshed.bare, ← reports]
    simp

/-- Rebuilding is rebuilding each class of the subtree in turn. -/
theorem rebuild_eq_forM (id : ClassId) :
    rebuild id draft = (draft.image.registry.descendants id).forM rebuildClass draft := rfl

/-- Rebuilding the descendants of classes in turn is rebuilding the classes in turn, even
    though the registry is asked again for each of them what its descendants are. -/
theorem forM_rebuild (formed : draft.image.registry.Formed)
    (supported : draft.image.registry.Supported) (ids : List ClassId) :
    (ids.flatMap draft.image.registry.descendants).forM rebuildClass draft =
      ids.forM rebuild draft := by
  induction ids generalizing draft with
  | nil => rfl
  | cons id rest inductionHypothesis =>
    have split : ((id :: rest).flatMap draft.image.registry.descendants).forM rebuildClass =
        ((draft.image.registry.descendants id).forM rebuildClass >>= fun _ =>
          (rest.flatMap draft.image.registry.descendants).forM rebuildClass) :=
      List.forM_append
    rw [split]
    refine (forM_rebuildClass_refreshes formed supported _).bind_congr ?_
    rintro _ next ⟨refreshed, -⟩
    have further := inductionHypothesis (formed.of_bare refreshed.bare)
      (supported.refreshed refreshed)
    rw [funext (descendants_of_bare refreshed.bare)] at further
    exact further

/-- Rebuilding takes one step at a time: first the class, then its subclasses in turn. -/
theorem rebuild_eq (formed : draft.image.registry.Formed)
    (supported : draft.image.registry.Supported) (id : ClassId) :
    rebuild id draft = (do
      rebuildClass id
      ((← registry).entry id).subclasses.forM rebuild) draft := by
  rw [rebuild_eq_forM, formed.descendants_eq]
  refine (rebuildClass_refreshes formed supported id).bind_congr ?_
  rintro _ next ⟨refreshed, -⟩
  have further := forM_rebuild (formed.of_bare refreshed.bare) (supported.refreshed refreshed)
    (next.image.registry.entry id).subclasses
  rw [funext (descendants_of_bare refreshed.bare),
    field_of_bare refreshed.bare ClassEntry.subclasses (fun _ => rfl)] at further
  change _ = (next.image.registry.entry id).subclasses.forM rebuild next
  rw [field_of_bare refreshed.bare ClassEntry.subclasses (fun _ => rfl)]
  exact further

end Edit

/-- At every point that can be observed the links are a forest that the lists of subclasses
    mirror, and every walk along them comes to an end. A table can be built and ensured for any
    side, on the one ensured for the side above. Rebuilding goes from a class to its subclasses,
    and visits the class and those linked below it, each once and after its superclass. -/
theorem Session.Observed.inheritance [NameHash] {strict : Bool} {session : Session}
    (observed : session.Observed strict) (id : ImageId) :
    (session.image id).registry.Forest ∧ (session.image id).registry.Grounded ∧
    ∀ draft : Draft, draft.image = session.image id →
      (∀ ref, Edit.ensure ref draft = Edit.tableOr ref (Edit.build ref) draft ∧
        (∃ table after, Edit.ensure ref draft = .ok table after) ∧
        ∃ table after, Edit.build ref draft = .ok table after) ∧
      ∀ target,
        Edit.rebuild target draft = (do
          Edit.rebuildClass target
          ((← Edit.registry).entry target).subclasses.forM Edit.rebuild) draft ∧
        ∃ visits after, (session.image id).registry.Visits target visits ∧
          Edit.rebuild target draft = visits.forM Edit.rebuildClass draft ∧
          Edit.rebuild target draft = .ok () after ∧
          after.reports = draft.reports ++ visits.map (session.image id).registry.rebuilt := by
  have sound := (observed.sound.images id).registry
  have loose := observed.loose id
  refine ⟨sound.formed.forest loose, sound.formed.grounded, fun draft same => ?_⟩
  rw [← same] at sound loose ⊢
  have formed := sound.formed
  have supported : draft.image.registry.Supported := sound.tabled.closed
  refine ⟨fun ref => ⟨Edit.ensure_eq formed ref, ?_, ?_⟩, fun target => ⟨?_, ?_⟩⟩
  · obtain ⟨table, after, ensured, -⟩ := (Edit.ensure_bare formed ref).exists_ok
    exact ⟨table, after, ensured⟩
  · have built := Edit.build_of_ensure formed ref fun above _ => Edit.ensure_bare formed above
    obtain ⟨table, after, ended, -⟩ := built.exists_ok
    exact ⟨table, after, ended⟩
  · exact Edit.rebuild_eq formed supported target
  · have rebuilt := Edit.forM_rebuildClass_refreshes formed supported
      (draft.image.registry.descendants target)
    obtain ⟨_, after, ended, -, reports⟩ := rebuilt.exists_ok
    exact ⟨_, after, formed.visits_descendants loose target, rfl, ended, reports⟩

/-- A class that was registered before its superclass is linked to it, listed below it and
    visited with it, and a class that names itself as its superclass is not linked. -/
theorem Session.Observed.inheritance_of_late_superclass : ∃ session : Session,
    session.Observed true ∧ (session.image 0).registry.LinkedTo 0 2 ∧
    ((session.image 0).registry.entry 2).subclasses.count 0 = 1 ∧
    (¬∃ above, (session.image 0).registry.LinkedTo 1 above) ∧
    ∃ visits after, 0 ∈ visits ∧ (session.image 0).registry.Visits 2 visits ∧
      Edit.rebuild 2 { image := session.image 0 } = .ok () after := by
  let requests : List Request :=
    [.registerClass ⟨"Dog", some "Animal", 0, [], []⟩,
     .registerClass ⟨"Hydra", some "Hydra", 0, [], []⟩,
     .registerClass ⟨"Animal", none, 8, [], []⟩,
     .prepare ⟨0, "Dog", .inst⟩]
  have isPublic : (Act.inTurn true .idle 0 requests).Public true :=
    Act.inTurn_public (fun _ => .done ()) (fun _ _ _ => .done 0) 0
      (by simp [requests, Request.Issued])
  obtain ⟨session, observed, checked⟩ := isPublic.exists_observed .info [.standard]
    (fun session => (session.image 0).registry.reached 0 .setUp &&
      !(session.image 0).registry.reached 1 .setUp &&
      ((session.image 0).registry.entry 0).superName == some "Animal" &&
      (session.image 0).registry.find? "Animal" == some 2)
    (by decide +kernel)
  simp only [Bool.and_eq_true, Bool.not_eq_true', beq_iff_eq] at checked
  obtain ⟨⟨⟨setUp, waiting⟩, declared⟩, found⟩ := checked
  obtain ⟨forest, -, runs⟩ := Session.Observed.inheritance observed 0
  have linked : (session.image 0).registry.LinkedTo 0 2 := by
    obtain ⟨above, link⟩ := (forest.linked 0).mpr ⟨setUp, by rw [declared]; rfl⟩
    obtain ⟨-, name, same, leads⟩ := forest.resolved 0 above link
    rw [declared, Option.some.injEq] at same
    rw [← same, found, Option.some.injEq] at leads
    exact leads ▸ link
  obtain ⟨-, visits, after, isVisit, -, rebuilt, -⟩ := (runs { image := session.image 0 } rfl).2 2
  refine ⟨session, observed, linked, (forest.listed 2 0).1 linked, fun unlinked => ?_,
    visits, after, (isVisit.complete 0).mpr (.single linked), isVisit, rebuilt⟩
  rw [forest.linked, waiting] at unlinked
  cases unlinked.1

end LateBinding
