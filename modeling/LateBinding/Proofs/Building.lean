import LateBinding.Image.Tables
import LateBinding.Proofs.Descendants
import LateBinding.Proofs.Outcome
import LateBinding.Proofs.SparseMap

/-!
# Tables agree with what selectors mean

A table is a copy of another one with methods written over it, so its entries are right if
those of the copied table are. Tables are closed upwards: a side that has one inherits
from a side that has one. Building the missing tables of a line from its end keeps all of
this.

When a class changes, the tables of its descendants are out of date. Rebuilding visits
every descendant after the class it is linked to, so each table is copied from one that
is right already. Between two visits the tables of the `current` sides are right and the
others may not be.
-/

namespace LateBinding

/-- A later method decides before an earlier one. -/
theorem Method.lastFor_cons (method : Method) (rest : List Method) (selector : Selector) :
    lastFor (method :: rest) selector =
      (lastFor rest selector).or
        (if method.selector = selector then some method.imp else none) := by
  unfold lastFor
  rw [List.reverse_cons, List.find?_append, Option.map_or]
  by_cases same : method.selector = selector <;> simp [same]

namespace Registry

/-- Whether a class is prepared for messages, or is being prepared by some thread. -/
def isPrepared (registry : Registry) (id : ClassId) : Bool :=
  registry.reached id .initialized || (registry.entry id).initializing.isSome

/-- A class is prepared, or being prepared, if it is initialized or some thread has marked it. -/
theorem isPrepared_eq_true {registry : Registry} {id : ClassId} :
    registry.isPrepared id = true ↔
      registry.reached id .initialized = true ∨
        (registry.entry id).initializing.isSome = true := by
  rw [isPrepared, Bool.or_eq_true]

/-- The tables of a registry are in order: loaded classes have them, they are closed
    upwards, those of the `current` sides agree with what selectors mean, and a class that
    is prepared for messages, or is being prepared, has both. -/
structure Tabled (registry : Registry) (current : SideRef → Prop) : Prop where
  loaded : ∀ ref, (registry.table? ref).isSome = true → registry.reached ref.id .loaded = true
  closed : ∀ ref above, registry.parent? ref = some above →
    (registry.table? ref).isSome = true → (registry.table? above).isSome = true
  exact : ∀ ref, current ref → ∀ table, registry.table? ref = some table →
    ∀ selector, table.get? selector = registry.resolve ref selector
  ready : ∀ id, registry.isPrepared id = true → ∀ side, (registry.table? ⟨id, side⟩).isSome = true

variable {registry : Registry} {current : SideRef → Prop}

/-- Tables that agree with what selectors mean on some sides do so on fewer. -/
theorem Tabled.weaken (tabled : registry.Tabled current) {fewer : SideRef → Prop}
    (subset : ∀ ref, fewer ref → current ref) : registry.Tabled fewer where
  loaded := tabled.loaded
  closed := tabled.closed
  exact ref member := tabled.exact ref (subset ref member)
  ready := tabled.ready

/-- Publishing a right table for a side keeps the tables in order and makes the side
    current. -/
theorem Tabled.publish (tabled : registry.Tabled current) {ref : SideRef} {table : DispatchTable}
    (loaded : registry.reached ref.id .loaded = true)
    (supported : ∀ above, registry.parent? ref = some above →
      (registry.table? above).isSome = true)
    (right : ∀ selector, table.get? selector = registry.resolve ref selector) :
    (registry.publish ref table).Tabled fun other => other = ref ∨ current other := by
  have same : (registry.publish ref table).bare = registry.bare := bare_publish registry ref table
  have tables := fun other => table?_publish registry ref other table (lt_size_of_reached loaded)
  have stays : ∀ other, (registry.table? other).isSome = true →
      ((registry.publish ref table).table? other).isSome = true := by
    intro other present
    rw [tables]
    split
    · rfl
    · exact present
  exact {
    loaded := by
      intro other present
      rw [reached_of_bare same]
      rw [tables] at present
      by_cases atRef : other = ref
      · exact atRef ▸ loaded
      · rw [if_neg atRef] at present
        exact tabled.loaded other present
    closed := by
      intro other above leads present
      rw [parent?_of_bare same] at leads
      rw [tables] at present
      apply stays
      by_cases atRef : other = ref
      · exact supported above (atRef ▸ leads)
      · rw [if_neg atRef] at present
        exact tabled.closed other above leads present
    exact := by
      intro other isCurrent published found selector
      rw [resolve_of_bare same]
      rw [tables] at found
      by_cases atRef : other = ref
      · rw [if_pos atRef, Option.some.injEq] at found
        rw [← found, atRef]
        exact right selector
      · rw [if_neg atRef] at found
        exact tabled.exact other (isCurrent.resolve_left atRef) published found selector
    ready := by
      intro id prepared side
      apply stays
      apply tabled.ready id
      rw [isPrepared, reached_of_bare same,
        field_of_bare same ClassEntry.initializing fun _ => rfl] at prepared
      exact prepared }

end Registry

/-- An edit has changed nothing but tables and reports, and no side has lost its table. -/
structure Draft.Retabled [NameHash] (before after : Draft) : Prop where
  image : after.image = { before.image with registry := after.image.registry }
  bare : after.image.registry.bare = before.image.registry.bare
  hooks : after.hooks = before.hooks
  tables : ∀ ref, (before.image.registry.table? ref).isSome = true →
    (after.image.registry.table? ref).isSome = true

/-- An edit that does nothing changes nothing but tables and reports. -/
theorem Draft.Retabled.refl [NameHash] (draft : Draft) : draft.Retabled draft :=
  ⟨rfl, rfl, rfl, fun _ present => present⟩

/-- Edits that change nothing but tables and reports do so one after another. -/
theorem Draft.Retabled.trans [NameHash] {before between after : Draft}
    (first : before.Retabled between) (second : between.Retabled after) :
    before.Retabled after where
  image := by rw [second.image, first.image]
  bare := second.bare.trans first.bare
  hooks := second.hooks.trans first.hooks
  tables ref present := second.tables ref (first.tables ref present)

/-- Publishing a table changes nothing but tables. -/
theorem Draft.Retabled.publish [NameHash] {draft : Draft} {ref : SideRef} (table : DispatchTable)
    (inside : ref.id < draft.image.registry.size) :
    draft.Retabled { draft with
      image := { draft.image with registry := draft.image.registry.publish ref table } } where
  image := rfl
  bare := Registry.bare_publish _ ref table
  hooks := rfl
  tables other present := by
    rw [Registry.table?_publish _ ref other table inside]
    split
    · rfl
    · exact present

/-- Making a report changes nothing but reports. -/
theorem Draft.Retabled.report [NameHash] (draft : Draft) (reports : List Log.Message) :
    draft.Retabled { draft with reports } :=
  ⟨rfl, rfl, rfl, fun _ present => present⟩

namespace Edit

open Registry

variable [NameHash] {draft : Draft} {current : SideRef → Prop}

/-- Methods can be written over a table if their selectors fit. Then the last method for a
    selector decides, and the table below it where there is none. -/
theorem overlay_spec (table : DispatchTable) {methods : List Method}
    (issued : Method.Issued methods) (draft : Draft) :
    ∃ written, overlay table methods draft = .ok written draft ∧
      ∀ selector, written.get? selector =
        (Method.lastFor methods selector).or (table.get? selector) := by
  induction methods generalizing table with
  | nil => exact ⟨table, rfl, fun selector => rfl⟩
  | cons method rest inductionHypothesis =>
    obtain ⟨next, stored, reads⟩ :=
      table.set_spec method.imp (issued method List.mem_cons_self)
    obtain ⟨written, overlaid, restReads⟩ :=
      inductionHypothesis next fun later member => issued later (List.mem_cons_of_mem _ member)
    refine ⟨written, ?_, ?_⟩
    · rw [overlay, List.foldlM_cons, stored]
      exact overlaid
    · intro selector
      rw [restReads, reads, Method.lastFor_cons]
      cases Method.lastFor rest selector with
      | some imp => rfl
      | none => by_cases same : method.selector = selector <;> simp [same]

/-- What a side declares can be written over any table. What it declares itself decides, and
    the table below it where it declares nothing. -/
theorem overlaySide_spec (formed : draft.image.registry.Formed) (ref : SideRef)
    (table : DispatchTable) :
    ∃ written, overlaySide table ref draft = .ok written draft ∧
      ∀ selector, written.get? selector =
        (draft.image.registry.own ref selector).or (table.get? selector) :=
  overlay_spec table ((formed.issued ref.id).declarations ref.side) draft

/-- What a side declares can be written over a right table of the side it inherits from,
    and gives a right table. -/
theorem overlaySide_outcome (formed : draft.image.registry.Formed) (ref : SideRef)
    (table : DispatchTable)
    (inherited : ∀ selector, table.get? selector =
      (draft.image.registry.parent? ref).bind fun above =>
        draft.image.registry.resolve above selector) :
    Outcome (overlaySide table ref draft)
      (fun written after => after = draft ∧
        ∀ selector, written.get? selector = draft.image.registry.resolve ref selector)
      (fun _ _ => False) := by
  obtain ⟨written, overlaid, reads⟩ := overlaySide_spec formed ref table
  rw [overlaid]
  refine ⟨rfl, ?_⟩
  intro selector
  rw [reads, inherited, formed.resolve_eq]

/-- A side of a loaded class gets a right table, built on those of its line, unless it has
    one already. -/
theorem ensure_outcome (formed : draft.image.registry.Formed)
    (tabled : draft.image.registry.Tabled fun _ => True) (ref : SideRef)
    (loaded : draft.image.registry.reached ref.id .loaded = true) :
    Outcome (ensure ref draft)
      (fun table after => draft.Retabled after ∧ (after.image.registry.Tabled fun _ => True) ∧
        after.image.registry.table? ref = some table)
      (fun _ _ => False) := by
  simp only [ensure, outcome_bind, outcome_registry]
  induction ref using formed.parent_induction with
  | _ ref inductionHypothesis =>
    rw [formed.lineage_eq, ensureAlong]
    simp only [outcome_bind, outcome_registry]
    cases present : draft.image.registry.table? ref with
    | some table => exact ⟨.refl draft, tabled, present⟩
    | none =>
      -- The table below is empty at the end of the line and the right one of the side above
      -- otherwise. Either way only tables have changed so far.
      have below : Outcome
          (ensureAlong (((draft.image.registry.parent? ref).map
            draft.image.registry.lineage).getD []) draft)
          (fun table after => draft.Retabled after ∧
            (after.image.registry.Tabled fun _ => True) ∧
            (∀ above, draft.image.registry.parent? ref = some above →
              (after.image.registry.table? above).isSome = true) ∧
            ∀ selector, table.get? selector =
              (draft.image.registry.parent? ref).bind fun above =>
                draft.image.registry.resolve above selector)
          (fun _ _ => False) := by
        cases leads : draft.image.registry.parent? ref with
        | none =>
          refine ⟨.refl draft, tabled, by simp, fun selector => ?_⟩
          rw [SparseMap.get?_empty]
          rfl
        | some above =>
          apply (inductionHypothesis above leads (formed.loaded_of_parent loaded leads)).imp
          rintro table after ⟨retabled, afterTabled, published⟩
          refine ⟨retabled, afterTabled, ?_, fun selector => ?_⟩
          · intro other same
            rw [← Option.some.inj same, published]
            rfl
          · rw [afterTabled.exact above trivial table published, resolve_of_bare retabled.bare]
            rfl
      simp only [outcome_bind]
      apply below.imp
      rintro inherited between ⟨retabled, betweenTabled, supported, reads⟩
      have parents := parent?_of_bare retabled.bare ref
      have betweenLoaded : between.image.registry.reached ref.id .loaded = true := by
        rw [reached_of_bare retabled.bare, loaded]
      have betweenFormed := formed.of_bare retabled.bare
      have written := overlaySide_outcome betweenFormed ref inherited (by
        intro selector
        rw [reads, parents]
        exact congrArg _ (funext fun above => (resolve_of_bare retabled.bare above selector).symm))
      apply written.imp
      rintro table _ ⟨rfl, right⟩
      simp only [outcome_modifyRegistry, outcome_registry, outcome_report, outcome_pure]
      refine ⟨?_, ?_, ?_⟩
      · have publishes := Draft.Retabled.publish table (lt_size_of_reached betweenLoaded)
        exact retabled.trans (publishes.trans (.report _ _))
      · exact (betweenTabled.publish betweenLoaded (fun above leads =>
          supported above (parents ▸ leads)) right).weaken fun _ _ => .inr trivial
      · rw [table?_publish _ _ _ _ (lt_size_of_reached betweenLoaded), if_pos rfl]

/-- A published table is what is ensured, and nothing changes. -/
theorem ensure_of_table (formed : draft.image.registry.Formed) {ref : SideRef}
    {table : DispatchTable} (present : draft.image.registry.table? ref = some table) :
    ensure ref draft = .ok table draft := by
  rw [eq_ok_iff]
  simp only [ensure, outcome_bind, outcome_registry]
  rw [formed.lineage_eq, ensureAlong]
  simp only [outcome_bind, outcome_registry, present, outcome_pure, and_self]

/-- A new table for a side that inherits from a side with a table is built on that table, and
    nothing changes. -/
theorem build_outcome (formed : draft.image.registry.Formed) {ref : SideRef}
    (supported : ∀ above, draft.image.registry.parent? ref = some above →
      (draft.image.registry.table? above).isSome = true) :
    Outcome (build ref draft)
      (fun table after => after = draft ∧ ∀ selector, table.get? selector =
        (draft.image.registry.own ref selector).or
          ((draft.image.registry.parent? ref).bind fun above =>
            (draft.image.registry.table? above).bind (·.get? selector)))
      (fun _ _ => False) := by
  simp only [build, outcome_bind, outcome_registry]
  cases leads : draft.image.registry.parent? ref with
  | none =>
    obtain ⟨written, overlaid, reads⟩ := overlaySide_spec formed ref .empty
    simp only [overlaid, outcome_ok, true_and]
    intro selector
    rw [reads, SparseMap.get?_empty]
    rfl
  | some above =>
    obtain ⟨table, published⟩ := Option.isSome_iff_exists.mp (supported above leads)
    obtain ⟨written, overlaid, reads⟩ := overlaySide_spec formed ref table
    simp only [outcome_bind, ensure_of_table formed published, overlaid, outcome_ok, true_and]
    intro selector
    rw [reads, Option.bind_some, published]
    rfl

/-- Rebuilding a side that inherits from a current one makes it current. A side without a
    table stays without one. -/
theorem rebuildSide_outcome (formed : draft.image.registry.Formed)
    (tabled : draft.image.registry.Tabled current) (ref : SideRef)
    (inherits : ∀ above, draft.image.registry.parent? ref = some above → current above) :
    Outcome (rebuildSide ref draft)
      (fun _ after => draft.Retabled after ∧
        after.image.registry.Tabled fun other => other = ref ∨ current other)
      (fun _ _ => False) := by
  simp only [rebuildSide, outcome_bind, outcome_registry]
  split
  · rename_i present
    have loaded := tabled.loaded ref present
    have supported := fun above leads => tabled.closed ref above leads present
    simp only [outcome_bind]
    apply (build_outcome formed supported).imp
    rintro table after ⟨unchanged, reads⟩
    subst after
    refine ⟨.publish table (lt_size_of_reached loaded), tabled.publish loaded supported ?_⟩
    intro selector
    rw [reads, formed.resolve_eq]
    cases leads : draft.image.registry.parent? ref with
    | none => rfl
    | some above =>
      obtain ⟨inherited, published⟩ := Option.isSome_iff_exists.mp (supported above leads)
      rw [Option.bind_some, Option.bind_some, published, Option.bind_some,
        tabled.exact above (inherits above leads) inherited published]
  · rename_i absent
    refine ⟨.refl draft, tabled.loaded, tabled.closed, ?_, tabled.ready⟩
    rintro other (rfl | isCurrent) table found
    · rw [found] at absent
      exact absurd rfl absent
    · exact tabled.exact other isCurrent table found

/-- Rebuilding a class that is linked to a current one makes both of its sides current. The
    metaclass of an unlinked class starts from the instance side, which comes first. -/
theorem rebuildClass_outcome (formed : draft.image.registry.Formed)
    (tabled : draft.image.registry.Tabled current) {id : ClassId}
    (inherits : ∀ above, (draft.image.registry.entry id).superclass = some above →
      ∀ side, current ⟨above, side⟩) :
    Outcome (rebuildClass id draft)
      (fun _ after => draft.Retabled after ∧
        after.image.registry.Tabled fun other => other.id = id ∨ current other)
      (fun _ _ => False) := by
  simp only [rebuildClass, outcome_bind, outcome_registry, outcome_report]
  have first := rebuildSide_outcome formed tabled ⟨id, .inst⟩ (by
    intro above leads
    rcases parent?_cases leads with ⟨link, sameSide⟩ | ⟨-, impossible, -⟩
    · exact inherits above.id link above.side
    · cases impossible)
  apply first.imp
  rintro _ between ⟨retabled, betweenTabled⟩
  have second := rebuildSide_outcome (formed.of_bare retabled.bare) betweenTabled
    ⟨id, .metaclass⟩ (by
      intro above leads
      rw [parent?_of_bare retabled.bare] at leads
      rcases parent?_cases leads with ⟨link, -⟩ | ⟨-, -, rfl⟩
      · exact .inr (inherits above.id link above.side)
      · exact .inl rfl)
  apply second.imp
  rintro _ after ⟨again, afterTabled⟩
  refine ⟨(retabled.trans again).trans (.report _ _), afterTabled.weaken ?_⟩
  rintro ⟨otherId, side⟩ (rfl | isCurrent)
  · cases side
    · exact .inr (.inl rfl)
    · exact .inl rfl
  · exact .inr (.inr isCurrent)

end Edit

namespace Registry

variable {registry : Registry}

/-- Every class of a list is linked to a class that was seen before the list or stands
    earlier in it. -/
def Sequenced (registry : Registry) (seen : ClassId → Prop) : List ClassId → Prop
  | [] => True
  | id :: rest =>
    (∀ above, (registry.entry id).superclass = some above → seen above) ∧
      registry.Sequenced (fun other => other = id ∨ seen other) rest

/-- A list stays in order when more classes were seen before it. -/
theorem Sequenced.mono {seen more : ClassId → Prop} {ids : List ClassId}
    (sequenced : registry.Sequenced seen ids) (subset : ∀ id, seen id → more id) :
    registry.Sequenced more ids := by
  induction ids generalizing seen more with
  | nil => trivial
  | cons id rest inductionHypothesis =>
    exact ⟨fun above link => subset above (sequenced.1 above link),
      inductionHypothesis sequenced.2 fun other => Or.imp_right (subset other)⟩

/-- A subtree lists every class after the one it is linked to. -/
theorem Formed.sequenced_subtree (formed : registry.Formed) (depth : Nat) (id : ClassId)
    (seen : ClassId → Prop) (rest : List ClassId)
    (above : ∀ above, (registry.entry id).superclass = some above → seen above)
    (later :
      registry.Sequenced (fun other => other ∈ registry.subtree depth id ∨ seen other) rest) :
    registry.Sequenced seen (registry.subtree depth id ++ rest) := by
  induction depth generalizing id seen rest with
  | zero => exact ⟨above, later.mono fun other => Or.imp_left List.mem_singleton.mp⟩
  | succ depth inductionHypothesis =>
    -- The subtrees of the children follow one another, and every child is linked to `id`.
    have children : ∀ (ids : List ClassId) (passed : ClassId → Prop), passed id →
        (∀ child ∈ ids, (registry.entry child).superclass = some id) →
        registry.Sequenced
          (fun other => other ∈ ids.flatMap (registry.subtree depth) ∨ passed other) rest →
        registry.Sequenced passed (ids.flatMap (registry.subtree depth) ++ rest) := by
      intro ids
      induction ids with
      | nil =>
        intro passed _ _ after
        exact after.mono fun other => by simp
      | cons child others tail =>
        intro passed here links after
        rw [List.flatMap_cons, List.append_assoc]
        apply inductionHypothesis child passed _
        · intro parent link
          rw [links child List.mem_cons_self, Option.some.injEq] at link
          exact link ▸ here
        · refine tail _ (.inr here)
            (fun other member => links other (List.mem_cons_of_mem _ member)) ?_
          refine after.mono fun other => ?_
          rw [List.flatMap_cons, List.mem_append]
          tauto
    rw [subtree, List.cons_append]
    refine ⟨above, children _ _ (.inl rfl)
      (fun child listed => ((formed.mirrored id child).mp listed).1) ?_⟩
    refine later.mono fun other => ?_
    rw [subtree, List.mem_cons]
    tauto

/-- A class and those below it are listed with every class after the one it is linked to, which for
    the first is a class outside the list. -/
theorem Formed.sequenced_descendants (formed : registry.Formed) (id : ClassId) :
    registry.Sequenced (· ∉ registry.descendants id) (registry.descendants id) := by
  have sequenced := formed.sequenced_subtree registry.size id (· ∉ registry.descendants id) []
    (fun above link => formed.above_not_mem_descendants link) trivial
  rwa [List.append_nil] at sequenced

end Registry

namespace Edit

open Registry

variable [NameHash] {draft : Draft}

/-- Rebuilding a class brings all tables up to date if those of the classes that are not
    below it are. -/
theorem rebuild_outcome (formed : draft.image.registry.Formed) {id : ClassId}
    (tabled : draft.image.registry.Tabled
      fun ref => ref.id ∉ draft.image.registry.descendants id) :
    Outcome (rebuild id draft)
      (fun _ after => draft.Retabled after ∧ after.image.registry.Tabled fun _ => True)
      (fun _ _ => False) := by
  simp only [rebuild, outcome_bind, outcome_registry]
  -- What is left of the list is in order after the classes seen, and what is not left is seen.
  let invariant := fun (rest : List ClassId) (now : Draft) =>
    draft.Retabled now ∧ ∃ seen : ClassId → Prop,
      (now.image.registry.Tabled fun ref => seen ref.id) ∧
      draft.image.registry.Sequenced seen rest ∧ ∀ other, seen other ∨ other ∈ rest
  refine Outcome.imp (outcome_forM invariant ?turn _ draft ?start) ?ended
  case ended =>
    rintro _ after ⟨retabled, seen, afterTabled, -, complete⟩
    exact ⟨retabled, afterTabled.weaken fun ref _ =>
      (complete ref.id).resolve_right List.not_mem_nil⟩
  case turn =>
    rintro next rest now ⟨retabled, seen, nowTabled, ⟨above, sequenced⟩, complete⟩
    have links := field_of_bare retabled.bare ClassEntry.superclass (fun _ => rfl) next
    refine (rebuildClass_outcome (formed.of_bare retabled.bare) nowTabled ?_).imp ?_
    · intro superclass link _
      exact above superclass (links ▸ link)
    · rintro _ after ⟨again, afterTabled⟩
      refine ⟨retabled.trans again, _, afterTabled, sequenced, ?_⟩
      intro other
      rcases complete other with isSeen | member
      · exact .inl (.inr isSeen)
      · exact (List.mem_cons.mp member).imp .inl fun later => later
  case start =>
    refine ⟨.refl draft, _, tabled, formed.sequenced_descendants id, ?_⟩
    intro other
    exact (Decidable.em (other ∈ draft.image.registry.descendants id)).symm

end Edit

end LateBinding
