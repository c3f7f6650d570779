import LateBinding.Proofs.Coincidence
import LateBinding.Proofs.Identity

/-!
# Sizes of classes

The size of a linked class is what it and all classes above it declare together. It is added up
link by link, in whatever order chains come to lead to a root, and a sum that is no word is a
panic. Which link panics depends on the order of registration. Whether one does depends on the
classes alone: a registry can be settled unless some class whose names lead to a root, with the
classes above it, declares more than a word holds.
-/

namespace LateBinding

/-- The size of a class that is loaded, and nothing for one that is not. -/
def ClassEntry.loadedSize (entry : ClassEntry) : Nat :=
  if entry.stage.inst.reached .loaded then entry.size else 0

/-- What counts of a size is no more than the size. -/
theorem ClassEntry.loadedSize_le (entry : ClassEntry) : entry.loadedSize ≤ entry.size := by
  unfold loadedSize
  split <;> omega

namespace Registry

/-- What the classes of a path declare together. -/
def total (registry : Registry) : List ClassId → Nat
  | [] => 0
  | id :: path => (registry.entry id).declaredSize + registry.total path

/-- Some class whose names lead to a root would have a size that is no word. -/
def Overflows (registry : Registry) : Prop :=
  ∃ id path, id < registry.size ∧ registry.chain id = .ok path ∧
    Word.largest < registry.total path

/-- The registry with the classes of a list added, except those whose names are taken. -/
def adding (registry : Registry) (classes : List ClassDecl) : Registry :=
  classes.foldl (fun known decl =>
    match known.find? decl.name with
    | none => known.push (.declared decl.name decl.superclass decl.size (.both []))
    | some _ => known) registry

/-- Sizes are in order, and those of loaded classes are words. -/
structure Measured (registry : Registry) : Prop where
  sized : registry.Sized
  fits : ∀ id, (registry.entry id).loadedSize ≤ Word.largest

variable {registry before after : Registry} {id : ClassId} {path : List ClassId}

/-- What a path declares depends on the declared sizes of its classes only. -/
theorem total_congr (declared : ∀ id,
    (after.entry id).declaredSize = (before.entry id).declaredSize) (path : List ClassId) :
    after.total path = before.total path := by
  induction path with
  | nil => rfl
  | cons id path inductionHypothesis => rw [total, total, declared, inductionHypothesis]

/-- The sizes of the empty registry are in order. -/
theorem measured_empty : empty.Measured := by
  refine ⟨sized_empty, fun id => ?_⟩
  rw [entry_of_size_le empty (Nat.zero_le id)]
  decide

/-- Tables have no part in sizes. -/
theorem Measured.of_bare (measured : before.Measured) (same : after.bare = before.bare) :
    after.Measured := by
  refine ⟨measured.sized.of_bare same, fun id => ?_⟩
  rw [field_of_bare same ClassEntry.loadedSize fun _ => rfl]
  exact measured.fits id

/-- The size of a loaded class is a word. -/
theorem Measured.size_le (measured : registry.Measured)
    (loaded : registry.reached id .loaded = true) : (registry.entry id).size ≤ Word.largest := by
  have fits := measured.fits id
  rw [ClassEntry.loadedSize] at fits
  rwa [if_pos (show (registry.entry id).stage.inst.reached .loaded = true from loaded)] at fits

/-- Only loaded classes are marked, and marks have no part in sizes. -/
theorem Measured.mark (measured : registry.Measured) (loaded : registry.reached id .loaded = true)
    {change : ClassEntry → ClassEntry}
    (kept : ∀ entry, change entry = { entry with
      stage := (change entry).stage
      initializing := (change entry).initializing }) : (registry.modify id change).Measured := by
  refine ⟨measured.sized.mark kept, fun other => ?_⟩
  by_cases same : id = other
  · subst same
    have size := registry.field_modify id change ClassEntry.size (by rw [kept]) id
    have bound := ((registry.modify id change).entry id).loadedSize_le
    have fits := measured.size_le loaded
    omega
  · rw [registry.entry_modify_of_ne _ same]
    exact measured.fits other

/-- Raising a class whose size is a word. -/
theorem Measured.raise (measured : registry.Measured) (formed : registry.Formed)
    (raisable : registry.Raisable id) (fits : registry.fullSize id ≤ Word.largest) :
    (registry.raise id).Measured := by
  refine ⟨measured.sized.raise formed raisable, fun other => ?_⟩
  have size := raisable.size other
  by_cases same : other = id
  · have bound := ((registry.raise id).entry other).loadedSize_le
    rw [if_pos same] at size
    omega
  · have stage := raisable.stage other
    rw [if_neg same] at size stage
    have bound := measured.fits other
    simp only [ClassEntry.loadedSize] at bound ⊢
    rwa [size, show ((registry.raise id).entry other).stage.inst = _ from stage]

/-- A loaded class has the size that its path declares. -/
theorem Sized.size_eq_total (sized : registry.Sized) (formed : registry.Formed)
    (ascent : registry.Ascent id path) (loaded : registry.reached id .loaded = true) :
    (registry.entry id).size = registry.total path := by
  induction ascent with
  | @root id declared =>
    obtain ⟨-, link, -⟩ := formed.linked id (stage_ne_registered_of_reached loaded)
    rw [declaredSuper?, declared, Option.bind_none] at link
    have size := sized id
    rw [link] at size
    rw [size]
    simp [total]
  | @step id above name path declared found rest inductionHypothesis =>
    obtain ⟨-, link, -⟩ := formed.linked id (stage_ne_registered_of_reached loaded)
    rw [declaredSuper?, declared, Option.bind_some, found] at link
    have size := sized id
    rw [link] at size
    rw [size, total, Option.map_some, Option.getD_some,
      inductionHypothesis (formed.supported id above link)]
    omega

/-- Raising a class gives it the size that its path declares. -/
theorem Raisable.fullSize_eq_total (raisable : registry.Raisable id) (sized : registry.Sized)
    (formed : registry.Formed) (ascent : registry.Ascent id path) :
    registry.fullSize id = registry.total path := by
  cases ascent with
  | root declared =>
    have above : registry.declaredSuper? id = none := by rw [Registry.declaredSuper?, declared]; rfl
    rw [fullSize, above]
    simp [total]
  | @step _ above name path declared found rest =>
    have linked : registry.declaredSuper? id = some above := by
      rw [Registry.declaredSuper?, declared, Option.bind_some, found]
    have size := sized.size_eq_total formed rest (raisable.supported above linked)
    rw [fullSize, linked, Option.map_some, Option.getD_some, size, total]
    omega

/-- A registry overflows if the path of some class declares more than a word holds. -/
theorem Formed.overflows_iff (formed : registry.Formed) :
    registry.Overflows ↔ ∃ id path, id < registry.size ∧ registry.Ascent id path ∧
      Word.largest < registry.total path := by
  constructor
  · rintro ⟨id, path, inside, chained, tooLarge⟩
    exact ⟨id, path, inside, (chain_eq_ok_iff formed.lt_of_find? inside).mp chained, tooLarge⟩
  · rintro ⟨id, path, inside, ascent, tooLarge⟩
    exact ⟨id, path, inside, (chain_eq_ok_iff formed.lt_of_find? inside).mpr ascent, tooLarge⟩

namespace Preserves

/-- Two indices over the same cards lead to the same classes. -/
theorem of_cards (indexed : before.Indexed) (indexedAfter : after.Indexed)
    (cards : after.cards = before.cards) : before.Preserves after where
  cards := cards
  found name := by
    refine Option.ext fun id => ?_
    have same : (after.entry id).name = (before.entry id).name :=
      congrArg Prod.fst (card_of_cards cards id)
    rw [indexedAfter name id, indexed name id, size_of_cards cards, same]

/-- Whether a registry overflows can be seen from its classes. -/
theorem overflows_iff (preserves : before.Preserves after) :
    after.Overflows ↔ before.Overflows := by
  have size := size_of_cards preserves.cards
  have same := card_of_cards preserves.cards
  have chains := chain_congr size preserves.found (fun id => congrArg (·.1) (same id))
    fun id => congrArg (·.2.1) (same id)
  have totals := total_congr fun id => congrArg (·.2.2) (same id)
  simp only [Overflows, size, chains, totals]

end Preserves

/-- Adding classes under free names adds their cards. -/
theorem Indexed.adding (indexed : registry.Indexed) (classes : List ClassDecl) :
    (registry.adding classes).Indexed ∧ (registry.adding classes).cards =
      registry.cards ++ (ClassDecl.fresh registry.names classes).map ClassDecl.card := by
  induction classes generalizing registry with
  | nil => exact ⟨indexed, (List.append_nil _).symm⟩
  | cons decl rest inductionHypothesis =>
    rw [Registry.adding, List.foldl_cons, ← Registry.adding]
    cases found : registry.find? decl.name with
    | some known =>
      have present : decl.name ∈ registry.names := by
        by_contra absent
        rw [(indexed.find?_eq_none_iff decl.name).mpr absent] at found
        cases found
      rw [ClassDecl.fresh, if_pos present]
      exact inductionHypothesis indexed
    | none =>
      have absent := (indexed.find?_eq_none_iff decl.name).mp found
      let new : ClassEntry := .declared decl.name decl.superclass decl.size (.both [])
      have pushed : (registry.push new).Indexed := indexed.push found
      obtain ⟨placed, cards⟩ := inductionHypothesis pushed
      refine ⟨placed, ?_⟩
      rw [ClassDecl.fresh, if_neg absent, List.map_cons]
      refine cards.trans ?_
      rw [Registry.cards, Registry.names, column_push, column_push, List.append_assoc]
      rfl

end Registry

namespace Draft

open Registry

variable [NameHash] {before after : Draft} {arrivals : List Arrival} {order : List ClassId}

/-- Setting up classes one after another keeps their sizes words, since each size is checked before
    the class is loaded. -/
theorem Raises.measured (raises : before.Raises order after) (formed : before.image.registry.Formed)
    (measured : before.image.registry.Measured) : after.image.registry.Measured := by
  induction raises with
  | none draft => exact measured
  | first raised _ inductionHypothesis =>
    refine inductionHypothesis raised.sound.formed ?_
    exact (measured.raise formed raised.raisable raised.fits).of_bare raised.bare

/-- Classes that arrive are not loaded, and those that are keep their sizes. -/
theorem TakesIn.measured (taken : before.TakesIn arrivals after)
    (formed : before.image.registry.Formed) (measured : before.image.registry.Measured) :
    after.image.registry.Measured := by
  refine ⟨taken.sized formed measured.sized, fun id => ?_⟩
  rw [taken.field ClassEntry.loadedSize (fun _ _ _ _ => rfl) fun _ _ _ _ => rfl]
  exact measured.fits id

/-- An edit that ends keeps the sizes of loaded classes words. -/
theorem Amends.measured (amends : before.Amends arrivals order after)
    (sound : before.image.registry.Sound) (measured : before.image.registry.Measured) :
    after.image.registry.Measured := by
  obtain ⟨entered, settled, taken, raises, retabled, -⟩ := amends
  have entering := taken.measured sound.formed measured
  exact (raises.measured (taken.kept sound).1.formed entering).of_bare retabled.bare

/-- Setting up classes keeps their names, what they name and what they declare. -/
theorem Raises.preserves (raises : before.Raises order after)
    (sound : before.image.registry.Sound) :
    before.image.registry.Preserves after.image.registry := by
  have advanced := raises.advanced sound
  refine ⟨?_, advanced.grows.find?_eq sound.formed advanced.sound.formed advanced.size⟩
  rw [cards, column, advanced.size]
  refine List.map_congr_left fun id _ => ?_
  exact congrArg (fun facts : String × Option String × Nat × BySide (List Method) =>
    (facts.1, facts.2.1, facts.2.2.1)) (raises.facts id)

/-- What has been enrolled is what adding the classes that can be registered gives. -/
theorem Enrols.adding (enrols : before.Enrols arrivals after)
    (indexed : before.image.registry.Indexed) {classes : List ClassDecl}
    (arrive : arrivals.filterMap Arrival.class? =
      ClassDecl.fresh before.image.registry.names classes) :
    (before.image.registry.adding classes).Preserves after.image.registry := by
  obtain ⟨placed, cards⟩ := indexed.adding classes
  refine .of_cards placed (enrols.indexed indexed) ?_
  rw [enrols.cards, cards, arrive]

end Draft

namespace Edit

open Registry

variable [NameHash] {strict : Bool} {draft : Draft}

/-- A registry can be settled if it does not overflow, and only then. -/
theorem settle_overflows (sound : draft.image.registry.Sound)
    (measured : draft.image.registry.Measured) :
    Outcome (settle draft) (fun _ _ => ¬ draft.image.registry.Overflows)
      (fun failure _ => failure = .panicked .sumOverflow ∧ draft.image.registry.Overflows) := by
  apply (settle_outcome sound).mono
  · rintro _ after ⟨⟨order, raises⟩, settled⟩ overflows
    have formed := (raises.advanced sound).sound.formed
    have measuredAfter := raises.measured sound.formed measured
    obtain ⟨id, path, inside, ascent, tooLarge⟩ :=
      formed.overflows_iff.mp ((raises.preserves sound).overflows_iff.mpr overflows)
    have loaded := settled id path inside ascent
    have size := measuredAfter.sized.size_eq_total formed ascent loaded
    have fits := measuredAfter.size_le loaded
    omega
  · rintro failure after ⟨overflow, order, id, raised, raises, raisable, tooLarge, -⟩
    have formed := (raises.advanced sound).sound.formed
    obtain ⟨path, ascent⟩ := raisable.rooted
    rw [raisable.fullSize_eq_total (raises.measured sound.formed measured).sized formed ascent]
      at tooLarge
    exact ⟨overflow, (raises.preserves sound).overflows_iff.mp
      (formed.overflows_iff.mpr ⟨id, path, raisable.inside, ascent, tooLarge⟩)⟩

/-- A class cannot be advanced if what it and the classes above it declare is no word. -/
theorem advance_too_large (sound : draft.image.registry.Sound)
    (measured : draft.image.registry.Measured) {id : ClassId} {path : List ClassId}
    (inside : id < draft.image.registry.size)
    (chained : draft.image.registry.chain id = .ok path)
    (tooLarge : Word.largest < draft.image.registry.total path) :
    Outcome (advance id draft) (fun _ _ => False)
      (fun failure _ => failure = .panicked .sumOverflow) := by
  have ascent := (chain_eq_ok_iff sound.formed.lt_of_find? inside).mp chained
  apply (advance_outcome sound inside).mono
  · rintro _ after ⟨⟨order, raises⟩, loaded⟩
    have advanced := raises.advanced sound
    have measuredAfter := raises.measured sound.formed measured
    have still := advanced.grows.ascent sound.formed inside ascent
    have cards := card_of_cards (raises.preserves sound).cards
    have size := measuredAfter.sized.size_eq_total advanced.sound.formed still loaded
    have fits := measuredAfter.size_le loaded
    rw [size, total_congr fun other => congrArg (·.2.2) (cards other)] at fits
    omega
  · rintro failure after (⟨overflow, -⟩ | ⟨error, refused, -⟩)
    · exact overflow
    · rw [chained] at refused
      cases refused

/-- A class under a name that is not taken is registered unless it makes the registry
    overflow or interning fails. -/
theorem registerClass_overflows (sound : draft.image.Sound strict)
    (measured : draft.image.registry.Measured) {decl : ClassDecl}
    (fresh : decl.name ∉ draft.image.registry.names) :
    Outcome (registerClass decl draft)
      (fun _ _ => ¬ (draft.image.registry.adding [decl]).Overflows)
      (fun failure _ => failure.Exhausted ∨ failure = .panicked .sumOverflow ∧
        (draft.image.registry.adding [decl]).Overflows) := by
  have formed := sound.registry.formed
  simp only [registerClass, outcome_bind, outcome_pure]
  apply (((insertClass_outcome sound decl).and (insertClass_takes sound decl)).and
    (insertClass_enrols formed.named fresh)).mono
  · rintro _ inserted ⟨⟨kept, taken, -⟩, enrols⟩
    have arrives : decl.arrivals.filterMap Arrival.class? =
        ClassDecl.fresh draft.image.registry.names [decl] := by
      rw [decl.class?_arrivals, ClassDecl.fresh, if_neg fresh]
      rfl
    have added := Draft.Enrols.adding enrols formed.named arrives
    rw [← added.overflows_iff]
    apply (settle_overflows kept.sound.registry (taken.measured formed measured)).mono
    · exact fun _ _ fits => fits
    · exact fun _ _ tooLarge => .inr tooLarge
  · exact fun _ _ stopped => .inl stopped.2.1

/-- A module is loaded unless its classes make the registry overflow or interning fails. -/
theorem loadModule_overflows (sound : draft.image.Sound strict)
    (measured : draft.image.registry.Measured) (decl : ModuleDecl) :
    Outcome (loadModule decl draft)
      (fun _ _ => ¬ (draft.image.registry.adding decl.classes).Overflows)
      (fun failure _ => failure.Exhausted ∨ failure = .panicked .sumOverflow ∧
        (draft.image.registry.adding decl.classes).Overflows) := by
  have formed := sound.registry.formed
  rw [loadModule_eq, outcome_bind]
  apply (((takeModule_outcome sound decl).and (takeModule_takes sound decl)).and
    (takeModule_enrols formed.named decl)).mono
  · rintro _ taken ⟨⟨kept, takes, -⟩, enrols⟩
    have added := Draft.Enrols.adding enrols formed.named (decl.class?_arrivals _)
    rw [outcome_bind, ← added.overflows_iff]
    apply (settle_overflows kept.sound.registry (takes.measured formed measured)).mono
    · exact fun _ _ fits => fits
    · exact fun _ _ tooLarge => .inr tooLarge
  · exact fun _ _ stopped => .inl stopped.1.1.1

end Edit

/-- Whatever is done to an image leaves its sizes in order. -/
theorem Image.Lives.measured [NameHash] {strict : Bool} {id : ImageId} {before after : Image}
    {deed : Deed} (lives : before.Lives strict id deed after) (sound : before.registry.Sound)
    (measured : before.registry.Measured) : after.registry.Measured := by
  cases lives with
  | changed amends _ => exact amends.measured sound measured
  | refused taken _ => exact taken.measured sound.formed measured
  | began thread ready =>
    exact measured.mark (sound.tabled.loaded _ (ready.tabled .inst)) fun _ => rfl
  | finished marked => exact measured.mark (sound.loaded_of_marked marked) fun _ => rfl
  | apart _ alike =>
    rw [alike.registry]
    exact measured

namespace Session

variable [NameHash]

/-- The sizes of all classes that can be observed are in order. -/
theorem Observed.measured {strict : Bool} {session : Session} (observed : session.Observed strict)
    (id : ImageId) : (session.image id).registry.Measured := by
  obtain ⟨threshold, configs, first, course, started, sound, run⟩ := observed.course
  refine (run.keeps sound (fun session => (session.image id).registry.Measured) ?_ ?_).2
  · intro moment regular measured
    by_cases inside : id < moment.before.images.size
    · exact (regular.lives id inside).measured (regular.sound id).registry measured
    · rw [regular.image_of_size_le (Nat.le_of_not_lt inside)]
      exact measured
  · rw [start_registry started id]
    exact Registry.measured_empty

end Session

end LateBinding
