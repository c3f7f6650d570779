import LateBinding.Image.Loading
import LateBinding.Proofs.Soundness

/-!
# Settling

A chain is set up and loaded from its root down. When the turn of a class comes, the class
above it is loaded, so the class can be raised, unless it is loaded already and nothing
happens. An advanced class therefore has its whole chain loaded, and the only way for this
to fail is a size that is no word.

What advancing does is a sequence of raises. Each of them raises one class, collects the
hooks that this makes due, and may build tables. Whatever is to be known of settling is
known from one raise.

One pass by number settles a registry. A class whose turn is over is loaded if its names
lead to a root, and the turns of later classes register no names, so they open no new way
to a root. In a settled registry there is nothing to advance, and a further pass does
nothing at all.
-/

namespace LateBinding

/-- The `load` implementation among class methods, the last one declared, as it is to be
    called on a class. -/
def LoadHook.among (selector : Selector) (receiver : ClassId) (category : Option Nat)
    (owner : String) (methods : List Method) : Option LoadHook :=
  (Method.lastFor methods selector).map fun imp => ⟨imp, receiver, category, owner⟩

/-- The hook of a category that is attached to a class. -/
def Category.hook (category : Category) (selector : Selector) (receiver : ClassId) :
    Option LoadHook :=
  LoadHook.among selector receiver (some category.serial) category.fullName
    category.methods.metaclass

/-- The hook that a class declares itself. -/
def Registry.ownHook (registry : Registry) (selector : Selector) (id : ClassId) :
    Option LoadHook :=
  LoadHook.among selector id none (registry.entry id).name (registry.entry id).methods.metaclass

/-- The hooks that are due when a class is loaded: its own before those of the categories
    that waited for it. -/
def Registry.due (registry : Registry) (selector : Selector) (id : ClassId) : List LoadHook :=
  (registry.ownHook selector id).toList ++
    (registry.parkedFor (registry.entry id).name).filterMap (·.hook selector id)

/-- An edit has loaded classes and built tables at most. -/
structure Draft.Advanced [NameHash] (before after : Draft) : Prop where
  image : after.image = { before.image with registry := after.image.registry }
  sound : after.image.registry.Sound
  size : after.image.registry.size = before.image.registry.size
  grows : before.image.registry.Grows after.image.registry

namespace Draft.Advanced

variable [NameHash] {before between after : Draft}

/-- Nothing has to be done to have advanced. -/
theorem refl (sound : before.image.registry.Sound) : before.Advanced before :=
  ⟨rfl, sound, rfl, .refl _⟩

/-- Whoever advances twice in a row advances. -/
theorem trans (first : before.Advanced between) (second : between.Advanced after) :
    before.Advanced after where
  image := by rw [second.image, first.image]
  sound := second.sound
  size := second.size.trans first.size
  grows := first.grows.trans second.grows

/-- Building tables is an advance. -/
theorem of_retabled (sound : before.image.registry.Sound) (retabled : before.Retabled after)
    (tabled : after.image.registry.Tabled fun _ => True) : before.Advanced after where
  image := retabled.image
  sound := ⟨sound.formed.of_bare retabled.bare, tabled⟩
  size := Registry.size_of_bare retabled.bare
  grows := Registry.grows_of_bare retabled.bare retabled.tables

end Draft.Advanced

/-- An edit has raised a class, collected the hooks that became due, and built tables at
    most. -/
structure Draft.Raised [NameHash] (before : Draft) (id : ClassId) (after : Draft) : Prop where
  raisable : before.image.registry.Raisable id
  fits : before.image.registry.fullSize id ≤ Word.largest
  image : after.image = { before.image with registry := after.image.registry }
  bare : after.image.registry.bare = (before.image.registry.raise id).bare
  sound : after.image.registry.Sound
  grows : before.image.registry.Grows after.image.registry
  hooks : after.hooks = before.hooks ++ before.image.registry.due before.image.loadSelector id
  /-- In an image that builds tables early the class has both now. -/
  built : before.image.config.eager = true →
    ∀ side, (after.image.registry.table? ⟨id, side⟩).isSome = true
  /-- In any other image there are no new tables. -/
  spared : before.image.config.eager = false →
    ∀ ref, after.image.registry.table? ref = before.image.registry.table? ref

/-- An edit has raised the classes of a list, one after the other. -/
inductive Draft.Raises [NameHash] : Draft → List ClassId → Draft → Prop
  | none (draft : Draft) : Raises draft [] draft
  | first {draft next after : Draft} {id : ClassId} {ids : List ClassId}
      (raised : draft.Raised id next) (rest : Raises next ids after) :
      Raises draft (id :: ids) after

namespace Draft

variable [NameHash] {before between after : Draft} {id : ClassId} {ids others : List ClassId}

/-- So is raising a class. -/
theorem Raised.advanced (raised : before.Raised id after) : before.Advanced after where
  image := raised.image
  sound := raised.sound
  size := by rw [Registry.size_of_bare raised.bare, Registry.size_raise]
  grows := raised.grows

/-- A class that has been raised is loaded. -/
theorem Raised.reached (raised : before.Raised id after) :
    after.image.registry.reached id .loaded = true := by
  rw [Registry.reached_of_bare raised.bare, Registry.reached, raised.raisable.stage, if_pos rfl]
  rfl

/-- Classes are raised one list after the other. -/
theorem Raises.trans (first : before.Raises ids between) (second : between.Raises others after) :
    before.Raises (ids ++ others) after := by
  induction first with
  | none draft => exact second
  | first raised rest inductionHypothesis => exact .first raised (inductionHypothesis second)

/-- Raising several is an advance. -/
theorem Raises.advanced (raises : before.Raises ids after) (sound : before.image.registry.Sound) :
    before.Advanced after := by
  induction raises with
  | none draft => exact .refl sound
  | first raised rest inductionHypothesis =>
    exact raised.advanced.trans (inductionHypothesis raised.sound)

/-- A class is given its link and nothing else. -/
def tie (draft : Draft) (id : ClassId) : Draft :=
  { draft with image := { draft.image with registry := draft.image.registry.tie id } }

/-- Raising classes has come to one whose size is no word, and that one has got its link only. -/
def Outgrows (before after : Draft) : Prop :=
  ∃ ids id raised, before.Raises ids raised ∧ raised.image.registry.Raisable id ∧
    Word.largest < raised.image.registry.fullSize id ∧ after = raised.tie id

/-- A size that is no word can come up after others have been raised. -/
theorem Outgrows.of_raises (raises : before.Raises ids between)
    (outgrows : between.Outgrows after) : before.Outgrows after := by
  obtain ⟨others, id, raised, further, raisable, tooLarge, tied⟩ := outgrows
  exact ⟨ids ++ others, id, raised, raises.trans further, raisable, tooLarge, tied⟩

end Draft

namespace Edit

open Registry

variable [NameHash] {draft : Draft}

/-- Collecting a `load` adds it at the end of the hooks, if there is one. -/
theorem collectLoad_outcome (receiver : ClassId) (category : Option Nat) (owner : String)
    (methods : List Method) :
    Outcome (collectLoad receiver category owner methods draft)
      (fun _ after => after.image = draft.image ∧ after.hooks = draft.hooks ++
        (LoadHook.among draft.image.loadSelector receiver category owner methods).toList)
      (fun _ _ => False) := by
  simp only [collectLoad, outcome_bind, outcome_get, LoadHook.among]
  cases Method.lastFor methods draft.image.loadSelector with
  | some imp => exact ⟨rfl, rfl⟩
  | none => exact ⟨rfl, (List.append_nil _).symm⟩

/-- The report of categories that are merged changes nothing else. -/
theorem reportMerging_outcome (waiting : List Category) (name : String) :
    Outcome (reportMerging waiting name draft)
      (fun _ after => after.image = draft.image ∧ after.hooks = draft.hooks)
      (fun _ _ => False) := by
  unfold reportMerging
  split
  · exact ⟨rfl, rfl⟩
  · exact ⟨rfl, rfl⟩

/-- A loaded class is given its tables early, or nothing happens. -/
theorem ensureEarly_outcome (sound : draft.image.registry.Sound) {id : ClassId}
    (loaded : draft.image.registry.reached id .loaded = true) :
    Outcome (ensureEarly id draft)
      (fun _ after => draft.Retabled after ∧ (after.image.registry.Tabled fun _ => True) ∧
        (draft.image.config.eager = true →
          ∀ side, (after.image.registry.table? ⟨id, side⟩).isSome = true) ∧
        (draft.image.config.eager = false → after = draft))
      (fun _ _ => False) := by
  simp only [ensureEarly, outcome_bind, outcome_get]
  split
  · rename_i early
    simp only [outcome_bind]
    apply (ensure_outcome sound.formed sound.tabled ⟨id, .inst⟩ loaded).imp
    rintro _ between ⟨retabled, tabled, present⟩
    have first := Draft.Advanced.of_retabled sound retabled tabled
    apply (ensure_outcome first.sound.formed first.sound.tabled ⟨id, .metaclass⟩
      (first.grows.reached loaded)).imp
    rintro _ after ⟨again, tabledAgain, presentAgain⟩
    refine ⟨retabled.trans again, tabledAgain, fun _ side => ?_, fun late => ?_⟩
    · cases side
      · exact again.tables _ (by rw [present]; rfl)
      · rw [presentAgain]
        rfl
    · rw [early] at late
      cases late
  · rename_i late
    exact ⟨.refl draft, sound.tabled, fun early => absurd early late, fun _ => rfl⟩

/-- A class that is loaded is not set up again. -/
theorem setUp_of_loaded {id : ClassId}
    (loaded : draft.image.registry.reached id .loaded = true) :
    setUp id draft = .ok () draft := by
  have passed : draft.image.registry.reached id .setUp = true := by
    rw [reached] at loaded ⊢
    cases stage : draft.image.registry.stage id <;> simp_all [Stage.reached, Stage.rank]
  rw [eq_ok_iff]
  simp only [setUp, outcome_bind, outcome_registry, passed, if_true, outcome_pure, and_self]

/-- Nor loaded again. -/
theorem load_of_loaded {id : ClassId}
    (loaded : draft.image.registry.reached id .loaded = true) :
    load id draft = .ok () draft := by
  rw [eq_ok_iff]
  simp only [load, outcome_bind, outcome_registry, loaded, if_true, outcome_pure, and_self]

/-- A draft in which a class is linked and loaded counts as raised, also when the class gets
    its tables early. -/
theorem raised_outcome (sound : draft.image.registry.Sound) {id : ClassId}
    (raisable : draft.image.registry.Raisable id)
    (fits : draft.image.registry.fullSize id ≤ Word.largest) {hooks : List LoadHook}
    (collected : hooks =
      draft.hooks ++ draft.image.registry.due draft.image.loadSelector id)
    (reports : List Log.Message) {stopped : Failure → Draft → Prop} :
    Outcome
      (ensureEarly id
        ⟨{ draft.image with registry := (draft.image.registry.link id).absorb id }, hooks, reports⟩)
      (fun _ after => draft.Raised id after) stopped := by
  obtain ⟨raisedSound, raisedGrows⟩ := sound.raise raisable
  have loaded : (draft.image.registry.raise id).reached id .loaded = true := by
    rw [reached, raisable.stage, if_pos rfl]
    rfl
  let now : Draft :=
    ⟨{ draft.image with registry := draft.image.registry.raise id }, hooks, reports⟩
  have nowSound : now.image.registry.Sound := raisedSound
  have early : Outcome (ensureEarly id now)
      (fun _ after => now.Retabled after ∧ (after.image.registry.Tabled fun _ => True) ∧
        (draft.image.config.eager = true →
          ∀ side, (after.image.registry.table? ⟨id, side⟩).isSome = true) ∧
        (draft.image.config.eager = false → after = now))
      (fun _ _ => False) := ensureEarly_outcome nowSound loaded
  apply early.certain
  rintro _ after ⟨retabled, tabled, ensured, idle⟩
  have built := Draft.Advanced.of_retabled nowSound retabled tabled
  exact {
    raisable := raisable
    fits := fits
    image := retabled.image
    bare := retabled.bare
    sound := built.sound
    grows := raisedGrows.trans built.grows
    hooks := retabled.hooks.trans collected
    built := ensured
    spared := fun late ref => by rw [idle late, table?_raise raisable] }

/-- A class that can be raised is, unless its size is no word. -/
theorem raise_outcome (sound : draft.image.registry.Sound) {id : ClassId}
    (raisable : draft.image.registry.Raisable id) :
    Outcome ((do setUp id; load id : Edit Unit) draft)
      (fun _ after => draft.Raised id after)
      (fun failure after => failure = .panicked .sumOverflow ∧ after = draft.tie id ∧
        Word.largest < draft.image.registry.fullSize id) := by
  have notSetUp : draft.image.registry.reached id .setUp = false := by
    rw [reached, raisable.registered]
    rfl
  have linked : (draft.image.registry.link id).reached id .loaded = false := by
    have registered := raisable.registered
    rw [stage] at registered
    rw [reached, stage, entry_link_same raisable.inside raisable.proper]
    simp only [ClassEntry.advance, BySide.map, registered]
    rfl
  have sameEntry : ((draft.image.registry.link id).entry id).name =
      (draft.image.registry.entry id).name ∧ ((draft.image.registry.link id).entry id).methods =
        (draft.image.registry.entry id).methods := by
    rw [entry_link_same raisable.inside raisable.proper]
    exact ⟨rfl, rfl⟩
  have sameWaiting : ∀ name, (draft.image.registry.link id).parkedFor name =
      draft.image.registry.parkedFor name := fun name => by rw [parkedFor, parked_link, parkedFor]
  simp only [setUp, outcome_bind, outcome_registry, notSetUp, Bool.false_eq_true, if_false]
  split
  · rename_i tooLarge
    exact ⟨rfl, rfl, tooLarge⟩
  · rename_i fits
    simp only [outcome_bind, outcome_modifyRegistry, outcome_report, load, outcome_registry, linked,
      Bool.false_eq_true, if_false, sameEntry, sameWaiting]
    -- Until the class is loaded only hooks and reports are added.
    apply (reportMerging_outcome _ _).certain
    rintro _ merging ⟨sameMerging, hooksMerging⟩
    apply (collectLoad_outcome _ _ _ _).certain
    rintro _ collected ⟨sameCollected, hooksCollected⟩
    let waiting := draft.image.registry.parkedFor (draft.image.registry.entry id).name
    let selector := draft.image.loadSelector
    refine Outcome.certain (outcome_forM
      (fun rest now => now.image = { draft.image with registry := draft.image.registry.link id } ∧
        now.hooks ++ rest.filterMap (·.hook selector id) =
          draft.hooks ++ draft.image.registry.due selector id)
      ?_ waiting collected ⟨sameCollected.trans sameMerging, ?_⟩) ?_
    · rintro category rest now ⟨same, remaining⟩
      apply (collectLoad_outcome _ _ _ _).imp
      rintro _ after ⟨kept, added⟩
      refine ⟨kept.trans same, ?_⟩
      rw [← remaining, added, same, List.append_assoc, List.filterMap_cons]
      change _ ++ ((category.hook selector id).toList ++ _) = _
      cases category.hook selector id <;> rfl
    · rw [hooksCollected, hooksMerging, sameMerging, List.append_assoc]
      rfl
    · rintro _ ready ⟨same, hooks⟩
      rw [List.filterMap_nil, List.append_nil] at hooks
      simp only [same]
      exact raised_outcome sound raisable (Nat.le_of_not_lt fits) hooks _

/-- Advancing along the path of a class raises classes until the class is loaded. -/
theorem advanceAlong_outcome (sound : draft.image.registry.Sound) {id : ClassId}
    {path : List ClassId} (inside : id < draft.image.registry.size)
    (ascent : draft.image.registry.Ascent id path) :
    Outcome (advanceAlong path draft)
      (fun _ after => (∃ order, draft.Raises order after) ∧
        after.image.registry.reached id .loaded = true)
      (fun failure after => failure = .panicked .sumOverflow ∧ draft.Outgrows after) := by
  -- The classes above those that are left are loaded.
  let invariant := fun (rest : List ClassId) (now : Draft) =>
    (∃ order, draft.Raises order now) ∧ ∃ loaded, path = rest.reverse ++ loaded ∧
      ∀ passed ∈ loaded, now.image.registry.reached passed .loaded = true
  refine Outcome.imp (outcome_forM invariant ?turn path.reverse draft ?start) ?ended
  case start => exact ⟨⟨[], .none draft⟩, [], by simp, by simp⟩
  case ended =>
    rintro _ after ⟨raises, loaded, split, allLoaded⟩
    obtain ⟨above, head⟩ := ascent.head
    refine ⟨raises, allLoaded id ?_⟩
    rw [List.reverse_nil, List.nil_append] at split
    rw [← split, head]
    exact List.mem_cons_self
  case turn =>
    rintro item rest now ⟨⟨order, raises⟩, loaded, split, allLoaded⟩
    have advanced := raises.advanced sound
    rw [List.reverse_cons, List.append_assoc, List.singleton_append] at split
    have within : item < now.image.registry.size := by
      rw [advanced.size]
      exact ascent.inside sound.formed.lt_of_find? inside item (by rw [split]; simp)
    have itemAscent : now.image.registry.Ascent item (item :: loaded) := by
      apply advanced.grows.ascent sound.formed (advanced.size ▸ within)
      exact (split ▸ ascent).suffix
    rcases advanced.sound.formed.registered_or_loaded item with registered | already
    · have raisable : now.image.registry.Raisable item := by
        refine ⟨within, registered, ⟨_, itemAscent⟩, ?_⟩
        intro above declared
        cases itemAscent with
        | root none => rw [declaredSuper?, none] at declared; cases declared
        | step some found further =>
          rw [declaredSuper?, some, Option.bind_some, found, Option.some.injEq] at declared
          obtain ⟨_, head⟩ := further.head
          exact declared ▸ allLoaded _ (by rw [head]; exact List.mem_cons_self)
      apply (raise_outcome advanced.sound raisable).mono
      · intro _ after raised
        refine ⟨⟨order ++ [item], raises.trans (.first raised (.none after))⟩,
          item :: loaded, split, ?_⟩
        intro passed member
        rcases List.mem_cons.mp member with same | older
        · exact same ▸ raised.reached
        · exact raised.grows.reached (allLoaded passed older)
      · rintro failure after ⟨overflow, rfl, tooLarge⟩
        exact ⟨overflow, order, item, now, raises, raisable, tooLarge, rfl⟩
    · simp only [outcome_bind, setUp_of_loaded already, outcome_ok, load_of_loaded already]
      refine ⟨⟨order, raises⟩, item :: loaded, split, ?_⟩
      intro passed member
      rcases List.mem_cons.mp member with same | older
      · exact same ▸ already
      · exact allLoaded passed older

/-- After its turn a class is loaded if its names lead to a root. -/
theorem settleClass_outcome (sound : draft.image.registry.Sound) {id : ClassId}
    (inside : id < draft.image.registry.size) :
    Outcome (settleClass id draft)
      (fun _ after => (∃ order, draft.Raises order after) ∧
        ∀ path, after.image.registry.Ascent id path →
          after.image.registry.reached id .loaded = true)
      (fun failure after => failure = .panicked .sumOverflow ∧ draft.Outgrows after) := by
  simp only [settleClass, outcome_bind, outcome_registry]
  split
  · rename_i loaded
    exact ⟨⟨[], .none draft⟩, fun _ _ => loaded⟩
  · cases chained : draft.image.registry.chain id with
    | error error =>
      refine ⟨⟨[], .none draft⟩, fun path ascent => ?_⟩
      rw [(chain_eq_ok_iff sound.formed.lt_of_find? inside).mpr ascent] at chained
      cases chained
    | ok path =>
      have ascent := (chain_eq_ok_iff sound.formed.lt_of_find? inside).mp chained
      apply (advanceAlong_outcome sound inside ascent).imp
      rintro _ after ⟨raises, loaded⟩
      exact ⟨raises, fun _ _ => loaded⟩

/-- One pass of raises settles a sound registry. -/
theorem settle_outcome (sound : draft.image.registry.Sound) :
    Outcome (settle draft)
      (fun _ after => (∃ order, draft.Raises order after) ∧ after.image.registry.Settled)
      (fun failure after => failure = .panicked .sumOverflow ∧ draft.Outgrows after) := by
  simp only [settle, outcome_bind, outcome_registry]
  -- The classes whose turn is over are loaded if their names lead to a root.
  let invariant := fun (rest : List ClassId) (now : Draft) =>
    (∃ order, draft.Raises order now) ∧ (∀ id ∈ rest, id < now.image.registry.size) ∧
      ∀ id path, id < now.image.registry.size → id ∉ rest → now.image.registry.Ascent id path →
        now.image.registry.reached id .loaded = true
  refine Outcome.imp (outcome_forM invariant ?turn _ draft ?start) ?ended
  case start =>
    refine ⟨⟨[], .none draft⟩, fun id member => List.mem_range.mp member, ?_⟩
    exact fun id path inside past _ => absurd (List.mem_range.mpr inside) past
  case ended =>
    rintro _ after ⟨raises, -, settled⟩
    exact ⟨raises, fun id path inside => settled id path inside List.not_mem_nil⟩
  case turn =>
    rintro item rest now ⟨⟨order, raises⟩, within, settled⟩
    have advanced := raises.advanced sound
    apply (settleClass_outcome advanced.sound (within item List.mem_cons_self)).mono
    · rintro _ after ⟨⟨more, again⟩, itemSettled⟩
      have further := again.advanced advanced.sound
      refine ⟨⟨order ++ more, raises.trans again⟩, ?_, ?_⟩
      · intro id member
        rw [further.size]
        exact within id (List.mem_cons_of_mem _ member)
      · intro id path inside past ascent
        by_cases same : id = item
        · subst same
          exact itemSettled path ascent
        · rw [further.size] at inside
          refine further.grows.reached (settled id path inside ?_ ?_)
          · exact fun member => (List.mem_cons.mp member).elim same past
          · exact (further.grows.ascent_iff advanced.sound.formed further.sound.formed
              further.size inside).mp ascent
    · rintro failure after ⟨overflow, outgrows⟩
      exact ⟨overflow, .of_raises raises outgrows⟩

/-- A loop over items for which there is nothing to do does nothing. -/
theorem forM_eq_ok {β : Type} {act : β → Edit Unit} {items : List β}
    (idle : ∀ item ∈ items, act item draft = .ok () draft) :
    items.forM act draft = .ok () draft := by
  induction items with
  | nil => rfl
  | cons item rest inductionHypothesis =>
    have done := inductionHypothesis fun later member => idle later (List.mem_cons_of_mem _ member)
    rw [eq_ok_iff] at done ⊢
    change Outcome ((act item >>= fun _ => rest.forM act) draft) _ _
    rwa [outcome_bind, idle item List.mem_cons_self]

/-- There is nothing to advance for a loaded class. -/
theorem advance_of_loaded (formed : draft.image.registry.Formed) {id : ClassId}
    (loaded : draft.image.registry.reached id .loaded = true) :
    advance id draft = .ok () draft := by
  obtain ⟨-, -, path, ascent⟩ := formed.linked id (stage_ne_registered_of_reached loaded)
  have chained : draft.image.registry.chain id = .ok path :=
    (chain_eq_ok_iff formed.lt_of_find? (lt_size_of_reached loaded)).mpr ascent
  have along : advanceAlong path draft = .ok () draft := by
    refine forM_eq_ok fun item member => ?_
    have itemLoaded := formed.loaded_of_mem ascent loaded item (List.mem_reverse.mp member)
    rw [eq_ok_iff]
    simp only [outcome_bind, setUp_of_loaded itemLoaded, load_of_loaded itemLoaded, outcome_ok,
      and_self]
  rw [eq_ok_iff]
  simp only [advance, outcome_bind, outcome_registry, chained, along, outcome_ok, and_self]

/-- There is nothing to do in a settled registry. -/
theorem settle_of_settled (formed : draft.image.registry.Formed)
    (settled : draft.image.registry.Settled) : settle draft = .ok () draft := by
  refine forM_eq_ok fun id member => ?_
  have inside : id < draft.image.registry.size := List.mem_range.mp member
  rw [eq_ok_iff]
  simp only [settleClass, outcome_bind, outcome_registry]
  cases chained : draft.image.registry.chain id with
  | error error => split <;> exact ⟨trivial, rfl⟩
  | ok path =>
    have ascent := (chain_eq_ok_iff formed.lt_of_find? inside).mp chained
    rw [if_pos (settled id path inside ascent)]
    exact ⟨trivial, rfl⟩

/-- Advancing a class loads it. A class whose chain is refused is left alone, and so is the
    rest. A size that is no word is come upon only if the class has not been loaded. -/
theorem advance_outcome (sound : draft.image.registry.Sound) {id : ClassId}
    (inside : id < draft.image.registry.size) :
    Outcome (advance id draft)
      (fun _ after => (∃ order, draft.Raises order after) ∧
        after.image.registry.reached id .loaded = true)
      (fun failure after =>
        (failure = .panicked .sumOverflow ∧ draft.Outgrows after ∧
          draft.image.registry.reached id .loaded = false ∧ ¬ draft.image.registry.Settled) ∨
        ∃ error, draft.image.registry.chain id = .error error ∧ failure = .refused error ∧
          after = draft) := by
  cases chained : draft.image.registry.chain id with
  | error error =>
    simp only [advance, outcome_bind, outcome_registry, chained]
    exact .inr ⟨error, rfl, rfl, rfl⟩
  | ok path =>
    have ascent := (chain_eq_ok_iff sound.formed.lt_of_find? inside).mp chained
    by_cases loaded : draft.image.registry.reached id .loaded = true
    · rw [advance_of_loaded sound.formed loaded]
      exact ⟨⟨[], .none draft⟩, loaded⟩
    · simp only [advance, outcome_bind, outcome_registry, chained]
      apply (advanceAlong_outcome sound inside ascent).mono
      · exact fun _ _ given => given
      · rintro failure after ⟨overflow, outgrows⟩
        exact .inl ⟨overflow, outgrows, Bool.eq_false_iff.mpr loaded,
          fun settled => loaded (settled id path inside ascent)⟩

end Edit

end LateBinding
