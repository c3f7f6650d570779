import LateBinding.Proofs.DueHooks
import LateBinding.Proofs.Traversal

/-!
# Which sides have tables

Where tables are built early, a class has both of them as soon as it is loaded, and no edit makes
others. Where they are built late, only making a class ready for messages builds tables: those of
the class and of the classes above it, on both sides. So a class has tables on both sides or on
neither, and a side that has one inherits from a side that has one.

All other edits leave the tables that there are where they are. Rebuilding puts new ones in place
of old ones, and what a table is copied from is there already. This holds of edits that panic or
are refused as well, since they stop between one change and the next.
-/

namespace LateBinding

namespace Registry

/-- A class has tables on both sides or on neither. -/
def Paired (registry : Registry) : Prop :=
  ∀ id side other, (registry.table? ⟨id, side⟩).isSome = true →
    (registry.table? ⟨id, other⟩).isSome = true

/-- Every loaded class has both of its tables. -/
def Furnished (registry : Registry) : Prop :=
  ∀ id, registry.reached id .loaded = true → ∀ side, (registry.table? ⟨id, side⟩).isSome = true

variable {registry : Registry}

/-- The parent of a side belongs to the same class or to one above. -/
theorem linked_of_parent {ref above : SideRef} (leads : registry.parent? ref = some above) :
    Relation.ReflTransGen registry.LinkedTo ref.id above.id := by
  rcases parent?_cases leads with ⟨link, -⟩ | ⟨-, -, rfl⟩
  · exact .single link
  · exact .refl

/-- Tables are closed upwards on either side. -/
theorem Supported.above (supported : registry.Supported) {id above : ClassId} {side : Side}
    (linked : Relation.ReflTransGen registry.LinkedTo id above)
    (present : (registry.table? ⟨id, side⟩).isSome = true) :
    (registry.table? ⟨above, side⟩).isSome = true := by
  induction linked with
  | refl => exact present
  | @tail between above _ link inductionHypothesis =>
    have leads : registry.parent? ⟨between, side⟩ = some ⟨above, side⟩ := by
      rw [parent?, show (registry.entry between).superclass = some above from link]
    exact supported _ _ leads inductionHypothesis

/-- The classes above a class by its links are on the path of its names. -/
theorem Formed.mem_of_linked (formed : registry.Formed) {id above : ClassId} {path : List ClassId}
    (ascent : registry.Ascent id path) (linked : Relation.ReflTransGen registry.LinkedTo id above) :
    above ∈ path := by
  induction linked using Relation.ReflTransGen.head_induction_on generalizing path with
  | refl =>
    obtain ⟨rest, rfl⟩ := ascent.head
    exact List.mem_cons_self
  | head link _ inductionHypothesis =>
    obtain ⟨rest, rfl, further⟩ := formed.ascent_above link ascent
    exact List.mem_cons_of_mem _ (inductionHypothesis further)

end Registry

open Registry

/-- Where classes may have to wait, an image is in order if its registry and its selectors are. -/
theorem Image.Sound.lax [NameHash] {image : Image} (registry : image.registry.Sound)
    (selectors : image.selectors.Bounded) : image.Sound false :=
  ⟨registry, selectors, fun impossible => by cases impossible⟩

/-- An edit has not touched the configuration, nor the tables and whether classes are loaded. -/
structure Draft.Aloof [NameHash] (before after : Draft) : Prop where
  config : after.image.config = before.image.config
  loaded : ∀ id, after.image.registry.reached id .loaded = before.image.registry.reached id .loaded
  tables : ∀ ref, after.image.registry.table? ref = before.image.registry.table? ref

/-- An edit has left the image in order. If tables are built early, all loaded classes still have
    theirs. If they are built late, classes still have both or none, and only classes that were
    touched have got any. -/
structure Draft.Rises [NameHash] (touched : ClassId → Prop) (before after : Draft) : Prop
    extends Draft.Kept false before after where
  config : after.image.config = before.image.config
  furnished : before.image.config.eager = true → before.image.registry.Furnished →
    after.image.registry.Furnished
  paired : before.image.config.eager = false → before.image.registry.Paired →
    after.image.registry.Paired
  spared : before.image.config.eager = false → ∀ ref,
    (after.image.registry.table? ref).isSome = true →
      (before.image.registry.table? ref).isSome = true ∨ touched ref.id

namespace Draft

variable [NameHash] {before between after : Draft} {touched : ClassId → Prop}

/-- Nothing happens to tables where nothing happens. -/
theorem Aloof.refl (draft : Draft) : draft.Aloof draft := ⟨rfl, fun _ => rfl, fun _ => rfl⟩

/-- Two edits that do not touch tables do not touch them one after the other. -/
theorem Aloof.trans (first : before.Aloof between) (second : between.Aloof after) :
    before.Aloof after :=
  ⟨second.config.trans first.config, fun id => (second.loaded id).trans (first.loaded id),
    fun ref => (second.tables ref).trans (first.tables ref)⟩

namespace Rises

/-- Where nothing happens no table comes or goes. -/
theorem refl (sound : before.image.Sound false) : before.Rises touched before :=
  ⟨⟨sound, .refl _⟩, rfl, fun _ furnished => furnished, fun _ paired => paired,
    fun _ _ present => .inl present⟩

/-- What holds of two edits in a row holds of both together. -/
theorem trans (first : before.Rises touched between) (second : between.Rises touched after) :
    before.Rises touched after where
  toKept := first.toKept.trans second.toKept
  config := second.config.trans first.config
  furnished early given :=
    second.furnished (first.config ▸ early) (first.furnished early given)
  paired late given := second.paired (first.config ▸ late) (first.paired late given)
  spared late ref present :=
    (second.spared (first.config ▸ late) ref present).elim (first.spared late ref) .inr

/-- No class has been loaded, and no side has got a table that had none. -/
theorem of_kept (kept : before.Kept false after)
    (config : after.image.config = before.image.config)
    (loaded : ∀ id, after.image.registry.reached id .loaded = true →
      before.image.registry.reached id .loaded = true)
    (tables : ∀ ref, (after.image.registry.table? ref).isSome = true →
      (before.image.registry.table? ref).isSome = true) : before.Rises touched after where
  toKept := kept
  config := config
  furnished _ given id isLoaded side := kept.grows.tables _ (given id (loaded id isLoaded) side)
  paired _ given id side other present :=
    kept.grows.tables _ (given id side other (tables _ present))
  spared _ ref present := .inl (tables ref present)

/-- An edit that does not touch tables lets none come or go. -/
theorem of_aloof (kept : before.Kept false after) (aloof : before.Aloof after) :
    before.Rises touched after :=
  of_kept kept aloof.config (fun id given => (aloof.loaded id) ▸ given)
    fun ref given => (aloof.tables ref) ▸ given

end Rises

/-- A class that is loaded gets its tables at once or not yet. -/
theorem Raised.rises {id : ClassId} (raised : before.Raised id after)
    (sound : before.image.Sound false) : before.Rises touched after where
  toKept := raised.advanced.kept sound
  config := by rw [raised.image]
  furnished early given target loaded side := by
    rcases (raised.loaded_iff target).mp loaded with rfl | older
    · exact raised.built early side
    · exact raised.grows.tables _ (given target older side)
  paired late given target side other present := by
    rw [raised.spared late] at present ⊢
    exact given target side other present
  spared late ref present := .inl (raised.spared late ref ▸ present)

/-- Neither does raising classes. -/
theorem Raises.rises {ids : List ClassId} (raises : before.Raises ids after)
    (sound : before.image.Sound false) : before.Rises touched after := by
  induction raises with
  | none draft => exact .refl sound
  | first raised _ inductionHypothesis =>
    have first : Rises touched _ _ := raised.rises sound
    exact first.trans (inductionHypothesis first.sound)

/-- A class that is too large is not loaded and has no tables. -/
theorem Outgrows.rises (outgrows : before.Outgrows after) (sound : before.image.Sound false) :
    before.Rises touched after := by
  obtain ⟨ids, id, raised, raises, raisable, -, rfl⟩ := outgrows
  have risen : before.Rises touched raised := raises.rises sound
  obtain ⟨tied, grows⟩ := risen.sound.registry.tie raisable
  have loaded : ∀ other, (raised.tie id).image.registry.reached other .loaded =
      raised.image.registry.reached other .loaded :=
    raised.image.registry.field_modify id _ (·.stage.inst.reached .loaded) rfl
  have tables : ∀ ref, (raised.tie id).image.registry.table? ref =
      raised.image.registry.table? ref := fun ref =>
    raised.image.registry.field_modify id _ (·.table.get ref.side) rfl ref.id
  exact risen.trans (.of_aloof ⟨.lax tied risen.sound.selectors, grows⟩ ⟨rfl, loaded, tables⟩)

end Draft

namespace Edit

variable [NameHash] {draft : Draft} {touched : ClassId → Prop}

/-- Interning changes nothing but selectors. -/
theorem intern_aloof (signature : Signature) :
    Outcome (intern signature draft) (fun _ after => draft.Aloof after)
      (fun _ after => draft.Aloof after) := by
  simp only [intern, outcome_bind, outcome_get, outcome_set]
  cases (draft.image.selectors.intern signature).result with
  | ok selector => exact ⟨rfl, fun _ => rfl, fun _ => rfl⟩
  | error failure => exact ⟨rfl, fun _ => rfl, fun _ => rfl⟩

/-- Interning does not touch tables. -/
theorem internMethods_aloof (methods : List MethodDecl) :
    Outcome (internMethods methods draft) (fun _ after => draft.Aloof after)
      (fun _ after => draft.Aloof after) := by
  refine Outcome.imp (outcome_mapM (fun now => draft.Aloof now) (fun _ => True) ?_ methods draft
    (.refl draft)) fun _ _ given => given.2
  intro method now aloof
  simp only [outcome_bind, outcome_pure]
  exact intern_aloof method.signature |>.mono
    (fun _ _ further => ⟨trivial, aloof.trans further⟩) fun _ _ further => aloof.trans further

/-- A class that is added has no tables and is not loaded. -/
theorem insertClass_aloof (decl : ClassDecl) :
    Outcome (insertClass decl draft) (fun _ after => draft.Aloof after)
      (fun _ after => draft.Aloof after) := by
  simp only [insertClass, outcome_bind, outcome_registry]
  cases draft.image.registry.find? decl.name with
  | some id => exact ⟨rfl, fun _ => rfl, fun _ => rfl⟩
  | none =>
    simp only [outcome_bind]
    apply (internMethods_aloof decl.methods).imp
    intro methods first firstAloof
    apply (internMethods_aloof decl.classMethods).mono
    · intro classMethods second secondAloof
      let new := ClassEntry.declared decl.name decl.superclass decl.size ⟨methods, classMethods⟩
      have pushed : second.Aloof { second with
          image := { second.image with registry := second.image.registry.push new } } := by
        refine ⟨rfl, fun id => ?_, fun ref => ?_⟩
        · exact congrArg (·.reached .loaded)
            (second.image.registry.field_push (·.stage.inst) new rfl id)
        · exact second.image.registry.field_push (·.table.get ref.side) new rfl ref.id
      have whole := (firstAloof.trans secondAloof).trans pushed
      exact ⟨whole.config, whole.loaded, whole.tables⟩
    · exact fun _ _ secondAloof => firstAloof.trans secondAloof

/-- What an edit does to an image in order, whether it ends or not: it touches no class. -/
def Rising {α : Type} (change : Edit α) : Prop :=
  ∀ draft : Draft, draft.image.Sound false →
    Outcome (change draft) (fun _ after => draft.Rises (fun _ => False) after)
      (fun _ after => draft.Rises (fun _ => False) after)

namespace Rising

variable {α β : Type}

/-- Two edits in a row let tables come and go as both do. -/
theorem bind {first : Edit α} {next : α → Edit β} (begun : Rising first)
    (continued : ∀ value, Rising (next value)) : Rising (first >>= next) := by
  intro draft sound
  rw [outcome_bind]
  apply (begun draft sound).imp
  intro value between rises
  exact (continued value between rises.sound).mono (fun _ _ further => rises.trans further)
    fun _ _ further => rises.trans further

/-- A value lets none come or go. -/
theorem pure (value : α) : Rising (Pure.pure value : Edit α) := fun _ sound => .refl sound

/-- Neither does a report. -/
theorem report (level : Log.Level) (text : String) : Rising (report level text) :=
  fun _ sound => .of_aloof ⟨sound, .refl _⟩ ⟨rfl, fun _ => rfl, fun _ => rfl⟩

/-- So it is for an edit on each member of a list. -/
theorem forM {act : β → Edit PUnit} (turn : ∀ item, Rising (act item)) (items : List β) :
    Rising (items.forM act) := by
  induction items with
  | nil => exact .pure _
  | cons item rest inductionHypothesis => exact (turn item).bind fun _ => inductionHypothesis

/-- And for one that gives a value for each. -/
theorem mapM {act : β → Edit α} (turn : ∀ item, Rising (act item)) (items : List β) :
    Rising (items.mapM act) := by
  induction items with
  | nil => exact .pure _
  | cons item rest inductionHypothesis =>
    rw [List.mapM_cons]
    exact (turn item).bind fun _ => inductionHypothesis.bind fun _ => .pure _

end Rising

/-- Interning does not touch tables. -/
theorem intern_rising (signature : Signature) : Rising (intern signature) := by
  intro draft sound
  apply ((intern_outcome sound signature).and (intern_aloof signature)).mono
  · rintro _ after ⟨⟨-, kept, -⟩, aloof⟩
    exact .of_aloof kept aloof
  · rintro _ after ⟨⟨-, kept, -⟩, aloof⟩
    exact .of_aloof kept aloof

/-- A class that is added has none. -/
theorem insertClass_rising (decl : ClassDecl) : Rising (insertClass decl) := by
  intro draft sound
  apply ((insertClass_outcome sound decl).and (insertClass_aloof decl)).mono
  · rintro _ after ⟨kept, aloof⟩
    exact .of_aloof kept aloof
  · rintro _ after ⟨⟨kept, -⟩, aloof⟩
    exact .of_aloof kept aloof

/-- So it is with the classes of a module. -/
theorem insertNewClass_rising (decl : ClassDecl) : Rising (insertNewClass decl) := by
  intro draft sound
  have inserted := insertClass_rising decl draft sound
  unfold insertNewClass
  cases ended : insertClass decl draft with
  | ok id after =>
    rw [ended] at inserted
    exact inserted
  | error failure after =>
    rw [ended] at inserted
    split
    · rename_i impossible
      cases impossible
    · rename_i same
      cases same
      exact inserted
    · rename_i same
      cases same
      exact inserted

/-- Classes that can make progress are loaded, and get their tables if tables are built early. A
    size that is no word stops this between two classes. -/
theorem settle_rising : Rising settle := by
  intro draft sound
  apply (settle_outcome sound.registry).mono
  · rintro _ after ⟨⟨order, raises⟩, -⟩
    exact raises.rises sound
  · rintro _ after ⟨-, outgrows⟩
    exact outgrows.rises sound

/-- Registering a class settles, and nothing else touches tables. -/
theorem registerClass_rising (decl : ClassDecl) : Rising (registerClass decl) :=
  (insertClass_rising decl).bind fun _ => settle_rising.bind fun _ => .pure _

/-- Tables that are rebuilt are put in place of others. -/
theorem rebuild_refreshes (formed : draft.image.registry.Formed)
    (supported : draft.image.registry.Supported) (id : ClassId) :
    Outcome (rebuild id draft) (fun _ after => draft.Refreshed after) (fun _ _ => False) :=
  (forM_rebuildClass_refreshes formed supported _).imp fun _ _ given => given.1

/-- A class that has changed in what it declares is rebuilt with the classes below it, and no side
    gets a table that had none. -/
theorem redeclare_rises (sound : draft.image.Sound false) (id : ClassId)
    (change : ClassEntry → ClassEntry)
    (kept : change (draft.image.registry.entry id) = { draft.image.registry.entry id with
      methods := (change (draft.image.registry.entry id)).methods
      categories := (change (draft.image.registry.entry id)).categories })
    (issued : (change (draft.image.registry.entry id)).Issued) {changed : Draft}
    (image : changed.image =
      { draft.image with registry := draft.image.registry.modify id change }) :
    Outcome (rebuild id changed) (fun _ after => draft.Rises touched after)
      (fun _ _ => False) := by
  obtain ⟨formed, tabled, -⟩ := sound.registry.redeclare id change kept issued
  have registry : changed.image.registry = draft.image.registry.modify id change := by rw [image]
  have refreshes := @rebuild_refreshes _ changed (registry ▸ formed) (registry ▸ tabled.closed) id
  apply ((redeclare_outcome sound id change kept issued image).and refreshes).mono
  case weakenStopped => exact fun _ _ impossible => impossible.1
  rintro _ after ⟨⟨-, advanced⟩, refreshed⟩
  refine .of_kept (advanced.kept sound) (by rw [advanced.image]) (fun other loaded => ?_)
    fun ref present => ?_
  · have stages := draft.image.registry.field_modify id change ClassEntry.stage (by rw [kept]) other
    rw [reached_of_bare refreshed.bare, registry, reached, stage, stages] at loaded
    exact loaded
  · have tables :=
      draft.image.registry.field_modify id change ClassEntry.table (by rw [kept]) ref.id
    have older := refreshed.only ref present
    rw [registry, table?, tables] at older
    exact older

/-- Attaching a category rebuilds, and lets no table come or go. -/
theorem attach_rises (sound : draft.image.Sound false) (id : ClassId) {category : Category}
    (issued : category.Issued) :
    Outcome (attach id category draft) (fun _ after => draft.Rises touched after)
      (fun _ _ => False) := by
  simp only [attach, outcome_bind, outcome_modifyRegistry, outcome_report]
  apply (collectLoad_outcome _ _ _ _).imp
  rintro _ changed ⟨image, -⟩
  refine redeclare_rises sound id _ rfl ?_ image
  refine (sound.registry.formed.issued id).extend ?_ rfl rfl
  exact fun attached member => List.mem_singleton.mp member ▸ issued

/-- Parking one does not touch tables. -/
theorem park_rises (sound : draft.image.Sound false) {category : Category}
    (issued : category.Issued) :
    Outcome (park category draft) (fun _ after => draft.Rises touched after)
      (fun _ _ => False) :=
  Draft.Rises.of_kept ⟨.lax (sound.registry.park issued) sound.selectors,
    grows_of_classes rfl rfl⟩ rfl (fun _ loaded => loaded) fun _ present => present

/-- A category is attached or parked. -/
theorem insertCategory_rising (decl : CategoryDecl) : Rising (insertCategory decl) := by
  intro draft sound
  simp only [insertCategory, outcome_bind]
  apply ((internMethods_outcome sound decl.methods).and (internMethods_aloof _)).mono
  case weakenStopped =>
    rintro _ _ ⟨⟨-, kept, -⟩, aloof⟩
    exact .of_aloof kept aloof
  rintro methods first ⟨⟨methodsIssued, firstKept, -⟩, firstAloof⟩
  have firstRises : draft.Rises (fun _ => False) first := .of_aloof firstKept firstAloof
  apply ((internMethods_outcome firstKept.sound decl.classMethods).and (internMethods_aloof _)).mono
  case weakenStopped =>
    rintro _ _ ⟨⟨-, kept, -⟩, aloof⟩
    exact firstRises.trans (.of_aloof kept aloof)
  rintro classMethods second ⟨⟨classMethodsIssued, secondKept, -⟩, secondAloof⟩
  have secondRises := firstRises.trans (.of_aloof secondKept secondAloof)
  simp only [outcome_registry, outcome_modifyRegistry]
  let category : Category :=
    ⟨second.image.registry.categoryCount, decl.name, decl.className, ⟨methods, classMethods⟩⟩
  have issued : category.Issued := by
    intro side
    cases side
    · exact methodsIssued
    · exact classMethodsIssued
  let counted : Draft := { second with
    image := { second.image with registry := second.image.registry.countCategory } }
  have countedSound : counted.image.Sound false :=
    .lax secondKept.sound.registry.countCategory secondKept.sound.selectors
  have countedRises : draft.Rises (fun _ => False) counted := secondRises.trans
    (.of_kept ⟨countedSound, grows_of_classes rfl rfl⟩ rfl (fun _ loaded => loaded)
      fun _ present => present)
  have ended : ∀ {act : Edit Unit}, Outcome (act counted)
      (fun _ after => counted.Rises (fun _ => False) after) (fun _ _ => False) →
      Outcome ((do act; return category : Edit Category) counted)
        (fun _ after => draft.Rises (fun _ => False) after)
        (fun _ after => draft.Rises (fun _ => False) after) := by
    intro act outcome
    simp only [outcome_bind, outcome_pure]
    exact outcome.certain fun _ after further => countedRises.trans further
  -- Attached or waiting, the category gives no side a table that had none.
  cases second.image.registry.find? decl.className with
  | none => exact ended (park_rises countedSound issued)
  | some id =>
    dsimp only
    split
    · exact ended (attach_rises countedSound id issued)
    · exact ended (park_rises countedSound issued)

/-- A module is classes, categories, and settling. -/
theorem loadModule_rising (decl : ModuleDecl) : Rising (loadModule decl) := by
  refine Rising.bind (.forM (fun signature => (intern_rising signature).bind fun _ => .pure _) _)
    fun _ => Rising.bind (.mapM insertNewClass_rising _) fun inserted =>
      Rising.bind (.forM (fun category => (insertCategory_rising category).bind fun _ => .pure _) _)
        fun _ => settle_rising.bind fun _ => ?_
  have looks : Rising (MonadState.get : Edit Draft) := fun _ sound => .refl sound
  exact looks.bind fun _ => (Rising.report _ _).bind fun _ => .pure _

/-- Replacing a method rebuilds, and lets no table come or go. -/
theorem replaceMethod_rising (ref : SideRef) {selector : Selector} (imp : Imp)
    (fits : selector < SparseMap.capacity) : Rising (replaceMethod ref selector imp) := by
  intro draft sound
  simp only [replaceMethod, outcome_bind, outcome_registry, outcome_modifyRegistry]
  have issued := (sound.registry.formed.issued ref.id).replaceMethod ref.side imp fits
  apply (redeclare_rises sound ref.id _ rfl issued rfl).certain
  rintro _ after (rises : draft.Rises (fun _ => False) after)
  simp only [outcome_get, outcome_report, outcome_pure]
  exact ⟨⟨rises.sound, rises.grows⟩, rises.config, rises.furnished, rises.paired, rises.spared⟩

/-- Ensuring the table of a side builds tables of classes at or above its class at most. -/
theorem ensure_adds (formed : draft.image.registry.Formed) (ref : SideRef)
    (loaded : draft.image.registry.reached ref.id .loaded = true) :
    Outcome (ensure ref draft)
      (fun _ after => after.image.registry.bare = draft.image.registry.bare ∧
        ∀ other, (after.image.registry.table? other).isSome = true →
          (draft.image.registry.table? other).isSome = true ∨
            Relation.ReflTransGen draft.image.registry.LinkedTo ref.id other.id)
      (fun _ _ => False) := by
  induction ref using formed.parent_induction with
  | _ ref inductionHypothesis =>
    rw [ensure_eq formed, tableOr]
    simp only [outcome_bind, outcome_registry]
    cases draft.image.registry.table? ref with
    | some table => exact ⟨rfl, fun _ present => .inl present⟩
    | none =>
      simp only [outcome_bind, outcome_modifyRegistry, outcome_registry, outcome_report,
        outcome_pure]
      -- What the table is built on is of a class at or above this one.
      have below : Outcome (build ref draft)
          (fun _ between => between.image.registry.bare = draft.image.registry.bare ∧
            ∀ other, (between.image.registry.table? other).isSome = true →
              (draft.image.registry.table? other).isSome = true ∨
                Relation.ReflTransGen draft.image.registry.LinkedTo ref.id other.id)
          (fun _ _ => False) := by
        simp only [build, outcome_bind, outcome_registry]
        cases leads : draft.image.registry.parent? ref with
        | none =>
          obtain ⟨written, overlaid, -⟩ := overlaySide_spec formed ref .empty
          simp only [overlaid, outcome_ok, true_and]
          exact fun _ present => .inl present
        | some above =>
          simp only [outcome_bind]
          apply (inductionHypothesis above leads (formed.loaded_of_parent loaded leads)).imp
          rintro table between ⟨same, adds⟩
          obtain ⟨written, overlaid, -⟩ := overlaySide_spec (formed.of_bare same) ref table
          simp only [overlaid, outcome_ok]
          exact ⟨same, fun other present =>
            (adds other present).imp_right fun linked => (linked_of_parent leads).trans linked⟩
      apply below.imp
      rintro table between ⟨same, adds⟩
      have inside : ref.id < between.image.registry.size := by
        rw [size_of_bare same]
        exact lt_size_of_reached loaded
      refine ⟨(bare_publish _ _ _).trans same, fun other present => ?_⟩
      rw [table?_publish _ ref other table inside] at present
      split at present
      · rename_i here
        exact .inr (here ▸ .refl)
      · exact adds other present

/-- Making a class ready builds tables of the classes on its path at most, on both sides of each,
    and in the end it has both. If its chain is refused or a size is no word, no table is built
    late. -/
theorem readyTables_rises (sound : draft.image.Sound false) {target : ClassId}
    (inside : target < draft.image.registry.size)
    (covers : ∀ path, draft.image.registry.Ascent target path → ∀ id ∈ path, touched id) :
    Outcome (Act.readyTables target draft)
      (fun _ after => draft.Rises touched after ∧
        ∀ side, (after.image.registry.table? ⟨target, side⟩).isSome = true)
      (fun _ after => draft.Rises touched after) := by
  simp only [Act.readyTables, outcome_bind, outcome_pure]
  apply (advance_outcome sound.registry inside).mono
  case weakenStopped =>
    rintro _ after (⟨-, outgrows, -⟩ | ⟨error, -, -, rfl⟩)
    · exact outgrows.rises sound
    · exact .refl sound
  rintro _ first ⟨⟨order, raises⟩, loaded⟩
  have advanced := raises.advanced sound.registry
  have firstRises : draft.Rises touched first := raises.rises sound
  have formed := advanced.sound.formed
  apply ((ensure_outcome formed advanced.sound.tabled ⟨target, .inst⟩ loaded).and
    (ensure_adds formed ⟨target, .inst⟩ loaded)).mono
  case weakenStopped => exact fun _ _ impossible => impossible.1.elim
  rintro _ second ⟨⟨retabled, tabled, present⟩, -, adds⟩
  have secondAdvanced := Draft.Advanced.of_retabled advanced.sound retabled tabled
  have stillLoaded := secondAdvanced.grows.reached loaded
  apply ((ensure_outcome secondAdvanced.sound.formed tabled ⟨target, .metaclass⟩ stillLoaded).and
    (ensure_adds secondAdvanced.sound.formed ⟨target, .metaclass⟩ stillLoaded)).mono
  case weakenStopped => exact fun _ _ impossible => impossible.1.elim
  rintro _ third ⟨⟨retabledAgain, tabledAgain, presentAgain⟩, -, addsAgain⟩
  have thirdAdvanced := Draft.Advanced.of_retabled secondAdvanced.sound retabledAgain tabledAgain
  have whole := retabled.trans retabledAgain
  have sameLinks : second.image.registry.LinkedTo = first.image.registry.LinkedTo := by
    funext id above
    rw [LinkedTo, field_of_bare retabled.bare ClassEntry.superclass (fun _ => rfl), LinkedTo]
  have both : ∀ side, (third.image.registry.table? ⟨target, side⟩).isSome = true := by
    intro side
    cases side
    · exact retabledAgain.tables _ (by rw [present]; rfl)
    · rw [presentAgain]
      rfl
  -- A table that is there now was there before, or is of a class at or above this one.
  have either : ∀ ref, (third.image.registry.table? ref).isSome = true →
      (first.image.registry.table? ref).isSome = true ∨
        Relation.ReflTransGen first.image.registry.LinkedTo target ref.id := by
    intro ref there
    rcases addsAgain ref there with older | linked
    · exact adds ref older
    · exact .inr (sameLinks ▸ linked)
  have built : first.Rises touched third := by
    refine ⟨(secondAdvanced.trans thirdAdvanced).kept firstRises.sound, by rw [whole.image],
      ?_, ?_, ?_⟩
    · intro _ given id isLoaded side
      rw [reached_of_bare whole.bare] at isLoaded
      exact whole.tables _ (given id isLoaded side)
    · intro _ given id side other there
      rcases either _ there with older | linked
      · exact whole.tables _ (given id side other older)
      · have supported : third.image.registry.Supported := tabledAgain.closed
        have thirdLinks : third.image.registry.LinkedTo = first.image.registry.LinkedTo := by
          funext id above
          rw [LinkedTo, field_of_bare whole.bare ClassEntry.superclass (fun _ => rfl), LinkedTo]
        exact supported.above (thirdLinks ▸ linked) (both other)
    · intro _ ref there
      refine (either ref there).imp_right fun linked => ?_
      obtain ⟨-, -, path, ascent⟩ := formed.linked target (stage_ne_registered_of_reached loaded)
      refine covers path ?_ ref.id (formed.mem_of_linked ascent linked)
      exact (advanced.grows.ascent_iff sound.registry.formed formed advanced.size inside).mp ascent
  exact ⟨firstRises.trans built, both⟩

end Edit

end LateBinding
