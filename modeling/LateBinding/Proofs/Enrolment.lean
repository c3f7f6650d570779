import LateBinding.Proofs.Inventory

/-!
# What an edit enrols

An edit interns signatures and adds classes, in the order in which they are declared. All else
that it does leaves the selectors of the image as they are, and the classes under their numbers
and names. An edit that fails has done so for a first part of what it would have taken in. This
holds of every edit, whatever state the image is in and however the edit ends.

What is kept of a class for good is its card: the name, the superclass and the size that it was
declared with. A class whose name is taken is left out of a module before any of its signatures
is interned, and a module that declares a name twice declares it once as far as an image can
tell.
-/

namespace LateBinding

/-- What a class declares that never changes. -/
def ClassEntry.card (entry : ClassEntry) : String × Option String × Nat :=
  (entry.name, entry.superName, entry.declaredSize)

/-- The card of a class that is declared so. -/
def ClassDecl.card (decl : ClassDecl) : String × Option String × Nat :=
  (decl.name, decl.superclass, decl.size)

namespace Registry

/-- The cards of all classes, in the order of their numbers. -/
def cards (registry : Registry) : List (String × Option String × Nat) :=
  registry.column ClassEntry.card

/-- The classes are the same, under the same numbers and names. -/
structure Preserves (before after : Registry) : Prop where
  cards : after.cards = before.cards
  found : ∀ name, after.find? name = before.find? name

variable {registry before after : Registry}

/-- There is a card for each class. -/
theorem length_cards : registry.cards.length = registry.size := registry.length_column _

/-- The cards bear the names of the classes, in the order of registration. -/
theorem map_fst_cards : registry.cards.map Prod.fst = registry.names := by
  rw [cards, column, List.map_map]
  rfl

/-- A class keeps its card when others are added at the end. -/
theorem card_of_extends (extended : before.cards <+: after.cards) {id : ClassId}
    (inside : id < before.size) :
    id < after.size ∧ (after.entry id).card = (before.entry id).card := by
  have size := extended.length_le
  rw [length_cards, length_cards] at size
  have within : id < after.size := Nat.lt_of_lt_of_le inside size
  have shown : after.cards[id]? = before.cards[id]? :=
    (List.prefix_iff_getElem?.mp extended id (by rwa [length_cards])).trans
      (List.getElem?_eq_getElem (by rwa [length_cards])).symm
  have here := before.getElem?_column ClassEntry.card inside
  rw [← cards, ← shown, cards, after.getElem?_column ClassEntry.card within] at here
  exact ⟨within, Option.some.inj here⟩

/-- Registries with the same cards have as many classes. -/
theorem size_of_cards (same : after.cards = before.cards) : after.size = before.size := by
  rw [← length_cards, same, length_cards]

/-- They have the same card under each number. -/
theorem card_of_cards (same : after.cards = before.cards) (id : ClassId) :
    (after.entry id).card = (before.entry id).card := by
  by_cases inside : id < before.size
  · exact (card_of_extends (by rw [same]) inside).2
  · have outside := Nat.le_of_not_lt inside
    rw [entry_of_size_le _ outside, entry_of_size_le _ (size_of_cards same ▸ outside)]

namespace Preserves

/-- A registry preserves itself. -/
theorem refl (registry : Registry) : registry.Preserves registry := ⟨rfl, fun _ => rfl⟩

/-- One change after another preserves what both do. -/
theorem trans {between : Registry} (first : before.Preserves between)
    (second : between.Preserves after) : before.Preserves after :=
  ⟨second.cards.trans first.cards, fun name => (second.found name).trans (first.found name)⟩

/-- Classes that stay the same can be found as before. -/
theorem indexed (preserves : before.Preserves after) (indexed : before.Indexed) :
    after.Indexed := by
  intro name id
  have same : (after.entry id).name = (before.entry id).name :=
    congrArg Prod.fst (card_of_cards preserves.cards id)
  rw [preserves.found, indexed name id, size_of_cards preserves.cards, same]

/-- A change of one class that leaves its card alone. -/
theorem modify (id : ClassId) {change : ClassEntry → ClassEntry}
    (kept : ∀ entry, (change entry).card = entry.card) :
    registry.Preserves (registry.modify id change) where
  cards := by
    rw [Registry.cards, column, size_modify]
    exact List.map_congr_left fun other _ =>
      registry.field_modify id change ClassEntry.card (kept _) other
  found name := registry.find?_modify id change name

/-- Listing a class under its superclass changes no card. -/
theorem addSubclass (superclass : Option ClassId) (id : ClassId) :
    registry.Preserves (registry.addSubclass superclass id) := by
  cases superclass with
  | none => exact .refl registry
  | some above => exact .modify above fun _ => rfl

/-- A link is not on the card. -/
theorem tie (id : ClassId) : registry.Preserves (registry.tie id) := .modify id fun _ => rfl

/-- Neither is anything else that linking changes. -/
theorem link (id : ClassId) : registry.Preserves (registry.link id) := by
  have linked : registry.Preserves (registry.modify id fun entry =>
      { entry.advance .setUp with
        superclass := registry.declaredSuper? id
        size := registry.fullSize id }) := .modify id fun _ => rfl
  exact linked.trans (.addSubclass _ id)

/-- Attaching the categories that waited changes no card. -/
theorem absorb (id : ClassId) : registry.Preserves (registry.absorb id) := by
  have joined : registry.Preserves (registry.modify id fun entry =>
      { entry.advance .loaded with
        categories := entry.categories ++ registry.parkedFor (registry.entry id).name }) :=
    .modify id fun _ => rfl
  exact ⟨joined.cards, joined.found⟩

end Preserves

end Registry

/-- An edit has taken in what arrived as far as signatures and classes are concerned. -/
structure Draft.Enrols [NameHash] (before : Draft) (arrivals : List Arrival)
    (after : Draft) : Prop where
  selectors : after.image.selectors = arrivals.foldl Arrival.enter before.image.selectors
  cards : after.image.registry.cards = before.image.registry.cards ++
    (arrivals.filterMap Arrival.class?).map ClassDecl.card
  indexed : before.image.registry.Indexed → after.image.registry.Indexed

/-- An edit has ended and taken in what arrives, or failed in one of certain ways and taken in a
    first part of it. -/
def Draft.Enrolled [NameHash] {α : Type} (draft : Draft) (arrivals : List Arrival)
    (fails : Failure → Prop) (result : EStateM.Result Failure Draft α) : Prop :=
  Outcome result (fun _ after => draft.Enrols arrivals after)
    (fun failure after => fails failure ∧ ∃ part, part <+: arrivals ∧ draft.Enrols part after)

namespace Draft

variable [NameHash] {α β : Type} {draft before between after : Draft}
  {arrivals others : List Arrival} {fails : Failure → Prop}

/-- An edit that interns nothing and keeps the classes. -/
theorem Enrols.of_preserves (selectors : after.image.selectors = before.image.selectors)
    (preserves : before.image.registry.Preserves after.image.registry) : before.Enrols [] after :=
  ⟨selectors, preserves.cards.trans (List.append_nil _).symm, preserves.indexed⟩

/-- Where nothing is done nothing is enrolled. -/
theorem Enrols.refl (draft : Draft) : draft.Enrols [] draft := .of_preserves rfl (.refl _)

/-- What is enrolled one after the other is enrolled together, in that order. -/
theorem Enrols.trans (first : before.Enrols arrivals between)
    (second : between.Enrols others after) : before.Enrols (arrivals ++ others) after where
  selectors := by rw [second.selectors, first.selectors, List.foldl_append]
  cards := by
    rw [second.cards, first.cards, List.filterMap_append, List.map_append, List.append_assoc]
  indexed given := second.indexed (first.indexed given)

/-- Classes are added at the end only. -/
theorem Enrols.extends (enrols : before.Enrols arrivals after) :
    before.image.registry.cards <+: after.image.registry.cards :=
  ⟨_, enrols.cards.symm⟩

/-- The names of the classes are those that were there and those that have arrived. -/
theorem Enrols.names (enrols : before.Enrols arrivals after) :
    after.image.registry.names =
      before.image.registry.names ++ (arrivals.filterMap Arrival.class?).map ClassDecl.name := by
  rw [← Registry.map_fst_cards, enrols.cards, List.map_append, Registry.map_fst_cards,
    List.map_map]
  rfl

/-- More failures may be allowed for. -/
theorem Enrolled.mono {result : EStateM.Result Failure Draft α} {weaker : Failure → Prop}
    (enrolled : draft.Enrolled arrivals fails result)
    (weaken : ∀ failure, fails failure → weaker failure) :
    draft.Enrolled arrivals weaker result :=
  Outcome.mono enrolled (fun _ _ given => given) fun _ _ given => ⟨weaken _ given.1, given.2⟩

/-- What comes second is taken in after what came first. -/
theorem Enrolled.bind {first : Edit α} {next : α → Edit β}
    (begun : draft.Enrolled arrivals fails (first draft))
    (further : ∀ value between, draft.Enrols arrivals between →
      between.Enrolled others fails (next value between)) :
    draft.Enrolled (arrivals ++ others) fails ((first >>= next) draft) := by
  rw [Enrolled, outcome_bind]
  apply Outcome.mono begun
  · intro value between enrols
    apply Outcome.mono (further value between enrols)
    · exact fun _ after again => enrols.trans again
    · rintro failure after ⟨failed, part, within, again⟩
      exact ⟨failed, arrivals ++ part, (List.prefix_append_right_inj _).mpr within,
        enrols.trans again⟩
  · rintro failure after ⟨failed, part, within, enrols⟩
    exact ⟨failed, part, within.trans (List.prefix_append _ _), enrols⟩

end Draft

namespace Edit

variable [NameHash] {α β : Type} {arrivals others : List Arrival} {fails : Failure → Prop}

/-- Whatever the draft, an edit takes in these arrivals. -/
def Enrols (arrivals : List Arrival) (fails : Failure → Prop) (change : Edit α) : Prop :=
  ∀ draft : Draft, draft.Enrolled arrivals fails (change draft)

namespace Enrols

/-- More failures may be allowed for. -/
theorem mono {change : Edit α} {weaker : Failure → Prop} (enrols : Enrols arrivals fails change)
    (weaken : ∀ failure, fails failure → weaker failure) : Enrols arrivals weaker change :=
  fun draft => (enrols draft).mono weaken

/-- An edit and another one after it enrol what both do, in that order. -/
theorem bind {first : Edit α} {next : α → Edit β} (begun : Enrols arrivals fails first)
    (further : ∀ value, Enrols others fails (next value)) :
    Enrols (arrivals ++ others) fails (first >>= next) :=
  fun draft => (begun draft).bind fun value between _ => further value between

/-- What takes nothing in may come first. -/
theorem before {first : Edit α} {next : α → Edit β} (begun : Enrols [] fails first)
    (further : ∀ value, Enrols arrivals fails (next value)) :
    Enrols arrivals fails (first >>= next) :=
  begun.bind further

/-- What takes nothing in may come last. -/
theorem after {first : Edit α} {next : α → Edit β} (begun : Enrols arrivals fails first)
    (further : ∀ value, Enrols [] fails (next value)) :
    Enrols arrivals fails (first >>= next) := by
  rw [← List.append_nil arrivals]
  exact begun.bind further

/-- A value enrols nothing. -/
theorem pure (value : α) : Enrols [] fails (Pure.pure value : Edit α) := fun draft => .refl draft

/-- A failure that is allowed for enrols nothing. -/
theorem throw {failure : Failure} (failed : fails failure) :
    Enrols [] fails (throw failure : Edit α) :=
  fun draft => ⟨failed, [], List.prefix_rfl, .refl draft⟩

/-- Looking at the draft enrols nothing. -/
theorem get : Enrols [] fails (MonadState.get : Edit Draft) := fun draft => .refl draft

/-- Neither does looking at the registry. -/
theorem registry : Enrols [] fails registry := fun draft => .refl draft

/-- A report enrols nothing. -/
theorem report (level : Log.Level) (text : String) : Enrols [] fails (report level text) :=
  fun _ => .of_preserves rfl (.refl _)

/-- A hook enrols nothing. -/
theorem collect (hook : LoadHook) : Enrols [] fails (collect hook) :=
  fun _ => .of_preserves rfl (.refl _)

/-- A change of the registry that preserves every registry enrols nothing. -/
theorem modifyRegistry {change : Registry → Registry}
    (preserves : ∀ registry : Registry, registry.Preserves (change registry)) :
    Enrols [] fails (modifyRegistry change) :=
  fun _ => .of_preserves rfl (preserves _)

/-- Changing what is not on the card of a class. -/
theorem modify (id : ClassId) {change : ClassEntry → ClassEntry}
    (kept : ∀ entry, (change entry).card = entry.card) :
    Enrols [] fails (Edit.modifyRegistry (·.modify id change)) :=
  modifyRegistry fun _ => .modify id kept

/-- Edits for the members of a list enrol what each of them does, in the order of the list. -/
theorem forM {act : β → Edit PUnit} {arrivals : β → List Arrival}
    (enrols : ∀ item, Enrols (arrivals item) fails (act item)) (items : List β) :
    Enrols (items.flatMap arrivals) fails (items.forM act) := by
  induction items with
  | nil => exact .pure _
  | cons item rest inductionHypothesis => exact (enrols item).bind fun _ => inductionHypothesis

/-- A loop whose turns take nothing in. -/
theorem forM_nil {act : β → Edit PUnit} (stays : ∀ item, Enrols [] fails (act item))
    (items : List β) : Enrols [] fails (items.forM act) := by
  have looped := forM stays items
  rwa [List.flatMap_eq_nil_iff.mpr fun _ _ => rfl] at looped

/-- So do edits that give a value for each member. -/
theorem mapM {act : β → Edit α} {arrivals : β → List Arrival}
    (enrols : ∀ item, Enrols (arrivals item) fails (act item)) (items : List β) :
    Enrols (items.flatMap arrivals) fails (items.mapM act) := by
  induction items with
  | nil => exact .pure _
  | cons item rest inductionHypothesis =>
    rw [List.mapM_cons]
    exact (enrols item).bind fun _ => inductionHypothesis.after fun _ => .pure _

/-- Edits that enrol nothing enrol nothing one after the other. -/
theorem foldlM {act : α → β → Edit α} (stays : ∀ value item, Enrols [] fails (act value item))
    (items : List β) (value : α) : Enrols [] fails (items.foldlM act value) := by
  induction items generalizing value with
  | nil => exact .pure _
  | cons item rest inductionHypothesis =>
    rw [List.foldlM_cons]
    exact (stays value item).before inductionHypothesis

end Enrols

end Edit

namespace Failure

/-- A selector does not fit into a table. -/
def Unkeyed (failure : Failure) : Prop := ∃ key, failure = .refused (.keyOutOfRange key)

/-- A table could not be built, or a size is no word. -/
def Unsettled (failure : Failure) : Prop := failure.Unkeyed ∨ failure = .panicked .sumOverflow

end Failure

/-- The only error of setting a key is that it is out of range, and it names the key. -/
theorem SparseMap.set_eq_error {α : Type} {map : SparseMap α} {key : Nat} {value : α}
    {error : Error} (failed : map.set key value = .error error) : error = .keyOutOfRange key := by
  unfold set at failed
  split at failed
  · cases failed
    rfl
  · cases failed

/-- The classes that arrive with a number of class declarations are those. -/
theorem ClassDecl.class?_flatMap_arrivals (classes : List ClassDecl) :
    (classes.flatMap ClassDecl.arrivals).filterMap Arrival.class? = classes := by
  rw [List.filterMap_flatMap, funext ClassDecl.class?_arrivals, List.flatMap_singleton']

/-- The classes that arrive with a module are those whose names are new. -/
theorem ModuleDecl.class?_arrivals (decl : ModuleDecl) (names : List String) :
    (decl.arrivals names).filterMap Arrival.class? = ClassDecl.fresh names decl.classes := by
  rw [arrivals, List.filterMap_append, List.filterMap_append, ClassDecl.class?_flatMap_arrivals,
    List.filterMap_flatMap, funext CategoryDecl.class?_arrivals,
    Arrival.filterMap_signature fun _ => rfl, List.nil_append,
    List.flatMap_eq_nil_iff.mpr fun _ _ => rfl, List.append_nil]

/-- Whether a class can be registered depends on those before it. -/
theorem ClassDecl.fresh_cons (names : List String) (decl : ClassDecl) (rest : List ClassDecl) :
    fresh names (decl :: rest) =
      fresh names [decl] ++ fresh (names ++ (fresh names [decl]).map ClassDecl.name) rest := by
  by_cases present : decl.name ∈ names
  · simp [fresh, present]
  · simp [fresh, present]

namespace Edit

variable [NameHash]

open Failure Registry

/-- Laying methods over a table enrols nothing. It can fail at a key. -/
theorem overlay_stays (table : DispatchTable) (methods : List Method) :
    Enrols [] Unkeyed (overlay table methods) := by
  refine .foldlM (fun table method => ?_) methods table
  cases written : table.set method.selector method.imp with
  | ok given => exact .pure _
  | error error => exact .throw ⟨_, congrArg _ (SparseMap.set_eq_error written)⟩

/-- So it is with all methods of a side. -/
theorem overlaySide_stays (table : DispatchTable) (ref : SideRef) :
    Enrols [] Unkeyed (overlaySide table ref) :=
  Enrols.registry.before fun _ => overlay_stays table _

/-- Publishing a table enrols nothing. -/
theorem publish_stays (ref : SideRef) (table : DispatchTable) {fails : Failure → Prop} :
    Enrols [] fails (modifyRegistry (·.publish ref table)) :=
  .modify ref.id fun _ => rfl

/-- Building tables along a line of sides enrols nothing. -/
theorem ensureAlong_stays (line : List SideRef) : Enrols [] Unkeyed (ensureAlong line) := by
  induction line with
  | nil => exact .pure _
  | cons ref above inductionHypothesis =>
    refine Enrols.registry.before fun registry => ?_
    split
    · exact .pure _
    · refine inductionHypothesis.before fun built => ?_
      refine (overlaySide_stays built ref).before fun table => ?_
      refine (publish_stays ref table).before fun _ => Enrols.registry.before fun _ => ?_
      exact (Enrols.report _ _).before fun _ => .pure _

/-- Making sure of a table enrols nothing. -/
theorem ensure_stays (ref : SideRef) : Enrols [] Unkeyed (ensure ref) :=
  Enrols.registry.before fun _ => ensureAlong_stays _

/-- Building a table enrols nothing. -/
theorem build_stays (ref : SideRef) : Enrols [] Unkeyed (build ref) := by
  refine Enrols.registry.before fun registry => ?_
  split
  · exact (ensure_stays _).before fun _ => overlaySide_stays _ ref
  · exact overlaySide_stays _ ref

/-- Rebuilding the table of a side enrols nothing. -/
theorem rebuildSide_stays (ref : SideRef) : Enrols [] Unkeyed (rebuildSide ref) := by
  refine Enrols.registry.before fun registry => ?_
  split
  · exact (build_stays ref).before fun table => publish_stays ref table
  · exact .pure _

/-- Rebuilding the tables of a class and of all below it enrols nothing. -/
theorem rebuild_stays (id : ClassId) : Enrols [] Unkeyed (rebuild id) := by
  refine Enrols.registry.before fun _ => .forM_nil (fun below => ?_) _
  refine (rebuildSide_stays ⟨below, .inst⟩).before fun _ => ?_
  refine (rebuildSide_stays ⟨below, .metaclass⟩).before fun _ => ?_
  exact Enrols.registry.before fun _ => .report _ _

/-- Setting a class up enrols nothing. It can fail at the sum of its size. -/
theorem setUp_stays (id : ClassId) : Enrols [] (· = .panicked .sumOverflow) (setUp id) := by
  refine Enrols.registry.before fun before => ?_
  split
  · exact .pure _
  · split
    · exact (Enrols.modifyRegistry fun _ => .tie id).before fun _ => .throw rfl
    · exact (Enrols.modifyRegistry fun _ => .link id).before fun _ => .report _ _

/-- Collecting a `load` enrols nothing. -/
theorem collectLoad_stays {fails : Failure → Prop} (receiver : ClassId) (category : Option Nat)
    (owner : String) (methods : List Method) :
    Enrols [] fails (collectLoad receiver category owner methods) := by
  refine Enrols.get.before fun draft => ?_
  split
  · exact .collect _
  · exact .pure _

/-- The report of categories that are merged enrols nothing. -/
theorem reportMerging_stays {fails : Failure → Prop} (waiting : List Category) (name : String) :
    Enrols [] fails (reportMerging waiting name) := by
  unfold reportMerging
  split
  · exact .pure _
  · exact .report _ _

/-- Early tables enrol nothing. -/
theorem ensureEarly_stays (id : ClassId) : Enrols [] Unkeyed (ensureEarly id) := by
  refine Enrols.get.before fun draft => ?_
  split
  · exact (ensure_stays _).before fun _ => (ensure_stays _).before fun _ => .pure _
  · exact .pure _

/-- Loading a class enrols nothing. -/
theorem load_stays (id : ClassId) : Enrols [] Unkeyed (load id) := by
  refine Enrols.registry.before fun before => ?_
  split
  · exact .pure _
  · refine (reportMerging_stays _ _).before fun _ => (collectLoad_stays _ _ _ _).before fun _ => ?_
    refine (Enrols.forM_nil (fun category => collectLoad_stays _ _ _ _) _).before fun _ => ?_
    refine (Enrols.modifyRegistry fun _ => .absorb id).before fun _ => ?_
    exact (Enrols.report _ _).before fun _ => ensureEarly_stays id

/-- Advancing the classes of a chain enrols nothing. -/
theorem advanceAlong_stays (chain : List ClassId) : Enrols [] Unsettled (advanceAlong chain) :=
  .forM_nil (fun id => ((setUp_stays id).mono fun _ => .inr).before fun _ =>
    (load_stays id).mono fun _ => .inl) _

/-- Settling enrols nothing. -/
theorem settle_stays : Enrols [] Unsettled settle := by
  refine Enrols.registry.before fun registry => .forM_nil (fun id => ?_) _
  refine Enrols.registry.before fun before => ?_
  split
  · exact .pure _
  · split
    · exact advanceAlong_stays _
    · exact .pure _

/-- Advancing a class enrols nothing, whatever it fails with. -/
theorem advance_stays (id : ClassId) : Enrols [] (fun _ => True) (advance id) := by
  refine Enrols.registry.before fun registry => ?_
  split
  · exact (advanceAlong_stays _).mono fun _ _ => trivial
  · exact .throw trivial

/-- Interning enters a signature, whether it is given a selector or not. -/
theorem intern_enrols (signature : Signature) :
    Enrols [.signature signature] Exhausted (intern signature) := by
  intro draft
  simp only [Draft.Enrolled, intern, outcome_bind, outcome_get, outcome_set]
  have entered : draft.Enrols [.signature signature] { draft with
      image := { draft.image with
        selectors := (draft.image.selectors.intern signature).table }
      reports := draft.reports ++
        Image.growthMessages (draft.image.selectors.intern signature) } :=
    ⟨rfl, (List.append_nil _).symm, fun indexed => indexed⟩
  cases result : (draft.image.selectors.intern signature).result with
  | ok selector => exact entered
  | error failure => exact ⟨SelectorTable.intern_eq_error result, _, List.prefix_rfl, entered⟩

/-- Interning the methods of a declaration enrols their signatures, in order. -/
theorem internMethods_enrols (methods : List MethodDecl) :
    Enrols ((methods.map MethodDecl.signature).map .signature) Exhausted
      (internMethods methods) := by
  unfold internMethods
  rw [List.map_map, List.map_eq_flatMap]
  refine Enrols.mapM (fun method => ?_) methods
  exact (intern_enrols method.signature).after fun _ => .pure _

variable {draft : Draft} {fails : Failure → Prop}

/-- What goes on with the methods of both sides goes on after their signatures. -/
theorem internSides_enrols (decls : BySide (List MethodDecl)) {α : Type}
    {next : List Method → List Method → Edit α} {others : List Arrival}
    (weaken : ∀ failure, Exhausted failure → fails failure)
    (further : ∀ methods classMethods between,
      draft.Enrols (Arrival.signatures decls) between →
      between.Enrolled others fails (next methods classMethods between)) :
    draft.Enrolled (Arrival.signatures decls ++ others) fails
      ((do
        next (← internMethods decls.inst) (← internMethods decls.metaclass) : Edit α) draft) := by
  simp only [Arrival.signatures, List.map_append, List.append_assoc] at further ⊢
  apply ((internMethods_enrols decls.inst).mono weaken draft).bind
  intro methods between first
  apply ((internMethods_enrols decls.metaclass).mono weaken between).bind
  intro classMethods after second
  exact further methods classMethods after (first.trans second)

/-- A class under a name that is not taken is added after its signatures. -/
theorem insertClass_enrols (indexed : draft.image.registry.Indexed) {decl : ClassDecl}
    (fresh : decl.name ∉ draft.image.registry.names) :
    draft.Enrolled decl.arrivals Exhausted (insertClass decl draft) := by
  have absent := (indexed.find?_eq_none_iff decl.name).mpr fresh
  rw [Draft.Enrolled, insertClass, outcome_bind, outcome_registry, absent]
  refine internSides_enrols decl.sides (fun _ given => given) ?_
  intro methods classMethods between signed
  have names : between.image.registry.names = draft.image.registry.names := by
    rw [signed.names, Arrival.signatures, Arrival.filterMap_signature fun _ => rfl, List.map_nil,
      List.append_nil]
  have still : between.image.registry.find? decl.name = none :=
    ((signed.indexed indexed).find?_eq_none_iff decl.name).mpr (names ▸ fresh)
  refine ⟨rfl, between.image.registry.column_push ClassEntry.card _, fun again => ?_⟩
  exact again.push still

/-- Neither signatures nor classes arrive with a category as such. -/
theorem Enrols.newCategory {α : Type} {change : Edit α} (stays : Enrols [] fails change)
    (decl : CategoryDecl) : Enrols [.newCategory decl] fails change := by
  intro draft
  apply Outcome.mono (stays draft)
  · exact fun _ after enrols => ⟨enrols.selectors, enrols.cards, enrols.indexed⟩
  · rintro failure after ⟨failed, part, within, enrols⟩
    exact ⟨failed, part, within.trans List.nil_prefix, enrols⟩

/-- A category that is parked has been enrolled with its methods already. -/
theorem park_stays (category : Category) : Enrols [] fails (park category) :=
  (Enrols.modifyRegistry fun _ => ⟨rfl, fun _ => rfl⟩ :
    Enrols [] fails (modifyRegistry (·.park category))).before fun _ => .report _ _

/-- So has one that is attached. -/
theorem attach_stays (id : ClassId) (category : Category) :
    Enrols [] Unkeyed (attach id category) :=
  (Enrols.modify id fun _ => rfl : Enrols [] Unkeyed (modifyRegistry (·.attach id category))).before
    fun _ => (Enrols.report _ _).before fun _ => (collectLoad_stays _ _ _ _).before fun _ =>
      rebuild_stays id

/-- A category is registered after its signatures. -/
theorem insertCategory_enrols (decl : CategoryDecl) :
    Enrols decl.arrivals (fun failure => failure.Exhausted ∨ failure.Unkeyed)
      (insertCategory decl) := by
  intro draft
  refine internSides_enrols decl.sides (fun _ => .inl) ?_
  intro methods classMethods between _
  refine Enrols.newCategory ?_ decl between
  refine Enrols.registry.before fun registry => ?_
  refine Enrols.before (.modifyRegistry fun _ => ⟨rfl, fun _ => rfl⟩) fun _ => ?_
  split
  · split
    · exact ((attach_stays _ _).mono fun _ => .inr).before fun _ => .pure _
    · exact (park_stays _).before fun _ => .pure _
  · exact (park_stays _).before fun _ => .pure _

/-- Replacing a method takes in neither signatures nor classes. -/
theorem replaceMethod_stays (ref : SideRef) (selector : Selector) (imp : Imp) :
    Enrols [] Unkeyed (replaceMethod ref selector imp) :=
  Enrols.registry.before fun _ =>
    (Enrols.modify ref.id fun _ => rfl :
      Enrols [] Unkeyed (modifyRegistry (·.replaceMethod ref selector imp))).before fun _ =>
      (rebuild_stays ref.id).before fun _ => Enrols.get.before fun _ =>
        (Enrols.report _ _).before fun _ => .pure _

/-- Preparing the tables of a class enrols nothing. -/
theorem readyTables_stays (id : ClassId) : Enrols [] (fun _ => True) (Act.readyTables id) :=
  (advance_stays id).before fun _ => ((ensure_stays _).mono fun _ _ => trivial).before fun _ =>
    ((ensure_stays _).mono fun _ _ => trivial).before fun _ => .pure _

/-- A class of a module is added if its name is not taken, and left out before any of its
    signatures is interned if it is. -/
theorem insertNewClass_enrols (indexed : draft.image.registry.Indexed) (decl : ClassDecl) :
    draft.Enrolled ((ClassDecl.fresh draft.image.registry.names [decl]).flatMap ClassDecl.arrivals)
      Exhausted (insertNewClass decl draft) := by
  by_cases present : decl.name ∈ draft.image.registry.names
  · have taken : draft.image.registry.find? decl.name ≠ none := fun absent =>
      (indexed.find?_eq_none_iff decl.name).mp absent present
    rw [ClassDecl.fresh, if_pos present, insertNewClass, insertClass_taken taken]
    exact .of_preserves rfl (.refl _)
  · have inserted := insertClass_enrols indexed present
    rw [ClassDecl.fresh, if_neg present, List.flatMap_cons, ClassDecl.fresh, List.flatMap_nil,
      List.append_nil, insertNewClass]
    cases ended : insertClass decl draft with
    | ok id after =>
      rw [ended] at inserted
      exact inserted
    | error failure after =>
      rw [ended] at inserted
      obtain ⟨rfl | rfl, part⟩ := inserted
      · exact ⟨.inl rfl, part⟩
      · exact ⟨.inr rfl, part⟩

/-- Classes of a module enrol, one after the other, those whose names are new. -/
theorem insertNewClasses_enrols (indexed : draft.image.registry.Indexed)
    (classes : List ClassDecl) :
    draft.Enrolled ((ClassDecl.fresh draft.image.registry.names classes).flatMap ClassDecl.arrivals)
      Exhausted (classes.mapM insertNewClass draft) := by
  induction classes generalizing draft with
  | nil => exact .refl draft
  | cons decl rest inductionHypothesis =>
    rw [List.mapM_cons, ClassDecl.fresh_cons, List.flatMap_append]
    apply (insertNewClass_enrols indexed decl).bind
    intro given between enrols
    have others := inductionHypothesis (enrols.indexed indexed)
    rw [enrols.names, ClassDecl.class?_flatMap_arrivals] at others
    rw [← List.append_nil (List.flatMap _ _)]
    exact others.bind fun _ last _ => .refl last

/-- What a module declares is taken in as far as names are not taken. -/
theorem takeModule_enrols (indexed : draft.image.registry.Indexed) (decl : ModuleDecl) :
    draft.Enrolled (decl.arrivals draft.image.registry.names)
      (fun failure => failure.Exhausted ∨ failure.Unkeyed) (takeModule decl draft) := by
  have interned : Enrols (decl.signatures.map .signature)
      (fun failure => failure.Exhausted ∨ failure.Unkeyed)
      (decl.signatures.forM fun signature => do let _ ← intern signature) := by
    rw [List.map_eq_flatMap]
    exact .forM (fun signature =>
      ((intern_enrols signature).mono fun _ => .inl).after fun _ => .pure _) _
  have attached : Enrols (decl.categories.flatMap CategoryDecl.arrivals)
      (fun failure => failure.Exhausted ∨ failure.Unkeyed)
      (decl.categories.forM fun category => do let _ ← insertCategory category) :=
    .forM (fun category => (insertCategory_enrols category).after fun _ => .pure _) _
  apply (interned draft).bind
  intro _ signed enrols
  have classes := insertNewClasses_enrols (enrols.indexed indexed) decl.classes
  rw [enrols.names, Arrival.filterMap_signature fun _ => rfl, List.map_nil, List.append_nil]
    at classes
  exact (classes.mono fun _ => .inl).bind fun _ between _ =>
    attached.after (fun _ => .pure _) between

/-- Loading a module takes in what it declares as far as names are not taken. -/
theorem loadModule_enrols (indexed : draft.image.registry.Indexed) (decl : ModuleDecl) :
    draft.Enrolled (decl.arrivals draft.image.registry.names)
      (fun failure => failure.Exhausted ∨ failure.Unsettled) (loadModule decl draft) := by
  rw [loadModule_eq, ← List.append_nil (decl.arrivals _)]
  apply ((takeModule_enrols indexed decl).mono ?_).bind
  · intro _ between _
    refine Enrols.before (settle_stays.mono fun _ => .inr) (fun _ => ?_) between
    exact Enrols.get.before fun _ => (Enrols.report _ _).before fun _ => .pure _
  · exact fun _ => Or.imp_right .inl

/-- Registering a class under a name that is not taken adds it. -/
theorem registerClass_enrols (indexed : draft.image.registry.Indexed) {decl : ClassDecl}
    (fresh : decl.name ∉ draft.image.registry.names) :
    draft.Enrolled decl.arrivals (fun failure => failure.Exhausted ∨ failure.Unsettled)
      (registerClass decl draft) := by
  rw [registerClass, ← List.append_nil decl.arrivals]
  apply ((insertClass_enrols indexed fresh).mono fun _ => .inl).bind
  intro _ between _
  exact Enrols.before (settle_stays.mono fun _ => .inr) (fun _ => .pure _) between

end Edit

end LateBinding
