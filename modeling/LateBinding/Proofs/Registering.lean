import LateBinding.Proofs.Settling
import LateBinding.Session.Sending

/-!
# Edits keep an image in order

An image is sound if its registry is and its selectors fit into dispatch tables. A strictly
sound image is settled as well. Every edit that can be asked for keeps an image sound and
lets its registry grow, whether it succeeds or not.

Being settled is kept except in one case. A module whose selectors run out part of the way
leaves the classes it has added where they are, and so does a panic. `Exhausted` failures
are those of interning: no selector is left, or the load of the selector table is no word.
Every other edit that is refused has not added a class.
-/

namespace LateBinding

/-- All selectors of a table fit into dispatch tables, and so will those to come. -/
structure SelectorTable.Bounded {hash : String → Nat} (table : SelectorTable hash) : Prop where
  within : table.size ≤ table.limit
  limited : table.limit ≤ SparseMap.capacity

/-- Selectors have run out, or the load of the selector table is no word. -/
def Failure.Exhausted (failure : Failure) : Prop :=
  failure = .refused .outOfSelectors ∨ failure = .panicked .productOverflow

/-- The only panic of a product is that it is no word. -/
theorem Word.product_eq_error {a b : Nat} {panic : Panic} (failed : product a b = .error panic) :
    panic = .productOverflow := by
  unfold product at failed
  split at failed
  · cases failed
  · cases failed
    rfl

namespace SelectorTable

variable {hash : String → Nat} {table : SelectorTable hash}

/-- A selector that is found has been given out. -/
theorem lt_size_of_find? {signature : Signature} {selector : Selector}
    (found : table.find? signature = some selector) : selector < table.size := by
  have stored := List.find?_some found
  rw [beq_iff_eq] at stored
  exact (Array.getElem?_eq_some_iff.mp stored).1

/-- Whether a table is overloaded can only fail at a product. -/
theorem overloaded_eq_error {panic : Panic} (failed : table.overloaded = .error panic) :
    panic = .productOverflow := by
  unfold overloaded at failed
  split at failed
  · cases failed
  · rename_i filled
    cases failed
    exact Word.product_eq_error filled
  · rename_i allowed _
    cases failed
    exact Word.product_eq_error allowed

/-- Interning fails when there is no selector left, or when the load of the table is no word. -/
theorem intern_eq_error {signature : Signature} {failure : Failure}
    (failed : (table.intern signature).result = .error failure) : failure.Exhausted := by
  unfold SelectorTable.intern claim at failed
  split at failed
  · cases failed
  · split at failed
    · cases failed
    · split at failed
      · dsimp only at failed
        split at failed
        · rename_i overloaded
          cases failed
          exact .inr (congrArg _ (overloaded_eq_error overloaded))
        · cases failed
        · cases failed
      · cases failed
        exact .inl rfl

/-- Interning keeps a table bounded and gives a selector that fits, if it gives one. -/
theorem Bounded.intern (bounded : table.Bounded) (signature : Signature) :
    (table.intern signature).table.Bounded ∧ ∀ selector,
      (table.intern signature).result = .ok selector → selector < SparseMap.capacity := by
  have fits := bounded.within.trans bounded.limited
  unfold SelectorTable.intern claim
  cases found : table.find? signature with
  | some selector =>
    refine ⟨bounded, fun given same => ?_⟩
    cases same
    exact (lt_size_of_find? found).trans_le fits
  | none =>
    dsimp only
    split
    · rename_i room
      have added : (table.append signature).Bounded := by
        refine ⟨?_, bounded.limited⟩
        simp only [size, append, Array.size_push]
        exact room
      have fresh : ∀ selector, (.ok table.size : Except Failure Selector) = .ok selector →
          selector < SparseMap.capacity := by
        intro selector same
        cases same
        exact room.trans_le bounded.limited
      split
      · exact ⟨added, fun _ impossible => by cases impossible⟩
      · exact ⟨⟨added.within, added.limited⟩, fresh⟩
      · exact ⟨added, fresh⟩
    · exact ⟨bounded, fun _ impossible => by cases impossible⟩

end SelectorTable

/-- The classes and selectors of an image are in order. In a strictly sound image every
    class that can be loaded is. -/
structure Image.Sound [NameHash] (strict : Bool) (image : Image) : Prop where
  registry : image.registry.Sound
  selectors : image.selectors.Bounded
  settled : strict = true → image.registry.Settled

/-- An image that is settled is in order. -/
theorem Image.Sound.weaken [NameHash] {strict : Bool} {image : Image} (sound : image.Sound strict) :
    image.Sound false :=
  ⟨sound.registry, sound.selectors, fun impossible => by cases impossible⟩

/-- An edit has left the image sound, and the registry has grown at most. -/
structure Draft.Kept [NameHash] (strict : Bool) (before after : Draft) : Prop where
  sound : after.image.Sound strict
  grows : before.image.registry.Grows after.image.registry

namespace Draft

variable [NameHash] {strict : Bool} {before between after : Draft}

/-- What is kept by two edits in a row is kept by both together. -/
theorem Kept.trans {first : Bool} (kept : before.Kept first between)
    (further : between.Kept strict after) : before.Kept strict after :=
  ⟨further.sound, kept.grows.trans further.grows⟩

/-- Less may be asked of the image. -/
theorem Kept.weaken (kept : before.Kept strict after) : before.Kept false after :=
  ⟨kept.sound.weaken, kept.grows⟩

/-- An edit that leaves an image settled leaves it in order. -/
theorem Kept.relax (kept : before.Kept true after) : before.Kept strict after :=
  ⟨⟨kept.sound.registry, kept.sound.selectors, fun _ => kept.sound.settled rfl⟩, kept.grows⟩

/-- An edit that leaves the registry alone keeps the image in order if it does so for the
    selectors. -/
theorem Kept.of_registry (sound : before.image.Sound strict)
    (registry : after.image.registry = before.image.registry)
    (selectors : after.image.selectors.Bounded) : before.Kept strict after := by
  refine ⟨⟨?_, selectors, ?_⟩, ?_⟩
  · rw [registry]
    exact sound.registry
  · rw [registry]
    exact sound.settled
  · rw [registry]
    exact .refl _

/-- Loading classes and building tables keeps an image in order. -/
theorem Advanced.kept (advanced : before.Advanced after) (sound : before.image.Sound strict) :
    before.Kept strict after := by
  have selectors : after.image.selectors = before.image.selectors :=
    congrArg (·.selectors) advanced.image
  refine ⟨⟨advanced.sound, selectors ▸ sound.selectors, fun isStrict => ?_⟩, advanced.grows⟩
  exact (sound.settled isStrict).grows advanced.grows sound.registry.formed advanced.sound.formed
    advanced.size

/-- An image that has been settled is strictly sound. -/
theorem Kept.settled (sound : before.image.Sound strict) (advanced : before.Advanced after)
    (settled : after.image.registry.Settled) : before.Kept true after := by
  obtain ⟨kept, grows⟩ := advanced.kept sound
  exact ⟨⟨kept.registry, kept.selectors, fun _ => settled⟩, grows⟩

end Draft

namespace Edit

open Registry

variable [NameHash] {strict : Bool} {draft : Draft}

/-- Interning gives a selector that fits and leaves the registry alone. -/
theorem intern_outcome (sound : draft.image.Sound strict) (signature : Signature) :
    Outcome (intern signature draft)
      (fun selector after => selector < SparseMap.capacity ∧ draft.Kept strict after ∧
        after.image.registry = draft.image.registry)
      (fun failure after => failure.Exhausted ∧ draft.Kept strict after ∧
        after.image.registry = draft.image.registry) := by
  obtain ⟨bounded, given⟩ := sound.selectors.intern signature
  simp only [intern, outcome_bind, outcome_get, outcome_set]
  cases result : (draft.image.selectors.intern signature).result with
  | ok selector => exact ⟨given selector result, .of_registry sound rfl bounded, rfl⟩
  | error failure =>
    exact ⟨SelectorTable.intern_eq_error result, .of_registry sound rfl bounded, rfl⟩

/-- Interning methods gives methods whose selectors fit and leaves the registry alone. -/
theorem internMethods_outcome (sound : draft.image.Sound strict) (methods : List MethodDecl) :
    Outcome (internMethods methods draft)
      (fun interned after => Method.Issued interned ∧ draft.Kept strict after ∧
        after.image.registry = draft.image.registry)
      (fun failure after => failure.Exhausted ∧ draft.Kept strict after ∧
        after.image.registry = draft.image.registry) := by
  refine outcome_mapM
    (fun now => draft.Kept strict now ∧ now.image.registry = draft.image.registry)
    (fun method : Method => method.selector < SparseMap.capacity) ?_ methods draft
    ⟨.of_registry sound rfl sound.selectors, rfl⟩
  rintro method now ⟨kept, same⟩
  simp only [outcome_bind, outcome_pure]
  apply (intern_outcome kept.sound method.signature).mono
  · rintro selector after ⟨fits, further, sameAgain⟩
    exact ⟨fits, kept.trans further, sameAgain.trans same⟩
  · rintro failure after ⟨exhausted, further, sameAgain⟩
    exact ⟨exhausted, kept.trans further, sameAgain.trans same⟩

/-- When a class has changed in what it declares, rebuilding brings the image in order. -/
theorem redeclare_outcome (sound : draft.image.Sound strict) (id : ClassId)
    (change : ClassEntry → ClassEntry)
    (kept : change (draft.image.registry.entry id) = { draft.image.registry.entry id with
      methods := (change (draft.image.registry.entry id)).methods
      categories := (change (draft.image.registry.entry id)).categories })
    (issued : (change (draft.image.registry.entry id)).Issued) {changed : Draft}
    (image : changed.image =
      { draft.image with registry := draft.image.registry.modify id change }) :
    Outcome (rebuild id changed) (fun _ after => changed.Retabled after ∧ draft.Advanced after)
      (fun _ _ => False) := by
  obtain ⟨formed, tabled, grows⟩ := sound.registry.redeclare id change kept issued
  have registry : changed.image.registry = draft.image.registry.modify id change := by rw [image]
  rw [← registry] at formed tabled grows
  apply (rebuild_outcome formed tabled).imp
  rintro _ after ⟨retabled, afterTabled⟩
  have built := grows_of_bare retabled.bare retabled.tables
  refine ⟨retabled, ?_, ⟨formed.of_bare retabled.bare, afterTabled⟩, ?_, grows.trans built⟩
  · rw [retabled.image, image]
  · rw [size_of_bare retabled.bare, registry, size_modify]

/-- A category can be attached to any class. Its hook is due then. -/
theorem attach_outcome (sound : draft.image.Sound strict) (id : ClassId) {category : Category}
    (issued : category.Issued) :
    Outcome (attach id category draft)
      (fun _ after => draft.Advanced after ∧
        after.image.registry.bare = (draft.image.registry.attach id category).bare ∧
        after.hooks = draft.hooks ++ (category.hook draft.image.loadSelector id).toList)
      (fun _ _ => False) := by
  simp only [attach, outcome_bind, outcome_modifyRegistry, outcome_report]
  apply (collectLoad_outcome _ _ _ _).imp
  rintro _ changed ⟨image, hooks⟩
  refine (redeclare_outcome sound id _ rfl ?_ image).imp ?_
  · refine (sound.registry.formed.issued id).extend ?_ rfl rfl
    exact fun attached member => List.mem_singleton.mp member ▸ issued
  · rintro _ after ⟨retabled, advanced⟩
    refine ⟨advanced, ?_, retabled.hooks.trans hooks⟩
    rw [retabled.bare, image]

/-- A category can be left to wait. -/
theorem park_outcome (sound : draft.image.Sound strict) {category : Category}
    (issued : category.Issued) :
    Outcome (park category draft) (fun _ after => draft.Advanced after) (fun _ _ => False) :=
  ⟨rfl, sound.registry.park issued, rfl, grows_of_classes rfl rfl⟩

/-- A category is added unless a selector cannot be had. No class is. -/
theorem insertCategory_outcome (sound : draft.image.Sound strict) (decl : CategoryDecl) :
    Outcome (insertCategory decl draft) (fun _ after => draft.Kept strict after)
      (fun failure after => failure.Exhausted ∧ draft.Kept strict after) := by
  simp only [insertCategory, outcome_bind]
  apply (internMethods_outcome sound decl.methods).mono
  case weakenStopped =>
    rintro _ _ ⟨exhausted, kept, -⟩
    exact ⟨exhausted, kept⟩
  rintro methods first ⟨methodsIssued, firstKept, -⟩
  apply (internMethods_outcome firstKept.sound decl.classMethods).mono
  case weakenStopped =>
    rintro _ _ ⟨exhausted, kept, -⟩
    exact ⟨exhausted, firstKept.trans kept⟩
  rintro classMethods second ⟨classMethodsIssued, secondKept, -⟩
  simp only [outcome_registry, outcome_modifyRegistry]
  let category : Category :=
    ⟨second.image.registry.categoryCount, decl.name, decl.className, ⟨methods, classMethods⟩⟩
  have issued : category.Issued := by
    intro side
    cases side
    · exact methodsIssued
    · exact classMethodsIssued
  let counted : Draft := { second with
    image := { second.image with registry := second.image.registry.countCategory } }
  have advanced : second.Advanced counted :=
    ⟨rfl, secondKept.sound.registry.countCategory, rfl, grows_of_classes rfl rfl⟩
  have countedKept : draft.Kept strict counted :=
    (firstKept.trans secondKept).trans (advanced.kept secondKept.sound)
  have ended : ∀ {act : Edit Unit}, Outcome (act counted) (fun _ after => counted.Advanced after)
      (fun _ _ => False) → Outcome ((do act; return category : Edit Category) counted)
      (fun _ after => draft.Kept strict after)
      (fun failure after => failure.Exhausted ∧ draft.Kept strict after) := by
    intro act outcome
    simp only [outcome_bind, outcome_pure]
    exact outcome.certain fun _ after further => countedKept.trans (further.kept countedKept.sound)
  cases second.image.registry.find? decl.className with
  | none => exact ended (park_outcome countedKept.sound issued)
  | some id =>
    dsimp only
    split
    · exact ended ((attach_outcome countedKept.sound id issued).imp fun _ _ attached => attached.1)
    · exact ended (park_outcome countedKept.sound issued)

/-- A class is added under a name that is not taken, unless a selector cannot be had. The
    image need not be settled then. A refusal leaves the registry as it was. -/
theorem insertClass_outcome (sound : draft.image.Sound strict) (decl : ClassDecl) :
    Outcome (insertClass decl draft) (fun _ after => draft.Kept false after)
      (fun failure after => draft.Kept strict after ∧
        (failure = .refused (.classAlreadyExists decl.name) ∧
            draft.image.registry.find? decl.name ≠ none ∨ failure.Exhausted)) := by
  simp only [insertClass, outcome_bind, outcome_registry]
  cases found : draft.image.registry.find? decl.name with
  | some id =>
    exact ⟨.of_registry sound rfl sound.selectors, .inl ⟨rfl, Option.some_ne_none id⟩⟩
  | none =>
    simp only [outcome_bind]
    apply (internMethods_outcome sound decl.methods).mono
    case weakenStopped =>
      rintro _ _ ⟨exhausted, kept, -⟩
      exact ⟨kept, .inr exhausted⟩
    rintro methods first ⟨methodsIssued, firstKept, firstSame⟩
    apply (internMethods_outcome firstKept.sound decl.classMethods).mono
    case weakenStopped =>
      rintro _ _ ⟨exhausted, kept, -⟩
      exact ⟨firstKept.trans kept, .inr exhausted⟩
    rintro classMethods second ⟨classMethodsIssued, secondKept, secondSame⟩
    have fresh : second.image.registry.find? decl.name = none := by
      rw [secondSame, firstSame, found]
    have issued : ∀ side, Method.Issued ((⟨methods, classMethods⟩ : BySide _).get side) := by
      intro side
      cases side
      · exact methodsIssued
      · exact classMethodsIssued
    obtain ⟨pushed, grows⟩ := secondKept.sound.registry.push fresh issued
    exact ⟨⟨pushed, secondKept.sound.selectors, fun impossible => by cases impossible⟩,
      (firstKept.trans secondKept).grows.trans grows⟩

/-- Adding a class of a module goes on when the name is taken. -/
theorem insertNewClass_outcome (sound : draft.image.Sound strict) (decl : ClassDecl) :
    Outcome (insertNewClass decl draft) (fun _ after => draft.Kept false after)
      (fun failure after => failure.Exhausted ∧ draft.Kept strict after) := by
  have inserted := insertClass_outcome sound decl
  unfold insertNewClass
  cases ended : insertClass decl draft with
  | ok id after =>
    rw [ended] at inserted
    exact inserted
  | error failure after =>
    rw [ended] at inserted
    obtain ⟨kept, ⟨rfl, -⟩ | rfl | rfl⟩ := inserted
    · exact kept.weaken
    · exact ⟨.inl rfl, kept⟩
    · exact ⟨.inr rfl, kept⟩

/-- An edit keeps an image in order, also when it is refused. -/
def Keeps {α : Type} (strict : Bool) (change : Edit α) : Prop :=
  ∀ draft : Draft, draft.image.Sound strict →
    Outcome (change draft) (fun _ after => draft.Kept strict after)
      (fun failure after => ∀ error, failure = .refused error → draft.Kept strict after)

/-- Registering a category keeps an image in order, whether it is settled or not. -/
theorem insertCategory_keeps (decl : CategoryDecl) : Keeps strict (insertCategory decl) := by
  intro draft sound
  apply (insertCategory_outcome sound decl).mono
  · exact fun _ _ kept => kept
  · rintro _ after ⟨-, kept⟩ _ _
    exact kept

/-- A class is registered or refused before it is added. -/
theorem registerClass_keeps (decl : ClassDecl) : Keeps strict (registerClass decl) := by
  intro draft sound
  simp only [registerClass, outcome_bind, outcome_pure]
  apply (insertClass_outcome sound decl).mono
  case weakenStopped =>
    rintro _ _ ⟨kept, -⟩ _ _
    exact kept
  intro _ inserted kept
  apply (settle_outcome kept.sound.registry).mono
  · rintro _ after ⟨⟨order, raises⟩, settled⟩
    have advanced := raises.advanced kept.sound.registry
    exact (kept.trans (.settled kept.sound advanced settled)).relax
  · rintro _ after ⟨rfl, -⟩ error impossible
    cases impossible

/-- A class whose name is not taken is refused only for want of selectors, and panics only if
    a size or the load of the selector table is no word. -/
theorem registerClass_fresh (sound : draft.image.Sound strict) {decl : ClassDecl}
    (fresh : draft.image.registry.find? decl.name = none) :
    Outcome (registerClass decl draft) (fun _ _ => True)
      (fun failure _ => failure.Exhausted ∨ failure = .panicked .sumOverflow) := by
  simp only [registerClass, outcome_bind, outcome_pure]
  apply (insertClass_outcome sound decl).mono
  · intro _ inserted kept
    apply (settle_outcome kept.sound.registry).mono
    · exact fun _ _ _ => trivial
    · rintro _ after ⟨rfl, -⟩
      exact .inr rfl
  · rintro _ after ⟨-, ⟨-, taken⟩ | exhausted⟩
    · exact absurd fresh taken
    · exact .inl exhausted

/-- The first part of loading a module: what it declares is taken in, in order. -/
def takeModule (decl : ModuleDecl) : Edit (List ClassId) := do
  decl.signatures.forM fun signature => do
    let _ ← intern signature
  let inserted ← decl.classes.mapM insertNewClass
  decl.categories.forM fun category => do
    let _ ← insertCategory category
  return inserted.filterMap id

/-- The last part of loading a module: what can make progress does. -/
theorem loadModule_eq (decl : ModuleDecl) :
    loadModule decl = (do
      let classes ← takeModule decl
      settle
      report .info ("loaded module " ++ decl.name ++ " (" ++ toString classes.length ++
        " classes, " ++ toString (← get).hooks.length ++ " load hooks)")
      return classes) := by
  simp only [loadModule, takeModule, bind_assoc, pure_bind]

/-- What a module declares is taken in unless a selector cannot be had, and the image need not be
    settled then. -/
theorem takeModule_outcome (sound : draft.image.Sound strict) (decl : ModuleDecl) :
    Outcome (takeModule decl draft) (fun _ after => draft.Kept false after)
      (fun failure after => failure.Exhausted ∧ draft.Kept false after) := by
  have start : draft.Kept false draft := ⟨sound.weaken, .refl _⟩
  simp only [takeModule, outcome_bind, outcome_pure]
  refine Outcome.imp (outcome_forM (fun _ now => draft.Kept false now) ?interned decl.signatures
    draft start) ?_
  case interned =>
    intro signature rest now kept
    simp only [outcome_bind, outcome_pure]
    apply (intern_outcome kept.sound signature).mono
    · rintro _ after ⟨-, further, -⟩
      exact kept.trans further
    · rintro _ after ⟨exhausted, further, -⟩
      exact ⟨exhausted, kept.trans further⟩
  intro _ signed signedKept
  refine Outcome.imp (outcome_mapM (fun now => draft.Kept false now) (fun _ => True) ?inserted
    decl.classes signed signedKept) ?_
  case inserted =>
    intro declared now kept
    apply (insertNewClass_outcome kept.sound declared).mono
    · exact fun _ after further => ⟨trivial, kept.trans further⟩
    · rintro _ after ⟨exhausted, further⟩
      exact ⟨exhausted, kept.trans further⟩
  rintro classes inserted ⟨-, insertedKept⟩
  refine outcome_forM (fun _ now => draft.Kept false now) ?_ decl.categories inserted
    insertedKept
  intro category rest now kept
  simp only [outcome_bind, outcome_pure]
  apply (insertCategory_outcome kept.sound category).mono
  · exact fun _ after further => kept.trans further
  · rintro _ after ⟨exhausted, further⟩
    exact ⟨exhausted, kept.trans further⟩

/-- A module is loaded, and the image is settled then, whatever had been left behind, or it is
    refused for want of selectors. -/
theorem loadModule_settles (sound : draft.image.Sound strict) (decl : ModuleDecl) :
    Outcome (loadModule decl draft) (fun _ after => draft.Kept true after)
      (fun failure after => ∀ error, failure = .refused error →
        error = .outOfSelectors ∧ draft.Kept false after) := by
  rw [loadModule_eq, outcome_bind]
  apply (takeModule_outcome sound decl).mono
  · intro classes taken kept
    rw [outcome_bind]
    apply (settle_outcome kept.sound.registry).mono
    · rintro _ after ⟨⟨order, raises⟩, settled⟩
      have advanced := raises.advanced kept.sound.registry
      simp only [outcome_bind, outcome_get, outcome_report, outcome_pure]
      obtain ⟨soundAfter, growsAfter⟩ :=
        kept.trans (Draft.Kept.settled kept.sound advanced settled)
      exact ⟨soundAfter, growsAfter⟩
    · rintro _ after ⟨rfl, -⟩ error impossible
      cases impossible
  · rintro _ after ⟨rfl | rfl, kept⟩ error same
    · cases same
      exact ⟨rfl, kept⟩
    · cases same

/-- A module keeps an image in order, strictly or not, unless it is refused. -/
theorem loadModule_outcome (sound : draft.image.Sound strict) (decl : ModuleDecl) :
    Outcome (loadModule decl draft) (fun _ after => draft.Kept strict after)
      (fun failure after => ∀ error, failure = .refused error →
        error = .outOfSelectors ∧ draft.Kept false after) :=
  (loadModule_settles sound decl).mono (fun _ _ => Draft.Kept.relax) fun _ _ stopped => stopped

end Edit

/-- Replacing a method keeps selectors that fit. -/
theorem Method.issued_replaceLast {selector : Selector} (imp : Imp) {methods : List Method}
    (fits : selector < SparseMap.capacity) (issued : Method.Issued methods) :
    Method.Issued (replaceLast selector imp methods) := by
  induction methods with
  | nil =>
    intro method member
    rw [replaceLast, List.mem_singleton] at member
    rw [member]
    exact fits
  | cons first rest inductionHypothesis =>
    have restIssued : Method.Issued rest := fun method member =>
      issued method (List.mem_cons_of_mem _ member)
    rw [replaceLast]
    split
    · intro method member
      rcases List.mem_cons.mp member with same | later
      · rw [same]
        exact issued first List.mem_cons_self
      · exact restIssued method later
    · intro method member
      rcases List.mem_cons.mp member with same | later
      · rw [same]
        exact issued first List.mem_cons_self
      · exact inductionHypothesis restIssued method later

/-- A class still has issued selectors when a method under such a selector is replaced. -/
theorem ClassEntry.Issued.replaceMethod {entry : ClassEntry} (issued : entry.Issued) (side : Side)
    {selector : Selector} (imp : Imp) (fits : selector < SparseMap.capacity) :
    ClassEntry.Issued { entry with
      methods := entry.methods.set side
        (Method.replaceLast selector imp (entry.methods.get side)) } := by
  refine ⟨fun other => ?_, issued.categories⟩
  by_cases same : other = side
  · rw [same, BySide.get_set_same]
    exact Method.issued_replaceLast imp fits (issued.methods side)
  · rw [BySide.get_set_of_ne _ _ same]
    exact issued.methods other

namespace Edit

open Registry

variable [NameHash] {strict : Bool} {draft : Draft}

/-- Replacing a method changes what the side declares, and rebuilds tables. -/
theorem replaceMethod_outcome (sound : draft.image.Sound strict) (ref : SideRef)
    {selector : Selector} (imp : Imp) (fits : selector < SparseMap.capacity) :
    Outcome (replaceMethod ref selector imp draft)
      (fun _ after => draft.Advanced after ∧ after.image.registry.bare =
        (draft.image.registry.replaceMethod ref selector imp).bare ∧ after.hooks = draft.hooks)
      (fun _ _ => False) := by
  simp only [replaceMethod, outcome_bind, outcome_registry, outcome_modifyRegistry]
  refine Outcome.certain (redeclare_outcome sound ref.id _ rfl
    ((sound.registry.formed.issued ref.id).replaceMethod ref.side imp fits) rfl) ?_
  rintro _ after ⟨retabled, advanced⟩
  simp only [outcome_get, outcome_report, outcome_pure]
  exact ⟨⟨advanced.image, advanced.sound, advanced.size, advanced.grows⟩, retabled.bare,
    retabled.hooks⟩

/-- Replacing a method keeps an image in order. -/
theorem replaceMethod_keeps (ref : SideRef) {selector : Selector} (imp : Imp)
    (fits : selector < SparseMap.capacity) : Keeps strict (replaceMethod ref selector imp) :=
  fun _ sound => (replaceMethod_outcome sound ref imp fits).certain
    fun _ _ replaced => replaced.1.kept sound

/-- Making a class ready raises classes and gives both of its sides tables. Its chain may be
    refused, and then nothing is done; in an image that is not settled a size may be no
    word, if the class has not been loaded. -/
theorem readyTables_outcome (sound : draft.image.Sound strict) {id : ClassId}
    (inside : id < draft.image.registry.size) :
    Outcome (Act.readyTables id draft)
      (fun _ after => (∃ order raised, draft.Raises order raised ∧ raised.Retabled after) ∧
        draft.Kept strict after ∧
        ∀ side, (after.image.registry.table? ⟨id, side⟩).isSome = true)
      (fun failure after =>
        (failure = .panicked .sumOverflow ∧ strict = false ∧
          draft.image.registry.reached id .loaded = false) ∨
        ∃ error, draft.image.registry.chain id = .error error ∧ failure = .refused error ∧
          after = draft) := by
  simp only [Act.readyTables, outcome_bind, outcome_pure]
  apply (advance_outcome sound.registry inside).mono
  · rintro _ first ⟨⟨order, raises⟩, loaded⟩
    have advanced := raises.advanced sound.registry
    apply (ensure_outcome advanced.sound.formed advanced.sound.tabled ⟨id, .inst⟩ loaded).certain
    rintro _ second ⟨retabled, tabled, present⟩
    have further := Draft.Advanced.of_retabled advanced.sound retabled tabled
    apply (ensure_outcome further.sound.formed further.sound.tabled ⟨id, .metaclass⟩
      (further.grows.reached loaded)).certain
    rintro _ third ⟨retabledAgain, tabledAgain, presentAgain⟩
    have last := Draft.Advanced.of_retabled further.sound retabledAgain tabledAgain
    refine ⟨⟨order, first, raises, retabled.trans retabledAgain⟩,
      ((advanced.trans further).trans last).kept sound, ?_⟩
    intro side
    cases side
    · exact last.grows.tables _ (by rw [present]; rfl)
    · rw [presentAgain]
      rfl
  · rintro failure after (⟨overflow, -, waiting, unsettled⟩ | refused)
    · refine .inl ⟨overflow, ?_, waiting⟩
      cases strict
      · rfl
      · exact absurd (sound.settled rfl) unsettled
    · exact .inr refused

end Edit

end LateBinding
