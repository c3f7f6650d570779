import LateBinding.Proofs.Histories
import LateBinding.Proofs.Passive
import LateBinding.Proofs.Twins

/-!
# The order of registration

Classes and categories may be registered in any order, as long as the categories for each
class name keep theirs: images that were given the same look the same. The numbers of classes
and selectors differ, and so does what happened on the way, such as which classes had to wait
and which categories were attached at once. None of it can be told afterwards by name, and a
message is answered alike.

The argument does not exchange neighbours in the order. Whatever the order is, an image holds
what was registered and is settled, and that determines what can be seen of it.
-/

namespace LateBinding

/-- A class or a category that is to be registered. -/
inductive Registration where
  | ofClass (decl : ClassDecl)
  | ofCategory (decl : CategoryDecl)
deriving DecidableEq

namespace Registration

/-- The request that registers it. -/
def request : Registration → Request
  | .ofClass decl => .registerClass decl
  | .ofCategory decl => .registerCategory decl

/-- The class that is registered, if it is one. -/
def class? : Registration → Option ClassDecl
  | .ofClass decl => some decl
  | .ofCategory _ => none

/-- The category that is registered, if it is one. -/
def category? : Registration → Option CategoryDecl
  | .ofClass _ => none
  | .ofCategory decl => some decl

/-- The classes among registrations, in order. -/
def classes (registrations : List Registration) : List ClassDecl :=
  registrations.filterMap class?

/-- The categories among registrations, in order. -/
def categories (registrations : List Registration) : List CategoryDecl :=
  registrations.filterMap category?

/-- The categories for a class name among registrations, in order. -/
def categoriesFor (registrations : List Registration) (name : String) : List CategoryDecl :=
  (categories registrations).filter (·.className == name)

end Registration

/-- The classes and categories of a list have been registered with a new image, one after the
    other, and nothing else was asked for. All of it was done: neither did selectors run out
    nor was a size no word. -/
def Session.Registered [NameHash] (behaviour : Behaviour) (id : ImageId)
    (registrations : List Registration) (session : Session) : Prop :=
  ∃ threshold configs first, Session.start threshold configs = .ok first ∧
    id < first.images.size ∧
    Act.inTurn true behaviour id (registrations.map Registration.request) first = .ok () session

/-- What a name shows of its class in an image, apart from tables. -/
def Image.shown [NameHash] (image : Image) (name : String) (side : Side) : Option ClassView :=
  (image.registry.find? name).map fun id => (image.registry.view ⟨id, side⟩).outline

/-- Two images look the same to whoever asks by name: classes of one name are at one stage and
    have one size and one superclass, and the same categories are attached to them and wait
    for them, in the same order. -/
structure Image.Matches [NameHash] (image other : Image) : Prop where
  shown : ∀ name side, image.shown name side = other.shown name side
  attached : ∀ name, List.Forall₂ (Category.Matches image.selectors other.selectors)
    (image.registry.attachedTo name) (other.registry.attachedTo name)
  waiting : ∀ name, List.Forall₂ (Category.Matches image.selectors other.selectors)
    (image.registry.parkedFor name) (other.registry.parkedFor name)

namespace Image.Holds

variable [NameHash] {image other : Image} {classes otherClasses : List ClassDecl}
  {categories otherCategories : List CategoryDecl}

/-- A name that was not registered is not found. -/
theorem find?_of_not_mem (holds : image.Holds classes categories) {name : String}
    (absent : name ∉ classes.map ClassDecl.name) : image.registry.find? name = none := by
  cases found : image.registry.find? name with
  | none => rfl
  | some id =>
    obtain ⟨decl, member, rfl, -⟩ := holds.known_of_find? found
    exact absurd (List.mem_map_of_mem member) absent

/-- Images that hold the same look the same. -/
theorem matches_of_perm (holds : image.Holds classes categories)
    (otherHolds : other.Holds otherClasses otherCategories) (perm : classes.Perm otherClasses)
    (ordered : ∀ name, categories.filter (·.className == name) =
      otherCategories.filter (·.className == name)) : image.Matches other := by
  refine ⟨fun name side => ?_, ?_, ?_⟩
  · cases found : image.registry.find? name with
    | none =>
      rw [Image.shown, Image.shown, found, find?_eq_none holds otherHolds perm found]
      rfl
    | some id =>
      obtain ⟨otherId, otherFound, twins⟩ := twin_of_find? holds otherHolds perm found
      rw [Image.shown, Image.shown, found, otherFound, Option.map_some, Option.map_some,
        view_agree holds otherHolds perm twins side]
  · exact fun name => (categories_agree holds otherHolds perm ordered name).1
  · exact fun name => (categories_agree holds otherHolds perm ordered name).2

end Image.Holds

namespace Act

variable [NameHash] {behaviour : Behaviour} {session : Session} {id : ImageId}
  {classes : List ClassDecl} {categories : List CategoryDecl}

/-- Where a strict program goes on, selectors have not run out. -/
theorem insist_outcome {act : Act Answer} {done : Answer → Session → Prop}
    (outcome : Outcome (act session)
      (fun answer after => answer = .refused .outOfSelectors ∨ done answer after)
      fun _ _ => True) : Outcome (insist true act session) done fun _ _ => True := by
  simp only [insist, outcome_bind]
  apply outcome.imp
  intro answer after given
  split
  · exact trivial
  · rename_i other
    exact given.resolve_left other

/-- Registering something makes its edit, or the run does not go on. -/
theorem registering_passive (passive : behaviour.Passive) {asked : Request} {change : Change}
    {α : Type} {edits : Edit α} {answer : ImageId → α → Session → Answer}
    (enters : asked.Enters change edits answer) (registers : asked.registers = true)
    {done : Draft → Prop}
    (edited : Outcome (edits { image := session.image id }) (fun _ draft => done draft)
      fun failure _ => ∀ error, failure = .refused error → error = .outOfSelectors) :
    Outcome (insist true (asking behaviour id asked) session)
      (fun _ after => session.Situated after ∧
        ∃ draft, after.images = (session.adopt id draft).images ∧ done draft)
      (fun _ _ => True) := by
  let noted := session.note (.asked id asked)
  apply insist_outcome
  simp only [asking, askingNow, registers, if_true, outcome_bind, outcome_awaitRegistry,
    outcome_get, enters.run]
  split
  · exact trivial
  · apply (@inRegistry_passive _ _ _ (noting_passive passive) noted id _ _ _ edited).mono
    · rintro result after ⟨-, draft, images, situated, given⟩
      cases result with
      | error error => exact .inl (congrArg Answer.refused (given error rfl))
      | ok value => exact .inr ⟨⟨situated.thread, situated.entered⟩, draft, images, given⟩
    · exact fun _ _ _ => trivial

/-- Registering a class under a new name adds it, or the run does not go on. -/
theorem registerClass_holds (passive : behaviour.Passive) (existing : id < session.images.size)
    (holds : (session.image id).Holds classes categories) {decl : ClassDecl}
    (fresh : decl.name ∉ classes.map ClassDecl.name) :
    Outcome (insist true (asking behaviour id (.registerClass decl)) session)
      (fun _ after => session.Situated after ∧ after.images.size = session.images.size ∧
        (after.image id).Holds (classes ++ [decl]) categories)
      (fun _ _ => True) := by
  have sound := holds.sound
  let draft : Draft := { image := session.image id }
  have edited : Outcome (Edit.registerClass decl draft)
      (fun _ after => after.image.Holds (classes ++ [decl]) categories)
      fun failure _ => ∀ error, failure = .refused error → error = .outOfSelectors := by
    apply (((@Edit.registerClass_amends _ true draft sound decl).and
      (@Edit.registerClass_keeps _ true decl draft sound)).and
      (@Edit.registerClass_fresh _ true draft sound decl (holds.find?_of_not_mem fresh))).mono
    · rintro _ after ⟨⟨⟨-, order, amends⟩, kept⟩, -⟩
      have added := holds.amend amends (Arrival.replaces_signatures decl.sides rfl) kept.sound
      rwa [decl.class?_arrivals, decl.category?_arrivals, List.append_nil] at added
    · rintro _ _ ⟨-, (exhausted | impossible) | impossible⟩ error refused
      · cases exhausted.symm.trans refused
        rfl
      · cases impossible.symm.trans refused
      · cases impossible.symm.trans refused
  apply (registering_passive passive decl.enters rfl edited).mono
  · rintro _ after ⟨situated, draft, images, added⟩
    obtain ⟨image, count⟩ := Session.image_of_adopted images existing
    exact ⟨situated, count, image ▸ added⟩
  · exact fun _ _ _ => trivial

/-- Registering a category adds it, or the run does not go on. -/
theorem registerCategory_holds (passive : behaviour.Passive) (existing : id < session.images.size)
    (holds : (session.image id).Holds classes categories) (decl : CategoryDecl) :
    Outcome (insist true (asking behaviour id (.registerCategory decl)) session)
      (fun _ after => session.Situated after ∧ after.images.size = session.images.size ∧
        (after.image id).Holds classes (categories ++ [decl]))
      (fun _ _ => True) := by
  have sound := holds.sound
  let draft : Draft := { image := session.image id }
  have edited : Outcome (Edit.insertCategory decl draft)
      (fun _ after => after.image.Holds classes (categories ++ [decl]))
      fun failure _ => ∀ error, failure = .refused error → error = .outOfSelectors := by
    apply ((@Edit.insertCategory_amends _ true draft sound decl).and
      (@Edit.insertCategory_outcome _ true draft sound decl)).mono
    · rintro _ after ⟨amends, kept⟩
      have added := holds.amend amends (Arrival.replaces_signatures decl.sides rfl) kept.sound
      rwa [decl.class?_arrivals, decl.category?_arrivals, List.append_nil] at added
    · rintro _ _ ⟨-, exhausted | impossible, -⟩ error refused
      · cases exhausted.symm.trans refused
        rfl
      · cases impossible.symm.trans refused
  apply (registering_passive passive decl.enters rfl edited).mono
  · rintro _ after ⟨situated, draft, images, added⟩
    obtain ⟨image, count⟩ := Session.image_of_adopted images existing
    exact ⟨situated, count, image ▸ added⟩
  · exact fun _ _ _ => trivial

/-- A run of registrations under different names adds all of them. -/
theorem inTurn_holds (passive : behaviour.Passive) (registrations : List Registration)
    (existing : id < session.images.size) (holds : (session.image id).Holds classes categories)
    (distinct : ((classes ++ Registration.classes registrations).map ClassDecl.name).Nodup) :
    Outcome (inTurn true behaviour id (registrations.map Registration.request) session)
      (fun _ after => session.Situated after ∧
        (after.image id).Holds (classes ++ Registration.classes registrations)
          (categories ++ Registration.categories registrations))
      (fun _ _ => True) := by
  induction registrations generalizing session classes categories with
  | nil =>
    simp only [Registration.classes, Registration.categories, List.filterMap_nil, List.append_nil]
    exact ⟨.refl session, holds⟩
  | cons registration rest inductionHypothesis =>
    rw [List.map_cons, inTurn, outcome_bind]
    cases registration with
    | ofClass decl =>
      have split : classes ++ Registration.classes (.ofClass decl :: rest) =
          (classes ++ [decl]) ++ Registration.classes rest := (List.append_assoc _ [decl] _).symm
      rw [split] at distinct ⊢
      have fresh : decl.name ∉ classes.map ClassDecl.name := by
        rw [List.map_append, List.nodup_append, List.map_append, List.nodup_append] at distinct
        intro taken
        exact distinct.1.2.2 _ taken _ List.mem_cons_self rfl
      refine (registerClass_holds passive existing holds fresh).imp ?_
      rintro _ between ⟨situated, count, added⟩
      exact (inductionHypothesis (count.symm ▸ existing) added distinct).imp
        fun _ after later => ⟨situated.trans later.1, later.2⟩
    | ofCategory decl =>
      have split : categories ++ Registration.categories (.ofCategory decl :: rest) =
          (categories ++ [decl]) ++ Registration.categories rest :=
        (List.append_assoc _ [decl] _).symm
      rw [split]
      refine (registerCategory_holds passive existing holds decl).imp ?_
      rintro _ between ⟨situated, count, added⟩
      exact (inductionHypothesis (count.symm ▸ existing) added distinct).imp
        fun _ after later => ⟨situated.trans later.1, later.2⟩

end Act

namespace Session

variable [NameHash] {behaviour : Behaviour} {id otherId : ImageId}
  {registrations others : List Registration} {session other : Session}

/-- The image holds what was registered with it, and nobody is inside its registry. -/
theorem Registered.holds (registered : session.Registered behaviour id registrations)
    (passive : behaviour.Passive)
    (distinct : ((Registration.classes registrations).map ClassDecl.name).Nodup) :
    (session.image id).Holds (Registration.classes registrations)
      (Registration.categories registrations) ∧ session.isShut id = false := by
  obtain ⟨threshold, configs, first, started, existing, ended⟩ := registered
  have outcome := Act.inTurn_holds passive registrations existing (start_holds started id) distinct
  rw [ended] at outcome
  obtain ⟨situated, holds⟩ := outcome
  refine ⟨holds, ?_⟩
  rw [situated.isShut, isShut, (start_blank started).entered, List.any_nil]

/-- Images in which the same classes and categories were registered, in orders that differ at
    most in how categories for different names are placed among the rest, look the same, and
    a message that both have a selector for is answered alike: with one implementation, with
    none, or with one error. -/
theorem Registered.order_irrelevant (passive : behaviour.Passive)
    (perm : registrations.Perm others)
    (distinct : ((Registration.classes registrations).map ClassDecl.name).Nodup)
    (ordered : ∀ name, Registration.categoriesFor registrations name =
      Registration.categoriesFor others name)
    (registered : session.Registered behaviour id registrations)
    (otherRegistered : other.Registered behaviour otherId others) :
    (session.image id).Matches (other.image otherId) ∧
      ∀ name side signature target otherTarget selector otherSelector,
        (session.image id).registry.find? name = some target →
        (other.image otherId).registry.find? name = some otherTarget →
        (session.image id).selectors.find? signature = some selector →
        (other.image otherId).selectors.find? signature = some otherSelector →
        ∃ result after otherAfter,
          Act.dispatch behaviour id ⟨id, target, side⟩ selector session = .ok result after ∧
          Act.dispatch behaviour otherId ⟨otherId, otherTarget, side⟩ otherSelector other =
            .ok result otherAfter := by
  have sameClasses := perm.filterMap Registration.class?
  have otherDistinct := (sameClasses.map ClassDecl.name).nodup_iff.mp distinct
  obtain ⟨holds, opened⟩ := registered.holds passive distinct
  obtain ⟨otherHolds, otherOpened⟩ := otherRegistered.holds passive otherDistinct
  refine ⟨holds.matches_of_perm otherHolds sameClasses ordered, ?_⟩
  intro name side signature target otherTarget selector otherSelector found otherFound known
    otherKnown
  obtain ⟨twin, twinFound, twins⟩ := holds.twin_of_find? otherHolds sameClasses found
  cases twinFound.symm.trans otherFound
  obtain ⟨after, answered⟩ := Act.dispatch_passive passive holds.sound
    (twins.inside holds.formed) (by rw [isHeldUp, opened, Bool.false_and]) side selector
  obtain ⟨otherAfter, otherAnswered⟩ := Act.dispatch_passive passive otherHolds.sound
    (twins.symm.inside otherHolds.formed) (by rw [isHeldUp, otherOpened, Bool.false_and]) side
    otherSelector
  have meaning := holds.resolve_agree otherHolds sameClasses ordered
    (SelectorTable.resolve?_of_find? known) (SelectorTable.resolve?_of_find? otherKnown)
    (show (session.image id).SidesAgree _ ⟨target, side⟩ ⟨otherTarget, side⟩ from ⟨twins, rfl⟩)
  refine ⟨_, after, otherAfter, answered, ?_⟩
  rw [otherAnswered, meaning, (holds.chain_agree otherHolds sameClasses twins).map_eq]

/-- A run of registrations that is computed. -/
theorem exists_registered (threshold : Log.Level) (configs : List Config)
    (registrations : List Registration) (check : Session → Bool)
    (reached : Act.reaches threshold configs
      (Act.inTurn true .idle id (registrations.map Registration.request))
      (fun session => decide (id < session.images.size) && check session) = true) :
    ∃ session : Session, session.Registered .idle id registrations ∧ check session = true := by
  have isPublic :
      (Act.inTurn true .idle id (registrations.map Registration.request)).Public true := by
    refine Act.inTurn_public (fun _ => .done ()) (fun _ _ _ => .done 0) id ?_
    intro asked member
    obtain ⟨registration, -, rfl⟩ := List.mem_map.mp member
    cases registration with
    | ofClass decl => exact trivial
    | ofCategory decl => exact trivial
  obtain ⟨first, value, after, started, returned, checked⟩ := Act.exists_of_reaches reached
  have moves := isPublic.keeps first (start_sound started)
  rw [returned] at moves
  rw [Bool.and_eq_true, decide_eq_true_eq] at checked
  exact ⟨after, ⟨threshold, configs, first, started, moves.follows.count ▸ checked.1, returned⟩,
    checked.2⟩

end Session

namespace Session

/-- One of two orders lets a class and categories wait and the other does not, and there are a
    cycle and a missing superclass. A message is found under different numbers, and what is
    found is the same. -/
theorem Registered.order_irrelevant_of_late_superclass :
    let dog : Registration := .ofClass ⟨"Dog", some "Animal", 4, [], []⟩
    let animal : Registration := .ofClass ⟨"Animal", none, 8, [⟨⟨"speak", none⟩, 1⟩], []⟩
    let loop : Registration := .ofClass ⟨"Loop", some "Loop", 1, [⟨⟨"turn", none⟩, 5⟩], []⟩
    let lost : Registration := .ofClass ⟨"Lost", some "Nowhere", 2, [], []⟩
    let loud : Registration := .ofCategory ⟨"Loud", "Animal", [⟨⟨"speak", none⟩, 2⟩], []⟩
    let found : Registration := .ofCategory ⟨"Found", "Lost", [], []⟩
    let quiet : Registration := .ofCategory ⟨"Quiet", "Animal", [⟨⟨"speak", none⟩, 3⟩], []⟩
    ∃ session other : Session,
      session.Registered .idle 0 [dog, loop, loud, found, lost, quiet, animal] ∧
      other.Registered .idle 0 [animal, loud, quiet, dog, lost, found, loop] ∧
      (session.image 0).Matches (other.image 0) ∧
      (∃ after, Act.dispatch .idle 0 ⟨0, 0, .inst⟩ 3 session = .ok (.ok (some 3)) after) ∧
      ∃ after, Act.dispatch .idle 0 ⟨0, 1, .inst⟩ 2 other = .ok (.ok (some 3)) after := by
  intro dog animal loop lost loud found quiet
  let registrations := [dog, loop, loud, found, lost, quiet, animal]
  let others := [animal, loud, quiet, dog, lost, found, loop]
  let numbered := fun (target : ClassId) (selector : Selector) (session : Session) =>
    (session.image 0).registry.find? "Dog" == some target &&
      (session.image 0).selectors.find? ⟨"speak", none⟩ == some selector
  obtain ⟨session, registered, checked⟩ := @exists_registered _ 0 .info [.standard] registrations
    (fun session => numbered 0 3 session && Act.dispatches .idle ⟨0, 0, .inst⟩ 3 3 session)
    (by decide +kernel)
  obtain ⟨other, otherRegistered, otherChecked⟩ := @exists_registered _ 0 .info [.standard] others
    (numbered 1 2) (by decide +kernel)
  simp only [numbered, Bool.and_eq_true, beq_iff_eq] at checked otherChecked
  obtain ⟨⟨target, selector⟩, answered⟩ := checked
  obtain ⟨after, dispatched⟩ := Act.dispatches_eq_true answered
  have perm : registrations.Perm others := by decide +kernel
  have ordered : ∀ name, Registration.categoriesFor registrations name =
      Registration.categoriesFor others name := by
    intro name
    by_cases animals : "Animal" = name
    · subst animals
      decide +kernel
    · simp [registrations, others, Registration.categoriesFor, Registration.categories,
        Registration.category?, List.filterMap_cons, List.filter_cons, dog, animal, loop, lost,
        loud, found, quiet, animals]
  obtain ⟨alike, dispatches⟩ := order_irrelevant Behaviour.idle_passive perm (by decide +kernel)
    ordered registered otherRegistered
  obtain ⟨result, _, otherAfter, here, there⟩ :=
    dispatches "Dog" .inst ⟨"speak", none⟩ 0 1 3 2 target otherChecked.1 selector otherChecked.2
  rw [dispatched] at here
  cases here
  exact ⟨session, other, registered, otherRegistered, alike, ⟨after, dispatched⟩, otherAfter, there⟩

end Session

end LateBinding
