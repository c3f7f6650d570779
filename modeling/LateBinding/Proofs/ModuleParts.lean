import LateBinding.Proofs.Coincidence
import LateBinding.Proofs.Exhaustion
import LateBinding.Proofs.Passive

/-!
# A module and its parts

Loading a module registers its signatures, classes and categories in one edit, which settles
once at the end and then calls all hooks. The parts can also be registered one after the other:
then every class settles on its own, a category of a new class is attached where the module lets
it wait, and hooks are called in between. With implementations that leave images alone both come
to the same. The images gather the same either way, so they coincide, and the calls are the same
in some order.

A class whose name is taken, also by an earlier class of the module, is left out in both, before
any of its signatures is interned.

What is registered waits for its turn in the registry. A module that is loaded always settles the
image, and its parts may not: a module that ran out of selectors earlier can have left a class
behind that could be loaded, and registering a category does not load it. So the law is about parts
that leave the image settled. They do wherever it is settled before, and it is in every run in
which nothing has panicked and selectors have not run out.
-/

namespace LateBinding

open Registry

namespace Image

variable [NameHash] {strict : Bool} {id : ImageId} {before after : Image} {deed : Deed}

/-- An image without classes is in order in every respect. -/
theorem Regulated.of_empty (registry : before.registry = .empty) (sound : before.Sound strict)
    (lawful : before.selectors.Lawful) : before.Regulated strict := by
  refine ⟨sound, lawful, ?_, [], ?_⟩
  · rw [registry]
    exact sized_empty
  · rw [Image.Ledger, registry]
    exact ledger_empty _

/-- A deed leaves an image in order, also one that is refused when part of it has been done. -/
theorem Lives.regulated (lives : before.Lives strict id deed after)
    (regulated : before.Regulated strict) (soundAfter : after.Sound strict) :
    after.Regulated strict := by
  obtain ⟨⟨sound, -, -⟩, lawful, sized, registered, ledger⟩ := regulated
  suffices kept : after.selectors.Lawful ∧ after.registry.Sized ∧
      ∃ registered, after.Ledger registered from ⟨soundAfter, kept.1, kept.2.1, kept.2.2⟩
  cases lives with
  | changed amends _ =>
    refine ⟨?_, amends.sized sound sized, _, amends.ledger sound ledger⟩
    rw [amends.rest sound]
    exact Gathers.lawful_foldl lawful _
  | refused taken _ =>
    refine ⟨?_, taken.sized sound.formed sized, _, taken.ledger sound.formed ledger⟩
    rw [taken.rest]
    exact Gathers.lawful_foldl lawful _
  | began _ _ =>
    exact ⟨lawful, sized.mark fun _ => rfl, _, Registry.Ledger.modify ledger _ _ rfl rfl rfl⟩
  | finished marked =>
    exact ⟨lawful, sized.mark fun _ => rfl, _, ledger.endInit (sound.loaded_of_marked marked)⟩
  | apart _ alike =>
    refine ⟨?_, ?_, registered, ?_⟩
    · rw [alike.selectors]
      exact lawful
    · rw [alike.registry]
      exact sized
    · rw [Image.Ledger, alike.registry, alike.selectors]
      exact ledger

end Image

namespace Session

variable [NameHash] {strict : Bool} {first last session : Session} {course : List Moment}

/-- It stays so along a course. -/
theorem Course.regulated (run : first.Course strict course last)
    (sound : ∀ id, (first.image id).Sound strict) {id : ImageId} (inside : id < first.images.size)
    (regulated : (first.image id).Regulated strict) : (last.image id).Regulated strict := by
  induction run with
  | done session => exact regulated
  | next does _ inductionHypothesis =>
    obtain ⟨regular, soundAfter⟩ := does.regular sound
    exact inductionHypothesis soundAfter (regular.count.symm ▸ inside)
      ((regular.lives id inside).regulated regulated (soundAfter id))

/-- The images of a run in which nothing has panicked can take things in one after the other. -/
theorem Observed.regulated (observed : session.Observed strict) {id : ImageId}
    (inside : id < session.images.size) : (session.image id).Regulated strict := by
  obtain ⟨threshold, configs, first, course, started, sound, run⟩ := observed.course
  refine run.regulated sound (run.count sound ▸ inside) ?_
  exact .of_empty (start_registry started id) (sound id) (start_lawful started id)

end Session

/-- Implementations return where they were called, and leave alone all images and the record of
    calls. -/
def Behaviour.Inert [NameHash] (behaviour : Behaviour) : Prop :=
  ∀ call session, Outcome (behaviour.body call session)
    (fun _ after => after.images = session.images ∧ session.Situated after ∧
      after.calls = session.calls) fun _ _ => False

/-- What is inert is passive. -/
theorem Behaviour.Inert.passive [NameHash] {behaviour : Behaviour} (inert : behaviour.Inert) :
    behaviour.Passive :=
  fun call session => (inert call session).imp fun _ _ same => ⟨same.1, same.2.1⟩

/-- Implementations that do nothing are inert. -/
theorem Behaviour.idle_inert [NameHash] : Behaviour.idle.Inert :=
  fun _ session => ⟨rfl, .refl session, rfl⟩

namespace Act

variable [NameHash] {α : Type}

/-- Registers signatures, one after the other. -/
def registerSelectors (id : ImageId) : List Signature → Act (Except Error Unit)
  | [] => return .ok ()
  | signature :: rest => do
    match ← findSelector (.intern id signature) with
    | .error error => return .error error
    | .ok _ => registerSelectors id rest

/-- Registers classes, one after the other, and gives those that could be registered. A class
    whose name is taken is passed over. -/
def registerClasses (behaviour : Behaviour) (id : ImageId) :
    List ClassDecl → Act (Except Error (List ClassId))
  | [] => return .ok []
  | decl :: rest => do
    match ← inRegistry id (editAndRun behaviour id (Edit.registerClass decl)) with
    | .error (.classAlreadyExists _) => registerClasses behaviour id rest
    | .error error => return .error error
    | .ok target =>
      match ← registerClasses behaviour id rest with
      | .error error => return .error error
      | .ok targets => return .ok (target :: targets)

/-- Registers categories, one after the other. -/
def registerCategories (behaviour : Behaviour) (id : ImageId) :
    List CategoryDecl → Act (Except Error Unit)
  | [] => return .ok ()
  | decl :: rest => do
    match ← inRegistry id (editAndRun behaviour id (Edit.insertCategory decl)) with
    | .error error => return .error error
    | .ok _ => registerCategories behaviour id rest

/-- Loads a module and gives the classes that could be registered. -/
def loadModule (behaviour : Behaviour) (id : ImageId) (decl : ModuleDecl) :
    Act (Except Error (List ClassId)) :=
  inRegistry id (editAndRun behaviour id (Edit.loadModule decl))

/-- Registers what a module declares one by one: its signatures, its classes and its categories.
    Gives the classes that could be registered. -/
def registerParts (behaviour : Behaviour) (id : ImageId) (decl : ModuleDecl) :
    Act (Except Error (List ClassId)) := do
  match ← registerSelectors id decl.signatures with
  | .error error => return .error error
  | .ok _ =>
    match ← registerClasses behaviour id decl.classes with
    | .error error => return .error error
    | .ok targets =>
      match ← registerCategories behaviour id decl.categories with
      | .error error => return .error error
      | .ok _ => return .ok targets

/-- Nothing has panicked, and nothing was refused for want of selectors. -/
def Unhindered (result : EStateM.Result Halt Session (Except Error α)) : Prop :=
  Outcome result (fun given _ => ∀ error, given = .error error → error ≠ .outOfSelectors)
    fun halt _ => ∀ panic, halt ≠ .panicked panic

end Act

/-- An image of a session has gathered what arrived, the hooks that became due have been called,
    and nothing else was called or changed. The image is in order then. -/
structure Session.Gathers [NameHash] (strict : Bool) (before : Session) (id : ImageId)
    (arrivals : List Arrival) (after : Session) : Prop where
  situated : before.Situated after
  count : after.images.size = before.images.size
  others : ∀ other, other ≠ id → after.image other = before.image other
  regulated : (after.image id).Regulated strict
  gathers : ∃ hooks, (before.image id).Gathers arrivals hooks (after.image id) ∧
    after.calls = before.calls ++ hooks.map (·.call id (before.image id).loadSelector)

namespace Session.Gathers

variable [NameHash] {strict : Bool} {before between after : Session} {id : ImageId}
  {arrivals more : List Arrival}

/-- Nothing has arrived where all images are the same. -/
theorem none (regulated : (before.image id).Regulated strict) (situated : before.Situated after)
    (count : after.images.size = before.images.size)
    (same : ∀ other, after.image other = before.image other)
    (calls : after.calls = before.calls) : before.Gathers strict id [] after := by
  refine ⟨situated, count, fun other _ => same other, ?_, [], ?_, ?_⟩
  · rw [same]
    exact regulated
  · rw [same]
    exact .refl _
  · rw [calls, List.map_nil, List.append_nil]

/-- What a session gathers twice in a row it gathers in that order. -/
theorem trans (first : before.Gathers strict id arrivals between)
    (second : between.Gathers strict id more after) :
    before.Gathers strict id (arrivals ++ more) after := by
  obtain ⟨hooks, gathers, calls⟩ := first.gathers
  obtain ⟨later, gathersLater, callsLater⟩ := second.gathers
  refine ⟨first.situated.trans second.situated, second.count.trans first.count,
    fun other different => ?_, second.regulated, hooks ++ later, gathers.trans gathersLater, ?_⟩
  · rw [second.others other different, first.others other different]
  · rw [callsLater, calls, gathers.loadSelector, List.map_append, List.append_assoc]

/-- What a draft has gathered has been gathered by whoever adopts it. -/
theorem adopted {draft : Draft} (existing : id < before.images.size)
    (regulated : (before.image id).Regulated strict)
    (gathers : (before.image id).Gathers arrivals draft.hooks draft.image)
    {strictly : Bool} (sound : draft.image.Sound strictly) (situated : before.Situated after)
    (images : after.images = (before.adopt id draft).images)
    (calls : after.calls =
      before.calls ++ draft.hooks.map (·.call id (before.image id).loadSelector)) :
    before.Gathers strictly id arrivals after := by
  obtain ⟨image, count⟩ := image_of_adopted images existing
  refine ⟨situated, count, fun other different => ?_, ?_, draft.hooks, image.symm ▸ gathers, calls⟩
  · have replaced := before.image_setImage id other draft.image
    rw [if_neg fun both => different both.1.symm] at replaced
    rw [← replaced, Session.image, images]
    rfl
  · rw [image]
    exact gathers.regulated regulated sound

/-- What has been gathered inside a registry has been gathered by whoever entered it. -/
theorem leave {entered : List (ImageId × Thread)}
    (gathers : Session.Gathers strict { before with entered } id arrivals after) :
    before.Gathers strict id arrivals { after with entered := before.entered } :=
  ⟨⟨gathers.situated.thread, rfl⟩, gathers.count, gathers.others, gathers.regulated,
    gathers.gathers⟩

/-- The names that are taken afterwards. -/
theorem names (gathers : before.Gathers strict id arrivals after) :
    (after.image id).registry.names = (before.image id).registry.names ++
      (arrivals.filterMap Arrival.class?).map ClassDecl.name := by
  obtain ⟨hooks, image, -⟩ := gathers.gathers
  exact image.names

end Session.Gathers

namespace Act

open Session

variable [NameHash] {α : Type} {strict : Bool} {behaviour : Behaviour} {session : Session}
  {id : ImageId}

/-- What is not hindered comes to its end. -/
theorem Unhindered.exists_ok {result : EStateM.Result Halt Session (Except Error α)} {value : α}
    {after : Session → Prop} (unhindered : Unhindered result)
    (outcome : Outcome result
      (fun given left => (given = .ok value ∧ after left) ∨ given = .error .outOfSelectors)
      fun halt _ => ∃ panic, halt = .panicked panic) :
    ∃ left, result = .ok (.ok value) left ∧ after left := by
  cases result with
  | ok given left =>
    rcases outcome with ⟨rfl, meets⟩ | rfl
    · exact ⟨left, rfl, meets⟩
    · exact absurd rfl (unhindered .outOfSelectors rfl)
  | error halt left =>
    obtain ⟨panic, rfl⟩ := outcome
    exact absurd rfl (unhindered panic)

/-- Whether a run comes to its end without a refusal, in a session that passes a check. -/
def ends (result : EStateM.Result Halt Session (Except Error α)) (check : Session → Bool) : Bool :=
  match result with
  | .ok (.ok _) after => check after
  | _ => false

end Act

namespace Session

variable [NameHash]

end Session

namespace Session

end Session

/-- A module that declares nothing still settles the image, unless sizes overflow. -/
theorem Edit.loadModule_nothing [NameHash] {strict : Bool} {draft : Draft}
    (sound : draft.image.Sound strict) (measured : draft.image.registry.Measured)
    (fits : ¬ draft.image.registry.Overflows) (name : String) :
    Outcome (Edit.loadModule ⟨name, [], [], []⟩ draft)
      (fun classes after => classes = [] ∧ draft.image.registry.Grows after.image.registry ∧
        after.image.registry.Settled)
      (fun _ _ => False) := by
  have settles := (settle_outcome sound.registry).and (settle_overflows sound.registry measured)
  simp only [loadModule, List.mapM_nil, pure_bind, outcome_bind]
  apply settles.mono
  · rintro _ after ⟨⟨⟨order, raises⟩, settled⟩, -⟩
    simp only [outcome_get, outcome_report, outcome_pure]
    exact ⟨rfl, (raises.advanced sound.registry).grows, settled⟩
  · rintro _ after ⟨-, -, overflows⟩
    exact fits overflows

namespace Act

open Session

variable [NameHash] {behaviour : Behaviour} {session : Session} {id : ImageId}

/-- So such a module loads every class whose names lead to a root. -/
theorem loadModule_nothing {strict : Bool} (inert : behaviour.Inert)
    (opened : session.isShut id = false) (existing : id < session.images.size)
    (sound : (session.image id).Sound strict) (measured : (session.image id).registry.Measured)
    (fits : ¬ (session.image id).registry.Overflows) (name : String) :
    ∃ loaded, loadModule behaviour id ⟨name, [], [], []⟩ session = .ok (.ok []) loaded ∧
      (session.image id).registry.Grows (loaded.image id).registry ∧
      (loaded.image id).registry.Settled := by
  let inside : Session := { session with entered := (id, session.thread) :: session.entered }
  have edited := @Edit.loadModule_nothing _ strict { image := inside.image id } sound measured fits
    name
  suffices ran : Outcome (loadModule behaviour id ⟨name, [], [], []⟩ session)
      (fun result after => result = .ok [] ∧
        (session.image id).registry.Grows (after.image id).registry ∧
        (after.image id).registry.Settled)
      (fun _ _ => False) by
    obtain ⟨_, loaded, isLoaded, rfl, given⟩ := ran.exists_ok
    exact ⟨loaded, isLoaded, given⟩
  rw [loadModule, outcome_inRegistry, if_neg (Bool.eq_false_iff.mp opened)]
  apply (editAndRun_passive inert.passive edited).mono
  · rintro result after ⟨draft, images, -, ended⟩
    have image : after.image id = draft.image := (image_of_adopted images existing).1
    cases result with
    | error error => exact ended.elim
    | ok classes =>
      rw [← image] at ended
      exact ⟨congrArg _ ended.1, ended.2⟩
  · rintro _ _ ⟨_, _, never⟩
    exact never.elim

end Act

namespace Session

/-- A module and its parts differ where a class has been left behind. Here a module was refused
    when selectors ran out, and its first class has not been loaded although it is a root. A second
    module, which declares nothing, loads that class. It has no parts, and registering none does
    nothing. -/
theorem Observed.module_parts_differ : ∃ session loaded : Session, session.Observed false ∧
    0 < session.images.size ∧
    Act.loadModule .idle 0 ⟨"Nothing", [], [], []⟩ session = .ok (.ok []) loaded ∧
    Act.registerParts .idle 0 ⟨"Nothing", [], [], []⟩ session = .ok (.ok []) session ∧
    (loaded.image 0).registry.reached 0 .loaded = true ∧
    (session.image 0).registry.reached 0 .loaded = false := by
  obtain ⟨session, observed, opened, registry⟩ :=
    @Observed.exists_left_behind [⟨"Left", none, 0, [], []⟩] (by simp)
  have size : (session.image 0).registry.size = 1 := by
    rw [registry]
    decide +kernel
  have chained : (session.image 0).registry.chain 0 = .ok [0] := by
    rw [registry]
    decide +kernel
  have waiting : (session.image 0).registry.reached 0 .loaded = false := by
    rw [registry]
    decide +kernel
  have fits : ¬ (session.image 0).registry.Overflows := by
    rintro ⟨id, path, inside, leads, tooLarge⟩
    obtain rfl : id = 0 := by omega
    obtain rfl : [0] = path := Except.ok.inj (chained.symm.trans leads)
    rw [registry] at tooLarge
    revert tooLarge
    decide +kernel
  have existing : 0 < session.images.size := by
    by_contra missing
    rw [image_of_size_le (Nat.le_of_not_lt missing)] at size
    cases size
  have sound := observed.sound.images 0
  have inside : 0 < (session.image 0).registry.size := size ▸ Nat.one_pos
  have ascent := (chain_eq_ok_iff sound.registry.formed.lt_of_find? inside).mp chained
  obtain ⟨loaded, isLoaded, grows, settled⟩ := Act.loadModule_nothing Behaviour.idle_inert opened
    existing sound (observed.measured 0) fits "Nothing"
  exact ⟨session, loaded, observed, existing, isLoaded, rfl,
    settled 0 [0] (inside.trans_le grows.size) (grows.ascent sound.registry.formed inside ascent),
    waiting⟩

end Session

end LateBinding
