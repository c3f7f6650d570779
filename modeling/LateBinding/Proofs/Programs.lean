import LateBinding.Proofs.Interning
import LateBinding.Proofs.Preparing

/-!
# Programs and what they can observe

A program is anything that uses a session from outside: it looks at it, makes requests in
any order and with any implementations and handler, which are programs themselves, takes
steps inside sections, notes down what it sees, and stops where it likes. A program that
stops inside an implementation leaves the session as it was there, so the sessions that
programs leave are all those that can be observed, between requests and during them.

Some statements are about runs in which selectors do not run out. A strict program goes no
further when a request is refused for want of them.
-/

namespace LateBinding

/-- A request names selectors that some table has handed out. -/
def Request.Issued : Request → Prop
  | .replaceMethod _ (.number selector) _ => selector < SparseMap.capacity
  | _ => True

/-- A request that adds classes, if their names are not taken. -/
def Request.AddsClasses : Request → Prop
  | .registerClass _ | .loadModule _ => True
  | _ => False

/-- The behaviour in which the begin and the end of every implementation is noted down. -/
def Behaviour.noting [NameHash] (behaviour : Behaviour) : Behaviour where
  body call := do
    Act.note (.called call)
    behaviour.body call
    Act.note (.returned call)
  handler := behaviour.handler

namespace Act

variable [NameHash]

/-- An action that, if it is to be strict, ends the run when selectors have run out. -/
def insist (strict : Bool) (act : Act Answer) : Act Answer := do
  match ← act with
  | .refused .outOfSelectors =>
    if strict then throw (.fatal .outOfSelectors) else return .refused .outOfSelectors
  | answer => return answer

/-- Makes a request, and notes down what is asked and what is answered. -/
def askingNow (behaviour : Behaviour) (id : ImageId) (asked : Request) : Act Answer := do
  let place := (← get).notes.length
  note (.asked id asked)
  let answer ← asked.run behaviour.noting id
  note (.answered place answer)
  return answer

/-- Makes a request. One that registers something is made when it has its turn in the registry. -/
def asking (behaviour : Behaviour) (id : ImageId) (asked : Request) : Act Answer := do
  if asked.registers then awaitRegistry id
  askingNow behaviour id asked

/-- The actions of programs. -/
inductive Public (strict : Bool) : {α : Type} → Act α → Prop
  | done {α : Type} (value : α) : Public strict (pure value)
  /-- Stops for good. -/
  | stop {α : Type} (halt : Halt) : Public strict (throw halt : Act α)
  | next {α β : Type} {first : Act α} {rest : α → Act β} (begun : Public strict first)
      (continued : ∀ value, Public strict (rest value)) : Public strict (first >>= rest)
  | look : Public strict (get : Act Session)
  | note : Public strict (note .looked)
  | request {behaviour : Behaviour} (id : ImageId) (asked : Request) (issued : asked.Issued)
      (bodies : ∀ call, Public strict (behaviour.body call))
      (handlers : ∀ id handle selector, Public strict (behaviour.handler id handle selector)) :
      Public strict (insist strict (asking behaviour id asked))
  | inSection {α : Type} (id : ImageId) (object : Object) {act : Act α}
      (inside : Public strict act) : Public strict (inSection id object act)
  | setForward (behaviour : Behaviour) (id : ImageId) (imp : Imp) (actions : List Step)
      (again : Bool) : Public strict ((Step.setForward id imp actions again).run behaviour)

end Act

/-- A session that a program can observe: one that it leaves at its end or where it waits
    for good, when it started with new images. -/
def Session.Observed [NameHash] (strict : Bool) (session : Session) : Prop :=
  ∃ threshold configs first, Session.start threshold configs = .ok first ∧
    ∃ (α : Type) (program : Act α), program.Public strict ∧
      ((∃ value, program first = .ok value session) ∨ program first = .error .deadlocked session)

/-- Whatever a request that adds no classes can halt with is among these ways to halt: what is
    tolerated anywhere, what preparing a class can come to, and what the handler can. -/
structure Behaviour.Allows [NameHash] (behaviour : Behaviour) (strict : Bool)
    (stops : Halt → Session → Prop) : Prop extends Act.Tolerant stops where
  preparing : ∀ halt after, behaviour.Stops strict halt after → stops halt after
  handling : ∀ id handle selector, Act.Keeps strict stops (behaviour.handler id handle selector)

/-- A behaviour that keeps sessions in order allows for whatever halts it. -/
theorem Behaviour.Keeps.allows [NameHash] {behaviour : Behaviour} {strict : Bool}
    (keeps : behaviour.Keeps strict) : behaviour.Allows strict Act.anyhow where
  toTolerant := Act.tolerant_anyhow
  preparing _ _ _ := trivial
  handling := keeps.handler

namespace Act

variable [NameHash] {α : Type} {strict : Bool} {behaviour : Behaviour}
  {stops : Halt → Session → Prop}

/-- What is known of the selector that a query gives. -/
def Gives : SelectorQuery → Selector → Prop
  | .number given, selector => selector = given
  | .intern _ _, selector => selector < SparseMap.capacity

/-- Whatever goes on with a selector goes on with none. -/
theorem withSelector_keeps {query : SelectorQuery} {next : Selector → Act Answer}
    (interning : ∀ after, stops (.panicked .productOverflow) after)
    (further : ∀ selector, Gives query selector → Keeps strict stops (next selector)) :
    Keeps strict stops (withSelector query next) := by
  intro session sound
  simp only [withSelector, outcome_bind]
  cases query with
  | number given => exact further given rfl session sound
  | intern id signature =>
    have interned := @Edit.intern_outcome _ strict { image := session.image id } (sound.images id)
      signature
    simp only [findSelector, outcome_bind]
    apply (edit_outcome interned).mono
    · rintro result _ ⟨draft, rfl, given⟩
      cases result with
      | ok value =>
        have moves : session.Moves strict (session.adopt id draft) := .adopt sound given.2.1
        have rest := resume moves (further value.1 given.1 _ moves.sound) fun _ after again =>
          moves.trans again
        exact rest
      | error error => exact .adopt sound given.2.1
    · rintro _ after ⟨panic, draft, rfl, -, impossible | same, -⟩
      · cases impossible
      · cases same
        exact ⟨interning after, fun impossible => by cases impossible⟩

/-- Replacing a method keeps a session in order if the selector is one that a table has handed
    out. -/
theorem replacing_keeps (tolerant : Tolerant stops) (id : ImageId) {target : ClassQuery}
    {query : SelectorQuery} {imp : Imp} (issued : (Request.replaceMethod target query imp).Issued) :
    Keeps strict stops ((Request.replaceMethod target query imp).run behaviour id) := by
  have composed : Composed (Keeps strict stops) := keeps_composed tolerant
  refine composed.withClass fun handle => withSelector_keeps tolerant.interning
    fun selector gives => composed.bind (composed.replaceMethod ?_) fun _ => composed.pure _
  have fits : selector < SparseMap.capacity := by
    cases query with
    | number given => exact gives ▸ issued
    | intern _ _ => exact gives
  refine edit_keeps id (Edit.replaceMethod_keeps handle.ref imp fits) ?_
  intro draft sound panic left ended
  have outcome := Edit.replaceMethod_outcome sound handle.ref imp fits
  rw [ended] at outcome
  exact outcome.elim

/-- Registering a category keeps a session in order, and what can halt it is an implementation
    or the load of the selector table. -/
theorem registerCategory_keeps (tolerant : Tolerant stops) (keeps : behaviour.Keeps strict)
    (stopping : ∀ halt after, behaviour.Halts halt after → stops halt after) (id : ImageId)
    (decl : CategoryDecl) :
    Keeps strict stops ((Request.registerCategory decl).run behaviour id) := by
  have composed : Composed (Keeps strict stops) := keeps_composed tolerant
  refine composed.registerCategory (fun made => (call_keeps keeps made).mono stopping) ?_
  refine edit_keeps id (Edit.insertCategory_keeps decl) ?_
  intro draft sound panic left ended
  have outcome := Edit.insertCategory_outcome sound decl
  rw [ended] at outcome
  obtain ⟨impossible | same, -⟩ := outcome
  · cases impossible
  · cases same
    exact tolerant.interning

/-- Registering a class keeps a session in order. -/
theorem registerClass_keeps (keeps : behaviour.Keeps strict) (id : ImageId) (decl : ClassDecl) :
    Keeps strict anyhow ((Request.registerClass decl).run behaviour id) := by
  have composed : Composed (Keeps strict anyhow) := keeps_composed tolerant_anyhow
  exact composed.registerClass (fun made => (call_keeps keeps made).mono fun _ _ _ => trivial)
    (edit_keeps id (Edit.registerClass_keeps decl) fun _ _ _ _ _ _ => trivial)

/-- Loading a module keeps a session in order, unless it is refused for want of selectors. -/
theorem loadModule_outcome (keeps : behaviour.Keeps strict) (id : ImageId) (decl : ModuleDecl)
    {session : Session} (sound : session.Sound strict) :
    Outcome ((Request.loadModule decl).run behaviour id session)
      (fun answer after => session.Moves strict after ∨
        answer = .refused .outOfSelectors ∧ strict = true)
      (fun halt after => halt = .deadlocked → session.Moves strict after) := by
  simp only [Request.run, outcome_bind, outcome_inRegistry]
  split
  · exact fun _ => .refl sound
  let inside : Session := { session with entered := (id, session.thread) :: session.entered }
  have entering : session.Moves strict inside := .of_same sound rfl rfl
  have loaded := @Edit.loadModule_outcome _ strict { image := inside.image id }
    (entering.sound.images id) decl
  simp only [editAndRun, outcome_bind]
  apply (edit_outcome loaded).mono
  · rintro result _ ⟨draft, rfl, given⟩
    cases result with
    | ok value =>
      have moves := entering.trans (.adopt entering.sound given)
      simp only [outcome_bind, outcome_pure, outcome_get]
      apply (runHooks_keeps keeps id value.2 _ moves.sound).mono
      · intro _ after further
        exact .inl ((moves.trans further).trans (.of_same further.sound rfl rfl))
      · rintro halt after ⟨-, further⟩
        cases halt with
        | panicked panic => exact fun impossible => by cases impossible
        | aborted panic => exact fun impossible => by cases impossible
        | fatal error => exact fun impossible => by cases impossible
        | deadlocked => exact fun waits => moves.trans (further waits)
    | error error =>
      obtain ⟨rfl, kept⟩ := given error rfl
      cases strict
      · have moves := entering.trans (.adopt entering.sound kept)
        exact .inl (moves.trans (.of_same moves.sound rfl rfl))
      · exact .inr ⟨rfl, rfl⟩
  · rintro _ after ⟨panic, draft, rfl, -, -⟩
    exact fun impossible => by cases impossible

/-- Every request that adds no classes keeps a session in order, and halts in the ways that are
    allowed. -/
theorem other_keeps (keeps : behaviour.Keeps strict) (allows : behaviour.Allows strict stops)
    (id : ImageId) {asked : Request} (issued : asked.Issued) (others : ¬ asked.AddsClasses) :
    Keeps strict stops (asked.run behaviour id) := by
  have tolerant := allows.toTolerant
  have composed : Composed (Keeps strict stops) := keeps_composed tolerant
  have stopping : ∀ halt after, behaviour.Halts halt after → stops halt after :=
    fun halt after halts => allows.preparing halt after (.inl halts)
  have waiting : ∀ after, stops .deadlocked after :=
    tolerant.calm _ fun _ impossible => by cases impossible
  cases asked.kind with
  | plain isPlain => exact composed.plainRequest isPlain
  | message given =>
    exact composed.messageRequest (fun made _ => (call_keeps keeps made).mono stopping) given
      (prepare_keeps keeps allows.preparing waiting id) allows.handling
  | replacing target query imp => exact replacing_keeps tolerant id issued
  | registering registers =>
    cases asked with
    | registerCategory decl => exact registerCategory_keeps tolerant keeps stopping id decl
    | registerClass decl => exact absurd trivial others
    | loadModule decl => exact absurd trivial others
    | _ => cases registers

/-- Insisting on selectors only adds a halt. -/
theorem insist_keeps {act : Act Answer} (keeps : Keeps strict anyhow act) :
    Keeps strict anyhow (insist strict act) := by
  refine keeps.bind fun answer => ?_
  split
  · split
    · exact .throw fun _ => trivial
    · exact .pure _
  · exact .pure _

/-- A request that keeps a session in order does so when it is noted down. -/
theorem asking_keeps {id : ImageId} {asked : Request}
    (keeps : Keeps strict anyhow (asked.run behaviour.noting id)) :
    Keeps strict anyhow (asking behaviour id asked) := by
  have sequential : Sequential (Keeps strict anyhow) := keeps_sequential tolerant_anyhow
  have noted : Keeps strict anyhow (askingNow behaviour id asked) :=
    Keeps.get.bind fun _ => (note_keeps _).bind fun _ => keeps.bind fun _ =>
      (note_keeps _).bind fun _ => .pure _
  unfold asking
  split
  · exact (sequential.awaitRegistry id).bind fun _ => noted
  · exact noted

/-- Taking notes touches no image. -/
theorem noting_keeps (keeps : behaviour.Keeps strict) : behaviour.noting.Keeps strict where
  body call := (note_keeps _).bind fun _ => (keeps.body call).bind fun _ => note_keeps _
  handler := keeps.handler

/-- A strict program does not go on from a module that was refused for want of selectors. -/
theorem insist_loadModule_keeps (keeps : behaviour.Keeps strict) (id : ImageId)
    (decl : ModuleDecl) :
    Keeps strict anyhow (insist strict (asking behaviour id (.loadModule decl))) := by
  intro session sound
  simp only [insist, asking, askingNow, Request.registers, if_true, outcome_bind, outcome_get,
    outcome_awaitRegistry]
  split
  · exact ⟨trivial, fun _ => .refl sound⟩
  have noted := Session.Moves.note sound (.asked id (.loadModule decl))
  apply (loadModule_outcome (noting_keeps keeps) id decl noted.sound).mono
  · rintro answer after (moves | ⟨rfl, rfl⟩)
    · have moved := noted.trans moves
      have ended := moved.trans (.note moved.sound (.answered session.notes.length answer))
      simp only [outcome_pure]
      split
      · split
        · exact ⟨trivial, fun impossible => by cases impossible⟩
        · exact ended
      · exact ended
    · exact ⟨trivial, fun impossible => by cases impossible⟩
  · intro halt after moves
    exact ⟨trivial, fun waits => noted.trans (moves waits)⟩

/-- Every request keeps a session in order, except that a module may run out of selectors. -/
theorem request_keeps (keeps : behaviour.Keeps strict) (id : ImageId) (asked : Request)
    (issued : asked.Issued) : Keeps strict anyhow (insist strict (asking behaviour id asked)) := by
  have noting := noting_keeps keeps
  cases asked with
  | loadModule decl => exact insist_loadModule_keeps keeps id decl
  | registerClass decl => exact insist_keeps (asking_keeps (registerClass_keeps noting id decl))
  | _ => exact insist_keeps (asking_keeps (other_keeps noting noting.allows id issued not_false))

/-- Every program keeps a session in order. -/
theorem Public.keeps {program : Act α} (isPublic : program.Public strict) :
    Keeps strict anyhow program := by
  have composed : Composed (Keeps strict anyhow) := keeps_composed tolerant_anyhow
  induction isPublic with
  | done value => exact .pure value
  | stop halt => exact .throw fun _ => trivial
  | next _ _ begun continued => exact begun.bind continued
  | look => exact .get
  | note => exact note_keeps _
  | request id asked issued _ _ bodies handlers =>
    exact request_keeps ⟨bodies, handlers⟩ id asked issued
  | inSection id object _ inside => exact composed.inSection id object inside
  | setForward behaviour id imp actions again =>
    exact composed.setForward behaviour id imp actions again

end Act

/-- An empty table is within its bounds. -/
theorem SelectorTable.bounded_empty {hash : String → Nat} (buckets : Nat) (load : LoadFactor)
    (limit : Nat) : (empty buckets load limit : SelectorTable hash).Bounded :=
  ⟨Nat.zero_le _, Nat.min_le_right _ _⟩

namespace Image

variable [NameHash] {strict : Bool}

/-- An image without classes is in order. -/
theorem sound_of_empty {image : Image} (registry : image.registry = .empty)
    (selectors : image.selectors.Bounded) : image.Sound strict := by
  refine ⟨?_, selectors, fun _ => ?_⟩
  · rw [registry]
    exact Registry.sound_empty
  · rw [registry]
    exact fun id path inside => absurd inside (Nat.not_lt_zero id)

/-- What there is in a new image: no classes, and two signatures. -/
theorem create_cases {config : Config} {image : Image} {reports : List Log.Message}
    (created : create config = .ok (image, reports)) :
    ∃ table, config.selectorTable = .ok table ∧ image.registry = .empty ∧
      image.selectors = ((table.intern loadSignature).table.intern initSignature).table ∧
      reserved (table.intern loadSignature) = .ok image.loadSelector ∧
      reserved ((table.intern loadSignature).table.intern initSignature) =
        .ok image.initSelector := by
  unfold create at created
  cases made : (config.selectorTable : Except Panic (SelectorTable NameHash.hash)) with
  | error panic =>
    rw [made] at created
    cases created
  | ok table =>
    simp only [made, bind, Except.bind, pure, Except.pure] at created
    split at created
    · cases created
    · split at created
      · cases created
      · rename_i load loaded _ init initialized
        cases created
        exact ⟨table, rfl, rfl, rfl, loaded, initialized⟩

/-- A new image is in order. -/
theorem create_sound {config : Config} {image : Image} {reports : List Log.Message}
    (created : create config = .ok (image, reports)) : image.Sound strict := by
  obtain ⟨table, made, registry, selectors, -⟩ := create_cases created
  have bounded : table.Bounded := by
    obtain ⟨count, -, rfl⟩ := SelectorTable.create_cases made
    exact SelectorTable.bounded_empty _ _ _
  refine sound_of_empty registry ?_
  rw [selectors]
  exact ((bounded.intern loadSignature).1.intern initSignature).1

end Image

namespace Session

variable [NameHash] {strict : Bool}

/-- All images are in order and nothing has been noted. -/
structure Fresh (strict : Bool) (session : Session) : Prop where
  images : ∀ id, (session.image id).Sound strict
  silent : session.notes = []

/-- A session without images is fresh. -/
theorem fresh_idle (threshold : Log.Level) : (idle threshold).Fresh strict where
  images id := by
    have vacant : (idle threshold).image id = default := rfl
    rw [vacant]
    exact Image.sound_of_empty rfl (SelectorTable.bounded_empty _ _ _)
  silent := rfl

/-- The session that adding an image leads to. -/
theorem addImage_eq (session : Session) (config : Config) :
    session.addImage config = (Image.create config).map fun made =>
      { session with
        threshold := config.level.getD session.threshold
        images := session.images.push made.1 }.log made.2 := by
  unfold addImage
  cases Image.create config <;> rfl

/-- Adding an image creates one, and logs what its creation reports. Nothing is noted, and no
    registry is entered. -/
theorem addImage_cases {session after : Session} {config : Config}
    (added : session.addImage config = .ok after) :
    ∃ image reports threshold, Image.create config = .ok (image, reports) ∧
      (∀ id, after.image id = if id = session.images.size then image else session.image id) ∧
      after.events.toList = session.events.toList ++ admitted threshold reports ∧
      after.notes = session.notes ∧ after.entered = session.entered := by
  unfold Session.addImage at added
  cases created : Image.create config with
  | error panic =>
    rw [created] at added
    cases added
  | ok made =>
    simp only [created, bind, Except.bind, pure, Except.pure, Except.ok.injEq] at added
    subst added
    refine ⟨made.1, made.2, _, rfl, fun id => ?_, Array.toList_appendList, rfl, rfl⟩
    change (session.images.push made.1).getD id default = _
    rw [Array.getD_eq_getD_getElem?, Array.getElem?_push]
    split
    · rfl
    · rw [← Array.getD_eq_getD_getElem?]
      rfl

/-- It stays fresh when an image is added. -/
theorem Fresh.addImage {session after : Session} (fresh : session.Fresh strict) {config : Config}
    (added : session.addImage config = .ok after) : after.Fresh strict := by
  obtain ⟨image, reports, threshold, created, images, -, notes, -⟩ := addImage_cases added
  refine ⟨fun id => ?_, notes.trans fresh.silent⟩
  rw [images]
  split
  · exact Image.create_sound created
  · exact fresh.images id

/-- What holds without images and is kept by adding one holds of every session that has just
    been started. -/
theorem start_induction {motive : Session → Prop} (none : ∀ threshold, motive (idle threshold))
    (more : ∀ {session after : Session} {config : Config}, session.addImage config = .ok after →
      motive session → motive after)
    {threshold : Log.Level} {configs : List Config} {first : Session}
    (started : start threshold configs = .ok first) : motive first := by
  have created : ∀ session : Session, motive session →
      configs.foldlM Session.addImage session = .ok first → motive first := by
    clear started
    induction configs with
    | nil =>
      intro session given ended
      cases ended
      exact given
    | cons config rest inductionHypothesis =>
      intro session given ended
      rw [List.foldlM_cons] at ended
      cases added : session.addImage config with
      | error panic =>
        rw [added] at ended
        cases ended
      | ok next =>
        rw [added] at ended
        exact inductionHypothesis next (more added given) ended
  exact created (idle threshold) (none threshold) started

/-- New images have no classes. -/
theorem start_registry {threshold : Log.Level} {configs : List Config} {first : Session}
    (started : start threshold configs = .ok first) (id : ImageId) :
    (first.image id).registry = .empty := by
  refine @start_induction _ (fun session => ∀ id, (session.image id).registry = .empty)
    (fun _ _ => rfl) ?_ threshold configs first started id
  intro session after config added blank id
  obtain ⟨image, reports, threshold, created, images, -⟩ := addImage_cases added
  obtain ⟨-, -, registry, -⟩ := Image.create_cases created
  rw [images]
  split
  · exact registry
  · exact blank id

/-- A session with new images is in order. -/
theorem start_sound {threshold : Log.Level} {configs : List Config} {first : Session}
    (started : start threshold configs = .ok first) : first.Sound strict := by
  obtain ⟨images, silent⟩ := start_induction fresh_idle (fun added fresh => fresh.addImage added)
    started
  refine ⟨images, fun note member => ?_, ?_⟩
  · rw [silent] at member
    cases member
  · rw [silent]
    exact .nil

/-- Whatever can be observed is in order. -/
theorem Observed.sound {session : Session} (observed : session.Observed strict) :
    session.Sound strict := by
  obtain ⟨threshold, configs, first, started, α, program, isPublic, ended⟩ := observed
  have outcome := isPublic.keeps first (start_sound started)
  rcases ended with ⟨value, returned⟩ | waits
  · rw [returned] at outcome
    exact outcome.sound
  · rw [waits] at outcome
    exact (outcome.2 rfl).sound

end Session

/-- Implementations and a handler that do nothing. -/
def Behaviour.idle [NameHash] : Behaviour where
  body _ := pure ()
  handler _ _ _ := pure 0

namespace Act

variable [NameHash] {α : Type}

/-- A program that makes requests to one image in turn. -/
def inTurn (strict : Bool) (behaviour : Behaviour) (id : ImageId) : List Request → Act Unit
  | [] => pure ()
  | asked :: rest => do
    let _ ← insist strict (asking behaviour id asked)
    inTurn strict behaviour id rest

/-- A program that makes requests in turn is public. -/
theorem inTurn_public {strict : Bool} {behaviour : Behaviour}
    (bodies : ∀ call, (behaviour.body call).Public strict)
    (handlers : ∀ id handle selector, (behaviour.handler id handle selector).Public strict)
    (id : ImageId) {requests : List Request} (issued : ∀ asked ∈ requests, asked.Issued) :
    (inTurn strict behaviour id requests).Public strict := by
  induction requests with
  | nil => exact .done ()
  | cons asked rest inductionHypothesis =>
    refine .next (.request id asked (issued asked List.mem_cons_self) bodies handlers) fun _ => ?_
    exact inductionHypothesis fun later member => issued later (List.mem_cons_of_mem _ member)

/-- Whether a program that starts with new images comes to its end, in a session that passes
    a check. -/
def reaches (threshold : Log.Level) (configs : List Config) (program : Act α)
    (check : Session → Bool) : Bool :=
  match Session.start threshold configs with
  | .error _ => false
  | .ok first =>
    match program first with
    | .ok _ after => check after
    | .error _ _ => false

/-- A run that is computed is a run. -/
theorem exists_of_reaches {threshold : Log.Level} {configs : List Config} {program : Act α}
    {check : Session → Bool} (reached : reaches threshold configs program check = true) :
    ∃ first value after, Session.start threshold configs = .ok first ∧
      program first = .ok value after ∧ check after = true := by
  unfold reaches at reached
  split at reached
  · cases reached
  · rename_i first started
    split at reached
    · rename_i value after returned
      exact ⟨first, value, after, started, returned, reached⟩
    · cases reached

/-- The panic that an action ends with, if it does. -/
def panic? : EStateM.Result Halt Session α → Option Panic
  | .error (.panicked panic) _ => some panic
  | _ => none

/-- A halt is by a panic if it says so. -/
theorem panic?_error_eq_some {halt : Halt} {after : Session} {panic : Panic} :
    panic? (.error halt after : EStateM.Result Halt Session α) = some panic ↔
      halt = .panicked panic := by
  cases halt <;> simp [panic?]

/-- An action panics if it halts so. -/
theorem panic?_eq_some {result : EStateM.Result Halt Session α} {panic : Panic} :
    panic? result = some panic ↔ ∃ after, result = .error (.panicked panic) after := by
  cases result with
  | ok value after => simp [panic?]
  | error halt after => simp [panic?_error_eq_some]

/-- A run that is computed gives a session that can be observed. -/
theorem Public.exists_observed {strict : Bool} {program : Act α} (isPublic : program.Public strict)
    (threshold : Log.Level) (configs : List Config) (check : Session → Bool)
    (reached : reaches threshold configs program check = true) :
    ∃ session : Session, session.Observed strict ∧ check session = true := by
  obtain ⟨first, value, after, started, returned, checked⟩ := exists_of_reaches reached
  exact ⟨after, ⟨threshold, configs, first, started, α, program, isPublic, .inl ⟨value, returned⟩⟩,
    checked⟩

end Act

end LateBinding
