import LateBinding.Proofs.Passages
import LateBinding.Proofs.Programs

/-!
# Every run has a course

Calls are nested, and an implementation that is called takes a passage of its own, between the
note of its begin and that of its end. So every action that leads to calls takes a passage if its
implementations do.

A passage starts where every class that is marked is marked by a thread inside its registry.
Whoever prepares a class has got into the registry, so no class that it does not serve is marked.
-/

namespace LateBinding

/-- An action does nothing to images but for sections and forwarding, calls and notes nothing,
    and ends on its thread and inside the same registries. -/
def Act.Rests [NameHash] {α : Type} (act : Act α) : Prop :=
  ∀ session : Session, Outcome (act session)
    (fun _ after => session.Rests after ∧ after.thread = session.thread ∧
      after.entered = session.entered)
    (fun _ after => session.Rests after)

/-- An action takes a passage to its end, or to a point where it waits for good. -/
def Act.Records [NameHash] {α : Type} (strict : Bool) (act : Act α) : Prop :=
  ∀ session : Session, session.Sound strict → session.Held →
    Outcome (act session) (fun _ after => session.Ends strict [] [] after)
      (fun halt after => halt = .deadlocked → session.Waits strict [] after)

/-- Implementations and the handler keep a session in order and take passages. -/
structure Behaviour.Records [NameHash] (strict : Bool) (behaviour : Behaviour) : Prop where
  keeps : behaviour.Keeps strict
  body : ∀ call, Act.Records strict (behaviour.body call)
  handler : ∀ id handle selector, Act.Records strict (behaviour.handler id handle selector)

namespace Session

variable [NameHash] {strict : Bool} {session inner between after : Session} {owed due : List Call}

/-- Going into a registry or to another thread is a passage. -/
theorem Passage.of_same (sound : session.Sound strict) (images : inner.images = session.images)
    (events : inner.events = session.events) (notes : inner.notes = session.notes)
    (owed : List Call) : ∃ course, session.Passage strict owed course [] owed inner :=
  ⟨_, (Rests.of_same images (by rw [calls, events, calls]) notes).passage
    (.of_same sound images notes) sound owed⟩

/-- What is done inside a registry or on another thread is done on the way. -/
theorem Ends.enclosed {first last : Session} (ends : inner.Ends strict owed due between)
    (sound : first.Sound strict) (images : inner.images = first.images)
    (events : inner.events = first.events) (notes : inner.notes = first.notes)
    (imagesAfter : last.images = between.images) (eventsAfter : last.events = between.events)
    (notesAfter : last.notes = between.notes) (thread : last.thread = first.thread)
    (entered : last.entered = first.entered) : first.Ends strict owed due last := by
  obtain ⟨before, enters⟩ := Passage.of_same sound images events notes owed
  obtain ⟨course, passage⟩ := ends.passage
  obtain ⟨rest, leaves⟩ :=
    Passage.of_same passage.moves.sound imagesAfter eventsAfter notesAfter due
  exact ⟨⟨_, (enters.trans passage).trans leaves⟩, thread, entered⟩

/-- Whoever waits for good inside something waits for good. -/
theorem Waits.enclosed {first : Session} (waits : inner.Waits strict owed after)
    (sound : first.Sound strict) (images : inner.images = first.images)
    (events : inner.events = first.events) (notes : inner.notes = first.notes) :
    first.Waits strict owed after := by
  obtain ⟨before, enters⟩ := Passage.of_same sound images events notes owed
  obtain ⟨course, running, later, passage, inside⟩ := waits
  exact ⟨_, running, later, enters.trans passage, inside⟩

/-- A run that waits where it starts. -/
theorem Waits.refl (sound : session.Sound strict) : session.Waits strict [] session :=
  ⟨[], [], [], .refl sound [], fun impossible => absurd rfl impossible⟩

/-- Marks are looked after inside one more registry as well. -/
theorem Held.enter (held : session.Held) (id : ImageId) :
    Held { session with entered := (id, session.thread) :: session.entered } :=
  fun other target thread marked => List.mem_cons_of_mem _ (held other target thread marked)

/-- Whoever has just got into a registry can go on there. -/
theorem isShut_enter {id : ImageId} (opened : session.isShut id = false) :
    isShut { session with entered := (id, session.thread) :: session.entered } id = false := by
  rw [isShut] at opened
  simp only [isShut, List.any_cons, opened, bne_self_eq_false, Bool.and_false, Bool.false_or]

end Session

namespace Act

open Session

variable [NameHash] {α β : Type} {strict : Bool} {session between : Session} {owed due : List Call}

/-- What an action does from where a run has got to, in terms of where it started. -/
theorem carryOn (ends : session.Ends strict owed due between)
    {result : EStateM.Result Halt Session α} {done later : α → Session → Prop}
    (outcome : Outcome result done fun halt after =>
      halt = .deadlocked → between.Waits strict due after)
    (ended : ∀ value after, done value after → later value after) :
    Outcome result later fun halt after => halt = .deadlocked → session.Waits strict owed after :=
  outcome.mono ended fun _ _ waits deadlocked => ends.waits (waits deadlocked)

/-- A value rests. -/
theorem Rests.pure (value : α) : Rests (Pure.pure value) :=
  fun _ => ⟨.of_same rfl rfl rfl, rfl, rfl⟩

/-- So does halting. -/
theorem Rests.throw (halt : Halt) : Rests (throw halt : Act α) := fun _ => .of_same rfl rfl rfl

/-- A change of what is neither an image nor a call nor a note. -/
theorem Rests.modify {change : Session → Session}
    (images : ∀ session, (change session).images = session.images)
    (calls : ∀ session, (change session).calls = session.calls)
    (notes : ∀ session, (change session).notes = session.notes)
    (thread : ∀ session, (change session).thread = session.thread)
    (entered : ∀ session, (change session).entered = session.entered) :
    Rests (modify change : Act PUnit) :=
  fun session => ⟨.of_same (images session) (calls session) (notes session), thread session,
    entered session⟩

/-- A report is neither a call nor a note. -/
theorem report_rests (level : Log.Level) (text : String) : Rests (report level text) :=
  .modify (fun _ => rfl) (fun session => session.calls_log _) (fun _ => rfl) (fun _ => rfl)
    fun _ => rfl

/-- Neither is an event that is no call. -/
theorem emit_rests {event : Event} (uncalled : event.call? = none) : Rests (emit event) := by
  refine .modify (fun _ => rfl) (fun session => ?_) (fun _ => rfl) (fun _ => rfl) fun _ => rfl
  simp [calls, uncalled]

/-- A change that leaves images alike rests. -/
theorem modifyImage_rests (id : ImageId) {change : Image → Image}
    (alike : ∀ image : Image, image.Alike (change image)) : Rests (modifyImage id change) := by
  intro session
  refine ⟨⟨by simp [Session.setImage], fun other => ?_, rfl, rfl⟩, rfl, rfl⟩
  rw [image_setImage]
  split
  · rename_i same
    rw [← same.1]
    exact alike _
  · exact .refl _

/-- What rests records nothing, and leaves no gap. -/
theorem Records.of_rests {act : Act α} (keeps : Keeps strict anyhow act) (rests : Rests act) :
    Records strict act := by
  intro session sound _
  apply ((keeps session sound).and (rests session)).mono
  · rintro value after ⟨moves, rested, thread, entered⟩
    exact rested.ends moves sound thread entered []
  · rintro halt after ⟨⟨-, moves⟩, rested⟩ deadlocked
    exact ⟨_, [], [], rested.passage (moves deadlocked) sound [],
      fun impossible => absurd rfl impossible⟩

/-- A value leaves nothing to record. -/
theorem Records.pure (value : α) : Records strict (Pure.pure value) :=
  .of_rests (.pure value) (.pure value)

/-- Neither does halting. -/
theorem Records.throw (halt : Halt) : Records strict (throw halt : Act α) :=
  .of_rests (.throw fun _ => trivial) (.throw halt)

/-- Neither does looking at the session. -/
theorem Records.get : Records strict (MonadState.get : Act Session) :=
  fun _ sound _ => .refl sound []

/-- Two actions in a row record what each of them does. -/
theorem Records.bind {first : Act α} {next : α → Act β} (records : Records strict first)
    (further : ∀ value, Records strict (next value)) : Records strict (first >>= next) := by
  intro session sound held
  rw [outcome_bind]
  apply (records session sound held).imp
  intro value between ends
  exact carryOn ends (further value between ends.moves.sound (ends.held held))
    fun _ _ again => ends.trans again

/-- A change of a session that touches nothing of this leaves nothing to record. -/
theorem Records.modify {change : Session → Session}
    (images : ∀ session, (change session).images = session.images)
    (calls : ∀ session, (change session).calls = session.calls)
    (notes : ∀ session, (change session).notes = session.notes)
    (thread : ∀ session, (change session).thread = session.thread)
    (entered : ∀ session, (change session).entered = session.entered) :
    Records strict (modify change : Act PUnit) :=
  .of_rests (.modify fun session sound => .of_same sound (images session) (notes session))
    (.modify images calls notes thread entered)

/-- A panic that is stopped on its way does not look like waiting. -/
theorem sealedOff_waits {act : Act α} {done : α → Session → Prop} {waits : Session → Prop}
    (outcome : Outcome (act session) done fun halt after => halt = .deadlocked → waits after) :
    Outcome (sealedOff act session) done fun halt after => halt = .deadlocked → waits after := by
  unfold sealedOff
  cases ended : act session with
  | ok value after =>
    rw [ended] at outcome
    exact outcome
  | error halt after =>
    rw [ended] at outcome
    cases halt with
    | panicked panic => exact fun impossible => by cases impossible
    | aborted panic => exact outcome
    | fatal error => exact outcome
    | deadlocked => exact outcome

/-- Nor does a panic on whose way something is done that does not wait. -/
theorem passing_waits {closing : Act Unit} {waits : Session → Prop}
    (calm : ∀ session, Outcome (closing session) (fun _ _ => True)
      fun halt _ => halt ≠ .deadlocked)
    (halt : Halt) (after : Session) (given : halt = .deadlocked → waits after) :
    passing closing (fun halt after => halt = .deadlocked → waits after) halt after := by
  cases halt with
  | panicked panic =>
    exact (calm after).mono (fun _ _ _ impossible => by cases impossible)
      fun _ _ other deadlocked => absurd deadlocked other
  | aborted panic => exact given
  | fatal error => exact given
  | deadlocked => exact given

/-- An action takes a passage inside a registry as well. -/
theorem Records.inRegistry (id : ImageId) {act : Act α} (records : Records strict act) :
    Records strict (inRegistry id act) := by
  intro session sound held
  rw [outcome_inRegistry]
  split
  · exact fun _ => .refl sound
  · let inside : Session := { session with entered := (id, session.thread) :: session.entered }
    have moves : session.Moves strict inside := .of_same sound rfl rfl
    refine (records inside moves.sound (held.enter id)).mono ?_ ?_
    · exact fun _ after ends => ends.enclosed sound rfl rfl rfl rfl rfl rfl ends.thread rfl
    · exact fun halt after waits => passing_waits (fun _ => by trivial) halt after
        fun deadlocked => (waits deadlocked).enclosed sound rfl rfl rfl

/-- An action takes a passage on a new thread as well. -/
theorem Records.onNewThread {act : Act α} (records : Records strict act) :
    Records strict (onNewThread act) := by
  intro session sound held
  rw [outcome_onNewThread]
  let started : Session :=
    { session with spawned := session.spawned + 1, thread := .spawned session.spawned }
  have moves : session.Moves strict started := .of_same sound rfl rfl
  refine (records started moves.sound held).mono ?_ ?_
  · exact fun _ after ends => ends.enclosed sound rfl rfl rfl rfl rfl rfl rfl ends.entered
  · exact fun halt after waits => passing_waits (fun _ => by trivial) halt after
      fun deadlocked => (waits deadlocked).enclosed sound rfl rfl rfl

/-- Recording goes by the parts of an action. -/
theorem records_sequential : Sequential (Records strict) where
  pure := .pure
  throw halt _ := .throw halt
  bind := .bind
  read _ continued session sound held := continued session session sound held
  modifyImage id _ alike := .of_rests (modifyImage_keeps id (fun image => (alike image).registry)
    fun image => (alike image).selectors) (modifyImage_rests id alike)

/-- An action takes a passage inside a section as well; a panic that goes on ends the run. -/
theorem Records.inSection (id : ImageId) (object : Object) {act : Act α}
    (records : Records strict act) : Records strict (inSection id object act) := by
  have sequential : Sequential (Records strict) := records_sequential
  refine (sequential.enterSection id object).bind fun _ session sound held => ?_
  rw [outcome_ensuring]
  apply (records session sound held).mono
  · intro value between ends
    exact carryOn ends
      (sequential.exitSection id object between ends.moves.sound (ends.held held))
      fun _ _ further => ends.trans further
  · refine fun halt after waits => passing_waits (fun between => ?_) halt after waits
    simp only [exitSection, leaveSection, outcome_bind, outcome_get]
    cases (between.image id).sections.leave between.thread object with
    | ok sections => trivial
    | error error => exact fun impossible => by cases impossible

variable {behaviour : Behaviour}

/-- An implementation is noted down, takes its passage, and is noted down again. -/
theorem implementation_recorded (records : behaviour.Records strict) (made : Call)
    (sound : session.Sound strict) (held : session.Held) :
    Outcome (sealedOff (behaviour.noting.body made) session)
      (fun _ after => ∃ between, (session.note (.called made)).Ends strict [] [] between ∧
        after = between.note (.returned made))
      (fun halt after => halt = .deadlocked →
        (session.note (.called made)).Waits strict [] after) := by
  refine sealedOff_waits ?_
  simp only [Behaviour.noting, outcome_bind]
  apply (records.body made (session.note (.called made)) (Moves.note sound _).sound held).imp
  exact fun _ between ends => ⟨between, ends, rfl⟩

/-- A call that is owed is made, and what else is owed is due afterwards. -/
theorem call_recorded (records : behaviour.Records strict) (sound : session.Sound strict)
    (held : session.Held) {made : Call} (other : made.purpose ≠ .init) (extra : List Call) :
    Outcome (call behaviour.noting made session)
      (fun _ after => session.Ends strict ([made].filter Call.isLoad ++ extra) extra after)
      (fun halt after => halt = .deadlocked → made.purpose ≠ .message ∨ extra = [] →
        session.Waits strict ([made].filter Call.isLoad ++ extra) after) := by
  let opened : Session :=
    { session with events := session.events.push (.called made (made.receiver.map session.label)) }
  have becomes : session.Becomes session.images [made] opened := by
    refine ⟨rfl, ?_, rfl⟩
    simp [opened, calls, Event.call?]
  have moves : session.Moves strict opened := .of_same sound rfl rfl
  change Outcome (sealedOff (behaviour.noting.body made) opened) _ _
  apply (implementation_recorded records made moves.sound held).mono
  · rintro _ _ ⟨between, ends, rfl⟩
    obtain ⟨course, body⟩ := ends.passage
    obtain ⟨whole, passage⟩ := Passage.opened other becomes moves sound body
    exact ⟨⟨_, (passage.closed other).frame extra⟩, ends.thread, ends.entered⟩
  · rintro halt after waits deadlocked hook
    obtain ⟨course, running, due, body, inside⟩ := waits deadlocked
    obtain ⟨whole, passage⟩ := Passage.opened other becomes moves sound body
    refine ⟨_, _, _, passage.frame extra, fun more => ?_⟩
    rcases hook with isHook | none
    · exact ⟨made, by simp, isHook⟩
    · rw [none, List.append_nil] at more
      obtain ⟨call, among, isHook⟩ := inside more
      exact ⟨call, List.mem_append_left _ among, isHook⟩

/-- The call of a message takes a passage. -/
theorem call_records (records : behaviour.Records strict) {made : Call}
    (message : made.purpose = .message) : Records strict (call behaviour.noting made) := by
  intro session sound held
  have other : made.purpose ≠ .init := by simp [message]
  have silent : [made].filter Call.isLoad = [] := by simp [Call.isLoad, message]
  have recorded := call_recorded records sound held other []
  rw [silent] at recorded
  exact recorded.mono (fun _ _ ends => ends) fun _ _ waits deadlocked =>
    waits deadlocked (.inr rfl)

/-- A report ends with what was owed before. -/
theorem report_ends (sound : session.Sound strict) (level : Log.Level) (text : String)
    (owed : List Call) : Outcome (report level text session)
      (fun _ after => session.Ends strict owed owed after) (fun _ _ => False) := by
  have rests : session.Rests (session.log [⟨level, text⟩]) :=
    .of_same rfl (session.calls_log _) rfl
  exact rests.ends (.log sound _) sound rfl rfl owed

/-- The hooks of an image that are due are called. -/
theorem runHooks_recorded (records : behaviour.Records strict) (sound : session.Sound strict)
    (held : session.Held) {id : ImageId} {selector : Selector}
    (same : (session.image id).loadSelector = selector) (hooks : List LoadHook) :
    Outcome (runHooks behaviour.noting id hooks session)
      (fun _ after => session.Ends strict (hooks.map (·.call id selector)) [] after)
      (fun halt after => halt = .deadlocked →
        session.Waits strict (hooks.map (·.call id selector)) after) := by
  induction hooks generalizing session with
  | nil => exact .refl sound []
  | cons hook rest inductionHypothesis =>
    change Outcome ((_ >>= fun _ => runHooks behaviour.noting id rest) session) _ _
    simp only [outcome_bind, outcome_image]
    apply (report_ends sound _ _ ((hook :: rest).map (·.call id selector))).certain
    intro _ reported ends
    have reserved := ends.loadSelector sound id
    rw [same] at reserved
    have made := call_recorded records ends.moves.sound (ends.held held)
      (show (hook.call id selector).purpose ≠ .init by simp [LoadHook.call])
      (rest.map (·.call id selector))
    rw [reserved]
    refine carryOn ends (made.mono ?_ ?_) fun _ _ given => given
    · intro _ called calledEnds
      have both := ends.trans calledEnds
      have still := both.loadSelector sound id
      exact carryOn both
        (inductionHypothesis both.moves.sound (both.held held) (still.trans same))
        fun _ _ further => both.trans further
    · intro halt after waits deadlocked
      exact waits deadlocked (.inl (by simp [LoadHook.call]))

/-- An edit that makes a permitted change is a passage, after which its hooks are due. The request
    for it has been noted down, if there is one. -/
theorem edit_recorded (sound : session.Sound strict) {id : ImageId} {change : Change}
    (permitted : change.Permitted (session.image id)) {edits : Edit α}
    (makes : change.edit = edits >>= fun _ => Pure.pure ()) :
    Outcome (edit id edits (session.announce id change))
      (fun result after =>
        (∀ value hooks, result = .ok (value, hooks) →
          session.Ends strict [] (hooks.map (·.call id (session.image id).loadSelector)) after ∧
          ∃ draft, edits { image := session.image id } = .ok value draft ∧ draft.hooks = hooks) ∧
        (∀ error, result = .error error → (strict = true → change.endsStrict = false) →
          session.Ends strict [] [] after) ∧
        after.notes = (session.announce id change).notes)
      (fun halt _ => halt ≠ .deadlocked) := by
  have whole : change.edit { image := session.image id } =
      EStateM.bind edits (fun _ => Pure.pure ()) { image := session.image id } := by
    rw [makes]
    rfl
  have thread : (session.announce id change).thread = session.thread := by
    unfold announce
    split <;> rfl
  have entered : (session.announce id change).entered = session.entered := by
    unfold announce
    split <;> rfl
  unfold edit
  rw [image_announce]
  cases ended : edits { image := session.image id } with
  | ok value draft =>
    simp only [EStateM.bind, ended] at whole
    refine ⟨fun given hooks same => ?_, fun error impossible => (by cases impossible), rfl⟩
    cases same
    exact ⟨⟨changed_passage sound permitted whole, thread, entered⟩, draft, rfl, rfl⟩
  | error failure draft =>
    simp only [EStateM.bind, ended] at whole
    cases failure with
    | refused error =>
      exact ⟨fun _ _ impossible => (by cases impossible), fun _ _ goesOn =>
        ⟨refused_passage sound permitted goesOn whole, thread, entered⟩, rfl⟩
    | panicked panic => exact fun impossible => by cases impossible

/-- An edit is made and what it makes due is called. -/
theorem editAndRun_recorded (records : behaviour.Records strict) (sound : session.Sound strict)
    (held : session.Held) {id : ImageId} {change : Change}
    (permitted : change.Permitted (session.image id)) {edits : Edit α}
    (makes : change.edit = edits >>= fun _ => Pure.pure ()) :
    Outcome (editAndRun behaviour.noting id edits (session.announce id change))
      (fun result after =>
        ((∀ error, result = .error error → strict = true → change.endsStrict = false) →
          session.Ends strict [] [] after) ∧ (session.announce id change).notes <+: after.notes)
      (fun halt after => halt = .deadlocked → session.Waits strict [] after) := by
  simp only [editAndRun, outcome_bind]
  apply (edit_recorded sound permitted makes).mono
  · rintro result between ⟨made, refused, notes⟩
    cases result with
    | error error =>
      exact ⟨fun goesOn => refused error rfl (goesOn error rfl), notes ▸ List.prefix_rfl⟩
    | ok given =>
      obtain ⟨ends, -⟩ := made given.1 given.2 rfl
      simp only [outcome_bind, outcome_pure]
      exact carryOn ends
        (runHooks_recorded records ends.moves.sound (ends.held held)
          (ends.loadSelector sound id) given.2)
        fun _ _ further => ⟨fun _ => ends.trans further, notes ▸ further.moves.follows.notes⟩
  · exact fun halt after other deadlocked => absurd deadlocked other

/-- Interning makes no hooks due. -/
theorem hooks_intern (signature : Signature) {selector : Selector} {draft after : Draft}
    (interned : Edit.intern signature draft = .ok selector after) : after.hooks = draft.hooks := by
  have outcome : Outcome (Edit.intern signature draft) (fun _ after => after.hooks = draft.hooks)
      (fun _ _ => True) := by
    simp only [Edit.intern, outcome_bind, outcome_get, outcome_set]
    cases (draft.image.selectors.intern signature).result with
    | ok selector => rfl
    | error failure => trivial
  rw [interned] at outcome
  exact outcome

/-- Interning a signature takes a passage and leaves no hooks to call. -/
theorem intern_recorded (sound : session.Sound strict) (id : ImageId) (signature : Signature) :
    Outcome (edit id (Edit.intern signature) session)
      (fun result after => session.Ends strict [] [] after ∧
        ∀ selector hooks, result = .ok (selector, hooks) → selector < SparseMap.capacity)
      (fun halt _ => halt ≠ .deadlocked) := by
  have interned := @Edit.intern_outcome _ strict { image := session.image id } (sound.images id)
    signature
  have permitted : (Change.intern signature).Permitted (session.image id) := trivial
  apply ((edit_recorded sound permitted rfl).and (edit_outcome interned)).mono
  · rintro result after ⟨⟨made, refused, -⟩, draft, -, given⟩
    cases result with
    | error error =>
      exact ⟨refused error rfl fun _ => rfl, fun _ _ impossible => by cases impossible⟩
    | ok value =>
      obtain ⟨ends, left, ended, same⟩ := made value.1 value.2 rfl
      rw [← same, hooks_intern signature ended] at ends
      refine ⟨ends, fun selector hooks same => ?_⟩
      cases same
      exact given.1
  · rintro halt after ⟨other, -⟩
    exact other

/-- Whatever requests are put together from takes a passage. -/
theorem records_composed : Composed (Records strict) where
  toSequential := records_sequential
  report level text := .of_rests (report_keeps level text) (report_rests level text)
  emit _ uncalled := .of_rests (emit_keeps _) (emit_rests uncalled)
  aside aside := .modify (fun session => by rw [aside.same])
    (fun session => by rw [calls, aside.same, calls]) (fun session => by rw [aside.same])
    (fun session => by rw [aside.same]) fun session => by rw [aside.same]
  intern id signature session sound _ := (intern_recorded sound id signature).mono
    (fun _ _ given => given.1) fun _ _ other deadlocked => absurd deadlocked other
  sealedOff records session sound held := sealedOff_waits (records session sound held)
  onNewThread := .onNewThread
  inRegistry id _ records := .inRegistry id records
  inSection := .inSection

section

variable {id : ImageId} {target : ClassId}

/-- Marking a class changes the registry of its image. -/
theorem image_mark (inside : target < (session.image id).registry.size)
    (change : Registry → Registry) : (session.mark id change).image id =
      { session.image id with registry := change (session.image id).registry } := by
  rw [mark, image_setImage, if_pos ⟨rfl, image_lt_of_class_lt inside⟩]

/-- The call that initializes a class is the same when the class has been marked. -/
theorem found_beginInit (inside : target < (session.image id).registry.size) (thread : Thread) :
    ((((session.mark id (·.beginInit target thread)).image id).registry.table?
      ⟨target, .metaclass⟩).bind
        (·.get? ((session.mark id (·.beginInit target thread)).image id).initSelector)).map
          (Call.ofInit id target
            ((session.mark id (·.beginInit target thread)).image id).initSelector) =
      session.initCall id target := by
  have table : ((session.image id).registry.beginInit target thread).table? ⟨target, .metaclass⟩ =
      (session.image id).registry.table? ⟨target, .metaclass⟩ := by
    unfold Registry.table? Registry.beginInit
    rw [Registry.entry_modify_same _ _ inside]
  rw [image_mark inside, initCall, table]

/-- A thread that is inside a registry may mark a class there. -/
theorem mark_held (held : session.Held) (inside : target < (session.image id).registry.size)
    (entered : (id, session.thread) ∈ session.entered) :
    (session.mark id (·.beginInit target session.thread)).Held := by
  intro other otherTarget thread marked
  have marks := (markedBy_mark (fun entry => { entry with initializing := some session.thread })
    rfl inside other otherTarget thread).mp marked
  split at marks
  · rename_i same
    cases marks
    exact same.1 ▸ entered
  · exact held other otherTarget thread marks

/-- A class that is ready and has been marked has its `initialize` called, if it has one. -/
theorem callInit_recorded (records : behaviour.Records strict)
    (sound : session.Sound strict) (held : session.Held)
    (entered : (id, session.thread) ∈ session.entered)
    (ready : (session.image id).registry.Ready target) :
    Outcome (callInit behaviour.noting id target
        (session.mark id (·.beginInit target session.thread)))
      (fun _ called =>
        session.initCall id target = none ∧
          called = session.mark id (·.beginInit target session.thread) ∨
        ∃ made course between, session.initCall id target = some made ∧
          session.Passage strict [] course [made] [] between ∧
          between.MarkedBy id target session.thread ∧ called = between.note (.returned made) ∧
          called.thread = session.thread ∧ called.entered = session.entered)
      (fun halt after => halt = .deadlocked → session.Waits strict [] after) := by
  have inside := ready_inside sound ready
  have same := found_beginInit inside session.thread
  obtain ⟨soundAfter, grows⟩ := (sound.images id).beginInit session.thread ready.tabled
  have begun : session.Moves strict (session.mark id (·.beginInit target session.thread)) :=
    .setImage sound soundAfter grows
  have heldAfter := mark_held held inside entered
  -- From here on the session with the mark is opaque: only what the mark keeps is needed of it.
  generalize marked : session.mark id (·.beginInit target session.thread) = markedSession
    at same begun heldAfter
  simp only [callInit, outcome_bind, outcome_image]
  cases found : ((markedSession.image id).registry.table? ⟨target, .metaclass⟩).bind
      (·.get? (markedSession.image id).initSelector) with
  | none =>
    rw [found] at same
    exact .inl ⟨same.symm, rfl⟩
  | some imp =>
    rw [found, Option.map_some] at same
    let made : Call := .ofInit id target (markedSession.image id).initSelector imp
    let logged := markedSession.log [⟨.debug, "initializing class " ++
      ((markedSession.image id).registry.entry target).name⟩]
    let opened : Session :=
      { logged with events := logged.events.push (.called made (made.receiver.map logged.label)) }
    have becomes : session.Becomes
        (session.mark id (·.beginInit target session.thread)).images [made] opened := by
      refine ⟨?_, ?_, ?_⟩
      · rw [marked]
        rfl
      · have silent : logged.calls = session.calls := by
          rw [Session.calls_log, ← marked]
          rfl
        rw [← silent]
        simp [opened, calls, Event.call?]
      · have quiet : markedSession.notes = session.notes := by
          rw [← marked]
          rfl
        exact quiet
    have moves : session.Moves strict opened := begun.trans (.of_same begun.sound rfl rfl)
    have marks : opened.MarkedBy id target session.thread :=
      (began_markedBy inside ready.unmarked becomes id target _).mpr (.inr ⟨⟨rfl, rfl⟩, rfl⟩)
    have thread : opened.thread = session.thread := by
      have kept : markedSession.thread = session.thread := by
        rw [← marked]
        rfl
      exact kept
    have registries : opened.entered = session.entered := by
      have kept : markedSession.entered = session.entered := by
        rw [← marked]
        rfl
      exact kept
    change Outcome (sealedOff (behaviour.noting.body made) opened) _ _
    apply (implementation_recorded records made moves.sound heldAfter).mono
    · rintro _ _ ⟨between, ends, rfl⟩
      obtain ⟨course, body⟩ := ends.passage
      obtain ⟨whole, passage⟩ := initialize_opened sound ready same.symm becomes moves body
      exact .inr ⟨made, whole, between, same.symm, passage, body.kept id target _ marks, rfl,
        ends.thread.trans thread, ends.entered.trans registries⟩
    -- A call that waits for good has been begun all the same, and the mark stays.
    · intro halt after waits deadlocked
      obtain ⟨course, running, due, body, inside⟩ := waits deadlocked
      obtain ⟨whole, passage⟩ := initialize_opened sound ready same.symm becomes moves body
      refine ⟨_, _, _, passage, fun _ =>
        ⟨made, List.mem_append_right _ List.mem_cons_self, ?_⟩⟩
      rw [(initCall_eq_some same.symm).1]
      exact fun impossible => by cases impossible

/-- From wherever a class is marked as initialized, that is all there is left to do. -/
theorem ended_by (sound : session.Sound strict) (tabled : Tabled session id target)
    (reports : List Log.Message) :
    let last := (session.mark id (·.endInit target)).log reports
    session.Becomes (session.mark id (·.endInit target)).images [] last ∧
      session.Moves strict last ∧
      (last.image id).registry.reached target .initialized = true := by
  obtain ⟨soundEnded, grows⟩ := (sound.images id).endInit tabled
  have moved : session.Moves strict (session.mark id (·.endInit target)) :=
    .setImage sound soundEnded grows
  refine ⟨⟨rfl, ?_, rfl⟩, moved.trans (.log moved.sound _), ?_⟩
  · rw [calls_log, List.append_nil]
    rfl
  · have inside := Registry.lt_size_of_reached
      ((sound.images id).registry.tabled.loaded _ (tabled .inst))
    change ((session.mark id (·.endInit target)).image id).registry.reached target _ = true
    rw [image_mark inside, Registry.reached_endInit inside, decide_eq_true rfl, Bool.true_or]

/-- A class that has both tables and whose superclass is prepared is taken to its last stage by a
    thread inside the registry. -/
theorem finishPreparing_recorded (records : behaviour.Records strict)
    (sound : session.Sound strict) (held : session.Held)
    (entered : (id, session.thread) ∈ session.entered) (tabled : Tabled session id target)
    (unmarked : ¬ session.Marked id target)
    (supported : ∀ above, ((session.image id).registry.entry target).superclass = some above →
      (session.image id).registry.isPrepared above = true) :
    Outcome (finishPreparing behaviour.noting id target session)
      (fun _ after => session.Ends strict [] [] after ∧
        (after.image id).registry.reached target .initialized = true)
      (fun halt after => halt = .deadlocked → session.Waits strict [] after) := by
  simp only [finishPreparing, outcome_bind, outcome_get]
  split
  · rename_i reached
    exact ⟨.refl sound [], reached⟩
  rename_i early
  have unprepared : (session.image id).registry.isPrepared target = false := by
    rw [Registry.isPrepared, Bool.or_eq_false_iff]
    exact ⟨Bool.eq_false_iff.mpr early, Bool.eq_false_iff.mpr unmarked⟩
  have ready : (session.image id).registry.Ready target := ⟨unprepared, tabled, supported⟩
  obtain ⟨soundAfter, grows⟩ := (sound.images id).beginInit session.thread tabled
  have begun : session.Moves strict (session.mark id (·.beginInit target session.thread)) :=
    .setImage sound soundAfter grows
  simp only [outcome_bind, outcome_modifyRegistry]
  apply (callInit_recorded records sound held entered ready).imp
  rintro _ called (⟨none, rfl⟩ | ⟨made, course, between, given, passage, marked, rfl, same⟩)
  · obtain ⟨becomes, moves, reached⟩ := ended_by begun.sound (tabled.moves begun) [⟨.trace, _⟩]
    have passage := initialize_skipped sound ready none ⟨rfl, (List.append_nil _).symm, rfl⟩ begun
      becomes moves
    exact ⟨⟨passage, rfl, rfl⟩, reached⟩
  · have noted := passage.moves.trans (.note passage.moves.sound (.returned made))
    obtain ⟨becomes, moves, reached⟩ := ended_by noted.sound (tabled.moves noted) [⟨.trace, _⟩]
    exact ⟨⟨initialize_closed ready given passage marked becomes moves, same.1, same.2⟩, reached⟩

/-- A class whose names lead to a root is made ready. -/
theorem makeReady_recorded (records : behaviour.Records strict) (sound : session.Sound strict)
    (held : session.Held) {path : List ClassId} (inside : target < (session.image id).registry.size)
    (ascent : (session.image id).registry.Ascent target path) :
    Outcome (editAndRun behaviour.noting id (readyTables target) session)
      (fun result after => result = .ok () ∧ session.Ends strict [] [] after ∧
        Tabled after id target)
      (fun halt after => halt = .deadlocked → session.Waits strict [] after) := by
  have permitted : (Change.readyTables target).Permitted (session.image id) := inside
  apply ((makeReady_outcome sound (noting_keeps records.keeps) inside ascent).and
    (editAndRun_recorded records sound held permitted bind_pure_unit.symm)).mono
  · rintro _ after ⟨⟨rfl, -, tabled⟩, ends, -⟩
    exact ⟨rfl, ends fun _ impossible => (by cases impossible), tabled⟩
  · rintro halt after ⟨-, waits⟩
    exact waits

omit [NameHash] in
/-- The class above the first one of a path is the next one. -/
theorem head?_of_superclass {registry : Registry} (formed : registry.Formed) {above : ClassId}
    {rest : List ClassId} (ascent : registry.Ascent target (target :: rest))
    (link : (registry.entry target).superclass = some above) : above ∈ rest.head? := by
  obtain ⟨others, same, further⟩ := formed.ascent_above link ascent
  obtain ⟨later, rfl⟩ := further.head
  cases same
  rfl

/-- A thread that is inside a registry alone prepares the first class of a path there. -/
theorem prepareAlong_recorded (records : behaviour.Records strict) (sound : session.Sound strict)
    (held : session.Held) (entered : (id, session.thread) ∈ session.entered)
    (opened : session.isShut id = false) {chain : List ClassId}
    (along : ∀ target ∈ chain.head?, target < (session.image id).registry.size ∧
      (session.image id).registry.Ascent target chain) :
    Outcome (prepareAlong behaviour.noting id chain session)
      (fun result after => result = .ok () ∧ session.Ends strict [] [] after ∧
        ∀ target ∈ chain.head?, (after.image id).registry.isPrepared target = true)
      (fun halt after => halt = .deadlocked → session.Waits strict [] after) := by
  induction chain generalizing session with
  | nil => exact ⟨rfl, .refl sound [], fun _ impossible => by cases impossible⟩
  | cons target above inductionHypothesis =>
    obtain ⟨inside, ascent⟩ := along target rfl
    have formed := (sound.images id).registry.formed
    simp only [prepareAlong, outcome_bind, outcome_get]
    split
    · rename_i served
      refine ⟨rfl, .refl sound [], ?_⟩
      rintro _ ⟨rfl⟩
      exact isPrepared_of_serves served
    -- A mark would be this thread's own, since no other thread is inside, and would serve it.
    · rename_i unserved
      have unmarked : ¬ session.Marked id target := by
        intro marked
        obtain ⟨thread, marks⟩ := marked_iff.mp marked
        obtain rfl := held.markedBy marks opened
        refine unserved ?_
        rw [servesThread, Bool.or_eq_true, beq_iff_eq]
        exact .inr marks
      simp only [outcome_bind]
      apply (makeReady_recorded records sound held inside ascent).imp
      rintro _ ready ⟨rfl, readied, tabled⟩
      have upwards := (readied.moves.follows.grows id).ascent_tail formed ascent
      simp only [outcome_bind]
      apply carryOn readied (inductionHypothesis readied.moves.sound (readied.held held)
        (by rw [readied.thread, readied.entered]; exact entered)
        ((readied.isShut id).trans opened) upwards)
      rintro _ between ⟨rfl, ends, prepared⟩
      have moved := readied.trans ends
      have supported : ∀ next, ((between.image id).registry.entry target).superclass = some next →
          (between.image id).registry.isPrepared next = true := fun next link =>
        prepared next (head?_of_superclass (moved.moves.sound.images id).registry.formed
          ((moved.moves.follows.grows id).ascent formed inside ascent) link)
      -- Preparing what is above it leaves all marks as they were.
      have stillUnmarked : ¬ between.Marked id target := by
        intro marked
        obtain ⟨thread, marks⟩ := marked_iff.mp marked
        exact unmarked (marked_iff.mpr ⟨thread, moved.markedBy marks⟩)
      simp only [outcome_bind, outcome_pure]
      apply carryOn moved (finishPreparing_recorded records moved.moves.sound (moved.held held)
        (by rw [moved.thread, moved.entered]; exact entered) (tabled.moves ends.moves)
        stillUnmarked supported)
      rintro _ after ⟨further, reached⟩
      refine ⟨trivial, moved.trans further, ?_⟩
      rintro _ ⟨rfl⟩
      exact Registry.isPrepared_eq_true.mpr (.inl reached)

/-- From inside a registry that is open to the running thread, preparing takes a passage. -/
theorem prepareInside_recorded (records : behaviour.Records strict) {handle : ClassHandle}
    (sound : session.Sound strict) (held : session.Held)
    (entered : (id, session.thread) ∈ session.entered) (opened : session.isShut id = false) :
    Outcome (prepareInside behaviour.noting id handle session)
      (fun _ after => session.Ends strict [] [] after)
      (fun halt after => halt = .deadlocked → session.Waits strict [] after) := by
  simp only [prepareInside, outcome_bind, outcome_get]
  split
  · exact .refl sound []
  split
  · rename_i owned
    rw [owns, Bool.and_eq_true, decide_eq_true_eq] at owned
    cases chained : (session.image id).registry.chain handle.ref.id with
    | error error => exact .refl sound []
    | ok path =>
      have formed := (sound.images id).registry.formed
      have ascent := (Registry.chain_eq_ok_iff formed.lt_of_find? owned.2).mp chained
      obtain ⟨above, rfl⟩ := ascent.head
      refine (prepareAlong_recorded records sound held entered opened ?_).imp
        fun _ _ given => given.2.1
      rintro _ ⟨rfl⟩
      exact ⟨owned.2, ascent⟩
  · exact .refl sound []

/-- Preparing a class takes a passage, whatever class it is asked for. -/
theorem prepare_records (records : behaviour.Records strict) (id : ImageId)
    (handle : ClassHandle) : Records strict (prepare behaviour.noting id handle) := by
  intro session sound held
  simp only [prepare, outcome_bind, outcome_get]
  split
  · exact .refl sound []
  rw [outcome_inRegistry]
  split
  · exact fun _ => .refl sound
  · rename_i opened
    let inside : Session := { session with entered := (id, session.thread) :: session.entered }
    have moves : session.Moves strict inside := .of_same sound rfl rfl
    refine (prepareInside_recorded records moves.sound (held.enter id) List.mem_cons_self
      (isShut_enter (Bool.eq_false_iff.mpr opened))).mono ?_ ?_
    · exact fun _ after ends => ends.enclosed sound rfl rfl rfl rfl rfl rfl ends.thread rfl
    · exact fun halt after waits => passing_waits (fun _ => by trivial) halt after
        fun deadlocked => (waits deadlocked).enclosed sound rfl rfl rfl

end

end Act

end LateBinding
