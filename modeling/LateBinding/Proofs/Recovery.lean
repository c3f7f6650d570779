import LateBinding.Proofs.Courses
import LateBinding.Proofs.Programs
import Mathlib.Logic.Relation

/-!
# Runs that go on after a panic

A program may catch a panic and go on. It then finds the images as the panic left them: an edit
that stopped half way has been adopted as far as it got. So nothing that rests on edits coming
to their end holds in such a run. What does hold is that everything that is ever done to an image
is done in a few kinds of step, each of which is an edit, finished or not, a mark on a class,
or nothing at all.

Every action leads from where it starts to where it ends by such steps, whether it ends with a
value or halts, whatever state it starts from, and whatever implementations do. What every step
keeps therefore holds at every point that a program can visit.

Programs may be restricted in what they ask for and in how they stop of their own accord. Which
sessions can be reached depends on the restrictions, and nothing else does.
-/

namespace LateBinding

namespace Session

variable [NameHash]

/-- One thing that is done to a session, however what goes on around it ends. -/
inductive Steps (before : Session) : Session → Prop
  /-- An edit has ended, with a value or without, and what it did has been adopted. -/
  | edited {id : ImageId} {change : Change} {draft : Draft}
      (ended : Outcome (change.edit { image := before.image id }) (fun _ left => left = draft)
        fun _ left => left = draft) : Steps before (before.adopt id draft)
  | began (id : ImageId) (target : ClassId) (thread : Thread) :
      Steps before (before.mark id (·.beginInit target thread))
  | finished (id : ImageId) (target : ClassId) : Steps before (before.mark id (·.endInit target))
  | noted (remark : Remark) : Steps before (before.note remark)
  /-- No image has changed but for sections and forwarding, and nothing has been noted. -/
  | passed {after : Session} (count : after.images.size = before.images.size)
      (images : ∀ id, (before.image id).Alike (after.image id))
      (notes : after.notes = before.notes) : Steps before after

/-- A session comes from another by any number of steps. -/
def Leads (before after : Session) : Prop := Relation.ReflTransGen Steps before after

variable {session between after : Session}

/-- A session leads to itself. -/
theorem Leads.refl (session : Session) : session.Leads session := Relation.ReflTransGen.refl

/-- What one leads to leads on. -/
theorem Leads.trans (first : session.Leads between) (second : between.Leads after) :
    session.Leads after :=
  Relation.ReflTransGen.trans first second

/-- A step leads from one session to the next. -/
theorem Steps.leads (step : session.Steps after) : session.Leads after :=
  Relation.ReflTransGen.single step

/-- What is neither an image nor a note does not matter. -/
theorem Leads.of_same (images : after.images = session.images)
    (notes : after.notes = session.notes) : session.Leads after := by
  refine (Steps.passed (by rw [images]) (fun id => ?_) notes).leads
  rw [image, image, images]
  exact .refl _

/-- What every step keeps holds wherever the steps lead. -/
theorem Leads.invariant (leads : session.Leads after) (holds : Session → Prop)
    (step : ∀ before later : Session, before.Steps later → holds before → holds later)
    (start : holds session) : holds after := by
  induction leads with
  | refl => exact start
  | tail _ last inductionHypothesis => exact step _ _ last inductionHypothesis

end Session

namespace Act

variable [NameHash]

open Session

/-- Requests to one image in turn, each of which may panic. -/
def trying (behaviour : Behaviour) (id : ImageId) : List Request → Act Unit
  | [] => pure ()
  | asked :: rest => do
    let _ ← settled (asked.run behaviour id)
    trying behaviour id rest

/-- An action leads to where it ends, with a value or without. -/
def Leads {α : Type} (act : Act α) : Prop :=
  ∀ session : Session, Outcome (act session) (fun _ after => session.Leads after)
    (fun _ after => session.Leads after)

variable {α β : Type}

namespace Leads

/-- A value leads nowhere else. -/
theorem pure (value : α) : Leads (Pure.pure value) := fun session => .refl session

/-- Halting leads nowhere else. -/
theorem throw (halt : Halt) : Leads (throw halt : Act α) := fun session => .refl session

/-- Looking at the session leads nowhere else. -/
theorem get : Leads (MonadState.get : Act Session) := fun session => .refl session

/-- Two actions in a row lead on if both do. -/
theorem bind {first : Act α} {next : α → Act β} (leads : Leads first)
    (further : ∀ value, Leads (next value)) : Leads (first >>= next) := by
  intro session
  rw [outcome_bind]
  apply (leads session).imp
  intro value between begun
  exact (further value between).mono (fun _ _ ended => begun.trans ended)
    fun _ _ ended => begun.trans ended

/-- A change of what is neither an image nor a note. -/
theorem modify {change : Session → Session}
    (images : ∀ session, (change session).images = session.images)
    (notes : ∀ session, (change session).notes = session.notes) :
    Leads (modify change : Act PUnit) :=
  fun session => .of_same (images session) (notes session)

/-- Changing sections of an image, or whether it forwards. -/
theorem modifyImage (id : ImageId) {change : Image → Image}
    (alike : ∀ image : Image, image.Alike (change image)) : Leads (modifyImage id change) := by
  intro session
  have passed : session.Steps (session.setImage id (change (session.image id))) := by
    refine .passed (by simp [Session.setImage]) (fun other => ?_) rfl
    rw [image_setImage]
    split
    · rename_i same
      rw [← same.1]
      exact alike _
    · exact .refl _
  exact passed.leads

/-- An edit leads to where its change leads, however it ends. -/
theorem edit (id : ImageId) (change : Change) {edits : Edit α}
    (makes : change.edit = edits >>= fun _ => Pure.pure ()) : Leads (edit id edits) := by
  intro session
  have whole : ∀ draft, Outcome (edits { image := session.image id })
      (fun _ left => left = draft) (fun _ left => left = draft) →
      session.Leads (session.adopt id draft) := by
    intro draft ended
    have made : Outcome (change.edit { image := session.image id }) (fun _ left => left = draft)
        fun _ left => left = draft := by
      rw [makes, outcome_bind]
      exact ended
    exact (Steps.edited made).leads
  unfold Act.edit
  cases ended : edits { image := session.image id } with
  | ok value draft => exact whole draft (by rw [ended]; exact rfl)
  | error failure draft =>
    cases failure with
    | refused error => exact whole draft (by rw [ended]; exact rfl)
    | panicked panic => exact whole draft (by rw [ended]; exact rfl)

/-- An action leads as far when its panic is caught. -/
theorem settled {act : Act α} (leads : Leads act) : Leads (settled act) :=
  fun session => settled_outcome (leads session)

/-- And when its panic aborts. -/
theorem sealedOff {act : Act α} (leads : Leads act) : Leads (sealedOff act) :=
  fun session => sealedOff_outcome (leads session)

/-- A note is a step of its own. -/
theorem note (remark : Remark) : Leads (note remark) :=
  fun _ => (Steps.noted remark).leads

end Leads

/-- Whatever requests are put together from leads somewhere by steps. -/
theorem leads_untouched : Untouched Leads where
  pure := .pure
  throw halt _ := .throw halt
  bind := .bind
  read _ continued session := continued session session
  modifyImage := .modifyImage
  panic panic := .throw (.panicked panic)
  settled := .settled
  spawn _ := .of_same rfl rfl
  switchTo _ := .modify (fun _ => rfl) fun _ => rfl
  setEntered _ := .modify (fun _ => rfl) fun _ => rfl

/-- Leading on goes by the parts of an action. -/
theorem leads_composed : Composed Leads where
  toSequential := leads_untouched.toSequential
  report _ _ := .modify (fun _ => rfl) fun _ => rfl
  emit _ _ := .modify (fun _ => rfl) fun _ => rfl
  aside aside := by
    refine .modify (fun session => ?_) fun session => ?_
    · rw [aside.same session]
    · rw [aside.same session]
  intern id signature := .edit id (.intern signature) rfl
  sealedOff := .sealedOff
  onNewThread := leads_untouched.onNewThread
  inRegistry := leads_untouched.inRegistry
  inSection := leads_untouched.inSection

/-- The edits of registering are steps. -/
theorem leads_registering : Registering Leads where
  registerClass id decl := .edit id (.registerClass decl) rfl
  insertCategory id decl := .edit id (.registerCategory decl) rfl
  loadModule id decl := .edit id (.loadModule decl) rfl

/-- So are the other edits that requests make. -/
theorem leads_unguarded : Unguarded Leads where
  begins id target thread _ := (Session.Steps.began id target thread).leads
  ends id target _ := (Session.Steps.finished id target).leads
  readies id target := .edit id (.readyTables target) bind_pure_unit.symm
  replaces id ref selector imp := .edit id (.replaceMethod ref selector imp) rfl

end Act

/-- Implementations and the handler lead somewhere by steps. -/
structure Behaviour.Leads [NameHash] (behaviour : Behaviour) : Prop where
  body : ∀ call, Act.Leads (behaviour.body call)
  handler : ∀ id handle selector, Act.Leads (behaviour.handler id handle selector)

namespace Act

variable [NameHash] {α : Type} {behaviour : Behaviour}

/-- A call leads as far as the implementation. -/
theorem call_leads (leads : behaviour.Leads) (made : Call) : Leads (call behaviour made) :=
  leads_composed.call (fun _ _ => .modify (fun _ => rfl) fun _ => rfl) leads.body made

/-- Hooks lead on, one after the other. -/
theorem runHooks_leads (leads : behaviour.Leads) (id : ImageId) (hooks : List LoadHook) :
    Leads (runHooks behaviour id hooks) :=
  leads_composed.runHooks (call_leads leads) id hooks

/-- Every request leads somewhere by steps. -/
theorem request_leads (leads : behaviour.Leads) (id : ImageId) (asked : Request) :
    Leads (asked.run behaviour id) :=
  leads_composed.request (call_leads leads) leads_registering leads_unguarded leads.handler asked

/-- The actions of programs that may catch a panic and go on, where only some requests are made
    and only some halts are of the program's own accord. -/
inductive Resilient (asks : Request → Prop) (stops : Halt → Prop) : {α : Type} → Act α → Prop
  | done {α : Type} (value : α) : Resilient asks stops (pure value)
  | stop {α : Type} (halt : Halt) (allowed : stops halt) : Resilient asks stops (throw halt : Act α)
  | next {α β : Type} {first : Act α} {rest : α → Act β} (begun : Resilient asks stops first)
      (continued : ∀ value, Resilient asks stops (rest value)) :
      Resilient asks stops (first >>= rest)
  | look : Resilient asks stops (get : Act Session)
  | note (remark : Remark) : Resilient asks stops (note remark)
  | request {behaviour : Behaviour} (id : ImageId) (asked : Request) (allowed : asks asked)
      (bodies : ∀ call, Resilient asks stops (behaviour.body call))
      (handlers : ∀ id handle selector,
        Resilient asks stops (behaviour.handler id handle selector)) :
      Resilient asks stops (asked.run behaviour id)
  | inSection {α : Type} (id : ImageId) (object : Object) {act : Act α}
      (inside : Resilient asks stops act) : Resilient asks stops (inSection id object act)
  | setForward (behaviour : Behaviour) (id : ImageId) (imp : Imp) (actions : List Step)
      (again : Bool) : Resilient asks stops ((Step.setForward id imp actions again).run behaviour)
  /-- Catches a panic. -/
  | attempt {α : Type} {act : Act α} (tried : Resilient asks stops act) :
      Resilient asks stops (settled act)

namespace Resilient

variable {asks : Request → Prop} {stops : Halt → Prop}

/-- A property of every request that may be made, if implementations and the handler have it, is
    one of every program, if it composes and a caught panic has it. -/
theorem property {holds : ∀ {α : Type}, Act α → Prop} (composed : Composed holds)
    (stop : ∀ {α : Type} halt, stops halt → holds (throw halt : Act α))
    (look : holds (get : Act Session)) (note : ∀ remark, holds (Act.note remark))
    (settled : ∀ {α : Type} {act : Act α}, holds act → holds (Act.settled act))
    (requests : ∀ {behaviour : Behaviour} (id : ImageId) (asked : Request), asks asked →
      (∀ call, holds (behaviour.body call)) →
      (∀ id handle selector, holds (behaviour.handler id handle selector)) →
      holds (asked.run behaviour id))
    {program : Act α} (resilient : Resilient asks stops program) : holds program := by
  induction resilient with
  | done value => exact composed.pure value
  | stop halt allowed => exact stop halt allowed
  | next _ _ begun continued => exact composed.bind begun continued
  | look => exact look
  | note remark => exact note remark
  | request id asked allowed _ _ bodies handlers => exact requests id asked allowed bodies handlers
  | inSection id object _ inside => exact composed.inSection id object inside
  | setForward behaviour id imp actions again =>
    exact composed.setForward behaviour id imp actions again
  | attempt _ tried => exact settled tried

/-- What is allowed to a program is allowed to it where more is. -/
theorem mono {program : Act α} (resilient : Resilient asks stops program)
    {asksMore : Request → Prop} {stopsMore : Halt → Prop}
    (asking : ∀ asked, asks asked → asksMore asked)
    (stopping : ∀ halt, stops halt → stopsMore halt) :
    Resilient asksMore stopsMore program := by
  induction resilient with
  | done value => exact .done value
  | stop halt allowed => exact .stop halt (stopping halt allowed)
  | next _ _ begun continued => exact .next begun continued
  | look => exact .look
  | note remark => exact .note remark
  | request id asked allowed _ _ bodies handlers =>
    exact .request id asked (asking asked allowed) bodies handlers
  | inSection id object _ inside => exact .inSection id object inside
  | setForward behaviour id imp actions again => exact .setForward behaviour id imp actions again
  | attempt _ tried => exact .attempt tried

/-- Every program leads somewhere by steps. -/
theorem leads {program : Act α} (resilient : Resilient asks stops program) : Leads program :=
  resilient.property leads_composed (fun halt _ => .throw halt) .get .note .settled
    fun id asked _ bodies handlers => request_leads ⟨bodies, handlers⟩ id asked

/-- Waiting for good has to be among the halts that are allowed for. -/
theorem awaitRegistry (id : ImageId) (waits : stops .deadlocked) :
    Resilient asks stops (awaitRegistry id) := by
  refine .next .look fun session => ?_
  split
  · exact .stop _ waits
  · exact .done _

/-- Requests to one image in turn, each of which may panic. -/
theorem trying {behaviour : Behaviour} (bodies : ∀ call, Resilient asks stops (behaviour.body call))
    (handlers : ∀ id handle selector, Resilient asks stops (behaviour.handler id handle selector))
    (id : ImageId) {requests : List Request} (allowed : ∀ asked ∈ requests, asks asked) :
    Resilient asks stops (trying behaviour id requests) := by
  induction requests with
  | nil => exact .done ()
  | cons asked rest inductionHypothesis =>
    have first := Resilient.request id asked (allowed asked List.mem_cons_self) bodies handlers
    refine .next (.attempt first) fun _ => ?_
    exact inductionHypothesis fun later member => allowed later (List.mem_cons_of_mem _ member)

end Resilient

/-- A program that catches no panic is one that may. -/
theorem Public.resilient {strict : Bool} {program : Act α} (isPublic : program.Public strict) :
    Resilient Request.Issued (fun _ => True) program := by
  induction isPublic with
  | done value => exact .done value
  | stop halt => exact .stop halt trivial
  | next _ _ begun continued => exact .next begun continued
  | look => exact .look
  | note => exact .note .looked
  | @request behaviour id asked issued _ _ bodies handlers =>
    have noting : ∀ call, Resilient Request.Issued (fun _ => True) (behaviour.noting.body call) :=
      fun call => .next (.note _) fun _ => .next (bodies call) fun _ => .note _
    have askingNow : Resilient Request.Issued (fun _ => True) (askingNow behaviour id asked) :=
      .next .look fun _ => .next (.note _) fun _ =>
        .next (.request id asked issued noting handlers) fun _ => .next (.note _) fun _ => .done _
    have asking : Resilient Request.Issued (fun _ => True) (asking behaviour id asked) := by
      unfold Act.asking
      split
      · exact .next (.awaitRegistry id trivial) fun _ => askingNow
      · exact askingNow
    refine .next asking fun answer => ?_
    split
    · split
      · exact .stop _ trivial
      · exact .done _
    · exact .done _
  | inSection id object _ inside => exact .inSection id object inside
  | setForward behaviour id imp actions again => exact .setForward behaviour id imp actions again

end Act

/-- A session that a program can come to, whether it goes on there, ends, halts or panics, and
    whatever panics it has caught before, if it only makes some requests and only stops of its own
    accord in some ways. -/
def Session.Reached [NameHash] (asks : Request → Prop) (stops : Halt → Prop)
    (session : Session) : Prop :=
  ∃ threshold configs first, Session.start threshold configs = .ok first ∧
    ∃ (α : Type) (program : Act α), program.Resilient asks stops ∧
      ((∃ value, program first = .ok value session) ∨ ∃ halt, program first = .error halt session)

/-- A session that a program can come to, whatever it asks for. -/
abbrev Session.Visited [NameHash] : Session → Prop := Session.Reached (fun _ => True) fun _ => True

/-- A session that a program can come to that replaces methods only for selectors which a table can
    hand out. -/
abbrev Session.Reachable [NameHash] : Session → Prop := Session.Reached Request.Issued fun _ => True

namespace Session

variable [NameHash] {session : Session} {asks : Request → Prop} {stops : Halt → Prop}

/-- More requests and more halts may be allowed for. -/
theorem Reached.mono (reached : session.Reached asks stops) {asksMore : Request → Prop}
    {stopsMore : Halt → Prop} (asking : ∀ asked, asks asked → asksMore asked)
    (stopping : ∀ halt, stops halt → stopsMore halt) : session.Reached asksMore stopsMore := by
  obtain ⟨threshold, configs, first, started, α, program, resilient, ended⟩ := reached
  exact ⟨threshold, configs, first, started, α, program, resilient.mono asking stopping, ended⟩

/-- What can be reached in any way can be visited. -/
theorem Reached.visited (reached : session.Reached asks stops) : session.Visited :=
  reached.mono (fun _ _ => trivial) fun _ _ => trivial

/-- What can be observed can be reached. -/
theorem Observed.reachable {strict : Bool} (observed : session.Observed strict) :
    session.Reachable := by
  obtain ⟨threshold, configs, first, started, α, program, isPublic, ended⟩ := observed
  exact ⟨threshold, configs, first, started, α, program, isPublic.resilient,
    ended.imp_right fun waits => ⟨_, waits⟩⟩

/-- What a program makes of a new session, however it ends, holds of every session that can be
    reached. -/
theorem Reached.property (reached : session.Reached asks stops) (holds : Session → Prop)
    (programs : ∀ {α : Type} (program : Act α), program.Resilient asks stops →
      ∀ threshold configs first, Session.start threshold configs = .ok first →
        Outcome (program first) (fun _ after => holds after) fun _ after => holds after) :
    holds session := by
  obtain ⟨threshold, configs, first, started, α, program, resilient, ended⟩ := reached
  have outcome := programs program resilient threshold configs first started
  rcases ended with ⟨value, returned⟩ | ⟨halt, halted⟩
  · rw [returned] at outcome
    exact outcome
  · rw [halted] at outcome
    exact outcome

/-- What holds of new images and is kept by every step holds wherever a program can come. -/
theorem Reached.invariant (reached : session.Reached asks stops) (holds : Session → Prop)
    (start : ∀ threshold configs first, Session.start threshold configs = .ok first → holds first)
    (step : ∀ before after : Session, before.Steps after → holds before → holds after) :
    holds session := by
  refine reached.property holds fun program resilient threshold configs first started => ?_
  have fresh := start threshold configs first started
  exact (resilient.leads first).mono (fun _ _ leads => leads.invariant holds step fresh)
    fun _ _ leads => leads.invariant holds step fresh

end Session

/-- A run that is computed gives a session that a program can come to. -/
theorem Act.Resilient.exists_session [NameHash] {asks : Request → Prop} {stops : Halt → Prop}
    {α : Type} {program : Act α} (resilient : program.Resilient asks stops) (threshold : Log.Level)
    (configs : List Config) (check : Session → Bool)
    (computed : reaches threshold configs program check = true) :
    ∃ session : Session, session.Reached asks stops ∧ check session = true := by
  obtain ⟨first, value, after, started, returned, checked⟩ := exists_of_reaches computed
  exact ⟨after, ⟨threshold, configs, first, started, α, program, resilient, .inl ⟨value, returned⟩⟩,
    checked⟩

end LateBinding
