import LateBinding.Proofs.Provenance
import LateBinding.Proofs.Recovery

/-!
# Programs that keep to selectors handed out

A program may use any selector that some table has handed out, of whatever image. Whatever it does
then, and whatever panics it catches, all images keep to such selectors: every action upholds this,
whether it ends or halts. No action halts because a key is out of range, and no request is refused
for that, since nothing could not be written into a table.

Programs may catch panics, so a session is not in order in any other way at the points that are
reached. Nothing else is needed.
-/

namespace LateBinding

open Session

/-- A halt is not for a key that is out of range. -/
def Halt.Spared : Halt → Prop
  | .fatal error => error.Spared
  | _ => True

/-- An answer is not that a key is out of range. -/
def Answer.Spared : Answer → Prop
  | .refused error => error.Spared
  | _ => True

/-- Releasing a lock has errors of its own. -/
theorem RecursiveLock.release_spared {lock : RecursiveLock} {thread : Thread} {error : Error}
    (refused : lock.release thread = .error error) : error.Spared := by
  unfold release at refused
  split at refused
  · cases refused
    trivial
  · split at refused
    · cases refused
      trivial
    · split at refused <;> cases refused

/-- A section that cannot be left is not refused for a key. -/
theorem Sections.leave_spared {sections : Sections} {thread : Thread} {object : Object}
    {error : Error} (refused : sections.leave thread object = .error error) : error.Spared := by
  unfold leave at refused
  split at refused
  · cases refused
  · split at refused
    · cases refused
      trivial
    · split at refused
      · cases refused
        trivial
      · rename_i released
        cases refused
        exact RecursiveLock.release_spared released
      · cases refused

/-- A request replaces methods only for selectors that some table has handed out. -/
def Request.Sourced : Request → Prop
  | .replaceMethod _ (.number selector) _ => Selector.Handed selector
  | _ => True

/-- Every selector of every image can be the key of a table. -/
def Session.Issued [NameHash] (session : Session) : Prop :=
  ∀ id, Draft.Issued { image := session.image id }

namespace Session.Issued

variable [NameHash] {session after : Session}

/-- What is neither registry nor selectors of an image does not matter. -/
theorem of_same (issued : session.Issued)
    (registry : ∀ id, (after.image id).registry = (session.image id).registry)
    (selectors : ∀ id, (after.image id).selectors = (session.image id).selectors) :
    after.Issued := by
  intro id
  constructor
  · rw [registry]
    exact (issued id).registry
  · rw [selectors]
    exact (issued id).selectors

/-- An image whose selectors are issued can take the place of another one. -/
theorem setImage (issued : session.Issued) {id : ImageId} {new : Image}
    (newIssued : Draft.Issued { image := new }) : (session.setImage id new).Issued := by
  intro other
  rw [image_setImage]
  split
  · exact newIssued
  · exact issued other

/-- A draft with issued selectors can be adopted. -/
theorem adopt (issued : session.Issued) {id : ImageId} {draft : Draft} (kept : draft.Issued) :
    (session.adopt id draft).Issued := by
  have placed : (session.setImage id draft.image).Issued :=
    issued.setImage ⟨kept.registry, kept.selectors⟩
  exact placed

end Session.Issued

namespace Act

variable [NameHash] {α β : Type} {gives : α → Prop} {later : β → Prop}

/-- From a session that is issued, an action leads to one that is, however it ends. It gives
    values that meet a condition, and never halts for a key that is out of range. -/
def Upholds (gives : α → Prop) (act : Act α) : Prop :=
  ∀ session : Session, session.Issued →
    Outcome (act session) (fun value after => gives value ∧ after.Issued)
      (fun halt after => halt.Spared ∧ after.Issued)

/-- Nothing is asked of a value. -/
abbrev whatever : α → Prop := fun _ => True

/-- A result is a value that meets a condition, or a refusal that is not for a key. -/
def Meets (gives : α → Prop) : Except Error α → Prop
  | .ok value => gives value
  | .error error => error.Spared

namespace Upholds

/-- A value is what it is given as. -/
theorem pure {value : α} (given : gives value) : Upholds gives (Pure.pure value) :=
  fun _ issued => ⟨given, issued⟩

/-- Halting leaves the session as it is. -/
theorem throw {halt : Halt} (spared : halt.Spared) : Upholds gives (throw halt : Act α) :=
  fun _ issued => ⟨spared, issued⟩

/-- Looking at the session leaves it as it is. -/
theorem get : Upholds whatever (MonadState.get : Act Session) :=
  fun _ issued => ⟨trivial, issued⟩

/-- What holds after one action and then after another one holds after both. -/
theorem bind {first : Act α} {next : α → Act β} (begun : Upholds gives first)
    (further : ∀ value, gives value → Upholds later (next value)) :
    Upholds later (first >>= next) := by
  intro session issued
  rw [outcome_bind]
  apply (begun session issued).imp
  rintro value between ⟨given, kept⟩
  exact further value given between kept

/-- So it is for an action on each member of a list. -/
theorem forM {act : β → Act PUnit} (turn : ∀ item, Upholds whatever (act item))
    (items : List β) : Upholds whatever (items.forM act) := by
  induction items with
  | nil => exact .pure trivial
  | cons item rest inductionHypothesis => exact (turn item).bind fun _ _ => inductionHypothesis

/-- And for one that gives a value for each. -/
theorem mapM {act : β → Act α} (turn : ∀ item, Upholds whatever (act item)) (items : List β) :
    Upholds whatever (items.mapM act) := by
  induction items with
  | nil => exact .pure trivial
  | cons item rest inductionHypothesis =>
    rw [List.mapM_cons]
    exact (turn item).bind fun _ _ => inductionHypothesis.bind fun _ _ => .pure trivial

/-- A change that leaves the images as they are. -/
theorem modify {change : Session → Session}
    (images : ∀ session, (change session).images = session.images) :
    Upholds whatever (modify change : Act PUnit) := by
  intro session issued
  have same : ∀ id, (change session).image id = session.image id := by
    intro id
    rw [Session.image, Session.image, images]
  exact ⟨trivial, issued.of_same (fun id => congrArg _ (same id)) fun id => congrArg _ (same id)⟩

/-- An image is only looked at. -/
theorem image (id : ImageId) : Upholds whatever (Act.image id) :=
  fun _ issued => ⟨trivial, issued⟩

/-- So is a registry. -/
theorem registry (id : ImageId) : Upholds whatever (Act.registry id) :=
  fun _ issued => ⟨trivial, issued⟩

/-- Events name no selectors of images. -/
theorem emit (event : Event) : Upholds whatever (emit event) := .modify fun _ => rfl

/-- A report is an event. -/
theorem report (level : Log.Level) (text : String) : Upholds whatever (report level text) :=
  .modify fun _ => rfl

/-- Changing sections of an image, or whether it forwards. -/
theorem modifyImage (id : ImageId) {change : Image → Image}
    (alike : ∀ image : Image, image.Alike (change image)) :
    Upholds whatever (modifyImage id change) := by
  intro session issued
  refine ⟨trivial, issued.setImage ?_⟩
  rw [alike (session.image id)]
  exact ⟨(issued id).registry, (issued id).selectors⟩

/-- Marking a class. -/
theorem mark (id : ImageId) {target : ClassId} {change : ClassEntry → ClassEntry}
    (kept : ∀ entry : ClassEntry, entry.Issued → (change entry).Issued) :
    Upholds whatever (modifyRegistry id (·.modify target change)) :=
  fun _ issued => ⟨trivial, issued.setImage
    ⟨(issued id).registry.modify target kept, (issued id).selectors⟩⟩

/-- An edit that upholds issued selectors does so in its image. -/
theorem edit (id : ImageId) {change : Edit α} {fails : Failure → Prop}
    (upholds : Edit.Upholds gives fails change)
    (spared : ∀ failure, fails failure → failure.Spared) :
    Upholds (Meets fun given => gives given.1) (edit id change) := by
  intro session issued
  apply (edit_outcome (upholds _ (issued id))).mono
  · rintro result _ ⟨draft, rfl, ended⟩
    cases result with
    | ok given => exact ⟨ended.1, issued.adopt ended.2⟩
    | error error => exact ⟨spared _ ended.1, issued.adopt ended.2⟩
  · rintro _ _ ⟨panic, draft, rfl, rfl, -, kept⟩
    exact ⟨trivial, issued.adopt kept⟩

/-- A panic that is caught, or stopped, leaves the session where it was. -/
theorem settled {act : Act α} (upholds : Upholds gives act) : Upholds whatever (settled act) := by
  intro session issued
  have outcome := upholds session issued
  unfold Act.settled
  cases ended : act session with
  | ok value after =>
    rw [ended] at outcome
    exact ⟨trivial, outcome.2⟩
  | error halt after =>
    rw [ended] at outcome
    cases halt with
    | panicked panic => exact ⟨trivial, outcome.2⟩
    | aborted panic => exact outcome
    | fatal error => exact outcome
    | deadlocked => exact outcome

/-- A panic that becomes an abort leaves the session as it was. -/
theorem sealedOff {act : Act α} (upholds : Upholds gives act) : Upholds gives (sealedOff act) := by
  intro session issued
  have outcome := upholds session issued
  unfold Act.sealedOff
  cases ended : act session with
  | ok value after =>
    rw [ended] at outcome
    exact outcome
  | error halt after =>
    rw [ended] at outcome
    cases halt with
    | panicked panic => exact outcome
    | aborted panic => exact outcome
    | fatal error => exact outcome
    | deadlocked => exact outcome

/-- What follows an action, also on the way of a panic, does not change what it gives. -/
theorem ensuring {act : Act α} {closing : Act Unit} (upholds : Upholds gives act)
    (closes : Upholds whatever closing) : Upholds gives (ensuring act closing) := by
  intro session issued
  rw [outcome_ensuring]
  apply (upholds session issued).mono
  · rintro value after ⟨given, kept⟩
    exact (closes after kept).imp fun _ _ closed => ⟨given, closed.2⟩
  · rintro halt after ⟨spared, kept⟩
    cases halt with
    | panicked panic => exact (closes after kept).imp fun _ _ closed => ⟨trivial, closed.2⟩
    | aborted panic => exact ⟨spared, kept⟩
    | fatal error => exact ⟨spared, kept⟩
    | deadlocked => exact ⟨spared, kept⟩

/-- Threads have no part in it. -/
theorem switchTo (thread : Thread) : Upholds whatever (switchTo thread) := .modify fun _ => rfl

/-- Neither has who is inside a registry. -/
theorem setEntered (entered : List (ImageId × Thread)) : Upholds whatever (setEntered entered) :=
  .modify fun _ => rfl

/-- An action does the same on another thread. -/
theorem onNewThread {act : Act α} (upholds : Upholds gives act) :
    Upholds gives (onNewThread act) := by
  have spawned : Upholds whatever spawn := fun session issued =>
    ⟨trivial, issued.of_same (fun _ => rfl) fun _ => rfl⟩
  exact Upholds.get.bind fun _ _ => spawned.bind fun _ _ => (switchTo _).bind fun _ _ =>
    upholds.ensuring (switchTo _)

/-- Waiting changes nothing. -/
theorem awaitRegistry (id : ImageId) : Upholds whatever (awaitRegistry id) := by
  refine Upholds.get.bind fun session _ => ?_
  split
  · exact .throw trivial
  · exact .pure trivial

/-- An action does the same inside a registry. -/
theorem inRegistry (id : ImageId) {act : Act α} (upholds : Upholds gives act) :
    Upholds gives (inRegistry id act) :=
  (awaitRegistry id).bind fun _ _ => Upholds.get.bind fun _ _ => (setEntered _).bind fun _ _ =>
    upholds.ensuring (setEntered _)

/-- Sections hold no selectors. -/
theorem enterSection (id : ImageId) (object : Object) :
    Upholds whatever (enterSection id object) := by
  refine Upholds.get.bind fun session _ => ?_
  split
  · exact .modifyImage id fun _ => rfl
  · exact .throw trivial

/-- The errors of leaving one are those of its lock. -/
theorem leaveSection (id : ImageId) (object : Object) :
    Upholds (Meets whatever) (leaveSection id object) := by
  refine Upholds.get.bind fun session _ => ?_
  split
  · refine Upholds.bind (.modifyImage id ?_) fun _ _ => .pure trivial
    exact fun _ => rfl
  · rename_i refused
    exact .pure (Sections.leave_spared refused)

/-- They are fatal where it has to be left. -/
theorem exitSection (id : ImageId) (object : Object) :
    Upholds whatever (exitSection id object) := by
  refine (leaveSection id object).bind fun leaving left => ?_
  split
  · exact .pure trivial
  · exact .throw left

/-- An action does the same inside a section. -/
theorem inSection (id : ImageId) (object : Object) {act : Act α} (upholds : Upholds gives act) :
    Upholds gives (inSection id object act) :=
  (enterSection id object).bind fun _ _ => upholds.ensuring (exitSection id object)

end Upholds

end Act

/-- Implementations and the handler keep to selectors that have been handed out. -/
structure Behaviour.Upholds [NameHash] (behaviour : Behaviour) : Prop where
  body : ∀ call, Act.Upholds Act.whatever (behaviour.body call)
  handler : ∀ id handle selector,
    Act.Upholds Act.whatever (behaviour.handler id handle selector)

namespace Act

variable [NameHash] {α : Type} {gives : α → Prop} {behaviour : Behaviour}

/-- A call does what the implementation does. -/
theorem call_upholds (upholds : behaviour.Upholds) (made : Call) :
    Upholds whatever (call behaviour made) :=
  Upholds.get.bind fun _ _ => (Upholds.emit _).bind fun _ _ => (upholds.body made).sealedOff

/-- So do the calls of hooks. -/
theorem runHooks_upholds (upholds : behaviour.Upholds) (id : ImageId) (hooks : List LoadHook) :
    Upholds whatever (runHooks behaviour id hooks) :=
  Upholds.forM (fun _ => (Upholds.report _ _).bind fun _ _ => (Upholds.image id).bind fun _ _ =>
    call_upholds upholds _) hooks

/-- An edit and the hooks it makes due uphold what both do. -/
theorem editAndRun_upholds (upholds : behaviour.Upholds) (id : ImageId) {change : Edit α}
    {fails : Failure → Prop} (edits : Edit.Upholds gives fails change)
    (spared : ∀ failure, fails failure → failure.Spared) :
    Upholds (Meets gives) (editAndRun behaviour id change) := by
  refine (Upholds.edit id edits spared).bind fun result met => ?_
  split
  · exact .pure met
  · exact (runHooks_upholds upholds id _).bind fun _ _ => .pure met

/-- The `initialize` of a class is a call. -/
theorem callInit_upholds (upholds : behaviour.Upholds) (id : ImageId) (target : ClassId) :
    Upholds whatever (callInit behaviour id target) := by
  refine (Upholds.image id).bind fun image _ => ?_
  split
  · exact (Upholds.report _ _).bind fun _ _ => call_upholds upholds _
  · exact .pure trivial

/-- Marks carry no selectors, so only the call counts. -/
theorem finishPreparing_upholds (upholds : behaviour.Upholds) (id : ImageId) (target : ClassId) :
    Upholds whatever (finishPreparing behaviour id target) := by
  have begins : ∀ thread, Upholds whatever (modifyRegistry id (·.beginInit target thread)) :=
    fun _ => .mark id fun _ given => ⟨given.methods, given.categories⟩
  have ends : Upholds whatever (modifyRegistry id (·.endInit target)) :=
    .mark id fun _ given => ⟨given.methods, given.categories⟩
  refine Upholds.get.bind fun session _ => ?_
  split
  · exact .pure trivial
  · exact (begins _).bind fun _ _ => (callInit_upholds upholds id target).bind fun _ _ =>
      ends.bind fun _ _ => (Upholds.registry id).bind fun _ _ => .report _ _

/-- Preparing the classes of a chain is edits and calls. The induction is on the chain. -/
theorem prepareAlong_upholds (upholds : behaviour.Upholds) (id : ImageId) (chain : List ClassId) :
    Upholds (Meets whatever) (prepareAlong behaviour id chain) := by
  induction chain with
  | nil => exact .pure trivial
  | cons target above inductionHypothesis =>
    refine Upholds.get.bind fun session _ => ?_
    split
    · exact .pure trivial
    · refine (editAndRun_upholds upholds id (Edit.readyTables_upholds target)
        fun _ spared => spared).bind fun result met => ?_
      split
      · exact .pure met
      · refine inductionHypothesis.bind fun result met => ?_
        split
        · exact .pure met
        · exact (finishPreparing_upholds upholds id target).bind fun _ _ => .pure trivial

/-- The errors of preparing are those of the chain and of another image. -/
theorem prepareInside_upholds (upholds : behaviour.Upholds) (id : ImageId) (handle : ClassHandle) :
    Upholds (Meets whatever) (prepareInside behaviour id handle) := by
  refine Upholds.get.bind fun session _ => ?_
  split
  · exact .pure trivial
  · split
    · split
      · rename_i refused
        exact .pure (Registry.chain_spared refused)
      · exact prepareAlong_upholds upholds id _
    · exact .pure trivial

/-- Preparing a class upholds issued selectors. -/
theorem prepare_upholds (upholds : behaviour.Upholds) (id : ImageId) (handle : ClassHandle) :
    Upholds (Meets whatever) (prepare behaviour id handle) := by
  refine Upholds.get.bind fun session _ => ?_
  split
  · exact .pure trivial
  · exact (prepareInside_upholds upholds id handle).inRegistry id

/-- A lookup after it changes nothing more. -/
theorem dispatch_upholds (upholds : behaviour.Upholds) (id : ImageId) (handle : ClassHandle)
    (selector : Selector) : Upholds (Meets whatever) (dispatch behaviour id handle selector) := by
  refine (prepare_upholds upholds id handle).bind fun result met => ?_
  split
  · exact .pure met
  · exact Upholds.get.bind fun _ _ => .pure trivial

/-- So it is if only the answer counts. -/
theorem respondsTo_upholds (upholds : behaviour.Upholds) (id : ImageId) (handle : ClassHandle)
    (selector : Selector) : Upholds whatever (respondsTo behaviour id handle selector) := by
  refine (dispatch_upholds upholds id handle selector).bind fun result _ => ?_
  split
  · exact .pure trivial
  · exact .pure trivial

/-- The handler is part of the behaviour. Fatal errors are among those of a message. -/
theorem lookupOrForward_upholds (upholds : behaviour.Upholds) (id : ImageId)
    (handle : ClassHandle) (selector : Selector) :
    Upholds whatever (lookupOrForward behaviour id handle selector) := by
  refine (dispatch_upholds upholds id handle selector).bind fun result met => ?_
  split
  · exact .pure trivial
  · exact .throw met
  · refine (Upholds.image id).bind fun image _ => Upholds.get.bind fun session _ =>
      (Upholds.report _ _).bind fun _ _ => ?_
    split
    · exact (Upholds.emit _).bind fun _ _ => upholds.handler id handle selector
    · exact .throw trivial

/-- Sending a message is finding its implementation and calling it. -/
theorem send_upholds (upholds : behaviour.Upholds) (id : ImageId) (handle : ClassHandle)
    (selector : Selector) : Upholds whatever (send behaviour id handle selector) :=
  (lookupOrForward_upholds upholds id handle selector).bind fun _ _ =>
    (call_upholds upholds _).bind fun _ _ => .pure trivial

/-- Replacing a method under a selector that a table can hand out upholds issued selectors. -/
theorem replaceMethod_upholds (id : ImageId) (handle : ClassHandle) {selector : Selector}
    (imp : Imp) (fits : selector < SparseMap.capacity) :
    Upholds (Meets whatever) (replaceMethod id handle selector imp) := by
  have replaces : Edit.Upholds Edit.anything Edit.never
      (Edit.replaceMethod handle.ref selector imp) := Edit.replaceMethod_upholds handle.ref imp fits
  refine (Upholds.awaitRegistry id).bind fun _ _ => Upholds.get.bind fun session _ => ?_
  split
  · refine (Upholds.edit id replaces fun _ impossible => impossible.elim).bind fun result met => ?_
    split
    · exact .pure met
    · exact .pure trivial
  · exact .pure trivial

/-- Looking for a class changes nothing. -/
theorem findClass_upholds (query : ClassQuery) : Upholds (Meets whatever) (findClass query) := by
  refine (Upholds.awaitRegistry query.image).bind fun _ _ =>
    (Upholds.registry query.image).bind fun registry _ => ?_
  split
  · exact .pure trivial
  · exact .pure trivial

/-- Whatever goes on with a class goes on with none. -/
theorem withClass_upholds {query : ClassQuery} {next : ClassHandle → Act Answer}
    (further : ∀ handle, Upholds Answer.Spared (next handle)) :
    Upholds Answer.Spared (withClass query next) := by
  refine (findClass_upholds query).bind fun result met => ?_
  split
  · exact further _
  · exact .pure met

/-- What goes on with a selector may rely on where it comes from. -/
theorem withSelector_upholds {query : SelectorQuery} {next : Selector → Act Answer}
    (further : ∀ selector, Gives query selector → Upholds Answer.Spared (next selector)) :
    Upholds Answer.Spared (withSelector query next) := by
  have found : Upholds (Meets (Gives query)) (findSelector query) := by
    cases query with
    | number selector => exact .pure rfl
    | intern id signature =>
      refine (Upholds.edit id (Edit.intern_upholds signature)
        fun _ exhausted => exhausted.spared).bind fun result met => ?_
      split
      · exact .pure met
      · exact .pure met
  refine found.bind fun result met => ?_
  split
  · exact further _ met
  · exact .pure met

/-- Looking for an object changes nothing. -/
theorem findObject_upholds (query : ObjectQuery) : Upholds whatever (findObject query) := by
  cases query with
  | address address => exact .pure trivial
  | classObject query =>
    refine (findClass_upholds query).bind fun result _ => ?_
    split
    · exact .pure trivial
    · exact .pure trivial

omit [NameHash] in
/-- What is answered for a result is spared if the result is. -/
theorem answering_spared {result : Except Error α} (met : Meets whatever result)
    {answer : α → Answer} (spared : ∀ value, (answer value).Spared) :
    (answering result answer).Spared := by
  cases result with
  | ok value => exact spared value
  | error error => exact met

/-- A request that only reads. -/
theorem reading_upholds {answer : Session → Answer} (spared : ∀ session, (answer session).Spared) :
    Upholds Answer.Spared (do return answer (← get)) :=
  Upholds.get.bind fun session _ => .pure (spared session)

/-- A request that only reads, and reads about a class. -/
theorem readingClass_upholds {query : ClassQuery} {answer : ClassHandle → Session → Answer}
    (spared : ∀ handle session, (answer handle session).Spared) :
    Upholds Answer.Spared (withClass query fun handle => do return answer handle (← get)) :=
  withClass_upholds fun handle => reading_upholds (spared handle)

/-- It may have to wait for its turn in the registry. -/
theorem awaitingClass_upholds (id : ImageId) {query : ClassQuery}
    {answer : ClassHandle → Session → Answer}
    (spared : ∀ handle session, (answer handle session).Spared) :
    Upholds Answer.Spared (withClass query fun handle => do
      awaitRegistry id
      return answer handle (← get)) :=
  withClass_upholds fun handle => (Upholds.awaitRegistry id).bind fun _ _ =>
    reading_upholds (spared handle)

/-- Registering something is not refused because a key is out of range. -/
theorem registering_upholds (upholds : behaviour.Upholds) (id : ImageId) {asked : Request}
    (registers : asked.registers = true) : Upholds Answer.Spared (asked.run behaviour id) := by
  have edited : ∀ {α : Type} {change : Edit α} {fails : Failure → Prop},
      Edit.Upholds (fun _ => True) fails change →
      (∀ failure, fails failure → failure.Spared) →
      Upholds (Meets whatever) (inRegistry id (editAndRun behaviour id change)) :=
    fun edits spared => (editAndRun_upholds upholds id edits spared).inRegistry id
  cases asked with
  | registerClass decl =>
    have registers : Edit.Upholds (fun _ => True) Failure.Spared (Edit.registerClass decl) := by
      intro draft issued
      apply (Edit.registerClass_issues issued decl).mono
      · exact fun _ _ kept => ⟨trivial, kept⟩
      · rintro _ after ⟨kept, ⟨rfl, -⟩ | exhausted | rfl⟩
        · exact ⟨trivial, kept⟩
        · exact ⟨exhausted.spared, kept⟩
        · exact ⟨trivial, kept⟩
    exact (edited registers fun _ spared => spared).bind fun result met =>
      reading_upholds fun _ => answering_spared met fun _ => trivial
  | registerCategory decl =>
    exact (edited (Edit.insertCategory_upholds decl) fun _ exhausted => exhausted.spared).bind
      fun result met => .pure (answering_spared met fun _ => trivial)
  | loadModule decl =>
    refine (edited (Edit.loadModule_upholds decl) ?_).bind
      fun result met => reading_upholds fun _ => answering_spared met fun _ => trivial
    rintro failure (exhausted | rfl)
    · exact exhausted.spared
    · trivial
  | _ => cases registers

/-- Replacing a method is not, if the selector is one that some table has handed out. -/
theorem replacing_upholds (id : ImageId) {target : ClassQuery} {query : SelectorQuery} {imp : Imp}
    (sourced : (Request.replaceMethod target query imp).Sourced) :
    Upholds Answer.Spared ((Request.replaceMethod target query imp).run behaviour id) := by
  refine withClass_upholds fun handle => withSelector_upholds fun selector given => ?_
  have fits : selector < SparseMap.capacity := by
    cases query with
    | number named =>
      have handed : Selector.Handed named := sourced
      exact given ▸ handed.lt_capacity
    | intern _ _ => exact given
  exact (replaceMethod_upholds id handle imp fits).bind fun result met =>
    .pure (answering_spared met fun _ => trivial)

/-- Nor is a message to a class. -/
theorem deliver_upholds (upholds : behaviour.Upholds) (id : ImageId) (handle : ClassHandle)
    (asked : Request) : Upholds Answer.Spared (asked.deliver behaviour id handle) := by
  cases asked with
  | dispatch target query =>
    exact withSelector_upholds fun selector _ =>
      (dispatch_upholds upholds id handle selector).bind fun result met =>
        .pure (answering_spared met fun _ => trivial)
  | lookupOrForward target query =>
    exact withSelector_upholds fun selector _ =>
      (lookupOrForward_upholds upholds id handle selector).bind fun _ _ => .pure trivial
  | send target query =>
    exact withSelector_upholds fun selector _ =>
      (send_upholds upholds id handle selector).bind fun _ _ => .pure trivial
  | sendFromThreads target query threads =>
    exact withSelector_upholds fun selector _ =>
      (Upholds.mapM (fun _ => (send_upholds upholds id handle selector).onNewThread) _).bind
        fun _ _ => .pure trivial
  | respondsTo target query =>
    exact withSelector_upholds fun selector _ =>
      (respondsTo_upholds upholds id handle selector).bind fun _ _ => .pure trivial
  | prepare target =>
    exact (prepare_upholds upholds id handle).bind fun result met =>
      .pure (answering_spared met fun _ => trivial)
  | _ => exact .pure trivial

/-- Nor is any other request. -/
theorem plain_upholds (id : ImageId) {asked : Request} (isPlain : asked.isPlain = true) :
    Upholds Answer.Spared (asked.run behaviour id) := by
  have waits := Upholds.awaitRegistry id
  cases asked with
  | registerClass | registerCategory | loadModule | replaceMethod | dispatch | lookupOrForward
  | send | sendFromThreads | respondsTo | prepare => cases isPlain
  | registerSelector signature => exact withSelector_upholds fun _ _ => .pure trivial
  | resetForward =>
    have resets : Upholds whatever (modifyImage id fun image => { image with forwards := false }) :=
      .modifyImage id fun _ => rfl
    exact resets.bind fun _ _ => .pure trivial
  | lookupClass name =>
    refine waits.bind fun _ _ => Upholds.get.bind fun session _ => ?_
    split
    · exact .pure trivial
    · exact .pure trivial
  | getClass target => exact readingClass_upholds fun _ _ => trivial
  | classes => exact waits.bind fun _ _ => reading_upholds fun _ => trivial
  | categories target => exact awaitingClass_upholds id fun _ _ => trivial
  | waitingCategories name => exact waits.bind fun _ _ => reading_upholds fun _ => trivial
  | sameCategories target other =>
    exact withClass_upholds fun _ => awaitingClass_upholds id fun _ _ => trivial
  | superclasses target => exact readingClass_upholds fun _ _ => trivial
  | isSubclass target other =>
    exact withClass_upholds fun _ => readingClass_upholds fun _ _ => trivial
  | sameClass target other =>
    exact withClass_upholds fun _ => withClass_upholds fun _ => .pure trivial
  | table target =>
    refine withClass_upholds fun handle => Upholds.get.bind fun session _ => ?_
    split
    · exact .pure trivial
    · exact .pure trivial
  | keepTable target key =>
    refine withClass_upholds fun handle => Upholds.get.bind fun session _ => ?_
    split
    · refine Upholds.bind (.modify ?_) fun _ _ => .pure trivial
      exact fun _ => rfl
    · exact .pure trivial
  | readTable key =>
    refine Upholds.get.bind fun session _ => ?_
    split
    · exact .pure trivial
    · exact .pure trivial
  | findSelector signature =>
    refine (Upholds.image id).bind fun image _ => ?_
    split
    · exact .pure trivial
    · exact .pure trivial
  | resolveSelector query =>
    refine withSelector_upholds fun selector _ => (Upholds.image id).bind fun image _ => ?_
    split
    · exact .pure trivial
    · exact .pure trivial
  | selectorName query => exact withSelector_upholds fun _ _ => reading_upholds fun _ => trivial
  | selectorStatistics => exact reading_upholds fun _ => trivial
  | describeClass target => exact readingClass_upholds fun _ _ => trivial
  | describeImage => exact reading_upholds fun _ => trivial
  | describeMethods target => exact awaitingClass_upholds id fun _ _ => trivial
  | enterSection object =>
    exact (findObject_upholds object).bind fun object _ =>
      (Upholds.enterSection id object).bind fun _ _ => .pure trivial
  | leaveSection object elsewhere =>
    refine (findObject_upholds object).bind fun object _ => ?_
    have leaves := Upholds.leaveSection id object
    dsimp only
    split
    · exact leaves.onNewThread.bind fun result met => .pure (answering_spared met fun _ => trivial)
    · exact leaves.bind fun result met => .pure (answering_spared met fun _ => trivial)
  | dump => exact waits.bind fun _ _ => reading_upholds fun _ => trivial

/-- No request is refused because a key is out of range. -/
theorem request_upholds (upholds : behaviour.Upholds) (id : ImageId) {asked : Request}
    (sourced : asked.Sourced) : Upholds Answer.Spared (asked.run behaviour id) := by
  cases asked.kind with
  | plain isPlain => exact plain_upholds id isPlain
  | message given =>
    rw [asked.run_of_recipient given]
    exact withClass_upholds fun handle => deliver_upholds upholds id handle asked
  | registering registers => exact registering_upholds upholds id registers
  | replacing target query imp => exact replacing_upholds id sourced

/-- The actions of programs that use only selectors that some table has handed out. They may catch
    panics and go on. They may stop as well, but it is for images to find a key out of range. -/
abbrev Sourced {α : Type} (program : Act α) : Prop := Resilient Request.Sourced Halt.Spared program

/-- Every program keeps to selectors that have been handed out, however it ends. -/
theorem Resilient.upholds {program : Act α} (sourced : program.Sourced) :
    Upholds whatever program := by
  induction sourced with
  | done value => exact .pure trivial
  | stop halt spared => exact .throw spared
  | next _ _ begun continued => exact begun.bind fun value _ => continued value
  | look => exact .get
  | note remark => exact .modify fun _ => rfl
  | request id asked sourced _ _ bodies handlers =>
    intro session issued
    exact (request_upholds ⟨bodies, handlers⟩ id sourced session issued).imp
      fun _ _ given => ⟨trivial, given.2⟩
  | inSection id object _ inside => exact inside.inSection id object
  | setForward behaviour id imp actions again =>
    refine Upholds.bind (.modify ?_) fun _ _ => Upholds.bind (.modifyImage id ?_)
      fun _ _ => .pure trivial
    all_goals exact fun _ => rfl
  | attempt _ tried => exact tried.settled

end Act

end LateBinding
