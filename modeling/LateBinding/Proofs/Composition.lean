import LateBinding.Proofs.Outcome
import LateBinding.Session.Script

/-!
# Properties that compose

Whatever a session does is put together from few things: it reads the session, though neither
the log nor its threshold; it runs an edit on an image, adds an event or a report, changes what
lies beside the images, and runs something in a section, in a registry or on another thread. A
property that these have, and that sequences have if their parts have it, is one that every
request has, as long as implementations and the handler have it.

Requests fall into four kinds. Some send a message, some register something, one replaces a
method, and the others are plain. What is special about a property is shown of a kind at most,
and the rest is the walk over all requests, which is done here once.
-/

namespace LateBinding

/-- Whether an event is a report that reached the log. -/
def Event.isLogged : Event → Bool
  | .logged _ => true
  | _ => false

/-- The call that an event is, if it is one. -/
def Event.call? : Event → Option Call
  | .called call _ => some call
  | _ => none

/-- A session without its log and the threshold of it. -/
def Session.unheard [NameHash] (session : Session) : Session :=
  { session with
    threshold := .error
    events := session.events.filter fun event => !event.isLogged }

/-- Two images are the same but for sections and the choice to forward. -/
def Image.Alike [NameHash] (before after : Image) : Prop :=
  after = { before with forwards := after.forwards, sections := after.sections }

/-- A change of nothing but the handler and the tables kept, whatever the log is. -/
structure Session.Aside [NameHash] (change : Session → Session) : Prop where
  same : ∀ session, change session =
    { session with handler := (change session).handler, kept := (change session).kept }
  unheard : ∀ session threshold events, change { session with threshold, events } =
    { change session with threshold, events }

namespace Request

variable [NameHash]

/-- The class that a message is for, in a request that sends one. -/
def recipient? : Request → Option ClassQuery
  | .dispatch target _ => some target
  | .lookupOrForward target _ => some target
  | .send target _ => some target
  | .sendFromThreads target _ _ => some target
  | .respondsTo target _ => some target
  | .prepare target => some target
  | _ => none

/-- What a request that sends a message does when it has found the class. -/
def deliver (behaviour : Behaviour) (id : ImageId) (handle : ClassHandle) : Request → Act Answer
  | .dispatch _ query => Act.withSelector query fun selector => do
      return Act.answering (← Act.dispatch behaviour id handle selector) .found
  | .lookupOrForward _ query => Act.withSelector query fun selector => do
      return .found (some (← Act.lookupOrForward behaviour id handle selector))
  | .send _ query => Act.withSelector query fun selector => do
      return .returned (← Act.send behaviour id handle selector)
  | .sendFromThreads _ query threads => Act.withSelector query fun selector => do
      return .returnedAll (← Act.sendFromThreads behaviour id handle selector threads)
  | .respondsTo _ query => Act.withSelector query fun selector => do
      return .flag (← Act.respondsTo behaviour id handle selector)
  | .prepare _ => do
      return Act.answering (← Act.prepare behaviour id handle) fun _ => .done
  | _ => return .done

/-- A request that sends a message looks for the class first. -/
theorem run_of_recipient {asked : Request} {target : ClassQuery}
    (given : asked.recipient? = some target) (behaviour : Behaviour) (id : ImageId) :
    asked.run behaviour id =
      Act.withClass target fun handle => asked.deliver behaviour id handle := by
  cases asked <;> cases given <;> rfl

/-- Whether a request registers classes or categories. -/
def registers : Request → Bool
  | .registerClass _ | .registerCategory _ | .loadModule _ => true
  | _ => false

/-- Whether a request neither sends a message nor registers something nor replaces a method. -/
def isPlain : Request → Bool
  | .replaceMethod _ _ _ => false
  | asked => asked.recipient?.isNone && !asked.registers

/-- Every request is of one of four kinds. -/
inductive Kind : Request → Prop
  | plain {asked : Request} (isPlain : asked.isPlain = true) : Kind asked
  | message {asked : Request} {target : ClassQuery} (given : asked.recipient? = some target) :
      Kind asked
  | registering {asked : Request} (registers : asked.registers = true) : Kind asked
  | replacing (target : ClassQuery) (query : SelectorQuery) (imp : Imp) :
      Kind (.replaceMethod target query imp)

omit [NameHash] in
/-- Every request is of one of these kinds. -/
theorem kind (asked : Request) : asked.Kind := by
  cases asked with
  | replaceMethod target query imp => exact .replacing target query imp
  | registerClass | registerCategory | loadModule => exact .registering rfl
  | dispatch | lookupOrForward | send | sendFromThreads | respondsTo | prepare => exact .message rfl
  | _ => exact .plain rfl

end Request

namespace Act

variable [NameHash]

/-- A panic that is caught leaves the session where it was. -/
theorem settled_outcome {α : Type} {act : Act α} {session : Session} {kept : Session → Prop}
    (outcome : Outcome (act session) (fun _ after => kept after) fun _ after => kept after) :
    Outcome (settled act session) (fun _ after => kept after) fun _ after => kept after := by
  unfold settled
  cases ended : act session with
  | ok value after =>
    rw [ended] at outcome
    exact outcome
  | error halt after =>
    rw [ended] at outcome
    cases halt with
    | panicked panic => exact outcome
    | aborted panic => exact outcome
    | fatal error => exact outcome
    | deadlocked => exact outcome

/-- So does a panic that is stopped. -/
theorem sealedOff_outcome {α : Type} {act : Act α} {session : Session} {kept : Session → Prop}
    (outcome : Outcome (act session) (fun _ after => kept after) fun _ after => kept after) :
    Outcome (sealedOff act session) (fun _ after => kept after) fun _ after => kept after := by
  unfold sealedOff
  cases ended : act session with
  | ok value after =>
    rw [ended] at outcome
    exact outcome
  | error halt after =>
    rw [ended] at outcome
    cases halt with
    | panicked panic => exact outcome
    | aborted panic => exact outcome
    | fatal error => exact outcome
    | deadlocked => exact outcome

/-- A property that sequences have if their parts have it, and that what lies beside registries
    and selectors of images does not affect. -/
structure Sequential (holds : ∀ {α : Type}, Act α → Prop) : Prop where
  pure {α : Type} (value : α) : holds (Pure.pure value : Act α)
  throw {α : Type} (halt : Halt) (calm : ∀ panic, halt ≠ .panicked panic) :
    holds (MonadExcept.throw halt : Act α)
  bind {α β : Type} {first : Act α} {next : α → Act β} (begun : holds first)
    (continued : ∀ value, holds (next value)) : holds (first >>= next)
  read {α : Type} {next : Session → Act α}
    (unheard : ∀ session, next session.unheard = next session)
    (continued : ∀ session, holds (next session)) : holds (MonadState.get >>= next)
  /-- A change of sections, or of the choice to forward. -/
  modifyImage (id : ImageId) {change : Image → Image}
    (alike : ∀ image : Image, image.Alike (change image)) : holds (modifyImage id change)

/-- A property that even a change of threads and of who is inside a registry has, and a panic
    that is caught. -/
structure Untouched (holds : ∀ {α : Type}, Act α → Prop) : Prop extends Sequential holds where
  panic {α : Type} (panic : Panic) : holds (MonadExcept.throw (.panicked panic) : Act α)
  settled {α : Type} {act : Act α} (inside : holds act) : holds (settled act)
  spawn : holds spawn
  switchTo (thread : Thread) : holds (switchTo thread)
  setEntered (entered : List (ImageId × Thread)) : holds (setEntered entered)

/-- A property that the parts of every request have, and sequences if their parts have it. -/
structure Composed (holds : ∀ {α : Type}, Act α → Prop) : Prop extends Sequential holds where
  report (level : Log.Level) (text : String) : holds (report level text)
  emit {event : Event} (unlogged : event.isLogged = false) (uncalled : event.call? = none) :
    holds (emit event)
  aside {change : Session → Session} (aside : Session.Aside change) : holds (modify change)
  intern (id : ImageId) (signature : Signature) : holds (edit id (Edit.intern signature))
  sealedOff {α : Type} {act : Act α} (inside : holds act) : holds (sealedOff act)
  onNewThread {α : Type} {act : Act α} (inside : holds act) : holds (onNewThread act)
  inRegistry {α : Type} (id : ImageId) {act : Act α} (inside : holds act) :
    holds (inRegistry id act)
  inSection {α : Type} (id : ImageId) (object : Object) {act : Act α} (inside : holds act) :
    holds (inSection id object act)

/-- A property that registering has as well. -/
structure Registering (holds : ∀ {α : Type}, Act α → Prop) : Prop where
  registerClass (id : ImageId) (decl : ClassDecl) : holds (edit id (Edit.registerClass decl))
  insertCategory (id : ImageId) (decl : CategoryDecl) : holds (edit id (Edit.insertCategory decl))
  loadModule (id : ImageId) (decl : ModuleDecl) : holds (edit id (Edit.loadModule decl))

/-- A property that all other changes have as well, and marks, whatever class they are about. -/
structure Unguarded (holds : ∀ {α : Type}, Act α → Prop) : Prop where
  begins (id : ImageId) (target : ClassId) (thread : Thread) :
    holds (modifyRegistry id (·.beginInit target thread))
  ends (id : ImageId) (target : ClassId) : holds (modifyRegistry id (·.endInit target))
  readies (id : ImageId) (target : ClassId) : holds (edit id (readyTables target))
  replaces (id : ImageId) (ref : SideRef) (selector : Selector) (imp : Imp) :
    holds (edit id (Edit.replaceMethod ref selector imp))

namespace Sequential

variable {holds : ∀ {α : Type}, Act α → Prop} (sequential : Sequential holds)
variable {α β : Type}

include sequential

/-- What holds of an action for each member of a list holds of all of them in turn. -/
theorem forM {act : β → Act PUnit} (turn : ∀ item, holds (act item)) (items : List β) :
    holds (items.forM act) := by
  induction items with
  | nil => exact sequential.pure _
  | cons item rest inductionHypothesis =>
    exact sequential.bind (turn item) fun _ => inductionHypothesis

/-- So it does if each gives a value. -/
theorem mapM {act : β → Act α} (turn : ∀ item, holds (act item)) (items : List β) :
    holds (items.mapM act) := by
  induction items with
  | nil => exact sequential.pure _
  | cons item rest inductionHypothesis =>
    rw [List.mapM_cons]
    exact sequential.bind (turn item) fun _ => sequential.bind inductionHypothesis fun _ =>
      sequential.pure _

/-- Reads an answer off the session. -/
theorem reading {answer : Session → α}
    (unheard : ∀ session, answer session.unheard = answer session) :
    holds (do return answer (← get)) :=
  sequential.read (fun session => by rw [unheard]) fun _ => sequential.pure _

/-- Looking at an image only reads. -/
theorem image (id : ImageId) : holds (image id) := sequential.reading fun _ => rfl

/-- So does looking at a registry. -/
theorem registry (id : ImageId) : holds (registry id) := sequential.reading fun _ => rfl

/-- Waiting reads, and may halt. -/
theorem awaitRegistry (id : ImageId) : holds (awaitRegistry id) := by
  refine sequential.read (fun _ => rfl) fun session => ?_
  split
  · exact sequential.throw _ fun _ impossible => by cases impossible
  · exact sequential.pure _

/-- Entering a section changes the sections of an image, or waits for good. -/
theorem enterSection (id : ImageId) (object : Object) : holds (enterSection id object) := by
  refine sequential.read (fun _ => rfl) fun session => ?_
  split
  · exact sequential.modifyImage id fun _ => rfl
  · exact sequential.throw _ fun _ impossible => by cases impossible

/-- Leaving one changes them, or gives an error. -/
theorem leaveSection (id : ImageId) (object : Object) : holds (leaveSection id object) := by
  refine sequential.read (fun _ => rfl) fun session => ?_
  split
  · exact sequential.bind (sequential.modifyImage id fun _ => rfl) fun _ => sequential.pure _
  · exact sequential.pure _

/-- Where a section has to be left the error is a halt. -/
theorem exitSection (id : ImageId) (object : Object) : holds (exitSection id object) := by
  refine sequential.bind (sequential.leaveSection id object) fun left => ?_
  split
  · exact sequential.pure _
  · exact sequential.throw _ fun _ impossible => by cases impossible

/-- Looking for a class reads, after it has waited for its turn. -/
theorem findClass (query : ClassQuery) : holds (findClass query) := by
  refine sequential.bind (sequential.awaitRegistry query.image) fun _ =>
    sequential.bind (sequential.registry query.image) fun registry => ?_
  split
  · exact sequential.pure _
  · exact sequential.pure _

/-- What goes on with a class goes on with none. -/
theorem withClass {query : ClassQuery} {next : ClassHandle → Act Answer}
    (further : ∀ handle, holds (next handle)) : holds (withClass query next) := by
  refine sequential.bind (sequential.findClass query) fun result => ?_
  split
  · exact further _
  · exact sequential.pure _

/-- A request that reads a class. -/
theorem readingClass {query : ClassQuery} {answer : ClassHandle → Session → Answer}
    (unheard : ∀ handle session, answer handle session.unheard = answer handle session) :
    holds (Act.withClass query fun handle => do return answer handle (← get)) :=
  sequential.withClass fun handle => sequential.reading (unheard handle)

/-- A request that reads a class from inside the registry. -/
theorem awaitingClass {query : ClassQuery} (id : ImageId)
    {answer : ClassHandle → Session → Answer}
    (unheard : ∀ handle session, answer handle session.unheard = answer handle session) :
    holds (Act.withClass query fun handle => do
      Act.awaitRegistry id
      return answer handle (← get)) :=
  sequential.withClass fun handle => sequential.bind (sequential.awaitRegistry id) fun _ =>
    sequential.reading (unheard handle)

/-- So does looking for an object. -/
theorem findObject (query : ObjectQuery) : holds (findObject query) := by
  cases query with
  | address address => exact sequential.pure _
  | classObject query =>
    refine sequential.bind (sequential.findClass query) fun result => ?_
    split
    · exact sequential.pure _
    · exact sequential.pure _

end Sequential

namespace Untouched

variable {holds : ∀ {α : Type}, Act α → Prop} (untouched : Untouched holds)
variable {α : Type}

include untouched

/-- Whatever is done in the end is done after the action, or after its panic. -/
theorem ensuring {act : Act α} {closing : Act Unit} (inside : holds act)
    (closes : holds closing) : holds (ensuring act closing) := by
  refine untouched.bind (untouched.settled inside) fun ended =>
    untouched.bind closes fun _ => ?_
  split
  · exact untouched.pure _
  · exact untouched.panic _

/-- An action on a new thread is wrapped in changes of the running thread. -/
theorem onNewThread {act : Act α} (inside : holds act) : holds (onNewThread act) :=
  untouched.read (fun _ => rfl) fun _ => untouched.bind untouched.spawn fun _ =>
    untouched.bind (untouched.switchTo _) fun _ =>
      untouched.ensuring inside (untouched.switchTo _)

/-- An action inside a registry is wrapped in changes of who is there. -/
theorem inRegistry (id : ImageId) {act : Act α} (inside : holds act) :
    holds (inRegistry id act) :=
  untouched.bind (untouched.awaitRegistry id) fun _ => untouched.read (fun _ => rfl) fun _ =>
    untouched.bind (untouched.setEntered _) fun _ =>
      untouched.ensuring inside (untouched.setEntered _)

/-- An action inside a section is wrapped in changes of the section. -/
theorem inSection (id : ImageId) (object : Object) {act : Act α} (inside : holds act) :
    holds (inSection id object act) :=
  untouched.bind (untouched.enterSection id object) fun _ =>
    untouched.ensuring inside (untouched.exitSection id object)

end Untouched

/-- Properties that compose, one for each index, compose all at once. -/
theorem Composed.forall {ι : Type} {holds : ι → ∀ {α : Type}, Act α → Prop}
    (each : ∀ i, Composed (holds i)) : Composed fun act => ∀ i, holds i act where
  pure value i := (each i).pure value
  throw halt calm i := (each i).throw halt calm
  bind begun continued i := (each i).bind (begun i) fun value => continued value i
  read unheard continued i := (each i).read unheard fun session => continued session i
  modifyImage id _ alike i := (each i).modifyImage id alike
  report level text i := (each i).report level text
  emit unlogged uncalled i := (each i).emit unlogged uncalled
  aside aside i := (each i).aside aside
  intern id signature i := (each i).intern id signature
  sealedOff inside i := (each i).sealedOff (inside i)
  onNewThread inside i := (each i).onNewThread (inside i)
  inRegistry id _ inside i := (each i).inRegistry id (inside i)
  inSection id object _ inside i := (each i).inSection id object (inside i)

namespace Composed

variable {holds : ∀ {α : Type}, Act α → Prop} (composed : Composed holds)
variable {α β : Type}

include composed

/-- Installing a handler is a change of the session and one of the image. -/
theorem setForward (behaviour : Behaviour) (id : ImageId) (imp : Imp) (actions : List Step)
    (again : Bool) : holds ((Step.setForward id imp actions again).run behaviour) :=
  composed.bind (composed.aside ⟨fun _ => rfl, fun _ _ _ => rfl⟩) fun _ =>
    composed.bind (composed.modifyImage id fun _ => rfl) fun _ => composed.pure _

/-- A selector is given, or interned by an edit. -/
theorem findSelector (query : SelectorQuery) : holds (findSelector query) := by
  cases query with
  | number selector => exact composed.pure _
  | intern id signature =>
    refine composed.bind (composed.intern id signature) fun result => ?_
    split
    · exact composed.pure _
    · exact composed.pure _

/-- What goes on with a selector goes on with none. -/
theorem withSelector {query : SelectorQuery} {next : Selector → Act Answer}
    (further : ∀ selector, holds (next selector)) : holds (withSelector query next) := by
  refine composed.bind (composed.findSelector query) fun result => ?_
  split
  · exact further _
  · exact composed.pure _

/-- Replacing a method is an edit, if the class is the image's own. -/
theorem replaceMethod {id : ImageId} {handle : ClassHandle} {selector : Selector} {imp : Imp}
    (replaces : holds (edit id (Edit.replaceMethod handle.ref selector imp))) :
    holds (replaceMethod id handle selector imp) := by
  refine composed.bind (composed.awaitRegistry id) fun _ =>
    composed.read (fun _ => rfl) fun session => ?_
  split
  · refine composed.bind replaces fun result => ?_
    split
    · exact composed.pure _
    · exact composed.pure _
  · exact composed.pure _

/-- Every request has a property that composes if it is plain. -/
theorem plainRequest {behaviour : Behaviour} {id : ImageId} {asked : Request}
    (isPlain : asked.isPlain = true) : holds (asked.run behaviour id) := by
  have noting : ∀ {change : Session → Session}, Session.Aside change →
      holds (modify change : Act PUnit) := composed.aside
  cases asked with
  | registerClass | registerCategory | loadModule | replaceMethod | dispatch | lookupOrForward
  | send | sendFromThreads | respondsTo | prepare => cases isPlain
  | registerSelector signature => exact composed.withSelector fun _ => composed.pure _
  | resetForward =>
    exact composed.bind (composed.modifyImage id fun _ => rfl) fun _ => composed.pure _
  | lookupClass name =>
    refine composed.bind (composed.awaitRegistry id) fun _ =>
      composed.read (fun _ => rfl) fun session => ?_
    split
    · exact composed.pure _
    · exact composed.pure _
  | getClass target => exact composed.readingClass fun _ _ => rfl
  | classes =>
    exact composed.bind (composed.awaitRegistry id) fun _ => composed.reading fun _ => rfl
  | categories target => exact composed.awaitingClass id fun _ _ => rfl
  | waitingCategories name =>
    exact composed.bind (composed.awaitRegistry id) fun _ => composed.reading fun _ => rfl
  | sameCategories target other =>
    exact composed.withClass fun _ => composed.awaitingClass id fun _ _ => rfl
  | superclasses target => exact composed.readingClass fun _ _ => rfl
  | isSubclass target other =>
    exact composed.withClass fun _ => composed.readingClass fun _ _ => rfl
  | sameClass target other =>
    exact composed.withClass fun _ => composed.withClass fun _ => composed.pure _
  | table target =>
    refine composed.withClass fun handle => composed.read (fun _ => rfl) fun session => ?_
    split
    · exact composed.pure _
    · exact composed.pure _
  | keepTable target key =>
    refine composed.withClass fun handle => composed.read (fun _ => rfl) fun session => ?_
    split
    · exact composed.bind (noting ⟨fun _ => rfl, fun _ _ _ => rfl⟩) fun _ => composed.pure _
    · exact composed.pure _
  | readTable key =>
    refine composed.read (fun _ => rfl) fun session => ?_
    split
    · exact composed.pure _
    · exact composed.pure _
  | findSelector signature =>
    refine composed.bind (composed.image id) fun image => ?_
    split
    · exact composed.pure _
    · exact composed.pure _
  | resolveSelector query =>
    refine composed.withSelector fun selector => composed.bind (composed.image id) fun image => ?_
    split
    · exact composed.pure _
    · exact composed.pure _
  | selectorName query => exact composed.withSelector fun _ => composed.reading fun _ => rfl
  | selectorStatistics => exact composed.reading fun _ => rfl
  | describeClass target => exact composed.readingClass fun _ _ => rfl
  | describeImage => exact composed.reading fun _ => rfl
  | describeMethods target => exact composed.awaitingClass id fun _ _ => rfl
  | enterSection object =>
    exact composed.bind (composed.findObject object) fun object =>
      composed.bind (composed.enterSection id object) fun _ => composed.pure _
  | leaveSection object elsewhere =>
    refine composed.bind (composed.findObject object) fun object => ?_
    dsimp only
    split
    · exact composed.bind (composed.onNewThread (composed.leaveSection id object)) fun _ =>
        composed.pure _
    · exact composed.bind (composed.leaveSection id object) fun _ => composed.pure _
  | dump => exact composed.bind (composed.awaitRegistry id) fun _ => composed.reading fun _ => rfl

variable {behaviour : Behaviour}

/-- Calling an implementation has a property that the implementation has. -/
theorem call (emits : ∀ made label, holds (Act.emit (.called made label)))
    (bodies : ∀ call, holds (behaviour.body call)) (made : Call) : holds (call behaviour made) :=
  composed.read (fun _ => rfl) fun _ => composed.bind (emits made _) fun _ =>
    composed.sealedOff (bodies made)

variable (calls : ∀ made, holds (Act.call behaviour made))

include calls

/-- Hooks are reported and called, one after the other. -/
theorem runHooks (id : ImageId) (hooks : List LoadHook) : holds (runHooks behaviour id hooks) :=
  composed.forM (fun _ => composed.bind (composed.report _ _) fun _ =>
    composed.bind (composed.image id) fun _ => calls _) hooks

/-- What an edit has, it has with the hooks that it makes due. -/
theorem editAndRun (id : ImageId) {edits : Edit α} (edited : holds (Act.edit id edits)) :
    holds (editAndRun behaviour id edits) := by
  refine composed.bind edited fun result => ?_
  split
  · exact composed.pure _
  · exact composed.bind (composed.runHooks calls id _) fun _ => composed.pure _

/-- The `initialize` of a class is reported and called. -/
theorem callInit (id : ImageId) (target : ClassId) : holds (callInit behaviour id target) := by
  refine composed.bind (composed.image id) fun image => ?_
  split
  · exact composed.bind (composed.report _ _) fun _ => calls _
  · exact composed.pure _

/-- Registering a class is an edit inside the registry and the hooks that it makes due. -/
theorem registerClass {id : ImageId} {decl : ClassDecl}
    (edited : holds (edit id (Edit.registerClass decl))) :
    holds ((Request.registerClass decl).run behaviour id) :=
  composed.bind (composed.inRegistry id (composed.editAndRun calls id edited)) fun _ =>
    composed.reading fun _ => rfl

/-- So is registering a category. -/
theorem registerCategory {id : ImageId} {decl : CategoryDecl}
    (edited : holds (edit id (Edit.insertCategory decl))) :
    holds ((Request.registerCategory decl).run behaviour id) :=
  composed.bind (composed.inRegistry id (composed.editAndRun calls id edited)) fun _ =>
    composed.pure _

/-- So is loading a module. -/
theorem loadModule {id : ImageId} {decl : ModuleDecl}
    (edited : holds (edit id (Edit.loadModule decl))) :
    holds ((Request.loadModule decl).run behaviour id) :=
  composed.bind (composed.inRegistry id (composed.editAndRun calls id edited)) fun _ =>
    composed.reading fun _ => rfl

/-- Every request that registers something has a property that registering has. -/
theorem registeringRequest (registering : Registering holds) {id : ImageId} {asked : Request}
    (registers : asked.registers = true) : holds (asked.run behaviour id) := by
  cases asked with
  | registerClass decl => exact composed.registerClass calls (registering.registerClass id decl)
  | registerCategory decl =>
    exact composed.registerCategory calls (registering.insertCategory id decl)
  | loadModule decl => exact composed.loadModule calls (registering.loadModule id decl)
  | _ => cases registers

section Preparing

variable (unguarded : Unguarded holds)

include unguarded

/-- A class is marked, its `initialize` is called, and it is marked again. -/
theorem finishPreparing (id : ImageId) (target : ClassId) :
    holds (finishPreparing behaviour id target) := by
  refine composed.read (fun _ => rfl) fun session => ?_
  split
  · exact composed.pure _
  · exact composed.bind (unguarded.begins id target _) fun _ =>
      composed.bind (composed.callInit calls id target) fun _ =>
        composed.bind (unguarded.ends id target) fun _ =>
          composed.bind (composed.registry id) fun _ => composed.report _ _

/-- The classes of a chain are made ready on the way up and finished on the way back. -/
theorem prepareAlong (id : ImageId) (chain : List ClassId) :
    holds (prepareAlong behaviour id chain) := by
  induction chain with
  | nil => exact composed.pure _
  | cons target above inductionHypothesis =>
    refine composed.read (fun _ => rfl) fun session => ?_
    split
    · exact composed.pure _
    · refine composed.bind (composed.editAndRun calls id (unguarded.readies id target))
        fun result => ?_
      split
      · exact composed.pure _
      · refine composed.bind inductionHypothesis fun result => ?_
        split
        · exact composed.pure _
        · exact composed.bind (composed.finishPreparing calls unguarded id target) fun _ =>
            composed.pure _

/-- The chain of a class is looked up when the registry has been entered. -/
theorem prepareInside (id : ImageId) (handle : ClassHandle) :
    holds (prepareInside behaviour id handle) := by
  refine composed.read (fun _ => rfl) fun session => ?_
  split
  · exact composed.pure _
  · split
    · split
      · exact composed.pure _
      · exact composed.prepareAlong calls unguarded id _
    · exact composed.pure _

/-- A class that is initialized is not prepared again. -/
theorem prepare (id : ImageId) (handle : ClassHandle) : holds (prepare behaviour id handle) := by
  refine composed.read (fun _ => rfl) fun session => ?_
  split
  · exact composed.pure _
  · exact composed.inRegistry id (composed.prepareInside calls unguarded id handle)

end Preparing

section Messages

variable {id : ImageId} {handle : ClassHandle}
variable (prepares : holds (Act.prepare behaviour id handle))

omit calls

variable (sends : ∀ made : Call, made.purpose = .message → holds (Act.call behaviour made))

include prepares

/-- A message prepares the class, and then its implementation is looked up. -/
theorem dispatch (selector : Selector) : holds (dispatch behaviour id handle selector) := by
  refine composed.bind prepares fun result => ?_
  split
  · exact composed.pure _
  · exact composed.reading fun _ => rfl

/-- Whether there is one is the same question. -/
theorem respondsTo (selector : Selector) : holds (respondsTo behaviour id handle selector) := by
  refine composed.bind (composed.dispatch prepares selector) fun result => ?_
  split
  · exact composed.pure _
  · exact composed.pure _

variable (handlers : ∀ id handle selector, holds (behaviour.handler id handle selector))

include handlers

/-- A message that is not found is reported, and the handler is asked. -/
theorem lookupOrForward (selector : Selector) :
    holds (lookupOrForward behaviour id handle selector) := by
  refine composed.bind (composed.dispatch prepares selector) fun result => ?_
  split
  · exact composed.pure _
  · exact composed.throw _ fun _ impossible => by cases impossible
  · refine composed.bind (composed.image id) fun image => composed.read (fun _ => rfl) fun _ =>
      composed.bind (composed.report _ _) fun _ => ?_
    split
    · exact composed.bind (composed.emit rfl rfl) fun _ => handlers id handle selector
    · exact composed.throw _ fun _ impossible => by cases impossible

include sends

/-- What is found is called. -/
theorem send (selector : Selector) : holds (send behaviour id handle selector) :=
  composed.bind (composed.lookupOrForward prepares handlers selector) fun _ =>
    composed.bind (sends _ rfl) fun _ => composed.pure _

/-- Sending from several threads is sending several times. -/
theorem sendFromThreads (selector : Selector) (threads : Nat) :
    holds (sendFromThreads behaviour id handle selector threads) :=
  composed.mapM (fun _ => composed.onNewThread (composed.send prepares sends handlers selector)) _

/-- A message to a class has a property that preparing the class has. -/
theorem deliver (asked : Request) : holds (asked.deliver behaviour id handle) := by
  cases asked with
  | dispatch target query =>
    exact composed.withSelector fun selector =>
      composed.bind (composed.dispatch prepares selector) fun _ => composed.pure _
  | lookupOrForward target query =>
    exact composed.withSelector fun selector =>
      composed.bind (composed.lookupOrForward prepares handlers selector) fun _ => composed.pure _
  | send target query =>
    exact composed.withSelector fun selector =>
      composed.bind (composed.send prepares sends handlers selector) fun _ => composed.pure _
  | sendFromThreads target query threads =>
    exact composed.withSelector fun selector =>
      composed.bind (composed.sendFromThreads prepares sends handlers selector threads) fun _ =>
        composed.pure _
  | respondsTo target query =>
    exact composed.withSelector fun selector =>
      composed.bind (composed.respondsTo prepares selector) fun _ => composed.pure _
  | prepare target => exact composed.bind prepares fun _ => composed.pure _
  | _ => exact composed.pure _

end Messages

omit calls in
/-- Every request that sends a message has a property that preparing classes has. -/
theorem messageRequest
    (sends : ∀ made : Call, made.purpose = .message → holds (Act.call behaviour made))
    {id : ImageId} {asked : Request} {target : ClassQuery}
    (given : asked.recipient? = some target)
    (prepares : ∀ handle, holds (Act.prepare behaviour id handle))
    (handlers : ∀ id handle selector, holds (behaviour.handler id handle selector)) :
    holds (asked.run behaviour id) := by
  rw [asked.run_of_recipient given]
  exact composed.withClass fun handle => composed.deliver (prepares handle) sends handlers asked

/-- Every request has a property that composes if all changes have it. -/
theorem request (registering : Registering holds) (unguarded : Unguarded holds)
    (handlers : ∀ id handle selector, holds (behaviour.handler id handle selector))
    {id : ImageId} (asked : Request) : holds (asked.run behaviour id) := by
  cases asked.kind with
  | plain isPlain => exact composed.plainRequest isPlain
  | message given =>
    exact composed.messageRequest (fun made _ => calls made) given
      (composed.prepare calls unguarded id) handlers
  | registering registers => exact composed.registeringRequest calls registering registers
  | replacing target query imp =>
    exact composed.withClass fun handle => composed.withSelector fun selector =>
      composed.bind (composed.replaceMethod (unguarded.replaces id handle.ref selector imp))
        fun _ => composed.pure _

end Composed

end Act

end LateBinding
