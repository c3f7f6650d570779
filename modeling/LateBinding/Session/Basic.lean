import LateBinding.Image.Registration
import LateBinding.Session.Answer
import LateBinding.Session.Step

/-!
# Sessions

A session is a number of images side by side, in one process: they share the log and
its threshold, and a class of one can be handed to another. It also holds what happened
so far, the thread that is running, the handler for messages that no class implements,
and the dispatch tables kept for later.

The registry of an image is entered by one thread at a time. While implementations run that
a registry calls, the thread that they run on is inside and may enter again; any other one
has to wait. Threads run one after the other here, and whoever started a thread waits for its
end, so such a wait is for good.

An action on a session gives a value or halts. A halt is for good: a panic, a fatal
error, or a wait that nothing can end. Errors that can be answered are values. On its way
out a panic still leaves the registries and sections that were entered around it; a fatal
error does not.
-/

namespace LateBinding

/-- What a program can remark on as it goes along. -/
inductive Remark where
  /-- It looks at what there is. -/
  | looked
  /-- It makes a request to an image. -/
  | asked (id : ImageId) (request : Request)
  /-- The request that it has noted down in a place is answered. -/
  | answered (place : Nat) (answer : Answer)
  /-- An implementation of it is called. -/
  | called (call : Call)
  /-- The implementation is done. -/
  | returned (call : Call)

variable [NameHash]

/-- A remark with the images as they were when it was made. -/
structure Note where
  images : Array Image
  remark : Remark

/-- Images that share a process. -/
structure Session where
  images : Array Image
  /-- The log threshold. -/
  threshold : Log.Level
  /-- What happened, first to last. -/
  events : Array Event
  /-- The thread that is running. -/
  thread : Thread
  /-- The number of threads started so far. -/
  spawned : Nat
  /-- The registries that have been entered and not left, each with the thread that did so;
      the last one first. -/
  entered : List (ImageId × Thread)
  handler : Option Handler
  /-- Kept dispatch tables by name, the latest first. -/
  kept : List (String × DispatchTable)
  /-- What programs have noted down, first to last. It is for themselves: nothing that an
      image does depends on it. -/
  notes : List Note

/-- Why a session cannot go on. -/
inductive Halt where
  | panicked (panic : Panic)
  /-- A panic at a point that it cannot pass. -/
  | aborted (panic : Panic)
  /-- An error at a point where there is no way to go on. It is reported as an error. -/
  | fatal (error : Error)
  /-- The running thread waits for a section or a registry that nobody is going to leave. -/
  | deadlocked
deriving DecidableEq

/-- Something done to a session. -/
abbrev Act := EStateM Halt Session

namespace Session

/-- The image with a number. -/
def image (session : Session) (id : ImageId) : Image :=
  session.images.getD id default

/-- Puts an image in place of the one with its number. -/
def setImage (session : Session) (id : ImageId) (image : Image) : Session :=
  { session with images := session.images.setIfInBounds id image }

/-- The reports that the threshold admits, as events. -/
def admitted (threshold : Log.Level) (reports : List Log.Message) : List Event :=
  (reports.filter fun message => threshold.admits message.level).map Event.logged

/-- Adds reports to what happened. -/
def log (session : Session) (reports : List Log.Message) : Session :=
  { session with events := session.events ++ admitted session.threshold reports }

/-- Takes over the image of a draft and logs its reports. -/
def adopt (session : Session) (id : ImageId) (draft : Draft) : Session :=
  (session.setImage id draft.image).log draft.reports

/-- The registry that a class handle belongs to. -/
def registryOf (session : Session) (handle : ClassHandle) : Registry :=
  (session.image handle.image).registry

/-- The label of a class handle. -/
def label (session : Session) (handle : ClassHandle) : ClassLabel :=
  (session.registryOf handle).label handle.ref

/-- A side of a class as it is now. -/
def view (session : Session) (handle : ClassHandle) : ClassView :=
  (session.registryOf handle).view handle.ref

/-- Whether another thread is inside the registry of an image. -/
def isShut (session : Session) (id : ImageId) : Bool :=
  session.entered.any fun entry => entry.1 == id && entry.2 != session.thread

/-- Adds an image. A threshold in its configuration is set before it is created. -/
def addImage (session : Session) (config : Config) : Except Panic Session := do
  let session := { session with threshold := config.level.getD session.threshold }
  let (image, reports) ← Image.create config
  return { session with images := session.images.push image }.log reports

/-- A session without images, under a threshold. -/
def idle (threshold : Log.Level) : Session where
  images := #[]
  threshold := threshold
  events := #[]
  thread := .named "main"
  spawned := 0
  entered := []
  handler := none
  kept := []
  notes := []

/-- A session with images of the given configurations, created in order under a
    threshold. -/
def start (threshold : Log.Level) (configs : List Config) : Except Panic Session :=
  configs.foldlM addImage (idle threshold)

end Session

namespace Act

/-- Adds an event. -/
def emit (event : Event) : Act Unit :=
  modify fun session => { session with events := session.events.push event }

/-- Reports something to the log. -/
def report (level : Log.Level) (text : String) : Act Unit :=
  modify fun session => session.log [⟨level, text⟩]

/-- The image with a number, as it is now. -/
def image (id : ImageId) : Act Image := do
  return (← get).image id

/-- The registry of an image, as it is now. -/
def registry (id : ImageId) : Act Registry := do
  return (← image id).registry

/-- Changes an image. -/
def modifyImage (id : ImageId) (change : Image → Image) : Act Unit :=
  modify fun session => session.setImage id (change (session.image id))

/-- Changes the registry of an image. -/
def modifyRegistry (id : ImageId) (change : Registry → Registry) : Act Unit :=
  modifyImage id fun image => { image with registry := change image.registry }

/-- Runs an edit on an image and gives its value and the implementations to call. The
    image keeps what a refused edit has done. -/
def edit {α : Type} (id : ImageId) (change : Edit α) : Act (Except Error (α × List LoadHook)) :=
  fun session =>
    match change { image := session.image id } with
    | .ok value draft => .ok (.ok (value, draft.hooks)) (session.adopt id draft)
    | .error (.refused error) draft => .ok (.error error) (session.adopt id draft)
    | .error (.panicked panic) draft => .error (.panicked panic) (session.adopt id draft)

/-- Gives back a panic in place of a result. -/
def settled {α : Type} (action : Act α) : Act (Except Panic α) := fun session =>
  match action session with
  | .ok result after => .ok (.ok result) after
  | .error (.panicked panic) after => .ok (.error panic) after
  | .error halt after => .error halt after

/-- Runs an action, and then another one whether the first has ended or panicked. -/
def ensuring {α : Type} (action : Act α) (closing : Act Unit) : Act α := do
  let ended ← settled action
  closing
  match ended with
  | .ok result => return result
  | .error panic => throw (.panicked panic)

/-- Starts a thread. -/
def spawn : Act Thread := do
  let session ← get
  set { session with spawned := session.spawned + 1 }
  return .spawned session.spawned

/-- Goes on with another thread. -/
def switchTo (thread : Thread) : Act Unit :=
  modify fun session => { session with thread }

/-- Runs an action on a new thread and waits for its end. -/
def onNewThread {α : Type} (action : Act α) : Act α := do
  let current := (← get).thread
  switchTo (← spawn)
  ensuring action (switchTo current)

/-- Waits until no other thread is inside the registry of an image. -/
def awaitRegistry (id : ImageId) : Act Unit := do
  if (← get).isShut id then throw .deadlocked

/-- Changes which registries have been entered. -/
def setEntered (entered : List (ImageId × Thread)) : Act Unit :=
  modify fun session => { session with entered }

/-- Runs an action inside the registry of an image. -/
def inRegistry {α : Type} (id : ImageId) (action : Act α) : Act α := do
  awaitRegistry id
  let session ← get
  setEntered ((id, session.thread) :: session.entered)
  ensuring action (setEntered session.entered)

/-- Enters a section of an image on the running thread. -/
def enterSection (id : ImageId) (object : Object) : Act Unit := do
  let session ← get
  match (session.image id).sections.enter? session.thread object with
  | some sections => modifyImage id fun image => { image with sections }
  | none => throw .deadlocked

/-- Leaves a section of an image on the running thread. -/
def leaveSection (id : ImageId) (object : Object) : Act (Except Error Unit) := do
  let session ← get
  match (session.image id).sections.leave session.thread object with
  | .ok sections =>
    modifyImage id fun image => { image with sections }
    return .ok ()
  | .error error => return .error error

/-- Leaves a section of an image where it has to be possible: not being able to is fatal. -/
def exitSection (id : ImageId) (object : Object) : Act Unit := do
  match ← leaveSection id object with
  | .ok _ => pure ()
  | .error error => throw (.fatal error)

/-- Runs an action inside a section of an image. The section is left whether the action
    ends or panics. -/
def inSection {α : Type} (id : ImageId) (object : Object) (action : Act α) : Act α := do
  enterSection id object
  ensuring action (exitSection id object)

/-- Runs an action that a panic cannot pass: it aborts there. -/
def sealedOff {α : Type} (action : Act α) : Act α := fun session =>
  match action session with
  | .error (.panicked panic) after => .error (.aborted panic) after
  | outcome => outcome

end Act

end LateBinding
