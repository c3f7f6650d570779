import LateBinding.Session.Basic

/-!
# Calling and sending

What implementations do is given by a `Behaviour`. They may do anything to a session,
in particular register classes and send messages, so every operation that can lead to a
call takes a behaviour.

The first message to a class prepares it: the class is brought up to date and gets its
tables, the `load` implementations that this made due are called, its superclass is
prepared in the same way, and then its own `initialize` is called, if it has one. A
message sent to the class while this is going on finds the tables in place and does not
prepare it again.

A message is looked up in the published tables. One that is not found goes to the
handler of the image, and without a handler it is fatal.

Whatever calls implementations does so inside the registry. What only reads a registry or
changes it is over at once, so it waits for its turn and need not be seen inside.
-/

namespace LateBinding

variable [NameHash]

/-- What implementations do when they are called, and what the handler finds for a
    message that an image could not deliver. -/
structure Behaviour where
  body : Call → Act Unit
  handler : ImageId → ClassHandle → Selector → Act Imp

namespace Act

/-- Calls an implementation. A panic does not pass from an implementation to whoever called
    it. -/
def call (behaviour : Behaviour) (call : Call) : Act Unit := do
  emit (.called call (call.receiver.map (← get).label))
  sealedOff (behaviour.body call)

/-- Calls the collected `load` implementations, in order, each on the instance side of
    its class. -/
def runHooks (behaviour : Behaviour) (id : ImageId) (hooks : List LoadHook) : Act Unit :=
  hooks.forM fun hook => do
    report .trace ("running load of " ++ hook.owner)
    call behaviour
      { imp := hook.imp
        receiver := some ⟨id, ⟨hook.receiver, .inst⟩⟩
        selector := (← image id).loadSelector
        purpose := .load hook.category }

/-- Runs an edit and then the implementations it collected. -/
def editAndRun {α : Type} (behaviour : Behaviour) (id : ImageId) (change : Edit α) :
    Act (Except Error α) := do
  match ← edit id change with
  | .error error => return .error error
  | .ok (value, hooks) =>
    runHooks behaviour id hooks
    return .ok value

/-- Whether a class is prepared for messages from a thread: it is initialized, or it is the
    thread itself that is preparing it. -/
def servesThread (registry : Registry) (id : ClassId) (thread : Thread) : Bool :=
  registry.reached id .initialized || (registry.entry id).initializing == some thread

/-- Brings a class up to date and makes sure that both of its sides have tables. -/
def readyTables (id : ClassId) : Edit Unit := do
  Edit.advance id
  let _ ← Edit.ensure ⟨id, .inst⟩
  let _ ← Edit.ensure ⟨id, .metaclass⟩

/-- Calls the `initialize` that a class has in its table, if it has one. -/
def callInit (behaviour : Behaviour) (id : ImageId) (target : ClassId) : Act Unit := do
  let image ← image id
  match (image.registry.table? ⟨target, .metaclass⟩).bind (·.get? image.initSelector) with
  | some imp =>
    report .debug ("initializing class " ++ (image.registry.entry target).name)
    call behaviour
      { imp
        receiver := some ⟨id, ⟨target, .inst⟩⟩
        selector := image.initSelector
        purpose := .init }
  | none => pure ()

/-- Takes a class from loaded to initialized, unless that has happened meanwhile: a
    `load` that ran in between may have sent the class its first message. -/
def finishPreparing (behaviour : Behaviour) (id : ImageId) (target : ClassId) : Act Unit := do
  let session ← get
  if (session.image id).registry.reached target .initialized then pure ()
  else
    modifyRegistry id (·.beginInit target session.thread)
    callInit behaviour id target
    modifyRegistry id (·.endInit target)
    report .trace ("class " ++ ((← registry id).entry target).name ++ " is initialized")

/-- Prepares the first class of a chain, after all classes above it. The way up stops
    at a class that is prepared or that the running thread is preparing. -/
def prepareAlong (behaviour : Behaviour) (id : ImageId) :
    (chain : List ClassId) → Act (Except Error Unit)
  | [] => return .ok ()
  | target :: above => do
    let session ← get
    if servesThread (session.image id).registry target session.thread then return .ok ()
    else
      match ← editAndRun behaviour id (readyTables target) with
      | .error error => return .error error
      | .ok _ =>
        match ← prepareAlong behaviour id above with
        | .error error => return .error error
        | .ok _ =>
          finishPreparing behaviour id target
          return .ok ()

/-- Whether a class handle belongs to an image. -/
def owns (session : Session) (id : ImageId) (handle : ClassHandle) : Bool :=
  handle.image == id && handle.ref.id < (session.image id).registry.size

/-- Prepares a class for its first message, from inside the registry. A class of another image
    is refused, unless there is nothing left to do for it. -/
def prepareInside (behaviour : Behaviour) (id : ImageId) (handle : ClassHandle) :
    Act (Except Error Unit) := do
  let session ← get
  if servesThread (session.registryOf handle) handle.ref.id session.thread then return .ok ()
  else if owns session id handle then
    match (session.image id).registry.chain handle.ref.id with
    | .error error => return .error error
    | .ok chain => prepareAlong behaviour id chain
  else return .error (.classNotFound (session.label handle).name)

/-- Prepares a class for its first message. For a class that is initialized the registry is
    not even entered. -/
def prepare (behaviour : Behaviour) (id : ImageId) (handle : ClassHandle) :
    Act (Except Error Unit) := do
  if ((← get).registryOf handle).reached handle.ref.id .initialized then return .ok ()
  else inRegistry id (prepareInside behaviour id handle)

/-- Finds the implementation of a message to a side of a class, preparing the class if
    this is its first message. -/
def dispatch (behaviour : Behaviour) (id : ImageId) (handle : ClassHandle) (selector : Selector) :
    Act (Except Error (Option Imp)) := do
  match ← prepare behaviour id handle with
  | .error error => return .error error
  | .ok _ => return .ok (((← get).registryOf handle).lookup handle.ref selector)

/-- Whether a message to a side of a class finds an implementation. -/
def respondsTo (behaviour : Behaviour) (id : ImageId) (handle : ClassHandle)
    (selector : Selector) : Act Bool := do
  match ← dispatch behaviour id handle selector with
  | .ok (some _) => return true
  | _ => return false

/-- Finds the implementation of a message, or what the handler gives in its place. An
    error, and a message that is not found when there is no handler, are fatal. -/
def lookupOrForward (behaviour : Behaviour) (id : ImageId) (handle : ClassHandle)
    (selector : Selector) : Act Imp := do
  match ← dispatch behaviour id handle selector with
  | .ok (some imp) => return imp
  | .error error => throw (.fatal error)
  | .ok none =>
    let image ← image id
    let label := (← get).label handle
    let name := image.selectors.nameOf selector
    report .trace ("forwarding " ++ name ++ " sent to " ++ label.name)
    if image.forwards then
      emit (.forwarded label selector name)
      behaviour.handler id handle selector
    else throw (.fatal (.methodNotFound label.name name))

/-- Sends a message to no object in particular, and gives the implementation called. -/
def send (behaviour : Behaviour) (id : ImageId) (handle : ClassHandle) (selector : Selector) :
    Act Imp := do
  let imp ← lookupOrForward behaviour id handle selector
  call behaviour { imp, receiver := none, selector, purpose := .message }
  return imp

/-- Replaces a method of a class. A class of another image is refused. -/
def replaceMethod (id : ImageId) (handle : ClassHandle) (selector : Selector) (imp : Imp) :
    Act (Except Error (Option Imp)) := do
  awaitRegistry id
  let session ← get
  if owns session id handle then
    match ← edit id (Edit.replaceMethod handle.ref selector imp) with
    | .error error => return .error error
    | .ok (previous, _) => return .ok previous
  else return .error (.classNotFound (session.label handle).name)

/-- The categories attached to a class. A class of another image has none here. -/
def categories (session : Session) (id : ImageId) (handle : ClassHandle) : List Category :=
  if owns session id handle then ((session.image id).registry.entry handle.ref.id).categories
  else []

end Act

end LateBinding
