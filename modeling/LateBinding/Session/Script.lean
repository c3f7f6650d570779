import LateBinding.Session.Sending

/-!
# Running scripts

A script says what the steps of a session are and what each implementation does when it
is called: it takes steps of its own. Steps can therefore nest, through calls and
through the handler, and a script that calls itself would never end. Five levels of
steps below those of the script itself are taken; deeper ones are left out, and the
omission is an event. It is one even if there were no steps to take, for the handler and
for every implementation that the script speaks of.

A step that halts is the last one. What happened before it is part of its entry in the
transcript.
-/

namespace LateBinding

variable [NameHash]

namespace Act

/-- The class a query asks for. -/
def findClass (query : ClassQuery) : Act (Except Error ClassHandle) := do
  awaitRegistry query.image
  match (← registry query.image).find? query.name with
  | some id => return .ok ⟨query.image, ⟨id, query.side⟩⟩
  | none => return .error (.classNotFound query.name)

/-- The selector a query asks for, interned if need be. -/
def findSelector : SelectorQuery → Act (Except Error Selector)
  | .number selector => return .ok selector
  | .intern id signature => do
    match ← edit id (Edit.intern signature) with
    | .ok (selector, _) => return .ok selector
    | .error error => return .error error

/-- The object a query asks for. A class that does not exist is no object. -/
def findObject : ObjectQuery → Act Object
  | .address address => return .address address
  | .classObject query => do
    match ← findClass query with
    | .ok handle => return .classObject handle
    | .error _ => return .null

/-- Continues with a class, or answers that there is none. -/
def withClass (query : ClassQuery) (next : ClassHandle → Act Answer) : Act Answer := do
  match ← findClass query with
  | .ok handle => next handle
  | .error error => return .refused error

/-- Continues with a selector, or answers why there is none. -/
def withSelector (query : SelectorQuery) (next : Selector → Act Answer) : Act Answer := do
  match ← findSelector query with
  | .ok selector => next selector
  | .error error => return .refused error

/-- Continues with a class and a selector. The class is looked for first, and a
    selector is only interned if it exists. -/
def withMessage (target : ClassQuery) (selector : SelectorQuery)
    (next : ClassHandle → Selector → Act Answer) : Act Answer :=
  withClass target fun handle => withSelector selector fun selector => next handle selector

/-- The answer for a result that may be an error. -/
def answering {α : Type} (result : Except Error α) (answer : α → Answer) : Answer :=
  match result with
  | .ok value => answer value
  | .error error => .refused error

/-- Sends a message from several new threads, one after the other. -/
def sendFromThreads (behaviour : Behaviour) (id : ImageId) (handle : ClassHandle)
    (selector : Selector) (threads : Nat) : Act (List Imp) :=
  (List.range threads).mapM fun _ => onNewThread (send behaviour id handle selector)

end Act

open Act in
/-- Carries out a request on an image. -/
def Request.run (behaviour : Behaviour) (id : ImageId) : Request → Act Answer
  | .registerClass decl => do
    let result ← inRegistry id (editAndRun behaviour id (Edit.registerClass decl))
    let session ← get
    return answering result fun target => .classView (session.view ⟨id, ⟨target, .inst⟩⟩)
  | .registerCategory decl => do
    let result ← inRegistry id (editAndRun behaviour id (Edit.insertCategory decl))
    return answering result .category
  | .loadModule decl => do
    let result ← inRegistry id (editAndRun behaviour id (Edit.loadModule decl))
    let session ← get
    return answering result fun targets =>
      .classViews (targets.map fun target => session.view ⟨id, ⟨target, .inst⟩⟩)
  | .registerSelector signature =>
    withSelector (.intern id signature) fun selector => return .number selector
  | .replaceMethod target selector imp =>
    withMessage target selector fun handle selector => do
      return answering (← Act.replaceMethod id handle selector imp) .replaced
  | .dispatch target selector =>
    withMessage target selector fun handle selector => do
      return answering (← Act.dispatch behaviour id handle selector) .found
  | .lookupOrForward target selector =>
    withMessage target selector fun handle selector => do
      return .found (some (← Act.lookupOrForward behaviour id handle selector))
  | .send target selector =>
    withMessage target selector fun handle selector => do
      return .returned (← Act.send behaviour id handle selector)
  | .sendFromThreads target selector threads =>
    withMessage target selector fun handle selector => do
      return .returnedAll (← Act.sendFromThreads behaviour id handle selector threads)
  | .respondsTo target selector =>
    withMessage target selector fun handle selector => do
      return .flag (← Act.respondsTo behaviour id handle selector)
  | .prepare target =>
    withClass target fun handle => do
      return answering (← Act.prepare behaviour id handle) fun _ => .done
  | .resetForward => do
    modifyImage id fun image => { image with forwards := false }
    return .done
  | .lookupClass name => do
    awaitRegistry id
    let session ← get
    match (session.image id).registry.find? name with
    | some target => return .classView (session.view ⟨id, ⟨target, .inst⟩⟩)
    | none => return .nothing
  | .getClass target => withClass target fun handle => return .classView ((← get).view handle)
  | .classes => do
    awaitRegistry id
    let registry ← registry id
    return .labels ((List.range registry.size).map fun target => registry.label ⟨target, .inst⟩)
  | .categories target =>
    withClass target fun handle => do
      awaitRegistry id
      return .categories (Act.categories (← get) id handle)
  | .waitingCategories name => do
    awaitRegistry id
    return .categories ((← registry id).parkedFor name)
  | .sameCategories target other =>
    withClass target fun handle => withClass other fun otherHandle => do
      awaitRegistry id
      let session ← get
      return .matrix ((Act.categories session id handle).map fun category =>
        (Act.categories session id otherHandle).map fun other => category.serial == other.serial)
  | .superclasses target =>
    withClass target fun handle => do
      let registry := (← get).registryOf handle
      return .labels ((registry.superclasses handle.ref).map registry.label)
  | .isSubclass target other =>
    withClass target fun handle => withClass other fun otherHandle => do
      return .flag (handle.image == otherHandle.image &&
        ((← get).registryOf handle).isSubclass handle.ref otherHandle.ref)
  | .sameClass target other =>
    withClass target fun handle => withClass other fun otherHandle =>
      return .flag (handle == otherHandle)
  | .table target =>
    withClass target fun handle => do
      match ((← get).registryOf handle).table? handle.ref with
      | some published => return .table published
      | none => return .nothing
  | .keepTable target key =>
    withClass target fun handle => do
      match ((← get).registryOf handle).table? handle.ref with
      | some published =>
        modify fun session => { session with kept := (key, published) :: session.kept }
        return .flag true
      | none => return .flag false
  | .readTable key => do
    match (← get).kept.lookup key with
    | some published => return .table published
    | none => return .nothing
  | .findSelector signature => do
    match (← image id).selectors.find? signature with
    | some selector => return .number selector
    | none => return .nothing
  | .resolveSelector selector =>
    withSelector selector fun selector => do
      match (← image id).selectors.resolve? selector with
      | some signature => return .signature signature
      | none => return .nothing
  | .selectorName selector =>
    withSelector selector fun selector =>
      return .text ((← image id).selectors.nameOf selector)
  | .selectorStatistics => do
    let image ← image id
    return .statistics image.selectors.size image.selectors.bucketCount
  | .describeClass target =>
    withClass target fun handle => return .text ((← get).view handle).form.written
  | .describeImage => return .text (← image id).form.written
  | .describeMethods target =>
    withClass target fun handle => do
      awaitRegistry id
      let categories := Act.categories (← get) id handle
      return .texts (categories.flatMap fun category =>
        category.methods.inst.map fun method => method.form.written)
  | .enterSection object => do
    Act.enterSection id (← findObject object)
    return .done
  | .leaveSection object elsewhere => do
    let object ← findObject object
    let leave := Act.leaveSection id object
    return answering (← if elsewhere then onNewThread leave else leave) fun _ => .done
  | .dump => do
    awaitRegistry id
    return .dump (← image id).dump

namespace Step

mutual

/-- Takes a step. -/
def run (behaviour : Behaviour) : Step → Act Answer
  | .request id asked => asked.run behaviour id
  | .synchronized id object body => do
    let object ← Act.findObject object
    return .body (← Act.inSection id object (runAll behaviour body))
  | .setForward id imp actions again => do
    modify fun session => { session with handler := some ⟨imp, actions, again⟩ }
    Act.modifyImage id fun image => { image with forwards := true }
    return .done

/-- Takes several steps, one after the other. -/
def runAll (behaviour : Behaviour) : List Step → Act (List Answer)
  | [] => return []
  | step :: rest => do
    let first ← run behaviour step
    let others ← runAll behaviour rest
    return first :: others

end

end Step

namespace Script

/-- How many levels of steps are taken below those of the script itself. -/
def deepest : Nat := 5

/-- The implementation the handler gives: what the tables have for the message now, if
    it is to look again, and its own otherwise. The class has been prepared by the message
    that was not found, so looking again calls nothing. -/
def fallback (handler : Handler) (handle : ClassHandle) (selector : Selector) : Act Imp := do
  let found := ((← get).registryOf handle).lookup handle.ref selector
  return if handler.again then found.getD handler.imp else handler.imp

/-- The behaviour in which implementations and the handler take their steps by way of
    `nested`. An image that forwards has had a handler installed. -/
def behaviour (actions : Imp → Option (List Step)) (nested : List Step → Act Unit) :
    Behaviour where
  body call := (actions call.imp).forM nested
  handler _ handle selector := do
    match (← get).handler with
    | some handler =>
      nested handler.actions
      fallback handler handle selector
    | none => return 0

/-- Takes the steps of an implementation or of the handler when so many more levels of
    steps are allowed. -/
def nested (actions : Imp → Option (List Step)) : (levels : Nat) → List Step → Act Unit
  | 0, _ => Act.emit .tooDeep
  | levels + 1, steps =>
    steps.forM fun step => do
      Act.emit (.acted (← step.run (behaviour actions (nested actions levels))))

end Script

/-- A scripted session. -/
structure Script where
  configs : List Config
  threshold : Log.Level
  /-- The steps of each implementation that the script speaks of. -/
  actions : List (Imp × List Step)
  /-- Whether every entry shows the whole image. -/
  dumps : Bool
  steps : List Step

/-- What is known of a step afterwards. A step that halts shows no image. -/
structure Entry where
  outcome : Except Halt Answer
  events : List Event
  dump : Option ImageDump

namespace Script

/-- The steps an implementation takes, if the script speaks of it. -/
def actionsOf (script : Script) (imp : Imp) : Option (List Step) :=
  script.actions.lookup imp

/-- The behaviour of implementations that are called by the steps of the script. -/
def outermost (script : Script) : Behaviour :=
  behaviour script.actionsOf (nested script.actionsOf deepest)

/-- The entries for the steps from here on. -/
def entries (script : Script) : Session → List Step → List Entry
  | _, [] => []
  | session, step :: rest =>
    match step.run script.outermost session with
    | .ok answer after =>
      { outcome := .ok answer
        events := after.events.toList
        dump := if script.dumps then some (after.image step.image).dump else none } ::
        script.entries { after with events := #[] } rest
    | .error halt after => [{ outcome := .error halt, events := after.events.toList, dump := none }]

/-- Runs a script. What the creation of the images reports belongs to the first step. -/
def run (script : Script) : Except Panic (List Entry) := do
  let session ← Session.start script.threshold script.configs
  return script.entries session script.steps

end Script

end LateBinding
