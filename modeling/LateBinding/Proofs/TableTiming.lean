import LateBinding.Proofs.BlindActs
import LateBinding.Proofs.Courses

/-!
# When tables are built cannot be told

Images whose configurations differ only in when tables are built cannot be told apart by a
program that does not ask for tables. The program may look at everything else between any two
of its requests, and so may the implementations and the handler that it brings. Whatever it
sees and whatever it gives is the same, it calls the same implementations in the same order,
and it leaves sessions of one outline.
-/

namespace LateBinding

open Session

variable {α γ : Type}

/-- Whether a request is for tables. -/
def Request.asksForTable : Request → Bool
  | .table _ => true
  | .keepTable _ _ => true
  | .readTable _ => true
  | _ => false

/-- What a request shows in its answer apart from tables. The description of an image names
    its configuration. -/
def Request.shown (asked : Request) (answer : Answer) : Answer :=
  match asked with
  | .describeImage => .done
  | _ => answer.outline

/-- Of the description of an image nothing is shown. -/
theorem Request.shown_describeImage (answer : Answer) :
    Request.describeImage.shown answer = .done := rfl

/-- Interning keeps images in order. -/
theorem Edit.intern_keeps [NameHash] (signature : Signature) :
    Edit.Keeps false (Edit.intern signature) := by
  intro draft sound
  refine (Edit.intern_outcome sound signature).mono (fun _ _ given => given.2.1) ?_
  exact fun _ _ given _ _ => given.2.1

/-- So does loading a module. -/
theorem Edit.loadModule_keeps [NameHash] (decl : ModuleDecl) :
    Edit.Keeps false (Edit.loadModule decl) := by
  intro draft sound
  refine (Edit.loadModule_outcome sound decl).mono (fun _ _ kept => kept) ?_
  exact fun _ _ given error refused => (given error refused).2

namespace Act

variable [NameHash] {shows : Answer → γ} {behaviour : Behaviour}

/-- Looking for a class is blind. -/
theorem findClass_blind (query : ClassQuery) : Blind (findClass query) := by
  refine (awaitRegistry_blind query.image).bind fun _ _ =>
    Blind.registry query.image (fun _ => rfl) fun registry => ?_
  split
  · exact .pure trivial
  · exact .pure trivial

/-- What goes on with a class is blind if it is for every class. -/
theorem withClass_blind {query : ClassQuery} {next : ClassHandle → Act Answer}
    (further : ∀ handle, BlindShowing shows (next handle)) :
    BlindShowing shows (withClass query next) := by
  refine (findClass_blind query).bind fun result _ => ?_
  cases result with
  | ok handle => exact further handle
  | error error => exact .pure trivial

/-- Looking for a selector is blind, and gives what was asked for. -/
theorem findSelector_blind (query : SelectorQuery) :
    Veiled (Session.Sound false) Session.outline
      (fun result => ∀ selector, result = .ok selector → Gives query selector) id
      (findSelector query) := by
  cases query with
  | number given => exact .pure fun _ same => (Except.ok.inj same).symm
  | intern id signature =>
    refine (edit_blind id (Edit.intern_keeps signature) (Edit.intern_blind signature)).bind
      fun result fits => ?_
    cases result with
    | ok given => exact .pure fun _ same => Except.ok.inj same ▸ fits given rfl
    | error error => exact .pure fun _ impossible => by cases impossible

/-- What goes on with a selector may rely on that. -/
theorem withSelector_blind {query : SelectorQuery} {next : Selector → Act Answer}
    (further : ∀ selector, Gives query selector → BlindShowing shows (next selector)) :
    BlindShowing shows (withSelector query next) := by
  refine (findSelector_blind query).bind fun result gives => ?_
  cases result with
  | ok selector => exact further selector (gives selector rfl)
  | error error => exact .pure trivial

/-- Looking for an object is blind. -/
theorem findObject_blind (query : ObjectQuery) : Blind (findObject query) := by
  cases query with
  | address address => exact .pure trivial
  | classObject query =>
    refine (findClass_blind query).bind fun result _ => ?_
    cases result with
    | ok handle => exact .pure trivial
    | error error => exact .pure trivial

/-- Sections have no tables. -/
theorem enterSection_blind (id : ImageId) (object : Object) : Blind (enterSection id object) := by
  refine Veiled.read (fun session => ?_) fun session _ => ?_
  · rw [image_outline]
    rfl
  · split
    · exact modifyImage_blind id (fun _ => rfl) (fun _ => rfl) fun _ => rfl
    · exact .throw _

/-- Leaving a section is about sections alone, also in a session that is not in order. -/
theorem leaveSection_seen {session other : Session} (views : session.outline = other.outline)
    (id : ImageId) (object : Object) :
    LookAlike (leaveSection id object session) (leaveSection id object other) := by
  have sections : (session.image id).sections = (other.image id).sections :=
    congrArg (·.sections) (image_of_outline views id)
  have threads : session.thread = other.thread := congrArg (·.thread) views
  rw [leaveSection, get_bind, get_bind, sections, threads]
  cases (other.image id).sections.leave other.thread object with
  | error error => exact congrArg (EStateM.Result.ok (Except.error error)) views
  | ok left =>
    refine congrArg (EStateM.Result.ok (Except.ok ())) ?_
    have images := congrArg (fun image : Image => { image with sections := left })
      (image_of_outline views id)
    rw [outline_setImage, outline_setImage, views]
    exact congrArg (other.outline.setImage id) images

/-- Neither has leaving them. -/
theorem leaveSection_blind (id : ImageId) (object : Object) : Blind (leaveSection id object) := by
  have sequential : Sequential (Keeps false anyhow) := keeps_sequential tolerant_anyhow
  exact (sequential.leaveSection id object).blind fun _ _ _ _ views =>
    leaveSection_seen views id object

/-- Leaving a section where it has to be possible, also in a session that is not in order. -/
theorem exitSection_seen {session other : Session} (views : session.outline = other.outline)
    (id : ImageId) (object : Object) :
    LookAlike (exitSection id object session) (exitSection id object other) := by
  refine seen_bind (leaveSection_seen views id object) (outcome_any _) (outcome_any _) ?_
  intro left after after' _ _ afterViews
  cases left with
  | error error => exact congrArg (EStateM.Result.error _) afterViews
  | ok _ => exact congrArg (EStateM.Result.ok ()) afterViews

/-- The section around an action is left in both sessions, also on the way of a panic. -/
theorem inSection_blind (id : ImageId) (object : Object) {act : Act α} (blind : Blind act) :
    Blind (inSection id object act) := by
  have sequential : Sequential (Keeps false anyhow) := keeps_sequential tolerant_anyhow
  exact (enterSection_blind id object).bind fun _ _ =>
    ensuring_blind blind (sequential.exitSection id object) fun _ _ views =>
      exitSection_seen views id object

/-- An action is as blind on another thread. -/
theorem onNewThread_blind {act : Act α} (blind : Blind act) : Blind (onNewThread act) := by
  have switching (thread : Thread) : Blind (switchTo thread) :=
    modify_blind (fun _ => ⟨rfl, rfl⟩) fun _ => rfl
  refine Veiled.read (fun _ => rfl) fun session _ => spawn_blind.bind fun thread _ => ?_
  refine (switching thread).bind fun _ _ => ensuring_blind blind ?_ fun _ _ views => ?_
  · exact .modify fun _ sound => .of_same sound rfl rfl
  · exact congrArg (fun after : Session =>
      EStateM.Result.ok () { after with thread := session.thread }) views

/-- A request that reads a class and shows what is in view. -/
theorem readClass_blind {query : ClassQuery} (answer : ClassHandle → Session → Answer)
    (inView : ∀ handle session, shows (answer handle session.outline) =
      shows (answer handle session)) :
    BlindShowing shows (withClass query fun handle => do return answer handle (← get)) :=
  withClass_blind fun handle => .answer (answer handle) (fun _ => rfl) (fun _ _ => trivial)
    (inView handle)

/-- A request that reads a class from inside the registry and shows what is in view. -/
theorem awaitClass_blind {query : ClassQuery} (id : ImageId)
    (answer : ClassHandle → Session → Answer)
    (inView : ∀ handle session, shows (answer handle session.outline) =
      shows (answer handle session)) :
    BlindShowing shows (withClass query fun handle => do
      awaitRegistry id
      return answer handle (← get)) :=
  withClass_blind fun handle => (awaitRegistry_blind id).bind fun _ _ =>
    .answer (answer handle) (fun _ => rfl) (fun _ _ => trivial) (inView handle)

/-- The categories of a class are in outline. -/
theorem categories_outline (session : Session) (id : ImageId) (handle : ClassHandle) :
    categories session.outline id handle = categories session id handle := by
  rw [categories, categories, owns_outline, image_outline]
  simp only [Image.outline, Registry.entry_bare, ClassEntry.bare]

/-- Registering something is answered alike. -/
theorem registering_blind (blind : behaviour.Blind) (id : ImageId) {asked : Request}
    (registers : asked.registers = true) : BlindShowing asked.shown (asked.run behaviour id) := by
  cases asked with
  | registerClass decl =>
    refine (inRegistry_blind id (editAndRun_blind blind id (Edit.registerClass_keeps decl)
      (Edit.registerClass_blind decl))).bind fun result _ => ?_
    refine .answer (fun session => answering result fun target =>
      .classView (session.view ⟨id, ⟨target, .inst⟩⟩)) (fun _ => rfl) (fun _ _ => trivial) ?_
    intro session
    cases result with
    | ok target =>
      simp only [answering, Request.shown, Answer.outline, view_outline, ClassView.outline_outline]
    | error error => rfl
  | registerCategory decl =>
    exact (inRegistry_blind id (editAndRun_blind blind id (Edit.insertCategory_keeps decl)
      (Edit.insertCategory_blind decl))).bind fun _ _ => .pure trivial
  | loadModule decl =>
    refine (inRegistry_blind id (editAndRun_blind blind id (Edit.loadModule_keeps decl)
      (Edit.loadModule_blind decl))).bind fun result _ => ?_
    refine .answer (fun session => answering result fun targets =>
      .classViews (targets.map fun target => session.view ⟨id, ⟨target, .inst⟩⟩)) (fun _ => rfl)
      (fun _ _ => trivial) ?_
    intro session
    cases result with
    | ok targets =>
      simp only [answering, Request.shown, Answer.outline, view_outline, List.map_map]
      rfl
    | error error => rfl
  | _ => cases registers

/-- Replacing a method is answered alike. -/
theorem replacing_blind (id : ImageId) {target : ClassQuery} {query : SelectorQuery} {imp : Imp}
    (issued : (Request.replaceMethod target query imp).Issued) :
    BlindShowing shows ((Request.replaceMethod target query imp).run behaviour id) := by
  refine withClass_blind fun handle => withSelector_blind fun selector gives => ?_
  have fits : selector < SparseMap.capacity := by
    cases query with
    | number given => exact gives ▸ issued
    | intern _ _ => exact gives
  exact (replaceMethod_blind id handle imp fits).bind fun _ _ => .pure trivial

/-- A message to a class is answered alike. -/
theorem deliver_blind (blind : behaviour.Blind) (id : ImageId) (handle : ClassHandle)
    (asked : Request) : BlindShowing shows (asked.deliver behaviour id handle) := by
  cases asked with
  | dispatch target query =>
    exact withSelector_blind fun selector _ =>
      (dispatch_blind blind id handle selector).bind fun _ _ => .pure trivial
  | lookupOrForward target query =>
    exact withSelector_blind fun selector _ =>
      (lookupOrForward_blind blind id handle selector).bind fun _ _ => .pure trivial
  | send target query =>
    exact withSelector_blind fun selector _ =>
      (send_blind blind id handle selector).bind fun _ _ => .pure trivial
  | sendFromThreads target query threads =>
    exact withSelector_blind fun selector _ =>
      (Veiled.mapM (fun _ => onNewThread_blind (send_blind blind id handle selector)) _).bind
        fun _ _ => .pure trivial
  | respondsTo target query =>
    exact withSelector_blind fun selector _ =>
      (respondsTo_blind blind id handle selector).bind fun _ _ => .pure trivial
  | prepare target => exact (prepare_blind blind id handle).bind fun _ _ => .pure trivial
  | _ => exact .pure trivial

/-- A class that is looked up is there in both runs or in neither, and is shown in outline. -/
theorem lookupClass_blind (id : ImageId) (name : String) :
    BlindShowing (Request.lookupClass name).shown
      ((Request.lookupClass name).run behaviour id) := by
  refine (awaitRegistry_blind id).bind fun _ _ =>
    .answer (fun session => ((session.image id).registry.find? name).elim .nothing
      fun target => .classView (session.view ⟨id, ⟨target, .inst⟩⟩)) ?_ (fun _ _ => trivial) ?_
  · intro session
    rw [get_bind]
    cases (session.image id).registry.find? name <;> rfl
  · intro session
    rw [image_outline, Image.outline, Registry.find?_bare]
    cases (session.image id).registry.find? name with
    | none => rfl
    | some target =>
      simp only [Option.elim, Request.shown, Answer.outline, view_outline,
        ClassView.outline_outline]

/-- Categories that are compared are the same in both runs. -/
theorem sameCategories_blind (id : ImageId) (target other : ClassQuery) :
    BlindShowing (Request.sameCategories target other).shown
      ((Request.sameCategories target other).run behaviour id) := by
  refine withClass_blind fun handle => ?_
  refine awaitClass_blind id (fun otherHandle session =>
    .matrix ((categories session id handle).map fun category =>
      (categories session id otherHandle).map fun other => category.serial == other.serial)) ?_
  intro otherHandle session
  rw [categories_outline, categories_outline]

/-- Superclasses are listed by name, without their tables. -/
theorem superclasses_blind (id : ImageId) (target : ClassQuery) :
    BlindShowing (Request.superclasses target).shown
      ((Request.superclasses target).run behaviour id) := by
  refine readClass_blind (fun handle session => .labels
    (((session.registryOf handle).superclasses handle.ref).map
      (session.registryOf handle).label)) ?_
  intro handle session
  rw [registryOf_outline, Registry.superclasses_bare,
    funext (session.registryOf handle).label_bare]

/-- Whether one class is below another does not depend on tables. -/
theorem isSubclass_blind (id : ImageId) (target other : ClassQuery) :
    BlindShowing (Request.isSubclass target other).shown
      ((Request.isSubclass target other).run behaviour id) := by
  refine withClass_blind fun handle => readClass_blind (fun otherHandle session =>
    .flag (handle.image == otherHandle.image &&
      (session.registryOf handle).isSubclass handle.ref otherHandle.ref)) ?_
  intro otherHandle session
  rw [registryOf_outline, Registry.isSubclass_bare]

/-- Methods of categories are described without tables. -/
theorem describeMethods_blind (id : ImageId) (target : ClassQuery) :
    BlindShowing (Request.describeMethods target).shown
      ((Request.describeMethods target).run behaviour id) := by
  refine awaitClass_blind id (fun handle session =>
    .texts ((categories session id handle).flatMap
      fun category => category.methods.inst.map fun method => method.form.written)) ?_
  intro handle session
  rw [categories_outline]

/-- Leaving a section is answered alike, on the running thread or on another one. -/
theorem leavingSection_blind (id : ImageId) (object : ObjectQuery) (elsewhere : Bool) :
    BlindShowing (Request.leaveSection object elsewhere).shown
      ((Request.leaveSection object elsewhere).run behaviour id) := by
  refine (findObject_blind object).bind fun object _ => ?_
  dsimp only
  split
  · exact (onNewThread_blind (leaveSection_blind id object)).bind fun _ _ => .pure trivial
  · exact (leaveSection_blind id object).bind fun _ _ => .pure trivial

/-- A dump is compared without the tables that it shows. -/
theorem dump_blind (id : ImageId) :
    BlindShowing Request.dump.shown (Request.dump.run behaviour id) := by
  refine (awaitRegistry_blind id).bind fun _ _ =>
    .answer (fun session => .dump (session.image id).dump) (fun _ => rfl)
      (fun _ _ => trivial) fun session => ?_
  simp only [Request.shown, Answer.outline, image_outline, Image.dump_outline,
    ImageDump.outline_outline]

/-- What is asked about a class or a selector, or done to a section, is answered alike, unless it
    is about tables. -/
theorem plain_blind (id : ImageId) {asked : Request} (isPlain : asked.isPlain = true)
    (discreet : asked.asksForTable = false) :
    BlindShowing asked.shown (asked.run behaviour id) := by
  cases asked with
  | registerClass | registerCategory | loadModule | replaceMethod | dispatch | lookupOrForward
  | send | sendFromThreads | respondsTo | prepare => cases isPlain
  | table | keepTable | readTable => cases discreet
  | registerSelector signature => exact withSelector_blind fun _ _ => .pure trivial
  | resetForward =>
    refine Veiled.bind (modifyImage_blind id ?_ ?_ ?_) fun _ _ => .pure trivial
    · exact fun _ => rfl
    · exact fun _ => rfl
    · exact fun _ => rfl
  | lookupClass name => exact lookupClass_blind id name
  | getClass target =>
    refine readClass_blind (fun handle session => .classView (session.view handle)) ?_
    intro handle session
    simp only [Request.shown, Answer.outline, view_outline, ClassView.outline_outline]
  | classes =>
    refine (awaitRegistry_blind id).bind fun _ _ =>
      Blind.registry id (fun registry => ?_) fun _ => .pure trivial
    simp only [Registry.size_bare, Registry.label_bare]
  | categories target =>
    refine awaitClass_blind id (fun handle session => .categories (categories session id handle)) ?_
    intro handle session
    rw [categories_outline]
  | waitingCategories name =>
    exact (awaitRegistry_blind id).bind fun _ _ =>
      Blind.registry id (fun _ => rfl) fun _ => .pure trivial
  | sameCategories target other => exact sameCategories_blind id target other
  | superclasses target => exact superclasses_blind id target
  | isSubclass target other => exact isSubclass_blind id target other
  | sameClass target other =>
    exact withClass_blind fun _ => withClass_blind fun _ => .pure trivial
  | findSelector signature =>
    refine Blind.image id (fun _ => rfl) fun image => ?_
    split
    · exact .pure trivial
    · exact .pure trivial
  | resolveSelector query =>
    refine withSelector_blind fun selector _ => Blind.image id (fun _ => rfl) fun image => ?_
    split
    · exact .pure trivial
    · exact .pure trivial
  | selectorName query =>
    exact withSelector_blind fun _ _ => Blind.image id (fun _ => rfl) fun _ => .pure trivial
  | selectorStatistics => exact Blind.image id (fun _ => rfl) fun _ => .pure trivial
  | describeClass target =>
    refine readClass_blind (fun handle session => .text (session.view handle).form.written) ?_
    intro handle session
    rw [view_outline]
    rfl
  | describeImage =>
    refine .answer (fun session => .text (session.image id).form.written) (fun _ => rfl)
      (fun _ _ => trivial) fun session => ?_
    rw [Request.shown_describeImage, Request.shown_describeImage]
  | describeMethods target => exact describeMethods_blind id target
  | enterSection object =>
    exact (findObject_blind object).bind fun object _ =>
      (enterSection_blind id object).bind fun _ _ => .pure trivial
  | leaveSection object elsewhere => exact leavingSection_blind id object elsewhere
  | dump => exact dump_blind id

/-- Every request but those for tables is answered alike. -/
theorem request_blind (blind : behaviour.Blind) (id : ImageId) (asked : Request)
    (issued : asked.Issued) (discreet : asked.asksForTable = false) :
    BlindShowing asked.shown (asked.run behaviour id) := by
  cases asked.kind with
  | plain isPlain => exact plain_blind id isPlain discreet
  | message given =>
    rw [asked.run_of_recipient given]
    exact withClass_blind fun handle => deliver_blind blind id handle asked
  | registering registers => exact registering_blind blind id registers
  | replacing target query imp => exact replacing_blind id issued

/-- Every request keeps a session in order, also one that is refused for want of selectors. -/
theorem run_keeps (keeps : behaviour.Keeps false) (id : ImageId) (asked : Request)
    (issued : asked.Issued) : Keeps false anyhow (asked.run behaviour id) := by
  cases asked with
  | registerClass decl => exact registerClass_keeps keeps id decl
  | loadModule decl =>
    intro session sound
    refine (loadModule_outcome keeps id decl sound).mono ?_ fun _ _ moves => ⟨trivial, moves⟩
    rintro answer after (moves | ⟨-, impossible⟩)
    · exact moves
    · cases impossible
  | _ => exact other_keeps keeps keeps.allows id issued not_false

/-- Makes a request and gives what it shows. -/
def ask (behaviour : Behaviour) (id : ImageId) (asked : Request) : Act Answer := do
  return asked.shown (← asked.run behaviour id)

/-- The actions of programs that do not ask for tables. They look at outlines, and what they
    are shown of answers has no tables in it. -/
inductive Discreet : {α : Type} → Act α → Prop
  | done {α : Type} (value : α) : Discreet (pure value)
  /-- Stops for good. -/
  | stop {α : Type} (halt : Halt) : Discreet (throw halt : Act α)
  | next {α β : Type} {first : Act α} {rest : α → Act β} (begun : Discreet first)
      (continued : ∀ value, Discreet (rest value)) : Discreet (first >>= rest)
  | look : Discreet (do return (← get).outline)
  | request {behaviour : Behaviour} (id : ImageId) (asked : Request) (issued : asked.Issued)
      (discreet : asked.asksForTable = false) (bodies : ∀ call, Discreet (behaviour.body call))
      (handlers : ∀ id handle selector, Discreet (behaviour.handler id handle selector)) :
      Discreet (ask behaviour id asked)
  | inSection {α : Type} (id : ImageId) (object : Object) {act : Act α} (inside : Discreet act) :
      Discreet (inSection id object act)
  | setForward (behaviour : Behaviour) (id : ImageId) (imp : Imp) (actions : List Step)
      (again : Bool) : Discreet ((Step.setForward id imp actions again).run behaviour)

/-- A discreet program keeps a session in order. -/
theorem Discreet.keeps {program : Act α} (discreet : program.Discreet) :
    Keeps false anyhow program := by
  have composed : Composed (Keeps false anyhow) := keeps_composed tolerant_anyhow
  induction discreet with
  | done value => exact .pure value
  | stop halt => exact .throw fun _ => trivial
  | next _ _ begun continued => exact begun.bind continued
  | look => exact Keeps.get.bind fun _ => .pure _
  | request id asked issued _ _ _ bodies handlers =>
    exact (run_keeps ⟨bodies, handlers⟩ id asked issued).bind fun _ => .pure _
  | inSection id object _ inside => exact composed.inSection id object inside
  | setForward behaviour id imp actions again =>
    exact composed.setForward behaviour id imp actions again

/-- A discreet program ends in the same way in sessions of one outline. -/
theorem Discreet.blind {program : Act α} (discreet : program.Discreet) : Blind program := by
  induction discreet with
  | done value => exact .pure trivial
  | stop halt => exact .throw halt
  | next _ _ begun continued => exact begun.bind fun value _ => continued value
  | look =>
    exact .answer Session.outline (fun _ => rfl) (fun _ _ => trivial) outline_outline
  | @request behaviour id asked issued discreet bodiesDiscreet handlersDiscreet bodies handlers =>
    have keeps : behaviour.Keeps false :=
      ⟨fun call => (bodiesDiscreet call).keeps,
        fun id handle selector => (handlersDiscreet id handle selector).keeps⟩
    exact (request_blind ⟨keeps, bodies, handlers⟩ id asked issued discreet).given
  | inSection id object _ inside => exact inSection_blind id object inside
  | setForward behaviour id imp actions again =>
    let install (session : Session) : Session :=
      { session with handler := some ⟨imp, actions, again⟩ }
    have installed : Blind (modify install : Act PUnit) :=
      modify_blind (fun _ => ⟨rfl, rfl⟩) fun _ => rfl
    refine installed.bind fun _ _ => (modifyImage_blind id ?_ ?_ ?_).bind fun _ _ => .pure trivial
    · exact fun _ => rfl
    · exact fun _ => rfl
    · exact fun _ => rfl

end Act

/-- Results of one view are both refused alike, or both are values of one view. -/
theorem except_map_cases {ε β : Type} {view : α → β} {first second : Except ε α}
    (same : first.map view = second.map view) :
    (∃ reason, first = .error reason ∧ second = .error reason) ∨
      ∃ value other, first = .ok value ∧ second = .ok other ∧ view value = view other := by
  cases first with
  | error reason =>
    cases second with
    | error other => exact .inl ⟨reason, rfl, congrArg Except.error (Except.error.inj same).symm⟩
    | ok other => cases same
  | ok value =>
    cases second with
    | error reason => cases same
    | ok other => exact .inr ⟨value, other, rfl, rfl, Except.ok.inj same⟩

/-- What is created from a configuration is the same but for the choice in it. -/
theorem Image.create_lazy [NameHash] (config : Config) :
    (create config.lazy).map (fun made => (made.1.outline, made.2)) =
      (create config).map fun made => (made.1.outline, made.2) := by
  have tables : (config.lazy.selectorTable : Except Panic (SelectorTable NameHash.hash)) =
      config.selectorTable := rfl
  simp only [create, tables, bind, Except.bind]
  cases (config.selectorTable : Except Panic (SelectorTable NameHash.hash)) with
  | error panic => rfl
  | ok table =>
    dsimp only
    cases reserved (table.intern loadSignature) with
    | error panic => rfl
    | ok load =>
      dsimp only
      cases reserved ((table.intern loadSignature).table.intern initSignature) <;> rfl

namespace Session

variable [NameHash]

/-- Images that are created lazily and eagerly look alike: neither has a class yet. -/
theorem addImage_views {session other : Session} (views : session.outline = other.outline)
    {config otherConfig : Config} (alike : config.lazy = otherConfig.lazy) :
    (session.addImage config).map outline = (other.addImage otherConfig).map outline := by
  have lowered : ∀ (session : Session) (config : Config),
      (session.addImage config).map outline =
        ((Image.create config.lazy).map fun made => (made.1.outline, made.2)).map fun made =>
          { session.outline with
            threshold := config.lazy.level.getD session.outline.threshold
            images := session.outline.images.push made.1 }.log
              (made.2.filter fun message => !message.ofBuilding) := by
    intro session config
    rw [addImage_eq, Image.create_lazy]
    cases Image.create config with
    | error panic => rfl
    | ok made =>
      refine congrArg Except.ok ?_
      rw [outline_log]
      simp only [outline, Array.map_push]
      rfl
  rw [lowered, lowered, views, alike]

/-- Sessions whose configurations differ in nothing but when tables are built start with one
    outline, or neither starts. -/
theorem start_views (threshold : Log.Level) {configs others : List Config}
    (alike : configs.map Config.lazy = others.map Config.lazy) :
    (start threshold configs).map outline = (start threshold others).map outline := by
  suffices further : ∀ session other : Session, session.outline = other.outline →
      (configs.foldlM addImage session).map outline =
        (others.foldlM addImage other).map outline from
    further (idle threshold) (idle threshold) rfl
  induction configs generalizing others with
  | nil =>
    intro session other views
    rw [List.map_eq_nil_iff.mp alike.symm]
    exact congrArg Except.ok views
  | cons config rest inductionHypothesis =>
    intro session other views
    obtain ⟨otherConfig, otherRest, rfl, sameFirst, sameRest⟩ := List.map_eq_cons_iff.mp alike.symm
    rw [List.foldlM_cons, List.foldlM_cons]
    rcases except_map_cases (addImage_views views sameFirst.symm) with
      ⟨panic, first, second⟩ | ⟨after, after', first, second, afterViews⟩
    · rw [first, second]
      rfl
    · rw [first, second]
      exact inductionHypothesis sameRest.symm after after' afterViews

end Session

/-- Where both sessions have a table for a side, the tables have the same entries. -/
def Session.TablesAgree [NameHash] (session other : Session) : Prop :=
  ∀ id ref table otherTable, (session.image id).registry.table? ref = some table →
    (other.image id).registry.table? ref = some otherTable →
    ∀ selector, table.get? selector = otherTable.get? selector

/-- Tables that are in order have the entries that selectors mean. -/
theorem Session.tablesAgree_of_views [NameHash] {session other : Session}
    (sound : session.Sound false)
    (otherSound : other.Sound false) (views : session.outline = other.outline) :
    session.TablesAgree other := by
  intro id ref table otherTable found otherFound selector
  rw [(sound.images id).registry.tabled.exact ref trivial table found,
    (otherSound.images id).registry.tabled.exact ref trivial otherTable otherFound,
    Registry.resolve_of_bare (bare_of_outline views id)]

/-- A program that does not ask for tables cannot tell when they are built. If two processes
    differ in nothing but the configurations of their images, and those in nothing but whether
    tables are built early, the program ends in the same way in both and gives the same value,
    which may hold whatever it was shown on its way. The sessions that it leaves are the same
    but for tables and the reports that they were built, and of tables only the presence
    differs. -/
theorem Act.Discreet.tables_unseen [NameHash] {program : Act α} (discreet : program.Discreet)
    (threshold : Log.Level) {configs others : List Config}
    (alike : configs.map Config.lazy = others.map Config.lazy) :
    (Session.start threshold configs).map (fun first => seen id Session.outline (program first)) =
        (Session.start threshold others).map
          (fun first => seen id Session.outline (program first)) ∧
      ∀ first other value otherValue session otherSession,
        Session.start threshold configs = .ok first → Session.start threshold others = .ok other →
        program first = .ok value session → program other = .ok otherValue otherSession →
        session.TablesAgree otherSession := by
  rcases except_map_cases (start_views threshold alike) with
    ⟨panic, started, otherStarted⟩ | ⟨first, other, started, otherStarted, views⟩
  · rw [started, otherStarted]
    exact ⟨rfl, fun _ _ _ _ _ _ impossible => by cases impossible⟩
  · have sound : first.Sound false := start_sound started
    have otherSound : other.Sound false := start_sound otherStarted
    have same := discreet.blind.alike first other sound otherSound views
    rw [started, otherStarted]
    refine ⟨congrArg Except.ok same, ?_⟩
    rintro _ _ value otherValue session otherSession ⟨rfl⟩ ⟨rfl⟩ ended otherEnded
    have kept := discreet.blind.keeps first sound
    have otherKept := discreet.blind.keeps other otherSound
    rw [ended] at same kept
    rw [otherEnded] at same otherKept
    injection same with _ sessionViews
    exact tablesAgree_of_views kept.2 otherKept.2 sessionViews

namespace Act

variable [NameHash]

/-- A program that makes requests to one image in turn and gives what they show. -/
def askInTurn (behaviour : Behaviour) (id : ImageId) : List Request → Act (List Answer)
  | [] => pure []
  | asked :: rest => do
    let first ← ask behaviour id asked
    let others ← askInTurn behaviour id rest
    return first :: others

/-- A program that makes requests in turn, none of them for a table, is discreet. -/
theorem askInTurn_discreet {behaviour : Behaviour}
    (bodies : ∀ call, (behaviour.body call).Discreet)
    (handlers : ∀ id handle selector, (behaviour.handler id handle selector).Discreet)
    (id : ImageId) {requests : List Request}
    (allowed : ∀ asked ∈ requests, asked.Issued ∧ asked.asksForTable = false) :
    (askInTurn behaviour id requests).Discreet := by
  induction requests with
  | nil => exact .done []
  | cons asked rest inductionHypothesis =>
    obtain ⟨issued, discreet⟩ := allowed asked List.mem_cons_self
    refine .next (.request id asked issued discreet bodies handlers) fun _ => ?_
    exact .next (inductionHypothesis fun later member =>
      allowed later (List.mem_cons_of_mem _ member)) fun _ => .done _

/-- Implementations of `load` that send a message to a class before it is used. -/
def hasty (target : ClassQuery) (signature : Signature) : Behaviour where
  body call :=
    if call.purpose = .load none then do
      let _ ← ask .idle 0 (.send target (.intern 0 signature))
    else pure ()
  handler _ _ _ := pure 0

/-- So is an implementation that sends a message. -/
theorem hasty_discreet (target : ClassQuery) (signature : Signature) (call : Call) :
    ((hasty target signature).body call).Discreet := by
  simp only [hasty]
  split
  · refine .next (.request 0 _ trivial rfl ?_ ?_) fun _ => .done ()
    · exact fun _ => .done ()
    · exact fun _ _ _ => .done 0
  · exact .done ()

/-- The default configuration with tables built early. -/
def early : Config := { Config.standard with eager := true }

end Act

namespace Act

/-- A class is sent a message while it is loaded, then a category is attached to it, and a
    method of the class below it is replaced. Early tables are brought up to date each time, and
    late ones do not exist yet. The implementations called are the same, and one class has a
    table in the end only if tables are built early. -/
theorem Discreet.tables_unseen_of_hasty_load : ∃ program : Act (List Answer), program.Discreet ∧
    [Config.standard].map Config.lazy = [early].map Config.lazy ∧
    reaches .trace [.standard] program (fun session =>
      ((session.image 0).registry.table? ⟨1, .inst⟩).isNone &&
        session.calls.map Call.imp == [8, 9, 1, 9, 2, 3]) = true ∧
    reaches .trace [early] program (fun session =>
      ((session.image 0).registry.table? ⟨1, .inst⟩).isSome &&
        session.calls.map Call.imp == [8, 9, 1, 9, 2, 3]) = true ∧
    (Session.start .trace [.standard]).map (fun first => seen id Session.outline (program first)) =
      (Session.start .trace [early]).map fun first => seen id Session.outline (program first) := by
  let speak : Signature := ⟨"speak", none⟩
  let requests : List Request :=
    [.registerClass ⟨"Dog", some "Animal", 0, [], []⟩,
     .registerClass ⟨"Cat", some "Animal", 0, [], []⟩,
     .registerClass ⟨"Animal", none, 8, [⟨speak, 1⟩],
       [⟨Image.loadSignature, 8⟩, ⟨Image.initSignature, 9⟩]⟩,
     .registerCategory ⟨"Loud", "Animal", [⟨speak, 2⟩], []⟩,
     .send ⟨0, "Dog", .inst⟩ (.intern 0 speak),
     .replaceMethod ⟨0, "Dog", .inst⟩ (.intern 0 speak) 3,
     .send ⟨0, "Dog", .inst⟩ (.intern 0 speak)]
  have discreet : (askInTurn (hasty ⟨0, "Animal", .inst⟩ speak) 0 requests).Discreet :=
    askInTurn_discreet (hasty_discreet _ _) (fun _ _ _ => .done 0) 0
      (by simp [requests, Request.Issued, Request.asksForTable])
  have alike : [Config.standard].map Config.lazy = [early].map Config.lazy := rfl
  exact ⟨_, discreet, alike, by decide +kernel, by decide +kernel,
    (tables_unseen discreet .trace alike).1⟩

end Act

end LateBinding
