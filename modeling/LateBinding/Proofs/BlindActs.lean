import LateBinding.Proofs.BlindEdits
import LateBinding.Proofs.Dispatching

/-!
# Actions that do not tell by tables

Sending a message reads tables. What it reads there is what the selector means, if tables are
in order, and that does not depend on which tables exist. A class has its tables by the time
they are read: it has been prepared for messages, or is being prepared.

So every request ends in the same way in sessions of one outline, with answers that show the
same but for tables, as long as implementations and handler do. Requests for the tables
themselves are the exception.
-/

namespace LateBinding

open Session

variable {α β γ : Type}

/-- A published table tells what selectors mean. -/
theorem Registry.Sound.published {registry : Registry} (sound : registry.Sound) {ref : SideRef}
    (present : (registry.table? ref).isSome = true) (selector : Selector) :
    (registry.table? ref).bind (·.get? selector) = registry.resolve ref selector := by
  obtain ⟨table, found⟩ := Option.isSome_iff_exists.mp present
  rw [found, Option.bind_some, sound.tabled.exact ref trivial table found]

namespace Session

variable [NameHash] {session other : Session}

/-- Sessions that look alike have images that look alike. -/
theorem image_of_outline (views : session.outline = other.outline) (id : ImageId) :
    (session.image id).outline = (other.image id).outline := by
  rw [← image_outline, views, image_outline]

/-- The registries of these are the same but for tables. -/
theorem bare_of_outline (views : session.outline = other.outline) (id : ImageId) :
    (session.image id).registry.bare = (other.image id).registry.bare :=
  congrArg Image.registry (image_of_outline views id)

/-- An event that is not of building is in the outline. -/
theorem outline_emit (session : Session) {event : Event} (shown : event.ofBuilding = false) :
    { session with events := session.events.push event }.outline =
      { session.outline with events := session.outline.events.push event } := by
  simp [outline, shown]

end Session

namespace Act

variable [NameHash]

/-- An action ends in the same way in sessions of one outline, with values that show the
    same. -/
abbrev BlindShowing (shows : α → γ) (act : Act α) : Prop :=
  Veiled (Session.Sound false) Session.outline (fun _ => True) shows act

/-- An action ends in the same way in sessions of one outline. -/
abbrev Blind (act : Act α) : Prop := BlindShowing id act

/-- Ends of actions look the same but for tables. -/
abbrev LookAlike (result other : EStateM.Result Halt Session α) : Prop :=
  seen id Session.outline result = seen id Session.outline other

/-- What keeps sessions in order and ends in the same way in sessions of one outline. -/
theorem Keeps.blind {stops : Halt → Session → Prop} {act : Act α} (keeps : Keeps false stops act)
    {shows : α → γ}
    (alike : ∀ session other : Session, session.Sound false → other.Sound false →
      session.outline = other.outline →
      seen shows Session.outline (act session) = seen shows Session.outline (act other)) :
    BlindShowing shows act where
  keeps session sound := (keeps session sound).mono (fun _ _ moves => ⟨trivial, moves.sound⟩)
    fun _ _ _ => trivial
  alike := alike

variable {shows : α → γ}

/-- What is read of an image is the same without tables. -/
theorem Blind.image (id : ImageId) {next : Image → Act α}
    (inView : ∀ image : Image, next image.outline = next image)
    (continued : ∀ image, BlindShowing shows (next image)) :
    BlindShowing shows (image id >>= next) :=
  Veiled.read (fun session => by rw [image_outline, inView]) fun _ _ => continued _

/-- An action that looks at a registry is blind if it does not look at tables. -/
theorem Blind.registry (id : ImageId) {next : Registry → Act α}
    (inView : ∀ registry : Registry, next registry.bare = next registry)
    (continued : ∀ registry, BlindShowing shows (next registry)) :
    BlindShowing shows (registry id >>= next) :=
  Blind.image id (fun image => inView image.registry) fun image => continued image.registry

/-- An event that is shown is shown in outline. -/
theorem emit_blind {event : Event} (shown : event.ofBuilding = false) : Blind (emit event) := by
  have keeps : Keeps false anyhow (emit event) := emit_keeps event
  exact Veiled.modify (fun session => { session with events := session.events.push event })
    (fun session sound => (keeps session sound).sound) fun session => session.outline_emit shown

/-- Reports do not depend on tables. -/
theorem report_blind (level : Log.Level) (text : String) : Blind (report level text) :=
  Veiled.modify
    (fun session => session.log ([⟨level, text⟩].filter fun message => !message.ofBuilding))
    (fun _ sound => (Moves.log sound _).sound) fun session => session.outline_log _

/-- Changing what is neither registry nor selectors of an image. -/
theorem modifyImage_blind (id : ImageId) {change : Image → Image}
    (registry : ∀ image, (change image).registry = image.registry)
    (selectors : ∀ image, (change image).selectors = image.selectors)
    (inView : ∀ image, (change image).outline = change image.outline) :
    Blind (modifyImage id change) := by
  have keeps : Keeps false anyhow (modifyImage id change) :=
    modifyImage_keeps id registry selectors
  refine Veiled.modify (fun session => session.setImage id (change (session.image id)))
    (fun session sound => (keeps session sound).sound) fun session => ?_
  rw [outline_setImage, inView, image_outline]

/-- A change beside the images that is the same in every session of one outline. -/
theorem modify_blind {change : Session → Session}
    (beside : ∀ session : Session, (change session).images = session.images ∧
      (change session).notes = session.notes)
    (inView : ∀ session : Session, (change session).outline = change session.outline) :
    Blind (modify change : Act PUnit) :=
  Veiled.modify change
    (fun session sound => (Moves.of_same sound (beside session).1 (beside session).2).sound) inView

/-- Threads are numbered without tables. -/
theorem spawn_blind : Blind spawn := by
  have keeps : Keeps false anyhow spawn := fun _ sound => Moves.of_same sound rfl rfl
  refine keeps.blind fun session other _ _ views => ?_
  have counts : session.spawned = other.spawned := congrArg (·.spawned) views
  have counted : { session with spawned := session.spawned + 1 }.outline =
      { other with spawned := other.spawned + 1 }.outline :=
    congrArg (fun session : Session => { session with spawned := session.spawned + 1 }) views
  exact congrArg₂ EStateM.Result.ok (congrArg Thread.spawned counts) counted

/-- Waiting depends on who is inside. -/
theorem awaitRegistry_blind (id : ImageId) : Blind (awaitRegistry id) := by
  refine Veiled.read (fun _ => rfl) fun session _ => ?_
  split
  · exact .throw _
  · exact .pure trivial

/-- A panic is given back in both sessions. -/
theorem settled_seen {session other : Session} {act : Act α}
    (alike : LookAlike (act session) (act other)) :
    LookAlike (settled act session) (settled act other) := by
  unfold LookAlike settled
  rcases seen_cases alike with ⟨value, after, after', done, done', views⟩ |
    ⟨halt, after, after', done, done', views⟩
  · simp only [done, done', seen, views]
  · cases halt <;> simp only [done, done', seen, views]

/-- What is done at the end of an action is done in both sessions, also on the way of a panic,
    when the sessions need not be in order. -/
theorem ensuring_blind {act : Act α} {closing : Act Unit} (blind : Blind act)
    (keeps : Keeps false anyhow closing)
    (closes : ∀ session other : Session, session.outline = other.outline →
      LookAlike (closing session) (closing other)) : Blind (ensuring act closing) where
  keeps session sound := by
    rw [outcome_ensuring]
    refine (blind.keeps session sound).mono ?_ ?_
    · rintro value after ⟨-, afterSound⟩
      exact (keeps after afterSound).mono (fun _ _ moves => ⟨trivial, moves.sound⟩)
        fun _ _ _ => trivial
    · exact fun halt after _ => passing_any closing halt after
  alike session other sound otherSound views := by
    refine seen_bind (settled_seen (blind.alike session other sound otherSound views))
      (outcome_any _) (outcome_any _) fun ended after after' _ _ afterViews => ?_
    refine seen_bind (closes after after' afterViews) (outcome_any _) (outcome_any _) ?_
    intro _ last last' _ _ lastViews
    cases ended with
    | ok value => exact congrArg (EStateM.Result.ok value) lastViews
    | error panic => exact congrArg (EStateM.Result.error _) lastViews

/-- The registry around an action is left in both sessions. -/
theorem inRegistry_blind (id : ImageId) {act : Act α} (blind : Blind act) :
    Blind (inRegistry id act) := by
  have entering (entered : List (ImageId × Thread)) : Blind (setEntered entered) :=
    modify_blind (fun _ => ⟨rfl, rfl⟩) fun _ => rfl
  refine (awaitRegistry_blind id).bind fun _ _ => Veiled.read (fun _ => rfl) fun session _ => ?_
  refine (entering _).bind fun _ _ => ensuring_blind blind ?_ fun left other views => ?_
  · exact .modify fun _ sound => .of_same sound rfl rfl
  · exact congrArg (fun after : Session =>
      EStateM.Result.ok () { after with entered := session.entered }) views

/-- The draft that an edit starts from is issued. -/
theorem issued_of_sound {session : Session} (sound : session.Sound false) (id : ImageId) :
    Draft.Issued { image := session.image id } :=
  ⟨(sound.images id).registry.formed.allIssued, (sound.images id).selectors⟩

/-- An edit that does not look at tables ends in the same way in sessions of one outline. -/
theorem edit_seen {session other : Session} (sound : session.Sound false)
    (otherSound : other.Sound false) (views : session.outline = other.outline) (id : ImageId)
    {change : Edit α} {meets : α → Prop} (edits : Edit.Blind meets change) :
    LookAlike (edit id change session) (edit id change other) := by
  have drafts : Draft.outline { image := session.image id } =
      Draft.outline { image := other.image id } :=
    congrArg (fun image => ({ image } : Draft)) (image_of_outline views id)
  have adopted : ∀ {draft draft' : Draft}, draft.outline = draft'.outline →
      (session.adopt id draft).outline = (other.adopt id draft').outline := by
    intro draft draft' same
    rw [outline_adopt, outline_adopt, views, same]
  unfold LookAlike edit
  rcases seen_cases (edits.alike _ _ (issued_of_sound sound id) (issued_of_sound otherSound id)
    drafts) with ⟨value, draft, draft', ended, ended', same⟩ |
      ⟨failure, draft, draft', ended, ended', same⟩
  · have hooks : draft.hooks = draft'.hooks := congrArg (·.hooks) same
    simp only [ended, ended', seen, adopted same, hooks]
  · cases failure with
    | refused error => simp only [ended, ended', seen, adopted same]
    | panicked panic => simp only [ended, ended', seen, adopted same]

/-- An edit that keeps images in order and does not look at tables. -/
theorem edit_blind (id : ImageId) {change : Edit α} {meets : α → Prop}
    (keeps : Edit.Keeps false change) (edits : Edit.Blind meets change) :
    Veiled (Session.Sound false) Session.outline
      (fun result => ∀ given, result = .ok given → meets given.1) (fun result => result)
      (edit id change) where
  keeps session sound := by
    have outcome := (edits.keeps _ (issued_of_sound sound id)).and
      (keeps { image := session.image id } (sound.images id))
    refine (edit_outcome outcome).mono ?_ fun _ _ _ => trivial
    rintro result _ ⟨draft, rfl, given⟩
    cases result with
    | ok value =>
      obtain ⟨⟨met, -⟩, kept⟩ := given
      exact ⟨fun _ same => Except.ok.inj same ▸ met, (Moves.adopt sound kept).sound⟩
    | error error =>
      refine ⟨fun _ impossible => ?_, (Moves.adopt sound (given.2 error rfl)).sound⟩
      cases impossible
  alike _ _ sound otherSound views := edit_seen sound otherSound views id edits

end Act

/-- Implementations and the handler keep sessions in order and end in the same way in sessions
    of one outline. -/
structure Behaviour.Blind [NameHash] (behaviour : Behaviour) : Prop where
  keeps : behaviour.Keeps false
  body : ∀ call, Act.Blind (behaviour.body call)
  handler : ∀ image handle selector, Act.Blind (behaviour.handler image handle selector)

namespace Act

variable [NameHash] {shows : α → γ} {behaviour : Behaviour}

/-- A panic is stopped on its way in both sessions. -/
theorem sealedOff_blind {act : Act α} (blind : Blind act) : Blind (sealedOff act) where
  keeps session sound := by
    have kept := blind.keeps session sound
    unfold sealedOff
    cases ended : act session with
    | ok value after =>
      rw [ended] at kept
      exact kept
    | error halt after => cases halt <;> trivial
  alike session other sound otherSound views := by
    unfold sealedOff
    rcases seen_cases (blind.alike session other sound otherSound views) with
      ⟨value, after, after', ended, ended', afterViews⟩ |
      ⟨halt, after, after', ended, ended', afterViews⟩
    · simp only [ended, ended', seen, afterViews]
    · cases halt <;> simp only [ended, ended', seen, afterViews]

/-- A call is as blind as the implementation. -/
theorem call_blind (blind : behaviour.Blind) (made : Call) : Blind (call behaviour made) := by
  refine Veiled.read (fun session => ?_) fun session _ => ?_
  · rw [funext session.label_outline]
  · exact (emit_blind rfl).bind fun _ _ => sealedOff_blind (blind.body made)

/-- So are the calls of hooks. -/
theorem runHooks_blind (blind : behaviour.Blind) (id : ImageId) (hooks : List LoadHook) :
    Blind (runHooks behaviour id hooks) :=
  Veiled.forM (fun _ => (report_blind _ _).bind fun _ _ =>
    Blind.image id (fun _ => rfl) fun _ => call_blind blind _) hooks

/-- An edit and the hooks it makes due are blind if the edit is. -/
theorem editAndRun_blind (blind : behaviour.Blind) (id : ImageId) {change : Edit α}
    {meets : α → Prop} (keeps : Edit.Keeps false change) (edits : Edit.Blind meets change) :
    Blind (editAndRun behaviour id change) := by
  refine (edit_blind id keeps edits).bind fun result _ => ?_
  cases result with
  | error error => exact .pure trivial
  | ok given => exact (runHooks_blind blind id given.2).bind fun _ _ => .pure trivial

/-- What goes on from an image goes on from the image there is. -/
theorem image_bind (id : ImageId) (next : Image → Act α) (session : Session) :
    (image id >>= next) session = next (session.image id) session := rfl

/-- What goes on from a registry goes on from the registry there is. -/
theorem registry_bind (id : ImageId) (next : Registry → Act α) (session : Session) :
    (registry id >>= next) session = next (session.image id).registry session := rfl

variable {session other : Session}

/-- The table that is asked for the `initialize` of a class says what it means. -/
theorem callInit_seen (blind : behaviour.Blind) (sound : session.Sound false)
    (otherSound : other.Sound false) (views : session.outline = other.outline) {id : ImageId}
    {target : ClassId} (tabled : Tabled session id target) (otherTabled : Tabled other id target) :
    LookAlike (callInit behaviour id target session) (callInit behaviour id target other) := by
  have selectors : (session.image id).initSelector = (other.image id).initSelector :=
    congrArg (·.initSelector) (image_of_outline views id)
  have bare := bare_of_outline views id
  have names : ((session.image id).registry.entry target).name =
      ((other.image id).registry.entry target).name :=
    Registry.field_of_bare bare ClassEntry.name (fun _ => rfl) target
  rw [callInit, image_bind, image_bind, (sound.images id).registry.published (tabled .metaclass),
    (otherSound.images id).registry.published (otherTabled .metaclass),
    Registry.resolve_of_bare bare, selectors, names]
  cases (other.image id).registry.resolve ⟨target, .metaclass⟩ (other.image id).initSelector with
  | none => exact congrArg (EStateM.Result.ok ()) views
  | some imp =>
    exact ((report_blind _ _).bind fun _ _ => call_blind blind _).alike session other sound
      otherSound views

/-- A session with the registry of an image changed. -/
def altered (id : ImageId) (change : Registry → Registry) (session : Session) : Session :=
  session.setImage id { session.image id with registry := change (session.image id).registry }

/-- What goes on after a change of a registry goes on from the altered session. -/
theorem modifyRegistry_bind (id : ImageId) (change : Registry → Registry) (next : Unit → Act α)
    (session : Session) :
    (modifyRegistry id change >>= next) session = next () (altered id change session) := rfl

/-- Sessions that look alike do so after a change that leaves tables out. -/
theorem altered_views (views : session.outline = other.outline) (id : ImageId)
    {change : Registry → Registry}
    (inView : ∀ registry : Registry, (change registry).bare = change registry.bare) :
    (altered id change session).outline = (altered id change other).outline := by
  have inOutline : ∀ session : Session,
      (altered id change session).outline = altered id change session.outline := by
    intro session
    rw [altered, outline_setImage, altered, image_outline]
    simp only [Image.outline, inView]
  rw [inOutline, inOutline, views]

omit [NameHash] in
/-- Whether a class serves a thread does not depend on tables. -/
theorem servesThread_of_bare {registry after : Registry} (same : after.bare = registry.bare)
    (target : ClassId) (thread : Thread) :
    servesThread after target thread = servesThread registry target thread := by
  rw [servesThread, servesThread, Registry.reached_of_bare same,
    Registry.field_of_bare same ClassEntry.initializing fun _ => rfl]

/-- A class that has its tables in both sessions is taken to its last stage in both. -/
theorem finishPreparing_seen (blind : behaviour.Blind) (sound : session.Sound false)
    (otherSound : other.Sound false) (views : session.outline = other.outline) {id : ImageId}
    {target : ClassId} (tabled : Tabled session id target) (otherTabled : Tabled other id target) :
    LookAlike (finishPreparing behaviour id target session)
      (finishPreparing behaviour id target other) := by
  have threads : session.thread = other.thread := congrArg (·.thread) views
  have begins : ∀ {session : Session} (thread : Thread), session.Sound false →
      Tabled session id target →
      session.Moves false (altered id (·.beginInit target thread) session) := by
    intro session thread sound tabled
    obtain ⟨marked, grows⟩ := (sound.images id).beginInit thread tabled
    exact .setImage sound marked grows
  have begun := begins other.thread sound tabled
  have otherBegun := begins other.thread otherSound otherTabled
  rw [finishPreparing, get_bind, get_bind, threads,
    Registry.reached_of_bare (bare_of_outline views id)]
  split
  · exact congrArg (EStateM.Result.ok ()) views
  · rw [modifyRegistry_bind, modifyRegistry_bind]
    have called := callInit_seen blind begun.sound otherBegun.sound
      (altered_views views id fun registry => registry.bare_modify target fun _ => rfl)
      (tabled.moves begun) (otherTabled.moves otherBegun)
    refine seen_bind called (callInit_keeps blind.keeps id target _ begun.sound)
      (callInit_keeps blind.keeps id target _ otherBegun.sound) ?_
    intro _ after after' _ _ afterViews
    have ended : (altered id (·.endInit target) after).outline =
        (altered id (·.endInit target) after').outline :=
      altered_views afterViews id fun registry => registry.bare_modify target fun _ => rfl
    have names := Registry.field_of_bare (bare_of_outline ended id) ClassEntry.name (fun _ => rfl)
      target
    rw [modifyRegistry_bind, modifyRegistry_bind, registry_bind, registry_bind, names]
    refine congrArg (EStateM.Result.ok ()) ?_
    rw [outline_log, outline_log, ended]

/-- Making a class ready keeps a session in order, whether or not its chain is refused. -/
theorem readyTables_sound (sound : session.Sound false) {id : ImageId} {target : ClassId}
    (inside : target < (session.image id).registry.size) :
    Outcome (edit id (readyTables target) session) (fun _ after => after.Sound false)
      fun _ _ => True := by
  have outcome := @Edit.readyTables_outcome _ false { image := session.image id } (sound.images id)
    target inside
  refine (edit_outcome outcome).mono ?_ fun _ _ _ => trivial
  rintro result _ ⟨draft, rfl, given⟩
  cases result with
  | ok value => exact (Moves.adopt sound given.2.1).sound
  | error error =>
    rcases given with ⟨impossible, -⟩ | ⟨refusal, -, -, rfl⟩
    · cases impossible
    · exact (Moves.adopt sound ⟨sound.images id, .refl _⟩).sound

/-- Preparing the tables of a class looks alike from sessions that look alike. -/
theorem makeReady_seen (blind : behaviour.Blind) (sound : session.Sound false)
    (otherSound : other.Sound false) (views : session.outline = other.outline) {id : ImageId}
    {target : ClassId} (inside : target < (session.image id).registry.size)
    (otherInside : target < (other.image id).registry.size) :
    LookAlike (editAndRun behaviour id (readyTables target) session)
      (editAndRun behaviour id (readyTables target) other) := by
  refine seen_bind (edit_seen sound otherSound views id (Edit.readyTables_blind target))
    (readyTables_sound sound inside) (readyTables_sound otherSound otherInside) ?_
  intro result after after' afterSound afterSound' afterViews
  cases result with
  | error error => exact congrArg (EStateM.Result.ok (Except.error error)) afterViews
  | ok given =>
    have rest : Blind (do runHooks behaviour id given.2; return Except.ok (ε := Error) given.1) :=
      (runHooks_blind blind id given.2).bind fun _ _ => .pure trivial
    exact rest.alike after after' afterSound afterSound' afterViews

/-- Classes of a path are prepared alike. -/
theorem prepareAlong_seen (blind : behaviour.Blind) (sound : session.Sound false)
    (otherSound : other.Sound false) (views : session.outline = other.outline) {id : ImageId}
    {chain : List ClassId}
    (along : ∀ target ∈ chain.head?, target < (session.image id).registry.size ∧
      (session.image id).registry.Ascent target chain)
    (otherAlong : ∀ target ∈ chain.head?, target < (other.image id).registry.size ∧
      (other.image id).registry.Ascent target chain) :
    LookAlike (prepareAlong behaviour id chain session)
      (prepareAlong behaviour id chain other) := by
  induction chain generalizing session other with
  | nil => exact congrArg (EStateM.Result.ok (Except.ok ())) views
  | cons target above inductionHypothesis =>
    obtain ⟨inside, ascent⟩ := along target rfl
    obtain ⟨otherInside, otherAscent⟩ := otherAlong target rfl
    have threads : session.thread = other.thread := congrArg (·.thread) views
    rw [prepareAlong, get_bind, get_bind, threads, servesThread_of_bare (bare_of_outline views id)]
    split
    · exact congrArg (EStateM.Result.ok (Except.ok ())) views
    · refine seen_bind (makeReady_seen blind sound otherSound views inside otherInside)
        (makeReady_outcome sound blind.keeps inside ascent)
        (makeReady_outcome otherSound blind.keeps otherInside otherAscent) ?_
      rintro _ ready ready' ⟨rfl, moves, tabled⟩ ⟨-, moves', tabled'⟩ readyViews
      have upwards := (moves.follows.grows id).ascent_tail (sound.images id).registry.formed ascent
      have upwards' :=
        (moves'.follows.grows id).ascent_tail (otherSound.images id).registry.formed otherAscent
      refine seen_bind (inductionHypothesis moves.sound moves'.sound readyViews upwards upwards')
        (prepareAlong_outcome moves.sound blind.keeps upwards)
        (prepareAlong_outcome moves'.sound blind.keeps upwards') ?_
      rintro _ between between' ⟨rfl, further, -⟩ ⟨-, further', -⟩ betweenViews
      have tables := tabled.moves further
      have tables' := tabled'.moves further'
      refine seen_bind
        (finishPreparing_seen blind further.sound further'.sound betweenViews tables tables')
        (finishPreparing_outcome further.sound blind.keeps tables)
        (finishPreparing_outcome further'.sound blind.keeps tables') ?_
      exact fun _ _ _ _ _ afterViews => congrArg (EStateM.Result.ok (Except.ok ())) afterViews

/-- Whose class it is can be seen in outline. -/
theorem owns_outline (session : Session) (id : ImageId) (handle : ClassHandle) :
    owns session.outline id handle = owns session id handle := by
  rw [owns, owns, image_outline]
  exact congrArg (fun size => handle.image == id && decide (handle.ref.id < size))
    (session.image id).registry.size_bare

/-- The way up from a class that an image owns, if it leads to a root. -/
theorem along_of_owned {session : Session} (sound : session.Sound false) {id : ImageId}
    {handle : ClassHandle} {chain : List ClassId} (owned : owns session id handle = true)
    (chained : (session.image id).registry.chain handle.ref.id = .ok chain) :
    ∀ target ∈ chain.head?, target < (session.image id).registry.size ∧
      (session.image id).registry.Ascent target chain := by
  rw [owns, Bool.and_eq_true, decide_eq_true_eq] at owned
  have ascent := (Registry.chain_eq_ok_iff (sound.images id).registry.formed.lt_of_find?
    owned.2).mp chained
  obtain ⟨above, rfl⟩ := ascent.head
  rintro _ ⟨rfl⟩
  exact ⟨owned.2, ascent⟩

/-- From inside the registry, a class is prepared alike. -/
theorem prepareInside_blind (blind : behaviour.Blind) (id : ImageId) (handle : ClassHandle) :
    Blind (prepareInside behaviour id handle) := by
  refine (prepareInside_keeps blind.keeps id handle).blind
    fun session other sound otherSound views => ?_
  have threads : session.thread = other.thread := congrArg (·.thread) views
  have served : servesThread (session.registryOf handle) handle.ref.id other.thread =
      servesThread (other.registryOf handle) handle.ref.id other.thread :=
    servesThread_of_bare (bare_of_outline views handle.image) handle.ref.id other.thread
  have owned : owns session id handle = owns other id handle := by
    rw [← owns_outline, views, owns_outline]
  have labels : session.label handle = other.label handle := by
    rw [← label_outline, views, label_outline]
  have chains : (session.image id).registry.chain = (other.image id).registry.chain := by
    funext target
    rw [← Registry.chain_bare, bare_of_outline views id, Registry.chain_bare]
  rw [prepareInside, get_bind, get_bind, threads, served, owned, labels, chains]
  split
  · exact congrArg (EStateM.Result.ok (Except.ok ())) views
  · split
    · rename_i owner
      cases chained : (other.image id).registry.chain handle.ref.id with
      | error error => exact congrArg (EStateM.Result.ok (Except.error error)) views
      | ok chain =>
        exact prepareAlong_seen blind sound otherSound views
          (along_of_owned sound (owned.trans owner) (chains ▸ chained))
          (along_of_owned otherSound owner chained)
    · exact congrArg (EStateM.Result.ok _) views

/-- Preparing a class is blind. -/
theorem prepare_blind (blind : behaviour.Blind) (id : ImageId) (handle : ClassHandle) :
    Blind (prepare behaviour id handle) := by
  refine Veiled.read (fun session => ?_) fun session _ => ?_
  · rw [registryOf_outline, Registry.reached_bare]
  · split
    · exact .pure trivial
    · exact inRegistry_blind id (prepareInside_blind blind id handle)

/-- A class that could be prepared from inside the registry has its tables. -/
theorem prepareInside_tabled (keeps : behaviour.Keeps false) {session : Session}
    (sound : session.Sound false) (id : ImageId) (handle : ClassHandle) :
    Outcome (prepareInside behaviour id handle session)
      (fun result after => after.Sound false ∧ (result = .ok () →
        ((after.registryOf handle).table? handle.ref).isSome = true)) fun _ _ => True := by
  by_cases owned : owns session id handle = true
  · have sameImage : handle.image = id := by
      rw [owns, Bool.and_eq_true, beq_iff_eq] at owned
      exact owned.1
    cases chained : (session.image id).registry.chain handle.ref.id with
    | error error =>
      rw [(prepareInside_of_chain_error (sound.images id).registry owned chained).1]
      exact ⟨sound, fun impossible => by cases impossible⟩
    | ok path =>
      refine (prepareInside_outcome sound keeps owned chained).mono ?_ fun _ _ _ => trivial
      rintro _ after ⟨-, moves, tabled⟩
      refine ⟨moves.sound, fun _ => ?_⟩
      rw [registryOf, sameImage]
      exact tabled handle.ref.side
  · simp only [prepareInside, outcome_bind, outcome_get, owned, Bool.false_eq_true, if_false]
    split
    · rename_i served
      exact ⟨sound, fun _ => (sound.images handle.image).registry.tabled.ready handle.ref.id
        (isPrepared_of_serves served) handle.ref.side⟩
    · exact ⟨sound, fun impossible => by cases impossible⟩

/-- A class that could be prepared has its tables. -/
theorem prepare_tabled (keeps : behaviour.Keeps false) {session : Session}
    (sound : session.Sound false) (id : ImageId) (handle : ClassHandle) :
    Outcome (prepare behaviour id handle session)
      (fun result after => after.Sound false ∧ (result = .ok () →
        ((after.registryOf handle).table? handle.ref).isSome = true)) fun _ _ => True := by
  simp only [prepare, outcome_bind, outcome_get]
  split
  · rename_i initialized
    exact ⟨sound, fun _ => (sound.images handle.image).registry.tabled.ready handle.ref.id
      (Registry.isPrepared_eq_true.mpr (.inl initialized)) handle.ref.side⟩
  · rw [outcome_inRegistry]
    split
    · exact trivial
    have inside : session.Moves false
        { session with entered := (id, session.thread) :: session.entered } :=
      .of_same sound rfl rfl
    refine (prepareInside_tabled keeps inside.sound id handle).mono ?_ ?_
    · rintro result after ⟨afterSound, tabled⟩
      have left : after.Moves false { after with entered := session.entered } :=
        .of_same afterSound rfl rfl
      exact ⟨left.sound, tabled⟩
    · exact fun halt after _ => passing_any _ halt after

/-- What a message finds does not depend on which tables there are. -/
theorem dispatch_blind (blind : behaviour.Blind) (id : ImageId) (handle : ClassHandle)
    (selector : Selector) : Blind (dispatch behaviour id handle selector) := by
  have composed : Composed (Keeps false anyhow) := keeps_composed tolerant_anyhow
  have prepares : Keeps false anyhow (prepare behaviour id handle) :=
    prepare_keeps blind.keeps (fun _ _ _ => trivial) (fun _ => trivial) id handle
  refine (composed.dispatch prepares selector).blind fun session other sound otherSound views => ?_
  refine seen_bind ((prepare_blind blind id handle).alike session other sound otherSound views)
    (prepare_tabled blind.keeps sound id handle)
    (prepare_tabled blind.keeps otherSound id handle) ?_
  rintro result after after' ⟨afterSound, tabled⟩ ⟨afterSound', tabled'⟩ afterViews
  cases result with
  | error error => exact congrArg (EStateM.Result.ok (Except.error error)) afterViews
  | ok _ =>
    have found : (after.registryOf handle).lookup handle.ref selector =
        (after'.registryOf handle).lookup handle.ref selector := by
      rw [registryOf, registryOf,
        (afterSound.images handle.image).registry.lookup_eq (tabled rfl),
        (afterSound'.images handle.image).registry.lookup_eq (tabled' rfl)]
      exact Registry.resolve_of_bare (bare_of_outline afterViews handle.image) _ _
    change EStateM.Result.ok (Except.ok ((after.registryOf handle).lookup handle.ref selector))
      after.outline = _
    rw [found, afterViews]
    rfl

/-- Whether a message finds anything is answered blindly, since tables are there by then. -/
theorem respondsTo_blind (blind : behaviour.Blind) (id : ImageId) (handle : ClassHandle)
    (selector : Selector) : Blind (respondsTo behaviour id handle selector) := by
  refine (dispatch_blind blind id handle selector).bind fun result _ => ?_
  split
  · exact .pure trivial
  · exact .pure trivial

/-- What a message finds, or the handler gives, is found blindly. -/
theorem lookupOrForward_blind (blind : behaviour.Blind) (id : ImageId) (handle : ClassHandle)
    (selector : Selector) : Blind (lookupOrForward behaviour id handle selector) := by
  refine (dispatch_blind blind id handle selector).bind fun result _ => ?_
  split
  · exact .pure trivial
  · exact .throw _
  · refine Blind.image id (fun _ => rfl) fun image => ?_
    refine Veiled.read (fun session => by rw [label_outline]) fun session _ => ?_
    refine (report_blind _ _).bind fun _ _ => ?_
    split
    · exact (emit_blind rfl).bind fun _ _ => blind.handler id handle selector
    · exact .throw _

/-- Sending a message is blind. -/
theorem send_blind (blind : behaviour.Blind) (id : ImageId) (handle : ClassHandle)
    (selector : Selector) : Blind (send behaviour id handle selector) :=
  (lookupOrForward_blind blind id handle selector).bind fun _ _ =>
    (call_blind blind _).bind fun _ _ => .pure trivial

/-- Replacing a method is blind. -/
theorem replaceMethod_blind (id : ImageId) (handle : ClassHandle) {selector : Selector} (imp : Imp)
    (fits : selector < SparseMap.capacity) : Blind (replaceMethod id handle selector imp) := by
  refine (awaitRegistry_blind id).bind fun _ _ =>
    Veiled.read (fun session => by rw [owns_outline, label_outline]) fun session _ => ?_
  split
  · refine (edit_blind id (Edit.replaceMethod_keeps handle.ref imp fits)
      (Edit.replaceMethod_blind handle.ref imp fits)).bind fun result _ => ?_
    cases result with
    | error error => exact .pure trivial
    | ok given => exact .pure trivial
  · exact .pure trivial

end Act

end LateBinding
