import LateBinding.Proofs.Keeping

/-!
# Preparing classes

A class is prepared for its first message by an edit that makes it ready, by the hooks
that became due, by preparing the class above, and by its own `initialize`. Implementations
run in between and may do whatever keeps a session in order. What the next step needs is
kept by growing: the path of the class, and the tables of its sides once they are there.

So preparing a class whose chain leads to a root always succeeds, unless an implementation
halts or another thread is inside the registry, and afterwards both sides of the class have
tables. In a settled image no size is computed on the way; in one that is not, a size may turn
out to be no word.
-/

namespace LateBinding

open Registry Session

/-- An implementation halts and leaves this session. -/
def Behaviour.Halts [NameHash] (behaviour : Behaviour) (halt : Halt) (after : Session) : Prop :=
  ∃ call before, Act.sealedOff (behaviour.body call) before = .error halt after

/-- How preparing may halt: in an implementation, or at a size that is no word. -/
def Behaviour.Stops [NameHash] (behaviour : Behaviour) (strict : Bool) (halt : Halt)
    (after : Session) : Prop :=
  behaviour.Halts halt after ∨ halt = .panicked .sumOverflow ∧ strict = false

/-- A panic does not get past an implementation. -/
theorem Behaviour.Halts.ne_panicked [NameHash] {behaviour : Behaviour} {halt : Halt}
    {after : Session}
    (halts : behaviour.Halts halt after) (panic : Panic) : halt ≠ .panicked panic := by
  rintro rfl
  obtain ⟨call, session, ended⟩ := halts
  unfold Act.sealedOff at ended
  split at ended
  · cases ended
  · rename_i outcome excluded
    exact excluded panic after ended

/-- A panic does not come from an implementation, so where it is makes no difference. -/
theorem Behaviour.Stops.panicked [NameHash] {behaviour : Behaviour} {strict : Bool} {panic : Panic}
    {before : Session} (stopped : behaviour.Stops strict (.panicked panic) before)
    (after : Session) : behaviour.Stops strict (.panicked panic) after :=
  stopped.imp_left fun halts => absurd rfl (halts.ne_panicked panic)

/-- Implementations and the handler keep a session in order. -/
structure Behaviour.Keeps [NameHash] (strict : Bool) (behaviour : Behaviour) : Prop where
  body : ∀ call, Act.Keeps strict (fun _ _ => True) (behaviour.body call)
  handler : ∀ id handle selector,
    Act.Keeps strict (fun _ _ => True) (behaviour.handler id handle selector)

/-- A loaded class goes on as before when it is marked as initialized. -/
theorem ClassEntry.continues_initialized (entry : ClassEntry)
    (loaded : entry.stage.inst.reached .loaded = true) :
    entry.Continues { entry.advance .initialized with initializing := none } ∧
      entry.stage.inst.rank ≤ (entry.advance .initialized).stage.inst.rank := by
  have last : entry.stage.inst.advance .initialized = .initialized := by
    rcases (Stage.reached_loaded_iff _).mp loaded with same | same <;> rw [same] <;> rfl
  refine ⟨⟨rfl, rfl, rfl, rfl, ?_, ?_, ?_⟩, ?_⟩
  · intro level
    simp only [advance, BySide.map, level]
  · simp only [advance, BySide.map, last]
    rcases (Stage.reached_loaded_iff _).mp loaded with same | same <;> simp [same]
  · simp only [advance, BySide.map, last]
    exact fun _ => rfl
  · simp only [advance, BySide.map, last]
    cases entry.stage.inst <;> decide

namespace Registry

variable {registry : Registry} {target : ClassId}

/-- Marking a class is no stage of life. -/
theorem reached_beginInit (thread : Thread) (other : ClassId) (goal : Stage) :
    (registry.beginInit target thread).reached other goal = registry.reached other goal :=
  registry.field_modify target _ (·.stage.inst.reached goal) rfl other

/-- Its end is one: the class is initialized. -/
theorem reached_endInit (inside : target < registry.size) (other : ClassId) :
    (registry.endInit target).reached other .initialized =
      (decide (target = other) || registry.reached other .initialized) := by
  unfold endInit Registry.reached stage
  by_cases same : target = other
  · subst same
    rw [registry.entry_modify_same _ inside]
    cases stage : (registry.entry target).stage.inst <;>
      simp [ClassEntry.advance, BySide.map, stage, Stage.advance, Stage.reached, Stage.rank]
  · simp [registry.entry_modify_of_ne _ same, same]

end Registry

namespace Image.Sound

variable [NameHash] {strict : Bool} {image : Image} {target : ClassId}

/-- A class that has both tables may be marked and moved on. -/
theorem mark (sound : image.Sound strict) (target : ClassId) (change : ClassEntry → ClassEntry)
    (kept : ∀ entry, change entry = { entry with
      stage := (change entry).stage
      initializing := (change entry).initializing })
    (continues : ∀ entry : ClassEntry, entry.stage.inst.reached .loaded = true →
      entry.Continues (change entry) ∧ entry.stage.inst.rank ≤ (change entry).stage.inst.rank)
    (tabled : ∀ side, (image.registry.table? ⟨target, side⟩).isSome = true) :
    Image.Sound strict { image with registry := image.registry.modify target change } ∧
      image.registry.Grows (image.registry.modify target change) := by
  have loaded := sound.registry.tabled.loaded _ (tabled .inst)
  obtain ⟨goesOn, later⟩ := continues (image.registry.entry target) loaded
  obtain ⟨marked, grows⟩ := sound.registry.mark target change (kept _) goesOn later tabled
  refine ⟨⟨marked, sound.selectors, fun isStrict => ?_⟩, grows⟩
  exact (sound.settled isStrict).grows grows sound.registry.formed marked.formed (size_modify _ _ _)

/-- A class with tables can be marked. -/
theorem beginInit (sound : image.Sound strict) (thread : Thread)
    (tabled : ∀ side, (image.registry.table? ⟨target, side⟩).isSome = true) :
    Image.Sound strict { image with registry := image.registry.beginInit target thread } ∧
      image.registry.Grows (image.registry.beginInit target thread) :=
  sound.mark target (fun entry => { entry with initializing := some thread }) (fun _ => rfl)
    (fun _ _ => ⟨⟨rfl, rfl, rfl, rfl, fun level => level, Iff.rfl, fun loaded => loaded⟩,
      Nat.le_refl _⟩) tabled

/-- And it can be initialized. -/
theorem endInit (sound : image.Sound strict)
    (tabled : ∀ side, (image.registry.table? ⟨target, side⟩).isSome = true) :
    Image.Sound strict { image with registry := image.registry.endInit target } ∧
      image.registry.Grows (image.registry.endInit target) :=
  sound.mark target (fun entry => { entry.advance .initialized with initializing := none })
    (fun _ => rfl) ClassEntry.continues_initialized tabled

end Image.Sound

namespace Act

variable [NameHash] {strict : Bool} {behaviour : Behaviour}

/-- To halt in an implementation is one way to stop. -/
theorem Keeps.stopping {α : Type} {act : Act α} (keeps : Keeps strict behaviour.Halts act) :
    Keeps strict (behaviour.Stops strict) act :=
  keeps.mono fun _ _ halts => .inl halts

omit [NameHash] in
/-- A class that serves a thread is prepared. -/
theorem isPrepared_of_serves {registry : Registry} {id : ClassId} {thread : Thread}
    (served : servesThread registry id thread = true) : registry.isPrepared id = true := by
  rw [servesThread, Bool.or_eq_true, beq_iff_eq] at served
  rw [isPrepared_eq_true]
  refine served.imp_right fun marked => ?_
  rw [marked]
  rfl

/-- Where an implementation stops, the behaviour halts. -/
theorem sealedOff_halts (call : Call) (session : Session) :
    Outcome (sealedOff (behaviour.body call) session) (fun _ _ => True) behaviour.Halts := by
  cases ended : sealedOff (behaviour.body call) session with
  | ok value after => trivial
  | error halt after => exact ⟨call, session, ended⟩

/-- Hooks halt as the implementations that they call do. -/
theorem runHooks_halts {halted : Halt → Session → Prop}
    (called : ∀ made before,
      Outcome (sealedOff (behaviour.body made) before) (fun _ _ => True) halted)
    (id : ImageId) (hooks : List LoadHook) (session : Session) :
    Outcome (runHooks behaviour id hooks session) (fun _ _ => True) halted := by
  refine outcome_forM (fun _ _ => True) ?_ hooks session trivial
  intro hook rest now _
  exact called _ _

/-- An `initialize` halts as the implementation does. -/
theorem callInit_halts (id : ImageId) (target : ClassId) (session : Session) :
    Outcome (callInit behaviour id target session) (fun _ _ => True) behaviour.Halts := by
  simp only [callInit, outcome_bind, outcome_image]
  cases ((session.image id).registry.table? ⟨target, .metaclass⟩).bind
      (·.get? (session.image id).initSelector) with
  | none => trivial
  | some imp => exact sealedOff_halts _ _

/-- Where an implementation stops, the behaviour halts. -/
theorem implementation_keeps (keeps : behaviour.Keeps strict) (call : Call) :
    Keeps strict behaviour.Halts (sealedOff (behaviour.body call)) := by
  intro session sound
  have outcome := (@sealedOff_halts _ behaviour call session).and
    (sealedOff_keeps tolerant_anyhow (keeps.body call) session sound)
  exact outcome.mono (fun _ _ given => given.2) fun _ _ given => ⟨given.1, given.2.2⟩

/-- A call keeps a session in order if the implementation does. -/
theorem call_keeps (keeps : behaviour.Keeps strict) (made : Call) :
    Keeps strict behaviour.Halts (call behaviour made) :=
  Keeps.get.bind fun _ => (emit_keeps _).bind fun _ => implementation_keeps keeps made

/-- So do the calls of hooks. -/
theorem runHooks_keeps (keeps : behaviour.Keeps strict) (id : ImageId) (hooks : List LoadHook) :
    Keeps strict behaviour.Halts (runHooks behaviour id hooks) := by
  induction hooks with
  | nil => exact .pure _
  | cons hook rest inductionHypothesis =>
    have first : Keeps strict behaviour.Halts _ :=
      (report_keeps .trace ("running load of " ++ hook.owner)).bind fun _ =>
        (image_keeps id).bind fun image => call_keeps keeps
          { imp := hook.imp
            receiver := some ⟨id, ⟨hook.receiver, .inst⟩⟩
            selector := image.loadSelector
            purpose := .load hook.category }
    exact first.bind fun _ => inductionHypothesis

/-- So does that of an `initialize`. -/
theorem callInit_keeps (keeps : behaviour.Keeps strict) (id : ImageId) (target : ClassId) :
    Keeps strict behaviour.Halts (callInit behaviour id target) := by
  refine (image_keeps id).bind fun image => ?_
  split
  · exact (report_keeps _ _).bind fun _ => call_keeps keeps _
  · exact .pure _

/-- A class that has both tables can be taken to its last stage. -/
theorem finishPreparing_outcome {session : Session} (sound : session.Sound strict)
    (keeps : behaviour.Keeps strict) {id : ImageId} {target : ClassId}
    (tabled : ∀ side, ((session.image id).registry.table? ⟨target, side⟩).isSome = true) :
    Outcome (finishPreparing behaviour id target session)
      (fun _ after => session.Moves strict after)
      (fun halt after => behaviour.Stops strict halt after ∧
        (halt = .deadlocked → session.Moves strict after)) := by
  simp only [finishPreparing, outcome_bind, outcome_get]
  split
  · exact .refl sound
  · simp only [outcome_bind, outcome_modifyRegistry]
    obtain ⟨marked, grows⟩ := (sound.images id).beginInit session.thread tabled
    have begun := Moves.setImage sound marked grows
    apply resume begun ((callInit_keeps keeps id target).stopping _ begun.sound)
    intro _ called moves
    have moved := begun.trans moves
    obtain ⟨markedAgain, growsAgain⟩ := (moved.sound.images id).endInit fun side =>
      (moved.follows.grows id).tables ⟨target, side⟩ (tabled side)
    have ended := Moves.setImage moved.sound markedAgain growsAgain
    exact (moved.trans ended).trans (.log ended.sound _)

/-- A number that an image has handed out belongs to an image that exists. -/
theorem image_lt_of_class_lt {session : Session} {id : ImageId} {target : ClassId}
    (inside : target < (session.image id).registry.size) : id < session.images.size := by
  by_contra outside
  have vacant : session.image id = default := by
    rw [Session.image, Array.getD_eq_getD_getElem?,
      Array.getElem?_eq_none (Nat.le_of_not_lt outside)]
    rfl
  rw [vacant] at inside
  exact Nat.not_lt_zero _ inside

/-- Both sides of a class have tables. -/
def Tabled (session : Session) (id : ImageId) (target : ClassId) : Prop :=
  ∀ side, ((session.image id).registry.table? ⟨target, side⟩).isSome = true

/-- A class that has tables keeps them. -/
theorem Tabled.moves {session after : Session} {id : ImageId} {target : ClassId}
    (tabled : Tabled session id target) (moves : session.Moves strict after) :
    Tabled after id target :=
  fun side => (moves.follows.grows id).tables _ (tabled side)

/-- A class whose names lead to a root is made ready, and the hooks that are due run. -/
theorem makeReady_outcome {session : Session} (sound : session.Sound strict)
    (keeps : behaviour.Keeps strict) {id : ImageId} {target : ClassId} {path : List ClassId}
    (inside : target < (session.image id).registry.size)
    (ascent : (session.image id).registry.Ascent target path) :
    Outcome (editAndRun behaviour id (readyTables target) session)
      (fun result after => result = .ok () ∧ session.Moves strict after ∧ Tabled after id target)
      (fun halt after => behaviour.Stops strict halt after ∧
        (halt = .deadlocked → session.Moves strict after)) := by
  have image := sound.images id
  have chained : (session.image id).registry.chain target = .ok path :=
    (chain_eq_ok_iff image.registry.formed.lt_of_find? inside).mpr ascent
  have edited : Outcome (edit id (readyTables target) session)
      (fun result after => (∃ hooks, result = .ok ((), hooks)) ∧ session.Moves strict after ∧
        Tabled after id target)
      (fun halt _ => halt = .panicked .sumOverflow ∧ strict = false) := by
    have outcome := @Edit.readyTables_outcome _ strict { image := session.image id } image target
      inside
    apply (edit_outcome outcome).mono
    · rintro result _ ⟨draft, rfl, given⟩
      cases result with
      | ok value =>
        obtain ⟨-, kept, tabled⟩ := given
        refine ⟨⟨value.2, rfl⟩, .adopt sound kept, fun side => ?_⟩
        have adopted : (session.adopt id draft).image id = draft.image := by
          change (session.setImage id draft.image).image id = draft.image
          rw [image_setImage, if_pos ⟨rfl, image_lt_of_class_lt inside⟩]
        rw [adopted]
        exact tabled side
      | error error =>
        rcases given with ⟨impossible, -⟩ | ⟨error, refused, -⟩
        · cases impossible
        · rw [chained] at refused
          cases refused
    · rintro _ after ⟨panic, draft, rfl, -, ⟨same, lenient, -⟩ | ⟨error, -, impossible, -⟩⟩
      · cases same
        exact ⟨rfl, lenient⟩
      · cases impossible
  simp only [editAndRun, outcome_bind]
  apply edited.mono
  · rintro _ between ⟨⟨hooks, rfl⟩, moves, tabled⟩
    simp only [outcome_bind, outcome_pure]
    apply resume moves ((runHooks_keeps keeps id hooks).stopping between moves.sound)
    intro _ after further
    exact ⟨trivial, moves.trans further, tabled.moves further⟩
  · rintro halt after ⟨rfl, lenient⟩
    exact ⟨.inr ⟨rfl, lenient⟩, fun impossible => by cases impossible⟩

/-- Preparing along the path of a class succeeds and leaves tables for its first class. -/
theorem prepareAlong_outcome {session : Session} (sound : session.Sound strict)
    (keeps : behaviour.Keeps strict) {id : ImageId} {chain : List ClassId}
    (along : ∀ target ∈ chain.head?, target < (session.image id).registry.size ∧
      (session.image id).registry.Ascent target chain) :
    Outcome (prepareAlong behaviour id chain session)
      (fun result after => result = .ok () ∧ session.Moves strict after ∧
        ∀ target ∈ chain.head?, Tabled after id target)
      (fun halt after => behaviour.Stops strict halt after ∧
        (halt = .deadlocked → session.Moves strict after)) := by
  induction chain generalizing session with
  | nil => exact ⟨rfl, .refl sound, fun _ impossible => by cases impossible⟩
  | cons target above inductionHypothesis =>
    obtain ⟨inside, ascent⟩ := along target rfl
    simp only [prepareAlong, outcome_bind, outcome_get]
    split
    · rename_i served
      refine ⟨rfl, .refl sound, ?_⟩
      rintro _ ⟨rfl⟩ side
      exact (sound.images id).registry.tabled.ready target (isPrepared_of_serves served) side
    · simp only [outcome_bind]
      apply (makeReady_outcome sound keeps inside ascent).imp
      rintro _ ready ⟨rfl, readied, tabled⟩
      have formed := (sound.images id).registry.formed
      have upwards := (readied.follows.grows id).ascent_tail formed ascent
      simp only [outcome_bind]
      apply resume readied (inductionHypothesis readied.sound upwards)
      rintro _ between ⟨rfl, moves, -⟩
      have moved := readied.trans moves
      simp only [outcome_bind, outcome_pure]
      apply resume moved (finishPreparing_outcome moved.sound keeps (tabled.moves moves))
      intro _ after further
      refine ⟨trivial, moved.trans further, ?_⟩
      rintro _ ⟨rfl⟩
      exact (tabled.moves moves).moves further

/-- From inside the registry, preparing a class of the image gives it tables, if its names lead to
    a root. -/
theorem prepareInside_outcome {session : Session} (sound : session.Sound strict)
    (keeps : behaviour.Keeps strict) {id : ImageId} {handle : ClassHandle} {path : List ClassId}
    (owned : owns session id handle = true)
    (chained : (session.image id).registry.chain handle.ref.id = .ok path) :
    Outcome (prepareInside behaviour id handle session)
      (fun result after => result = .ok () ∧ session.Moves strict after ∧
        Tabled after id handle.ref.id)
      (fun halt after => behaviour.Stops strict halt after ∧
        (halt = .deadlocked → session.Moves strict after)) := by
  have owner := owned
  rw [owns, Bool.and_eq_true, beq_iff_eq, decide_eq_true_eq] at owner
  obtain ⟨sameImage, inside⟩ := owner
  have image := (sound.images id).registry
  have ascent := (chain_eq_ok_iff image.formed.lt_of_find? inside).mp chained
  simp only [prepareInside, outcome_bind, outcome_get, registryOf, sameImage, owned, chained]
  split
  · rename_i served
    exact ⟨rfl, .refl sound,
      fun side => image.tabled.ready handle.ref.id (isPrepared_of_serves served) side⟩
  · obtain ⟨above, rfl⟩ := ascent.head
    refine (prepareAlong_outcome sound keeps ?_).imp ?_
    · rintro _ ⟨rfl⟩
      exact ⟨inside, ascent⟩
    · rintro _ after ⟨result, moves, tabled⟩
      exact ⟨result, moves, tabled _ rfl⟩

/-- Where somebody else is inside the registry, a class that is not initialized yet waits. -/
theorem prepare_of_shut {session : Session} {id : ImageId} {handle : ClassHandle}
    (unfinished : (session.registryOf handle).reached handle.ref.id .initialized = false)
    (isShut : session.isShut id = true) :
    prepare behaviour id handle session = .error .deadlocked session := by
  rw [eq_error_iff]
  simp only [prepare, outcome_bind, outcome_get, unfinished, Bool.false_eq_true, if_false]
  exact eq_error_iff.mp (inRegistry_of_shut _ isShut)

/-- From inside the registry, a class of a sound image whose chain is refused is not prepared, and
    nothing happens. -/
theorem prepareInside_of_chain_error {session : Session} {id : ImageId}
    (image : (session.image id).registry.Sound) {handle : ClassHandle} {error : Error}
    (owned : owns session id handle = true)
    (refused : (session.image id).registry.chain handle.ref.id = .error error) :
    prepareInside behaviour id handle session = .ok (.error error) session ∧
      (session.registryOf handle).reached handle.ref.id .initialized = false := by
  have owner := owned
  rw [owns, Bool.and_eq_true, beq_iff_eq, decide_eq_true_eq] at owner
  obtain ⟨sameImage, inside⟩ := owner
  have unprepared : (session.image id).registry.isPrepared handle.ref.id = false := by
    by_contra prepared
    rw [Bool.not_eq_false] at prepared
    have loaded := image.tabled.loaded _ (image.tabled.ready handle.ref.id prepared .inst)
    obtain ⟨-, -, path, ascent⟩ := image.formed.linked _ (stage_ne_registered_of_reached loaded)
    rw [(chain_eq_ok_iff image.formed.lt_of_find? inside).mpr ascent] at refused
    cases refused
  have unserved : servesThread (session.image id).registry handle.ref.id session.thread = false :=
    Bool.eq_false_iff.mpr fun served => by
      rw [isPrepared_of_serves served] at unprepared
      cases unprepared
  constructor
  · rw [eq_ok_iff]
    simp only [prepareInside, outcome_bind, outcome_get, registryOf, sameImage, unserved, owned,
      refused, if_true, Bool.false_eq_true, if_false, outcome_pure, and_self]
  · rw [registryOf, sameImage]
    exact (Bool.or_eq_false_iff.mp unprepared).1

/-- A class of a sound image whose chain is refused is not prepared. Nothing happens, unless
    another thread is inside the registry. -/
theorem prepare_of_chain_error {session : Session} {id : ImageId}
    (image : (session.image id).registry.Sound) {handle : ClassHandle} {error : Error}
    (owned : owns session id handle = true)
    (refused : (session.image id).registry.chain handle.ref.id = .error error) :
    prepare behaviour id handle session =
      if session.isShut id then .error .deadlocked session else .ok (.error error) session := by
  have unfinished := (@prepareInside_of_chain_error _ behaviour _ _ image _ _ owned refused).2
  split
  · rename_i isShut
    exact prepare_of_shut unfinished isShut
  · rename_i opened
    let inside : Session := { session with entered := (id, session.thread) :: session.entered }
    have ended :=
      @prepareInside_of_chain_error _ behaviour inside id image handle error owned refused
    rw [eq_ok_iff]
    simp only [prepare, outcome_bind, outcome_get, unfinished, Bool.false_eq_true, if_false,
      outcome_inRegistry, opened]
    exact (eq_ok_iff.mp ended.1).mono (fun _ _ given => ⟨given.1, by rw [given.2]⟩)
      fun _ _ impossible => impossible.elim

/-- From inside the registry, preparing keeps a session in order, whatever class it is asked for. -/
theorem prepareInside_keeps (keeps : behaviour.Keeps strict) (id : ImageId) (handle : ClassHandle) :
    Keeps strict (behaviour.Stops strict) (prepareInside behaviour id handle) := by
  intro session sound
  by_cases owned : owns session id handle = true
  · cases chained : (session.image id).registry.chain handle.ref.id with
    | error error =>
      rw [(prepareInside_of_chain_error (sound.images id).registry owned chained).1]
      exact .refl sound
    | ok path =>
      exact (prepareInside_outcome sound keeps owned chained).imp fun _ _ given => given.2.1
  · simp only [prepareInside, outcome_bind, outcome_get, owned, Bool.false_eq_true, if_false]
    split
    · exact .refl sound
    · exact .refl sound

/-- Preparing keeps a session in order, whatever class it is asked for. -/
theorem prepare_keeps (keeps : behaviour.Keeps strict) {stops : Halt → Session → Prop}
    (stopping : ∀ halt after, behaviour.Stops strict halt after → stops halt after)
    (waiting : ∀ after, stops .deadlocked after) (id : ImageId) (handle : ClassHandle) :
    Keeps strict stops (prepare behaviour id handle) := by
  have inside : Keeps strict
      (fun halt after => behaviour.Stops strict halt after ∨ halt = .deadlocked)
      (inRegistry id (prepareInside behaviour id handle)) := by
    refine inRegistry_keeps id (fun _ => .inr rfl) ?_
      ((prepareInside_keeps keeps id handle).mono fun _ _ stopped => .inl stopped)
    rintro panic session after (stopped | impossible)
    · exact .inl (stopped.panicked after)
    · cases impossible
  have prepares : Keeps strict stops (inRegistry id (prepareInside behaviour id handle)) := by
    refine inside.mono ?_
    rintro halt after (stopped | rfl)
    · exact stopping halt after stopped
    · exact waiting after
  refine Keeps.get.bind fun session => ?_
  split
  · exact .pure _
  · exact prepares

end Act

end LateBinding
