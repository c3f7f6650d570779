import LateBinding.Proofs.Composition
import LateBinding.Proofs.Programs
import LateBinding.Proofs.TwoRuns

/-!
# Logging does not interfere

A threshold holds reports back, and that is all it does. A session whose log was held back more
is the session as it is with the surplus of the log filtered out, and every action takes the one
to where the other comes, filtered in the same way, with the same value or for the same reason.
So a program that can look at everything but the log and its threshold gives the same under any
threshold, and what it leaves in the log is what the threshold admits of the whole log, in the
same places between the calls.

A fatal error is reported as an error before everything stops. Every threshold admits that
report, so it is the last event of every such run.
-/

namespace LateBinding

variable {α β : Type}

/-- Whether an event would be there under a threshold: reports may be held back, and nothing
    else. -/
def Event.heardAt (level : Log.Level) : Event → Bool
  | .logged message => level.admits message.level
  | _ => true

/-- What admits a level admits what that level admits. -/
theorem Log.Level.admits_trans {first second third : Log.Level}
    (above : first.admits second = true) (below : second.admits third = true) :
    first.admits third = true := by
  simp only [admits, decide_eq_true_eq] at *
  omega

/-- The lowest threshold admits everything. -/
theorem Log.Level.trace_admits (level : Log.Level) : Log.Level.trace.admits level = true := by
  cases level <;> rfl

namespace Session

variable [NameHash]

/-- A session as it would be had a threshold been set that holds back more. -/
def heardAt (level : Log.Level) (session : Session) : Session :=
  { session with
    threshold := level
    events := session.events.filter (Event.heardAt level) }

variable {session : Session} {level : Log.Level}

/-- A session without its log is the same at every threshold. -/
theorem unheard_heardAt (level : Log.Level) (session : Session) :
    (session.heardAt level).unheard = session.unheard := by
  have events : (session.events.filter (Event.heardAt level)).filter
      (fun event => !event.isLogged) = session.events.filter fun event => !event.isLogged := by
    rw [Array.filter_filter]
    congr 1
    funext event
    cases event <;> simp [Event.isLogged, Event.heardAt]
  simp only [unheard, heardAt, events]

/-- Of what one threshold admits, a lower one admits what it would admit of everything. -/
theorem admitted_heardAt (lower : session.threshold.admits level = true)
    (reports : List Log.Message) :
    (admitted session.threshold reports).filter (Event.heardAt level) = admitted level reports := by
  simp only [admitted, List.filter_map, List.filter_filter]
  refine congrArg _ (List.filter_congr fun message _ => ?_)
  simp only [Function.comp_apply, Event.heardAt, Bool.and_eq_left_iff_imp]
  exact Log.Level.admits_trans lower

/-- What a lower threshold logs is heard at a higher one as if it had been logged there. -/
theorem heardAt_log (lower : session.threshold.admits level = true)
    (reports : List Log.Message) :
    (session.log reports).heardAt level = (session.heardAt level).log reports := by
  have events : (session.events ++ admitted session.threshold reports).filter
      (Event.heardAt level) =
        session.events.filter (Event.heardAt level) ++ admitted level reports := by
    apply Array.ext'
    simp only [Array.toList_filter, Array.toList_appendList, List.filter_append,
      admitted_heardAt lower]
  simp only [log, heardAt, events]

/-- Events that are no reports are heard at any threshold. -/
theorem heardAt_emit (session : Session) {event : Event} (unlogged : event.isLogged = false) :
    { session with events := session.events.push event }.heardAt level =
      { session.heardAt level with events := (session.heardAt level).events.push event } := by
  have kept : event.heardAt level = true := by
    cases event with
    | logged message => cases unlogged
    | _ => rfl
  simp [heardAt, kept]

/-- A draft is adopted under either threshold. -/
theorem heardAt_adopt (lower : session.threshold.admits level = true) (id : ImageId)
    (draft : Draft) :
    (session.adopt id draft).heardAt level = (session.heardAt level).adopt id draft :=
  @heardAt_log _ (session.setImage id draft.image) level lower draft.reports

end Session

namespace Act

variable [NameHash]

/-- An action does not touch the threshold, and under a threshold that holds back more it ends in
    the same way, with the surplus of the log filtered out. -/
structure Indifferent (act : Act α) : Prop where
  threshold : ∀ session, Outcome (act session) (fun _ after => after.threshold = session.threshold)
    fun _ after => after.threshold = session.threshold
  filtered : ∀ (session : Session) (level : Log.Level), session.threshold.admits level = true →
    act (session.heardAt level) = seen id (Session.heardAt level) (act session)

namespace Indifferent

/-- Two actions in a row do not mind the threshold if neither does. -/
theorem bind {first : Act α} {next : α → Act β} (begun : Indifferent first)
    (continued : ∀ value, Indifferent (next value)) : Indifferent (first >>= next) where
  threshold session := by
    rw [outcome_bind]
    refine (begun.threshold session).imp fun value between same => ?_
    rw [← same]
    exact (continued value).threshold between
  filtered session level lower := by
    have same := begun.threshold session
    simp only [Bind.bind, EStateM.bind, begun.filtered session level lower]
    cases ended : first session with
    | ok value between =>
      rw [ended] at same
      have between_lower : between.threshold.admits level = true := by
        rw [show between.threshold = session.threshold from same, lower]
      exact (continued value).filtered between level between_lower
    | error halt after => rfl

/-- A change that commutes with holding reports back. -/
theorem modify {change : Session → Session}
    (threshold : ∀ session, (change session).threshold = session.threshold)
    (commutes : ∀ session level, session.threshold.admits level = true →
      change (session.heardAt level) = (change session).heardAt level) :
    Indifferent (modify change : Act PUnit) where
  threshold := threshold
  filtered session level lower := congrArg (EStateM.Result.ok PUnit.unit)
    (commutes session level lower)

/-- An edit sees an image and nothing else. -/
theorem edit (id : ImageId) (edits : Edit α) : Indifferent (edit id edits) where
  threshold session := by
    unfold Act.edit
    cases edits { image := session.image id } with
    | ok value draft => exact rfl
    | error failure draft => cases failure <;> exact rfl
  filtered session level lower := by
    have seesImage : (session.heardAt level).image id = session.image id := rfl
    unfold Act.edit
    rw [seesImage]
    cases edits { image := session.image id } with
    | ok value draft =>
      exact congrArg (EStateM.Result.ok _) (Session.heardAt_adopt lower id draft).symm
    | error failure draft =>
      cases failure with
      | refused error =>
        exact congrArg (EStateM.Result.ok _) (Session.heardAt_adopt lower id draft).symm
      | panicked panic =>
        exact congrArg (EStateM.Result.error _) (Session.heardAt_adopt lower id draft).symm

/-- Neither does an action whose panic is caught. -/
theorem settled {act : Act α} (inside : Indifferent act) : Indifferent (settled act) where
  threshold session := by
    have same := inside.threshold session
    unfold Act.settled
    cases ended : act session with
    | ok value after =>
      rw [ended] at same
      exact same
    | error halt after =>
      rw [ended] at same
      cases halt <;> exact same
  filtered session level lower := by
    unfold Act.settled
    rw [inside.filtered session level lower]
    cases act session with
    | ok value after => rfl
    | error halt after => cases halt <;> rfl

/-- Or one whose panic aborts. -/
theorem sealedOff {act : Act α} (inside : Indifferent act) : Indifferent (sealedOff act) where
  threshold session := by
    have same := inside.threshold session
    unfold Act.sealedOff
    cases ended : act session with
    | ok value after =>
      rw [ended] at same
      exact same
    | error halt after =>
      rw [ended] at same
      cases halt <;> exact same
  filtered session level lower := by
    unfold Act.sealedOff
    rw [inside.filtered session level lower]
    cases act session with
    | ok value after => rfl
    | error halt after => cases halt <;> rfl

/-- Events that are no reports do not depend on the threshold. -/
theorem emit {event : Event} (unlogged : event.isLogged = false) : Indifferent (emit event) :=
  .modify (fun _ => rfl) fun session _ _ => (session.heardAt_emit unlogged).symm

/-- A report is heard or not, and nothing else depends on it. -/
theorem report (level : Log.Level) (text : String) : Indifferent (report level text) :=
  .modify (fun _ => rfl) fun _ _ lower => (Session.heardAt_log lower _).symm

/-- Images do not know of the threshold. -/
theorem modifyImage (id : ImageId) (change : Image → Image) : Indifferent (modifyImage id change) :=
  .modify (fun _ => rfl) fun _ _ _ => rfl

/-- What is read of a session is neither its log nor its threshold. -/
theorem read {next : Session → Act α} (unheard : ∀ session, next session.unheard = next session)
    (continued : ∀ session, Indifferent (next session)) :
    Indifferent (MonadState.get >>= next) where
  threshold session := (continued session).threshold session
  filtered session level lower := by
    have sameNext : next (session.heardAt level) = next session := by
      rw [← unheard, Session.unheard_heardAt, unheard]
    change next (session.heardAt level) (session.heardAt level) = _
    rw [sameNext]
    exact (continued session).filtered session level lower

end Indifferent

/-- A threshold makes no difference to threads and to who is inside a registry. -/
theorem indifferent_untouched : Untouched Indifferent where
  pure _ := ⟨fun _ => rfl, fun _ _ _ => rfl⟩
  throw _ _ := ⟨fun _ => rfl, fun _ _ _ => rfl⟩
  bind := .bind
  read := .read
  modifyImage id change _ := .modifyImage id change
  panic _ := ⟨fun _ => rfl, fun _ _ _ => rfl⟩
  settled := .settled
  spawn := ⟨fun _ => rfl, fun _ _ _ => rfl⟩
  switchTo _ := .modify (fun _ => rfl) fun _ _ _ => rfl
  setEntered _ := .modify (fun _ => rfl) fun _ _ _ => rfl

/-- Nor does it to anything that requests are put together from. -/
theorem indifferent_composed : Composed Indifferent where
  toSequential := indifferent_untouched.toSequential
  report := .report
  emit unlogged _ := .emit unlogged
  aside {change} aside := by
    have unchanged : ∀ session, change session =
        { change session with threshold := session.threshold, events := session.events } :=
      fun session => aside.unheard session session.threshold session.events
    refine .modify (fun session => ?_) fun session level _ => ?_
    · rw [unchanged session]
    · have events : (change session).events = session.events := by rw [unchanged session]
      rw [Session.heardAt, aside.unheard, Session.heardAt, events]
  intern id _ := .edit id _
  sealedOff := .sealedOff
  onNewThread := indifferent_untouched.onNewThread
  inRegistry := indifferent_untouched.inRegistry
  inSection := indifferent_untouched.inSection

/-- Registering does not depend on the threshold, since edits only collect reports. -/
theorem indifferent_registering : Registering Indifferent where
  registerClass id _ := .edit id _
  insertCategory id _ := .edit id _
  loadModule id _ := .edit id _

/-- Neither do the other edits that requests make. -/
theorem indifferent_unguarded : Unguarded Indifferent where
  begins id _ _ := .modifyImage id _
  ends id _ := .modifyImage id _
  readies id _ := .edit id _
  replaces id _ _ _ := .edit id _

/-- The actions of programs that have no way of looking at the log. They look at sessions without
    it, may add to it and to what happened, and may catch panics. -/
inductive Deaf : {α : Type} → Act α → Prop
  | done {α : Type} (value : α) : Deaf (pure value)
  /-- Stops for good. -/
  | stop {α : Type} (halt : Halt) : Deaf (throw halt : Act α)
  | next {α β : Type} {first : Act α} {rest : α → Act β} (begun : Deaf first)
      (continued : ∀ value, Deaf (rest value)) : Deaf (first >>= rest)
  | look : Deaf (do return (← get).unheard)
  /-- Lets something be known, such as an answer. -/
  | tell (event : Event) (unlogged : event.isLogged = false) : Deaf (emit event)
  | report (level : Log.Level) (text : String) : Deaf (report level text)
  | request {behaviour : Behaviour} (id : ImageId) (asked : Request)
      (bodies : ∀ call, Deaf (behaviour.body call))
      (handlers : ∀ id handle selector, Deaf (behaviour.handler id handle selector)) :
      Deaf (asked.run behaviour id)
  | inSection {α : Type} (id : ImageId) (object : Object) {act : Act α} (inside : Deaf act) :
      Deaf (inSection id object act)
  | setForward (behaviour : Behaviour) (id : ImageId) (imp : Imp) (actions : List Step)
      (again : Bool) : Deaf ((Step.setForward id imp actions again).run behaviour)
  /-- Catches a panic. -/
  | attempt {α : Type} {act : Act α} (tried : Deaf act) : Deaf (settled act)

/-- A threshold makes no difference to a program that cannot look at the log. -/
theorem Deaf.indifferent {program : Act α} (deaf : program.Deaf) : Indifferent program := by
  have composed : Composed Indifferent := indifferent_composed
  induction deaf with
  | done value => exact composed.pure value
  | stop halt => exact ⟨fun _ => rfl, fun _ _ _ => rfl⟩
  | next _ _ begun continued => exact begun.bind continued
  | look =>
    refine composed.reading fun session => ?_
    simp [Session.unheard, Array.filter_filter]
  | tell event unlogged => exact .emit unlogged
  | report level text => exact .report level text
  | request id asked _ _ bodies handlers =>
    exact composed.request (composed.call (fun _ _ => .emit rfl) bodies)
      indifferent_registering indifferent_unguarded handlers asked
  | inSection id object _ inside => exact composed.inSection id object inside
  | setForward behaviour id imp actions again =>
    exact composed.setForward behaviour id imp actions again
  | attempt _ tried => exact tried.settled

end Act

namespace Session

variable [NameHash]

/-- An image without a level of its own is created under either threshold. -/
theorem addImage_heardAt {session : Session} {level : Log.Level}
    (lower : session.threshold.admits level = true) {config : Config}
    (quiet : config.level = none) :
    (session.heardAt level).addImage config = (session.addImage config).map (heardAt level) := by
  rw [addImage_eq, addImage_eq, quiet]
  cases Image.create config with
  | error panic => rfl
  | ok made =>
    have logged := @heardAt_log _ { session with images := session.images.push made.1 } level lower
    exact congrArg Except.ok (logged made.2).symm

/-- A session starts under a threshold as it does under the lowest one, with the surplus of the log
    filtered out. -/
theorem start_heardAt (level : Log.Level) {configs : List Config}
    (quiet : ∀ config ∈ configs, config.level = none) :
    start level configs = (start .trace configs).map (heardAt level) := by
  suffices further : ∀ session : Session, session.threshold = .trace →
      configs.foldlM addImage (session.heardAt level) =
        (configs.foldlM addImage session).map (heardAt level) by
    exact further (idle .trace) rfl
  induction configs with
  | nil => exact fun _ _ => rfl
  | cons config rest inductionHypothesis =>
    intro session loudest
    have lower : session.threshold.admits level = true := by rw [loudest, Log.Level.trace_admits]
    have silent : config.level = none := quiet config List.mem_cons_self
    rw [List.foldlM_cons, List.foldlM_cons, addImage_heardAt lower silent]
    cases added : session.addImage config with
    | error panic => rfl
    | ok between =>
      have still : between.threshold = .trace := by
        rw [addImage_eq, silent] at added
        cases made : Image.create config with
        | error panic =>
          rw [made] at added
          cases added
        | ok made' =>
          rw [made] at added
          cases added
          exact loudest
      exact inductionHypothesis (fun later member => quiet later (List.mem_cons_of_mem _ member))
        between still

/-- What happened in a run, first to last. A fatal error is reported as an error, and that is the
    last thing that happens. -/
def transcript {α : Type} : EStateM.Result Halt Session α → List Event
  | .ok _ after => after.events.toList
  | .error (.fatal error) after => after.events.toList ++ [.logged ⟨.error, error.message⟩]
  | .error _ after => after.events.toList

/-- The transcript at a higher threshold is the lower one without the reports in between. -/
theorem transcript_heardAt (level : Log.Level) (result : EStateM.Result Halt Session α) :
    transcript (seen id (heardAt level) result) =
      (transcript result).filter (Event.heardAt level) := by
  have reported : ∀ text, Event.heardAt level (.logged ⟨.error, text⟩) = true := fun text => by
    cases level <;> rfl
  cases result with
  | ok value after => exact Array.toList_filter
  | error halt after =>
    cases halt with
    | fatal error =>
      simp only [transcript, seen, heardAt, Array.toList_filter, List.filter_append,
        List.filter_cons_of_pos (reported error.message), List.filter_nil]
    | panicked panic => exact Array.toList_filter
    | aborted panic => exact Array.toList_filter
    | deadlocked => exact Array.toList_filter

end Session

/-- A threshold only filters the log. If no configuration sets it, a program that cannot look at
    the log ends in the same way under any threshold as it does when everything is logged: with the
    same value, or halting for the same reason, in a session that differs in the log alone. What
    happened on the way is the same, in the same order, with every report left out that the
    threshold does not admit and every other one in its place. -/
theorem Act.Deaf.log_filtered [NameHash] {program : Act α} (deaf : program.Deaf) (level : Log.Level)
    {configs : List Config} (quiet : ∀ config ∈ configs, config.level = none) :
    (∀ panic, Session.start level configs = .error panic ↔
      Session.start .trace configs = .error panic) ∧
    ∀ first, Session.start .trace configs = .ok first →
      ∃ quieter, Session.start level configs = .ok quieter ∧
        program quieter = seen id (Session.heardAt level) (program first) ∧
        Session.transcript (program quieter) =
          (Session.transcript (program first)).filter (Event.heardAt level) := by
  have started := Session.start_heardAt level quiet
  constructor
  · intro panic
    rw [started]
    cases Session.start .trace configs with
    | error reason => rfl
    | ok first => simp [Except.map]
  · intro first found
    have loudest : first.threshold = .trace := by
      have same := Session.start_heardAt .trace quiet
      rw [found] at same
      exact congrArg Session.threshold (Except.ok.inj same)
    have lower : first.threshold.admits level = true := by
      rw [loudest, Log.Level.trace_admits]
    have same := deaf.indifferent.filtered first level lower
    refine ⟨first.heardAt level, by rw [started, found]; rfl, same, ?_⟩
    rw [same, Session.transcript_heardAt]

namespace Act

variable [NameHash]

/-- Makes requests to one image in turn and lets the answers be known. -/
def telling (behaviour : Behaviour) (id : ImageId) : List Request → Act Unit
  | [] => pure ()
  | asked :: rest => do
    let answer ← asked.run behaviour id
    emit (.acted answer)
    telling behaviour id rest

/-- A program that makes requests in turn is deaf. -/
theorem telling_deaf {behaviour : Behaviour} (bodies : ∀ call, (behaviour.body call).Deaf)
    (handlers : ∀ id handle selector, (behaviour.handler id handle selector).Deaf) (id : ImageId)
    (requests : List Request) : (telling behaviour id requests).Deaf := by
  induction requests with
  | nil => exact .done ()
  | cons asked rest inductionHypothesis =>
    exact .next (.request id asked bodies handlers) fun answer =>
      .next (.tell (.acted answer) rfl) fun _ => inductionHypothesis

/-- Implementations of `load` that send a message before the class is used. -/
def impatient (target : ClassQuery) (signature : Signature) : Behaviour where
  body call :=
    if call.purpose = .load none then telling .idle 0 [.send target (.intern 0 signature)]
    else pure ()
  handler _ _ _ := pure 0

/-- So is an implementation that sends a message. -/
theorem impatient_deaf (target : ClassQuery) (signature : Signature) (call : Call) :
    ((impatient target signature).body call).Deaf := by
  simp only [impatient]
  split
  · exact telling_deaf (fun _ => .done ()) (fun _ _ _ => .done 0) 0 _
  · exact .done ()

/-- Whether a program that starts in a session with new images leaves behind such a transcript. -/
def leaves (threshold : Log.Level) (configs : List Config) (program : Act α)
    (check : List Event → Bool) : Bool :=
  match Session.start threshold configs with
  | .error _ => false
  | .ok first => check (Session.transcript (program first))

end Act

namespace Act

/-- A class is loaded, and before that is over it is sent a message that initializes it. The next
    message is not understood, which is fatal. When everything is logged, the calls stand among many
    reports; when only errors are, the last report alone is left. -/
theorem Deaf.log_filtered_of_fatal : ∃ program : Act Unit, program.Deaf ∧
    (∀ config ∈ [Config.standard], config.level = none) ∧
    (leaves .trace [.standard] program fun events =>
      (events.filterMap Event.call?).map Call.imp == [8, 9, 1, 9] &&
        (events.filter Event.isLogged).length == 17) = true ∧
    (leaves .error [.standard] program fun events =>
      (events.filterMap Event.call?).map Call.imp == [8, 9, 1, 9] &&
        (events.filter Event.isLogged).length == 1) = true ∧
    ∀ first, Session.start .trace [.standard] = .ok first →
      ∃ quieter, Session.start .error [.standard] = .ok quieter ∧
        program quieter = seen id (Session.heardAt .error) (program first) ∧
        Session.transcript (program quieter) =
          (Session.transcript (program first)).filter (Event.heardAt .error) := by
  let speak : Signature := ⟨"speak", none⟩
  let requests : List Request :=
    [.registerClass ⟨"Dog", some "Animal", 0, [], []⟩,
     .registerClass ⟨"Animal", none, 8, [⟨speak, 1⟩],
       [⟨Image.loadSignature, 8⟩, ⟨Image.initSignature, 9⟩]⟩,
     .send ⟨0, "Dog", .inst⟩ (.intern 0 ⟨"fly", none⟩)]
  let program : Act Unit := telling (impatient ⟨0, "Animal", .inst⟩ speak) 0 requests
  have deaf : program.Deaf :=
    telling_deaf (impatient_deaf _ _) (fun _ _ _ => .done 0) 0 requests
  have quiet : ∀ config ∈ [Config.standard], config.level = none := by simp [Config.standard]
  refine ⟨program, deaf, quiet, by decide +kernel, by decide +kernel, ?_⟩
  exact (deaf.log_filtered .error quiet).2

end Act

end LateBinding
