import LateBinding.Proofs.Recording

/-!
# The history of a program

Every request takes a passage, so every program does, by induction on how it is made. The
history of a program is the course from new images to where it ends or waits for good, with
what every deed on the way does to every image.

A request is noted down before it is made and again when it is answered. One that registers
something is a single deed with its note, since it has its turn in the registry by then. A strict
program does not go on from a category or a module that has been refused.
-/

namespace LateBinding

/-- The request that has just been noted down is noted down in the last place, for good. -/
theorem Session.requested?_of_later [NameHash] {session after : Session} {id : ImageId}
    {asked : Request} (later : (session.note (.asked id asked)).notes <+: after.notes) :
    after.requested? session.notes.length = some asked := by
  obtain ⟨more, same⟩ := later
  have placed : after.notes[session.notes.length]? = some ⟨session.images, .asked id asked⟩ := by
    rw [← same, Session.note, List.append_assoc, List.getElem?_append_right (Nat.le_refl _),
      Nat.sub_self]
    rfl
  rw [requested?, placed]
  rfl

/-- A program that has been answered may go on unless categories have been refused. -/
theorem Session.not_refusesCategories [NameHash] {session after : Session} {id : ImageId}
    {asked : Request} (later : (session.note (.asked id asked)).notes <+: after.notes)
    {answer : Answer}
    (fair : (∃ error, answer = .refused error) → asked.newCategories = []) :
    ¬ after.RefusesCategories (.answered session.notes.length answer) := by
  rintro ⟨place, error, other, same, requested, some⟩
  cases same
  rw [requested?_of_later later, Option.some.injEq] at requested
  exact some (requested ▸ fair ⟨error, rfl⟩)

/-- A request that registers something is a change that is made inside the registry. -/
structure Request.Enters [NameHash] (asked : Request) (change : Change) {α : Type} (edits : Edit α)
    (answer : ImageId → α → Session → Answer) : Prop where
  request : change.request? = some asked
  makes : change.edit = edits >>= fun _ => pure ()
  permitted : ∀ image, change.Permitted image
  categories : asked.newCategories = change.categories
  succeeds : ∀ id value session error, answer id value session ≠ .refused error
  run : ∀ behaviour id, asked.run behaviour id = (do
    let result ← Act.inRegistry id (Act.editAndRun behaviour id edits)
    let session ← get
    return Act.answering result (answer id · session))
  /-- A change that ends a strict run when it is refused is refused for want of selectors. -/
  exhausted : ∀ {strict : Bool} {image : Image}, image.Sound strict → change.endsStrict = true →
    Outcome (edits { image }) (fun _ _ => True)
      fun failure _ => ∀ error, failure = .refused error → error = .outOfSelectors

/-- Registering a class is the edit of that name, and the answer shows the class. -/
theorem ClassDecl.enters [NameHash] (decl : ClassDecl) :
    (Request.registerClass decl).Enters (.registerClass decl) (Edit.registerClass decl)
      fun id target session => .classView (session.view ⟨id, ⟨target, .inst⟩⟩) where
  request := rfl
  makes := rfl
  permitted _ := trivial
  categories := rfl
  succeeds _ _ _ _ impossible := by cases impossible
  run _ _ := rfl
  exhausted _ impossible := by cases impossible

/-- Registering a category is the edit of that name, and the answer is the category. -/
theorem CategoryDecl.enters [NameHash] (decl : CategoryDecl) :
    (Request.registerCategory decl).Enters (.registerCategory decl) (Edit.insertCategory decl)
      fun _ category _ => .category category where
  request := rfl
  makes := rfl
  permitted _ := trivial
  categories := rfl
  succeeds _ _ _ _ impossible := by cases impossible
  run _ _ := rfl
  exhausted sound _ := by
    apply (Edit.insertCategory_outcome sound decl).mono (fun _ _ _ => trivial)
    rintro _ _ ⟨same | same, -⟩ error refused
    · cases same.symm.trans refused
      rfl
    · cases same.symm.trans refused

/-- Loading a module is the edit of that name, and the answer shows its classes. -/
theorem ModuleDecl.enters [NameHash] (decl : ModuleDecl) :
    (Request.loadModule decl).Enters (.loadModule decl) (Edit.loadModule decl)
      fun id targets session =>
        .classViews (targets.map fun target => session.view ⟨id, ⟨target, .inst⟩⟩) where
  request := rfl
  makes := rfl
  permitted _ := trivial
  categories := rfl
  succeeds _ _ _ _ impossible := by cases impossible
  run _ _ := rfl
  exhausted sound _ := (Edit.loadModule_outcome sound decl).mono (fun _ _ _ => trivial)
    fun _ _ given error refused => (given error refused).1

/-- A request that does not register anything brings no categories. -/
theorem Request.newCategories_eq_nil {asked : Request} (others : asked.registers = false) :
    asked.newCategories = [] := by
  cases asked with
  | registerClass | registerCategory | loadModule => cases others
  | _ => rfl

/-- Neither does a change of another kind. -/
theorem Change.categories_eq_nil {change : Change} (quiet : change.endsStrict = false) :
    change.categories = [] := by
  cases change with
  | registerCategory | loadModule => cases quiet
  | _ => rfl

namespace Act

open Session

variable [NameHash] {α : Type} {strict : Bool} {behaviour : Behaviour} {session : Session}

/-- Replacing a method takes a passage and leaves no hooks to call. -/
theorem replacing_records (id : ImageId) {target : ClassQuery} {query : SelectorQuery} {imp : Imp}
    (issued : (Request.replaceMethod target query imp).Issued) :
    Records strict ((Request.replaceMethod target query imp).run behaviour id) := by
  have composed : Composed (Records strict) := records_composed
  refine composed.withClass fun handle session sound held => ?_
  have replaced : ∀ selector, Gives query selector → Records strict (do
      return answering (← Act.replaceMethod id handle selector imp) .replaced) := by
    intro selector gives
    have fits : selector < SparseMap.capacity := by
      cases query with
      | number given => exact gives ▸ issued
      | intern _ _ => exact gives
    refine composed.bind (composed.replaceMethod fun session sound held => ?_) fun _ =>
      composed.pure _
    have permitted : (Change.replaceMethod handle.ref selector imp).Permitted (session.image id) :=
      fits
    apply (edit_recorded sound permitted rfl).mono
    · rintro result between ⟨made, refused, -⟩
      cases result with
      | error error => exact refused error rfl fun _ => rfl
      | ok value =>
        obtain ⟨ends, draft, ended, same⟩ := made value.1 value.2 rfl
        have outcome := @Edit.replaceMethod_outcome _ strict { image := session.image id }
          (sound.images id) handle.ref selector imp fits
        rw [ended] at outcome
        rw [← same, outcome.2.2] at ends
        exact ends
    · exact fun halt after other deadlocked => absurd deadlocked other
  simp only [withSelector, outcome_bind]
  cases query with
  | number given => exact replaced given rfl session sound held
  | intern id signature =>
    simp only [findSelector, outcome_bind]
    apply (intern_recorded sound id signature).mono
    · rintro result between ⟨ends, issued⟩
      cases result with
      | ok value =>
        have rest := carryOn ends
          (replaced value.1 (issued _ _ rfl) between ends.moves.sound (ends.held held))
          fun _ _ again => ends.trans again
        exact rest
      | error error => exact ends
    · exact fun halt after other deadlocked => absurd deadlocked other

/-- Every request that registers nothing takes a passage. -/
theorem other_records (records : behaviour.Records strict) (id : ImageId) {asked : Request}
    (issued : asked.Issued) (others : asked.registers = false) :
    Records strict (asked.run behaviour.noting id) := by
  have composed : Composed (Records strict) := records_composed
  cases asked.kind with
  | plain isPlain => exact composed.plainRequest isPlain
  | message given =>
    exact composed.messageRequest (fun made => call_records records) given
      (prepare_records records id) records.handler
  | replacing target query imp => exact replacing_records id issued
  | registering registers =>
    rw [others] at registers
    cases registers

/-- A request that registers nothing takes a passage with the notes on it. -/
theorem askingNow_records (records : behaviour.Records strict) (id : ImageId) {asked : Request}
    (issued : asked.Issued) (others : asked.registers = false) :
    Records strict (askingNow behaviour id asked) := by
  intro session sound held
  have asks : session.Ends strict [] [] (session.note (.asked id asked)) := by
    refine ⟨noted_passage sound ?_ ?_ (fun _ => rfl) [], rfl, rfl⟩
    · rintro _ _ ⟨rfl⟩
      exact others
    · rintro - ⟨_, _, _, impossible, -⟩
      cases impossible
  simp only [askingNow, outcome_bind, outcome_get, outcome_pure]
  apply carryOn asks (other_records records id issued others _ asks.moves.sound held)
  intro answer after ends
  have both := asks.trans ends
  have silent := Request.newCategories_eq_nil others
  have answers : after.Ends strict [] [] (after.note (.answered session.notes.length answer)) := by
    refine ⟨noted_passage ends.moves.sound (fun _ _ impossible => by cases impossible) (fun _ => ?_)
      (fun _ => rfl) [], rfl, rfl⟩
    exact not_refusesCategories ends.moves.follows.notes fun _ => silent
  exact both.trans answers

/-- The change of a request that registers something is made in the registry and noted down. -/
theorem inRegistry_recorded (records : behaviour.Records strict) (sound : session.Sound strict)
    (held : session.Held) {id : ImageId} (opened : session.isShut id = false) {change : Change}
    {asked : Request} {edits : Edit α} {answer : ImageId → α → Session → Answer}
    (enters : asked.Enters change edits answer) :
    Outcome (inRegistry id (editAndRun behaviour.noting id edits) (session.note (.asked id asked)))
      (fun result after =>
        ((∀ error, result = .error error → strict = true → change.endsStrict = false) →
          session.Ends strict [] [] after) ∧
        (session.note (.asked id asked)).notes <+: after.notes ∧
        ∀ error, result = .error error → change.endsStrict = true → error = .outOfSelectors)
      (fun halt after => halt = .deadlocked → session.Waits strict [] after) := by
  have still : (session.note (.asked id asked)).isShut id = false := opened
  rw [outcome_inRegistry, if_neg (Bool.eq_false_iff.mp still)]
  let inside : Session := { session with entered := (id, session.thread) :: session.entered }
  have moves : session.Moves strict inside := .of_same sound rfl rfl
  have noted : inside.announce id change = inside.note (.asked id asked) := by
    unfold announce
    rw [enters.request]
  have recorded := editAndRun_recorded records moves.sound (held.enter id)
    (enters.permitted (inside.image id)) enters.makes
  rw [noted] at recorded
  have refusal : Outcome (editAndRun behaviour.noting id edits (inside.note (.asked id asked)))
      (fun result _ => ∀ error, result = .error error → change.endsStrict = true →
        error = .outOfSelectors) (fun _ _ => True) := by
    simp only [editAndRun, outcome_bind]
    by_cases decisive : change.endsStrict = true
    · apply (@edit_outcome _ _ (inside.note (.asked id asked)) _ _ _ _
        (enters.exhausted (sound.images id) decisive)).mono
      · rintro result between ⟨draft, -, given⟩
        cases result with
        | error error =>
          rintro _ ⟨rfl⟩ -
          exact given error rfl
        | ok value =>
          simp only [outcome_bind, outcome_pure]
          exact (outcome_any _).mono (fun _ _ _ _ impossible => by cases impossible)
            fun _ _ _ => trivial
      · exact fun _ _ _ => trivial
    · refine (outcome_any _).mono (fun result between _ => ?_) fun _ _ _ => trivial
      exact (outcome_any _).mono (fun _ _ _ _ _ other => absurd other decisive)
        fun _ _ _ => trivial
  apply (recorded.and refusal).mono
  · rintro result after ⟨⟨ends, notes⟩, exhausted⟩
    refine ⟨fun goesOn => ?_, notes, exhausted⟩
    exact (ends goesOn).enclosed sound rfl rfl rfl rfl rfl rfl (ends goesOn).thread rfl
  · rintro halt after ⟨waits, -⟩
    exact passing_waits (fun _ => by trivial) halt after
      fun deadlocked => (waits deadlocked).enclosed sound rfl rfl rfl

/-- A request that registers something takes a passage with the notes on it, unless it ends a
    strict run. -/
theorem askingNow_recorded (records : behaviour.Records strict) (sound : session.Sound strict)
    (held : session.Held) {id : ImageId} (opened : session.isShut id = false) {asked : Request}
    (registers : asked.registers = true) :
    Outcome (askingNow behaviour id asked session)
      (fun answer after => (strict = true → answer ≠ .refused .outOfSelectors) →
        session.Ends strict [] [] after)
      (fun halt after => halt = .deadlocked → session.Waits strict [] after) := by
  obtain ⟨change, α, edits, answer, enters⟩ : ∃ (change : Change) (α : Type) (edits : Edit α)
      (answer : ImageId → α → Session → Answer), asked.Enters change edits answer := by
    cases asked with
    | registerClass decl => exact ⟨_, _, _, _, decl.enters⟩
    | registerCategory decl => exact ⟨_, _, _, _, decl.enters⟩
    | loadModule decl => exact ⟨_, _, _, _, decl.enters⟩
    | _ => cases registers
  simp only [askingNow, outcome_bind, outcome_get, outcome_pure, enters.run]
  apply (inRegistry_recorded records sound held opened enters).imp
  rintro result after ⟨ends, notes, exhausted⟩ goesOn
  have heeded : ∀ error, result = .error error → strict = true → change.endsStrict = false := by
    rintro error rfl isStrict
    by_contra decisive
    rw [Bool.not_eq_false] at decisive
    cases exhausted error rfl decisive
    exact goesOn isStrict rfl
  have both := ends heeded
  have answers : after.Ends strict [] [] (after.note (.answered session.notes.length
      (answering result (answer id · after)))) := by
    refine ⟨noted_passage both.moves.sound (fun _ _ impossible => by cases impossible)
      (fun isStrict => not_refusesCategories notes ?_) (fun _ => rfl) [], rfl, rfl⟩
    rintro ⟨error, refused⟩
    cases result with
    | ok value => exact absurd refused (enters.succeeds id value after error)
    | error other =>
      rw [enters.categories, Change.categories_eq_nil (heeded other rfl isStrict)]
  exact both.trans answers

/-- A strict program does not go on from a category or a module that was refused for want of
    selectors. -/
theorem request_records (records : behaviour.Records strict) (id : ImageId) (asked : Request)
    (issued : asked.Issued) : Records strict (insist strict (asking behaviour id asked)) := by
  intro session sound held
  have made : Outcome (asking behaviour id asked session)
      (fun answer after => (strict = true → answer ≠ .refused .outOfSelectors) →
        session.Ends strict [] [] after)
      (fun halt after => halt = .deadlocked → session.Waits strict [] after) := by
    unfold asking
    split
    · rename_i registers
      simp only [outcome_bind, outcome_awaitRegistry]
      split
      · exact fun _ => .refl sound
      · rename_i opened
        exact askingNow_recorded records sound held (Bool.eq_false_iff.mpr opened) registers
    · rename_i others
      refine (askingNow_records records id issued (Bool.eq_false_iff.mpr others) session sound
        held).imp fun _ _ ends _ => ends
  simp only [insist, outcome_bind]
  apply made.imp
  intro answer after ends
  split
  · split
    · exact fun impossible => by cases impossible
    · rename_i lenient
      exact ends fun isStrict => absurd isStrict lenient
  · rename_i other
    exact ends fun _ => other

/-- Every program takes a passage. -/
theorem Public.records {program : Act α} (isPublic : program.Public strict) :
    Records strict program := by
  have composed : Composed (Records strict) := records_composed
  induction isPublic with
  | done value => exact .pure value
  | stop halt => exact .throw halt
  | next _ _ begun continued => exact begun.bind continued
  | look => exact .get
  | note =>
    intro session sound _
    refine ⟨noted_passage sound (fun _ _ impossible => by cases impossible) ?_ (fun _ => rfl) [],
      rfl, rfl⟩
    rintro - ⟨_, _, _, impossible, -⟩
    cases impossible
  | request id asked issued bodies handlers bodiesRecord handlersRecord =>
    exact request_records ⟨⟨fun call => (bodies call).keeps, fun id handle selector =>
      (handlers id handle selector).keeps⟩, bodiesRecord, handlersRecord⟩ id asked issued
  | inSection id object _ inside => exact composed.inSection id object inside
  | setForward behaviour id imp actions again =>
    exact composed.setForward behaviour id imp actions again

end Act

namespace Session

variable [NameHash]

/-- A run of a program that starts with new images. It has come to its end, or waits for
    good. -/
def Ran (strict : Bool) (first : Session) (ended : Bool) (last : Session) : Prop :=
  ∃ threshold configs, start threshold configs = .ok first ∧
    ∃ (α : Type) (program : Act α), program.Public strict ∧
      if ended then ∃ value, program first = .ok value last
      else program first = .error .deadlocked last

/-- New images have no classes, nothing has been called or noted, and no registry is entered. -/
structure Blank (session : Session) : Prop where
  registry : ∀ id, (session.image id).registry = .empty
  calls : session.calls = []
  notes : session.notes = []
  entered : session.entered = []

/-- Nobody has done anything yet when a session starts. -/
theorem start_blank {threshold : Log.Level} {configs : List Config} {first : Session}
    (started : start threshold configs = .ok first) : first.Blank := by
  have rest : first.calls = [] ∧ first.notes = [] ∧ first.entered = [] := by
    refine @start_induction _ (fun session => session.calls = [] ∧ session.notes = [] ∧
      session.entered = []) (fun _ => ⟨rfl, rfl, rfl⟩) ?_ threshold configs first started
    rintro session after config added ⟨silent, unnoted, outside⟩
    obtain ⟨image, reports, threshold, -, -, events, notes, entered⟩ := addImage_cases added
    refine ⟨?_, notes.trans unnoted, entered.trans outside⟩
    rw [calls, events, List.filterMap_append, call?_admitted, List.append_nil]
    exact silent
  exact ⟨start_registry started, rest.1, rest.2.1, rest.2.2⟩

/-- No class is marked yet. -/
theorem Blank.held {session : Session} (blank : session.Blank) : session.Held := by
  intro id target thread marked
  rw [MarkedBy, blank.registry, Registry.entry_of_size_le _ (Nat.zero_le target)] at marked
  cases marked

variable {strict ended : Bool} {first last : Session}

/-- A run starts from a session that is in order. -/
theorem Ran.sound (ran : first.Ran strict ended last) :
    first.Sound strict := by
  obtain ⟨threshold, configs, started, -⟩ := ran
  exact start_sound started

/-- And from one in which nothing has been done. -/
theorem Ran.blank (ran : first.Ran strict ended last) : first.Blank := by
  obtain ⟨threshold, configs, started, -⟩ := ran
  exact start_blank started

/-- What is running at the end of a course from new images is running in the session. -/
theorem Course.running_eq {course : List Moment} (run : first.Course strict course last)
    (blank : first.Blank) : Course.running course [] = last.running := by
  rw [Session.running, run.noted, blank.notes, List.nil_append]
  rfl

/-- A run is a passage from new images, by which nothing is running at its end, and nothing is due
    where no hook is running. -/
theorem Ran.history (ran : first.Ran strict ended last) :
    ∃ course due, first.Passage strict [] course last.running due last ∧
      (last.Hookless → due = []) ∧ (ended = true → last.running = []) := by
  have blank := ran.blank
  obtain ⟨threshold, configs, started, α, program, isPublic, result⟩ := ran
  have outcome := isPublic.records first (start_sound started) blank.held
  have stacked : ∀ {course running due}, first.Passage strict [] course running due last →
      running = last.running := by
    intro course running due passage
    rw [← passage.run.running_eq blank, passage.stack, List.append_nil]
  cases ended with
  | true =>
    obtain ⟨value, returned⟩ := result
    rw [returned] at outcome
    obtain ⟨course, passage⟩ := outcome.passage
    have same := stacked passage
    exact ⟨course, [], same ▸ passage, fun _ => rfl, fun _ => same.symm⟩
  | false =>
    have waits : program first = .error .deadlocked last := result
    rw [waits] at outcome
    obtain ⟨course, running, due, passage, inside⟩ := outcome rfl
    obtain rfl := stacked passage
    refine ⟨course, due, passage, fun hookless => ?_, fun impossible => by cases impossible⟩
    by_contra more
    obtain ⟨call, member, hook⟩ := inside more
    exact hook (hookless call member)

/-- There is a course from new images to whatever can be observed. -/
theorem Observed.course (observed : last.Observed strict) :
    ∃ threshold configs first course, start threshold configs = .ok first ∧
      (∀ id, (first.image id).Sound strict) ∧ first.Course strict course last := by
  obtain ⟨threshold, configs, first, started, α, program, isPublic, result⟩ := observed
  have ran : ∃ ended, first.Ran strict ended last := by
    rcases result with returned | waits
    · exact ⟨true, threshold, configs, started, α, program, isPublic, returned⟩
    · exact ⟨false, threshold, configs, started, α, program, isPublic, waits⟩
  obtain ⟨ended, isRun⟩ := ran
  obtain ⟨course, due, passage, -⟩ := isRun.history
  exact ⟨threshold, configs, first, course, started, isRun.sound.images, passage.run⟩

/-- No class that waits is linked at a point that can be observed. -/
theorem Observed.loose (observed : last.Observed strict) (id : ImageId) :
    (last.image id).registry.Loose := by
  obtain ⟨threshold, configs, first, course, started, sound, run⟩ := observed.course
  refine (run.keeps sound (fun session => (session.image id).registry.Loose) ?_ ?_).2
  · intro moment regular loose
    by_cases inside : id < moment.before.images.size
    · exact (regular.lives id inside).loose (regular.sound id).registry loose
    · rw [regular.image_of_size_le (Nat.le_of_not_lt inside)]
      exact loose
  · rw [start_registry started id]
    intro target _
    exact congrArg ClassEntry.superclass (Registry.entry_of_size_le _ (Nat.zero_le target))

end Session

/-- A program that is computed is a run. -/
theorem Act.Public.exists_ran [NameHash] {α : Type} {strict : Bool} {program : Act α}
    (isPublic : program.Public strict) (threshold : Log.Level) (configs : List Config)
    (check : Session → Bool) (reached : reaches threshold configs program check = true) :
    ∃ first last : Session, first.Ran strict true last ∧ check last = true := by
  obtain ⟨first, value, last, started, returned, checked⟩ := exists_of_reaches reached
  exact ⟨first, last, ⟨threshold, configs, started, α, program, isPublic, value, returned⟩, checked⟩

end LateBinding
