import LateBinding.Proofs.Courses

/-!
# Passages

A passage is a stretch of a run: a course, with the calls it leaves running and an account of
hooks. What becomes due is put before what was due, and only the first that is due is called.
So whatever was owed at its start or became due on the way has been called or is still due. A
passage that comes to its end leaves nothing running, nothing due and no class marked that was
not marked before, on the thread that it started on and inside no registry that it has entered;
one that waits for good does so inside a call, and is inside a hook if anything is still due.

Passages follow one another and nest. A call and its return enclose the passage that its
implementation takes, and so do the two marks of a class around its `initialize`.

A class is marked by the thread that prepares it, which is inside the registry meanwhile. So
whoever gets into a registry finds no class that another thread has marked.
-/

namespace LateBinding

namespace Course

variable [NameHash]

/-- What is due at the start of a course and at its end. The hook that a deed calls was the first
    of those due, and what a deed makes due comes before the others. -/
inductive Serves : List Call → List Moment → List Call → Prop
  | done (due : List Call) : Serves due [] due
  | next {moment : Moment} {rest : List Moment} {due later : List Call}
      (others : Serves (moment.queued ++ due) rest later) :
      Serves (moment.loads ++ due) (moment :: rest) later

namespace Serves

variable {owed due later : List Call} {course others : List Moment}

/-- What is served one part after the other is served in order. -/
theorem append (begun : Serves owed course due) (ended : Serves due others later) :
    Serves owed (course ++ others) later := by
  induction begun with
  | done due => exact ended
  | next _ inductionHypothesis => exact .next (inductionHypothesis ended)

/-- What is owed beyond what a course deals with is due after it. -/
theorem frame (serves : Serves owed course due) (extra : List Call) :
    Serves (owed ++ extra) course (due ++ extra) := by
  induction serves with
  | done due => exact .done _
  | next _ inductionHypothesis =>
    rw [List.append_assoc] at inductionHypothesis ⊢
    exact .next inductionHypothesis

/-- A deed that neither calls a hook nor makes one due. -/
theorem quiet {moment : Moment} (silent : moment.loads = []) (nothing : moment.queued = [])
    (rest : Serves owed course due) : Serves owed (moment :: course) due := by
  have serves : Serves (moment.loads ++ owed) (moment :: course) due :=
    .next (by rwa [nothing, List.nil_append])
  rwa [silent, List.nil_append] at serves

/-- What was owed or became due has been called or is still due. -/
theorem balance (serves : Serves owed course due) (call : Call) :
    owed.count call + (course.flatMap Moment.queued).count call =
      (course.flatMap Moment.loads).count call + due.count call := by
  induction serves with
  | done due => simp
  | next _ inductionHypothesis =>
    simp only [List.flatMap_cons, List.count_append] at inductionHypothesis ⊢
    omega

end Serves

end Course

namespace Session

variable [NameHash]

/-- A class is marked as being prepared. -/
def Marked (session : Session) (id : ImageId) (target : ClassId) : Prop :=
  ((session.image id).registry.entry target).initializing.isSome = true

/-- A class is marked as being prepared by a thread. -/
def MarkedBy (session : Session) (id : ImageId) (target : ClassId) (thread : Thread) : Prop :=
  ((session.image id).registry.entry target).initializing = some thread

/-- Every thread that has marked a class is inside the registry. -/
def Held (session : Session) : Prop :=
  ∀ id target thread, session.MarkedBy id target thread → (id, thread) ∈ session.entered

/-- A class is marked if some thread has marked it. -/
theorem marked_iff {session : Session} {id : ImageId} {target : ClassId} :
    session.Marked id target ↔ ∃ thread, session.MarkedBy id target thread :=
  Option.isSome_iff_exists

/-- Whoever gets into a registry finds no marks there but those of the thread itself. -/
theorem Held.markedBy {session : Session} (held : session.Held) {id : ImageId} {target : ClassId}
    {thread : Thread} (marked : session.MarkedBy id target thread)
    (opened : session.isShut id = false) : thread = session.thread := by
  by_contra other
  have shut : session.isShut id = true :=
    List.any_eq_true.mpr ⟨_, held id target thread marked, by simpa using other⟩
  rw [opened] at shut
  cases shut

/-- A stretch of a run, from a point where calls are owed to a point where calls are running
    and due. -/
structure Passage (strict : Bool) (owed : List Call) (first : Session) (course : List Moment)
    (running due : List Call) (last : Session) : Prop where
  moves : first.Moves strict last
  run : first.Course strict course last
  stack : ∀ calls, Course.running course calls = running ++ calls
  serves : Course.Serves owed course due
  /-- Marks stay, and new ones belong to calls that are running. -/
  kept : ∀ id target thread, first.MarkedBy id target thread → last.MarkedBy id target thread
  marks : ∀ id target thread, last.MarkedBy id target thread →
    first.MarkedBy id target thread ∨
      ∃ call ∈ running, call.purpose = .init ∧ call.receiver = some ⟨id, ⟨target, .inst⟩⟩

variable {strict : Bool} {first between last : Session} {owed due later running : List Call}
  {course others : List Moment}

/-- Where nothing happens nothing is made due and nothing is called. -/
theorem Passage.refl (sound : first.Sound strict) (owed : List Call) :
    first.Passage strict owed [] [] owed first where
  moves := .refl sound
  run := .done first
  stack _ := rfl
  serves := .done owed
  kept _ _ _ marked := marked
  marks _ _ _ marked := .inl marked

/-- Calls open and close along one course and then along the next. -/
theorem running_append (course others : List Moment) (calls : List Call) :
    Course.running (course ++ others) calls =
      Course.running others (Course.running course calls) := by
  rw [Course.running, Course.notes, List.flatMap_append, List.foldl_append]
  rfl

/-- So they do at a moment and then along the rest. -/
theorem running_cons (moment : Moment) (course : List Moment) (calls : List Call) :
    Course.running (moment :: course) calls =
      Course.running course (Course.running [moment] calls) :=
  running_append [moment] course calls

/-- A passage and one that goes on where it ends are one passage. -/
theorem Passage.trans (begun : first.Passage strict owed course [] due between)
    (ended : between.Passage strict due others running later last) :
    first.Passage strict owed (course ++ others) running later last where
  moves := begun.moves.trans ended.moves
  run := begun.run.append ended.run
  stack calls := by
    rw [running_append, begun.stack]
    exact ended.stack calls
  serves := begun.serves.append ended.serves
  kept id target thread marked := ended.kept id target thread (begun.kept id target thread marked)
  marks id target thread marked := by
    rcases ended.marks id target thread marked with before | inside
    · rcases begun.marks id target thread before with start | ⟨call, impossible, -⟩
      · exact .inl start
      · cases impossible
    · exact .inr inside

/-- What is owed beyond what a passage deals with is still due afterwards. -/
theorem Passage.frame (passage : first.Passage strict owed course running due last)
    (extra : List Call) :
    first.Passage strict (owed ++ extra) course running (due ++ extra) last where
  moves := passage.moves
  run := passage.run
  stack := passage.stack
  serves := passage.serves.frame extra
  kept := passage.kept
  marks := passage.marks

end Session

/-- Whether a deed marks a class in another way. -/
def Deed.isMark : Deed → Bool
  | .began _ _ _ => true
  | .finished _ _ => true
  | _ => false

namespace Moment

variable [NameHash] {strict : Bool}

/-- A deed that is no mark leaves marks as they are. -/
theorem Regular.marked {moment : Moment} (regular : moment.Regular strict)
    (noMark : moment.deed.isMark = false) (id : ImageId) (target : ClassId) (thread : Thread) :
    moment.after.MarkedBy id target thread ↔ moment.before.MarkedBy id target thread := by
  unfold Session.MarkedBy
  by_cases inside : id < moment.before.images.size
  · rcases (regular.lives id inside).marks with
      ⟨same, -⟩ | ⟨other, call, thread, deed, -⟩ | ⟨other, deed, -⟩
    · rw [same.initializing]
    · rw [deed] at noMark
      cases noMark
    · rw [deed] at noMark
      cases noMark
  · rw [regular.image_of_size_le (Nat.le_of_not_lt inside)]

end Moment

namespace Session

variable [NameHash] {strict : Bool} {first between last : Session} {owed due running : List Call}
  {course : List Moment}

/-- A deed that is neither a mark nor a call nor a remark on one is a passage. -/
theorem Passage.single {deed : Deed} (does : first.Does strict deed last)
    (sound : first.Sound strict) (moves : first.Moves strict last) (noMark : deed.isMark = false)
    (silent : deed.calls = [])
    (still : ∀ remark ∈ deed.remarks, ∀ calls, remark.running calls = calls) (owed : List Call) :
    first.Passage strict owed [⟨first, deed, last⟩] []
      (Moment.queued ⟨first, deed, last⟩ ++ owed) last where
  moves := moves
  run := .next does (.done last)
  stack calls := by
    have unmoved : ∀ remarks : List Remark,
        (∀ remark ∈ remarks, ∀ calls, remark.running calls = calls) →
        (remarks.map (Note.mk first.images)).foldl (fun calls note => note.remark.running calls)
          calls = calls := by
      intro remarks quiet
      induction remarks with
      | nil => rfl
      | cons remark rest inductionHypothesis =>
        rw [List.map_cons, List.foldl_cons, quiet remark List.mem_cons_self]
        exact inductionHypothesis fun other member => quiet other (List.mem_cons_of_mem _ member)
    rw [Course.running, Course.notes, List.flatMap_singleton]
    exact unmoved deed.remarks still
  serves := by
    have serves : Course.Serves (Moment.loads ⟨first, deed, last⟩ ++ owed) _ _ := .next (.done _)
    rwa [Moment.loads, silent, List.filter_nil, List.nil_append] at serves
  kept id target thread := ((does.regular sound.images).1.marked noMark id target thread).mpr
  marks id target thread marked :=
    .inl (((does.regular sound.images).1.marked noMark id target thread).mp marked)

/-- Resting is a passage. -/
theorem Rests.passage (rests : first.Rests last) (moves : first.Moves strict last)
    (sound : first.Sound strict) (owed : List Call) :
    first.Passage strict owed [⟨first, .rested, last⟩] [] owed last := by
  have passage := Passage.single (.rested rests) sound moves rfl rfl
    (fun _ impossible => by cases impossible) owed
  rwa [Moment.queued, List.nil_append] at passage

/-- A remark on a request or an answer is a passage. -/
theorem noted_passage (sound : first.Sound strict) {remark : Remark}
    (plain : ∀ id asked, remark = .asked id asked → asked.registers = false)
    (goesOn : strict = true → ¬ first.RefusesCategories remark)
    (still : ∀ calls, remark.running calls = calls) (owed : List Call) :
    ∃ course, first.Passage strict owed course [] owed (first.note remark) := by
  have passage := Passage.single (.noted plain goesOn) sound (.note sound remark) rfl rfl
    (fun _ member => List.mem_singleton.mp member ▸ still) owed
  rw [Moment.queued, List.nil_append] at passage
  exact ⟨_, passage⟩

omit [NameHash] in
/-- What is noted before a change is neither a call nor a return. -/
theorem running_request (id : ImageId) (change : Change) :
    ∀ remark ∈ (change.request?.map (Remark.asked id)).toList,
      ∀ calls, remark.running calls = calls := by
  intro remark member calls
  rw [Option.mem_toList, Option.map_eq_some_iff] at member
  obtain ⟨asked, -, rfl⟩ := member
  rfl

/-- Announcing a change moves no image. -/
theorem Moves.announce (sound : first.Sound strict) (id : ImageId) (change : Change) :
    first.Moves strict (first.announce id change) := by
  unfold Session.announce
  split
  · exact .note sound _
  · exact .refl sound

/-- Every image is as it was. -/
theorem image_announce (session : Session) (id : ImageId) (change : Change) (other : ImageId) :
    (session.announce id change).image other = session.image other :=
  Moment.image_congr (images_announce session id change) other

/-- A change that is made is a passage, after which its hooks are due. -/
theorem changed_passage (sound : first.Sound strict) {id : ImageId} {change : Change}
    {draft : Draft} (permitted : change.Permitted (first.image id))
    (edited : change.edit { image := first.image id } = .ok () draft) :
    ∃ course, first.Passage strict [] course []
      (draft.hooks.map (·.call id (first.image id).loadSelector))
      ((first.announce id change).adopt id draft) := by
  have makes := Change.makes (sound.images id) permitted
  rw [Change.Makes, edited] at makes
  obtain ⟨kept, -⟩ := makes
  have announced := Moves.announce sound id change
  rw [← image_announce first id change] at kept
  have moves := announced.trans (.adopt announced.sound kept)
  have passage := Passage.single (.changed permitted edited) sound moves rfl rfl
    (running_request id change) []
  rw [Moment.queued, List.append_nil] at passage
  exact ⟨_, passage⟩

/-- A change that is refused is a passage. -/
theorem refused_passage (sound : first.Sound strict) {id : ImageId} {change : Change}
    {error : Error} {draft : Draft} (permitted : change.Permitted (first.image id))
    (goesOn : strict = true → change.endsStrict = false)
    (edited : change.edit { image := first.image id } = .error (.refused error) draft) :
    ∃ course, first.Passage strict [] course [] [] ((first.announce id change).adopt id draft) := by
  have makes := Change.makes (sound.images id) permitted
  rw [Change.Makes, edited] at makes
  obtain ⟨kept, -⟩ := makes error rfl goesOn
  have announced := Moves.announce sound id change
  rw [← image_announce first id change] at kept
  have moves := announced.trans (.adopt announced.sound kept)
  exact ⟨_, .single (.refused permitted goesOn edited) sound moves rfl rfl
    (running_request id change) []⟩

/-- The begin and the end of an implementation can be noted at any time. -/
theorem does_called (session : Session) (made : Call) :
    session.Does strict (.noted (.called made)) (session.note (.called made)) := by
  refine .noted (fun _ _ impossible => by cases impossible) fun _ refuses => ?_
  obtain ⟨place, error, asked, impossible, -⟩ := refuses
  cases impossible

/-- A call that returns is noted down. -/
theorem does_returned (session : Session) (made : Call) :
    session.Does strict (.noted (.returned made)) (session.note (.returned made)) := by
  refine .noted (fun _ _ impossible => by cases impossible) fun _ refuses => ?_
  obtain ⟨place, error, asked, impossible, -⟩ := refuses
  cases impossible

/-- A deed that makes a call opens a passage that the implementation goes on with. -/
theorem Passage.opening {deed : Deed} {made : Call} (does : first.Does strict deed between)
    (moves : first.Moves strict between)
    (calls : deed.calls = [made]) (silent : deed.remarks = [])
    (nothing : Moment.queued ⟨first, deed, between⟩ = [])
    (kept : ∀ id target thread, first.MarkedBy id target thread →
      between.MarkedBy id target thread)
    (marks : ∀ id target thread, between.MarkedBy id target thread →
      first.MarkedBy id target thread ∨
        made.purpose = .init ∧ made.receiver = some ⟨id, ⟨target, .inst⟩⟩)
    (body : (between.note (.called made)).Passage strict [] course running due last) :
    first.Passage strict ([made].filter Call.isLoad)
      (⟨first, deed, between⟩ ::
        ⟨between, .noted (.called made), between.note (.called made)⟩ :: course)
      (running ++ [made]) due last where
  moves := (moves.trans (.note moves.sound _)).trans body.moves
  run := .next does (.next (does_called between made) body.run)
  stack others := by
    have quiet : Course.running [⟨first, deed, between⟩] others = others := by
      rw [Course.running, Course.notes, List.flatMap_singleton, Moment.notes, silent]
      rfl
    rw [running_cons, running_cons _ course, quiet, List.append_assoc]
    exact body.stack (made :: others)
  serves := by
    have serves : Course.Serves (Moment.loads ⟨first, deed, between⟩ ++ [])
        (_ :: ⟨between, .noted (.called made), between.note (.called made)⟩ :: course) due :=
      .next (by rw [nothing]; exact .quiet rfl rfl body.serves)
    rwa [Moment.loads, calls, List.append_nil] at serves
  kept id target thread marked := body.kept id target thread (kept id target thread marked)
  marks id target thread marked := by
    rcases body.marks id target thread marked with before | ⟨call, inside, init⟩
    · rcases marks id target thread before with start | isMade
      · exact .inl start
      · exact .inr ⟨made, List.mem_append_right _ List.mem_cons_self, isMade⟩
    · exact .inr ⟨call, List.mem_append_left _ inside, init⟩

/-- A call opens a passage. -/
theorem Passage.opened {made : Call} (other : made.purpose ≠ .init)
    (becomes : first.Becomes first.images [made] between) (moves : first.Moves strict between)
    (sound : first.Sound strict)
    (body : (between.note (.called made)).Passage strict [] course running due last) :
    ∃ course, first.Passage strict ([made].filter Call.isLoad) course (running ++ [made]) due
      last := by
  have does : first.Does strict (.called made) between := .called other becomes
  have regular := (does.regular sound.images).1
  exact ⟨_, .opening does moves rfl rfl rfl
    (fun id target thread => (regular.marked rfl id target thread).mpr)
    (fun id target thread marked => .inl ((regular.marked rfl id target thread).mp marked)) body⟩

/-- An implementation that returns ends the passage of its call. -/
theorem Passage.closed {made : Call} (other : made.purpose ≠ .init)
    (passage : first.Passage strict owed course [made] due last) :
    first.Passage strict owed
      (course ++ [⟨last, .noted (.returned made), last.note (.returned made)⟩]) [] due
      (last.note (.returned made)) where
  moves := passage.moves.trans (.note passage.moves.sound _)
  run := passage.run.append (.next (does_returned last made) (.done _))
  stack calls := by
    rw [running_append, passage.stack]
    rfl
  serves := passage.serves.append (.quiet rfl rfl (.done due))
  kept := passage.kept
  marks id target thread marked := by
    rcases passage.marks id target thread marked with before | ⟨call, inside, init, -⟩
    · exact .inl before
    · exact absurd (List.mem_singleton.mp inside ▸ init) other

/-- Marking a class changes the mark of that class alone. -/
theorem markedBy_mark {after : Session} {id : ImageId} {target : ClassId}
    (change : ClassEntry → ClassEntry)
    (images : after.images = (first.mark id (·.modify target change)).images)
    (inside : target < (first.image id).registry.size) (other : ImageId) (otherTarget : ClassId)
    (thread : Thread) : after.MarkedBy other otherTarget thread ↔
      if id = other ∧ target = otherTarget then
        (change ((first.image id).registry.entry target)).initializing = some thread
      else first.MarkedBy other otherTarget thread := by
  unfold MarkedBy
  rw [Moment.image_congr images, mark, image_setImage]
  by_cases sameImage : id = other
  · subst sameImage
    rw [if_pos ⟨rfl, Act.image_lt_of_class_lt inside⟩]
    by_cases same : target = otherTarget
    · subst same
      rw [if_pos ⟨rfl, rfl⟩, Registry.entry_modify_same _ _ inside]
    · rw [if_neg fun both => same both.2, Registry.entry_modify_of_ne _ _ same]
  · rw [if_neg fun both => sameImage both.1, if_neg fun both => sameImage both.1]

section

variable {id : ImageId} {target : ClassId}

/-- A class that is marked is there. -/
theorem MarkedBy.inside {thread : Thread} (marked : first.MarkedBy id target thread) :
    target < (first.image id).registry.size := by
  by_contra outside
  rw [MarkedBy, Registry.entry_of_size_le _ (Nat.le_of_not_lt outside)] at marked
  cases marked

/-- The first mark of a class. -/
theorem began_markedBy (inside : target < (first.image id).registry.size)
    (unmarked : ((first.image id).registry.entry target).initializing = none) {made : List Call}
    (becomes : first.Becomes (first.mark id (·.beginInit target first.thread)).images made between)
    (other : ImageId) (otherTarget : ClassId) (thread : Thread) :
    between.MarkedBy other otherTarget thread ↔ first.MarkedBy other otherTarget thread ∨
      (id = other ∧ target = otherTarget) ∧ thread = first.thread := by
  rw [markedBy_mark (fun entry => { entry with initializing := some first.thread }) becomes.images
    inside]
  split
  · rename_i same
    obtain ⟨rfl, rfl⟩ := same
    rw [MarkedBy, unmarked]
    constructor
    · rintro ⟨rfl⟩
      exact .inr ⟨⟨rfl, rfl⟩, rfl⟩
    · rintro (impossible | ⟨-, rfl⟩)
      · cases impossible
      · rfl
  · rename_i different
    exact ⟨.inl, fun either => either.resolve_right fun both => different both.1⟩

/-- The second mark of a class. -/
theorem finished_markedBy (inside : target < (first.image id).registry.size)
    (becomes : first.Becomes (first.mark id (·.endInit target)).images [] last)
    (other : ImageId) (otherTarget : ClassId) (thread : Thread) :
    last.MarkedBy other otherTarget thread ↔
      first.MarkedBy other otherTarget thread ∧ ¬ (id = other ∧ target = otherTarget) := by
  rw [markedBy_mark (fun entry => { entry.advance .initialized with initializing := none })
    becomes.images inside]
  split
  · rename_i same
    exact ⟨fun impossible => (by cases impossible), fun both => absurd same both.2⟩
  · rename_i different
    exact ⟨fun before => ⟨before, different⟩, And.left⟩

/-- The call that prepares a class is made for that, on the class. -/
theorem initCall_eq_some {made : Call} (given : first.initCall id target = some made) :
    made.purpose = .init ∧ made.receiver = some ⟨id, ⟨target, .inst⟩⟩ := by
  obtain ⟨imp, -, rfl⟩ := Option.map_eq_some_iff.mp given
  exact ⟨rfl, rfl⟩

/-- A class that is ready is there. -/
theorem ready_inside (sound : first.Sound strict)
    (ready : (first.image id).registry.Ready target) : target < (first.image id).registry.size :=
  Registry.lt_size_of_reached ((sound.images id).registry.tabled.loaded _ (ready.tabled .inst))

/-- The `initialize` of a class opens a passage. -/
theorem initialize_opened (sound : first.Sound strict)
    (ready : (first.image id).registry.Ready target) {made : Call}
    (given : first.initCall id target = some made)
    (becomes :
      first.Becomes (first.mark id (·.beginInit target first.thread)).images [made] between)
    (moves : first.Moves strict between)
    (body : (between.note (.called made)).Passage strict [] course running due last) :
    ∃ course, first.Passage strict [] course (running ++ [made]) due last := by
  obtain ⟨init, receiver⟩ := initCall_eq_some given
  have marks := began_markedBy (ready_inside sound ready) ready.unmarked becomes
  have toList : (first.initCall id target).toList = [made] := by rw [given]; rfl
  rw [← toList] at becomes
  have does : first.Does strict _ between := .began ready becomes
  rw [given] at does
  have passage := Passage.opening does moves rfl rfl rfl
    (fun other otherTarget thread marked => (marks other otherTarget thread).mpr (.inl marked)) ?_
    body
  · have silent : made.isLoad = false := by rw [Call.isLoad, init]
    rw [List.filter_cons_of_neg (by simp [silent]), List.filter_nil] at passage
    exact ⟨_, passage⟩
  · intro other otherTarget thread marked
    rcases (marks other otherTarget thread).mp marked with before | ⟨⟨rfl, rfl⟩, -⟩
    · exact .inl before
    · exact .inr ⟨init, receiver⟩

/-- The passage of an `initialize` ends when it returns and its class is marked. -/
theorem initialize_closed (ready : (first.image id).registry.Ready target) {made : Call}
    (given : first.initCall id target = some made)
    (passage : first.Passage strict [] course [made] due between)
    (marked : between.MarkedBy id target first.thread)
    (becomes : (between.note (.returned made)).Becomes
      ((between.note (.returned made)).mark id (·.endInit target)).images [] last)
    (moves : (between.note (.returned made)).Moves strict last) :
    ∃ course, first.Passage strict [] course [] due last := by
  have marks := @finished_markedBy _ (between.note (.returned made)) _ _ _ marked.inside becomes
  obtain ⟨-, receiver⟩ := initCall_eq_some given
  have isMarked : (between.note (.returned made)).Marked id target :=
    marked_iff.mpr ⟨_, marked⟩
  have ended : between.Course strict
      [⟨between, .noted (.returned made), between.note (.returned made)⟩,
        ⟨between.note (.returned made), .finished id target, last⟩] last :=
    .next (does_returned between made) (.next (.finished isMarked becomes) (.done last))
  have noted := passage.moves.trans (.note passage.moves.sound (.returned made))
  refine ⟨_, noted.trans moves, passage.run.append ended, fun calls => ?_,
    passage.serves.append (.quiet rfl rfl (.quiet rfl rfl (.done due))),
    fun other otherTarget thread before => ?_, fun other otherTarget thread after => ?_⟩
  · rw [running_append, passage.stack]
    rfl
  · refine (marks other otherTarget thread).mpr ⟨passage.kept other otherTarget thread before, ?_⟩
    rintro ⟨rfl, rfl⟩
    rw [MarkedBy, ready.unmarked] at before
    cases before
  · obtain ⟨before, different⟩ := (marks other otherTarget thread).mp after
    rcases passage.marks other otherTarget thread before with start | ⟨call, inside, -, isReceiver⟩
    · exact .inl start
    · rw [List.mem_singleton.mp inside, receiver, Option.some.injEq] at isReceiver
      cases isReceiver
      exact absurd ⟨rfl, rfl⟩ different

/-- A class without an `initialize` is marked twice. -/
theorem initialize_skipped (sound : first.Sound strict)
    (ready : (first.image id).registry.Ready target)
    (given : first.initCall id target = none)
    (becomes : first.Becomes (first.mark id (·.beginInit target first.thread)).images [] between)
    (moves : first.Moves strict between)
    (finishes : between.Becomes (between.mark id (·.endInit target)).images [] last)
    (further : between.Moves strict last) :
    ∃ course, first.Passage strict [] course [] [] last := by
  have marks := began_markedBy (ready_inside sound ready) ready.unmarked becomes
  have marked : between.MarkedBy id target first.thread :=
    (marks id target _).mpr (.inr ⟨⟨rfl, rfl⟩, rfl⟩)
  have marksAfter := finished_markedBy marked.inside finishes
  have toList : (first.initCall id target).toList = [] := by rw [given]; rfl
  rw [← toList] at becomes
  have does : first.Does strict _ between := .began ready becomes
  rw [given] at does
  refine ⟨_, moves.trans further,
    .next does (.next (.finished (marked_iff.mpr ⟨_, marked⟩) finishes) (.done last)), fun _ => rfl,
    .quiet rfl rfl (.quiet rfl rfl (.done [])), fun other otherTarget thread before => ?_,
    fun other otherTarget thread after => ?_⟩
  · refine (marksAfter other otherTarget thread).mpr
      ⟨(marks other otherTarget thread).mpr (.inl before), ?_⟩
    rintro ⟨rfl, rfl⟩
    rw [MarkedBy, ready.unmarked] at before
    cases before
  · obtain ⟨before, different⟩ := (marksAfter other otherTarget thread).mp after
    exact .inl (((marks other otherTarget thread).mp before).resolve_right
      fun both => different both.1)

end

/-- A run comes to a point where nothing is running and these calls are due, on the thread that it
    started on and inside the same registries. -/
structure Ends (strict : Bool) (owed : List Call) (first : Session) (due : List Call)
    (last : Session) : Prop where
  passage : ∃ course, first.Passage strict owed course [] due last
  thread : last.thread = first.thread
  entered : last.entered = first.entered

/-- A run waits for good. If calls are still due, it does so inside a hook. -/
def Waits (strict : Bool) (owed : List Call) (first last : Session) : Prop :=
  ∃ course running due, first.Passage strict owed course running due last ∧
    (due ≠ [] → ∃ call ∈ running, call.purpose ≠ .message)

/-- Where nothing happens, what is owed stays owed. -/
theorem Ends.refl (sound : first.Sound strict) (owed : List Call) :
    first.Ends strict owed owed first :=
  ⟨⟨[], .refl sound owed⟩, rfl, rfl⟩

/-- What ends has kept the session in order. -/
theorem Ends.moves (ends : first.Ends strict owed due last) : first.Moves strict last := by
  obtain ⟨course, passage⟩ := ends.passage
  exact passage.moves

/-- What ends twice in a row ends. -/
theorem Ends.trans {later : List Call} (begun : first.Ends strict owed due between)
    (ended : between.Ends strict due later last) : first.Ends strict owed later last := by
  obtain ⟨course, passage⟩ := begun.passage
  obtain ⟨others, further⟩ := ended.passage
  exact ⟨⟨_, passage.trans further⟩, ended.thread.trans begun.thread,
    ended.entered.trans begun.entered⟩

/-- What ends and then waits for good has waited for good. -/
theorem Ends.waits (begun : first.Ends strict owed due between)
    (waits : between.Waits strict due last) : first.Waits strict owed last := by
  obtain ⟨course, passage⟩ := begun.passage
  obtain ⟨others, running, later, further, inside⟩ := waits
  exact ⟨_, running, later, passage.trans further, inside⟩

/-- No class is marked at the end that was not marked before. -/
theorem Ends.markedBy (ends : first.Ends strict owed due last) {id : ImageId} {target : ClassId}
    {thread : Thread} (marked : last.MarkedBy id target thread) :
    first.MarkedBy id target thread := by
  obtain ⟨course, passage⟩ := ends.passage
  rcases passage.marks id target thread marked with before | ⟨call, impossible, -⟩
  · exact before
  · cases impossible

/-- Marks that are held are held at the end. -/
theorem Ends.held (ends : first.Ends strict owed due last) (held : first.Held) : last.Held := by
  intro id target thread marked
  rw [ends.entered]
  exact held id target thread (ends.markedBy marked)

/-- A registry that is open to the running thread stays open to it. -/
theorem Ends.isShut (ends : first.Ends strict owed due last) (id : ImageId) :
    last.isShut id = first.isShut id := by
  rw [Session.isShut, ends.entered, ends.thread, Session.isShut]

/-- The selector of hooks stays the same. -/
theorem Ends.loadSelector (ends : first.Ends strict owed due last) (sound : first.Sound strict)
    (id : ImageId) :
    (last.image id).loadSelector = (first.image id).loadSelector := by
  obtain ⟨course, passage⟩ := ends.passage
  exact (passage.run.reserved sound.images id).1

/-- What rests ends with what was owed before. -/
theorem Rests.ends (rests : first.Rests last) (moves : first.Moves strict last)
    (sound : first.Sound strict) (thread : last.thread = first.thread)
    (entered : last.entered = first.entered) (owed : List Call) :
    first.Ends strict owed owed last :=
  ⟨⟨_, rests.passage moves sound owed⟩, thread, entered⟩

/-- A session with the same images, calls and notes rests. -/
theorem Rests.of_same (images : last.images = first.images) (calls : last.calls = first.calls)
    (notes : last.notes = first.notes) : first.Rests last where
  count := by rw [images]
  images id := by
    rw [Moment.image_congr images]
    exact .refl _
  calls := calls
  notes := notes

end Session

end LateBinding
