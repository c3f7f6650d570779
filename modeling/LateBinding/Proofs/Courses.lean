import LateBinding.Proofs.DueHooks
import LateBinding.Proofs.Preparing

/-!
# The course of a run

A run is a sequence of deeds. A change is made to an image, or refused; a class is marked as
being prepared, and later as initialized; an implementation is called; something is noted down.
Between deeds a session may rest: its images stay as they are but for sections and the
choice to forward, and nothing is called or noted. A `Course` is such a sequence with the
sessions before and after each deed, where every deed does what the program does at that point.
It says what happened, in which order, and what was running when.

A program notes down every request when it makes it, every answer, and every call and return.
The notes of a course are those of the session that it leads to, with the images at the time. So
what a course says about requests is what the program has asked for: registering something
stands on it as one deed with the note of the request.

What is known of all deeds is known of a course. `Lives` says once what a deed can do to an
image, in terms of arrivals, raises and marks, and every statement about a whole run is a
sum of what it says about single deeds.
-/

namespace LateBinding

/-- A change that a program can ask an image for, by itself or on the way to a message. -/
inductive Change where
  | registerClass (decl : ClassDecl)
  | registerCategory (decl : CategoryDecl)
  | loadModule (decl : ModuleDecl)
  | intern (signature : Signature)
  | replaceMethod (ref : SideRef) (selector : Selector) (imp : Imp)
  | readyTables (target : ClassId)

namespace Change

variable [NameHash]

/-- The edit that makes a change. -/
def edit : Change → Edit Unit
  | .registerClass decl => do let _ ← Edit.registerClass decl
  | .registerCategory decl => do let _ ← Edit.insertCategory decl
  | .loadModule decl => do let _ ← Edit.loadModule decl
  | .intern signature => do let _ ← Edit.intern signature
  | .replaceMethod ref selector imp => do let _ ← Edit.replaceMethod ref selector imp
  | .readyTables target => Act.readyTables target

/-- What a program makes sure of before it makes a change. -/
def Permitted (image : Image) : Change → Prop
  | .replaceMethod _ selector _ => selector < SparseMap.capacity
  | .readyTables target => target < image.registry.size
  | _ => True

/-- Whether a strict run ends if a change is refused: it has run out of selectors then. -/
def endsStrict : Change → Bool
  | .registerCategory _ | .loadModule _ => true
  | _ => false

/-- The categories that a change registers, in order. -/
def categories : Change → List CategoryDecl
  | .registerCategory decl => [decl]
  | .loadModule decl => decl.categories
  | _ => []

/-- The request that makes a change, if the change registers something. -/
def request? : Change → Option Request
  | .registerClass decl => some (.registerClass decl)
  | .registerCategory decl => some (.registerCategory decl)
  | .loadModule decl => some (.loadModule decl)
  | _ => none

end Change

/-- The categories that a request registers, in order. -/
def Request.newCategories : Request → List CategoryDecl
  | .registerCategory decl => [decl]
  | .loadModule decl => decl.categories
  | _ => []

/-- The call of a collected hook of an image. -/
def LoadHook.call (hook : LoadHook) (id : ImageId) (selector : Selector) : Call where
  imp := hook.imp
  receiver := some ⟨id, ⟨hook.receiver, .inst⟩⟩
  selector := selector
  purpose := .load hook.category

/-- The call of an `initialize` implementation on a class of an image. -/
def Call.ofInit (id : ImageId) (target : ClassId) (selector : Selector) (imp : Imp) :
    Call where
  imp := imp
  receiver := some ⟨id, ⟨target, .inst⟩⟩
  selector := selector
  purpose := .init

/-- Whether a call is that of a hook that was collected. -/
def Call.isLoad (call : Call) : Bool :=
  match call.purpose with
  | .load _ => true
  | _ => false

/-- The calls made so far. -/
def Session.calls [NameHash] (session : Session) : List Call :=
  session.events.toList.filterMap Event.call?

/-- The call that is made to initialize a class: of the implementation that its table has. -/
def Session.initCall [NameHash] (session : Session) (id : ImageId)
    (target : ClassId) : Option Call :=
  (((session.image id).registry.table? ⟨target, .metaclass⟩).bind
    (·.get? (session.image id).initSelector)).map
      (Call.ofInit id target (session.image id).initSelector)

/-- Something that happens in a run. -/
inductive Deed where
  /-- A change is made, and these hooks are due. -/
  | changed (id : ImageId) (change : Change) (hooks : List LoadHook)
  /-- A change is refused. -/
  | refused (id : ImageId) (change : Change)
  /-- A class is marked as being prepared, and its `initialize` is called if it has one. -/
  | began (id : ImageId) (target : ClassId) (call : Option Call)
  /-- A class is marked as initialized. -/
  | finished (id : ImageId) (target : ClassId)
  /-- An implementation is called, for a message or as a hook that was due. -/
  | called (call : Call)
  /-- Something is noted down, but not that something is registered. -/
  | noted (remark : Remark)
  | rested

namespace Deed

/-- The calls made. -/
def calls : Deed → List Call
  | .began _ _ call => call.toList
  | .called call => [call]
  | _ => []

/-- What is noted down. The request that makes a change is noted before it. -/
def remarks : Deed → List Remark
  | .changed id change _ | .refused id change => (change.request?.map (.asked id)).toList
  | .noted remark => [remark]
  | _ => []

/-- The image that a deed is done to. -/
def image? : Deed → Option ImageId
  | .changed id _ _ => some id
  | .refused id _ => some id
  | .began id _ _ => some id
  | .finished id _ => some id
  | .called _ | .noted _ | .rested => none

/-- The categories that are registered with an image. -/
def categories (id : ImageId) : Deed → List CategoryDecl
  | .changed other change _ => if other = id then change.categories else []
  | _ => []

end Deed

/-- What is running after a remark, the innermost call first, given what was running before. -/
def Remark.running (remark : Remark) (calls : List Call) : List Call :=
  match remark with
  | .called call => call :: calls
  | .returned _ => calls.tail
  | _ => calls

namespace Session

variable [NameHash]

/-- A session has these images now, and made these calls meanwhile. -/
structure Becomes (before : Session) (images : Array Image) (made : List Call) (after : Session) :
    Prop where
  images : after.images = images
  calls : after.calls = before.calls ++ made
  notes : after.notes = before.notes

/-- Nothing has happened. -/
structure Rests (before after : Session) : Prop where
  count : after.images.size = before.images.size
  images : ∀ id, (before.image id).Alike (after.image id)
  calls : after.calls = before.calls
  notes : after.notes = before.notes

/-- The session in which a class is marked in another way. -/
def mark (session : Session) (id : ImageId) (change : Registry → Registry) : Session :=
  session.setImage id
    { session.image id with registry := change (session.image id).registry }

/-- The session in which the request that makes a change has been noted down. -/
def announce (session : Session) (id : ImageId) (change : Change) : Session :=
  match change.request? with
  | some asked => session.note (.asked id asked)
  | none => session

/-- The request that is noted down in a place. -/
def requested? (session : Session) (place : Nat) : Option Request :=
  session.notes[place]?.bind fun note =>
    match note.remark with
    | .asked _ asked => some asked
    | _ => none

/-- A remark is that a request has been refused which registers categories. -/
def RefusesCategories (session : Session) (remark : Remark) : Prop :=
  ∃ place error asked, remark = .answered place (.refused error) ∧
    session.requested? place = some asked ∧ asked.newCategories ≠ []

/-- The calls that are running, the innermost first. -/
def running (session : Session) : List Call :=
  session.notes.foldl (fun calls note => note.remark.running calls) []

/-- No hook is running: at most implementations of messages are. -/
def Hookless (session : Session) : Prop :=
  ∀ call ∈ session.running, call.purpose = .message

end Session

/-- A class whose `initialize` is due: it has tables, its superclass is prepared, and it is
    not. -/
structure Registry.Ready (registry : Registry) (target : ClassId) : Prop where
  unprepared : Registry.isPrepared registry target = false
  tabled : ∀ side, (registry.table? ⟨target, side⟩).isSome = true
  supported : ∀ above, (registry.entry target).superclass = some above →
    Registry.isPrepared registry above = true

/-- A class that is ready is not being prepared. -/
theorem Registry.Ready.unmarked {registry : Registry} {target : ClassId}
    (ready : registry.Ready target) : (registry.entry target).initializing = none := by
  have unprepared := ready.unprepared
  rw [Registry.isPrepared, Bool.or_eq_false_iff] at unprepared
  exact Option.not_isSome_iff_eq_none.mp (Bool.eq_false_iff.mp unprepared.2)

/-- A prepared class is loaded. -/
theorem Registry.Sound.loaded_of_isPrepared {registry : Registry} (sound : registry.Sound)
    {target : ClassId} (prepared : Registry.isPrepared registry target = true) :
    registry.reached target .loaded = true :=
  sound.tabled.loaded _ (sound.tabled.ready target prepared .inst)

/-- So is a marked one. -/
theorem Registry.Sound.loaded_of_marked {registry : Registry} (sound : registry.Sound)
    {target : ClassId} (marked : (registry.entry target).initializing.isSome = true) :
    registry.reached target .loaded = true :=
  sound.loaded_of_isPrepared (isPrepared_eq_true.mpr (.inr marked))

/-- What the program does when it does a deed, and what it has made sure of before. A strict
    program does not go on from a module or a category that was refused. -/
inductive Session.Does [NameHash] (strict : Bool) (before : Session) : Deed → Session → Prop
  | changed {id : ImageId} {change : Change} {draft : Draft}
      (permitted : change.Permitted (before.image id))
      (edited : change.edit { image := before.image id } = .ok () draft) :
      Does strict before (.changed id change draft.hooks)
        ((before.announce id change).adopt id draft)
  | refused {id : ImageId} {change : Change} {error : Error} {draft : Draft}
      (permitted : change.Permitted (before.image id))
      (goesOn : strict = true → change.endsStrict = false)
      (edited : change.edit { image := before.image id } = .error (.refused error) draft) :
      Does strict before (.refused id change) ((before.announce id change).adopt id draft)
  | began {id : ImageId} {target : ClassId} {after : Session}
      (ready : (before.image id).registry.Ready target)
      (becomes : before.Becomes (before.mark id (·.beginInit target before.thread)).images
        (before.initCall id target).toList after) :
      Does strict before (.began id target (before.initCall id target)) after
  | finished {id : ImageId} {target : ClassId} {after : Session}
      (marked : ((before.image id).registry.entry target).initializing.isSome = true)
      (becomes : before.Becomes (before.mark id (·.endInit target)).images [] after) :
      Does strict before (.finished id target) after
  | called {call : Call} {after : Session} (other : call.purpose ≠ .init)
      (becomes : before.Becomes before.images [call] after) :
      Does strict before (.called call) after
  | noted {remark : Remark}
      (plain : ∀ id asked, remark = .asked id asked → asked.registers = false)
      (goesOn : strict = true → ¬ before.RefusesCategories remark) :
      Does strict before (.noted remark) (before.note remark)
  | rested {after : Session} (rests : before.Rests after) : Does strict before .rested after

/-- A deed, with the sessions before and after it. -/
structure Moment [NameHash] where
  before : Session
  deed : Deed
  after : Session

namespace Moment

variable [NameHash]

/-- The calls of hooks that become due. -/
def queued (moment : Moment) : List Call :=
  match moment.deed with
  | .changed id _ hooks => hooks.map (·.call id (moment.before.image id).loadSelector)
  | _ => []

/-- The calls of hooks that are made. -/
def loads (moment : Moment) : List Call := moment.deed.calls.filter Call.isLoad

/-- What is noted down, with the images as they are before. -/
def notes (moment : Moment) : List Note :=
  moment.deed.remarks.map (⟨moment.before.images, ·⟩)

end Moment

/-- A session comes from another by these deeds. -/
inductive Session.Course [NameHash] (strict : Bool) : Session → List Moment → Session → Prop
  | done (session : Session) : Course strict session [] session
  | next {before after last : Session} {deed : Deed} {rest : List Moment}
      (does : before.Does strict deed after) (others : Course strict after rest last) :
      Course strict before (⟨before, deed, after⟩ :: rest) last

namespace Course

variable [NameHash]

/-- What is noted down along a course. -/
def notes (course : List Moment) : List Note := course.flatMap Moment.notes

/-- What is running at the end of a course, the innermost call first, given what was running at
    its start. -/
def running (course : List Moment) (calls : List Call) : List Call :=
  (notes course).foldl (fun calls note => note.remark.running calls) calls

/-- The categories that were registered with an image, in order. -/
def categories (id : ImageId) (course : List Moment) : List CategoryDecl :=
  course.flatMap (·.deed.categories id)

end Course

namespace Session

variable [NameHash] {strict : Bool} {first between last : Session} {course others : List Moment}

/-- A course and one that goes on where it ends are one course. -/
theorem Course.append (begun : first.Course strict course between)
    (ended : between.Course strict others last) : first.Course strict (course ++ others) last := by
  induction begun with
  | done session => exact ended
  | next does _ inductionHypothesis => exact .next does (inductionHypothesis ended)

/-- What every deed keeps holds all along a course. -/
theorem Course.invariant (run : first.Course strict course last) (holds : Session → Prop)
    (step : ∀ {before after deed}, before.Does strict deed after → holds before → holds after)
    (start : holds first) :
    (∀ moment ∈ course, moment.before.Does strict moment.deed moment.after ∧
      holds moment.before ∧ holds moment.after) ∧ holds last := by
  induction run with
  | done session => exact ⟨by simp, start⟩
  | next does _ inductionHypothesis =>
    have passed := step does start
    obtain ⟨later, ended⟩ := inductionHypothesis passed
    refine ⟨fun other member => ?_, ended⟩
    rcases List.mem_cons.mp member with rfl | among
    · exact ⟨does, start, passed⟩
    · exact later other among

omit [NameHash] in
/-- Reports are no calls. -/
theorem call?_admitted (threshold : Log.Level) (reports : List Log.Message) :
    (admitted threshold reports).filterMap Event.call? = [] := by
  refine List.filterMap_eq_nil_iff.mpr fun event member => ?_
  obtain ⟨message, -, rfl⟩ := List.mem_map.mp member
  rfl

/-- Reports are no calls. -/
@[simp] theorem calls_log (session : Session) (reports : List Log.Message) :
    (session.log reports).calls = session.calls := by
  simp only [calls, log, Array.toList_appendList, List.filterMap_append, call?_admitted,
    List.append_nil]

/-- An edit calls nothing. -/
@[simp] theorem calls_adopt (session : Session) (id : ImageId) (draft : Draft) :
    (session.adopt id draft).calls = session.calls := by
  rw [adopt, calls_log]
  rfl

/-- Announcing a change does not make it. -/
@[simp] theorem images_announce (session : Session) (id : ImageId) (change : Change) :
    (session.announce id change).images = session.images := by
  unfold announce
  split <;> rfl

/-- An announcement is no call. -/
@[simp] theorem calls_announce (session : Session) (id : ImageId) (change : Change) :
    (session.announce id change).calls = session.calls := by
  unfold announce
  split <;> rfl

/-- What is noted before a change is what its deed notes. -/
theorem notes_announce (session : Session) (id : ImageId) (change : Change) :
    (session.announce id change).notes =
      session.notes ++
        (change.request?.map (Remark.asked id)).toList.map (⟨session.images, ·⟩) := by
  unfold announce
  cases change.request? with
  | some asked => rfl
  | none => exact (List.append_nil _).symm

/-- The calls of a session grow by those that a deed makes. -/
theorem Does.calls {before after : Session} {deed : Deed} (does : before.Does strict deed after) :
    after.calls = before.calls ++ deed.calls := by
  cases does with
  | changed _ edited => simp [Deed.calls]
  | refused _ _ edited => simp [Deed.calls]
  | began _ becomes => exact becomes.calls
  | finished _ becomes => exact becomes.calls
  | called _ becomes => exact becomes.calls
  | noted => exact (List.append_nil _).symm
  | rested rests => simp [Deed.calls, rests.calls]

/-- The notes of a session grow by those of a deed. -/
theorem Does.notes {before after : Session} {deed : Deed} (does : before.Does strict deed after) :
    after.notes = before.notes ++ Moment.notes ⟨before, deed, after⟩ := by
  cases does with
  | changed _ _ => exact notes_announce _ _ _
  | refused _ _ _ => exact notes_announce _ _ _
  | began _ becomes => exact becomes.notes.trans (List.append_nil _).symm
  | finished _ becomes => exact becomes.notes.trans (List.append_nil _).symm
  | called _ becomes => exact becomes.notes.trans (List.append_nil _).symm
  | noted => rfl
  | rested rests => exact rests.notes.trans (List.append_nil _).symm

/-- The calls of a session are those of the course that led to it. -/
theorem Course.calls (run : first.Course strict course last) :
    last.calls = first.calls ++ course.flatMap (·.deed.calls) := by
  induction run with
  | done session => simp
  | next does _ inductionHypothesis =>
    rw [inductionHypothesis, does.calls, List.flatMap_cons, List.append_assoc]

/-- The notes of a session are those of the course that led to it. -/
theorem Course.noted (run : first.Course strict course last) :
    last.notes = first.notes ++ Course.notes course := by
  induction run with
  | done session => exact (List.append_nil _).symm
  | next does _ inductionHypothesis =>
    rw [inductionHypothesis, does.notes]
    exact List.append_assoc _ _ _

end Session

/-- What a deed can do to the image with a number: changes take in what they declare and raise
    classes, only a class that is ready and whose superclass is prepared is marked, and deeds
    to other images leave this one alone. -/
inductive Image.Lives [NameHash] (strict : Bool) (id : ImageId)
    (before : Image) : Deed → Image → Prop
  | changed {change : Change} {draft : Draft} {arrivals : List Arrival} {order : List ClassId}
      (amends : Draft.Amends { image := before } arrivals order draft)
      (categories : arrivals.filterMap Arrival.category? = change.categories) :
      Lives strict id before (.changed id change draft.hooks) draft.image
  | refused {change : Change} {draft : Draft} {arrivals : List Arrival}
      (taken : Draft.TakesIn { image := before } arrivals draft)
      (quiet : strict = true → Draft.Interns { image := before } draft) :
      Lives strict id before (.refused id change) draft.image
  | began {target : ClassId} {call : Option Call} (thread : Thread)
      (ready : before.registry.Ready target) :
      Lives strict id before (.began id target call)
        { before with registry := before.registry.beginInit target thread }
  | finished {target : ClassId}
      (marked : (before.registry.entry target).initializing.isSome = true) :
      Lives strict id before (.finished id target)
        { before with registry := before.registry.endInit target }
  | apart {deed : Deed} {after : Image} (other : deed.image? ≠ some id)
      (alike : before.Alike after) : Lives strict id before deed after

/-- A deed in a session that is in order does to every image what it can do. -/
structure Moment.Regular [NameHash] (strict : Bool) (moment : Moment) : Prop where
  sound : ∀ id, (moment.before.image id).Sound strict
  count : moment.after.images.size = moment.before.images.size
  lives : ∀ id, id < moment.before.images.size →
    (moment.before.image id).Lives strict id moment.deed (moment.after.image id)

namespace Image

variable [NameHash] {strict : Bool} {id : ImageId} {before after : Image} {deed : Deed}

/-- An image is like itself. -/
theorem Alike.refl (image : Image) : image.Alike image := rfl

/-- Images that are alike have the same registry. -/
theorem Alike.registry (alike : before.Alike after) : after.registry = before.registry := by
  rw [alike]

/-- They have the same selector table. -/
theorem Alike.selectors (alike : before.Alike after) : after.selectors = before.selectors := by
  rw [alike]

/-- They send the same two messages. -/
theorem Alike.reserved (alike : before.Alike after) :
    after.loadSelector = before.loadSelector ∧ after.initSelector = before.initSelector := by
  rw [alike]
  exact ⟨rfl, rfl⟩

/-- The selectors that an image sends itself stay the same. -/
theorem Lives.reserved (lives : before.Lives strict id deed after) (sound : before.registry.Sound) :
    after.loadSelector = before.loadSelector ∧ after.initSelector = before.initSelector := by
  cases lives with
  | changed amends _ => exact amends.reserved sound
  | refused taken _ => exact taken.reserved
  | began _ _ => exact ⟨rfl, rfl⟩
  | finished _ => exact ⟨rfl, rfl⟩
  | apart _ alike => exact alike.reserved

end Image

/-- No class that waits is linked, whatever was done to an image without a panic. -/
theorem Image.Lives.loose [NameHash] {strict : Bool} {id : ImageId} {before after : Image}
    {deed : Deed} (lives : before.Lives strict id deed after) (sound : before.registry.Sound)
    (loose : before.registry.Loose) : after.registry.Loose := by
  cases lives with
  | changed amends _ => exact amends.loose loose
  | refused taken _ => exact taken.loose loose
  | @began target _ thread ready =>
    exact loose.modify target _
      ⟨rfl, rfl, rfl, rfl, fun level => level, Iff.rfl, fun given => given⟩
  | @finished target marked =>
    exact loose.modify target _
      (ClassEntry.continues_initialized _ (sound.loaded_of_marked marked)).1
  | apart _ alike =>
    rw [alike.registry]
    exact loose

/-- No class of a registry is marked in another way, and loaded classes stay linked. -/
structure Registry.SameMarks (before after : Registry) : Prop where
  initialized : ∀ target,
    after.reached target .initialized = before.reached target .initialized
  initializing : ∀ target,
    (after.entry target).initializing = (before.entry target).initializing
  superclass : ∀ target, before.reached target .loaded = true →
    (after.entry target).superclass = (before.entry target).superclass

/-- What a deed does to the marks of an image. -/
theorem Image.Lives.marks [NameHash] {strict : Bool} {id : ImageId} {before after : Image}
    {deed : Deed} (lives : before.Lives strict id deed after) :
    (before.registry.SameMarks after.registry ∧ (∀ target call, deed ≠ .began id target call) ∧
      ∀ target, deed ≠ .finished id target) ∨
    (∃ target call thread, deed = .began id target call ∧ before.registry.Ready target ∧
      after.registry = before.registry.beginInit target thread) ∨
    ∃ target, deed = .finished id target ∧
      (before.registry.entry target).initializing.isSome = true ∧
      after.registry = before.registry.endInit target := by
  cases lives with
  | changed amends _ =>
    refine .inl ⟨⟨fun target => (amends.unprepared target).1,
      fun target => (amends.unprepared target).2, fun _ => amends.superclass⟩, ?_, ?_⟩
    · exact fun _ _ impossible => by cases impossible
    · exact fun _ impossible => by cases impossible
  | refused taken _ =>
    refine .inl ⟨⟨fun target => taken.reached target _,
      taken.field ClassEntry.initializing (fun _ _ _ _ => rfl) fun _ _ _ _ => rfl,
      fun target _ =>
        taken.field ClassEntry.superclass (fun _ _ _ _ => rfl) (fun _ _ _ _ => rfl) target⟩, ?_, ?_⟩
    · exact fun _ _ impossible => by cases impossible
    · exact fun _ impossible => by cases impossible
  | @began target call thread ready =>
    exact .inr (.inl ⟨target, call, thread, rfl, ready, rfl⟩)
  | @finished target marked => exact .inr (.inr ⟨target, rfl, marked, rfl⟩)
  | apart other alike =>
    refine .inl ⟨?_, ?_, ?_⟩
    · rw [alike.registry]
      exact ⟨fun _ => rfl, fun _ => rfl, fun _ _ => rfl⟩
    · rintro target call rfl
      exact other rfl
    · rintro target rfl
      exact other rfl

/-- An image that is not there is the empty one. -/
theorem Session.image_of_size_le [NameHash] {session : Session} {id : ImageId}
    (outside : session.images.size ≤ id) : session.image id = default := by
  rw [image, Array.getD_eq_getD_getElem?, Array.getElem?_eq_none outside]
  rfl

/-- At a number without an image nothing ever happens. -/
theorem Moment.Regular.image_of_size_le [NameHash] {strict : Bool} {moment : Moment}
    (regular : moment.Regular strict) {id : ImageId} (outside : moment.before.images.size ≤ id) :
    moment.after.image id = moment.before.image id := by
  rw [Session.image_of_size_le outside, Session.image_of_size_le (regular.count ▸ outside)]

/-- The two selectors of an image stay. -/
theorem Moment.Regular.reserved [NameHash] {strict : Bool} {moment : Moment}
    (regular : moment.Regular strict) (id : ImageId) :
    (moment.after.image id).loadSelector = (moment.before.image id).loadSelector ∧
      (moment.after.image id).initSelector = (moment.before.image id).initSelector := by
  by_cases inside : id < moment.before.images.size
  · exact (regular.lives id inside).reserved (regular.sound id).registry
  · rw [regular.image_of_size_le (Nat.le_of_not_lt inside)]
    exact ⟨rfl, rfl⟩

namespace Moment

variable [NameHash] {strict : Bool} {before after : Session} {deed : Deed} {id : ImageId}

/-- An image is given by the images of its session. -/
theorem image_congr {session other : Session} (same : other.images = session.images)
    (id : ImageId) : other.image id = session.image id := by
  rw [Session.image, same, Session.image]

/-- A deed to one image is regular if it does to that image what it can do. -/
theorem regular_of_one (sound : ∀ id, (before.image id).Sound strict)
    (named : deed.image? = some id) {new : Image} (newSound : new.Sound strict)
    (images : after.images = (before.setImage id new).images)
    (lives : (before.image id).Lives strict id deed new) :
    Regular strict ⟨before, deed, after⟩ ∧ ∀ id, (after.image id).Sound strict := by
  refine ⟨⟨sound, ?_, fun other inside => ?_⟩, fun other => ?_⟩
  · change after.images.size = before.images.size
    rw [images]
    simp [Session.setImage]
  · change (before.image other).Lives strict other deed (after.image other)
    rw [image_congr images, Session.image_setImage]
    by_cases same : id = other
    · subst same
      rw [if_pos ⟨rfl, inside⟩]
      exact lives
    · rw [if_neg fun both => same both.1]
      refine .apart (fun impossible => same ?_) (.refl _)
      rw [named] at impossible
      exact Option.some.inj impossible
  · rw [image_congr images, Session.image_setImage]
    split
    · exact newSound
    · exact sound other

/-- A deed to no image is regular if it leaves all images as they are. -/
theorem regular_of_none (sound : ∀ id, (before.image id).Sound strict)
    (nameless : deed.image? = none) (count : after.images.size = before.images.size)
    (alike : ∀ id, (before.image id).Alike (after.image id)) :
    Regular strict ⟨before, deed, after⟩ ∧ ∀ id, (after.image id).Sound strict := by
  refine ⟨⟨sound, count, fun id _ => .apart (fun impossible => ?_) (alike id)⟩, fun id => ?_⟩
  · rw [nameless] at impossible
    cases impossible
  · have settled := (sound id).settled
    rw [← (alike id).registry] at settled
    exact ⟨(alike id).registry ▸ (sound id).registry, (alike id).selectors ▸ (sound id).selectors,
      settled⟩

end Moment

namespace Change

variable [NameHash] {strict : Bool} {image : Image}

/-- What a change does to an image: it takes in what it registers and raises classes. One that
    is refused where a run goes on leaves the image in order, and has taken in signatures at
    most if the run is strict. -/
def Makes (strict : Bool) (image : Image) (change : Change) : Prop :=
  Outcome (change.edit { image })
    (fun _ after => Draft.Kept strict { image } after ∧ ∃ arrivals order,
      Draft.Amends { image } arrivals order after ∧
        arrivals.filterMap Arrival.category? = change.categories)
    (fun failure after => ∀ error, failure = .refused error →
      (strict = true → change.endsStrict = false) →
        Draft.Kept strict { image } after ∧ (∃ arrivals, Draft.TakesIn { image } arrivals after) ∧
          (strict = true → Draft.Interns { image } after))

/-- Registering a class makes the change of that name. -/
theorem registerClass_makes (sound : image.Sound strict) (decl : ClassDecl) :
    (registerClass decl).Makes strict image := by
  simp only [Makes, edit, outcome_bind, outcome_pure]
  apply ((Edit.registerClass_keeps decl { image } sound).and
    (@Edit.registerClass_amends _ strict { image } sound decl)).mono
  · rintro _ after ⟨kept, -, order, amends⟩
    exact ⟨kept, _, order, amends, decl.category?_arrivals⟩
  · rintro _ after ⟨kept, interns⟩ error refused -
    obtain ⟨signatures, taken⟩ := interns error refused
    exact ⟨kept error refused, ⟨_, taken⟩, fun _ => ⟨signatures, taken⟩⟩

/-- So does registering a category. -/
theorem registerCategory_makes (sound : image.Sound strict) (decl : CategoryDecl) :
    (registerCategory decl).Makes strict image := by
  simp only [Makes, edit, outcome_bind, outcome_pure]
  apply ((Edit.insertCategory_keeps decl { image } sound).and
    (@Edit.insertCategory_amends _ strict { image } sound decl)).mono
  · rintro _ after ⟨kept, amends⟩
    exact ⟨kept, _, [], amends, decl.category?_arrivals⟩
  · rintro _ after ⟨kept, signatures, taken⟩ error refused -
    exact ⟨kept error refused, ⟨_, taken⟩, fun _ => ⟨signatures, taken⟩⟩

/-- So does loading a module. -/
theorem loadModule_makes (sound : image.Sound strict) (decl : ModuleDecl) :
    (loadModule decl).Makes strict image := by
  simp only [Makes, edit, outcome_bind, outcome_pure]
  apply ((@Edit.loadModule_outcome _ strict { image } sound decl).and
    (@Edit.loadModule_amends _ strict { image } sound decl)).mono
  · rintro _ after ⟨kept, ⟨order, amends⟩, -⟩
    exact ⟨kept, _, order, amends, decl.category?_arrivals _⟩
  · rintro _ after ⟨kept, taken⟩ error refused goesOn
    cases strict
    · exact ⟨(kept error refused).2, taken error refused, fun impossible => by cases impossible⟩
    · cases goesOn rfl

/-- So does interning a signature. -/
theorem intern_makes (sound : image.Sound strict) (signature : Signature) :
    (intern signature).Makes strict image := by
  simp only [Makes, edit, outcome_bind, outcome_pure]
  apply ((@Edit.intern_outcome _ strict { image } sound signature).and
    (@Edit.intern_takes _ strict { image } sound signature)).mono
  · rintro _ after ⟨⟨-, kept, -⟩, taken, -⟩
    exact ⟨kept, _, [], taken.amends sound.registry, rfl⟩
  · rintro _ after ⟨⟨-, kept, -⟩, taken⟩ _ _ -
    exact ⟨kept, ⟨_, taken⟩, fun _ => ⟨[signature], taken⟩⟩

/-- So does replacing a method. -/
theorem replaceMethod_makes (sound : image.Sound strict) (ref : SideRef) {selector : Selector}
    (imp : Imp) (fits : selector < SparseMap.capacity) :
    (replaceMethod ref selector imp).Makes strict image := by
  simp only [Makes, edit, outcome_bind, outcome_pure]
  apply ((@Edit.replaceMethod_outcome _ strict { image } sound ref selector imp fits).and
    (@Edit.replaceMethod_amends _ strict { image } sound ref selector imp fits)).mono
  · rintro _ after ⟨⟨advanced, -⟩, amends⟩
    exact ⟨advanced.kept sound, _, [], amends, rfl⟩
  · rintro _ _ ⟨impossible, -⟩
    exact impossible.elim

/-- So does preparing the tables of a class. -/
theorem readyTables_makes (sound : image.Sound strict) {target : ClassId}
    (inside : target < image.registry.size) : (readyTables target).Makes strict image := by
  apply ((@Edit.readyTables_outcome _ strict { image } sound target inside).and
    (@Edit.readyTables_amends _ strict { image } sound target inside)).mono
  · rintro _ after ⟨⟨-, kept, -⟩, order, amends⟩
    exact ⟨kept, [], order, amends, rfl⟩
  · rintro _ after ⟨-, unchanged⟩ error refused -
    rw [unchanged error refused]
    have taken : Draft.TakesIn { image } [] { image } := .none { image } []
    exact ⟨⟨sound, .refl _⟩, ⟨[], taken⟩, fun _ => ⟨[], taken⟩⟩

/-- Every change that is permitted does to an image in order what a change can do. -/
theorem makes (sound : image.Sound strict) {change : Change} (permitted : change.Permitted image) :
    change.Makes strict image := by
  cases change with
  | registerClass decl => exact registerClass_makes sound decl
  | registerCategory decl => exact registerCategory_makes sound decl
  | loadModule decl => exact loadModule_makes sound decl
  | intern signature => exact intern_makes sound signature
  | replaceMethod ref selector imp => exact replaceMethod_makes sound ref imp permitted
  | readyTables target => exact readyTables_makes sound permitted

end Change

namespace Session

variable [NameHash] {strict : Bool} {before after first last : Session} {deed : Deed}
  {course : List Moment}

/-- An announced change and its draft change one image. -/
theorem images_adopt_announce (session : Session) (id : ImageId) (change : Change) (draft : Draft) :
    ((session.announce id change).adopt id draft).images =
      (session.setImage id draft.image).images := by
  change (session.announce id change).images.setIfInBounds id draft.image = _
  rw [images_announce]
  rfl

/-- Every deed is regular where images are in order, and leaves them so. -/
theorem Does.regular (does : before.Does strict deed after)
    (sound : ∀ id, (before.image id).Sound strict) :
    Moment.Regular strict ⟨before, deed, after⟩ ∧ ∀ id, (after.image id).Sound strict := by
  cases does with
  | @changed id change draft permitted edited =>
    have makes := Change.makes (sound id) permitted
    rw [Change.Makes, edited] at makes
    obtain ⟨kept, arrivals, order, amends, categories⟩ := makes
    exact Moment.regular_of_one sound rfl kept.sound (images_adopt_announce _ _ _ _)
      (.changed amends categories)
  | @refused id change error draft permitted goesOn edited =>
    have makes := Change.makes (sound id) permitted
    rw [Change.Makes, edited] at makes
    obtain ⟨kept, ⟨arrivals, taken⟩, quiet⟩ := makes error rfl goesOn
    exact Moment.regular_of_one sound rfl kept.sound (images_adopt_announce _ _ _ _)
      (.refused taken quiet)
  | began ready becomes =>
    exact Moment.regular_of_one sound rfl ((sound _).beginInit _ ready.tabled).1 becomes.images
      (.began _ ready)
  | finished marked becomes =>
    have tabled := (sound _).registry.tabled.ready _ (Registry.isPrepared_eq_true.mpr (.inr marked))
    exact Moment.regular_of_one sound rfl ((sound _).endInit tabled).1 becomes.images
      (.finished marked)
  | called other becomes =>
    refine Moment.regular_of_none sound rfl (by rw [becomes.images]) fun id => ?_
    rw [Moment.image_congr becomes.images]
    exact .refl _
  | noted => exact Moment.regular_of_none sound rfl rfl fun _ => .refl _
  | rested rests => exact Moment.regular_of_none sound rfl rests.count rests.images

/-- Every deed of a course from images in order is regular. -/
theorem Course.regular (run : first.Course strict course last)
    (sound : ∀ id, (first.image id).Sound strict) :
    (∀ moment ∈ course, moment.Regular strict) ∧ ∀ id, (last.image id).Sound strict := by
  obtain ⟨deeds, ended⟩ := run.invariant (fun session => ∀ id, (session.image id).Sound strict)
    (fun does healthy => (does.regular healthy).2) sound
  refine ⟨fun moment member => ?_, ended⟩
  obtain ⟨does, healthy, -⟩ := deeds moment member
  exact (does.regular healthy).1

/-- What a regular deed keeps holds all along a course from images in order. -/
theorem Course.keeps (run : first.Course strict course last)
    (sound : ∀ id, (first.image id).Sound strict) (holds : Session → Prop)
    (step : ∀ moment : Moment, moment.Regular strict → holds moment.before → holds moment.after)
    (start : holds first) :
    (∀ moment ∈ course, holds moment.before ∧ holds moment.after) ∧ holds last := by
  obtain ⟨deeds, ended, -⟩ := run.invariant
    (fun session => holds session ∧ ∀ id, (session.image id).Sound strict)
    (fun does both => ⟨step _ (does.regular both.2).1 both.1, (does.regular both.2).2⟩)
    ⟨start, sound⟩
  refine ⟨fun moment member => ?_, ended⟩
  obtain ⟨-, early, late⟩ := deeds moment member
  exact ⟨early.1, late.1⟩

/-- Along a course no image is added. -/
theorem Course.count (run : first.Course strict course last)
    (sound : ∀ id, (first.image id).Sound strict) :
    last.images.size = first.images.size :=
  (run.keeps sound (·.images.size = first.images.size)
    (fun _ regular same => regular.count.trans same) rfl).2

/-- Along a course the two selectors of every image stay. -/
theorem Course.reserved (run : first.Course strict course last)
    (sound : ∀ id, (first.image id).Sound strict) (id : ImageId) :
    (last.image id).loadSelector = (first.image id).loadSelector ∧
      (last.image id).initSelector = (first.image id).initSelector := by
  refine (run.keeps sound (fun session =>
    (session.image id).loadSelector = (first.image id).loadSelector ∧
      (session.image id).initSelector = (first.image id).initSelector)
    (fun moment regular same => ?_) ⟨rfl, rfl⟩).2
  obtain ⟨load, init⟩ := regular.reserved id
  exact ⟨load.trans same.1, init.trans same.2⟩

end Session

end LateBinding
