import LateBinding.Proofs.Composition
import LateBinding.Proofs.Registering

/-!
# Sessions in order

A session is in order if all of its images are, and if what has been noted about the stages
of classes is still true of an earlier moment: every note precedes the later ones and the
session as it is now. A session moves on when its images grow.

Actions keep a session in order. An action that waits for good ends at a point where
somebody might look, so it keeps the session in order as well; a panic and a fatal error
need not. Implementations and the handler may be any actions that keep a session in order,
and then everything that leads to a call does.
-/

namespace LateBinding

/-- Whatever is on the earlier list has something on the later one, at the same place, that
    it is related to. -/
def Outlasts {α : Type} (related : α → α → Prop) (earlier later : List α) : Prop :=
  ∀ (place : Nat) (before : α), earlier[place]? = some before →
    ∃ after, later[place]? = some after ∧ related before after

/-- What outlasts twice outlasts, if the relation between members is transitive. -/
theorem Outlasts.trans {α : Type} {related : α → α → Prop}
    (transitive : ∀ first second third, related first second → related second third →
      related first third)
    {earlier between later : List α} (first : Outlasts related earlier between)
    (second : Outlasts related between later) : Outlasts related earlier later := by
  intro place before found
  obtain ⟨middle, foundMiddle, lower⟩ := first place before found
  obtain ⟨after, foundAfter, upper⟩ := second place middle foundMiddle
  exact ⟨after, foundAfter, transitive before middle after lower upper⟩

/-- Both sides of a class are at the same stage as before or at a later one. -/
def ClassDump.Precedes (before after : ClassDump) : Prop :=
  before.inst.stage.rank ≤ after.inst.stage.rank ∧
    before.metaclass.stage.rank ≤ after.metaclass.stage.rank

/-- Every class of a dump is in a later dump, and no stage has gone back. -/
def ImageDump.Precedes (earlier later : ImageDump) : Prop :=
  Outlasts ClassDump.Precedes earlier.classes later.classes

/-- A dump that precedes one that precedes a third precedes the third. -/
theorem ImageDump.Precedes.trans (first second third : ImageDump) (lower : first.Precedes second)
    (upper : second.Precedes third) : first.Precedes third :=
  Outlasts.trans
    (fun _ _ _ below above => ⟨below.1.trans above.1, below.2.trans above.2⟩) lower upper

/-- The dumps of the images that a note was made of. -/
def Note.dumps [NameHash] (note : Note) : List ImageDump := note.images.toList.map Image.dump

/-- A growing registry shows in the dumps of its image. -/
theorem Image.dump_precedes [NameHash] {before after : Image} (formed : before.registry.Formed)
    (formedAfter : after.registry.Formed) (grows : before.registry.Grows after.registry) :
    before.dump.Precedes after.dump := by
  intro id shown found
  obtain ⟨inside, rfl⟩ := List.getElem?_eq_some_iff.mp found
  simp only [dump, List.length_map, List.length_range] at inside
  have insideAfter : id < after.registry.size := inside.trans_le grows.size
  have stages := grows.stages id
  refine ⟨_, List.getElem?_eq_getElem (by simpa [dump] using insideAfter), ?_, ?_⟩
  · simpa [dump, Registry.view, BySide.get, Registry.stage] using stages
  · rw [← formed.level, ← formedAfter.level] at stages
    simpa [dump, Registry.view, BySide.get] using stages

namespace Session

variable [NameHash] {strict : Bool} {session between after : Session}

/-- The dumps of all images. -/
def dumps (session : Session) : List ImageDump := session.images.toList.map Image.dump

/-- The session in which a remark has been noted down. -/
def note (session : Session) (remark : Remark) : Session :=
  { session with notes := session.notes ++ [⟨session.images, remark⟩] }

/-- The images of a session grow at most, there are as many, and what has been noted stays. -/
structure Follows (before after : Session) : Prop where
  count : after.images.size = before.images.size
  grows : ∀ id, (before.image id).registry.Grows (after.image id).registry
  notes : before.notes <+: after.notes

/-- Images and notes are in order. -/
structure Sound (strict : Bool) (session : Session) : Prop where
  images : ∀ id, (session.image id).Sound strict
  noted : ∀ note ∈ session.notes, Outlasts ImageDump.Precedes note.dumps session.dumps
  ordered : session.notes.Pairwise fun earlier later =>
    Outlasts ImageDump.Precedes earlier.dumps later.dumps

/-- A session in order is reached from another by growing. -/
structure Moves (strict : Bool) (before after : Session) : Prop where
  sound : after.Sound strict
  follows : before.Follows after

/-- A session follows itself. -/
theorem Follows.refl (session : Session) : session.Follows session :=
  ⟨rfl, fun _ => .refl _, List.prefix_rfl⟩

/-- One that follows another that follows a third follows the third. -/
theorem Follows.trans (first : session.Follows between) (second : between.Follows after) :
    session.Follows after :=
  ⟨second.count.trans first.count, fun id => (first.grows id).trans (second.grows id),
    first.notes.trans second.notes⟩

/-- Doing nothing keeps a session in order. -/
theorem Moves.refl (sound : session.Sound strict) : session.Moves strict session :=
  ⟨sound, .refl _⟩

/-- So do two moves in a row. -/
theorem Moves.trans (first : session.Moves strict between) (second : between.Moves strict after) :
    session.Moves strict after :=
  ⟨second.sound, first.follows.trans second.follows⟩

/-- There is a dump for each image. -/
theorem getElem?_dumps (session : Session) (id : ImageId) (inside : id < session.images.size) :
    session.dumps[id]? = some (session.image id).dump := by
  simp [dumps, image, inside]

/-- Along a session every dump precedes the later one of the same image. -/
theorem Follows.dumps (follows : session.Follows after)
    (formed : ∀ id, (session.image id).registry.Formed)
    (formedAfter : ∀ id, (after.image id).registry.Formed) :
    Outlasts ImageDump.Precedes session.dumps after.dumps := by
  intro id before found
  have inside : id < session.images.size := by
    have bound := (List.getElem?_eq_some_iff.mp found).1
    simpa [Session.dumps] using bound
  rw [getElem?_dumps session id inside, Option.some.injEq] at found
  refine ⟨_, getElem?_dumps after id (follows.count ▸ inside), ?_⟩
  exact found ▸ Image.dump_precedes (formed id) (formedAfter id) (follows.grows id)

/-- A session moves on when its images do and nothing is noted. -/
theorem Moves.of_images (sound : session.Sound strict) (follows : session.Follows after)
    (images : ∀ id, (after.image id).Sound strict) (notes : after.notes = session.notes) :
    session.Moves strict after := by
  have precedes := follows.dumps (fun id => (sound.images id).registry.formed)
    fun id => (images id).registry.formed
  refine ⟨⟨images, fun note member => ?_, notes ▸ sound.ordered⟩, follows⟩
  exact (sound.noted note (notes ▸ member)).trans ImageDump.Precedes.trans precedes

/-- What is neither an image nor a note does not matter. -/
theorem Moves.of_same (sound : session.Sound strict) (images : after.images = session.images)
    (notes : after.notes = session.notes) : session.Moves strict after := by
  have same : ∀ id, after.image id = session.image id := by
    intro id
    rw [image, images, image]
  have follows : session.Follows after := by
    refine ⟨by rw [images], fun id => ?_, notes ▸ List.prefix_rfl⟩
    rw [same]
    exact .refl _
  refine .of_images sound follows (fun id => ?_) notes
  rw [same]
  exact sound.images id

/-- A note is of the images as they are, so the earlier ones precede it. -/
theorem Moves.note (sound : session.Sound strict) (remark : Remark) :
    session.Moves strict (session.note remark) := by
  have formed := fun id => (sound.images id).registry.formed
  have now := (Follows.refl session).dumps formed formed
  refine ⟨⟨sound.images, fun note member => ?_, ?_⟩,
    ⟨rfl, fun _ => .refl _, List.prefix_append _ _⟩⟩
  · rcases List.mem_append.mp member with older | newest
    · exact sound.noted note older
    · exact List.mem_singleton.mp newest ▸ now
  · refine List.pairwise_append.mpr ⟨sound.ordered, List.pairwise_singleton _ _, ?_⟩
    intro earlier member later newest
    exact List.mem_singleton.mp newest ▸ sound.noted earlier member

/-- An image that is put in its place is there, and the others are where they were. -/
theorem image_setImage (session : Session) (id other : ImageId) (new : Image) :
    (session.setImage id new).image other =
      if id = other ∧ id < session.images.size then new else session.image other := by
  simp only [image, setImage, Array.getD_eq_getD_getElem?, Array.getElem?_setIfInBounds]
  by_cases same : id = other
  · subst same
    by_cases inside : id < session.images.size <;> simp [inside]
  · simp [same]

/-- Another image may take the place of one that has grown into it. -/
theorem Moves.setImage (sound : session.Sound strict) {id : ImageId} {new : Image}
    (newSound : new.Sound strict) (grows : (session.image id).registry.Grows new.registry) :
    session.Moves strict (session.setImage id new) := by
  refine .of_images sound ⟨by simp [Session.setImage], fun other => ?_, List.prefix_rfl⟩
    (fun other => ?_) rfl
  · rw [image_setImage]
    split
    · rename_i same
      exact same.1 ▸ grows
    · exact .refl _
  · rw [image_setImage]
    split
    · exact newSound
    · exact sound.images other

/-- Reports leave all images as they are. -/
theorem Moves.log (sound : session.Sound strict) (reports : List Log.Message) :
    session.Moves strict (session.log reports) :=
  .of_same sound rfl rfl

/-- A draft that is kept in order can be adopted. -/
theorem Moves.adopt (sound : session.Sound strict) {id : ImageId} {draft : Draft}
    (kept : Draft.Kept strict { image := session.image id } draft) :
    session.Moves strict (session.adopt id draft) :=
  have placed := Moves.setImage sound kept.sound kept.grows
  placed.trans (.log placed.sound _)

end Session

/-- An action keeps a session in order. When it halts, it does so as described, and where it
    waits for good it keeps the session in order as well. -/
def Act.Keeps [NameHash] {α : Type} (strict : Bool) (stops : Halt → Session → Prop)
    (act : Act α) : Prop :=
  ∀ session : Session, session.Sound strict →
    Outcome (act session) (fun _ after => session.Moves strict after)
      (fun halt after => stops halt after ∧ (halt = .deadlocked → session.Moves strict after))

namespace Act

variable [NameHash]

/-- Notes down a remark. -/
def note (remark : Remark) : Act Unit :=
  modify fun session => session.note remark

section

variable {stopped : Halt → Session → Prop} {session : Session}

/-- Looking at an image gives the image. -/
@[simp] theorem outcome_image {done : Image → Session → Prop} (id : ImageId) :
    Outcome (image id session) done stopped ↔ done (session.image id) session := Iff.rfl

/-- Looking at a registry gives the registry. -/
@[simp] theorem outcome_registry {done : Registry → Session → Prop} (id : ImageId) :
    Outcome (registry id session) done stopped ↔ done (session.image id).registry session := Iff.rfl

/-- Changing a registry changes that of one image. -/
@[simp] theorem outcome_modifyRegistry {done : Unit → Session → Prop} (id : ImageId)
    (change : Registry → Registry) :
    Outcome (modifyRegistry id change session) done stopped ↔
      done () (session.setImage id
        { session.image id with registry := change (session.image id).registry }) := Iff.rfl

/-- Waiting ends at once, or never. -/
@[simp] theorem outcome_awaitRegistry {done : Unit → Session → Prop} (id : ImageId) :
    Outcome (awaitRegistry id session) done stopped ↔
      if session.isShut id then stopped .deadlocked session else done () session := by
  simp only [awaitRegistry, outcome_bind, outcome_get]
  split <;> exact Iff.rfl

/-- What a halt comes to if something else is done first on the way of a panic. -/
def passing (closing : Act Unit) (stopped : Halt → Session → Prop) : Halt → Session → Prop
  | .panicked panic, after =>
    Outcome (closing after) (fun _ last => stopped (.panicked panic) last) stopped
  | halt, after => stopped halt after

/-- Nothing is asked of a halt. -/
theorem passing_any (closing : Act Unit) (halt : Halt) (after : Session) :
    passing closing (fun _ _ => True) halt after := by
  cases halt with
  | panicked panic => exact outcome_any _
  | aborted panic => exact trivial
  | fatal error => exact trivial
  | deadlocked => exact trivial

/-- An action that is followed by another one ends as it does alone, but for what the other one
    does. -/
theorem outcome_ensuring {α : Type} {act : Act α} {closing : Act Unit} {done : α → Session → Prop} :
    Outcome (ensuring act closing session) done stopped ↔
      Outcome (act session)
        (fun value after => Outcome (closing after) (fun _ last => done value last) stopped)
        (passing closing stopped) := by
  simp only [ensuring, outcome_bind]
  unfold settled
  cases act session with
  | ok value after => simp only [outcome_ok, outcome_pure]
  | error halt after => cases halt <;> exact Iff.rfl

/-- An action in a registry waits for its turn, and leaves the registry when it ends or panics. -/
theorem outcome_inRegistry {α : Type} {act : Act α} {id : ImageId} {done : α → Session → Prop} :
    Outcome (inRegistry id act session) done stopped ↔
      if session.isShut id then stopped .deadlocked session
      else Outcome (act { session with entered := (id, session.thread) :: session.entered })
        (fun value after => done value { after with entered := session.entered })
        (passing (setEntered session.entered) stopped) := by
  simp only [inRegistry, outcome_bind, outcome_awaitRegistry, outcome_get]
  split
  · exact Iff.rfl
  · exact outcome_ensuring

/-- Where another thread is inside a registry, whoever wants to get in waits. -/
theorem inRegistry_of_shut {α : Type} {id : ImageId} (act : Act α)
    (shut : session.isShut id = true) : inRegistry id act session = .error .deadlocked session := by
  rw [eq_error_iff, outcome_inRegistry, if_pos shut]
  exact ⟨rfl, rfl⟩

/-- So does whoever wants to replace a method there. -/
theorem replaceMethod_of_shut {id : ImageId} (shut : session.isShut id = true)
    (handle : ClassHandle) (selector : Selector) (imp : Imp) :
    replaceMethod id handle selector imp session = .error .deadlocked session := by
  rw [eq_error_iff, replaceMethod, outcome_bind, outcome_awaitRegistry, if_pos shut]
  exact ⟨rfl, rfl⟩

/-- Nothing is replaced in a class that the image does not have. -/
theorem replaceMethod_of_unowned {id : ImageId} {handle : ClassHandle}
    (unowned : owns session id handle = false) (selector : Selector) (imp : Imp) :
    replaceMethod id handle selector imp session =
      if session.isShut id then .error .deadlocked session
      else .ok (.error (.classNotFound (session.label handle).name)) session := by
  split
  · rename_i isShut
    exact replaceMethod_of_shut isShut handle selector imp
  · rename_i opened
    rw [eq_ok_iff]
    simp only [replaceMethod, outcome_bind, outcome_awaitRegistry, opened, outcome_get, unowned,
      Bool.false_eq_true, if_false, outcome_pure, and_self]

/-- An action on a new thread is on it to its end, and the first thread goes on then. -/
theorem outcome_onNewThread {α : Type} {act : Act α} {done : α → Session → Prop} :
    Outcome (onNewThread act session) done stopped ↔
      Outcome (act { session with
          spawned := session.spawned + 1, thread := .spawned session.spawned })
        (fun value after => done value { after with thread := session.thread })
        (passing (switchTo session.thread) stopped) := by
  simp only [onNewThread, outcome_bind, outcome_get]
  exact outcome_ensuring

end

variable {α β : Type} {strict : Bool} {stops : Halt → Session → Prop}

/-- More halts may be allowed for. -/
theorem Keeps.mono {act : Act α} (keeps : Keeps strict stops act)
    {weaker : Halt → Session → Prop} (weaken : ∀ halt after, stops halt after → weaker halt after) :
    Keeps strict weaker act := by
  intro session sound
  apply (keeps session sound).mono
  · exact fun _ _ moves => moves
  · rintro halt after ⟨stopped, moves⟩
    exact ⟨weaken halt after stopped, moves⟩

/-- What holds of an action from where a session has moved on to, in terms of the session. -/
theorem resume {session between : Session} (moves : session.Moves strict between)
    {result : EStateM.Result Halt Session α} {done later : α → Session → Prop}
    (outcome : Outcome result done fun halt after =>
      stops halt after ∧ (halt = .deadlocked → between.Moves strict after))
    (ended : ∀ value after, done value after → later value after) :
    Outcome result later fun halt after =>
      stops halt after ∧ (halt = .deadlocked → session.Moves strict after) := by
  apply outcome.mono ended
  rintro halt after ⟨stopped, further⟩
  exact ⟨stopped, fun waits => moves.trans (further waits)⟩

/-- A value changes nothing. -/
theorem Keeps.pure (value : α) : Keeps strict stops (Pure.pure value) :=
  fun _ sound => .refl sound

/-- Two actions in a row keep a session in order if both do. -/
theorem Keeps.bind {first : Act α} {next : α → Act β} (keeps : Keeps strict stops first)
    (further : ∀ value, Keeps strict stops (next value)) : Keeps strict stops (first >>= next) := by
  intro session sound
  rw [outcome_bind]
  apply (keeps session sound).imp
  intro value between moves
  exact resume moves (further value between moves.sound) fun _ after again => moves.trans again

/-- A change of the state that moves the session on. -/
theorem Keeps.modify {change : Session → Session}
    (moves : ∀ session : Session, session.Sound strict → session.Moves strict (change session)) :
    Keeps strict stops (modify change : Act PUnit) := moves

/-- Looking at the session changes nothing. -/
theorem Keeps.get : Keeps strict stops (MonadState.get : Act Session) :=
  fun _ sound => .refl sound

/-- Neither does looking at an image. -/
theorem image_keeps (id : ImageId) : Keeps strict stops (image id) :=
  fun _ sound => .refl sound

/-- A halt that is allowed for changes nothing. -/
theorem Keeps.throw {halt : Halt} (stopped : ∀ session, stops halt session) :
    Keeps strict stops (throw halt : Act α) :=
  fun session sound => ⟨stopped session, fun _ => .refl sound⟩

/-- Events leave all images as they are. -/
theorem emit_keeps (event : Event) : Keeps strict stops (emit event) :=
  .modify fun _ sound => .of_same sound rfl rfl

/-- So do reports. -/
theorem report_keeps (level : Log.Level) (text : String) :
    Keeps strict stops (report level text) :=
  .modify fun _ sound => .log sound _

/-- So do notes. -/
theorem note_keeps (remark : Remark) : Keeps strict stops (note remark) :=
  .modify fun _ sound => .note sound remark

/-- Changing what is neither registry nor selectors of an image. -/
theorem modifyImage_keeps (id : ImageId) {change : Image → Image}
    (registry : ∀ image, (change image).registry = image.registry)
    (selectors : ∀ image, (change image).selectors = image.selectors) :
    Keeps strict stops (modifyImage id change) := by
  refine .modify fun session sound => .setImage sound ⟨?_, ?_, ?_⟩ ?_
  · rw [registry]
    exact (sound.images id).registry
  · rw [selectors]
    exact (sound.images id).selectors
  · rw [registry]
    exact (sound.images id).settled
  · rw [registry]
    exact .refl _

/-- What is known of an edit is known of its result, and the session has adopted the draft. A
    panic halts the session. -/
theorem edit_outcome {session : Session} {id : ImageId} {change : Edit α}
    {done : α → Draft → Prop} {stopped : Failure → Draft → Prop}
    (outcome : Outcome (change { image := session.image id }) done stopped) :
    Outcome (edit id change session)
      (fun result after => ∃ draft, after = session.adopt id draft ∧
        match result with
        | .ok (value, _) => done value draft
        | .error error => stopped (.refused error) draft)
      (fun halt after => ∃ panic draft, halt = .panicked panic ∧ after = session.adopt id draft ∧
        stopped (.panicked panic) draft) := by
  unfold edit
  cases ended : change { image := session.image id } with
  | ok value draft =>
    rw [ended] at outcome
    exact ⟨draft, rfl, outcome⟩
  | error failure draft =>
    rw [ended] at outcome
    cases failure with
    | refused error => exact ⟨draft, rfl, outcome⟩
    | panicked panic => exact ⟨panic, draft, rfl, rfl, outcome⟩

/-- Leaving a registry or a thread on the way of a panic does not turn it into a wait. -/
theorem passing_modify {change : Session → Session} {base : Session}
    (panics : ∀ panic session after, stops (.panicked panic) session →
      stops (.panicked panic) after)
    (halt : Halt) (after : Session)
    (given : stops halt after ∧ (halt = .deadlocked → base.Moves strict after)) :
    passing (modify change) (fun halt after =>
      stops halt after ∧ (halt = .deadlocked → base.Moves strict after)) halt after := by
  cases halt with
  | panicked panic =>
    exact ⟨panics panic _ _ given.1, fun impossible => by cases impossible⟩
  | aborted panic => exact given
  | fatal error => exact given
  | deadlocked => exact given

/-- An action does the same inside a registry, and may have to wait for it. -/
theorem inRegistry_keeps (id : ImageId) {act : Act α} (waits : ∀ after, stops .deadlocked after)
    (panics : ∀ panic session after, stops (.panicked panic) session →
      stops (.panicked panic) after)
    (keeps : Keeps strict stops act) : Keeps strict stops (inRegistry id act) := by
  intro session sound
  rw [outcome_inRegistry]
  split
  · exact ⟨waits session, fun _ => .refl sound⟩
  have inside : session.Moves strict
      { session with entered := (id, session.thread) :: session.entered } :=
    .of_same sound rfl rfl
  apply (resume inside (keeps _ inside.sound) fun _ _ moves => inside.trans moves).mono
  · exact fun _ _ moves => moves.trans (.of_same moves.sound rfl rfl)
  · exact passing_modify panics

/-- An action does the same on another thread. -/
theorem onNewThread_keeps {act : Act α}
    (panics : ∀ panic session after, stops (.panicked panic) session →
      stops (.panicked panic) after)
    (keeps : Keeps strict stops act) : Keeps strict stops (onNewThread act) := by
  intro session sound
  rw [outcome_onNewThread]
  have begun : session.Moves strict { session with
      spawned := session.spawned + 1, thread := .spawned session.spawned } :=
    .of_same sound rfl rfl
  apply (resume begun (keeps _ begun.sound) fun _ _ moves => begun.trans moves).mono
  · exact fun _ _ moves => moves.trans (.of_same moves.sound rfl rfl)
  · exact passing_modify panics

/-- An edit that keeps an image in order keeps the session so, and halts where it panics. -/
theorem edit_keeps (id : ImageId) {change : Edit α} (keeps : Edit.Keeps strict change)
    (panics : ∀ draft : Draft, draft.image.Sound strict → ∀ panic left,
      change draft = .error (.panicked panic) left → ∀ after, stops (.panicked panic) after) :
    Keeps strict stops (edit id change) := by
  intro session sound
  have kept := keeps { image := session.image id } (sound.images id)
  have halted := panics { image := session.image id } (sound.images id)
  unfold edit
  cases ended : change { image := session.image id } with
  | ok value draft =>
    rw [ended] at kept
    exact .adopt sound kept
  | error failure draft =>
    rw [ended] at kept
    cases failure with
    | refused error => exact .adopt sound (kept error rfl)
    | panicked panic => exact ⟨halted panic draft ended _, fun impossible => by cases impossible⟩

/-- Interning keeps a session in order. It can panic at the load of the selector table. -/
theorem intern_keeps (interning : ∀ after, stops (.panicked .productOverflow) after) (id : ImageId)
    (signature : Signature) : Keeps strict stops (edit id (Edit.intern signature)) := by
  refine edit_keeps id (fun draft sound => ?_) fun draft sound panic left ended after => ?_
  · exact (Edit.intern_outcome sound signature).mono (fun _ _ given => given.2.1)
      fun _ _ given _ _ => given.2.1
  · have outcome := @Edit.intern_outcome _ strict draft sound signature
    rw [ended] at outcome
    obtain ⟨impossible | same, -⟩ := outcome
    · cases impossible
    · cases same
      exact interning after

/-- Any way to halt but with a panic is allowed, and so is a panic while interning. Which panics
    are does not depend on where. -/
structure Tolerant (stops : Halt → Session → Prop) : Prop where
  calm : ∀ halt, (∀ panic, halt ≠ .panicked panic) → ∀ after, stops halt after
  panics : ∀ panic session after, stops (.panicked panic) session → stops (.panicked panic) after
  interning : ∀ after, stops (.panicked .productOverflow) after

/-- Any way to halt. -/
abbrev anyhow : Halt → Session → Prop := fun _ _ => True

/-- Whoever allows for every halt tolerates all of them. -/
theorem tolerant_anyhow : Tolerant anyhow :=
  ⟨fun _ _ _ => trivial, fun _ _ _ _ => trivial, fun _ => trivial⟩

/-- Keeping sessions in order goes by the parts of an action. -/
theorem keeps_sequential (tolerant : Tolerant stops) : Sequential (Keeps strict stops) where
  pure := .pure
  throw halt calm := .throw (tolerant.calm halt calm)
  bind := .bind
  read _ continued session sound := continued session session sound
  modifyImage id _ alike := modifyImage_keeps id (fun image => by rw [alike image])
    fun image => by rw [alike image]

/-- The section around an action is left when the action ends, and on the way of a panic,
    which goes on. -/
theorem inSection_keeps (tolerant : Tolerant stops) (id : ImageId) (object : Object) {act : Act α}
    (keeps : Keeps strict stops act) : Keeps strict stops (inSection id object act) := by
  have sequential : Sequential (Keeps strict stops) := keeps_sequential tolerant
  refine sequential.bind (sequential.enterSection id object) fun _ session sound => ?_
  rw [outcome_ensuring]
  apply (keeps session sound).mono
  · intro value between moves
    exact resume moves (sequential.exitSection id object between moves.sound)
      fun _ _ further => moves.trans further
  · rintro halt between given
    cases halt with
    | panicked panic =>
      simp only [passing, exitSection, leaveSection, outcome_bind, outcome_get]
      cases (between.image id).sections.leave between.thread object with
      | ok sections =>
        exact ⟨tolerant.panics panic _ _ given.1, fun impossible => by cases impossible⟩
      | error error =>
        exact ⟨tolerant.calm _ (fun _ impossible => by cases impossible) _,
          fun impossible => by cases impossible⟩
    | aborted panic => exact given
    | fatal error => exact given
    | deadlocked => exact given

/-- A panic that is stopped on its way does not look like waiting. -/
theorem sealedOff_keeps (tolerant : Tolerant stops) {act : Act α} (keeps : Keeps strict stops act) :
    Keeps strict stops (sealedOff act) := by
  intro session sound
  have outcome := keeps session sound
  unfold sealedOff
  cases ended : act session with
  | ok value after =>
    rw [ended] at outcome
    exact outcome
  | error halt after =>
    rw [ended] at outcome
    cases halt with
    | panicked panic =>
      exact ⟨tolerant.calm _ (fun _ impossible => by cases impossible) _,
        fun impossible => by cases impossible⟩
    | aborted panic => exact outcome
    | fatal error => exact outcome
    | deadlocked => exact outcome

/-- Whatever requests are put together from keeps a session in order. -/
theorem keeps_composed (tolerant : Tolerant stops) : Composed (Keeps strict stops) where
  toSequential := keeps_sequential tolerant
  report := report_keeps
  emit _ _ := emit_keeps _
  aside aside := .modify fun session sound =>
    .of_same sound (by rw [aside.same]) (by rw [aside.same])
  intern := intern_keeps tolerant.interning
  sealedOff := sealedOff_keeps tolerant
  onNewThread := onNewThread_keeps tolerant.panics
  inRegistry id _ keeps := inRegistry_keeps id
    (tolerant.calm _ fun _ impossible => by cases impossible) tolerant.panics keeps
  inSection := inSection_keeps tolerant

end Act

end LateBinding
