import LateBinding.Proofs.Dispatching

/-!
# Implementations that leave images alone

An implementation is passive if it returns and leaves every image as it was, on the thread it
was called on and in the registries that it was called in. With passive implementations a
program does what its edits do: the hooks and the `initialize` that are called in between change
nothing.

So the answer to a message to a class of a settled image is known beforehand, unless it is held
up by another thread. A chain that is refused gives the refusal. Otherwise the class and those
above it are prepared, which builds tables and marks classes; neither has a part in what a
selector means, so the answer is what the selector meant before.
-/

namespace LateBinding

open Registry Session

/-- The same thread is running, inside the same registries. -/
structure Session.Situated [NameHash] (before after : Session) : Prop where
  thread : after.thread = before.thread
  entered : after.entered = before.entered

/-- An action returns and leaves all images as they are, where it was called. -/
def Act.Quiet [NameHash] {α : Type} (act : Act α) : Prop :=
  ∀ session : Session, Outcome (act session)
    (fun _ after => after.images = session.images ∧ session.Situated after) fun _ _ => False

/-- Implementations do nothing to any image. -/
def Behaviour.Passive [NameHash] (behaviour : Behaviour) : Prop :=
  ∀ call, (behaviour.body call).Quiet

namespace Session.Situated

variable [NameHash] {session between after : Session}

/-- A session is where it is. -/
theorem refl (session : Session) : session.Situated session := ⟨rfl, rfl⟩

/-- Three sessions are in one place if the first two are and the last two. -/
theorem trans (first : session.Situated between) (second : between.Situated after) :
    session.Situated after :=
  ⟨second.thread.trans first.thread, second.entered.trans first.entered⟩

/-- Whether a registry is shut depends on where the session is. -/
theorem isShut (situated : session.Situated after) (id : ImageId) :
    after.isShut id = session.isShut id := by
  rw [Session.isShut, situated.thread, situated.entered, Session.isShut]

end Session.Situated

/-- Implementations that do nothing are passive. -/
theorem Behaviour.idle_passive [NameHash] : Behaviour.idle.Passive :=
  fun _ session => ⟨rfl, .refl session⟩

namespace Act

variable [NameHash] {α β : Type}

/-- A value is quiet. -/
theorem Quiet.pure (value : α) : Quiet (Pure.pure value : Act α) :=
  fun session => ⟨rfl, .refl session⟩

/-- Two quiet actions in a row are quiet. -/
theorem Quiet.bind {first : Act α} {next : α → Act β} (quiet : Quiet first)
    (further : ∀ value, Quiet (next value)) : Quiet (first >>= next) := by
  intro session
  rw [outcome_bind]
  apply (quiet session).imp
  rintro value between ⟨same, situated⟩
  exact (further value between).imp fun _ after again =>
    ⟨again.1.trans same, situated.trans again.2⟩

/-- So are those for the members of a list. -/
theorem Quiet.forM {act : β → Act PUnit} (quiet : ∀ item, Quiet (act item)) (items : List β) :
    Quiet (items.forM act) := by
  induction items with
  | nil => exact .pure _
  | cons item rest inductionHypothesis => exact (quiet item).bind fun _ => inductionHypothesis

/-- Looking at an image is quiet. -/
theorem image_quiet (id : ImageId) : Quiet (image id) := fun session => ⟨rfl, .refl session⟩

/-- A report changes no image. -/
theorem report_quiet (level : Log.Level) (text : String) : Quiet (report level text) :=
  fun _ => ⟨rfl, rfl, rfl⟩

/-- Neither does a note. -/
theorem note_quiet (remark : Remark) : Quiet (note remark) := fun _ => ⟨rfl, rfl, rfl⟩

variable {behaviour : Behaviour}

/-- Noting down when an implementation begins and ends is nothing to an image. -/
theorem noting_passive (passive : behaviour.Passive) : behaviour.noting.Passive :=
  fun call => (note_quiet _).bind fun _ => (passive call).bind fun _ => note_quiet _

/-- A call of a passive implementation is quiet. -/
theorem call_quiet (passive : behaviour.Passive) (made : Call) : Quiet (call behaviour made) := by
  have guarded : Quiet (sealedOff (behaviour.body made)) := by
    intro session
    have outcome := passive made session
    unfold sealedOff
    cases ended : behaviour.body made session with
    | ok value after =>
      rw [ended] at outcome
      exact outcome
    | error halt after =>
      rw [ended] at outcome
      exact outcome.elim
  have emitted (event : Event) : Quiet (emit event) := fun _ => ⟨rfl, rfl, rfl⟩
  have looking : Quiet (MonadState.get : Act Session) := fun session => ⟨rfl, .refl session⟩
  exact looking.bind fun _ => (emitted _).bind fun _ => guarded

/-- So are the calls of hooks. -/
theorem runHooks_quiet (passive : behaviour.Passive) (id : ImageId) (hooks : List LoadHook) :
    Quiet (runHooks behaviour id hooks) :=
  .forM (fun _ => (report_quiet _ _).bind fun _ => (image_quiet id).bind fun _ =>
    call_quiet passive _) hooks

/-- So is that of an `initialize`. -/
theorem callInit_quiet (passive : behaviour.Passive) (id : ImageId) (target : ClassId) :
    Quiet (callInit behaviour id target) := by
  refine (image_quiet id).bind fun image => ?_
  split
  · exact (report_quiet _ _).bind fun _ => call_quiet passive _
  · exact .pure _

/-- With passive implementations the images are those that the edit leaves. -/
theorem editAndRun_passive (passive : behaviour.Passive) {session : Session} {id : ImageId}
    {change : Edit α} {done : α → Draft → Prop} {stopped : Failure → Draft → Prop}
    (outcome : Outcome (change { image := session.image id }) done stopped) :
    Outcome (editAndRun behaviour id change session)
      (fun result after => ∃ draft, after.images = (session.adopt id draft).images ∧
        session.Situated after ∧ match result with
          | .ok value => done value draft
          | .error error => stopped (.refused error) draft)
      (fun _ _ => ∃ panic draft, stopped (.panicked panic) draft) := by
  simp only [editAndRun, outcome_bind]
  apply (edit_outcome outcome).mono
  · rintro result _ ⟨draft, rfl, given⟩
    cases result with
    | error error => exact ⟨draft, rfl, ⟨rfl, rfl⟩, given⟩
    | ok value =>
      simp only [outcome_bind, outcome_pure]
      exact (runHooks_quiet passive id value.2 _).certain fun _ after quiet =>
        ⟨draft, quiet.1, ⟨quiet.2.thread, quiet.2.entered⟩, given⟩
  · rintro _ after ⟨panic, draft, -, -, given⟩
    exact ⟨panic, draft, given⟩

/-- An edit that is made inside a registry leaves the same images. It waits if another thread is
    there. -/
theorem inRegistry_passive (passive : behaviour.Passive) {session : Session} {id : ImageId}
    {change : Edit α} {done : α → Draft → Prop} {stopped : Failure → Draft → Prop}
    (outcome : Outcome (change { image := session.image id }) done stopped) :
    Outcome (inRegistry id (editAndRun behaviour id change) session)
      (fun result after => session.isShut id = false ∧ ∃ draft,
        after.images = (session.adopt id draft).images ∧ session.Situated after ∧
        match result with
        | .ok value => done value draft
        | .error error => stopped (.refused error) draft)
      (fun halt _ => (session.isShut id = true ∧ halt = .deadlocked) ∨
        ∃ panic draft, stopped (.panicked panic) draft) := by
  rw [outcome_inRegistry]
  split
  · rename_i shut
    exact .inl ⟨shut, rfl⟩
  · rename_i opened
    let inside : Session := { session with entered := (id, session.thread) :: session.entered }
    refine (@editAndRun_passive _ _ _ passive inside id _ _ _ outcome).mono ?_ ?_
    · rintro result after ⟨draft, images, situated, given⟩
      exact ⟨Bool.eq_false_iff.mpr opened, draft, images, ⟨situated.thread, rfl⟩, given⟩
    · intro halt after stop
      cases halt <;> exact .inr stop

end Act

/-- The image of a session that has adopted a draft is that of the draft. -/
theorem Session.image_of_adopted [NameHash] {session after : Session} {id : ImageId} {draft : Draft}
    (images : after.images = (session.adopt id draft).images)
    (existing : id < session.images.size) :
    after.image id = draft.image ∧ after.images.size = session.images.size := by
  have adopted : after.images = (session.setImage id draft.image).images := images
  constructor
  · have replaced := session.image_setImage id id draft.image
    rwa [if_pos ⟨rfl, existing⟩, Session.image, ← adopted] at replaced
  · rw [adopted]
    exact Array.size_setIfInBounds

/-- Nothing can be raised in a settled registry. -/
theorem Draft.Raises.eq_of_settled [NameHash] {before after : Draft} {order : List ClassId}
    (raises : before.Raises order after) (settled : before.image.registry.Settled) :
    after = before := by
  cases raises with
  | none => rfl
  | first raised _ =>
    obtain ⟨path, ascent⟩ := raised.raisable.rooted
    have loaded := settled _ path raised.raisable.inside ascent
    exact absurd raised.raisable.registered (stage_ne_registered_of_reached loaded)

/-- Marks have no part in what a selector means. -/
theorem Registry.resolve_mark {registry : Registry} (formed : registry.Formed) {target : ClassId}
    {change : ClassEntry → ClassEntry}
    (kept : ∀ entry, change entry = { entry with
      stage := (change entry).stage
      initializing := (change entry).initializing })
    (formedAfter : (registry.modify target change).Formed) (ref : SideRef) (selector : Selector) :
    (registry.modify target change).resolve ref selector = registry.resolve ref selector := by
  refine formed.resolve_congr formedAfter (fun _ => True) (fun _ _ _ _ => trivial) ?_ ?_ ref
    trivial selector
  · exact fun id _ => registry.field_modify target change ClassEntry.superclass (by rw [kept]) id
  · intro id side _
    exact registry.field_modify target change (·.declarations side) (by rw [kept]; rfl) id

/-- An image of the session has grown and is settled, and selectors mean what they meant. -/
structure Session.Readied [NameHash] (id : ImageId) (before after : Session) : Prop where
  situated : before.Situated after
  count : after.images.size = before.images.size
  sound : (after.image id).Sound true
  grows : (before.image id).registry.Grows (after.image id).registry
  meaning : ∀ ref selector, (after.image id).registry.resolve ref selector =
    (before.image id).registry.resolve ref selector

namespace Session.Readied

variable [NameHash] {session between after : Session} {id : ImageId}

/-- Where nothing happens nothing is readied. -/
theorem refl (sound : (session.image id).Sound true) : session.Readied id session :=
  ⟨.refl session, rfl, sound, .refl _, fun _ _ => rfl⟩

/-- What is readied twice in a row is readied. -/
theorem trans (first : session.Readied id between) (second : between.Readied id after) :
    session.Readied id after where
  situated := first.situated.trans second.situated
  count := second.count.trans first.count
  sound := second.sound
  grows := first.grows.trans second.grows
  meaning ref selector := (second.meaning ref selector).trans (first.meaning ref selector)

/-- A session with the same images readies nothing. -/
theorem of_images (sound : (session.image id).Sound true) (situated : session.Situated after)
    (images : after.images = session.images) : session.Readied id after := by
  have same : after.image id = session.image id := by rw [image, images, image]
  refine ⟨situated, by rw [images], ?_, ?_, fun _ _ => ?_⟩
  · rw [same]
    exact sound
  · rw [same]
    exact .refl _
  · rw [same]

/-- A class may be marked when that keeps the image in order. -/
theorem mark (existing : id < session.images.size) (formed : (session.image id).registry.Formed)
    {target : ClassId} {change : ClassEntry → ClassEntry}
    (kept : ∀ entry, change entry = { entry with
      stage := (change entry).stage
      initializing := (change entry).initializing })
    (marked : Image.Sound true { session.image id with
      registry := (session.image id).registry.modify target change } ∧
        (session.image id).registry.Grows ((session.image id).registry.modify target change)) :
    session.Readied id (session.setImage id { session.image id with
      registry := (session.image id).registry.modify target change }) := by
  have replaced := session.image_setImage id id { session.image id with
    registry := (session.image id).registry.modify target change }
  rw [if_pos ⟨rfl, existing⟩] at replaced
  refine ⟨⟨rfl, rfl⟩, Array.size_setIfInBounds, ?_, ?_, fun ref selector => ?_⟩
  · rw [replaced]
    exact marked.1
  · rw [replaced]
    exact marked.2
  · rw [replaced]
    exact resolve_mark formed kept marked.1.registry.formed ref selector

end Session.Readied

/-- A message to a class waits: another thread is inside the registry, and the class is not
    initialized yet. -/
def Session.isHeldUp [NameHash] (session : Session) (id : ImageId) (target : ClassId) : Bool :=
  session.isShut id && !(session.image id).registry.reached target .initialized

namespace Act

variable [NameHash] {behaviour : Behaviour} {session : Session} {id : ImageId}

/-- A class that has both tables is taken to its last stage. -/
theorem finishPreparing_passive (passive : behaviour.Passive)
    (sound : (session.image id).Sound true) {target : ClassId} (tabled : Tabled session id target) :
    Outcome (finishPreparing behaviour id target session)
      (fun _ after => session.Readied id after) (fun _ _ => False) := by
  have loaded := sound.registry.tabled.loaded _ (tabled .inst)
  have existing := image_lt_of_class_lt (lt_size_of_reached loaded)
  simp only [finishPreparing, outcome_bind, outcome_get]
  split
  · exact .refl sound
  · simp only [outcome_bind, outcome_modifyRegistry]
    have begun := Readied.mark existing sound.registry.formed (fun _ => rfl)
      (sound.beginInit session.thread tabled)
    apply (callInit_quiet passive id target _).imp
    rintro _ called ⟨same, situated⟩
    have moved := begun.trans (.of_images begun.sound situated same)
    have ended := Readied.mark (moved.count ▸ existing) moved.sound.registry.formed (fun _ => rfl)
      (moved.sound.endInit fun side => moved.grows.tables ⟨target, side⟩ (tabled side))
    exact (moved.trans ended).trans (.of_images ended.sound ⟨rfl, rfl⟩ rfl)

/-- A class of a settled image whose names lead to a root is made ready. -/
theorem makeReady_passive (passive : behaviour.Passive) (sound : (session.image id).Sound true)
    {target : ClassId} {path : List ClassId} (inside : target < (session.image id).registry.size)
    (ascent : (session.image id).registry.Ascent target path) :
    Outcome (editAndRun behaviour id (readyTables target) session)
      (fun result after => result = .ok () ∧ session.Readied id after ∧ Tabled after id target)
      (fun _ _ => False) := by
  have chained : (session.image id).registry.chain target = .ok path :=
    (chain_eq_ok_iff sound.registry.formed.lt_of_find? inside).mpr ascent
  have outcome := @Edit.readyTables_outcome _ true { image := session.image id } sound target inside
  apply (editAndRun_passive passive outcome).mono
  · rintro result after ⟨draft, images, situated, given⟩
    obtain ⟨image, count⟩ := image_of_adopted images (image_lt_of_class_lt inside)
    cases result with
    | ok value =>
      obtain ⟨⟨order, raised, raises, retabled⟩, kept, tabled⟩ := given
      cases raises.eq_of_settled (sound.settled rfl)
      refine ⟨rfl, ⟨situated, count, ?_, ?_, fun ref selector => ?_⟩, fun side => ?_⟩
      · rw [image]
        exact kept.sound
      · rw [image]
        exact kept.grows
      · rw [image]
        exact resolve_of_bare retabled.bare ref selector
      · rw [image]
        exact tabled side
    | error error =>
      rcases given with ⟨-, impossible, -⟩ | ⟨error, refused, -⟩
      · cases impossible
      · rw [chained] at refused
        cases refused
  · rintro _ after ⟨panic, draft, ⟨-, impossible, -⟩ | ⟨error, refused, -⟩⟩
    · cases impossible
    · rw [chained] at refused
      cases refused

/-- Preparing along the path of a class leaves the meaning of selectors as it is. -/
theorem prepareAlong_passive (passive : behaviour.Passive) (sound : (session.image id).Sound true)
    {chain : List ClassId}
    (along : ∀ target ∈ chain.head?, target < (session.image id).registry.size ∧
      (session.image id).registry.Ascent target chain) :
    Outcome (prepareAlong behaviour id chain session)
      (fun result after => result = .ok () ∧ session.Readied id after ∧
        ∀ target ∈ chain.head?, Tabled after id target)
      (fun _ _ => False) := by
  induction chain generalizing session with
  | nil => exact ⟨rfl, .refl sound, fun _ impossible => by cases impossible⟩
  | cons target above inductionHypothesis =>
    obtain ⟨inside, ascent⟩ := along target rfl
    simp only [prepareAlong, outcome_bind, outcome_get]
    split
    · rename_i served
      refine ⟨rfl, .refl sound, ?_⟩
      rintro _ ⟨rfl⟩ side
      exact sound.registry.tabled.ready target (isPrepared_of_serves served) side
    · simp only [outcome_bind]
      apply (makeReady_passive passive sound inside ascent).imp
      rintro _ ready ⟨rfl, readied, tabled⟩
      have upwards := readied.grows.ascent_tail sound.registry.formed ascent
      simp only [outcome_bind]
      apply (inductionHypothesis readied.sound upwards).imp
      rintro _ between ⟨rfl, further, -⟩
      have moved := readied.trans further
      have stillTabled : Tabled between id target :=
        fun side => further.grows.tables _ (tabled side)
      simp only [outcome_bind, outcome_pure]
      apply (finishPreparing_passive passive moved.sound stillTabled).imp
      intro _ after last
      refine ⟨trivial, moved.trans last, ?_⟩
      rintro _ ⟨rfl⟩ side
      exact last.grows.tables _ (stillTabled side)

/-- A class of a settled image is prepared, if its names lead to a root. -/
theorem prepare_passive (passive : behaviour.Passive) (sound : (session.image id).Sound true)
    {target : ClassId} {path : List ClassId} (inside : target < (session.image id).registry.size)
    (chained : (session.image id).registry.chain target = .ok path)
    (free : session.isHeldUp id target = false) (side : Side) :
    Outcome (prepare behaviour id ⟨id, target, side⟩ session)
      (fun result after => result = .ok () ∧ session.Readied id after ∧ Tabled after id target)
      (fun _ _ => False) := by
  have ascent := (chain_eq_ok_iff sound.registry.formed.lt_of_find? inside).mp chained
  have ready {session : Session} (sound : (session.image id).Sound true)
      (prepared : (session.image id).registry.isPrepared target = true) :
      Tabled session id target :=
    fun side => sound.registry.tabled.ready target prepared side
  simp only [prepare, outcome_bind, outcome_get]
  split
  · rename_i initialized
    exact ⟨rfl, .refl sound, ready sound (isPrepared_eq_true.mpr (.inl initialized))⟩
  · rename_i unfinished
    have opened : session.isShut id = false := by
      rw [registryOf] at unfinished
      rw [isHeldUp, Bool.eq_false_iff.mpr unfinished, Bool.not_false, Bool.and_true] at free
      exact free
    rw [outcome_inRegistry, if_neg (Bool.eq_false_iff.mp opened)]
    let entering : Session := { session with entered := (id, session.thread) :: session.entered }
    have leaving {after : Session} (readied : entering.Readied id after) :
        session.Readied id { after with entered := session.entered } :=
      ⟨⟨readied.situated.thread, rfl⟩, readied.count, readied.sound, readied.grows,
        readied.meaning⟩
    have owned : owns entering id ⟨id, target, side⟩ = true := by
      rw [owns, beq_self_eq_true, Bool.true_and, decide_eq_true_eq]
      exact inside
    suffices outcome : Outcome (prepareInside behaviour id ⟨id, target, side⟩ entering)
        (fun result after => result = .ok () ∧ entering.Readied id after ∧
          Tabled after id target) (fun _ _ => False) by
      refine outcome.mono ?_ fun _ _ impossible => impossible.elim
      rintro result after ⟨succeeds, readied, tabled⟩
      exact ⟨succeeds, leaving readied, tabled⟩
    have soundInside : (entering.image id).Sound true := sound
    have chainedInside : (entering.image id).registry.chain target = .ok path := chained
    simp only [prepareInside, outcome_bind, outcome_get, owned, chainedInside]
    split
    · rename_i served
      exact ⟨rfl, .refl soundInside, ready soundInside (isPrepared_of_serves served)⟩
    · obtain ⟨above, rfl⟩ := ascent.head
      refine (prepareAlong_passive passive soundInside ?_).imp ?_
      · rintro _ ⟨rfl⟩
        exact ⟨inside, ascent⟩
      · rintro _ after ⟨result, readied, tabled⟩
        exact ⟨result, readied, tabled _ rfl⟩

/-- With passive implementations a message to a class of a settled image is answered with the
    refusal of its chain, or with what the selector means. -/
theorem dispatch_passive (passive : behaviour.Passive) (sound : (session.image id).Sound true)
    {target : ClassId} (inside : target < (session.image id).registry.size)
    (free : session.isHeldUp id target = false) (side : Side) (selector : Selector) :
    ∃ after, dispatch behaviour id ⟨id, target, side⟩ selector session =
      .ok (((session.image id).registry.chain target).map fun _ =>
        (session.image id).registry.resolve ⟨target, side⟩ selector) after := by
  suffices outcome : Outcome (dispatch behaviour id ⟨id, target, side⟩ selector session)
      (fun result _ => result = ((session.image id).registry.chain target).map fun _ =>
        (session.image id).registry.resolve ⟨target, side⟩ selector) (fun _ _ => False) by
    cases ended : dispatch behaviour id ⟨id, target, side⟩ selector session with
    | ok result after =>
      rw [ended] at outcome
      exact ⟨after, by rw [outcome]⟩
    | error halt after =>
      rw [ended] at outcome
      exact outcome.elim
  cases chained : (session.image id).registry.chain target with
  | error error =>
    have owned : owns session id ⟨id, target, side⟩ = true := by
      rw [owns, beq_self_eq_true, Bool.true_and, decide_eq_true_eq]
      exact inside
    have unfinished := (@prepareInside_of_chain_error _ behaviour _ _ sound.registry _ _ owned
      chained).2
    have opened : session.isShut id = false := by
      rw [registryOf] at unfinished
      rw [isHeldUp, unfinished, Bool.not_false, Bool.and_true] at free
      exact free
    simp only [dispatch, outcome_bind, prepare_of_chain_error sound.registry owned chained, opened,
      Bool.false_eq_true, if_false, outcome_ok, outcome_pure]
    rfl
  | ok path =>
    simp only [dispatch, outcome_bind]
    apply (prepare_passive passive sound inside chained free side).imp
    rintro _ after ⟨rfl, readied, tabled⟩
    simp only [outcome_bind, outcome_get, outcome_pure, registryOf]
    rw [readied.sound.registry.lookup_eq (tabled side), readied.meaning]
    rfl

end Act

end LateBinding
