import LateBinding.Proofs.Presence
import LateBinding.Proofs.Recovery
import LateBinding.Proofs.Renewal

/-!
# Classes that are messaged

The first message to a class builds tables for it and for the classes above it. Where tables are
not built early, nothing else does. So whichever classes a program sends messages to, only these
and those above them have tables, and the tables are closed upwards on both sides.

A program may do anything in between, in particular register classes that a message was meant
for, and it may catch panics. What is shown of an action is therefore what it makes of any session
in which the images are upright, however it ends. A message is for a name, and a class that has
been found by a name is found by it from then on.
-/

namespace LateBinding

open Registry

/-- A class is on the path of a class that has one of these names. -/
def Registry.Within (registry : Registry) (messaged : String → Prop) (id : ClassId) : Prop :=
  ∃ name target path, messaged name ∧ registry.find? name = some target ∧
    registry.Ascent target path ∧ id ∈ path

/-- An image is in order, also as to which sides have tables. If they are built early, all loaded
    classes have theirs. If they are built late, only classes have them that messages were for, and
    those above. -/
structure Image.Upright [NameHash] (messaged : String → Prop) (image : Image) : Prop where
  sound : image.Sound false
  furnished : image.config.eager = true → image.registry.Furnished
  paired : image.config.eager = false → image.registry.Paired
  within : image.config.eager = false → ∀ ref, (image.registry.table? ref).isSome = true →
    image.registry.Within messaged ref.id

/-- A class within the named ones is within them when the registry has grown. -/
theorem Registry.Within.grows {before after : Registry} {messaged : String → Prop} {id : ClassId}
    (within : before.Within messaged id) (formed : before.Formed) (grows : before.Grows after) :
    after.Within messaged id := by
  obtain ⟨name, target, path, isMessaged, found, ascent, member⟩ := within
  exact ⟨name, target, path, isMessaged, grows.found name target found,
    grows.ascent formed (formed.lt_of_find? name target found) ascent, member⟩

/-- More classes may be touched. -/
theorem Draft.Rises.mono [NameHash] {before after : Draft} {touched more : ClassId → Prop}
    (rises : before.Rises touched after) (wider : ∀ id, touched id → more id) :
    before.Rises more after :=
  ⟨rises.toKept, rises.config, rises.furnished, rises.paired, fun late ref present =>
    (rises.spared late ref present).imp_right (wider ref.id)⟩

namespace Image

variable [NameHash] {messaged : String → Prop} {image : Image}

/-- An upright image stays so if nothing but classes on the paths of messaged ones is touched. -/
theorem Upright.rises (upright : image.Upright messaged) {after : Draft}
    (rises : Draft.Rises (image.registry.Within messaged) { image } after) :
    after.image.Upright messaged where
  sound := rises.sound
  furnished early :=
    rises.furnished (rises.config ▸ early) (upright.furnished (rises.config ▸ early))
  paired late := rises.paired (rises.config ▸ late) (upright.paired (rises.config ▸ late))
  within late ref present := by
    have within := (rises.spared (rises.config ▸ late) ref present).elim
      (upright.within (rises.config ▸ late) ref) fun touched => touched
    exact within.grows upright.sound.registry.formed rises.grows

/-- An image without classes is upright. -/
theorem upright_of_empty (sound : image.Sound false) (empty : image.registry = .empty) :
    image.Upright messaged := by
  have bare : ∀ ref, (image.registry.table? ref).isSome = false := by
    intro ref
    by_contra present
    rw [Bool.not_eq_false] at present
    have inside := lt_size_of_table present
    rw [empty] at inside
    exact Nat.not_lt_zero _ inside
  refine ⟨sound, fun _ id loaded => ?_, fun _ id side other present => ?_, fun _ ref present => ?_⟩
  · have inside := lt_size_of_reached loaded
    rw [empty] at inside
    exact absurd inside (Nat.not_lt_zero id)
  · rw [bare] at present
    cases present
  · rw [bare] at present
    cases present

/-- A class that has both tables may be marked and moved on, and no class gets loaded by it. -/
theorem Sound.mark_rises (sound : image.Sound false) (target : ClassId)
    (change : ClassEntry → ClassEntry)
    (kept : ∀ entry, change entry = { entry with
      stage := (change entry).stage
      initializing := (change entry).initializing })
    (marked : Image.Sound false { image with registry := image.registry.modify target change } ∧
      image.registry.Grows (image.registry.modify target change))
    (tabled : ∀ side, (image.registry.table? ⟨target, side⟩).isSome = true)
    {touched : ClassId → Prop} :
    Draft.Rises touched { image }
      { image := { image with registry := image.registry.modify target change } } := by
  refine .of_kept ⟨marked.1, marked.2⟩ rfl (fun id loaded => ?_) fun ref present => ?_
  · by_cases same : target = id
    · exact same ▸ sound.registry.tabled.loaded _ (tabled .inst)
    · change (image.registry.modify target change).reached id .loaded = true at loaded
      rw [reached, stage, entry_modify_of_ne _ _ same] at loaded
      exact loaded
  · change ((image.registry.modify target change).table? ref).isSome = true at present
    have tables := image.registry.field_modify target change ClassEntry.table (by rw [kept])
    rw [table?, tables] at present
    exact present

end Image

variable {messaged : ImageId → String → Prop}

/-- All images are upright, and have grown at most. -/
structure Session.Rises [NameHash] (messaged : ImageId → String → Prop)
    (before after : Session) : Prop where
  upright : ∀ id, (after.image id).Upright (messaged id)
  follows : before.Follows after

/-- A class has one of the names that messages in its image are for. -/
def Session.Messaged [NameHash] (messaged : ImageId → String → Prop) (session : Session)
    (handle : ClassHandle) : Prop :=
  ∃ name, messaged handle.image name ∧
    (session.registryOf handle).find? name = some handle.ref.id

namespace Session

variable [NameHash] {before between session after : Session}

namespace Rises

/-- A session rises to itself. -/
theorem refl (upright : ∀ id, (session.image id).Upright (messaged id)) :
    session.Rises messaged session := ⟨upright, .refl _⟩

/-- Two rises in a row are one. -/
theorem trans (first : before.Rises messaged between) (second : between.Rises messaged after) :
    before.Rises messaged after :=
  ⟨second.upright, first.follows.trans second.follows⟩

/-- From where a session has risen to, it is seen as it is there. -/
theorem here (rises : before.Rises messaged session) : session.Rises messaged session :=
  .refl rises.upright

/-- What is neither an image nor a note does not matter. -/
theorem of_same (rises : before.Rises messaged session) (images : after.images = session.images)
    (notes : after.notes = session.notes) : before.Rises messaged after := by
  have same : ∀ id, after.image id = session.image id := by
    intro id
    rw [image, images, image]
  refine ⟨fun id => ?_, ?_, fun id => ?_, ?_⟩
  · rw [same]
    exact rises.upright id
  · rw [images]
    exact rises.follows.count
  · rw [same]
    exact rises.follows.grows id
  · rw [notes]
    exact rises.follows.notes

/-- Another image may take the place of one that has grown into it. -/
theorem setImage (rises : before.Rises messaged session) {id : ImageId} {new : Image}
    (upright : new.Upright (messaged id))
    (grows : (session.image id).registry.Grows new.registry) :
    before.Rises messaged (session.setImage id new) := by
  refine rises.trans
    ⟨fun other => ?_, by simp [Session.setImage], fun other => ?_, List.prefix_rfl⟩
  · rw [image_setImage]
    split
    · rename_i same
      exact same.1 ▸ upright
    · exact rises.upright other
  · rw [image_setImage]
    split
    · rename_i same
      exact same.1 ▸ grows
    · exact .refl _

/-- A draft that has risen may be adopted. -/
theorem adopt (rises : before.Rises messaged session) {id : ImageId} {draft : Draft}
    (risen : Draft.Rises ((session.image id).registry.Within (messaged id))
      { image := session.image id } draft) :
    before.Rises messaged (session.adopt id draft) := by
  have placed : before.Rises messaged (session.setImage id draft.image) :=
    rises.setImage ((rises.upright id).rises risen) risen.grows
  exact placed.of_same rfl rfl

/-- So may one in which no class has got a table that had none. -/
theorem adopt_plain (rises : before.Rises messaged session) {id : ImageId} {draft : Draft}
    (risen : Draft.Rises (fun _ => False) { image := session.image id } draft) :
    before.Rises messaged (session.adopt id draft) :=
  rises.adopt (risen.mono fun _ impossible => impossible.elim)

/-- A class that has both tables may be marked and moved on. -/
theorem mark (rises : before.Rises messaged session) {id : ImageId} {target : ClassId}
    {change : ClassEntry → ClassEntry}
    (kept : ∀ entry, change entry = { entry with
      stage := (change entry).stage
      initializing := (change entry).initializing })
    (marked : Image.Sound false { session.image id with
        registry := (session.image id).registry.modify target change } ∧
      (session.image id).registry.Grows ((session.image id).registry.modify target change))
    (tabled : ∀ side, ((session.image id).registry.table? ⟨target, side⟩).isSome = true) :
    before.Rises messaged (session.setImage id { session.image id with
      registry := (session.image id).registry.modify target change }) :=
  have upright := rises.upright id
  have risen := upright.sound.mark_rises target change kept marked tabled
  rises.setImage (upright.rises risen) marked.2

end Rises

/-- A class that may be sent messages may be sent messages later. -/
theorem Messaged.rises {handle : ClassHandle} (isMessaged : session.Messaged messaged handle)
    (rises : session.Rises messaged after) : after.Messaged messaged handle := by
  obtain ⟨name, given, found⟩ := isMessaged
  exact ⟨name, given, (rises.follows.grows handle.image).found name _ found⟩

end Session

/-- An action leaves the images upright, wherever it begins after a session and however it ends. -/
def Act.Withstands [NameHash] (messaged : ImageId → String → Prop) (base : Session) {α : Type}
    (act : Act α) : Prop :=
  ∀ session, base.Rises messaged session →
    Outcome (act session) (fun _ after => base.Rises messaged after)
      (fun _ after => base.Rises messaged after)

namespace Act

open Session

variable [NameHash] {α : Type} {base : Session}

/-- An action that withstands wherever it begins leaves a session that has risen from there. -/
theorem Withstands.here {act : Act α} (withstands : ∀ base, act.Withstands messaged base)
    {session : Session} (rises : base.Rises messaged session) :
    Outcome (act session) (fun _ after => session.Rises messaged after)
      (fun _ after => session.Rises messaged after) :=
  withstands session session rises.here

/-- An edit that leaves an image upright leaves the session so. -/
theorem edit_withstands (id : ImageId) {edits : Edit α}
    (ends : ∀ session, base.Rises messaged session →
      Outcome (edits { image := session.image id })
        (fun _ after => Draft.Rises (fun _ => False) { image := session.image id } after)
        (fun _ after => Draft.Rises (fun _ => False) { image := session.image id } after)) :
    Withstands messaged base (edit id edits) := by
  intro session rises
  apply (edit_outcome (ends session rises)).mono
  · rintro result _ ⟨draft, rfl, risen⟩
    cases result with
    | ok value => exact rises.adopt_plain risen
    | error error => exact rises.adopt_plain risen
  · rintro _ _ ⟨panic, draft, -, rfl, risen⟩
    exact rises.adopt_plain risen

/-- An edit does that leaves every image upright. -/
theorem withstands_edit (id : ImageId) {edits : Edit α} (rising : Edit.Rising edits) :
    Withstands messaged base (edit id edits) :=
  edit_withstands id fun session rises =>
    rising { image := session.image id } (rises.upright id).sound

/-- What is neither an image nor a note may change. -/
theorem withstands_modify {change : Session → Session}
    (images : ∀ session, (change session).images = session.images)
    (notes : ∀ session, (change session).notes = session.notes) :
    Withstands messaged base (modify change : Act PUnit) :=
  fun session rises => rises.of_same (images session) (notes session)

/-- Whatever requests are put together from leaves the images upright. -/
theorem withstands_untouched : Untouched (Withstands messaged base) where
  pure _ _ rises := rises
  throw _ _ _ rises := rises
  bind begun continued session rises := by
    rw [outcome_bind]
    exact (begun session rises).imp fun value between further => continued value between further
  read _ continued session rises := continued session session rises
  modifyImage id change alike session rises := by
    have upright := rises.upright id
    refine rises.setImage ?_ ?_
    · rw [alike (session.image id)]
      exact ⟨.lax upright.sound.registry upright.sound.selectors, upright.furnished, upright.paired,
        upright.within⟩
    · rw [alike (session.image id)]
      exact .refl _
  panic _ _ rises := rises
  settled inside session rises := settled_outcome (inside session rises)
  spawn _ rises := rises.of_same rfl rfl
  switchTo _ := withstands_modify (fun _ => rfl) fun _ => rfl
  setEntered _ := withstands_modify (fun _ => rfl) fun _ => rfl

/-- Withstanding goes by the parts of an action. -/
theorem withstands_composed : Composed (Withstands messaged base) where
  toSequential := withstands_untouched.toSequential
  report _ _ := withstands_modify (fun _ => rfl) fun _ => rfl
  emit _ _ := withstands_modify (fun _ => rfl) fun _ => rfl
  aside aside := by
    refine withstands_modify (fun session => ?_) fun session => ?_
    · rw [aside.same session]
    · rw [aside.same session]
  intern id signature := withstands_edit id (Edit.intern_rising signature)
  sealedOff inside session rises := sealedOff_outcome (inside session rises)
  onNewThread := withstands_untouched.onNewThread
  inRegistry := withstands_untouched.inRegistry
  inSection := withstands_untouched.inSection

/-- So do the edits of registering, which rise. -/
theorem withstands_registering : Registering (Withstands messaged base) where
  registerClass id decl := withstands_edit id (Edit.registerClass_rising decl)
  insertCategory id decl := withstands_edit id (Edit.insertCategory_rising decl)
  loadModule id decl := withstands_edit id (Edit.loadModule_rising decl)

/-- Notes touch no table. -/
theorem note_withstands (remark : Remark) : Withstands messaged base (note remark) :=
  fun _ rises => rises.trans ⟨rises.upright, rfl, fun _ => .refl _, List.prefix_append _ _⟩

variable {behaviour : Behaviour} {session : Session} {id : ImageId}

/-- A call withstands what the implementation withstands. -/
theorem call_withstands (bodies : ∀ call, (behaviour.body call).Withstands messaged base)
    (made : Call) : Withstands messaged base (call behaviour made) :=
  withstands_composed.call (fun _ _ => withstands_modify (fun _ => rfl) fun _ => rfl) bodies made

/-- Tables of a class that are there stay there. -/
theorem Tabled.rises {target : ClassId} {after : Session} (tabled : Tabled session id target)
    (rises : session.Rises messaged after) : Tabled after id target :=
  fun side => (rises.follows.grows id).tables _ (tabled side)

/-- How preparing a class may halt: in an implementation, or at a size that is no word if the class
    has not been linked yet. -/
def PreparingStops (behaviour : Behaviour) (session : Session) (id : ImageId) (target : ClassId)
    (halt : Halt) (after : Session) : Prop :=
  behaviour.Halts halt after ∨
    halt = .panicked .sumOverflow ∧ (session.image id).registry.stage target = .registered

/-- A class that has both tables can be taken to its last stage. -/
theorem finishPreparing_rises (rises : session.Rises messaged session)
    (bodies : ∀ base call, (behaviour.body call).Withstands messaged base) {target : ClassId}
    (tabled : Tabled session id target) :
    Outcome (finishPreparing behaviour id target session)
      (fun _ after => session.Rises messaged after)
      (fun halt after => behaviour.Halts halt after ∧ session.Rises messaged after) := by
  simp only [finishPreparing, outcome_bind, outcome_get]
  split
  · exact rises
  · simp only [outcome_bind, outcome_modifyRegistry]
    have begun := rises.mark (fun _ => rfl)
      ((rises.upright id).sound.beginInit session.thread tabled) tabled
    -- The implementation may do anything, so the tables are looked at again where it has ended.
    have calls := fun base =>
      withstands_composed.callInit (call_withstands (bodies base)) id target
    apply ((callInit_halts id target _).and (Withstands.here calls begun)).mono
    · rintro _ called ⟨-, further⟩
      have moved := begun.trans further
      have tabledAgain := tabled.rises moved
      have ended := moved.mark (fun _ => rfl) ((moved.upright id).sound.endInit tabledAgain)
        tabledAgain
      exact ended.of_same rfl rfl
    · exact fun _ _ given => ⟨given.1, begun.trans given.2⟩

/-- A class whose names lead to a root is made ready, which builds tables of the classes on its path
    at most, and the hooks that are due run. -/
theorem makeReady_rises (rises : session.Rises messaged session)
    (bodies : ∀ base call, (behaviour.body call).Withstands messaged base) {target : ClassId}
    {path : List ClassId} (inside : target < (session.image id).registry.size)
    (ascent : (session.image id).registry.Ascent target path)
    (within : ∀ passed ∈ path, (session.image id).registry.Within (messaged id) passed) :
    Outcome (editAndRun behaviour id (readyTables target) session)
      (fun result after => result = .ok () ∧ session.Rises messaged after ∧ Tabled after id target)
      (fun halt after => PreparingStops behaviour session id target halt after ∧
        session.Rises messaged after) := by
  have sound := (rises.upright id).sound
  have covers : ∀ other, (session.image id).registry.Ascent target other → ∀ passed ∈ other,
      (session.image id).registry.Within (messaged id) passed :=
    fun other sameStart => ascent.unique sameStart ▸ within
  let draft : Draft := { image := session.image id }
  have readied := (@Edit.readyTables_rises _ draft _ sound target inside covers).and
    (@Edit.readyTables_outcome _ false draft sound target inside)
  have chained : (session.image id).registry.chain target = .ok path :=
    (chain_eq_ok_iff sound.registry.formed.lt_of_find? inside).mpr ascent
  simp only [editAndRun, outcome_bind]
  apply (edit_outcome readied).mono
  -- Nothing can stop it but a size, and a class that is linked has its size already.
  case weakenStopped =>
    rintro _ _ ⟨panic, draft, rfl, rfl, risen, ⟨same, -, waiting⟩ | ⟨error, refused, -⟩⟩
    · cases same
      refine ⟨.inr ⟨rfl, ?_⟩, rises.adopt risen⟩
      by_contra linked
      rw [(sound.registry.formed.linked target linked).1] at waiting
      cases waiting
    · rw [chained] at refused
      cases refused
  rintro result _ ⟨draft, rfl, given⟩
  cases result with
  | error error =>
    obtain ⟨-, ⟨impossible, -⟩ | ⟨other, refused, -⟩⟩ := given
    · cases impossible
    · rw [chained] at refused
      cases refused
  | ok value =>
    obtain ⟨⟨risen, both⟩, -⟩ := given
    have adopted := rises.adopt risen
    have tabled : Tabled (session.adopt id draft) id target := by
      intro side
      have placed : (session.adopt id draft).image id = draft.image := by
        change (session.setImage id draft.image).image id = draft.image
        rw [image_setImage, if_pos ⟨rfl, image_lt_of_class_lt inside⟩]
      rw [placed]
      exact both side
    have hooks := fun base =>
      withstands_composed.runHooks (call_withstands (bodies base)) id value.2
    simp only [outcome_bind, outcome_pure]
    apply ((runHooks_halts sealedOff_halts id value.2 _).and (Withstands.here hooks adopted)).mono
    · exact fun _ after given =>
        ⟨trivial, adopted.trans given.2, tabled.rises given.2⟩
    · exact fun _ _ given => ⟨.inl given.1, adopted.trans given.2⟩

/-- Preparing along the path of a class succeeds and builds tables of the classes on it at most. -/
theorem prepareAlong_rises (rises : session.Rises messaged session)
    (bodies : ∀ base call, (behaviour.body call).Withstands messaged base) {chain : List ClassId}
    (along : ∀ target ∈ chain.head?, target < (session.image id).registry.size ∧
      (session.image id).registry.Ascent target chain)
    (within : ∀ passed ∈ chain, (session.image id).registry.Within (messaged id) passed) :
    Outcome (prepareAlong behaviour id chain session)
      (fun result after => result = .ok () ∧ session.Rises messaged after ∧
        ∀ target ∈ chain.head?, Tabled after id target)
      (fun halt after => (behaviour.Halts halt after ∨ ∃ target ∈ chain.head?,
          PreparingStops behaviour session id target halt after) ∧
        session.Rises messaged after) := by
  -- What is left of the chain is the path of its first class, and images that grow keep it so.
  induction chain generalizing session with
  | nil => exact ⟨rfl, rises, fun _ impossible => by cases impossible⟩
  | cons target above inductionHypothesis =>
    obtain ⟨inside, ascent⟩ := along target rfl
    simp only [prepareAlong, outcome_bind, outcome_get]
    split
    · rename_i served
      refine ⟨rfl, rises, ?_⟩
      rintro _ ⟨rfl⟩ side
      exact (rises.upright id).sound.registry.tabled.ready target (isPrepared_of_serves served) side
    · simp only [outcome_bind]
      apply (makeReady_rises rises bodies inside ascent within).mono
      case weakenStopped =>
        exact fun halt after given => ⟨.inr ⟨target, rfl, given.1⟩, given.2⟩
      rintro _ ready ⟨rfl, readied, tabled⟩
      have formed := (rises.upright id).sound.registry.formed
      have readyFormed := (readied.upright id).sound.registry.formed
      have grows := readied.follows.grows id
      have loaded : (ready.image id).registry.reached target .loaded = true :=
        (readied.upright id).sound.registry.tabled.loaded _ (tabled .inst)
      have upwards := grows.ascent_tail formed ascent
      have rest := inductionHypothesis readied.here upwards
        fun passed member => (within passed (List.mem_cons_of_mem _ member)).grows formed grows
      simp only [outcome_bind]
      apply rest.mono
      case weakenStopped =>
        rintro halt after ⟨halts | ⟨next, first, halts | ⟨-, registered⟩⟩, further⟩
        · exact ⟨.inl halts, readied.trans further⟩
        · exact ⟨.inl halts, readied.trans further⟩
        · -- The class is loaded by now, and so are all above it.
          obtain ⟨rest, rfl⟩ := (upwards next first).2.head
          have stillUp := grows.ascent formed inside ascent
          exact absurd registered (stage_ne_registered_of_reached
            (readyFormed.loaded_of_mem stillUp loaded next
              (List.mem_cons_of_mem _ List.mem_cons_self)))
      rintro _ between ⟨rfl, further, -⟩
      have moved := readied.trans further
      have tables := tabled.rises further
      simp only [outcome_bind, outcome_pure]
      apply (finishPreparing_rises moved.here bodies tables).mono
      · intro _ after last
        refine ⟨trivial, moved.trans last, ?_⟩
        rintro _ ⟨rfl⟩
        exact tables.rises last
      · exact fun halt after given => ⟨.inl given.1, moved.trans given.2⟩

/-- From inside the registry, preparing a class whose names lead to a root succeeds and builds
    tables of the class and of those above it at most. -/
theorem prepareInside_rises (rises : session.Rises messaged session)
    (bodies : ∀ base call, (behaviour.body call).Withstands messaged base) {handle : ClassHandle}
    {path : List ClassId} (owned : owns session id handle = true)
    (chained : (session.image id).registry.chain handle.ref.id = .ok path)
    (within : ∀ passed ∈ path, (session.image id).registry.Within (messaged id) passed) :
    Outcome (prepareInside behaviour id handle session)
      (fun result after => result = .ok () ∧ session.Rises messaged after ∧
        Tabled after id handle.ref.id)
      (fun halt after => PreparingStops behaviour session id handle.ref.id halt after ∧
        session.Rises messaged after) := by
  have owner := owned
  rw [owns, Bool.and_eq_true, beq_iff_eq, decide_eq_true_eq] at owner
  obtain ⟨sameImage, inside⟩ := owner
  have registry := (rises.upright id).sound.registry
  have ascent := (chain_eq_ok_iff registry.formed.lt_of_find? inside).mp chained
  simp only [prepareInside, outcome_bind, outcome_get, registryOf, sameImage, owned, chained]
  split
  · rename_i served
    exact ⟨rfl, rises,
      fun side => registry.tabled.ready handle.ref.id (isPrepared_of_serves served) side⟩
  · obtain ⟨above, rfl⟩ := ascent.head
    refine (prepareAlong_rises rises bodies ?_ within).mono ?_ ?_
    · rintro _ ⟨rfl⟩
      exact ⟨inside, ascent⟩
    · exact fun _ after given => ⟨given.1, given.2.1, given.2.2 _ rfl⟩
    · rintro halt after ⟨halts | ⟨_, ⟨rfl⟩, stopped⟩, further⟩
      · exact ⟨.inl halts, further⟩
      · exact ⟨stopped, further⟩

/-- Preparing a class whose names lead to a root succeeds, unless another thread is inside the
    registry, and builds tables of the class and of those above it at most. -/
theorem prepare_rises (rises : session.Rises messaged session)
    (bodies : ∀ base call, (behaviour.body call).Withstands messaged base) {handle : ClassHandle}
    {path : List ClassId} (owned : owns session id handle = true)
    (chained : (session.image id).registry.chain handle.ref.id = .ok path)
    (within : ∀ passed ∈ path, (session.image id).registry.Within (messaged id) passed) :
    Outcome (prepare behaviour id handle session)
      (fun result after => result = .ok () ∧ session.Rises messaged after ∧
        Tabled after id handle.ref.id)
      (fun halt after => (PreparingStops behaviour session id handle.ref.id halt after ∨
          halt = .deadlocked ∧ session.isShut id = true ∧ after = session) ∧
        session.Rises messaged after) := by
  have sameImage : handle.image = id := by
    rw [owns, Bool.and_eq_true, beq_iff_eq] at owned
    exact owned.1
  simp only [prepare, outcome_bind, outcome_get]
  split
  · rename_i initialized
    refine ⟨rfl, rises, fun side => ?_⟩
    rw [registryOf, sameImage] at initialized
    exact (rises.upright id).sound.registry.tabled.ready handle.ref.id
      (isPrepared_eq_true.mpr (.inl initialized)) side
  · rw [outcome_inRegistry]
    split
    · rename_i isShut
      exact ⟨.inr ⟨rfl, isShut, rfl⟩, rises⟩
    have entering : session.Rises messaged
        { session with entered := (id, session.thread) :: session.entered } :=
      rises.of_same rfl rfl
    refine (prepareInside_rises entering.here bodies owned chained within).mono ?_ ?_
    · exact fun _ after given =>
        ⟨given.1, (entering.trans given.2.1).of_same rfl rfl, given.2.2⟩
    · rintro halt after ⟨stopped, further⟩
      have moved := entering.trans further
      cases halt with
      | panicked panic =>
        exact ⟨.inl (stopped.imp_left fun halts => absurd rfl (halts.ne_panicked panic)),
          moved.of_same rfl rfl⟩
      | aborted panic => exact ⟨.inl stopped, moved⟩
      | fatal error => exact ⟨.inl stopped, moved⟩
      | deadlocked => exact ⟨.inl stopped, moved⟩

/-- Preparing a class that is messaged builds tables of the class and of those above it at most. -/
theorem prepare_withstands (bodies : ∀ base call, (behaviour.body call).Withstands messaged base)
    {handle : ClassHandle} (isMessaged : base.Messaged messaged handle) :
    Withstands messaged base (prepare behaviour id handle) := by
  intro session rises
  by_cases owned : owns session id handle = true
  · have owner := owned
    rw [owns, Bool.and_eq_true, beq_iff_eq, decide_eq_true_eq] at owner
    obtain ⟨same, inside⟩ := owner
    have registry := (rises.upright id).sound.registry
    cases chained : (session.image id).registry.chain handle.ref.id with
    | error error =>
      rw [prepare_of_chain_error registry owned chained]
      split
      · exact rises
      · exact rises
    | ok chain =>
      have ascent := (chain_eq_ok_iff registry.formed.lt_of_find? inside).mp chained
      obtain ⟨name, given, found⟩ := isMessaged.rises rises
      rw [registryOf, same] at found
      rw [same] at given
      have within : ∀ passed ∈ chain,
          (session.image id).registry.Within (messaged id) passed :=
        fun passed member => ⟨name, _, chain, given, found, ascent, member⟩
      exact (prepare_rises rises.here bodies owned chained within).mono
        (fun _ _ further => rises.trans further.2.1) fun _ _ further => rises.trans further.2
  · simp only [prepare, outcome_bind, outcome_get]
    split
    · exact rises
    have refused : ∀ entered, Outcome
        (prepareInside behaviour id handle { session with entered })
        (fun _ after => after = { session with entered }) fun _ _ => False := by
      intro entered
      have elsewhere : owns { session with entered } id handle = false :=
        Bool.eq_false_iff.mpr owned
      simp only [prepareInside, outcome_bind, outcome_get, elsewhere, Bool.false_eq_true, if_false]
      split
      · exact rfl
      · exact rfl
    rw [outcome_inRegistry]
    split
    · exact rises
    · refine (refused _).mono ?_ fun _ _ impossible => impossible.elim
      rintro _ _ rfl
      exact rises

/-- Replacing a method rebuilds, and lets no table come or go. -/
theorem replaceMethod_withstands (handle : ClassHandle) {selector : Selector} (imp : Imp)
    (fits : selector < SparseMap.capacity) :
    Withstands messaged base (replaceMethod id handle selector imp) :=
  withstands_composed.replaceMethod
    (withstands_edit id (Edit.replaceMethod_rising handle.ref imp fits))

/-- A class that is found by a name that messages are for stays one that is messaged. -/
theorem withClass_withstands {query : ClassQuery} {next : ClassHandle → Act Answer}
    (isMessaged : messaged query.image query.name)
    (further : ∀ base handle, base.Messaged messaged handle →
      (next handle).Withstands messaged base) :
    Withstands messaged base (withClass query next) := by
  intro session rises
  simp only [withClass, findClass, outcome_bind, outcome_awaitRegistry, outcome_registry]
  split
  · exact rises
  cases found : (session.image query.image).registry.find? query.name with
  | none => exact rises
  | some target =>
    -- The name has led to the class here, so what follows is anchored here and not before.
    have given : session.Messaged messaged ⟨query.image, ⟨target, query.side⟩⟩ :=
      ⟨query.name, isMessaged, found⟩
    exact (further session _ given session rises.here).mono (fun _ _ later => rises.trans later)
      fun _ _ later => rises.trans later

/-- A selector that has been handed out fits. -/
theorem withSelector_withstands {query : SelectorQuery} {next : Selector → Act Answer}
    (further : ∀ selector, Gives query selector → (next selector).Withstands messaged base) :
    Withstands messaged base (withSelector query next) := by
  cases query with
  | number selector => exact further selector rfl
  | intern source signature =>
    intro session rises
    have sound := (rises.upright source).sound
    have interned := (Edit.intern_rising signature { image := session.image source } sound).and
      (@Edit.intern_outcome _ false { image := session.image source } sound signature)
    simp only [withSelector, findSelector, outcome_bind]
    apply (edit_outcome interned).mono
    · rintro result _ ⟨draft, rfl, given⟩
      cases result with
      | error error => exact rises.adopt_plain given.1
      | ok value => exact further value.1 given.2.1 _ (rises.adopt_plain given.1)
    · rintro _ _ ⟨panic, draft, -, rfl, given⟩
      exact rises.adopt_plain given.1

end Act

/-- A request sends messages to classes of these names only. -/
def Request.Messages (messaged : ImageId → String → Prop) (asked : Request) : Prop :=
  ∀ target, asked.recipient? = some target → messaged target.image target.name

namespace Act

open Session

variable [NameHash] {α : Type} {base : Session} {behaviour : Behaviour} {id : ImageId}

/-- Every request leaves the images upright, if implementations and the handler do. -/
theorem request_withstands (bodies : ∀ base call, (behaviour.body call).Withstands messaged base)
    (handlers : ∀ base id handle selector,
      (behaviour.handler id handle selector).Withstands messaged base)
    {asked : Request} (issued : asked.Issued) (messages : asked.Messages messaged) :
    Withstands messaged base (asked.run behaviour id) := by
  have composed : ∀ base, Composed (Withstands messaged base) := fun _ => withstands_composed
  have calls : ∀ base made, Withstands messaged base (call behaviour made) :=
    fun base => call_withstands (bodies base)
  cases asked.kind with
  | plain isPlain => exact (composed base).plainRequest isPlain
  | @message _ target given =>
    rw [asked.run_of_recipient given]
    exact withClass_withstands (messages target given) fun base handle isMessaged =>
      (composed base).deliver (prepare_withstands bodies isMessaged) (fun made _ => calls base made)
        (handlers base) asked
  | registering registers =>
    exact (composed base).registeringRequest (calls base) withstands_registering registers
  | replacing target query imp =>
    refine (composed base).withClass fun handle => withSelector_withstands fun selector gives => ?_
    have fits : selector < SparseMap.capacity := by
      cases query with
      | number given => exact gives ▸ issued
      | intern _ _ => exact gives
    exact (composed base).bind (replaceMethod_withstands handle imp fits) fun _ =>
      (composed base).pure _

/-- The requests of programs that send messages only to classes of these names, each in an image,
    and replace methods only for selectors that a table can hand out. If all names are allowed,
    messages may be sent to any class. -/
def Sparing (messaged : ImageId → String → Prop) (asked : Request) : Prop :=
  asked.Issued ∧ asked.Messages messaged

/-- Every such program leaves the images upright, however it ends. -/
theorem Resilient.withstands {stops : Halt → Prop} {program : Act α}
    (resilient : program.Resilient (Sparing messaged) stops) (base : Session) :
    program.Withstands messaged base := by
  have everywhere : ∀ base, Withstands messaged base program := by
    refine resilient.property (.forall fun _ => withstands_composed) ?_ ?_ ?_ ?_ ?_
    · exact fun halt _ base _ rises => rises
    · exact fun base _ rises => rises
    · exact fun remark base => note_withstands remark
    · exact fun inside base => withstands_untouched.settled (inside base)
    · exact fun id asked allowed bodies handlers base =>
        request_withstands (fun base call => bodies call base)
          (fun base id handle selector => handlers id handle selector base) allowed.1 allowed.2
  exact everywhere base

end Act

/-- A session that a program can come to that sends messages only to classes of these names: one in
    which it ends or halts, when it started with new images. It may catch panics on its way. -/
abbrev Session.Messaging [NameHash] (messaged : ImageId → String → Prop) : Session → Prop :=
  Session.Reached (Act.Sparing messaged) fun _ => True

namespace Session

variable [NameHash] {session : Session}

/-- What can be reached can be come to by some messages. -/
theorem Reachable.messaging (reachable : session.Reachable) :
    session.Messaging fun _ _ => True :=
  reachable.mono (fun _ issued => ⟨issued, fun _ _ => trivial⟩) fun _ _ => trivial

/-- Wherever a program can come, the images are upright. -/
theorem Messaging.upright (messaging : session.Messaging messaged) (id : ImageId) :
    (session.image id).Upright (messaged id) := by
  refine messaging.property (fun session => (session.image id).Upright (messaged id)) ?_
  intro α program resilient threshold configs first started
  have fresh : first.Rises messaged first := .refl fun id =>
    Image.upright_of_empty ((start_sound started).images id) (start_registry started id)
  exact (resilient.withstands first first fresh).mono (fun _ _ rises => rises.upright id)
    fun _ _ rises => rises.upright id

/-- Wherever a program can come, the images are in order. -/
theorem Reachable.sound (reachable : session.Reachable) (id : ImageId) :
    (session.image id).Sound false :=
  (reachable.messaging.upright id).sound

end Session

end LateBinding
