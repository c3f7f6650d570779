import LateBinding.Proofs.Histories

/-!
# Classes are initialized once

Only two kinds of deeds mark a class. The first is done to a class that is not prepared and
leaves it prepared, the second to one that is marked and leaves it initialized; no other deed
prepares a class or takes a mark away. So along a run both are done to a class once at most,
and how often they have been done can be read off the class.

A class is first marked when its superclass is prepared, and stays linked to it. So everything
above a prepared class is prepared. Where no hook is running no class is marked, and
everything above an initialized class is initialized.
-/

namespace LateBinding

/-- The marks of a registry are in order: a marked class is not initialized yet, and the class
    above a prepared one is prepared. -/
structure Registry.Primed (registry : Registry) : Prop where
  marked : ∀ target, (registry.entry target).initializing.isSome = true →
    registry.reached target .initialized = false
  upward : ∀ target above, Registry.isPrepared registry target = true →
    (registry.entry target).superclass = some above → Registry.isPrepared registry above = true

/-- Whether a deed marks a class as being prepared. -/
def Deed.begins (id : ImageId) (target : ClassId) : Deed → Bool
  | .began other otherTarget _ => decide (other = id) && decide (otherTarget = target)
  | _ => false

/-- Whether a deed marks a class as initialized. -/
def Deed.finishes (id : ImageId) (target : ClassId) : Deed → Bool
  | .finished other otherTarget => decide (other = id) && decide (otherTarget = target)
  | _ => false

/-- A deed begins to prepare a class if it marks it. -/
theorem Deed.begins_eq_true {id : ImageId} {target : ClassId} {deed : Deed} :
    deed.begins id target = true ↔ ∃ call, deed = .began id target call := by
  cases deed with
  | began other otherTarget call => simp [begins]
  | changed | refused | finished | called | noted | rested => simp [begins]

/-- It finishes if it marks it as initialized. -/
theorem Deed.finishes_eq_true {id : ImageId} {target : ClassId} {deed : Deed} :
    deed.finishes id target = true ↔ deed = .finished id target := by
  cases deed with
  | finished other otherTarget => simp [finishes]
  | changed | refused | began | called | noted | rested => simp [finishes]

/-- Whether a call is that of the `initialize` of a class. -/
def Call.initializes (id : ImageId) (target : ClassId) (call : Call) : Bool :=
  decide (call.purpose = .init) && decide (call.receiver = some ⟨id, ⟨target, .inst⟩⟩)

namespace Course

variable [NameHash]

/-- The moments at which a class is marked as being prepared. -/
def beginnings (id : ImageId) (target : ClassId) (course : List Moment) : List Moment :=
  course.filter (·.deed.begins id target)

/-- The moments at which a class is marked as initialized. -/
def endings (id : ImageId) (target : ClassId) (course : List Moment) : List Moment :=
  course.filter (·.deed.finishes id target)

/-- The beginnings of a course are that of its first moment, if it is one, and those of the rest. -/
theorem beginnings_cons (id : ImageId) (target : ClassId) (moment : Moment) (rest : List Moment) :
    beginnings id target (moment :: rest) =
      (if moment.deed.begins id target then [moment] else []) ++ beginnings id target rest := by
  rw [beginnings, List.filter_cons, beginnings]
  split <;> rfl

/-- So are the endings. -/
theorem endings_cons (id : ImageId) (target : ClassId) (moment : Moment) (rest : List Moment) :
    endings id target (moment :: rest) =
      (if moment.deed.finishes id target then [moment] else []) ++ endings id target rest := by
  rw [endings, List.filter_cons, endings]
  split <;> rfl

end Course

namespace Registry

variable {registry after : Registry} {target : ClassId}

/-- Classes with the same marks are prepared alike. -/
theorem SameMarks.isPrepared (same : registry.SameMarks after) (target : ClassId) :
    Registry.isPrepared after target = Registry.isPrepared registry target := by
  rw [Registry.isPrepared, same.initialized, same.initializing, Registry.isPrepared]

/-- A class that is marked counts as prepared. -/
theorem isPrepared_beginInit (inside : target < registry.size) (thread : Thread)
    (other : ClassId) :
    Registry.isPrepared (registry.beginInit target thread) other =
      (decide (target = other) || Registry.isPrepared registry other) := by
  unfold Registry.isPrepared beginInit Registry.reached stage
  by_cases same : target = other
  · subst same
    simp [registry.entry_modify_same _ inside]
  · simp [registry.entry_modify_of_ne _ same, same]

/-- A marked class has a number that was handed out. -/
theorem lt_size_of_marked (marked : (registry.entry target).initializing.isSome = true) :
    target < registry.size := by
  by_contra outside
  rw [entry_of_size_le _ (Nat.le_of_not_lt outside)] at marked
  cases marked

/-- It still does when it is initialized. -/
theorem isPrepared_endInit (marked : (registry.entry target).initializing.isSome = true)
    (other : ClassId) :
    Registry.isPrepared (registry.endInit target) other = Registry.isPrepared registry other := by
  unfold Registry.isPrepared
  rw [reached_endInit (lt_size_of_marked marked)]
  by_cases same : target = other
  · subst same
    simp [marked]
  · rw [endInit, registry.entry_modify_of_ne _ same]
    simp [same]

namespace Primed

/-- Marks stay in order where they stay. -/
theorem of_sameMarks (primed : registry.Primed) (sound : registry.Sound)
    (same : registry.SameMarks after) : after.Primed where
  marked target isMarked := by
    rw [same.initializing] at isMarked
    rw [same.initialized, primed.marked target isMarked]
  upward target above prepared link := by
    rw [same.isPrepared] at prepared ⊢
    rw [same.superclass target (sound.loaded_of_isPrepared prepared)] at link
    exact primed.upward target above prepared link

/-- A class that is ready can be marked as being prepared. -/
theorem beginInit (primed : registry.Primed) (sound : registry.Sound) (thread : Thread)
    (ready : registry.Ready target) : (registry.beginInit target thread).Primed where
  marked other isMarked := by
    have unprepared := ready.unprepared
    rw [Registry.isPrepared, Bool.or_eq_false_iff] at unprepared
    rw [reached_beginInit]
    by_cases same : target = other
    · exact same ▸ unprepared.1
    · rw [Registry.beginInit, entry_modify_of_ne _ _ same] at isMarked
      exact primed.marked other isMarked
  upward other above prepared link := by
    have inside := lt_size_of_reached (sound.tabled.loaded _ (ready.tabled .inst))
    rw [Registry.beginInit, registry.field_modify target _ ClassEntry.superclass rfl] at link
    rw [isPrepared_beginInit inside, Bool.or_eq_true, decide_eq_true_eq] at prepared ⊢
    rcases prepared with rfl | before
    · exact .inr (ready.supported above link)
    · exact .inr (primed.upward other above before link)

/-- A class that is marked can be marked as initialized. -/
theorem endInit (primed : registry.Primed)
    (marked : (registry.entry target).initializing.isSome = true) :
    (registry.endInit target).Primed where
  marked other isMarked := by
    have inside := lt_size_of_marked marked
    rw [reached_endInit inside]
    by_cases same : target = other
    · subst same
      rw [Registry.endInit, entry_modify_same _ _ inside] at isMarked
      cases isMarked
    · rw [Registry.endInit, entry_modify_of_ne _ _ same] at isMarked
      simp [same, primed.marked other isMarked]
  upward other above prepared link := by
    rw [Registry.endInit, registry.field_modify target _ ClassEntry.superclass rfl] at link
    rw [isPrepared_endInit marked] at prepared ⊢
    exact primed.upward other above prepared link

end Primed

end Registry

namespace Image

open Registry

variable [NameHash] {strict : Bool} {id : ImageId} {before after : Image} {deed : Deed}

/-- Every deed keeps the marks of an image in order. -/
theorem Lives.primed (lives : before.Lives strict id deed after) (sound : before.registry.Sound)
    (primed : before.registry.Primed) : after.registry.Primed := by
  rcases lives.marks with ⟨same, -, -⟩ | ⟨target, call, thread, -, ready, registry⟩ |
      ⟨target, -, marked, registry⟩
  · exact primed.of_sameMarks sound same
  · rw [registry]
    exact primed.beginInit sound thread ready
  · rw [registry]
    exact primed.endInit marked

/-- A class is prepared from its first mark on. -/
theorem Lives.prepared (lives : before.Lives strict id deed after) (sound : before.registry.Sound)
    (target : ClassId) :
    (Registry.isPrepared after.registry target).toNat =
      (deed.begins id target).toNat + (Registry.isPrepared before.registry target).toNat := by
  rcases lives.marks with ⟨same, other, -⟩ | ⟨begun, call, thread, rfl, ready, registry⟩ |
      ⟨ended, rfl, marked, registry⟩
  · have neither : deed.begins id target = false := by
      refine Bool.eq_false_iff.mpr fun begins => ?_
      obtain ⟨call, isBegan⟩ := Deed.begins_eq_true.mp begins
      exact other target call isBegan
    rw [same.isPrepared, neither, Bool.toNat_false, Nat.zero_add]
  · have inside := lt_size_of_reached (sound.tabled.loaded _ (ready.tabled .inst))
    rw [registry, isPrepared_beginInit inside]
    by_cases same : begun = target
    · subst same
      simp [Deed.begins, ready.unprepared]
    · simp [Deed.begins, same]
  · rw [registry, isPrepared_endInit marked]
    simp [Deed.begins]

/-- A class is initialized from its second mark on. -/
theorem Lives.initialized (lives : before.Lives strict id deed after)
    (primed : before.registry.Primed) (target : ClassId) :
    (after.registry.reached target .initialized).toNat =
      (deed.finishes id target).toNat + (before.registry.reached target .initialized).toNat := by
  rcases lives.marks with ⟨same, -, other⟩ | ⟨begun, call, thread, rfl, ready, registry⟩ |
      ⟨ended, rfl, marked, registry⟩
  · have neither : deed.finishes id target = false :=
      Bool.eq_false_iff.mpr fun finishes => other target (Deed.finishes_eq_true.mp finishes)
    rw [same.initialized, neither, Bool.toNat_false, Nat.zero_add]
  · rw [registry, reached_beginInit]
    simp [Deed.finishes]
  · rw [registry, reached_endInit (lt_size_of_marked marked)]
    by_cases same : ended = target
    · subst same
      simp [Deed.finishes, primed.marked ended marked]
    · simp [Deed.finishes, same]

end Image

namespace Registry

variable {registry : Registry} {target : ClassId} {path : List ClassId}

/-- In an empty registry no mark is out of place. -/
theorem primed_empty : empty.Primed where
  marked target marked := by
    rw [entry_of_size_le _ (Nat.zero_le target)] at marked
    cases marked
  upward target above _ link := by
    rw [entry_of_size_le _ (Nat.zero_le target)] at link
    cases link

/-- The class above a loaded class on its path is the one it is linked to. -/
theorem Formed.superclass_eq (formed : registry.Formed) {above : ClassId} {name : String}
    (loaded : registry.reached target .loaded = true)
    (declared : (registry.entry target).superName = some name)
    (found : registry.find? name = some above) :
    (registry.entry target).superclass = some above := by
  rw [formed.superclass_of_loaded loaded, declaredSuper?, declared, Option.bind_some, found]

/-- Everything on the path of a prepared class is prepared. -/
theorem Primed.of_mem (primed : registry.Primed) (sound : registry.Sound)
    (ascent : registry.Ascent target path) (prepared : Registry.isPrepared registry target = true) :
    ∀ passed ∈ path, Registry.isPrepared registry passed = true := by
  induction ascent with
  | root declared =>
    intro passed member
    exact List.mem_singleton.mp member ▸ prepared
  | @step target above name rest declared found _ inductionHypothesis =>
    have link := sound.formed.superclass_eq (sound.loaded_of_isPrepared prepared) declared found
    intro passed member
    rcases List.mem_cons.mp member with rfl | later
    · exact prepared
    · exact inductionHypothesis (primed.upward target above prepared link) passed later

/-- Everything above a class whose `initialize` is due is prepared. -/
theorem Ready.of_mem (ready : registry.Ready target) (primed : registry.Primed)
    (sound : registry.Sound) (ascent : registry.Ascent target (target :: path)) :
    ∀ above ∈ path, Registry.isPrepared registry above = true := by
  cases ascent with
  | root declared => simp
  | step declared found rest =>
    have loaded := sound.tabled.loaded _ (ready.tabled .inst)
    have link := sound.formed.superclass_eq loaded declared found
    exact primed.of_mem sound rest (ready.supported _ link)

end Registry

namespace Session

open Registry

variable [NameHash] {strict : Bool} {before after first last : Session} {deed : Deed}
  {course : List Moment} {id : ImageId}

/-- The marks of all images are in order all along a course. -/
theorem Course.primed (run : first.Course strict course last)
    (sound : ∀ id, (first.image id).Sound strict) (start : ∀ id, (first.image id).registry.Primed) :
    (∀ moment ∈ course, (∀ id, (moment.before.image id).registry.Primed) ∧
      ∀ id, (moment.after.image id).registry.Primed) ∧
    ∀ id, (last.image id).registry.Primed := by
  refine run.keeps sound (fun session => ∀ id, (session.image id).registry.Primed) ?_ start
  intro moment regular primed id
  by_cases inside : id < moment.before.images.size
  · exact (regular.lives id inside).primed (regular.sound id).registry (primed id)
  · rw [regular.image_of_size_le (Nat.le_of_not_lt inside)]
    exact primed id

/-- A class has been marked as often as it shows. -/
theorem Course.marks (run : first.Course strict course last)
    (sound : ∀ id, (first.image id).Sound strict) (primed : ∀ id, (first.image id).registry.Primed)
    (inside : id < first.images.size) (target : ClassId) :
    (Registry.isPrepared (last.image id).registry target).toNat =
        (Course.beginnings id target course).length +
          (Registry.isPrepared (first.image id).registry target).toNat ∧
      ((last.image id).registry.reached target .initialized).toNat =
        (Course.endings id target course).length +
          ((first.image id).registry.reached target .initialized).toNat := by
  induction run with
  | done session => simp [Course.beginnings, Course.endings]
  | @next before after last deed rest does others inductionHypothesis =>
    obtain ⟨regular, soundAfter⟩ := does.regular sound
    have lives := regular.lives id inside
    have primedAfter := (Course.primed (.next does (.done after)) sound primed).2
    obtain ⟨begun, ended⟩ := inductionHypothesis soundAfter primedAfter
      (regular.count.symm ▸ inside)
    rw [begun, ended, lives.prepared (sound id).registry, lives.initialized (primed id),
      Course.beginnings_cons, Course.endings_cons, List.length_append, List.length_append]
    constructor
    · cases deed.begins id target with
      | false => simp
      | true =>
        simp only [Bool.toNat_true, if_true, List.length_singleton]
        omega
    · cases deed.finishes id target with
      | false => simp
      | true =>
        simp only [Bool.toNat_true, if_true, List.length_singleton]
        omega

/-- Only a class that is marked has its `initialize` called. -/
theorem Does.initializes (does : before.Does strict deed after) (target : ClassId) :
    deed.calls.filter (Call.initializes id target) =
      if deed.begins id target then deed.calls else [] := by
  cases does with
  | changed | refused | finished | noted | rested => rfl
  | called other _ => simp [Deed.calls, Call.initializes, other, Deed.begins]
  | @began named otherTarget _ _ _ =>
    cases given : before.initCall named otherTarget with
    | none => simp [Deed.calls]
    | some made =>
      obtain ⟨init, receiver⟩ := initCall_eq_some given
      by_cases same : named = id ∧ otherTarget = target
      · simp [Deed.calls, Call.initializes, init, receiver, Deed.begins, same]
      · have other : Call.initializes id target made = false := by
          simp only [Call.initializes, init, receiver, Option.some.injEq, ClassHandle.mk.injEq,
            SideRef.mk.injEq, and_true, decide_true, Bool.true_and, decide_eq_false_iff_not]
          exact same
        simp [Deed.calls, other, Deed.begins, same]

/-- The calls of the `initialize` of a class are those made when it was marked. -/
theorem Course.initializes (run : first.Course strict course last) (id : ImageId)
    (target : ClassId) :
    last.calls.filter (Call.initializes id target) =
      first.calls.filter (Call.initializes id target) ++
        (Course.beginnings id target course).flatMap (·.deed.calls) := by
  induction run with
  | done session => simp [Course.beginnings]
  | next does _ inductionHypothesis =>
    rw [inductionHypothesis, does.calls, List.filter_append, does.initializes,
      Course.beginnings_cons, List.flatMap_append, List.append_assoc]
    split
    · rw [List.flatMap_singleton]
    · rfl

/-- A class is first marked when it is ready, and its `initialize` is what the selector means on
    its metaclass at that moment. -/
theorem Does.began_call {target : ClassId} {call : Option Call}
    (does : before.Does strict (.began id target call) after)
    (sound : (before.image id).registry.Sound) :
    (before.image id).registry.Ready target ∧
      call = ((before.image id).registry.resolve ⟨target, .metaclass⟩
        (before.image id).initSelector).map
          (Call.ofInit id target (before.image id).initSelector) := by
  cases does with
  | began ready _ =>
    obtain ⟨table, published⟩ := Option.isSome_iff_exists.mp (ready.tabled .metaclass)
    refine ⟨ready, ?_⟩
    rw [initCall, published, Option.bind_some, sound.tabled.exact _ trivial table published]

/-- When a class is first marked its `initialize` is called, as the selector is understood on its
    metaclass, and everything above it is initialized or being prepared. -/
theorem Course.beginning (run : first.Course strict course last)
    (sound : ∀ id, (first.image id).Sound strict) (primed : ∀ id, (first.image id).registry.Primed)
    {target : ClassId} {moment : Moment} (member : moment ∈ Course.beginnings id target course) :
    let image := moment.before.image id
    moment.deed.calls = ((image.registry.resolve ⟨target, .metaclass⟩ image.initSelector).map
        (Call.ofInit id target image.initSelector)).toList ∧
      ∀ path, image.registry.Ascent target (target :: path) → ∀ above ∈ path,
        image.registry.reached above .initialized = true ∨
          (image.registry.entry above).initializing.isSome = true := by
  obtain ⟨among, begins⟩ := List.mem_filter.mp member
  obtain ⟨call, isBegan⟩ := Deed.begins_eq_true.mp begins
  have does := ((run.invariant (fun _ => True) (fun _ _ => trivial) trivial).1 moment among).1
  have regular := (run.regular sound).1 moment among
  rw [isBegan] at does
  obtain ⟨ready, given⟩ := does.began_call (regular.sound id).registry
  refine ⟨by rw [isBegan, Deed.calls, given], fun path ascent above later => ?_⟩
  have ordered := ((run.primed sound primed).1 moment among).1 id
  exact isPrepared_eq_true.mp (ready.of_mem ordered (regular.sound id).registry ascent above later)

/-- Where no hook is running no class is marked, and everything above an initialized class is
    initialized. -/
theorem Passage.initialized_of_hookless {owed due : List Call}
    (passage : first.Passage strict owed course last.running due last)
    (sound : ∀ id, (first.image id).Sound strict)
    (blank : ∀ id, (first.image id).registry = .empty) (hookless : last.Hookless)
    (id : ImageId) (target : ClassId) :
    ((last.image id).registry.entry target).initializing = none ∧
      ∀ path, (last.image id).registry.Ascent target path →
        (last.image id).registry.reached target .initialized = true →
          ∀ above ∈ path, (last.image id).registry.reached above .initialized = true := by
  have unmarked : ∀ target, ((last.image id).registry.entry target).initializing = none := by
    intro target
    refine Option.eq_none_iff_forall_ne_some.mpr fun thread marked => ?_
    rcases passage.marks id target thread marked with before | ⟨call, inside, init, -⟩
    · rw [MarkedBy, blank id, entry_of_size_le _ (Nat.zero_le target)] at before
      cases before
    · have message := hookless call inside
      rw [init] at message
      cases message
  refine ⟨unmarked target, fun path ascent initialized above member => ?_⟩
  have ordered := (passage.run.primed sound fun id => blank id ▸ primed_empty).2 id
  have prepared := ordered.of_mem ((passage.run.regular sound).2 id).registry ascent
    (isPrepared_eq_true.mpr (.inl initialized)) above member
  rcases isPrepared_eq_true.mp prepared with reached | marked
  · exact reached
  · rw [unmarked above] at marked
    cases marked

/-- Every run has a course, and by any course that leads to where it has got a class is marked as
    being prepared once at most, and as initialized once at most: it has been if it shows. Its
    `initialize` is called when it is first marked and at no other time, as the selector is
    understood on its metaclass then; and then everything above it is initialized or being
    prepared. Where no hook is running, as at the end of a run, no class is marked, and
    everything above an initialized class is initialized. -/
theorem Ran.initialization {ended : Bool} (ran : first.Ran strict ended last) :
    (∃ course, first.Course strict course last) ∧
    (∀ course, first.Course strict course last → ∀ id, id < last.images.size → ∀ target,
      (Course.beginnings id target course).length =
          (Registry.isPrepared (last.image id).registry target).toNat ∧
        (Course.endings id target course).length =
          ((last.image id).registry.reached target .initialized).toNat ∧
        last.calls.filter (Call.initializes id target) =
          (Course.beginnings id target course).flatMap (·.deed.calls) ∧
        ∀ moment ∈ Course.beginnings id target course,
          let image := moment.before.image id
          moment.deed.calls =
              ((image.registry.resolve ⟨target, .metaclass⟩ image.initSelector).map
                (Call.ofInit id target image.initSelector)).toList ∧
            ∀ path, image.registry.Ascent target (target :: path) → ∀ above ∈ path,
              image.registry.reached above .initialized = true ∨
                (image.registry.entry above).initializing.isSome = true) ∧
    (ended = true → last.running = []) ∧
    (last.Hookless → ∀ id target,
      ((last.image id).registry.entry target).initializing = none ∧
        ∀ path, (last.image id).registry.Ascent target path →
          (last.image id).registry.reached target .initialized = true →
            ∀ above ∈ path, (last.image id).registry.reached above .initialized = true) := by
  have sound := ran.sound.images
  have blank := ran.blank
  have primed : ∀ id, (first.image id).registry.Primed := fun id =>
    blank.registry id ▸ primed_empty
  obtain ⟨course, due, passage, -, complete⟩ := ran.history
  refine ⟨⟨course, passage.run⟩, fun course run id inside target => ?_, complete,
    passage.initialized_of_hookless sound blank.registry⟩
  have fresh : Registry.isPrepared (first.image id).registry target = false ∧
      (first.image id).registry.reached target .initialized = false := by
    rw [blank.registry id]
    exact ⟨rfl, rfl⟩
  have marks := run.marks sound primed (run.count sound ▸ inside) target
  simp only [fresh.1, fresh.2, Bool.toNat_false, Nat.add_zero] at marks
  have calls := run.initializes id target
  rw [blank.calls, List.filter_nil, List.nil_append] at calls
  exact ⟨marks.1.symm, marks.2.symm, calls, fun moment => run.beginning sound primed⟩

end Session

/-- Implementations that prepare a class of the first image when they initialize one. -/
def Behaviour.preparing [NameHash] (query : ClassQuery) : Behaviour where
  body call :=
    if call.purpose = .init then do
      let _ ← Act.insist true (Act.asking .idle 0 (.prepare query))
    else pure ()
  handler _ _ _ := pure 0

/-- An implementation that prepares a class is public. -/
theorem Behaviour.preparing_public [NameHash] (query : ClassQuery) (call : Call) :
    ((preparing query).body call).Public true := by
  simp only [preparing]
  split
  · refine .next (.request 0 _ trivial ?_ ?_) fun _ => .done ()
    · exact fun _ => .done ()
    · exact fun _ _ _ => .done 0
  · exact .done ()

/-- A class whose `initialize` sends to the class itself, as that of its superclass does before
    it, is initialized once. -/
theorem Session.Ran.initialization_of_reentrant : ∃ first last : Session,
    first.Ran true true last ∧ (last.image 0).registry.reached 0 .initialized = true ∧
      ∃ course, first.Course true course last ∧ (Course.beginnings 0 1 course).length = 1 ∧
        (Course.beginnings 0 1 course).flatMap (·.deed.calls) =
          [Call.ofInit 0 1 (last.image 0).initSelector 2] := by
  let requests : List Request :=
    [.registerClass ⟨"Animal", none, 8, [], [⟨Image.initSignature, 1⟩]⟩,
     .registerClass ⟨"Dog", some "Animal", 0, [], [⟨Image.initSignature, 2⟩]⟩,
     .prepare ⟨0, "Dog", .inst⟩]
  have isPublic : (Act.inTurn true (.preparing ⟨0, "Dog", .inst⟩) 0 requests).Public true :=
    Act.inTurn_public (Behaviour.preparing_public _) (fun _ _ _ => .done 0) 0
      (by simp [requests, Request.Issued])
  obtain ⟨first, last, ran, checked⟩ := isPublic.exists_ran .info [.standard]
    (fun last => decide (0 < last.images.size) &&
      (last.image 0).registry.reached 0 .initialized &&
      Registry.isPrepared (last.image 0).registry 1 &&
      last.calls.filter (Call.initializes 0 1) ==
        [Call.ofInit 0 1 (last.image 0).initSelector 2])
    (by decide +kernel)
  simp only [Bool.and_eq_true, decide_eq_true_eq, beq_iff_eq] at checked
  obtain ⟨⟨⟨inside, initialized⟩, prepared⟩, calls⟩ := checked
  obtain ⟨⟨course, run⟩, counted, -⟩ := ran.initialization
  obtain ⟨begun, -, called, -⟩ := counted course run 0 inside 1
  rw [prepared] at begun
  exact ⟨first, last, ran, initialized, course, run, begun, called.symm.trans calls⟩

end LateBinding
