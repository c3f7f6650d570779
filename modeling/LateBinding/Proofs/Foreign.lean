import LateBinding.Proofs.Dispatching

/-!
# Classes of another image

A handle names a class together with its image, so another image can be asked about the class as
well. Its methods cannot be replaced there, it has no categories there, and preparing it or
dispatching to it is refused, with its name.

There is one exception. Whether a class serves the running thread is looked up with the class,
before anybody asks whose class it is. A class that has been initialized in its own image, or that
the running thread is initializing, is therefore served by every image: there is nothing left to do
for it, and a message finds what its selector means in the image of the class. A class that another
thread is initializing is refused. Nothing changes in either image in any case.

A class that is initialized is served at once. Everything else is looked up from inside the
registry of the image that was asked, so it has to wait while another thread is there.
-/

namespace LateBinding

namespace Act

open Registry

variable [NameHash] {behaviour : Behaviour} {session : Session} {id : ImageId}
  {handle : ClassHandle}

/-- An image does not own the classes of another one. -/
theorem owns_eq_false (foreign : handle.image ≠ id) : owns session id handle = false := by
  rw [owns, beq_eq_false_iff_ne.mpr foreign, Bool.false_and]

/-- A class is looked up at once if it is initialized, and else from inside the registry. -/
theorem prepare_eq_of_foreign (foreign : handle.image ≠ id)
    (unfinished : (session.registryOf handle).reached handle.ref.id .initialized = false)
    (opened : session.isShut id = false) :
    prepare behaviour id handle session =
      .ok (if ((session.registryOf handle).entry handle.ref.id).initializing = some session.thread
        then .ok () else .error (.classNotFound (session.label handle).name)) session := by
  have elsewhere : ∀ entered, owns { session with entered } id handle = false :=
    fun _ => owns_eq_false foreign
  rw [eq_ok_iff]
  simp only [prepare, outcome_bind, outcome_get, unfinished, Bool.false_eq_true, if_false,
    outcome_inRegistry, opened]
  simp only [prepareInside, outcome_bind, outcome_get, elsewhere, Bool.false_eq_true, if_false]
  have serves : servesThread (session.registryOf handle) handle.ref.id session.thread = true ↔
      ((session.registryOf handle).entry handle.ref.id).initializing = some session.thread := by
    rw [servesThread, unfinished, Bool.false_or, beq_iff_eq]
  split
  · rename_i served
    rw [if_pos (serves.mp served)]
    exact ⟨rfl, rfl⟩
  · rename_i unserved
    rw [if_neg fun marked => unserved (serves.mpr marked)]
    exact ⟨rfl, rfl⟩

/-- A class that is initialized is served at once. -/
theorem prepare_of_initialized
    (initialized : (session.registryOf handle).reached handle.ref.id .initialized = true) :
    prepare behaviour id handle session = .ok (.ok ()) session := by
  rw [eq_ok_iff]
  simp only [prepare, outcome_bind, outcome_get, initialized, if_true, outcome_pure, and_self]

end Act

open Act in
/-- An image serves a class as the image of the class does: there is nothing to prepare, and a
    message finds what its selector means there. -/
structure Session.Serves [NameHash] (session : Session) (id : ImageId)
    (handle : ClassHandle) : Prop where
  prepare : ∀ behaviour, prepare behaviour id handle session = .ok (.ok ()) session
  dispatch : ∀ behaviour selector, dispatch behaviour id handle selector session =
    .ok (.ok ((session.registryOf handle).resolve handle.ref selector)) session
  respondsTo : ∀ behaviour selector, respondsTo behaviour id handle selector session =
    .ok ((session.registryOf handle).resolve handle.ref selector).isSome session

open Act in
/-- An image refuses a class, with its name, and does nothing. -/
structure Session.TurnsAway [NameHash] (session : Session) (id : ImageId) (handle : ClassHandle)
    (name : String) : Prop where
  prepare : ∀ behaviour,
    prepare behaviour id handle session = .ok (.error (.classNotFound name)) session
  dispatch : ∀ behaviour selector,
    dispatch behaviour id handle selector session = .ok (.error (.classNotFound name)) session
  respondsTo : ∀ behaviour selector,
    respondsTo behaviour id handle selector session = .ok false session

open Act in
/-- Whoever asks an image about a class waits, because another thread is inside the registry. -/
structure Session.Delays [NameHash] (session : Session) (id : ImageId)
    (handle : ClassHandle) : Prop where
  prepare : ∀ behaviour, prepare behaviour id handle session = .error .deadlocked session
  dispatch : ∀ behaviour selector,
    dispatch behaviour id handle selector session = .error .deadlocked session
  respondsTo : ∀ behaviour selector,
    respondsTo behaviour id handle selector session = .error .deadlocked session

namespace Session

variable [NameHash] {session : Session} {id : ImageId} {handle : ClassHandle}

/-- A class for which there is nothing to prepare is served, if it has been prepared. -/
theorem serves_of_prepare (sound : (session.registryOf handle).Sound)
    (prepared : (session.registryOf handle).isPrepared handle.ref.id = true)
    (done : ∀ behaviour, Act.prepare behaviour id handle session = .ok (.ok ()) session) :
    session.Serves id handle := by
  have present : ((session.registryOf handle).table? handle.ref).isSome = true :=
    sound.tabled.ready handle.ref.id prepared handle.ref.side
  have dispatched : ∀ behaviour selector, Act.dispatch behaviour id handle selector session =
      .ok (.ok ((session.registryOf handle).resolve handle.ref selector)) session := by
    intro behaviour selector
    rw [eq_ok_iff]
    simp only [Act.dispatch, outcome_bind, done, outcome_ok, outcome_get, outcome_pure,
      sound.lookup_eq present, and_self]
  refine ⟨done, dispatched, fun behaviour selector => ?_⟩
  rw [eq_ok_iff]
  simp only [Act.respondsTo, outcome_bind, dispatched, outcome_ok]
  cases (session.registryOf handle).resolve handle.ref selector with
  | none => exact ⟨rfl, rfl⟩
  | some imp => exact ⟨rfl, rfl⟩

/-- An image that does not prepare a class turns it away altogether. -/
theorem turnsAway_of_prepare {name : String} (refused : ∀ behaviour,
      Act.prepare behaviour id handle session = .ok (.error (.classNotFound name)) session) :
    session.TurnsAway id handle name := by
  have dispatched : ∀ behaviour selector, Act.dispatch behaviour id handle selector session =
      .ok (.error (.classNotFound name)) session := by
    intro behaviour selector
    rw [eq_ok_iff]
    simp only [Act.dispatch, outcome_bind, refused, outcome_ok, outcome_pure, and_self]
  refine ⟨refused, dispatched, fun behaviour selector => ?_⟩
  rw [eq_ok_iff]
  simp only [Act.respondsTo, outcome_bind, dispatched, outcome_ok, outcome_pure, and_self]

/-- An image that waits to prepare a class delays everything. -/
theorem delays_of_prepare (waits : ∀ behaviour,
      Act.prepare behaviour id handle session = .error .deadlocked session) :
    session.Delays id handle := by
  have dispatched : ∀ behaviour selector, Act.dispatch behaviour id handle selector session =
      .error .deadlocked session := by
    intro behaviour selector
    simp only [Act.dispatch, bind, EStateM.bind, waits]
  refine ⟨waits, dispatched, fun behaviour selector => ?_⟩
  simp only [Act.respondsTo, bind, EStateM.bind, dispatched]

end Session

open Act in
/-- What one image answers about a class of another, wherever a program can come. Whatever it
    is asked, nothing changes. No method is replaced and there are no categories. Unless the class
    is initialized in its own image, or being initialized by the running thread, preparing it and
    dispatching to it is refused with its name, and it responds to nothing. If it is, both are as
    good as in its own image. Only what can be told of an initialized class is told while another
    thread is inside the registry of the image that is asked. -/
theorem Session.Reachable.foreign_answers [NameHash] {session : Session}
    (reachable : session.Reachable) {id : ImageId} {handle : ClassHandle}
    (foreign : handle.image ≠ id)
    (registered : handle.ref.id < (session.registryOf handle).size) (selector : Selector)
    (imp : Imp) :
    ∃ name, (session.registryOf handle).find? name = some handle.ref.id ∧
      (replaceMethod id handle selector imp session =
        if session.isShut id then .error .deadlocked session
        else .ok (.error (.classNotFound name)) session) ∧
      categories session id handle = [] ∧
      if (session.registryOf handle).reached handle.ref.id .initialized then
        session.Serves id handle
      else if session.isShut id then session.Delays id handle
      else if ((session.registryOf handle).entry handle.ref.id).initializing =
          some session.thread then session.Serves id handle
      else session.TurnsAway id handle name := by
  have sound := (reachable.sound handle.image).registry
  have named : (session.registryOf handle).find? (session.label handle).name =
      some handle.ref.id := (sound.formed.named _ _).mpr ⟨registered, rfl⟩
  refine ⟨_, named, replaceMethod_of_unowned (owns_eq_false foreign) selector imp, ?_, ?_⟩
  · rw [categories, owns_eq_false foreign]
    rfl
  · split
    · rename_i initialized
      exact serves_of_prepare sound (Registry.isPrepared_eq_true.mpr (.inl initialized))
        fun _ => prepare_of_initialized initialized
    rename_i unfinished
    rw [Bool.not_eq_true] at unfinished
    split
    · rename_i isShut
      exact delays_of_prepare fun _ => prepare_of_shut unfinished isShut
    rename_i opened
    rw [Bool.not_eq_true] at opened
    have prepared := fun behaviour =>
      @prepare_eq_of_foreign _ behaviour session id handle foreign unfinished opened
    split
    · rename_i marked
      have inProgress : (session.registryOf handle).isPrepared handle.ref.id = true := by
        rw [Registry.isPrepared_eq_true, marked]
        exact .inr rfl
      refine serves_of_prepare sound inProgress fun behaviour => ?_
      rw [prepared, if_pos marked]
    · rename_i unmarked
      refine turnsAway_of_prepare fun behaviour => ?_
      rw [prepared, if_neg unmarked]

namespace Act

/-- Two images, of which the second has a class that is initialized and one that is not. -/
theorem exists_foreign : ∃ session : Session, session.Reachable ∧
    (session.image 1).registry.size = 2 ∧ session.isShut 0 = false ∧
    (session.image 1).registry.reached 0 .initialized = true ∧
    (session.image 1).registry.reached 1 .initialized = false ∧
    ((session.image 1).registry.entry 1).initializing = none ∧
    (session.image 1).registry.find? "Dog" = some 1 ∧
    (session.image 1).registry.resolve ⟨0, .inst⟩ 2 = some 1 := by
  let requests : List Request :=
    [.registerClass ⟨"Animal", none, 0, [⟨⟨"speak", none⟩, 1⟩], []⟩,
     .registerClass ⟨"Dog", some "Animal", 0, [], []⟩, .prepare ⟨1, "Animal", .inst⟩]
  have isPublic : (inTurn true .idle 1 requests).Public true :=
    inTurn_public (fun _ => .done ()) (fun _ _ _ => .done 0) 1 (by simp [requests, Request.Issued])
  obtain ⟨session, observed, checked⟩ := isPublic.exists_observed .info [.standard, .standard]
    (fun session => (session.image 1).registry.size == 2 && !session.isShut 0 &&
      (session.image 1).registry.reached 0 .initialized &&
      !(session.image 1).registry.reached 1 .initialized &&
      ((session.image 1).registry.entry 1).initializing == none &&
      (session.image 1).registry.find? "Dog" == some 1 &&
      (session.image 1).registry.resolve ⟨0, .inst⟩ 2 == some 1) (by decide +kernel)
  simp only [Bool.and_eq_true, beq_iff_eq, Bool.not_eq_true'] at checked
  obtain ⟨⟨⟨⟨⟨⟨size, opened⟩, finished⟩, unfinished⟩, unmarked⟩, found⟩, resolved⟩ := checked
  exact ⟨session, observed.reachable, size, opened, finished, unfinished, unmarked, found, resolved⟩

end Act

open Act in
/-- A class that is not initialized is refused by another image, although its superclass is
    initialized. -/
theorem Session.Reachable.foreign_answers_of_unprepared : ∃ session : Session,
    session.Reachable ∧
    dispatch .idle 0 ⟨1, 1, .inst⟩ 2 session = .ok (.error (.classNotFound "Dog")) session ∧
    prepare .idle 0 ⟨1, 1, .inst⟩ session = .ok (.error (.classNotFound "Dog")) session := by
  obtain ⟨session, reachable, size, opened, -, unfinished, unmarked, found, -⟩ := exists_foreign
  have registered : 1 < (session.image 1).registry.size := by
    rw [size]
    decide
  obtain ⟨name, named, -, -, answers⟩ := @Session.Reachable.foreign_answers _ _ reachable 0
    ⟨1, 1, .inst⟩ (by decide) registered 2 0
  have dog : name = "Dog" :=
    ((reachable.sound 1).registry.formed.found_eq_iff named found).mp rfl
  subst dog
  have waiting : ((session.registryOf ⟨1, 1, .inst⟩).reached 1 .initialized) = false := unfinished
  have calm : ((session.registryOf ⟨1, 1, .inst⟩).entry 1).initializing = none := unmarked
  simp only [waiting, opened, calm, Bool.false_eq_true, if_false, reduceCtorEq] at answers
  exact ⟨session, reachable, answers.dispatch _ _, answers.prepare _⟩

open Act in
/-- A class that its own image has initialized is served by another image: it is not refused. -/
theorem Session.Reachable.foreign_served : ∃ session : Session, session.Reachable ∧
    0 < (session.image 1).registry.size ∧
    dispatch .idle 0 ⟨1, 0, .inst⟩ 2 session = .ok (.ok (some 1)) session ∧
    prepare .idle 0 ⟨1, 0, .inst⟩ session = .ok (.ok ()) session ∧
    respondsTo .idle 0 ⟨1, 0, .inst⟩ 2 session = .ok true session := by
  obtain ⟨session, reachable, size, -, initialized, -, -, -, resolved⟩ := exists_foreign
  have serves : session.Serves 0 ⟨1, 0, .inst⟩ :=
    Session.serves_of_prepare (reachable.sound 1).registry
      (Registry.isPrepared_eq_true.mpr (.inl initialized)) fun _ =>
        prepare_of_initialized initialized
  have found : (session.registryOf ⟨1, 0, .inst⟩).resolve ⟨0, .inst⟩ 2 = some 1 := resolved
  have dispatched := serves.dispatch .idle 2
  have responds := serves.respondsTo .idle 2
  rw [found] at dispatched responds
  exact ⟨session, reachable, by rw [size]; decide, dispatched, serves.prepare _, responds⟩

end LateBinding
