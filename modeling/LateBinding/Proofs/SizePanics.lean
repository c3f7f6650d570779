import LateBinding.Proofs.Exhaustion

/-!
# Panics at sums

A class or a module panics at a sum exactly if the registry with its classes overflows. The classes
of a module are there before the signatures of its categories are interned, and interning can fail
first, for want of a selector or because the load of the selector table is no word. Requests that
neither add classes nor send a message never panic so.

Messages do not as long as the image is settled. A module that runs out of selectors leaves classes
behind that are not linked, and the first message to one of them links it. The handler of messages
without an implementation is a program, and may add classes itself.
-/

namespace LateBinding

namespace Act

variable [NameHash] {α : Type} {behaviour : Behaviour} {session : Session} {id : ImageId}

/-- A panic does not get past an implementation. -/
theorem sealedOff_stops (act : Act α) (session : Session) :
    Outcome (sealedOff act session) (fun _ _ => True)
      fun halt _ => ∀ panic, halt ≠ .panicked panic := by
  unfold sealedOff
  cases act session with
  | ok value after => trivial
  | error halt after => cases halt <;> simp

/-- An edit that fails only at a registry that overflows, or for interning, panics at a sum
    exactly if the registry overflows, and hooks have no part in it. -/
theorem editAndRun_overflows {change : Edit α} {overflows : Prop}
    (edited : Outcome (change { image := session.image id }) (fun _ _ => ¬ overflows)
      (fun failure _ => failure.Exhausted ∨ failure = .panicked .sumOverflow ∧ overflows)) :
    Outcome (editAndRun behaviour id change session)
      (fun result _ => result = .error .outOfSelectors ∨ ¬ overflows)
      (fun halt _ => halt = .panicked .productOverflow ∨
        (halt = .panicked .sumOverflow ↔ overflows)) := by
  simp only [editAndRun, outcome_bind]
  apply (edit_outcome edited).mono
  · rintro result _ ⟨draft, rfl, given⟩
    cases result with
    | ok value =>
      simp only [outcome_bind, outcome_pure]
      apply (runHooks_halts (fun _ => sealedOff_stops _) id value.2 _).mono
      · exact fun _ _ _ => .inr given
      · intro halt after passes
        exact .inr ⟨fun same => absurd same (passes _), fun tooLarge => absurd tooLarge given⟩
    | error error =>
      obtain (same | impossible) | ⟨impossible, -⟩ := given
      · cases same
        exact .inl rfl
      · cases impossible
      · cases impossible
  · rintro _ _ ⟨panic, draft, rfl, -, (impossible | same) | ⟨same, tooLarge⟩⟩
    · cases impossible
    · cases same
      exact .inl rfl
    · cases same
      exact .inr ⟨fun _ => tooLarge, fun _ => rfl⟩

/-- In a registry it does so when its turn comes. -/
theorem inRegistry_overflows {change : Edit α} {overflows : Prop}
    (edited : Outcome (change { image := session.image id }) (fun _ _ => ¬ overflows)
      (fun failure _ => failure.Exhausted ∨ failure = .panicked .sumOverflow ∧ overflows)) :
    Outcome (inRegistry id (editAndRun behaviour id change) session)
      (fun result _ =>
        result = .error .outOfSelectors ∨ ¬ (session.isShut id = false ∧ overflows))
      (fun halt _ => halt = .panicked .productOverflow ∨
        (halt = .panicked .sumOverflow ↔ session.isShut id = false ∧ overflows)) := by
  rw [outcome_inRegistry]
  split
  · rename_i isShut
    refine .inr (iff_of_false Halt.noConfusion ?_)
    rintro ⟨opened, -⟩
    rw [isShut] at opened
    cases opened
  · rename_i opened
    rw [Bool.not_eq_true] at opened
    let inside : Session := { session with entered := (id, session.thread) :: session.entered }
    have turn : session.isShut id = false ∧ overflows ↔ overflows := and_iff_right opened
    simp only [turn]
    apply (@editAndRun_overflows _ α behaviour inside id change overflows edited).mono
    · exact fun _ _ given => given
    · intro halt after given
      cases halt <;> exact given

section

variable {handle : ClassHandle} {path : List ClassId}

/-- A class whose size would be no word serves no thread, since it is not loaded. -/
theorem servesThread_of_too_large (sound : (session.image id).registry.Sound)
    (measured : (session.image id).registry.Measured) {target : ClassId}
    (ascent : (session.image id).registry.Ascent target path)
    (tooLarge : Word.largest < (session.image id).registry.total path) (thread : Thread) :
    servesThread (session.image id).registry target thread = false := by
  refine Bool.eq_false_iff.mpr fun served => ?_
  rw [servesThread, Bool.or_eq_true, beq_iff_eq] at served
  have loaded := sound.loaded_of_isPrepared (Registry.isPrepared_eq_true.mpr
    (served.imp_right fun mark => by rw [mark]; rfl))
  have size := measured.sized.size_eq_total sound.formed ascent loaded
  have fits := measured.size_le loaded
  omega

/-- Preparing a class brings it up to date before anything else is done for it. -/
theorem prepareInside_too_large (sound : (session.image id).registry.Sound)
    (measured : (session.image id).registry.Measured) (owned : owns session id handle = true)
    (chained : (session.image id).registry.chain handle.ref.id = .ok path)
    (tooLarge : Word.largest < (session.image id).registry.total path) :
    Outcome (prepareInside behaviour id handle session) (fun _ _ => False)
      fun halt _ => halt = .panicked .sumOverflow := by
  have owner := owned
  rw [owns, Bool.and_eq_true, beq_iff_eq, decide_eq_true_eq] at owner
  obtain ⟨sameImage, inside⟩ := owner
  have ascent := (Registry.chain_eq_ok_iff sound.formed.lt_of_find? inside).mp chained
  have idle := servesThread_of_too_large sound measured ascent tooLarge session.thread
  have registry : session.registryOf handle = (session.image id).registry := by
    rw [Session.registryOf, sameImage]
  have readied : Outcome (readyTables handle.ref.id { image := session.image id })
      (fun _ _ => False) (fun failure _ => failure = .panicked .sumOverflow) := by
    simp only [readyTables, outcome_bind]
    exact (@Edit.advance_too_large _ { image := session.image id } sound measured _ _ inside chained
      tooLarge).mono (fun _ _ never => never.elim) fun _ _ panicked => panicked
  obtain ⟨above, rfl⟩ := ascent.head
  simp only [prepareInside, outcome_bind, outcome_get, registry, idle, Bool.false_eq_true, if_false,
    owned, if_true, chained, prepareAlong, editAndRun]
  apply (edit_outcome readied).mono
  · rintro result _ ⟨draft, -, never⟩
    cases result with
    | ok value => exact never.elim
    | error error => cases never
  · rintro _ _ ⟨panic, draft, rfl, -, same⟩
    exact congrArg Halt.panicked (Failure.panicked.inj same)

/-- A dispatch to a class that has been left behind panics at a sum if what the class and the
    classes above it declare is no word. -/
theorem dispatch_too_large (sound : (session.image id).registry.Sound)
    (measured : (session.image id).registry.Measured) (opened : session.isShut id = false)
    (owned : owns session id handle = true)
    (chained : (session.image id).registry.chain handle.ref.id = .ok path)
    (tooLarge : Word.largest < (session.image id).registry.total path) (selector : Selector) :
    Outcome (dispatch behaviour id handle selector session) (fun _ _ => False)
      fun halt _ => halt = .panicked .sumOverflow := by
  have owner := owned
  rw [owns, Bool.and_eq_true, beq_iff_eq, decide_eq_true_eq] at owner
  obtain ⟨sameImage, inside⟩ := owner
  have ascent := (Registry.chain_eq_ok_iff sound.formed.lt_of_find? inside).mp chained
  have unfinished := (Bool.or_eq_false_iff.mp
    (servesThread_of_too_large sound measured ascent tooLarge session.thread)).1
  have registry : session.registryOf handle = (session.image id).registry := by
    rw [Session.registryOf, sameImage]
  let entering : Session := { session with entered := (id, session.thread) :: session.entered }
  simp only [dispatch, prepare, outcome_bind, outcome_get, registry, unfinished,
    Bool.false_eq_true, if_false, outcome_inRegistry, opened]
  apply (@prepareInside_too_large _ behaviour entering id handle path sound measured owned chained
    tooLarge).mono
  · exact fun _ _ never => never.elim
  · rintro _ after rfl
    exact rfl

end

end Act

namespace Request

open Act

variable [NameHash] {strict : Bool} {behaviour : Behaviour} {session : Session} {id : ImageId}

/-- A request has neither run out of selectors nor panicked at the load of the selector table. -/
def Interned (result : EStateM.Result Halt Session Answer) : Prop :=
  (∀ after, result ≠ .ok (.refused .outOfSelectors) after) ∧ panic? result ≠ some .productOverflow

/-- An answer that does not come from interning tells whether sizes overflow. -/
theorem panic?_eq_iff {result : EStateM.Result Halt Session Answer} {overflows : Prop}
    (outcome : Outcome result (fun answer _ => answer = .refused .outOfSelectors ∨ ¬ overflows)
      (fun halt _ => halt = .panicked .productOverflow ∨
        (halt = .panicked .sumOverflow ↔ overflows)))
    (interned : Interned result) : panic? result = some .sumOverflow ↔ overflows := by
  obtain ⟨selectors, load⟩ := interned
  cases result with
  | ok answer after =>
    have fits : ¬ overflows := outcome.resolve_left fun same => selectors after (by rw [same])
    constructor
    · intro impossible
      cases impossible
    · exact fun tooLarge => absurd tooLarge fits
  | error halt after =>
    rw [ne_eq, panic?_error_eq_some] at load
    rw [panic?_error_eq_some]
    exact outcome.resolve_left load

/-- A class under a name that is not taken panics at a sum exactly if its turn comes and the
    registry with the class overflows. -/
theorem registerClass_panics_iff (sound : (session.image id).Sound strict)
    (measured : (session.image id).registry.Measured) {decl : ClassDecl}
    (fresh : decl.name ∉ (session.image id).registry.names)
    (interned : Interned ((registerClass decl).run behaviour id session)) :
    panic? ((registerClass decl).run behaviour id session) = some .sumOverflow ↔
      session.isShut id = false ∧ ((session.image id).registry.adding [decl]).Overflows := by
  refine panic?_eq_iff ?_ interned
  simp only [run, outcome_bind, outcome_get, outcome_pure]
  apply (inRegistry_overflows (@Edit.registerClass_overflows _ strict { image := session.image id }
    sound measured decl fresh)).imp
  rintro result after (rfl | fits)
  · exact .inl rfl
  · exact .inr fits

/-- A module panics at a sum exactly if its turn comes and the registry with its classes
    overflows. -/
theorem loadModule_panics_iff (sound : (session.image id).Sound strict)
    (measured : (session.image id).registry.Measured) (decl : ModuleDecl)
    (interned : Interned ((loadModule decl).run behaviour id session)) :
    panic? ((loadModule decl).run behaviour id session) = some .sumOverflow ↔
      session.isShut id = false ∧
        ((session.image id).registry.adding decl.classes).Overflows := by
  refine panic?_eq_iff ?_ interned
  simp only [run, outcome_bind, outcome_get, outcome_pure]
  apply (inRegistry_overflows (@Edit.loadModule_overflows _ strict { image := session.image id }
    sound measured decl)).imp
  rintro result after (rfl | fits)
  · exact .inl rfl
  · exact .inr fits

/-- What may halt a request that does not panic at a sum. -/
def summed : Halt → Session → Prop := fun halt _ => halt ≠ .panicked .sumOverflow

/-- Other panics are not minded. -/
theorem tolerant_summed : Tolerant summed where
  calm _ calm _ := calm _
  panics _ _ _ given := given
  interning _ impossible := by cases impossible

/-- What halts otherwise does not panic at a sum. -/
theorem never_panics {result : EStateM.Result Halt Session Answer} {done : Answer → Session → Prop}
    (outcome : Outcome result done fun halt after => summed halt after) :
    panic? result ≠ some .sumOverflow := by
  intro panics
  obtain ⟨after, rfl⟩ := panic?_eq_some.mp panics
  exact outcome rfl

/-- Requests that neither add classes nor send a message do not, settled or not. -/
theorem silent_never_panics (sound : session.Sound strict) {asked : Request}
    (issued : asked.Issued) (others : ¬ asked.AddsClasses) (silent : asked.recipient? = none) :
    panic? (asked.run behaviour id session) ≠ some .sumOverflow := by
  have composed : Composed (Keeps strict summed) := keeps_composed tolerant_summed
  cases asked.kind with
  | plain isPlain =>
    exact never_panics ((composed.plainRequest isPlain session sound).mono (fun _ _ moves => moves)
      fun _ _ given => given.1)
  | message given =>
    rw [silent] at given
    cases given
  | replacing target query imp =>
    exact never_panics ((replacing_keeps tolerant_summed id issued session sound).mono
      (fun _ _ moves => moves) fun _ _ given => given.1)
  | registering registers =>
    cases asked with
    | registerCategory decl =>
      have inserted := @Edit.insertCategory_outcome _ strict { image := session.image id }
        (sound.images id) decl
      have edited : Outcome (Edit.insertCategory decl { image := session.image id })
          (fun _ _ => ¬ False) (fun failure _ => failure.Exhausted ∨
            failure = .panicked .sumOverflow ∧ False) :=
        inserted.mono (fun _ _ _ => not_false) fun _ _ given => .inl given.1
      refine @never_panics _ _ (fun _ _ => True) ?_
      simp only [run, outcome_bind, outcome_pure]
      apply (inRegistry_overflows edited).mono
      · exact fun _ _ _ => trivial
      · rintro halt after (rfl | never) same
        · cases same
        · exact (never.mp same).2
    | registerClass decl => exact absurd trivial others
    | loadModule decl => exact absurd trivial others
    | _ => cases registers

/-- Other requests to an image that is settled do not, unless the handler does. -/
theorem other_never_panics (sound : session.Sound true) (keeps : behaviour.Keeps true)
    (calm : ∀ id handle selector session,
      Outcome (behaviour.handler id handle selector session) (fun _ _ => True)
        fun halt _ => halt ≠ .panicked .sumOverflow)
    {asked : Request} (issued : asked.Issued) (others : ¬ asked.AddsClasses) :
    panic? (asked.run behaviour id session) ≠ some .sumOverflow := by
  have allows : behaviour.Allows true summed := by
    refine ⟨tolerant_summed, ?_, ?_⟩
    · rintro halt after (halts | ⟨-, impossible⟩)
      · exact halts.ne_panicked _
      · cases impossible
    · intro id handle selector before beforeSound
      apply ((keeps.handler id handle selector before beforeSound).and
        (calm id handle selector before)).mono
      · exact fun _ _ both => both.1
      · rintro halt after ⟨⟨-, moves⟩, other⟩
        exact ⟨other, moves⟩
  exact never_panics ((other_keeps keeps allows id issued others session sound).mono
    (fun _ _ moves => moves) fun _ _ given => given.1)

/-- A message to a class that has been left behind and is too large panics at a sum. -/
theorem dispatch_panics (sound : (session.image id).registry.Sound)
    (measured : (session.image id).registry.Measured) (opened : session.isShut id = false)
    {name : String} {target : ClassId} {path : List ClassId}
    (found : (session.image id).registry.find? name = some target)
    (chained : (session.image id).registry.chain target = .ok path)
    (tooLarge : Word.largest < (session.image id).registry.total path) (side : Side)
    (selector : Selector) :
    panic? ((Request.dispatch ⟨id, name, side⟩ (.number selector)).run behaviour id session) =
      some .sumOverflow := by
  have inside := sound.formed.lt_of_find? _ _ found
  have owned : owns session id ⟨id, target, side⟩ = true := by simpa [owns] using inside
  have stopped := @dispatch_too_large _ behaviour session id ⟨id, target, side⟩ path sound measured
    opened owned chained tooLarge selector
  have whole : Outcome
      ((Request.dispatch ⟨id, name, side⟩ (.number selector)).run behaviour id session)
      (fun _ _ => False) fun halt _ => halt = .panicked .sumOverflow := by
    simp only [run, withMessage, withClass, findClass, withSelector, Act.findSelector, outcome_bind,
      outcome_awaitRegistry, opened, Bool.false_eq_true, if_false, outcome_registry, found,
      outcome_pure]
    exact stopped.mono (fun _ _ never => never.elim) fun _ _ panicked => panicked
  rw [panic?_eq_some]
  cases ended : (Request.dispatch ⟨id, name, side⟩ (.number selector)).run behaviour id session with
  | ok answer after =>
    rw [ended] at whole
    exact whole.elim
  | error halt after =>
    rw [ended] at whole
    cases whole
    exact ⟨after, rfl⟩

end Request

/-- A class that is not linked has the size it declares, and any other the size that it and all
    classes above it declare, which is a word. If interning goes well, a class under a new name
    and a module panic at a sum exactly if their turn comes and the registry with the new classes
    overflows. A class under a name that is taken never does, nor does any other request that
    sends no message. As long as selectors have not run out no message does either, unless the
    handler does. -/
theorem Session.Observed.sizes_exact [NameHash] {strict : Bool} {session : Session}
    (observed : session.Observed strict) :
    (∀ id target,
      ((session.image id).registry.stage target = .registered →
        ((session.image id).registry.entry target).size =
          ((session.image id).registry.entry target).declaredSize) ∧
      ((session.image id).registry.reached target .setUp = true →
        ∃ path, (session.image id).registry.chain target = .ok path ∧
          ((session.image id).registry.entry target).size =
            (session.image id).registry.total path ∧
          ((session.image id).registry.entry target).size ≤ Word.largest)) ∧
    (∀ behaviour id (decl : ClassDecl), decl.name ∉ (session.image id).registry.names →
      Request.Interned ((Request.registerClass decl).run behaviour id session) →
      (Act.panic? ((Request.registerClass decl).run behaviour id session) = some .sumOverflow ↔
        session.isShut id = false ∧ ((session.image id).registry.adding [decl]).Overflows)) ∧
    (∀ behaviour id (decl : ModuleDecl),
      Request.Interned ((Request.loadModule decl).run behaviour id session) →
      (Act.panic? ((Request.loadModule decl).run behaviour id session) = some .sumOverflow ↔
        session.isShut id = false ∧
          ((session.image id).registry.adding decl.classes).Overflows)) ∧
    (∀ behaviour id (decl : ClassDecl), decl.name ∈ (session.image id).registry.names →
      Act.panic? ((Request.registerClass decl).run behaviour id session) = none) ∧
    (∀ behaviour id (asked : Request), asked.Issued → ¬ asked.AddsClasses →
      asked.recipient? = none → Act.panic? (asked.run behaviour id session) ≠ some .sumOverflow) ∧
    (strict = true → ∀ behaviour : Behaviour,
      (∀ call, (behaviour.body call).Public true) →
      (∀ id handle selector, (behaviour.handler id handle selector).Public true ∧
        ∀ session, Outcome (behaviour.handler id handle selector session) (fun _ _ => True)
          fun halt _ => halt ≠ .panicked .sumOverflow) →
      ∀ id (asked : Request), asked.Issued → ¬ asked.AddsClasses →
        Act.panic? (asked.run behaviour id session) ≠ some .sumOverflow) := by
  have sound := observed.sound
  have measured := observed.measured
  refine ⟨fun id target => ?_, fun behaviour id decl fresh => ?_, fun behaviour id decl => ?_,
    fun behaviour id decl taken => ?_,
    fun behaviour id asked issued others silent =>
      Request.silent_never_panics sound issued others silent,
    fun isStrict behaviour bodies handlers id asked => ?_⟩
  · have formed := (sound.images id).registry.formed
    constructor
    · intro registered
      rw [(measured id).sized target, observed.loose id target registered]
      exact Nat.zero_add _
    · intro linked
      have loaded : (session.image id).registry.reached target .loaded = true := by
        rcases formed.registered_or_loaded target with registered | loaded
        · rw [Registry.reached, registered] at linked
          cases linked
        · exact loaded
      obtain ⟨-, -, path, ascent⟩ :=
        formed.linked target (Registry.stage_ne_registered_of_reached loaded)
      have inside := Registry.lt_size_of_reached loaded
      exact ⟨path, (Registry.chain_eq_ok_iff formed.lt_of_find? inside).mpr ascent,
        (measured id).sized.size_eq_total formed ascent loaded, (measured id).size_le loaded⟩
  · exact Request.registerClass_panics_iff (sound.images id) (measured id) fresh
  · exact Request.loadModule_panics_iff (sound.images id) (measured id) decl
  · have named := (sound.images id).registry.formed.named
    rw [Request.registerClass_of_taken fun absent =>
      (Registry.Indexed.find?_eq_none_iff named decl.name).mp absent taken]
    split <;> rfl
  · subst isStrict
    have keeps : behaviour.Keeps true :=
      ⟨fun call => (bodies call).keeps,
        fun id handle selector => (handlers id handle selector).1.keeps⟩
    exact Request.other_never_panics sound keeps
      fun id handle selector => (handlers id handle selector).2

/-- A root that arrives late panics because of a class that has waited for it. What was registered
    before has its size, and preparing it panics at no sum. -/
theorem Session.Observed.sizes_exact_of_late_root : ∃ session : Session, session.Observed true ∧
    (∃ path, (session.image 0).registry.chain 1 = .ok path ∧
      ((session.image 0).registry.entry 1).size = (session.image 0).registry.total path) ∧
    ((session.image 0).registry.adding [⟨"Root", none, Word.largest, [], []⟩]).Overflows ∧
    Act.panic? ((Request.registerClass ⟨"Base", none, 1, [], []⟩).run .idle 0 session) = none ∧
    Act.panic? ((Request.prepare ⟨0, "Base", .inst⟩).run .idle 0 session) ≠
      some .sumOverflow := by
  let root : ClassDecl := ⟨"Root", none, Word.largest, [], []⟩
  let requests : List Request :=
    [.registerClass ⟨"Leaf", some "Root", 1, [], []⟩, .registerClass ⟨"Base", none, 8, [], []⟩]
  have isPublic : (Act.inTurn true .idle 0 requests).Public true :=
    Act.inTurn_public (fun _ => .done ()) (fun _ _ _ => .done 0) 0
      (by simp [requests, Request.Issued])
  obtain ⟨session, observed, checked⟩ := isPublic.exists_observed .info [.standard]
    (fun session => (session.image 0).registry.names == ["Leaf", "Base"] &&
      (session.image 0).registry.reached 1 .setUp &&
      Act.panic? ((Request.registerClass root).run .idle 0 session) == some .sumOverflow)
    (by decide +kernel)
  simp only [Bool.and_eq_true, beq_iff_eq] at checked
  obtain ⟨⟨names, linked⟩, panicked⟩ := checked
  obtain ⟨sizes, fresh, -, taken, -, others⟩ := Session.Observed.sizes_exact observed
  obtain ⟨path, chained, size, -⟩ := (sizes 0 1).2 linked
  refine ⟨session, observed, ⟨path, chained, size⟩, ?_, ?_, ?_⟩
  · have interned : Request.Interned ((Request.registerClass root).run .idle 0 session) := by
      constructor
      · intro after ended
        rw [ended] at panicked
        cases panicked
      · rw [panicked]
        decide
    exact ((fresh .idle 0 root (by rw [names]; decide) interned).mp panicked).2
  · exact taken .idle 0 ⟨"Base", none, 1, [], []⟩ (by rw [names]; decide)
  · exact others rfl .idle (fun _ => .done ()) (fun _ _ _ => ⟨.done 0, fun _ => trivial⟩) 0 _
      trivial not_false

/-- The signatures of a category can stop a module first, after its classes have been added: the
    registry with them overflows, and the panic is another one. -/
theorem Session.Observed.sum_forestalled : ∃ (session : Session) (decl : ModuleDecl),
    session.Observed true ∧ ((session.image 0).registry.adding decl.classes).Overflows ∧
    Act.panic? ((Request.loadModule decl).run .idle 0 session) = some .productOverflow := by
  let config : Config := { Config.standard with load := ⟨1, 4611686018427387904⟩ }
  let decl : ModuleDecl :=
    ⟨"M", [], [⟨"A", none, Word.largest, [], []⟩, ⟨"B", some "A", 1, [], []⟩],
      [⟨"X", "A", [⟨⟨"p", none⟩, 1⟩, ⟨⟨"q", none⟩, 2⟩], []⟩]⟩
  let sizes (registry : Registry) : Option Nat := (registry.chain 1).toOption.map registry.total
  have isPublic : (Act.inTurn true .idle 0 []).Public true := .done ()
  obtain ⟨session, observed, checked⟩ := isPublic.exists_observed .info [config]
    (fun session => ((session.image 0).registry.adding decl.classes).size == 2 &&
      sizes ((session.image 0).registry.adding decl.classes) == some (Word.largest + 1) &&
      Act.panic? ((Request.loadModule decl).run .idle 0 session) == some .productOverflow)
    (by decide +kernel)
  simp only [Bool.and_eq_true, beq_iff_eq] at checked
  obtain ⟨⟨size, tooLarge⟩, panicked⟩ := checked
  obtain ⟨path, found, total⟩ := Option.map_eq_some_iff.mp tooLarge
  refine ⟨session, decl, observed, ⟨1, path, by omega, ?_, by omega⟩, panicked⟩
  cases chained : ((session.image 0).registry.adding decl.classes).chain 1 with
  | ok other =>
    rw [chained] at found
    cases found
    rfl
  | error error =>
    rw [chained] at found
    cases found

namespace Act

variable [NameHash]

/-- A handler that registers a class. -/
def adopting (decl : ClassDecl) : Behaviour where
  body _ := pure ()
  handler _ _ _ := do
    let _ ← insist true (asking .idle 0 (.registerClass decl))
    return 0

/-- A handler that registers a class is public. -/
theorem adopting_public (decl : ClassDecl) (id : ImageId) (handle : ClassHandle)
    (selector : Selector) : ((adopting decl).handler id handle selector).Public true :=
  .next (.request 0 _ trivial (fun _ => .done ()) fun _ _ _ => .done 0) fun _ => .done 0

/-- Registers classes and then installs a handler. -/
def adoptingLater (decls : List ClassDecl) : Act Answer := do
  inTurn true .idle 0 (decls.map .registerClass)
  (Step.setForward 0 0 [] false).run .idle

end Act

/-- A class that the handler registers can be too large, and the panic goes through the request
    that asked the handler. -/
theorem Session.Observed.sum_of_handler : ∃ (session : Session) (behaviour : Behaviour),
    session.Observed true ∧ (∀ call, (behaviour.body call).Public true) ∧
    (∀ id handle selector, (behaviour.handler id handle selector).Public true) ∧
    Act.panic? ((Request.lookupOrForward ⟨0, "Big", .inst⟩ (.number 2)).run behaviour 0 session) =
      some .sumOverflow := by
  let huge : ClassDecl := ⟨"Huge", some "Big", 1, [], []⟩
  have isPublic : (Act.adoptingLater [⟨"Big", none, Word.largest, [], []⟩]).Public true := by
    refine .next ?_ fun _ => .setForward .idle 0 0 [] false
    exact Act.inTurn_public (fun _ => .done ()) (fun _ _ _ => .done 0) 0 (by simp [Request.Issued])
  obtain ⟨session, observed, panicked⟩ := isPublic.exists_observed .info [.standard]
    (fun session => Act.panic? ((Request.lookupOrForward ⟨0, "Big", .inst⟩ (.number 2)).run
      (Act.adopting huge) 0 session) == some .sumOverflow)
    (by decide +kernel)
  exact ⟨session, Act.adopting huge, observed, fun _ => .done (), Act.adopting_public huge,
    beq_iff_eq.mp panicked⟩

/-- A module that ran out of selectors can have left a class behind that is too large, although its
    names lead to a root. -/
theorem Session.Observed.exists_too_large : ∃ session : Session, session.Observed false ∧
    session.isShut 0 = false ∧ (session.image 0).registry.find? "Huge" = some 1 ∧
    (session.image 0).registry.chain 1 = .ok [1, 0] ∧
    Word.largest < (session.image 0).registry.total [1, 0] := by
  let bare : List ClassDecl :=
    [⟨"Big", none, Word.largest, [], []⟩, ⟨"Huge", some "Big", 1, [], []⟩]
  obtain ⟨session, observed, opened, registry⟩ :=
    @Session.Observed.exists_left_behind bare (by simp [bare])
  refine ⟨session, observed, opened, ?_⟩
  rw [registry]
  decide +kernel

/-- Nor does a request to dispatch to it. -/
theorem Session.Observed.sum_of_message : ∃ session : Session, session.Observed false ∧
    Act.panic? ((Request.dispatch ⟨0, "Huge", .inst⟩ (.number 2)).run .idle 0 session) =
      some .sumOverflow := by
  obtain ⟨session, observed, opened, found, chained, tooLarge⟩ :=
    Session.Observed.exists_too_large
  exact ⟨session, observed, Request.dispatch_panics (observed.sound.images 0).registry
    (observed.measured 0) opened found chained tooLarge .inst 2⟩

/-- A panic at a sum that the registry has in store can be forestalled by another one, and one that
    has nothing to do with new classes can come from a handler, or from classes that were left
    behind when selectors ran out. -/
theorem Session.Observed.sum_elsewhere :
    (∃ (session : Session) (decl : ModuleDecl), session.Observed true ∧
      ((session.image 0).registry.adding decl.classes).Overflows ∧
      Act.panic? ((Request.loadModule decl).run .idle 0 session) = some .productOverflow) ∧
    (∃ (session : Session) (behaviour : Behaviour), session.Observed true ∧
      (∀ call, (behaviour.body call).Public true) ∧
      (∀ id handle selector, (behaviour.handler id handle selector).Public true) ∧
      Act.panic? ((Request.lookupOrForward ⟨0, "Big", .inst⟩ (.number 2)).run behaviour 0 session) =
        some .sumOverflow) ∧
    ∃ session : Session, session.Observed false ∧
      Act.panic? ((Request.dispatch ⟨0, "Huge", .inst⟩ (.number 2)).run .idle 0 session) =
        some .sumOverflow :=
  ⟨Session.Observed.sum_forestalled, Session.Observed.sum_of_handler,
    Session.Observed.sum_of_message⟩

end LateBinding
