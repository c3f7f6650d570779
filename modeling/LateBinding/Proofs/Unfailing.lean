import LateBinding.Proofs.SizePanics
import LateBinding.Proofs.Sourcing

/-!
# Operations that do not fail half way

An operation changes the registry before it brings tables up to date. In every session that a
program with selectors from some table can come to, a table can be built for every side at any
time, so nothing is refused after the registry has been changed.

What is left are refusals that come first: of a class whose name is taken or that an image does
not have, and for want of a selector. Panics are another matter. A size that is no word stops a
class or a module where it has got to, and a load of the selector table that is no word stops
whatever interns a signature, a category among them.
-/

namespace LateBinding

open Session

/-- What is refused for want of a selector is refused for nothing else. -/
theorem Failure.Exhausted.of_refused {error : Error}
    (exhausted : (Failure.refused error).Exhausted) : error = .outOfSelectors := by
  rcases exhausted with same | impossible
  · exact Failure.refused.inj same
  · cases impossible

/-- A panic for want of selectors is that of a product. -/
theorem Failure.Exhausted.of_panicked {panic : Panic}
    (exhausted : (Failure.panicked panic).Exhausted) : panic = .productOverflow := by
  rcases exhausted with impossible | same
  · cases impossible
  · exact Failure.panicked.inj same

/-- An operation on an image halts in an implementation, or waits for its turn. -/
def Behaviour.Interrupts [NameHash] (behaviour : Behaviour) (session : Session) (id : ImageId)
    (halt : Halt) (after : Session) : Prop :=
  behaviour.Halts halt after ∨ halt = .deadlocked ∧ session.isShut id = true ∧ after = session

namespace Act

variable [NameHash] {α : Type} {behaviour : Behaviour}

/-- An edit and its hooks are refused if the edit is, and halt if it panics or in a hook. -/
theorem editAndRun_ends {session : Session} {id : ImageId} {change : Edit α}
    {failed : Failure → Draft → Prop}
    (edited : Outcome (change { image := session.image id }) (fun _ _ => True) failed) :
    Outcome (editAndRun behaviour id change session)
      (fun result after => (∃ value, result = .ok value) ∨ ∃ error draft,
        result = .error error ∧ after = session.adopt id draft ∧ failed (.refused error) draft)
      (fun halt after => behaviour.Halts halt after ∨ ∃ panic draft,
        halt = .panicked panic ∧ failed (.panicked panic) draft) := by
  simp only [editAndRun, outcome_bind]
  apply (edit_outcome edited).mono
  · rintro result _ ⟨draft, rfl, ended⟩
    cases result with
    | error error => exact .inr ⟨error, draft, rfl, rfl, ended⟩
    | ok given =>
      simp only [outcome_bind, outcome_pure]
      apply (runHooks_halts sealedOff_halts id given.2 _).mono
      · exact fun _ _ _ => .inl ⟨given.1, rfl⟩
      · exact fun _ _ halts => .inl halts
  · rintro halt _ ⟨panic, draft, same, -, ended⟩
    exact .inr ⟨panic, draft, same, ended⟩

/-- So does an operation, when it has its turn. -/
theorem operation_ends {session : Session} {id : ImageId} {change : Edit α}
    {failed : Failure → Draft → Prop}
    (edited : Outcome (change { image := session.image id }) (fun _ _ => True) failed) :
    Outcome (inRegistry id (editAndRun behaviour id change) session)
      (fun result after => (∃ value, result = .ok value) ∨ ∃ error draft,
        result = .error error ∧ after = session.adopt id draft ∧ failed (.refused error) draft)
      (fun halt after => behaviour.Interrupts session id halt after ∨ ∃ panic draft,
        halt = .panicked panic ∧ failed (.panicked panic) draft) := by
  rw [outcome_inRegistry]
  split
  · rename_i isShut
    exact .inl (.inr ⟨rfl, isShut, rfl⟩)
  let inside : Session := { session with entered := (id, session.thread) :: session.entered }
  apply (@editAndRun_ends _ α behaviour inside id change failed edited).mono
  · rintro result _ (succeeds | ⟨error, draft, same, rfl, refused⟩)
    · exact .inl succeeds
    · exact .inr ⟨error, draft, same, rfl, refused⟩
  · rintro halt after (halts | ⟨panic, draft, rfl, panicked⟩)
    · cases halt with
      | panicked panic => exact absurd rfl (halts.ne_panicked panic)
      | aborted panic => exact .inl (.inl halts)
      | fatal error => exact .inl (.inl halts)
      | deadlocked => exact .inl (.inl halts)
    · exact .inr ⟨panic, draft, rfl, panicked⟩

end Act

/-- A session that a program which uses only selectors that some table has handed out can come
    to, whether it goes on there, ends, halts or panics, and whatever panics it has caught. -/
abbrev Session.Sourced [NameHash] : Session → Prop := Session.Reached Request.Sourced Halt.Spared

/-- What an image is asked for is not refused half way, and it is known what else can be wrong. -/
structure Session.Unfailing [NameHash] (session : Session) (id : ImageId) : Prop where
  /-- Tables of a class that is set up can be built, ensured and rebuilt. -/
  tables : ∀ draft : Draft, draft.image = session.image id → ∀ ref : SideRef,
    (session.image id).registry.reached ref.id .setUp = true →
      (∃ table after, Edit.build ref draft = .ok table after) ∧
      (∃ table after, Edit.ensure ref draft = .ok table after) ∧
      ∃ after, Edit.rebuild ref.id draft = .ok () after
  /-- A key that is out of range is never the answer, nor what a message ends with. -/
  keys : ∀ behaviour : Behaviour, (∀ call, (behaviour.body call).Sourced) →
    (∀ id handle selector, (behaviour.handler id handle selector).Sourced) →
    ∀ asked : Request, asked.Sourced → Outcome (asked.run behaviour id session)
      (fun answer _ => answer.Spared) (fun halt _ => halt.Spared)
  /-- A category is registered unless selectors have run out, and then no registry has changed. -/
  category : ∀ behaviour decl,
    Outcome (Act.inRegistry id (Act.editAndRun behaviour id (Edit.insertCategory decl)) session)
      (fun result after => (∃ category, result = .ok category) ∨ result = .error .outOfSelectors ∧
        ∀ other, (after.image other).registry = (session.image other).registry)
      (fun halt after => behaviour.Interrupts session id halt after ∨
        halt = .panicked .productOverflow)
  /-- A module is loaded unless selectors have run out. -/
  modules : ∀ behaviour decl,
    Outcome (Act.inRegistry id (Act.editAndRun behaviour id (Edit.loadModule decl)) session)
      (fun result _ => (∃ classes, result = .ok classes) ∨ result = .error .outOfSelectors)
      (fun halt after => behaviour.Interrupts session id halt after ∨
        halt = .panicked .productOverflow ∨ halt = .panicked .sumOverflow)
  /-- A class is registered unless selectors have run out or its name is taken. -/
  registering : ∀ behaviour decl,
    Outcome (Act.inRegistry id (Act.editAndRun behaviour id (Edit.registerClass decl)) session)
      (fun result _ => (∃ target, result = .ok target) ∨ result = .error .outOfSelectors ∨
        result = .error (.classAlreadyExists decl.name) ∧
          (session.image id).registry.find? decl.name ≠ none)
      (fun halt after => behaviour.Interrupts session id halt after ∨
        halt = .panicked .productOverflow ∨ halt = .panicked .sumOverflow)
  /-- When it has its turn, a method is replaced unless the image does not have the class, and then
      nothing happens. -/
  replacing : ∀ handle selector imp, Selector.Handed selector →
    (session.isShut id = true →
      Act.replaceMethod id handle selector imp session = .error .deadlocked session) ∧
    (session.isShut id = false →
      (Act.owns session id handle = true → ∃ previous after,
        Act.replaceMethod id handle selector imp session = .ok (.ok previous) after) ∧
      (Act.owns session id handle = false → Act.replaceMethod id handle selector imp session =
        .ok (.error (.classNotFound (session.label handle).name)) session))

namespace Session

variable [NameHash] {session : Session}

/-- Wherever such a program can come, every selector can be the key of a table. -/
theorem Reached.issued (sourced : session.Sourced) : session.Issued := by
  refine sourced.property Session.Issued fun program isSourced threshold configs first started => ?_
  have sound : first.Sound false := start_sound started
  have issued : first.Issued := fun id =>
    ⟨(sound.images id).registry.formed.allIssued, (sound.images id).selectors⟩
  exact (isSourced.upholds first issued).mono (fun _ _ given => given.2) fun _ _ given => given.2

namespace Issued

variable {id : ImageId} {behaviour : Behaviour}

/-- Building tables does not fail. -/
theorem tables (issued : session.Issued) {draft : Draft} (same : draft.image = session.image id)
    (ref : SideRef) : (∃ table after, Edit.build ref draft = .ok table after) ∧
      (∃ table after, Edit.ensure ref draft = .ok table after) ∧
      ∃ after, Edit.rebuild ref.id draft = .ok () after := by
  have draftIssued : draft.Issued := by
    constructor
    · rw [same]
      exact (issued id).registry
    · rw [same]
      exact (issued id).selectors
  have rebuilds : Edit.Upholds Edit.anything Edit.never (Edit.rebuild ref.id) :=
    Edit.rebuild_upholds ref.id
  obtain ⟨built, builtDraft, builds, -⟩ := (Edit.build_unseen draftIssued ref).exists_ok
  obtain ⟨ensured, ensuredDraft, ensures, -⟩ := (Edit.ensure_unseen draftIssued ref).exists_ok
  have rebuilt := (rebuilds draft draftIssued).mono (fun _ _ given => given)
    fun _ _ impossible => impossible.1
  obtain ⟨_, after, ended, -⟩ := rebuilt.exists_ok
  exact ⟨⟨built, builtDraft, builds⟩, ⟨ensured, ensuredDraft, ensures⟩, after, ended⟩

/-- A category that is refused has changed no registry. -/
theorem category (issued : session.Issued) (decl : CategoryDecl) :
    Outcome (Act.inRegistry id (Act.editAndRun behaviour id (Edit.insertCategory decl)) session)
      (fun result after => (∃ category, result = .ok category) ∨ result = .error .outOfSelectors ∧
        ∀ other, (after.image other).registry = (session.image other).registry)
      (fun halt after => behaviour.Interrupts session id halt after ∨
        halt = .panicked .productOverflow) := by
  have inserted := (Edit.insertCategory_issues (issued id) decl).mono
    (fun _ _ _ => trivial) fun _ _ stopped => stopped
  apply (Act.operation_ends inserted).mono
  · rintro _ _ (succeeds | ⟨error, draft, rfl, rfl, exhausted, -, same⟩)
    · exact .inl succeeds
    · refine .inr ⟨congrArg _ exhausted.of_refused, fun other => ?_⟩
      change ((session.setImage id draft.image).image other).registry = _
      rw [image_setImage]
      split
      · rename_i here
        rw [same, here.1]
      · rfl
  · rintro _ _ (halts | ⟨panic, draft, rfl, exhausted, -⟩)
    · exact .inl halts
    · exact .inr (congrArg _ exhausted.of_panicked)

/-- Loading a module does not fail but for want of selectors or at a number that is no word. -/
theorem loadsModule (issued : session.Issued) (decl : ModuleDecl) :
    Outcome (Act.inRegistry id (Act.editAndRun behaviour id (Edit.loadModule decl)) session)
      (fun result _ => (∃ classes, result = .ok classes) ∨ result = .error .outOfSelectors)
      (fun halt after => behaviour.Interrupts session id halt after ∨
        halt = .panicked .productOverflow ∨ halt = .panicked .sumOverflow) := by
  have loaded := (Edit.loadModule_upholds decl _ (issued id)).mono
    (fun _ _ _ => trivial) fun _ _ stopped => stopped.1
  apply (Act.operation_ends loaded).mono
  · rintro _ _ (succeeds | ⟨error, draft, rfl, -, exhausted | impossible⟩)
    · exact .inl succeeds
    · exact .inr (congrArg _ exhausted.of_refused)
    · cases impossible
  · rintro _ _ (halts | ⟨panic, draft, rfl, exhausted | same⟩)
    · exact .inl halts
    · exact .inr (.inl (congrArg _ exhausted.of_panicked))
    · cases same
      exact .inr (.inr rfl)

/-- Registering a class does not fail otherwise, unless the name is taken. -/
theorem registering (issued : session.Issued) (decl : ClassDecl) :
    Outcome (Act.inRegistry id (Act.editAndRun behaviour id (Edit.registerClass decl)) session)
      (fun result _ => (∃ target, result = .ok target) ∨ result = .error .outOfSelectors ∨
        result = .error (.classAlreadyExists decl.name) ∧
          (session.image id).registry.find? decl.name ≠ none)
      (fun halt after => behaviour.Interrupts session id halt after ∨
        halt = .panicked .productOverflow ∨ halt = .panicked .sumOverflow) := by
  have registered := (Edit.registerClass_issues (issued id) decl).mono
    (fun _ _ _ => trivial) fun _ _ stopped => stopped.2
  apply (Act.operation_ends registered).mono
  · rintro _ _ (succeeds | ⟨error, draft, rfl, -, ⟨same, taken⟩ | exhausted | impossible⟩)
    · exact .inl succeeds
    · cases same
      exact .inr (.inr ⟨rfl, taken⟩)
    · exact .inr (.inl (congrArg _ exhausted.of_refused))
    · cases impossible
  · rintro _ _ (halts | ⟨panic, draft, rfl, ⟨impossible, -⟩ | exhausted | same⟩)
    · exact .inl halts
    · cases impossible
    · exact .inr (.inl (congrArg _ exhausted.of_panicked))
    · cases same
      exact .inr (.inr rfl)

/-- Replacing a method does not fail for a class of the image. -/
theorem replacing (issued : session.Issued) (handle : ClassHandle) {selector : Selector}
    (imp : Imp) (handed : Selector.Handed selector) :
    (session.isShut id = true →
      Act.replaceMethod id handle selector imp session = .error .deadlocked session) ∧
    (session.isShut id = false →
      (Act.owns session id handle = true → ∃ previous after,
        Act.replaceMethod id handle selector imp session = .ok (.ok previous) after) ∧
      (Act.owns session id handle = false → Act.replaceMethod id handle selector imp session =
        .ok (.error (.classNotFound (session.label handle).name)) session)) := by
  have replaces : Edit.Upholds Edit.anything Edit.never
      (Edit.replaceMethod handle.ref selector imp) :=
    Edit.replaceMethod_upholds handle.ref imp handed.lt_capacity
  refine ⟨fun isShut => Act.replaceMethod_of_shut isShut handle selector imp,
    fun opened => ⟨fun owned => ?_, fun unowned => ?_⟩⟩
  · have outcome : Outcome (Act.replaceMethod id handle selector imp session)
        (fun result _ => ∃ previous, result = .ok previous) (fun _ _ => False) := by
      simp only [Act.replaceMethod, outcome_bind, Act.outcome_awaitRegistry, outcome_get, opened,
        owned, Bool.false_eq_true, if_true, if_false]
      apply (Act.edit_outcome (replaces _ (issued id))).mono
      · rintro result _ ⟨draft, rfl, ended⟩
        cases result with
        | ok given => exact ⟨given.1, rfl⟩
        | error error => exact ended.1.elim
      · rintro _ _ ⟨panic, draft, -, -, impossible, -⟩
        exact impossible
    obtain ⟨_, after, ended, previous, rfl⟩ := outcome.exists_ok
    exact ⟨previous, after, ended⟩
  · rw [Act.replaceMethod_of_unowned unowned, opened]
    rfl

end Issued

end Session

/-- Wherever a program can come that uses only selectors which some table has handed out, also after
    panics: tables can be built, ensured and rebuilt for every class that is set up, nothing is
    refused because a key is out of range, and nothing is refused half way. A category or a module
    is refused only for want of a selector, a class also if its name is taken, and a method is
    replaced in every class that the image has. -/
theorem Session.Sourced.never_fails_halfway [NameHash] {session : Session}
    (sourced : session.Sourced) (id : ImageId) : session.Unfailing id where
  tables _ same ref _ := sourced.issued.tables same ref
  keys behaviour bodies handlers asked isSourced := by
    have upholds : behaviour.Upholds := ⟨fun call => (bodies call).upholds,
      fun id handle selector => (handlers id handle selector).upholds⟩
    apply (Act.request_upholds upholds id isSourced session sourced.issued).mono
    · exact fun _ _ given => given.1
    · exact fun _ _ stopped => stopped.1
  category _ := sourced.issued.category
  modules _ := sourced.issued.loadsModule
  registering _ := sourced.issued.registering
  replacing handle _ imp handed := sourced.issued.replacing handle imp handed

/-- A class overflowed, the panic was caught, and the image goes on: a category is attached to the
    class above it, and a method is replaced there for a selector of another table. -/
theorem Session.Sourced.never_fails_halfway_after_panic : ∃ session : Session, session.Sourced ∧
    (session.image 0).registry.reached 0 .setUp = true ∧
    (session.image 0).registry.find? "Leaf" = some 1 ∧
    (session.image 0).registry.reached 1 .setUp = false ∧
    (∃ previous after, Act.replaceMethod 0 ⟨0, ⟨0, .inst⟩⟩ 2 7 session = .ok (.ok previous) after) ∧
    ∃ after, Edit.rebuild 0 { image := session.image 0 } = .ok () after := by
  have handed : Selector.Handed 2 := by
    let signature (name : String) : Signature := ⟨name, none⟩
    let first : SelectorTable nameHash := .empty 1 ⟨1, 1⟩ 8
    have made : SelectorTable.create 1 ⟨1, 1⟩ 8 = .ok first := by rfl
    exact ⟨nameHash, _, signature "c",
      ((SelectorTable.Arises.created made).asked (signature "a")).asked (signature "b"),
      by decide +kernel⟩
  let requests : List Request :=
    [.registerClass ⟨"Root", none, Word.largest, [⟨⟨"speak", none⟩, 1⟩], []⟩,
     .registerClass ⟨"Leaf", some "Root", 1, [], []⟩,
     .registerCategory ⟨"Loud", "Root", [⟨⟨"speak", none⟩, 2⟩], []⟩]
  have sourced : (Act.trying .idle 0 requests).Sourced :=
    Act.Resilient.trying (fun _ => .done ()) (fun _ _ _ => .done 0) 0
      (by simp [requests, Request.Sourced])
  obtain ⟨session, isSourced, checked⟩ := sourced.exists_session .info [.standard]
    (fun session => (session.image 0).registry.reached 0 .setUp &&
      (session.image 0).registry.find? "Leaf" == some 1 &&
      !(session.image 0).registry.reached 1 .setUp && Act.owns session 0 ⟨0, ⟨0, .inst⟩⟩ &&
      !session.isShut 0)
    (by decide +kernel)
  simp only [Bool.and_eq_true, beq_iff_eq, Bool.not_eq_true'] at checked
  obtain ⟨⟨⟨⟨setUp, found⟩, waits⟩, owned⟩, opened⟩ := checked
  have unfailing := Session.Sourced.never_fails_halfway isSourced 0
  obtain ⟨-, -, rebuilt⟩ := unfailing.tables { image := session.image 0 } rfl ⟨0, .inst⟩ setUp
  exact ⟨session, isSourced, setUp, found, waits,
    ((unfailing.replacing ⟨0, ⟨0, .inst⟩⟩ 2 7 handed).2 opened).1 owned, rebuilt⟩

/-- A category can panic with selectors to spare and with no class that could be too large: the load
    of the selector table is no word. -/
theorem Session.Sourced.category_stopped : ∃ (session : Session) (decl : CategoryDecl),
    session.Sourced ∧ (session.image 0).registry.size = 0 ∧
    (session.image 0).selectors.size + decl.methods.length + decl.classMethods.length ≤
      (session.image 0).selectors.limit ∧
    Act.panic? ((Request.registerCategory decl).run .idle 0 session) =
      some .productOverflow := by
  let config : Config := { Config.standard with load := ⟨1, 4611686018427387904⟩ }
  let decl : CategoryDecl := ⟨"X", "A", [⟨⟨"p", none⟩, 1⟩, ⟨⟨"q", none⟩, 2⟩], []⟩
  have sourced : (Act.trying .idle 0 []).Sourced := .done ()
  obtain ⟨session, isSourced, checked⟩ := sourced.exists_session .info [config]
    (fun session => (session.image 0).registry.size == 0 &&
      decide ((session.image 0).selectors.size + decl.methods.length + decl.classMethods.length ≤
        (session.image 0).selectors.limit) &&
      Act.panic? ((Request.registerCategory decl).run .idle 0 session) == some .productOverflow)
    (by decide +kernel)
  simp only [Bool.and_eq_true, beq_iff_eq, decide_eq_true_eq] at checked
  obtain ⟨⟨empty, room⟩, panicked⟩ := checked
  exact ⟨session, decl, isSourced, empty, room, panicked⟩

end LateBinding
