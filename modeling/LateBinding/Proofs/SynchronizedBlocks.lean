import LateBinding.Lock.Block
import LateBinding.Proofs.Exclusion
import LateBinding.Proofs.Outcome
import LateBinding.Proofs.SectionOrder

/-!
# A block gives back what it took

A block enters a section, works, and leaves the section once, whether its work ends normally or
by a panic. Work that is made of blocks alone therefore leaves the table of sections as it found
it, and no block of it finds its section left already.

Work that enters and leaves sections on its own may leave one section too often. The end of the
block is fatal then, and only then; otherwise it gives back one level of its object and nothing
else, however deep the work inside has come.
-/

namespace LateBinding

namespace SectionWork

variable {sections before : Sections} {thread : Thread} {object : Object} {work : SectionWork}

/-- What holds of a piece of work if it holds of the pieces it is made of. -/
theorem memberwise {motive : SectionWork → Prop} (enter : ∀ object, motive (.enter object))
    (leave : ∀ object, motive (.leave object)) (ask : ∀ question, motive (.ask question))
    (panic : ∀ text, motive (.panic text))
    (block : ∀ object body, (∀ work ∈ body, motive work) → motive (.block object body))
    (catching : ∀ work, motive work → motive (.catching work)) (work : SectionWork) :
    motive work := by
  refine @SectionWork.rec motive (fun body => ∀ work ∈ body, motive work) enter leave ask panic
    block catching ?_ ?_ work
  · intro member listed
    cases listed
  · intro first rest holds others member listed
    rcases List.mem_cons.mp listed with rfl | later
    · exact holds
    · exact others member later

/-- Work that enters and leaves sections by blocks alone. -/
inductive Blockwise : SectionWork → Prop where
  | ask (question : SectionQuestion) : Blockwise (.ask question)
  | panic (text : String) : Blockwise (.panic text)
  | block (object : Object) (body : List SectionWork) :
    (∀ work ∈ body, Blockwise work) → Blockwise (.block object body)
  | catching (work : SectionWork) : Blockwise work → Blockwise (.catching work)

/-- Work in blocks is so inside a further block. -/
theorem Blockwise.around (object : Object) (blockwise : work.Blockwise) :
    Blockwise (.block object [work]) := by
  apply Blockwise.block
  intro member listed
  cases List.mem_singleton.mp listed
  exact blockwise

/-- Entering gives the sections entered, or waits. -/
theorem entering_spec (thread : Thread) (object : Object) (sections : Sections) :
    Outcome (entering thread object sections)
      (fun _ entered => sections.enter? thread object = some entered)
      fun stop after => stop = .waits ∧ after = sections := by
  simp only [entering, outcome_bind, outcome_get]
  cases entered : sections.enter? thread object with
  | some after => rfl
  | none => exact ⟨rfl, rfl⟩

/-- Leaving gives the sections left, or the error of leaving. -/
theorem leaving_spec (thread : Thread) (object : Object) (sections : Sections) :
    Outcome (leaving thread object sections)
      (fun result after => (result = .ok () ∧ sections.leave thread object = .ok after) ∨
        ∃ error, result = .error error ∧ sections.leave thread object = .error error ∧
          after = sections)
      fun _ _ => False := by
  simp only [leaving, outcome_bind, outcome_get]
  cases left : sections.leave thread object with
  | ok after => exact .inl ⟨rfl, rfl⟩
  | error error => exact .inr ⟨error, rfl, rfl, rfl⟩

/-- Settled work stops where the work stops, unless that panics. -/
theorem outcome_settled {α : Type} {action : Working α} {done : Except String α → Sections → Prop}
    {stopped : SectionStop → Sections → Prop}
    (outcome : Outcome (action sections) (fun value after => done (.ok value) after)
      fun stop after => (∃ text, stop = .panicked text ∧ done (.error text) after) ∨
        (∀ text, stop ≠ .panicked text) ∧ stopped stop after) :
    Outcome (settled action sections) done stopped := by
  unfold settled
  cases ended : action sections with
  | ok value after =>
    rw [ended] at outcome
    exact outcome
  | error stop after =>
    rw [ended] at outcome
    obtain ⟨text, rfl, panicked⟩ | ⟨other, kept⟩ := outcome
    · exact panicked
    · cases stop with
      | panicked text => exact absurd rfl (other text)
      | fatal error => exact kept
      | waits => exact kept

/-- Work in sequence keeps what each piece of it keeps. -/
theorem performAll_outcome {kept : Sections → Prop} {stopped : SectionStop → Sections → Prop}
    (works : List SectionWork)
    (members : ∀ work ∈ works, ∀ sections, kept sections →
      Outcome (perform thread work sections) (fun _ after => kept after) stopped)
    (start : kept sections) :
    Outcome (performAll thread works sections) (fun _ after => kept after) stopped := by
  induction works generalizing sections with
  | nil => exact start
  | cons work rest inductionHypothesis =>
    simp only [performAll, outcome_bind, outcome_pure]
    apply (members work List.mem_cons_self sections start).imp
    intro _ between keptBetween
    exact inductionHypothesis (fun other member => members other (List.mem_cons_of_mem _ member))
      keptBetween

/-- Sections are in order when a panic is caught. -/
theorem settled_orderly {α : Type} {action : Working α}
    (outcome : Outcome (action sections) (fun _ after => after.Orderly)
      fun _ after => after.Orderly) :
    Outcome (settled action sections) (fun _ after => after.Orderly)
      fun _ after => after.Orderly := by
  apply outcome_settled
  apply outcome.mono (fun _ _ given => given)
  intro stop after given
  cases stop with
  | panicked text => exact .inl ⟨text, rfl, given⟩
  | fatal error => exact .inr ⟨fun text impossible => (by cases impossible), given⟩
  | waits => exact .inr ⟨fun text impossible => (by cases impossible), given⟩

/-- Whatever is done with an orderly table leaves it orderly, also where it stops. -/
theorem perform_orderly (work : SectionWork) : ∀ sections, sections.Orderly →
    Outcome (perform thread work sections) (fun _ after => after.Orderly)
      fun _ after => after.Orderly := by
  -- Leaving a section, with or without success.
  have leaving : ∀ object sections, sections.Orderly →
      Outcome (leaving thread object sections) (fun _ after => after.Orderly)
        fun _ after => after.Orderly := by
    intro object sections orderly
    apply (leaving_spec thread object sections).mono
    · rintro result after (⟨-, left⟩ | ⟨-, -, -, rfl⟩)
      · exact orderly.leave left
      · exact orderly
    · exact fun _ _ impossible => impossible.elim
  have entering : ∀ object sections, sections.Orderly →
      Outcome (entering thread object sections) (fun _ after => after.Orderly)
        fun _ after => after.Orderly := by
    intro object sections orderly
    apply (entering_spec thread object sections).mono
    · exact fun _ after entered => orderly.enter? entered
    · rintro _ _ ⟨-, rfl⟩
      exact orderly
  induction work using memberwise with
  | enter object =>
    intro sections orderly
    simp only [perform, outcome_bind, outcome_pure]
    exact entering object sections orderly
  | leave object =>
    intro sections orderly
    simp only [perform, outcome_bind]
    apply (leaving object sections orderly).imp
    intro result after given
    cases result <;> exact given
  | ask question => exact fun _ orderly => orderly
  | panic text => exact fun _ orderly => orderly
  | block object body members =>
    intro sections orderly
    simp only [perform, outcome_bind]
    apply (entering object sections orderly).imp
    intro _ inside insideOrderly
    apply (settled_orderly (performAll_outcome body members insideOrderly)).imp
    intro ended between betweenOrderly
    apply (leaving object between betweenOrderly).imp
    intro result after given
    cases result <;> cases ended <;> exact given
  | catching work inductionHypothesis =>
    intro sections orderly
    simp only [perform, outcome_bind]
    apply (settled_orderly (inductionHypothesis sections orderly)).imp
    intro ended after given
    cases ended <;> exact given

/-- How work that is made of blocks may stop: it waits, or a panic has come through all blocks
    around it and the table is as it was before. -/
def Unwinds (before : Sections) (stop : SectionStop) (after : Sections) : Prop :=
  stop = .waits ∨ (∃ text, stop = .panicked text) ∧ before.Restored after

/-- Pieces of work that leave the table as it was do so in sequence: each of them starts from the
    same table as the first. -/
theorem performAll_restores (works : List SectionWork)
    (members : ∀ work ∈ works, ∀ sections, sections.Orderly →
      Outcome (perform thread work sections) (fun _ after => sections.Restored after)
        (Unwinds sections)) (orderly : sections.Orderly) :
    Outcome (performAll thread works sections) (fun _ after => sections.Restored after)
      (Unwinds sections) := by
  apply performAll_outcome works _ (Sections.Restored.refl sections)
  intro work member between restored
  apply (members work member between (restored.orderly orderly)).mono
  · exact fun _ _ further => restored.trans further
  · rintro stop after (waits | ⟨panicked, further⟩)
    · exact .inl waits
    · exact .inr ⟨panicked, restored.trans further⟩

/-- Settled work that stops does so to wait. -/
theorem settled_restores {α : Type} {action : Working α}
    (outcome : Outcome (action sections) (fun _ after => before.Restored after) (Unwinds before)) :
    Outcome (settled action sections) (fun _ after => before.Restored after)
      fun stop _ => stop = .waits := by
  apply outcome_settled
  apply outcome.mono (fun _ _ given => given)
  rintro stop after (rfl | ⟨⟨text, rfl⟩, restored⟩)
  · exact .inr ⟨fun text impossible => (by cases impossible), rfl⟩
  · exact .inl ⟨text, rfl, restored⟩

/-- Work that is made of blocks leaves the table as it was, unless it has to wait, and is never
    fatal. -/
theorem Blockwise.restores (blockwise : work.Blockwise) : ∀ sections, sections.Orderly →
    Outcome (perform thread work sections) (fun _ after => sections.Restored after)
      (Unwinds sections) := by
  induction blockwise with
  | ask question => exact fun sections _ => Sections.Restored.refl sections
  | panic text => exact fun sections _ => .inr ⟨⟨text, rfl⟩, Sections.Restored.refl sections⟩
  | block object body _ members =>
    intro sections orderly
    simp only [perform, outcome_bind]
    apply (entering_spec thread object sections).mono
    · intro _ inside entered
      apply (settled_restores (performAll_restores body members (orderly.enter? entered))).mono
      · intro ended between restored
        obtain ⟨left, result, leftRestored⟩ := orderly.leave_entered entered restored
        apply (leaving_spec thread object between).certain
        rintro _ after (⟨rfl, leaves⟩ | ⟨error, -, refused, -⟩)
        · cases result.symm.trans leaves
          cases ended with
          | ok answers => exact leftRestored
          | error text => exact .inr ⟨⟨text, rfl⟩, leftRestored⟩
        · cases result.symm.trans refused
      · exact fun _ _ waits => .inl waits
    · exact fun _ _ both => .inl both.1
  | catching work _ inductionHypothesis =>
    intro sections orderly
    simp only [perform, outcome_bind]
    apply (settled_restores (inductionHypothesis sections orderly)).mono
    · intro ended after restored
      cases ended <;> exact restored
    · exact fun _ _ waits => .inl waits

/-- What goes on after an action that ended goes on from its value. -/
theorem bind_of_ok {α β : Type} {action : Working α} {next : α → Working β} {value : α}
    {after : Sections} (ended : action sections = .ok value after) :
    (action >>= next) sections = next value after := by
  simp only [bind, EStateM.bind, ended]

/-- How a block ends whose body has ended: by leaving the section, which is fatal if there is
    nothing to leave. -/
theorem perform_block {body : List SectionWork} {entered inside : Sections}
    {ended : Except String (List SectionAnswer)}
    (enters : sections.enter? thread object = some entered)
    (ends : settled (performAll thread body) entered = .ok ended inside) :
    (∀ error, inside.leave thread object = .error error →
      perform thread (.block object body) sections = .error (.fatal error) inside) ∧
    ∀ left, inside.leave thread object = .ok left →
      (∀ answers, ended = .ok answers →
        perform thread (.block object body) sections = .ok (.finished answers) left) ∧
      ∀ text, ended = .error text →
        perform thread (.block object body) sections = .error (.panicked text) left := by
  have opened : entering thread object sections = .ok () entered := by
    simp only [eq_ok_iff, entering, outcome_bind, outcome_get, enters, outcome_set, and_self]
  rw [perform, bind_of_ok opened, bind_of_ok ends]
  constructor
  · intro error refused
    have closed : leaving thread object inside = .ok (.error error) inside := by
      simp only [eq_ok_iff, leaving, outcome_bind, outcome_get, refused, outcome_pure, and_self]
    rw [bind_of_ok closed]
    rfl
  · intro left leaves
    have closed : leaving thread object inside = .ok (.ok ()) left := by
      simp only [eq_ok_iff, leaving, outcome_bind, outcome_get, leaves, outcome_set, outcome_pure,
        and_self]
    rw [bind_of_ok closed]
    constructor
    · rintro answers rfl
      rfl
    · rintro text rfl
      rfl

end SectionWork

namespace Contention

open SectionWork

variable {state : Contention} {moves : List Move}

/-- In a table that threads use in order, locks and entries are in order by themselves. -/
theorem InOrder.orderly (inOrder : state.InOrder) : state.sections.Orderly where
  distinct := inOrder.distinct
  apart := inOrder.apart
  backs object entry found := by
    have governs := inOrder.governs object entry found
    obtain ⟨waiters, -, counted⟩ := governs.users
    exact ⟨governs.made, governs.owned, governs.used, by omega⟩

/-- However a table of sections has come about, a program of nested blocks that never has to wait
    leaves it as it was, whether it finishes or panics, and is never fatal. A block around any
    work whatever is fatal exactly if the thread is at no level of the object when the work ends,
    by itself or by a panic; otherwise the block gives back one level of the object and nothing
    else, and ends as the work did. -/
theorem released_exactly (ran : start.run? moves = some state) (thread : Thread) :
    (∀ program : List SectionWork, (∀ work ∈ program, work.Blockwise) →
      Outcome (performAll thread program state.sections)
        (fun _ after => state.sections.Restored after)
        (fun stop after => stop = .waits ∨
          (∃ text, stop = .panicked text) ∧ state.sections.Restored after)) ∧
    ∀ (object : Object) (body : List SectionWork) (entered : Sections)
      (ended : Except String (List SectionAnswer)) (inside : Sections), object.isNull = false →
      state.sections.enter? thread object = some entered →
      settled (performAll thread body) entered = .ok ended inside →
      ((∃ error after, perform thread (.block object body) state.sections =
        .error (.fatal error) after) ↔ inside.depth thread object = 0) ∧
      (inside.depth thread object ≠ 0 → ∃ left, inside.Released left thread object ∧
        (∀ answers, ended = .ok answers →
          perform thread (.block object body) state.sections = .ok (.finished answers) left) ∧
        ∀ text, ended = .error text →
          perform thread (.block object body) state.sections = .error (.panicked text) left) := by
  have orderly := (start_inOrder.run ran).orderly
  constructor
  · intro program blockwise
    exact performAll_restores program (fun work member => (blockwise work member).restores) orderly
  · intro object body entered ended inside real enters ends
    obtain ⟨fatal, goesOn⟩ := perform_block enters ends
    have insideOrderly : inside.Orderly := by
      have bodyOrderly : Outcome (performAll thread body entered) (fun _ after => after.Orderly)
          fun _ after => after.Orderly :=
        performAll_outcome body (fun work _ => perform_orderly work) (orderly.enter? enters)
      have outcome := settled_orderly bodyOrderly
      rw [ends] at outcome
      exact outcome
    obtain ⟨zero, error, refused⟩ | ⟨positive, left, leaves⟩ :=
      inside.leave_cases thread real
    · refine ⟨⟨fun _ => zero, fun _ => ⟨error, inside, fatal error refused⟩⟩, ?_⟩
      exact fun deep => absurd zero deep
    · obtain ⟨finished, panicked⟩ := goesOn left leaves
      refine ⟨⟨?_, fun zero => absurd zero (Nat.ne_of_gt positive)⟩, ?_⟩
      · rintro ⟨error, after, stops⟩
        cases ended with
        | ok answers => cases stops.symm.trans (finished answers rfl)
        | error text => cases stops.symm.trans (panicked text rfl)
      · exact fun _ => ⟨left, insideOrderly.released real leaves, finished, panicked⟩

/-- A thread is inside an object for which another one waits. -/
def attended (object : Object) : List Move :=
  [.register (.spawned 1) object, .acquire (.spawned 1), .register (.spawned 2) object]

/-- The thread inside panics below three blocks, one of them on no object, and the table is as it
    was; and a block whose section is left by its work is fatal. -/
theorem released_exactly_of_panic :
    ∃ state, start.run? (attended (.address 8)) = some state ∧
      (∃ after, performAll (.spawned 1) [.block (.address 8) [.block .null
          [.block (.address 16) [.panic "stop"]]]] state.sections =
          .error (.panicked "stop") after ∧ state.sections.Restored after) ∧
      ∃ error after, perform (.spawned 1) (.block (.address 16) [.leave (.address 16)])
        state.sections = .error (.fatal error) after := by
  have possible : (start.run? (attended (.address 8))).isSome := by decide
  have ran := (Option.some_get possible).symm
  obtain ⟨restores, block⟩ := released_exactly ran (.spawned 1)
  refine ⟨_, ran, ?_, ?_⟩
  · obtain ⟨after, panics⟩ : ∃ after, performAll (.spawned 1) [.block (.address 8) [.block .null
        [.block (.address 16) [.panic "stop"]]]]
        ((start.run? (attended (.address 8))).get possible).sections =
        .error (.panicked "stop") after := ⟨_, rfl⟩
    have outcome := restores [.block (.address 8) [.block .null
      [.block (.address 16) [.panic "stop"]]]] ?_
    · rw [panics] at outcome
      obtain waits | ⟨-, restored⟩ := outcome
      · cases waits
      · exact ⟨after, panics, restored⟩
    · intro work member
      cases List.mem_singleton.mp member
      exact .around _ (.around _ (.around _ (.panic _)))
  · exact (block (.address 16) [.leave (.address 16)] _ _ _ rfl rfl rfl).1.mpr rfl

end Contention

end LateBinding
