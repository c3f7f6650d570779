import LateBinding.Image.Edit

/-!
# Outcomes of computations

Edits and actions are computations over a state that end with a value or with a reason
to stop, and keep the state either way. `Outcome` says what holds of the end, with one
condition for each way. The laws take a computation apart into its pieces, so that it is
described by the descriptions of the operations it is made of, and no operation has to
be opened twice.
-/

namespace LateBinding

variable {ε σ α β : Type}

/-- A computation ended with a value such that `done`, or with a reason such that
    `stopped`; both conditions see the state it left. -/
def Outcome (result : EStateM.Result ε σ α) (done : α → σ → Prop) (stopped : ε → σ → Prop) :
    Prop :=
  match result with
  | .ok value after => done value after
  | .error reason after => stopped reason after

variable {done : α → σ → Prop} {stopped : ε → σ → Prop} {s : σ}

/-- A result is what it is. -/
@[simp] theorem outcome_ok (value : α) (after : σ) :
    Outcome (.ok value after : EStateM.Result ε σ α) done stopped ↔ done value after := Iff.rfl

/-- So is a failure. -/
@[simp] theorem outcome_error (reason : ε) (after : σ) :
    Outcome (.error reason after : EStateM.Result ε σ α) done stopped ↔ stopped reason after :=
  Iff.rfl

/-- A value leaves the state as it is. -/
@[simp] theorem outcome_pure (value : α) :
    Outcome ((pure value : EStateM ε σ α) s) done stopped ↔ done value s := Iff.rfl

/-- Looking at the state gives the state. -/
@[simp] theorem outcome_get {done : σ → σ → Prop} :
    Outcome ((get : EStateM ε σ σ) s) done stopped ↔ done s s := Iff.rfl

/-- A state that is set is the state. -/
@[simp] theorem outcome_set {done : PUnit → σ → Prop} (state : σ) :
    Outcome ((set state : EStateM ε σ PUnit) s) done stopped ↔ done PUnit.unit state := Iff.rfl

/-- A failure leaves the state as it is. -/
@[simp] theorem outcome_throw (reason : ε) :
    Outcome ((throw reason : EStateM ε σ α) s) done stopped ↔ stopped reason s := Iff.rfl

/-- What is done in sequence ends as its second part does, from wherever the first part
    got, unless the first part stops. -/
@[simp] theorem outcome_bind {first : EStateM ε σ β} {next : β → EStateM ε σ α} :
    Outcome ((first >>= next) s) done stopped ↔
      Outcome (first s) (fun value after => Outcome (next value after) done stopped) stopped := by
  simp only [bind, EStateM.bind]
  cases first s <;> exact Iff.rfl

/-- An outcome also meets any weaker conditions. -/
theorem Outcome.mono {result : EStateM.Result ε σ α} {weaker : α → σ → Prop}
    {weakerStopped : ε → σ → Prop} (outcome : Outcome result done stopped)
    (weaken : ∀ value after, done value after → weaker value after)
    (weakenStopped : ∀ reason after, stopped reason after → weakerStopped reason after) :
    Outcome result weaker weakerStopped := by
  cases result with
  | ok value after => exact weaken value after outcome
  | error reason after => exact weakenStopped reason after outcome

/-- There is an outcome, whatever it is. -/
theorem outcome_any (result : EStateM.Result ε σ α) :
    Outcome result (fun _ _ => True) fun _ _ => True := by
  cases result <;> trivial

/-- What holds of the value may be weakened alone. -/
theorem Outcome.imp {result : EStateM.Result ε σ α} {weaker : α → σ → Prop}
    (outcome : Outcome result done stopped)
    (weaken : ∀ value after, done value after → weaker value after) :
    Outcome result weaker stopped :=
  outcome.mono weaken fun _ _ given => given

/-- What is known of an outcome in two ways is known of it at once. -/
theorem Outcome.and {result : EStateM.Result ε σ α} {also : α → σ → Prop}
    {alsoStopped : ε → σ → Prop} (first : Outcome result done stopped)
    (second : Outcome result also alsoStopped) :
    Outcome result (fun value after => done value after ∧ also value after)
      (fun reason after => stopped reason after ∧ alsoStopped reason after) := by
  cases result with
  | ok value after => exact ⟨first, second⟩
  | error reason after => exact ⟨first, second⟩

/-- A computation that cannot stop may be followed by one that can. -/
theorem Outcome.certain {result : EStateM.Result ε σ α} {weaker : α → σ → Prop}
    (outcome : Outcome result done fun _ _ => False)
    (weaken : ∀ value after, done value after → weaker value after) :
    Outcome result weaker stopped :=
  outcome.mono weaken fun _ _ impossible => impossible.elim

/-- A computation that cannot stop ends with a value. -/
theorem Outcome.exists_ok {result : EStateM.Result ε σ α}
    (outcome : Outcome result done fun _ _ => False) :
    ∃ value after, result = .ok value after ∧ done value after := by
  cases result with
  | ok value after => exact ⟨value, after, rfl, outcome⟩
  | error reason after => exact outcome.elim

/-- To end with a certain value and state is an outcome as well. -/
theorem eq_ok_iff {result : EStateM.Result ε σ α} {value : α} {after : σ} :
    result = .ok value after ↔
      Outcome result (fun given left => given = value ∧ left = after) fun _ _ => False := by
  cases result with
  | ok given left => rw [EStateM.Result.ok.injEq, outcome_ok]
  | error reason left =>
    rw [outcome_error]
    constructor
    · intro impossible
      cases impossible
    · exact False.elim

/-- So is to stop for a certain reason in a certain state. -/
theorem eq_error_iff {result : EStateM.Result ε σ α} {reason : ε} {after : σ} :
    result = .error reason after ↔
      Outcome result (fun _ _ => False) fun given left => given = reason ∧ left = after := by
  cases result with
  | ok value left =>
    rw [outcome_ok]
    constructor
    · intro impossible
      cases impossible
    · exact False.elim
  | error given left => rw [EStateM.Result.error.injEq, outcome_error]

/-- Two ways of going on that agree wherever the first part gets come to the same. -/
theorem Outcome.bind_congr {first : EStateM ε σ β} {next other : β → EStateM ε σ α}
    {reached : β → σ → Prop} (outcome : Outcome (first s) reached stopped)
    (agree : ∀ value after, reached value after → next value after = other value after) :
    (first >>= next) s = (first >>= other) s := by
  simp only [bind, EStateM.bind]
  cases ended : first s with
  | error reason after => rfl
  | ok value after =>
    rw [ended] at outcome
    exact agree value after outcome

/-- A loop keeps an invariant over what is left of its list when each turn hands the
    invariant on to the rest. -/
theorem outcome_forM {act : β → EStateM ε σ PUnit} (invariant : List β → σ → Prop)
    (turn : ∀ item rest s, invariant (item :: rest) s →
      Outcome (act item s) (fun _ after => invariant rest after) stopped)
    (items : List β) (s : σ) (start : invariant items s) :
    Outcome (items.forM act s) (fun _ after => invariant [] after) stopped := by
  induction items generalizing s with
  | nil => exact start
  | cons item rest inductionHypothesis =>
    change Outcome ((act item >>= fun _ => rest.forM act) s) _ _
    rw [outcome_bind]
    exact (turn item rest s start).imp fun _ after handed => inductionHypothesis after handed

/-- A loop that gives a value for each item keeps an invariant, and every value meets the
    condition that one turn establishes. -/
theorem outcome_mapM {act : β → EStateM ε σ α} (invariant : σ → Prop) (meets : α → Prop)
    (turn : ∀ item s, invariant s →
      Outcome (act item s) (fun value after => meets value ∧ invariant after) stopped)
    (items : List β) (s : σ) (start : invariant s) :
    Outcome (items.mapM act s)
      (fun values after => (∀ value ∈ values, meets value) ∧ invariant after) stopped := by
  induction items generalizing s with
  | nil => exact ⟨by simp, start⟩
  | cons item rest inductionHypothesis =>
    simp only [List.mapM_cons, outcome_bind, outcome_pure]
    apply (turn item s start).imp
    rintro value after ⟨met, kept⟩
    apply (inductionHypothesis after kept).imp
    rintro values last ⟨allMet, lastKept⟩
    refine ⟨?_, lastKept⟩
    intro found member
    rcases List.mem_cons.mp member with rfl | later
    · exact met
    · exact allMet found later

namespace Edit

variable [NameHash] {draft : Draft} {stopped : Failure → Draft → Prop}

/-- Looking at the registry gives the registry of the draft. -/
@[simp] theorem outcome_registry {done : Registry → Draft → Prop} :
    Outcome (registry draft) done stopped ↔ done draft.image.registry draft := Iff.rfl

/-- A change of the registry changes that of the draft. -/
@[simp] theorem outcome_modifyRegistry {done : Unit → Draft → Prop}
    (change : Registry → Registry) :
    Outcome (modifyRegistry change draft) done stopped ↔
      done () { draft with
        image := { draft.image with registry := change draft.image.registry } } := Iff.rfl

/-- A report is put behind those there are. -/
@[simp] theorem outcome_report {done : Unit → Draft → Prop} (level : Log.Level) (text : String) :
    Outcome (report level text draft) done stopped ↔
      done () { draft with reports := draft.reports ++ [⟨level, text⟩] } := Iff.rfl

/-- A refusal is a failure. -/
@[simp] theorem outcome_refuse {done : α → Draft → Prop} (error : Error) :
    Outcome (refuse error draft) done stopped ↔ stopped (.refused error) draft := Iff.rfl

end Edit

end LateBinding
