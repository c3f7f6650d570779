import LateBinding.Proofs.Outcome

/-!
# Two runs that look the same

A view of a state is the state with some part of it put aside. Two runs look the same if they
end in the same way, with values that show the same, in states of one view. A computation is
veiled if its runs from states of one view look the same: what the view puts aside never
decides what is in view.

Whether a computation is veiled may depend on the states being fit for it, so it says as well
that fit states are left fit, and what its values meet. Both are handed on from one part of a
computation to the next. What is read of a state has to be in its view, and so has what
decides how the view changes.
-/

namespace LateBinding

variable {ε σ α β γ δ : Type}

/-- What is seen of the end of a computation. -/
def seen (shows : α → γ) (view : σ → σ) : EStateM.Result ε σ α → EStateM.Result ε σ γ
  | .ok value after => .ok (shows value) (view after)
  | .error reason after => .error reason (view after)

/-- Ends that look the same are both with one value or both for one reason, and the states have
    one view. -/
theorem seen_cases {view : σ → σ} {result other : EStateM.Result ε σ α}
    (alike : seen id view result = seen id view other) :
    (∃ value after after', result = .ok value after ∧ other = .ok value after' ∧
        view after = view after') ∨
      ∃ reason after after', result = .error reason after ∧ other = .error reason after' ∧
        view after = view after' := by
  cases result with
  | ok value after =>
    cases other with
    | ok value' after' =>
      injection alike with values views
      exact .inl ⟨value, after, after', rfl, congrArg (EStateM.Result.ok · after') values.symm,
        views⟩
    | error reason after' => cases alike
  | error reason after =>
    cases other with
    | ok value' after' => cases alike
    | error reason' after' =>
      injection alike with reasons views
      exact .inr ⟨reason, after, after', rfl, by rw [reasons], views⟩

/-- What goes on from the state goes on from the state there is. -/
theorem get_bind (next : σ → EStateM ε σ α) (s : σ) : (get >>= next) s = next s s := rfl

/-- Runs in sequence look the same if the first parts do and the rest does from wherever they
    got. -/
theorem seen_bind {shows : β → γ} {view : σ → σ} {first : EStateM ε σ α}
    {next : α → EStateM ε σ β} {s t : σ} {reached reached' : α → σ → Prop}
    {stopped stopped' : ε → σ → Prop}
    (alike : seen id view (first s) = seen id view (first t))
    (outcome : Outcome (first s) reached stopped) (outcome' : Outcome (first t) reached' stopped')
    (further : ∀ value after after', reached value after → reached' value after' →
      view after = view after' →
      seen shows view (next value after) = seen shows view (next value after')) :
    seen shows view ((first >>= next) s) = seen shows view ((first >>= next) t) := by
  simp only [bind, EStateM.bind]
  rcases seen_cases alike with ⟨value, after, after', ended, ended', views⟩ |
    ⟨reason, after, after', ended, ended', views⟩
  · rw [ended] at outcome
    rw [ended'] at outcome'
    simp only [ended, ended']
    exact further value after after' outcome outcome' views
  · simp only [ended, ended', seen, views]

/-- A computation leaves fit states fit and its values meet a condition, and its runs from fit
    states of one view look the same. -/
structure Veiled (fit : σ → Prop) (view : σ → σ) (meets : α → Prop) (shows : α → γ)
    (act : EStateM ε σ α) : Prop where
  keeps : ∀ s, fit s → Outcome (act s) (fun value after => meets value ∧ fit after) fun _ _ => True
  alike : ∀ s t, fit s → fit t → view s = view t →
    seen shows view (act s) = seen shows view (act t)

namespace Veiled

variable {fit : σ → Prop} {view : σ → σ} {meets : α → Prop} {shows : α → γ}

/-- A value tells nothing of the state. -/
theorem pure {value : α} (met : meets value) :
    Veiled fit view meets shows (Pure.pure value : EStateM ε σ α) where
  keeps _ isFit := ⟨met, isFit⟩
  alike _ _ _ _ same := congrArg (EStateM.Result.ok (shows value)) same

/-- A failure tells nothing of it. -/
theorem throw (reason : ε) :
    Veiled fit view meets shows (MonadExcept.throw reason : EStateM ε σ α) where
  keeps _ _ := trivial
  alike _ _ _ _ same := congrArg (EStateM.Result.error reason) same

/-- What is done in sequence is veiled if every part is, and the values in between are all
    shown. -/
theorem bind {further : β → Prop} {shown : β → δ} {first : EStateM ε σ α}
    {next : α → EStateM ε σ β} (begun : Veiled fit view meets id first)
    (continued : ∀ value, meets value → Veiled fit view further shown (next value)) :
    Veiled fit view further shown (first >>= next) where
  keeps s isFit := by
    rw [outcome_bind]
    refine (begun.keeps s isFit).mono ?_ fun _ _ _ => trivial
    rintro value after ⟨met, fitAfter⟩
    exact (continued value met).keeps after fitAfter
  alike s t fitFirst fitSecond same := by
    refine seen_bind (begun.alike s t fitFirst fitSecond same) (begun.keeps s fitFirst)
      (begun.keeps t fitSecond) ?_
    rintro value after after' ⟨met, fitAfter⟩ ⟨-, fitAfter'⟩ views
    exact (continued value met).alike after after' fitAfter fitAfter' views

/-- Less may be said of the value. -/
theorem mono {act : EStateM ε σ α} (veiled : Veiled fit view meets shows act) {weaker : α → Prop}
    (weaken : ∀ value, meets value → weaker value) : Veiled fit view weaker shows act where
  keeps s isFit := (veiled.keeps s isFit).imp fun value _ given =>
    ⟨weaken value given.1, given.2⟩
  alike := veiled.alike

/-- To show a value is to give what is shown. -/
theorem given {act : EStateM ε σ α} (veiled : Veiled fit view meets shows act) :
    Veiled fit view (fun _ => True) id (do return shows (← act)) where
  keeps s isFit := by
    simp only [outcome_bind, outcome_pure]
    exact (veiled.keeps s isFit).imp fun _ _ kept => ⟨trivial, kept.2⟩
  alike s t fitFirst fitSecond same := by
    have unfolded : ∀ s, seen id view ((do return shows (← act) : EStateM ε σ γ) s) =
        seen shows view (act s) := by
      intro s
      simp only [Bind.bind, EStateM.bind]
      cases act s <;> rfl
    rw [unfolded, unfolded]
    exact veiled.alike s t fitFirst fitSecond same

/-- What is read of the state is in view. -/
theorem read {next : σ → EStateM ε σ α} (inView : ∀ s, next (view s) = next s)
    (continued : ∀ s, fit s → Veiled fit view meets shows (next s)) :
    Veiled fit view meets shows (MonadState.get >>= next) where
  keeps s isFit := (continued s isFit).keeps s isFit
  alike s t fitFirst fitSecond same := by
    -- Both runs go on in the same way, so it is one computation that is run from two states.
    have sameNext : next s = next t := by rw [← inView s, same, inView t]
    change seen shows view (next s s) = seen shows view (next t t)
    rw [← sameNext]
    exact (continued s fitFirst).alike s t fitFirst fitSecond same

/-- An answer is read off the state, and what it shows is in view. -/
theorem answer {act : EStateM ε σ α} (answer : σ → α) (reads : ∀ s, act s = .ok (answer s) s)
    (met : ∀ s, fit s → meets (answer s))
    (inView : ∀ s, shows (answer (view s)) = shows (answer s)) :
    Veiled fit view meets shows act where
  keeps s isFit := by
    rw [reads]
    exact ⟨met s isFit, isFit⟩
  alike s t _ _ same := by
    rw [reads, reads, seen, seen, ← inView s, ← inView t, same]

/-- What a change does to what is in view does not depend on what is not. -/
theorem modify {change : σ → σ} (lowered : σ → σ) (fits : ∀ s, fit s → fit (change s))
    (inView : ∀ s, view (change s) = lowered (view s)) :
    Veiled fit view (fun _ => True) id (modify change : EStateM ε σ PUnit) where
  keeps s isFit := ⟨trivial, fits s isFit⟩
  alike s t _ _ same := by
    change EStateM.Result.ok PUnit.unit (view (change s)) = .ok PUnit.unit (view (change t))
    rw [inView, inView, same]

/-- A computation that always ends and changes nothing in view. -/
theorem unseen {act : EStateM ε σ PUnit}
    (silent : ∀ s, fit s →
      Outcome (act s) (fun _ after => fit after ∧ view after = view s) fun _ _ => False) :
    Veiled fit view (fun _ => True) id act where
  keeps s isFit := (silent s isFit).certain fun _ _ kept => ⟨trivial, kept.1⟩
  alike s t fitFirst fitSecond same := by
    obtain ⟨_, after, ended, -, views⟩ := (silent s fitFirst).exists_ok
    obtain ⟨_, after', ended', -, views'⟩ := (silent t fitSecond).exists_ok
    rw [ended, ended']
    change EStateM.Result.ok PUnit.unit (view after) = .ok PUnit.unit (view after')
    rw [views, views', same]

/-- So it is for an action on each member of a list. -/
theorem forM {act : β → EStateM ε σ PUnit}
    (turn : ∀ item, Veiled fit view (fun _ => True) id (act item)) (items : List β) :
    Veiled fit view (fun _ => True) id (items.forM act) := by
  induction items with
  | nil => exact .pure trivial
  | cons item rest inductionHypothesis => exact (turn item).bind fun _ _ => inductionHypothesis

/-- And for one that gives a value for each. -/
theorem mapM {act : β → EStateM ε σ α} (turn : ∀ item, Veiled fit view meets id (act item))
    (items : List β) :
    Veiled fit view (fun values => ∀ value ∈ values, meets value) id (items.mapM act) := by
  induction items with
  | nil => exact .pure (by simp)
  | cons item rest inductionHypothesis =>
    rw [List.mapM_cons]
    refine (turn item).bind fun value met => inductionHypothesis.bind fun values allMet =>
      .pure fun found member => ?_
    rcases List.mem_cons.mp member with rfl | later
    · exact met
    · exact allMet found later

end Veiled

end LateBinding
