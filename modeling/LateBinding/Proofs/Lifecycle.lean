import LateBinding.Proofs.Programs

/-!
# The life of a class

In every session that can be observed both sides of a class are at one stage. It is
`registered` exactly if the superclass names from the class on do not lead to a root, and
otherwise `loaded` or `initialized`: the stage in between lasts only while an edit runs, and
no class that could be loaded is left behind. Settling once more, or advancing a class whose
names lead to a root, does nothing.

Stages do not go back. Whatever has been noted in the course of a run precedes what is
noted later and what there is at the end.
-/

namespace LateBinding

/-- The stage of a class of a settled registry says whether its names lead to a root. -/
theorem Registry.Formed.stage_of_chain {registry : Registry} (formed : registry.Formed)
    (settled : registry.Settled) {target : ClassId} (inside : target < registry.size) :
    match registry.chain target with
    | .error _ => (¬∃ path, registry.Ascent target path) ∧ registry.stage target = .registered
    | .ok path => registry.Ascent target path ∧
        (registry.stage target = .loaded ∨ registry.stage target = .initialized) := by
  have chained := fun path =>
    @chain_eq_ok_iff registry target path formed.lt_of_find? inside
  cases ended : registry.chain target with
  | error error =>
    have rootless : ¬∃ path, registry.Ascent target path := by
      rintro ⟨path, ascent⟩
      rw [(chained path).mpr ascent] at ended
      cases ended
    refine ⟨rootless, ?_⟩
    by_contra awake
    exact rootless (formed.linked target awake).2.2
  | ok path =>
    have ascent := (chained path).mp ended
    exact ⟨ascent, (Stage.reached_loaded_iff _).mp (settled target path inside ascent)⟩

/-- At every point that can be observed, in a run in which selectors have not run out, the
    stages of all classes are where their names lead, they have never gone back, and there is
    nothing left to settle or to advance. -/
theorem Session.Observed.stages [NameHash] {session : Session} (observed : session.Observed true) :
    (∀ id target, target < (session.image id).registry.size →
      ((session.image id).registry.entry target).stage.metaclass =
        (session.image id).registry.stage target ∧
      match (session.image id).registry.chain target with
      | .error _ => (¬∃ path, (session.image id).registry.Ascent target path) ∧
          (session.image id).registry.stage target = .registered
      | .ok path => (session.image id).registry.Ascent target path ∧
          ((session.image id).registry.stage target = .loaded ∨
            (session.image id).registry.stage target = .initialized)) ∧
    (session.notes.Pairwise fun earlier later =>
      Outlasts ImageDump.Precedes earlier.dumps later.dumps) ∧
    (∀ note ∈ session.notes, Outlasts ImageDump.Precedes note.dumps session.dumps) ∧
    ∀ id (draft : Draft), draft.image = session.image id →
      Edit.settle draft = .ok () draft ∧
      ∀ target path, target < draft.image.registry.size →
        draft.image.registry.chain target = .ok path →
        Edit.advance target draft = .ok () draft := by
  have sound := observed.sound
  refine ⟨?_, sound.ordered, sound.noted, ?_⟩
  · intro id target inside
    have image := sound.images id
    exact ⟨image.registry.formed.level target,
      image.registry.formed.stage_of_chain (image.settled rfl) inside⟩
  · intro id draft same
    have image := sound.images id
    rw [← same] at image
    have formed := image.registry.formed
    have settled := image.settled rfl
    refine ⟨Edit.settle_of_settled formed settled, ?_⟩
    intro target path inside chained
    exact Edit.advance_of_loaded formed
      (settled target path inside ((Registry.chain_eq_ok_iff formed.lt_of_find? inside).mp chained))

/-- A class that was registered before its superclass is loaded with it, and one whose
    superclass never comes stays registered. -/
theorem Session.Observed.stages_of_late_superclass : ∃ session : Session, session.Observed true ∧
    ((session.image 0).registry.stage 0 = .loaded ∨
      (session.image 0).registry.stage 0 = .initialized) ∧
    (session.image 0).registry.stage 1 = .registered := by
  let requests : List Request :=
    [.registerClass ⟨"Dog", some "Animal", 0, [], []⟩,
     .registerClass ⟨"Cat", some "Pet", 0, [], []⟩,
     .registerClass ⟨"Animal", none, 8, [], []⟩,
     .prepare ⟨0, "Animal", .inst⟩]
  have isPublic : (Act.inTurn true .idle 0 requests).Public true :=
    Act.inTurn_public (fun _ => .done ()) (fun _ _ _ => .done 0) 0
      (by simp [requests, Request.Issued])
  obtain ⟨session, observed, checked⟩ := isPublic.exists_observed .info [.standard]
    (fun session => (session.image 0).registry.size == 3 &&
      ((session.image 0).registry.chain 0).toBool && !((session.image 0).registry.chain 1).toBool)
    (by decide +kernel)
  rw [Bool.and_eq_true, Bool.and_eq_true, beq_iff_eq] at checked
  obtain ⟨⟨size, rooted⟩, rootless⟩ := checked
  have stages := (Session.Observed.stages observed).1 0
  have first := (stages 0 (by rw [size]; decide)).2
  have second := (stages 1 (by rw [size]; decide)).2
  refine ⟨session, observed, ?_, ?_⟩
  · split at first
    · rename_i chained
      rw [chained] at rooted
      cases rooted
    · exact first.2
  · split at second
    · exact second.2
    · rename_i chained
      rw [chained] at rootless
      cases rootless

end LateBinding
