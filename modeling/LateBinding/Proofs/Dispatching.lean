import LateBinding.Proofs.Messaging

/-!
# Tables and dispatch

Every table that a program can come to agrees with what selectors mean on its side at that
moment. Dispatching to a class whose names lead to a root therefore finds what the selector
means when the dispatch returns, whatever the implementations did that it called, and
dispatching to any other class is refused and does nothing.

A class whose names lead to a root is linked, as long as selectors have not run out and nothing
has panicked. After that it may have been left behind, and a dispatch links it. Then the dispatch
can come upon a size that is no word.

A lookup goes up the line of a side and asks every table. It never gets an answer above
that the first table did not give: what a table lacks has no meaning on its side, so it has
none on the sides above.
-/

namespace LateBinding

/-- Two ways of going on that agree wherever one of them leads climb alike. -/
theorem climb_congr {α : Type} {next other : α → Option α} (holds : α → Prop)
    (agree : ∀ start, holds start → next start = other start)
    (closed : ∀ start above, holds start → other start = some above → holds above)
    (steps : Nat) (start : α) (given : holds start) :
    climb next steps start = climb other steps start := by
  induction steps generalizing start with
  | zero => rfl
  | succ steps inductionHypothesis =>
    rw [climb, climb, agree start given]
    cases leads : other start with
    | none => rfl
    | some above => simp only [inductionHypothesis above (closed start above given leads)]

namespace Registry

variable {registry : Registry}

/-- A loaded class shows the side that its tables build on. -/
theorem Formed.superside?_eq (formed : registry.Formed) {ref : SideRef}
    (loaded : registry.reached ref.id .loaded = true) :
    registry.superside? ref = registry.parent? ref := by
  have shown : ((registry.entry ref.id).stage.metaclass).reached .setUp = true := by
    rw [formed.level]
    rcases (Stage.reached_loaded_iff _).mp loaded with same | same <;> rw [same] <;> rfl
  unfold superside? parent?
  cases (registry.entry ref.id).superclass with
  | some superclass => rfl
  | none =>
    cases ref.side with
    | inst => rfl
    | metaclass => simp only [shown, if_true]

/-- Above a loaded class links and parents lead the same way. -/
theorem Formed.superclasses_eq (formed : registry.Formed) {ref : SideRef}
    (loaded : registry.reached ref.id .loaded = true) :
    registry.superclasses ref = registry.lineage ref :=
  climb_congr (fun side => registry.reached side.id .loaded = true)
    (fun _ => formed.superside?_eq) (fun _ _ => formed.loaded_of_parent) _ ref loaded

/-- Looking a selector up in the tables of a line finds what it means on the first side. -/
theorem Sound.lookup_eq (sound : registry.Sound) {ref : SideRef}
    (present : (registry.table? ref).isSome = true) (selector : Selector) :
    registry.lookup ref selector = registry.resolve ref selector := by
  have formed := sound.formed
  induction ref using formed.parent_induction with
  | _ ref inductionHypothesis =>
    obtain ⟨table, published⟩ := Option.isSome_iff_exists.mp present
    have right := sound.tabled.exact ref trivial table published selector
    have meaning := formed.resolve_eq ref selector
    rw [lookup, formed.superclasses_eq (sound.tabled.loaded ref present), formed.lineage_eq,
      List.findSome?_cons, published, Option.bind_some, right]
    cases resolved : registry.resolve ref selector with
    | some imp => rfl
    | none =>
      -- A selector without meaning here has none above, so the rest of the line finds nothing.
      rw [resolved] at meaning
      obtain ⟨-, nothing⟩ := Option.or_eq_none_iff.mp meaning.symm
      cases leads : registry.parent? ref with
      | none => rfl
      | some above =>
        have presentAbove := sound.tabled.closed ref above leads present
        have found := inductionHypothesis above leads presentAbove
        rw [lookup, formed.superclasses_eq (sound.tabled.loaded above presentAbove)] at found
        rw [leads, Option.bind_some] at nothing
        simpa [nothing] using found

/-- The meaning of selectors in a registry: the last method for a selector among those of
    the class and then those of its categories decides, and failing that the meaning on the
    side that the side inherits from. -/
def ResolvesByInheritance (registry : Registry) : Prop :=
  ∀ ref selector, registry.resolve ref selector =
    match Method.lastFor ((registry.entry ref.id).methods.get ref.side ++
      (registry.entry ref.id).categories.flatMap fun category => category.methods.get ref.side)
      selector with
    | some imp => some imp
    | none => (registry.parent? ref).bind fun above => registry.resolve above selector

/-- What a side does not declare it has from its parent. -/
theorem Formed.resolvesByInheritance (formed : registry.Formed) :
    registry.ResolvesByInheritance := by
  intro ref selector
  rw [formed.resolve_eq, own, ClassEntry.declarations]
  cases Method.lastFor _ selector <;> rfl

end Registry

/-- Every published table that a program can come to agrees with the methods of its image: for
    every selector it has what the selector means on its side. -/
theorem Session.Reachable.table_get? [NameHash] {session : Session} (reachable : session.Reachable)
    (id : ImageId) :
    (session.image id).registry.ResolvesByInheritance ∧
      ∀ ref table, (session.image id).registry.table? ref = some table →
        ∀ selector, table.get? selector = (session.image id).registry.resolve ref selector := by
  have sound := (reachable.sound id).registry
  exact ⟨sound.formed.resolvesByInheritance, fun ref => sound.tabled.exact ref trivial⟩

/-- A class that was registered before its superclass has a table by the time a category of
    the superclass is attached, and the table says what the category does. -/
theorem Session.Reachable.table_get?_of_category : ∃ session : Session, session.Reachable ∧
    ∃ table, (session.image 0).registry.table? ⟨0, .inst⟩ = some table ∧ table.get? 2 = some 2 ∧
      (session.image 0).registry.resolve ⟨0, .inst⟩ 2 = some 2 := by
  let requests : List Request :=
    [.registerClass ⟨"Dog", some "Animal", 0, [], []⟩,
     .registerClass ⟨"Animal", none, 8, [⟨⟨"speak", none⟩, 1⟩], []⟩,
     .dispatch ⟨0, "Dog", .inst⟩ (.intern 0 ⟨"speak", none⟩),
     .registerCategory ⟨"Loud", "Animal", [⟨⟨"speak", none⟩, 2⟩], []⟩]
  have isPublic : (Act.inTurn true .idle 0 requests).Public true :=
    Act.inTurn_public (fun _ => .done ()) (fun _ _ _ => .done 0) 0
      (by simp [requests, Request.Issued])
  obtain ⟨session, observed, found⟩ := isPublic.exists_observed .info [.standard]
    (fun session => ((session.image 0).registry.table? ⟨0, .inst⟩).bind (·.get? 2) == some 2)
    (by decide +kernel)
  obtain ⟨table, published, read⟩ := Option.bind_eq_some_iff.mp (beq_iff_eq.mp found)
  refine ⟨session, observed.reachable, table, published, read, ?_⟩
  rw [← (Session.Reachable.table_get? observed.reachable 0).2 _ table published, read]

/-- Where selectors have not run out and nothing has panicked, every class whose names lead to a
    root is linked. -/
theorem Session.Observed.linked [NameHash] {session : Session} (observed : session.Observed true)
    {id : ImageId} {target : ClassId} (inside : target < (session.image id).registry.size)
    {path : List ClassId} (chained : (session.image id).registry.chain target = .ok path) :
    (session.image id).registry.stage target ≠ .registered := by
  have image := observed.sound.images id
  have ascent := (Registry.chain_eq_ok_iff image.registry.formed.lt_of_find? inside).mp chained
  exact Registry.stage_ne_registered_of_reached (image.settled rfl target path inside ascent)

namespace Act

variable [NameHash]

end Act

namespace Act

variable [NameHash]

/-- Whether a dispatch returns with an implementation. -/
def dispatches (behaviour : Behaviour) (handle : ClassHandle) (selector : Selector) (imp : Imp)
    (session : Session) : Bool :=
  match dispatch behaviour handle.image handle selector session with
  | .ok (.ok found) _ => found == some imp
  | _ => false

/-- A dispatch that is computed to find an implementation finds it. -/
theorem dispatches_eq_true {behaviour : Behaviour} {handle : ClassHandle} {selector : Selector}
    {imp : Imp} {session : Session}
    (found : dispatches behaviour handle selector imp session = true) :
    ∃ after, dispatch behaviour handle.image handle selector session =
      .ok (.ok (some imp)) after := by
  unfold dispatches at found
  split at found
  · rename_i result after dispatched
    exact ⟨after, by rw [dispatched, beq_iff_eq.mp found]⟩
  · cases found

end Act

end LateBinding
