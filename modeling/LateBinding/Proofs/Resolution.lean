import LateBinding.Proofs.Formation

/-!
# What a selector means on a side

The meaning of a selector on a side is given without tables. The last method for it among
what the side declares itself decides, the methods of the class coming first and those of
its categories after them in the order of attachment. If there is none, the meaning is
that on the side it inherits from, and at the end of the line there is none.

`resolve` computes this along the line of inheritance. Lines in a formed registry end
before the bound on their length does, so the equation above holds of it exactly.
-/

namespace LateBinding

/-- Following steps that descend, a walk with enough steps for the height of its start is
    not changed by one more. -/
theorem climb_succ {α : Type} {next : α → Option α} {height : α → Nat}
    (descends : ∀ start above, next start = some above → height above < height start)
    (steps : Nat) (start : α) (enough : height start ≤ steps) :
    climb next (steps + 1) start = climb next steps start := by
  induction steps generalizing start with
  | zero =>
    cases leads : next start with
    | none => simp [climb, leads]
    | some above =>
      have lower := descends start above leads
      omega
  | succ steps inductionHypothesis =>
    rw [climb, climb]
    cases leads : next start with
    | none => rfl
    | some above =>
      have lower := descends start above leads
      simp only [inductionHypothesis above (by omega)]

namespace Registry

/-- The implementation that a side declares itself for a selector. -/
def own (registry : Registry) (ref : SideRef) (selector : Selector) : Option Imp :=
  Method.lastFor ((registry.entry ref.id).declarations ref.side) selector

/-- The implementation that a selector means on a side: that of the first side on the line
    of inheritance which declares one. -/
def resolve (registry : Registry) (ref : SideRef) (selector : Selector) : Option Imp :=
  (registry.lineage ref).findSome? (registry.own · selector)

variable {registry : Registry}

/-- A line leads to the class above, or from the metaclass of an unlinked class to its
    instance side. -/
theorem parent?_cases {ref above : SideRef} (leads : registry.parent? ref = some above) :
    ((registry.entry ref.id).superclass = some above.id ∧ above.side = ref.side) ∨
      ((registry.entry ref.id).superclass = none ∧ ref.side = .metaclass ∧
        above = ⟨ref.id, .inst⟩) := by
  obtain ⟨id, side⟩ := ref
  unfold parent? at leads
  cases link : (registry.entry id).superclass with
  | some superclass =>
    simp only [link, Option.some.injEq] at leads
    subst leads
    exact .inl ⟨rfl, rfl⟩
  | none =>
    cases side with
    | inst => simp [link] at leads
    | metaclass =>
      simp only [link, Option.some.injEq] at leads
      subst leads
      exact .inr ⟨rfl, rfl, rfl⟩

/-- A line leads from loaded classes to loaded classes. -/
theorem Formed.loaded_of_parent (formed : registry.Formed) {ref above : SideRef}
    (loaded : registry.reached ref.id .loaded = true)
    (leads : registry.parent? ref = some above) : registry.reached above.id .loaded = true := by
  rcases parent?_cases leads with ⟨link, -⟩ | ⟨-, -, rfl⟩
  · exact formed.supported _ _ link
  · exact loaded

/-- A class lies one deeper than the class it is linked to, and no class lies as deep as
    there are classes. -/
theorem Formed.exists_depth (formed : registry.Formed) :
    ∃ depth : ClassId → Nat,
      (∀ id above, (registry.entry id).superclass = some above → depth id = depth above + 1) ∧
      ∀ id, depth id ≤ registry.size - 1 := by
  classical
  -- The depth is the number of steps on the path. Classes without a path are linked to nothing
  -- and nothing is linked to them.
  let depth : ClassId → Nat := fun id =>
    if rooted : id < registry.size ∧ ∃ path, registry.Ascent id path then
      rooted.2.choose.length - 1
    else 0
  have depth_eq : ∀ id path, id < registry.size → registry.Ascent id path →
      depth id = path.length - 1 := by
    intro id path inside ascent
    have rooted : id < registry.size ∧ ∃ path, registry.Ascent id path := ⟨inside, path, ascent⟩
    simp only [depth, dif_pos rooted]
    rw [rooted.2.choose_spec.unique ascent]
  refine ⟨depth, ?_, ?_⟩
  · intro id above link
    obtain ⟨path, ascent⟩ := formed.rooted_of_superclass link
    obtain ⟨rest, rfl, higher⟩ := formed.ascent_above link ascent
    obtain ⟨further, rfl⟩ := higher.head
    rw [depth_eq id _ (Formed.lt_size_of_superclass link) ascent,
      depth_eq above _ (lt_size_of_reached (formed.supported id above link)) higher]
    simp
  · intro id
    by_cases rooted : id < registry.size ∧ ∃ path, registry.Ascent id path
    · obtain ⟨inside, path, ascent⟩ := rooted
      rw [depth_eq id path inside ascent]
      exact Nat.sub_le_sub_right (ascent.length_le formed.lt_of_find? inside) 1
    · simp only [depth, dif_neg rooted]
      exact Nat.zero_le _

/-- A side is as high as its class lies deep, and a metaclass one higher. -/
theorem Formed.exists_height (formed : registry.Formed) :
    ∃ height : SideRef → Nat,
      (∀ ref above, registry.parent? ref = some above → height above < height ref) ∧
      ∀ ref, height ref ≤ registry.size + 1 := by
  obtain ⟨depth, deeper, bounded⟩ := formed.exists_depth
  refine ⟨fun ref => depth ref.id + (if ref.side = .metaclass then 1 else 0), ?_, ?_⟩
  · intro ref above leads
    rcases parent?_cases leads with ⟨link, sameSide⟩ | ⟨-, metaSide, rfl⟩
    · simp only [deeper ref.id above.id link, sameSide]
      omega
    · simp [metaSide]
  · intro ref
    have bound := bounded ref.id
    dsimp only
    split <;> omega

/-- What holds of a side when it holds of the side it inherits from holds of every side. -/
theorem Formed.parent_induction (formed : registry.Formed) {motive : SideRef → Prop}
    (step : ∀ ref, (∀ above, registry.parent? ref = some above → motive above) → motive ref)
    (ref : SideRef) : motive ref := by
  obtain ⟨height, descends, -⟩ := formed.exists_height
  induction bound : height ref using Nat.strong_induction_on generalizing ref with
  | _ bound inductionHypothesis =>
    subst bound
    exact step ref fun above leads => inductionHypothesis _ (descends ref above leads) above rfl

/-- The line of a side is the side followed by the line of the side it inherits from. -/
theorem Formed.lineage_eq (formed : registry.Formed) (ref : SideRef) :
    registry.lineage ref = ref :: ((registry.parent? ref).map registry.lineage).getD [] := by
  obtain ⟨height, descends, bounded⟩ := formed.exists_height
  unfold lineage
  rw [climb]
  cases leads : registry.parent? ref with
  | none => rfl
  | some above =>
    have lower := descends ref above leads
    have bound := bounded ref
    simp only [Option.map_some, Option.getD_some]
    rw [climb_succ descends _ _ (by omega)]

/-- The meaning of a selector on a side: what the side declares last, and failing that the
    meaning on the side it inherits from. -/
theorem Formed.resolve_eq (formed : registry.Formed) (ref : SideRef) (selector : Selector) :
    registry.resolve ref selector =
      (registry.own ref selector).or
        ((registry.parent? ref).bind fun above => registry.resolve above selector) := by
  rw [resolve, formed.lineage_eq, List.findSome?_cons]
  cases registry.parent? ref <;> cases registry.own ref selector <;> rfl

/-- Two formed registries give a selector the same meaning on the sides of classes that are
    linked alike and declare alike, as long as their links stay among such classes. -/
theorem Formed.resolve_congr {after : Registry} (formed : registry.Formed)
    (formedAfter : after.Formed) (alike : ClassId → Prop)
    (closed : ∀ id above, alike id → (registry.entry id).superclass = some above → alike above)
    (links : ∀ id, alike id →
      (after.entry id).superclass = (registry.entry id).superclass)
    (declares : ∀ id side, alike id →
      (after.entry id).declarations side = (registry.entry id).declarations side)
    (ref : SideRef) (given : alike ref.id) (selector : Selector) :
    after.resolve ref selector = registry.resolve ref selector := by
  induction ref using formed.parent_induction with
  | _ ref inductionHypothesis =>
    have sameParent : after.parent? ref = registry.parent? ref := by
      rw [parent?, parent?, links ref.id given]
    have sameOwn : after.own ref selector = registry.own ref selector := by
      rw [own, own, declares ref.id ref.side given]
    rw [formedAfter.resolve_eq, formed.resolve_eq, sameParent, sameOwn]
    cases leads : registry.parent? ref with
    | none => rfl
    | some above =>
      have aboveAlike : alike above.id := by
        rcases parent?_cases leads with ⟨link, -⟩ | ⟨-, -, rfl⟩
        · exact closed _ _ given link
        · exact given
      rw [Option.bind_some, Option.bind_some, inductionHypothesis above leads aboveAlike]

/-- Tables have no part in what a selector means. -/
theorem resolve_of_bare {after : Registry} (same : after.bare = registry.bare) (ref : SideRef)
    (selector : Selector) : after.resolve ref selector = registry.resolve ref selector := by
  have parents : after.parent? = registry.parent? := funext (parent?_of_bare same)
  have owns : ∀ side, after.own side selector = registry.own side selector := by
    intro side
    have declares := field_of_bare same (·.declarations side.side) (fun _ => rfl) side.id
    exact congrArg (Method.lastFor · selector) declares
  rw [resolve, resolve, lineage, lineage, parents, size_of_bare same]
  exact congrArg (List.findSome? · _) (funext owns)

end Registry

end LateBinding
