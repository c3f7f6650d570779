import LateBinding.Proofs.Forest
import LateBinding.Proofs.Histories

/-!
# Subclasses as a partial order

A side is a subclass of those that it is shown below, step by step. Nothing in asking for them
looks for a cycle, and a step can change sides: the metaclass of a root leads to its instance
side, but only once the root is set up. Every step leads to a side of less height, so asking
comes to an end, and two sides that are subclasses of one another are the same.

For a class that is set up, the sides above are read off its chain. They are the same sides of
the classes on the chain, and above a metaclass there is also the instance side of the root. A
class that is not set up shows nothing above its sides.
-/

namespace LateBinding

namespace Registry

/-- A side is shown right below another. -/
def ShownBelow (registry : Registry) (ref above : SideRef) : Prop :=
  registry.superside? ref = some above

/-- Asking a side whether it is a subclass of `other` comes to an end with this answer. The
    question goes on from side to side, with nothing to end it except what it meets. -/
inductive Answers (registry : Registry) (other : SideRef) : SideRef → Bool → Prop
  | met : Answers registry other other true
  | top {ref : SideRef} (different : ref ≠ other) (last : registry.superside? ref = none) :
      Answers registry other ref false
  | step {ref above : SideRef} {answer : Bool} (different : ref ≠ other)
      (shown : registry.ShownBelow ref above) (further : Answers registry other above answer) :
      Answers registry other ref answer

/-- The sides above a side of a class that has this chain, that side included. -/
def sidesAlong (chain : List ClassId) : Side → List SideRef
  | .inst => chain.map (⟨·, .inst⟩)
  | .metaclass => chain.map (⟨·, .metaclass⟩) ++ (chain.getLast?.map (⟨·, .inst⟩)).toList

/-- Being a subclass is a partial order on the sides of classes, and it is what the chains of
    the classes that are set up say. -/
structure SubclassOrder (registry : Registry) : Prop where
  /-- Asking comes to an end, and with one answer. -/
  answers : ∀ ref other answer,
    registry.Answers other ref answer ↔ registry.isSubclass ref other = answer
  refl : ∀ ref, registry.isSubclass ref ref = true
  antisymm : ∀ ref other, registry.isSubclass ref other = true →
    registry.isSubclass other ref = true → ref = other
  trans : ∀ ref between other, registry.isSubclass ref between = true →
    registry.isSubclass between other = true → registry.isSubclass ref other = true
  /-- Between instance sides, and between metaclasses, it is the chain that decides. -/
  same : ∀ side id other, registry.isSubclass ⟨id, side⟩ ⟨other, side⟩ = true ↔
    id = other ∨ registry.reached id .setUp = true ∧
      ∃ chain, registry.chain id = .ok chain ∧ other ∈ chain
  /-- The chain of a class that is set up has a root, and the instance side of the root is the
      only one that the metaclass is a subclass of. -/
  root : ∀ id, registry.reached id .setUp = true →
    ∃ chain root, registry.chain id = .ok chain ∧ chain.getLast? = some root ∧
      ∀ other, registry.isSubclass ⟨id, .metaclass⟩ ⟨other, .inst⟩ = true ↔ other = root
  /-- The metaclass of a class that is not set up is a subclass of no instance side. -/
  apart : ∀ id other, registry.reached id .setUp = false →
    registry.isSubclass ⟨id, .metaclass⟩ ⟨other, .inst⟩ = false
  /-- An instance side is never a subclass of a metaclass. -/
  never : ∀ id other, registry.isSubclass ⟨id, .inst⟩ ⟨other, .metaclass⟩ = false

variable {registry : Registry}

/-- The sides along a chain are a side of its first class and those along the rest. -/
theorem sidesAlong_cons {id : ClassId} {chain : List ClassId} (further : chain ≠ [])
    (side : Side) : sidesAlong (id :: chain) side = ⟨id, side⟩ :: sidesAlong chain side := by
  obtain ⟨next, rest, rfl⟩ := List.exists_cons_of_ne_nil further
  cases side with
  | inst => rfl
  | metaclass =>
    rw [sidesAlong, sidesAlong, List.getLast?_cons_cons]
    rfl

/-- The same side of a class is among the sides above exactly if the class is on the chain. -/
theorem mem_sidesAlong_iff {chain : List ClassId} {side : Side} {other : ClassId} :
    ⟨other, side⟩ ∈ sidesAlong chain side ↔ other ∈ chain := by
  cases side <;> simp [sidesAlong]

/-- The one instance side above a metaclass is that of the root. -/
theorem inst_mem_sidesAlong_iff {chain : List ClassId} {other : ClassId} :
    ⟨other, .inst⟩ ∈ sidesAlong chain .metaclass ↔ chain.getLast? = some other := by
  simp [sidesAlong]

/-- A side is below those that its links lead to. -/
theorem isSubclass_iff_mem {ref other : SideRef} :
    registry.isSubclass ref other = true ↔ other ∈ registry.superclasses ref := by
  rw [isSubclass, List.contains_iff_mem]

/-- The side above a side of a linked class is the same side of the class that it is linked
    to. -/
theorem superside?_of_linkedTo {id above : ClassId} (link : registry.LinkedTo id above)
    (side : Side) : registry.superside? ⟨id, side⟩ = some ⟨above, side⟩ := by
  unfold LinkedTo at link
  simp [superside?, link]

/-- A side of a class that is linked to nothing shows nothing above it, unless it is the
    metaclass of a class that is set up. -/
theorem Formed.superside?_of_unlinked (formed : registry.Formed) {id : ClassId}
    (unlinked : (registry.entry id).superclass = none) (side : Side) :
    registry.superside? ⟨id, side⟩ =
      if side = .metaclass ∧ registry.reached id .setUp = true then some ⟨id, .inst⟩
      else none := by
  cases side with
  | inst => simp [superside?, unlinked]
  | metaclass => simp [superside?, unlinked, formed.level, reached]

namespace Formed

/-- Above a side of a class that is set up there are the sides along its path. -/
theorem superclasses_of_ascent (formed : registry.Formed) {id : ClassId} {path : List ClassId}
    (ascent : registry.Ascent id path) (loaded : registry.reached id .loaded = true)
    (side : Side) : registry.superclasses ⟨id, side⟩ = sidesAlong path side := by
  induction ascent with
  | @root id undeclared =>
    have unlinked : (registry.entry id).superclass = none := by
      rw [formed.superclass_of_loaded loaded, declaredSuper?, undeclared, Option.bind_none]
    have above := formed.superside?_of_unlinked unlinked
    have bottom : registry.superclasses ⟨id, .inst⟩ = [⟨id, .inst⟩] := by
      rw [formed.superclasses_eq_cons, above .inst]
      rfl
    cases side with
    | inst => exact bottom
    | metaclass =>
      rw [formed.superclasses_eq_cons, above .metaclass,
        if_pos ⟨rfl, setUp_of_loaded loaded⟩, Option.map_some, Option.getD_some, bottom]
      rfl
  | @step id above name path declared found rest inductionHypothesis =>
    have link : registry.LinkedTo id above := by
      rw [LinkedTo, formed.superclass_of_loaded loaded, declaredSuper?, declared,
        Option.bind_some, found]
    obtain ⟨further, split⟩ := rest.head
    rw [formed.superclasses_eq_cons, superside?_of_linkedTo link, Option.map_some,
      Option.getD_some, inductionHypothesis (formed.supported id above link),
      sidesAlong_cons (split ▸ List.cons_ne_nil _ _)]

/-- A class that is not set up shows nothing above its sides. -/
theorem superclasses_of_waiting (formed : registry.Formed) (loose : registry.Loose) {ref : SideRef}
    (waiting : registry.reached ref.id .setUp = false) : registry.superclasses ref = [ref] := by
  have unlinked : (registry.entry ref.id).superclass = none := by
    apply loose
    rcases formed.registered_or_loaded ref.id with registered | loaded
    · exact registered
    · rw [setUp_of_loaded loaded] at waiting
      cases waiting
  have above := formed.superside?_of_unlinked unlinked ref.side
  rw [waiting] at above
  rw [formed.superclasses_eq_cons, above]
  simp

/-- A class that is set up has a chain, and the sides above its own are those along it. -/
theorem exists_chain (formed : registry.Formed) {id : ClassId}
    (setUp : registry.reached id .setUp = true) :
    ∃ chain, registry.chain id = .ok chain ∧ chain ≠ [] ∧
      ∀ side, registry.superclasses ⟨id, side⟩ = sidesAlong chain side := by
  have loaded := formed.loaded_of_setUp setUp
  obtain ⟨-, -, path, ascent⟩ := formed.linked id (stage_ne_registered_of_reached loaded)
  have chained := (chain_eq_ok_iff formed.lt_of_find? (lt_size_of_reached loaded)).mpr ascent
  obtain ⟨above, split⟩ := ascent.head
  exact ⟨path, chained, split ▸ List.cons_ne_nil _ _, formed.superclasses_of_ascent ascent loaded⟩

/-- A side is a subclass of those that steps up from it lead to. -/
theorem isSubclass_iff_leads (formed : registry.Formed) {ref other : SideRef} :
    registry.isSubclass ref other = true ↔
      Relation.ReflTransGen registry.ShownBelow ref other := by
  induction ref using formed.supersides_wellFounded.induction with
  | _ ref inductionHypothesis =>
    rw [formed.grounded.isSubclass, Bool.or_eq_true, beq_iff_eq, Option.any_eq_true]
    constructor
    · rintro (rfl | ⟨above, shown, below⟩)
      · exact .refl
      · exact .head shown ((inductionHypothesis above shown).mp below)
    · intro leads
      rcases Relation.ReflTransGen.cases_head leads with same | ⟨above, shown, onwards⟩
      · exact .inl same.symm
      · exact .inr ⟨above, shown, (inductionHypothesis above shown).mpr onwards⟩

/-- Steps up never lead back to where they started: each of them loses height. -/
theorem leads_antisymm (formed : registry.Formed) {ref other : SideRef}
    (up : Relation.ReflTransGen registry.ShownBelow ref other)
    (down : Relation.ReflTransGen registry.ShownBelow other ref) : ref = other := by
  obtain ⟨height, descends, -⟩ := formed.exists_height
  have lower : ∀ {low high : SideRef}, Relation.ReflTransGen registry.ShownBelow low high →
      height high ≤ height low := by
    intro low high leads
    induction leads with
    | refl => exact Nat.le_refl _
    | tail _ shown inductionHypothesis =>
      have less := descends _ _ (parent?_of_superside? shown)
      omega
  rcases Relation.ReflTransGen.cases_head up with same | ⟨above, shown, onwards⟩
  · exact same
  · have less := descends ref above (parent?_of_superside? shown)
    have first := lower onwards
    have second := lower down
    omega

/-- Asking comes to an end with the answer that is given. -/
theorem answers_isSubclass (formed : registry.Formed) (ref other : SideRef) :
    registry.Answers other ref (registry.isSubclass ref other) := by
  induction ref using formed.supersides_wellFounded.induction with
  | _ ref inductionHypothesis =>
    rw [formed.grounded.isSubclass]
    by_cases same : other = ref
    · subst same
      rw [beq_self_eq_true, Bool.true_or]
      exact .met
    · rw [beq_eq_false_iff_ne.mpr same, Bool.false_or]
      cases shown : registry.superside? ref with
      | none => exact .top (Ne.symm same) shown
      | some above => exact .step (Ne.symm same) shown (inductionHypothesis above shown)

end Formed

/-- What is met decides how asking goes on, so there is one answer at most. -/
theorem Answers.unique {ref other : SideRef} {answer second : Bool}
    (first : registry.Answers other ref answer) (again : registry.Answers other ref second) :
    answer = second := by
  induction first with
  | met =>
    cases again with
    | met => rfl
    | top different => exact absurd rfl different
    | step different => exact absurd rfl different
  | top different last =>
    cases again with
    | met => exact absurd rfl different
    | top => rfl
    | step _ shown =>
      rw [ShownBelow, last] at shown
      cases shown
  | step different shown _ inductionHypothesis =>
    cases again with
    | met => exact absurd rfl different
    | top _ last =>
      rw [ShownBelow, last] at shown
      cases shown
    | step _ otherShown further =>
      rw [ShownBelow, shown, Option.some.injEq] at otherShown
      exact inductionHypothesis (otherShown ▸ further)

namespace Formed

/-- On one side of classes the order goes by the chain. -/
theorem isSubclass_same_iff (formed : registry.Formed) (loose : registry.Loose) (side : Side)
    (id other : ClassId) :
    registry.isSubclass ⟨id, side⟩ ⟨other, side⟩ = true ↔
      id = other ∨ registry.reached id .setUp = true ∧
        ∃ chain, registry.chain id = .ok chain ∧ other ∈ chain := by
  rw [isSubclass_iff_mem]
  cases setUp : registry.reached id .setUp with
  | false =>
    rw [formed.superclasses_of_waiting loose setUp]
    simp [eq_comm]
  | true =>
    obtain ⟨chain, chained, -, above⟩ := formed.exists_chain setUp
    have own : ⟨id, side⟩ ∈ sidesAlong chain side := by
      rw [← above, formed.superclasses_eq_cons]
      exact List.mem_cons_self
    rw [above, mem_sidesAlong_iff]
    constructor
    · intro member
      exact .inr ⟨rfl, chain, chained, member⟩
    · rintro (rfl | ⟨-, second, again, member⟩)
      · exact mem_sidesAlong_iff.mp own
      · rw [chained, Except.ok.injEq] at again
        exact again ▸ member

/-- Being a subclass is a partial order wherever the registry is formed and loose. -/
theorem subclassOrder (formed : registry.Formed) (loose : registry.Loose) :
    registry.SubclassOrder where
  answers ref other answer := by
    have given := formed.answers_isSubclass ref other
    constructor
    · intro second
      exact given.unique second
    · rintro rfl
      exact given
  refl ref := formed.isSubclass_iff_leads.mpr .refl
  antisymm ref other up down :=
    formed.leads_antisymm (formed.isSubclass_iff_leads.mp up) (formed.isSubclass_iff_leads.mp down)
  trans ref between other low high := by
    rw [formed.isSubclass_iff_leads] at low high ⊢
    exact low.trans high
  same := formed.isSubclass_same_iff loose
  root id setUp := by
    obtain ⟨chain, chained, proper, above⟩ := formed.exists_chain setUp
    have last := List.getLast?_eq_some_getLast proper
    refine ⟨chain, chain.getLast proper, chained, last, fun other => ?_⟩
    rw [isSubclass_iff_mem, above, inst_mem_sidesAlong_iff, last, Option.some.injEq, eq_comm]
  apart id other waiting := by
    rw [← Bool.not_eq_true, isSubclass_iff_mem, formed.superclasses_of_waiting loose waiting]
    simp
  never id other := by
    rw [← Bool.not_eq_true, isSubclass_iff_mem]
    cases setUp : registry.reached id .setUp with
    | false =>
      rw [formed.superclasses_of_waiting loose setUp]
      simp
    | true =>
      obtain ⟨chain, -, -, above⟩ := formed.exists_chain setUp
      rw [above]
      simp [sidesAlong]

end Formed

end Registry

/-- At every point that can be observed, being a subclass is a partial order on the sides of
    the classes of an image, and asking for it comes to an end. Instance sides, and metaclasses,
    are subclasses of one another as the chains of the classes that are set up say. The
    metaclass of such a class is a subclass of the instance side of the root of its chain as
    well and of no other, and no instance side is a subclass of a metaclass. -/
theorem Session.Observed.partial_order [NameHash] {strict : Bool} {session : Session}
    (observed : session.Observed strict) (id : ImageId) :
    (session.image id).registry.SubclassOrder :=
  (observed.sound.images id).registry.formed.subclassOrder (observed.loose id)

/-- A metaclass crosses over to the instance side of a root that came after it, and to no other.
    One whose superclass is missing does not even lead to its own instance side. -/
theorem Session.Observed.partial_order_of_late_root : ∃ session : Session,
    session.Observed true ∧
    (session.image 0).registry.isSubclass ⟨0, .inst⟩ ⟨2, .inst⟩ = true ∧
    (session.image 0).registry.isSubclass ⟨0, .metaclass⟩ ⟨2, .metaclass⟩ = true ∧
    (∀ other, (session.image 0).registry.isSubclass ⟨0, .metaclass⟩ ⟨other, .inst⟩ = true ↔
      other = 2) ∧
    (session.image 0).registry.isSubclass ⟨1, .metaclass⟩ ⟨1, .inst⟩ = false ∧
    (session.image 0).registry.isSubclass ⟨2, .inst⟩ ⟨0, .inst⟩ = false := by
  let requests : List Request :=
    [.registerClass ⟨"Dog", some "Animal", 0, [], []⟩,
     .registerClass ⟨"Stray", some "Nobody", 0, [], []⟩,
     .registerClass ⟨"Animal", none, 8, [], []⟩]
  have isPublic : (Act.inTurn true .idle 0 requests).Public true :=
    Act.inTurn_public (fun _ => .done ()) (fun _ _ _ => .done 0) 0
      (by simp [requests, Request.Issued])
  obtain ⟨session, observed, checked⟩ := isPublic.exists_observed .info [.standard]
    (fun session => (session.image 0).registry.reached 0 .setUp &&
      !(session.image 0).registry.reached 1 .setUp &&
      decide ((session.image 0).registry.chain 0 = .ok [0, 2]))
    (by decide +kernel)
  simp only [Bool.and_eq_true, Bool.not_eq_true', decide_eq_true_eq] at checked
  obtain ⟨⟨setUp, waiting⟩, chained⟩ := checked
  have order := Session.Observed.partial_order observed 0
  have above : ∀ side, (session.image 0).registry.isSubclass ⟨0, side⟩ ⟨2, side⟩ = true :=
    fun side => (order.same side 0 2).mpr (.inr ⟨setUp, [0, 2], chained, by decide⟩)
  obtain ⟨chain, root, again, last, only⟩ := order.root 0 setUp
  rw [chained, Except.ok.injEq] at again
  have isRoot : root = 2 := by simpa [← again] using last.symm
  refine ⟨session, observed, above .inst, above .metaclass, isRoot ▸ only,
    order.apart 1 1 waiting, ?_⟩
  -- Otherwise both would be the same side.
  rw [← Bool.not_eq_true]
  intro below
  have same := order.antisymm _ _ (above .inst) below
  cases same

end LateBinding
