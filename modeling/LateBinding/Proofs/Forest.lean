import LateBinding.Proofs.Building
import Mathlib.Logic.Relation

/-!
# The forest of links

The links of a formed and loose registry are a forest. A class is linked exactly if it is set up and
declares a superclass, the link is to the class of that name, and the lists of subclasses say
the same from above, once for each link.

Nothing in the recursions along the links looks for a cycle. What ends them is the depth of
classes: a link leads to a class that lies one less deep, so walks up the links and walks down
the lists of subclasses both come to an end, and the bounds on walks and subtrees can be left
out of the equations that describe them. A walk down from a class visits it and the classes
below it, each once and after the class that it is linked to.
-/

namespace LateBinding.Registry

/-- A class is linked to another as its superclass. -/
def LinkedTo (registry : Registry) (id above : ClassId) : Prop :=
  (registry.entry id).superclass = some above

/-- By the links, a class is followed by exactly the classes of this path, itself the first,
    and the last of them is linked to nothing. -/
inductive Ladder (registry : Registry) : ClassId → List ClassId → Prop
  | top {id : ClassId} (unlinked : (registry.entry id).superclass = none) :
      Ladder registry id [id]
  | step {id above : ClassId} {path : List ClassId} (link : registry.LinkedTo id above)
      (rest : Ladder registry above path) : Ladder registry id (id :: path)

/-- The links are a forest, and the lists of subclasses mirror it. -/
structure Forest (registry : Registry) : Prop where
  /-- A class is linked exactly if it is set up and declares a superclass. -/
  linked : ∀ id, (∃ above, registry.LinkedTo id above) ↔
    registry.reached id .setUp = true ∧ (registry.entry id).superName.isSome = true
  /-- A link is to the class with the declared name, and that class is set up. -/
  resolved : ∀ id above, registry.LinkedTo id above →
    registry.reached above .setUp = true ∧
      ∃ name, (registry.entry id).superName = some name ∧ registry.find? name = some above
  /-- Links lead to an end in fewer steps than there are classes, and from a class that is
      set up to one that declares no superclass. -/
  rooted : ∀ id, id < registry.size → ∃ path, registry.Ladder id path ∧
    path.length ≤ registry.size ∧
    (registry.reached id .setUp = true →
      ∀ root ∈ path.getLast?, (registry.entry root).superName = none)
  /-- A class is listed once below the class it is linked to, and below no other. -/
  listed : ∀ above id,
    (registry.LinkedTo id above → (registry.entry above).subclasses.count id = 1) ∧
    (¬registry.LinkedTo id above → (registry.entry above).subclasses.count id = 0)

/-- All walks along the links come to an end, and looking for a side or for a selector on the
    way up takes one step at a time. -/
structure Grounded (registry : Registry) : Prop where
  parents : WellFounded fun above ref => registry.parent? ref = some above
  supersides : WellFounded fun above ref => registry.superside? ref = some above
  subclasses : WellFounded fun below above => below ∈ (registry.entry above).subclasses
  isSubclass : ∀ ref other, registry.isSubclass ref other =
    (other == ref || (registry.superside? ref).any (registry.isSubclass · other))
  lookup : ∀ ref selector, registry.lookup ref selector =
    ((registry.table? ref).bind (·.get? selector)).or
      ((registry.superside? ref).bind (registry.lookup · selector))

/-- The visits of a walk down from a class: to the class and to those linked below it, to each
    once, and after a visit to the class that it is linked to. -/
structure Visits (registry : Registry) (id : ClassId) (visits : List ClassId) : Prop where
  complete : ∀ below, below ∈ visits ↔ Relation.ReflTransGen registry.LinkedTo below id
  once : visits.Nodup
  ordered : ∀ before visited after, visits = before ++ visited :: after → visited ≠ id →
    ∃ above ∈ before, registry.LinkedTo visited above

variable {registry : Registry}

namespace Formed

/-- A class that is set up is loaded. -/
theorem loaded_of_setUp (formed : registry.Formed) {id : ClassId}
    (setUp : registry.reached id .setUp = true) : registry.reached id .loaded = true := by
  rcases formed.registered_or_loaded id with registered | loaded
  · rw [reached, registered] at setUp
    cases setUp
  · exact loaded

/-- A class that is loaded is set up. -/
theorem setUp_of_loaded {id : ClassId} (loaded : registry.reached id .loaded = true) :
    registry.reached id .setUp = true := by
  rw [reached] at loaded ⊢
  rcases (Stage.reached_loaded_iff _).mp loaded with same | same <;> rw [same] <;> rfl

/-- What a class that is set up declares as its superclass is registered, and linked. -/
theorem linked_of_superName (formed : registry.Formed) {id : ClassId}
    (loaded : registry.reached id .loaded = true) {name : String}
    (declared : (registry.entry id).superName = some name) :
    ∃ above, registry.find? name = some above ∧ registry.LinkedTo id above := by
  obtain ⟨-, link, path, ascent⟩ := formed.linked id (stage_ne_registered_of_reached loaded)
  cases ascent with
  | root undeclared =>
    rw [declared] at undeclared
    cases undeclared
  | @step _ above given _ otherDeclared found rest =>
    rw [declared, Option.some.injEq] at otherDeclared
    subst otherDeclared
    refine ⟨above, found, ?_⟩
    rw [LinkedTo, link, declaredSuper?, declared, Option.bind_some, found]

/-- The classes with a link are those that are set up and declare a superclass. -/
theorem linked_iff (formed : registry.Formed) (loose : registry.Loose) (id : ClassId) :
    (∃ above, registry.LinkedTo id above) ↔
      registry.reached id .setUp = true ∧ (registry.entry id).superName.isSome = true := by
  constructor
  · rintro ⟨above, link⟩
    obtain ⟨name, declared, -⟩ :=
      Option.bind_eq_some_iff.mp (formed.declaredSuper?_of_superclass link)
    exact ⟨setUp_of_loaded (formed.loaded_of_superclass loose link), by rw [declared]; rfl⟩
  · rintro ⟨setUp, declares⟩
    obtain ⟨name, declared⟩ := Option.isSome_iff_exists.mp declares
    obtain ⟨above, -, link⟩ := formed.linked_of_superName (formed.loaded_of_setUp setUp) declared
    exact ⟨above, link⟩

/-- The superclass of a class with a link is the one it declared, and is set up. -/
theorem resolved (formed : registry.Formed) {id above : ClassId}
    (link : registry.LinkedTo id above) :
    registry.reached above .setUp = true ∧
      ∃ name, (registry.entry id).superName = some name ∧ registry.find? name = some above := by
  exact ⟨setUp_of_loaded (formed.supported id above link),
    Option.bind_eq_some_iff.mp (formed.declaredSuper?_of_superclass link)⟩

/-- From a class that is set up, links lead to a class that declares no superclass. -/
theorem superName_of_ladder (formed : registry.Formed) {id : ClassId} {path : List ClassId}
    (ladder : registry.Ladder id path) (loaded : registry.reached id .loaded = true) :
    ∀ root ∈ path.getLast?, (registry.entry root).superName = none := by
  induction ladder with
  | @top id unlinked =>
    intro root last
    have same : id = root := by simpa using last
    subst same
    cases declared : (registry.entry id).superName with
    | none => rfl
    | some name =>
      obtain ⟨above, -, link⟩ := formed.linked_of_superName loaded declared
      rw [LinkedTo, unlinked] at link
      cases link
  | @step id above path link rest inductionHypothesis =>
    intro root last
    apply inductionHypothesis (formed.supported id above link) root
    cases rest with
    | top unlinked => exact last
    | step link rest => rwa [List.getLast?_cons_cons] at last

/-- The ladder of a class has at most one rung more than the class lies deep. -/
theorem exists_ladder {depth : ClassId → Nat}
    (deeper : ∀ id above, registry.LinkedTo id above → depth id = depth above + 1)
    (id : ClassId) : ∃ path, registry.Ladder id path ∧ path.length ≤ depth id + 1 := by
  induction bound : depth id generalizing id with
  | zero =>
    cases link : (registry.entry id).superclass with
    | none => exact ⟨[id], .top link, Nat.le_refl 1⟩
    | some above =>
      have lower := deeper id above link
      omega
  | succ bound inductionHypothesis =>
    cases link : (registry.entry id).superclass with
    | none => exact ⟨[id], .top link, Nat.le_add_left 1 _⟩
    | some above =>
      have lower := deeper id above link
      obtain ⟨path, ladder, short⟩ := inductionHypothesis above (by omega)
      exact ⟨id :: path, .step link ladder, Nat.succ_le_succ short⟩

/-- Going up from a class ends, and from one that is set up at a root. -/
theorem rooted (formed : registry.Formed) {id : ClassId} (inside : id < registry.size) :
    ∃ path, registry.Ladder id path ∧ path.length ≤ registry.size ∧
      (registry.reached id .setUp = true →
        ∀ root ∈ path.getLast?, (registry.entry root).superName = none) := by
  obtain ⟨depth, deeper, bounded⟩ := formed.exists_depth
  obtain ⟨path, ladder, short⟩ := exists_ladder deeper id
  have bound := bounded id
  have populated : 0 < registry.size := Nat.zero_lt_of_lt inside
  exact ⟨path, ladder, by omega,
    fun setUp => formed.superName_of_ladder ladder (formed.loaded_of_setUp setUp)⟩

/-- The lists of subclasses of a loose registry say exactly what the links say. -/
theorem mem_subclasses (formed : registry.Formed) (loose : registry.Loose) {above id : ClassId} :
    id ∈ (registry.entry above).subclasses ↔ registry.LinkedTo id above := by
  rw [formed.mirrored]
  exact and_iff_left_of_imp (formed.loaded_of_superclass loose)

/-- The links of a formed and loose registry are a forest. -/
theorem forest (formed : registry.Formed) (loose : registry.Loose) : registry.Forest where
  linked := formed.linked_iff loose
  resolved _ _ := formed.resolved
  rooted _ := formed.rooted
  listed above _ :=
    ⟨fun link =>
        List.count_eq_one_of_mem (formed.once above) ((formed.mem_subclasses loose).mpr link),
      fun unlinked => List.count_eq_zero_of_not_mem
        fun member => unlinked ((formed.mem_subclasses loose).mp member)⟩

/-- Going from parent to parent ends. -/
theorem parents_wellFounded (formed : registry.Formed) :
    WellFounded fun above ref => registry.parent? ref = some above := by
  obtain ⟨height, descends, -⟩ := formed.exists_height
  exact Subrelation.wf (fun leads => descends _ _ leads) (measure height).wf

/-- A class shows no side but the one that its tables build on. -/
theorem parent?_of_superside? {ref above : SideRef}
    (shows : registry.superside? ref = some above) : registry.parent? ref = some above := by
  unfold superside? at shows
  unfold parent?
  split at shows
  · exact shows
  · split at shows
    · exact shows
    · cases shows
  · cases shows

/-- So does going from superclass to superclass. -/
theorem supersides_wellFounded (formed : registry.Formed) :
    WellFounded fun above ref => registry.superside? ref = some above :=
  Subrelation.wf parent?_of_superside? formed.parents_wellFounded

/-- And going down. -/
theorem subclasses_wellFounded (formed : registry.Formed) :
    WellFounded fun below above => below ∈ (registry.entry above).subclasses := by
  obtain ⟨depth, deeper, bounded⟩ := formed.exists_depth
  -- Downwards it is the room below a class that shrinks.
  refine Subrelation.wf ?_ (measure fun id => registry.size - depth id).wf
  intro below above listed
  have lower := deeper below above ((formed.mirrored above below).mp listed).1
  have bound := bounded below
  change registry.size - depth below < registry.size - depth above
  omega

/-- What a side shows to others above it is the side followed by what the side above shows. -/
theorem superclasses_eq_cons (formed : registry.Formed) (ref : SideRef) :
    registry.superclasses ref =
      ref :: ((registry.superside? ref).map registry.superclasses).getD [] := by
  obtain ⟨height, descends, bounded⟩ := formed.exists_height
  unfold superclasses
  rw [climb]
  cases shows : registry.superside? ref with
  | none => rfl
  | some above =>
    have lower := descends ref above (parent?_of_superside? shows)
    have bound := bounded ref
    simp only [Option.map_some, Option.getD_some]
    rw [climb_succ (fun _ _ next => descends _ _ (parent?_of_superside? next)) _ _ (by omega)]

/-- Every walk along the links of a formed registry comes to an end. -/
theorem grounded (formed : registry.Formed) : registry.Grounded where
  parents := formed.parents_wellFounded
  supersides := formed.supersides_wellFounded
  subclasses := formed.subclasses_wellFounded
  isSubclass ref other := by
    rw [isSubclass, formed.superclasses_eq_cons, List.contains_cons]
    cases registry.superside? ref <;> rfl
  lookup ref selector := by
    rw [lookup, formed.superclasses_eq_cons, List.findSome?_cons]
    cases (registry.table? ref).bind (·.get? selector) <;> cases registry.superside? ref <;> rfl

/-- A subtree that goes as deep as classes can lie below its top is complete. -/
theorem subtree_succ (formed : registry.Formed) {depth : ClassId → Nat}
    (deeper : ∀ id above, registry.LinkedTo id above → depth id = depth above + 1)
    (bounded : ∀ id, depth id ≤ registry.size) (levels : Nat) (id : ClassId)
    (enough : registry.size - depth id ≤ levels) :
    registry.subtree (levels + 1) id = registry.subtree levels id := by
  have lower : ∀ child ∈ (registry.entry id).subclasses, depth child = depth id + 1 :=
    fun child listed => deeper child id ((formed.mirrored id child).mp listed).1
  induction levels generalizing id with
  | zero =>
    have childless : (registry.entry id).subclasses = [] := by
      refine List.eq_nil_iff_forall_not_mem.mpr fun child listed => ?_
      have below := lower child listed
      have bound := bounded child
      omega
    change id :: (registry.entry id).subclasses.flatMap (registry.subtree 0) = [id]
    rw [childless, List.flatMap_nil]
  | succ levels inductionHypothesis =>
    rw [subtree, subtree]
    refine congrArg _ (List.flatMap_congr fun child listed => ?_)
    refine inductionHypothesis child ?_ fun grandchild listedBelow =>
      deeper grandchild child ((formed.mirrored child grandchild).mp listedBelow).1
    have below := lower child listed
    omega

/-- The descendants of a class are the class followed by the descendants of its subclasses. -/
theorem descendants_eq (formed : registry.Formed) (id : ClassId) :
    registry.descendants id =
      id :: (registry.entry id).subclasses.flatMap registry.descendants := by
  obtain ⟨depth, deeper, bounded⟩ := formed.exists_depth
  have complete := formed.subtree_succ deeper
    (fun other => (bounded other).trans (Nat.sub_le _ _)) registry.size id (Nat.sub_le _ _)
  rw [descendants, ← complete, subtree]
  rfl

/-- From the descendants of a class, links lead to it. -/
theorem linked_of_mem_descendants (formed : registry.Formed) {id below : ClassId}
    (member : below ∈ registry.descendants id) :
    Relation.ReflTransGen registry.LinkedTo below id := by
  induction id using formed.subclasses_wellFounded.induction with
  | _ id inductionHypothesis =>
    rw [formed.descendants_eq] at member
    rcases List.mem_cons.mp member with rfl | deeper
    · exact .refl
    · obtain ⟨child, listed, within⟩ := List.mem_flatMap.mp deeper
      exact (inductionHypothesis child listed within).tail ((formed.mirrored id child).mp listed).1

/-- The loaded ones among the classes from which links lead to a class are its descendants. -/
theorem mem_descendants_of_linked (formed : registry.Formed) {id below : ClassId}
    (loaded : registry.reached below .loaded = true)
    (leads : Relation.ReflTransGen registry.LinkedTo below id) :
    below ∈ registry.descendants id := by
  induction leads using Relation.ReflTransGen.head_induction_on with
  | refl => exact self_mem_subtree _ _
  | head link _ inductionHypothesis =>
    exact formed.descendants_closed (inductionHypothesis (formed.supported _ _ link)) link loaded

/-- In a loose registry the descendants of a class are those from which links lead to it. -/
theorem mem_descendants_iff_linked (formed : registry.Formed) (loose : registry.Loose)
    {id below : ClassId} :
    below ∈ registry.descendants id ↔ Relation.ReflTransGen registry.LinkedTo below id := by
  refine ⟨formed.linked_of_mem_descendants, fun leads => ?_⟩
  obtain rfl | ⟨above, link, -⟩ := Relation.ReflTransGen.cases_head leads
  · exact self_mem_subtree _ _
  · exact formed.mem_descendants_of_linked (formed.loaded_of_superclass loose link) leads

/-- Nothing is below two classes that are linked to the same class: one of them would be
    below the other, and with it their superclass. -/
theorem descendants_disjoint (formed : registry.Formed) {id child other : ClassId}
    (link : registry.LinkedTo child id) (otherLink : registry.LinkedTo other id)
    (different : child ≠ other) :
    (registry.descendants child).Disjoint (registry.descendants other) := by
  have apart : ∀ {low high : ClassId}, registry.LinkedTo low id → registry.LinkedTo high id →
      low ≠ high → ¬Relation.ReflTransGen registry.LinkedTo low high := by
    intro low high lowLink highLink distinct leads
    rcases Relation.ReflTransGen.cases_head leads with same | ⟨next, nextLink, onwards⟩
    · exact distinct same
    · have sameNext : id = next := Option.some.inj (lowLink.symm.trans nextLink)
      subst sameNext
      exact formed.above_not_mem_descendants highLink
        (formed.mem_descendants_of_linked (formed.supported low id lowLink) onwards)
  have unique : Relator.RightUnique registry.LinkedTo :=
    fun _ _ _ first second => Option.some.inj (first.symm.trans second)
  intro below member otherMember
  rcases Relation.ReflTransGen.total_of_right_unique unique
    (formed.linked_of_mem_descendants member)
    (formed.linked_of_mem_descendants otherMember) with leads | leads
  · exact apart link otherLink different leads
  · exact apart otherLink link (Ne.symm different) leads

/-- No class is twice among the descendants of a class. -/
theorem descendants_nodup (formed : registry.Formed) (id : ClassId) :
    (registry.descendants id).Nodup := by
  induction id using formed.subclasses_wellFounded.induction with
  | _ id inductionHypothesis =>
    have links := fun child listed => ((formed.mirrored id child).mp listed).1
    rw [formed.descendants_eq, List.nodup_cons, List.nodup_flatMap]
    refine ⟨?_, inductionHypothesis, ?_⟩
    · intro member
      obtain ⟨child, listed, within⟩ := List.mem_flatMap.mp member
      exact formed.above_not_mem_descendants (links child listed) within
    · refine (formed.once id).pairwise_of_forall_ne fun child listed other otherListed => ?_
      exact formed.descendants_disjoint (links child listed) (links other otherListed)

end Formed

/-- In a list in sequence, what a class is linked to stands before it or was seen before the
    list. -/
theorem Sequenced.above_of_append {seen : ClassId → Prop} {before after : List ClassId}
    {visited above : ClassId} (sequenced : registry.Sequenced seen (before ++ visited :: after))
    (link : registry.LinkedTo visited above) : above ∈ before ∨ seen above := by
  induction before generalizing seen with
  | nil => exact .inr (sequenced.1 above link)
  | cons first rest inductionHypothesis =>
    rcases inductionHypothesis sequenced.2 with earlier | rfl | isSeen
    · exact .inl (List.mem_cons_of_mem _ earlier)
    · exact .inl List.mem_cons_self
    · exact .inr isSeen

/-- Among the descendants of a class, each but the class itself comes after the class that it
    is linked to. -/
theorem Formed.descendants_ordered (formed : registry.Formed) {id visited : ClassId}
    {before after : List ClassId} (split : registry.descendants id = before ++ visited :: after)
    (proper : visited ≠ id) : ∃ above ∈ before, registry.LinkedTo visited above := by
  have member : visited ∈ registry.descendants id := by simp [split]
  obtain same | ⟨above, link, onwards⟩ :=
    Relation.ReflTransGen.cases_head (formed.linked_of_mem_descendants member)
  · exact absurd same proper
  · have aboveMember :=
      formed.mem_descendants_of_linked (formed.supported visited above link) onwards
    have sequenced := formed.sequenced_descendants id
    rw [split] at sequenced
    rcases sequenced.above_of_append link with earlier | outside
    · exact ⟨above, earlier, link⟩
    · exact absurd aboveMember (split ▸ outside)

/-- In a loose registry the descendants of a class are the visits of a walk down from it. -/
theorem Formed.visits_descendants (formed : registry.Formed) (loose : registry.Loose)
    (id : ClassId) : registry.Visits id (registry.descendants id) where
  complete _ := formed.mem_descendants_iff_linked loose
  once := formed.descendants_nodup id
  ordered _ _ _ := formed.descendants_ordered

end LateBinding.Registry
