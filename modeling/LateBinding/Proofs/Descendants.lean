import LateBinding.Proofs.Resolution

/-!
# The classes below a class

The subtree of a class lists the classes linked below it, each after the one it is linked
to. The depth to which the list goes is the number of classes, and no class is further
below another than that, so the list is complete: a class is in it exactly when the other
lies on its path.
-/

namespace LateBinding.Registry

variable {registry : Registry}

/-- A class is in its subtree. -/
theorem self_mem_subtree (depth : Nat) (id : ClassId) : id ∈ registry.subtree depth id := by
  cases depth <;> simp [subtree]

/-- A loaded class that is linked to a class of a subtree is in the subtree one level deeper. -/
theorem Formed.mem_subtree_succ (formed : registry.Formed) {depth : Nat} {id below next : ClassId}
    (member : below ∈ registry.subtree depth id)
    (link : (registry.entry next).superclass = some below)
    (loaded : registry.reached next .loaded = true) :
    next ∈ registry.subtree (depth + 1) id := by
  induction depth generalizing id with
  | zero =>
    rw [subtree, List.mem_singleton] at member
    subst member
    refine List.mem_cons_of_mem _ (List.mem_flatMap.mpr ⟨next, ?_, self_mem_subtree 0 next⟩)
    exact (formed.mirrored below next).mpr ⟨link, loaded⟩
  | succ depth inductionHypothesis =>
    rw [subtree] at member ⊢
    rcases List.mem_cons.mp member with same | deeper
    · subst same
      refine List.mem_cons_of_mem _ (List.mem_flatMap.mpr ⟨next, ?_, self_mem_subtree _ next⟩)
      exact (formed.mirrored below next).mpr ⟨link, loaded⟩
    · obtain ⟨child, isChild, within⟩ := List.mem_flatMap.mp deeper
      exact List.mem_cons_of_mem _
        (List.mem_flatMap.mpr ⟨child, isChild, inductionHypothesis within⟩)

/-- A subtree that goes deeper has more classes. -/
theorem subtree_subset {shallow deep : Nat} (le : shallow ≤ deep) (id : ClassId) :
    registry.subtree shallow id ⊆ registry.subtree deep id := by
  induction shallow generalizing deep id with
  | zero =>
    intro below member
    rw [subtree, List.mem_singleton] at member
    rw [member]
    exact self_mem_subtree deep id
  | succ shallow inductionHypothesis =>
    cases deep with
    | zero => exact absurd le (Nat.not_succ_le_zero shallow)
    | succ deep =>
      intro below member
      rw [subtree] at member ⊢
      rcases List.mem_cons.mp member with same | deeper
      · exact same ▸ List.mem_cons_self
      · obtain ⟨child, isChild, within⟩ := List.mem_flatMap.mp deeper
        exact List.mem_cons_of_mem _ (List.mem_flatMap.mpr
          ⟨child, isChild, inductionHypothesis (Nat.le_of_succ_le_succ le) child within⟩)

/-- A loaded class is as deep below a class of its path as that is far along the path. -/
theorem Formed.mem_subtree_of_ascent (formed : registry.Formed) {id below : ClassId}
    {path : List ClassId} (ascent : registry.Ascent below path)
    (loaded : registry.reached below .loaded = true) {distance : Nat}
    (passed : path[distance]? = some id) : below ∈ registry.subtree distance id := by
  induction ascent generalizing distance with
  | @root below declared =>
    cases distance with
    | zero =>
      rw [List.getElem?_cons_zero, Option.some.injEq] at passed
      exact passed ▸ self_mem_subtree 0 below
    | succ distance => simp at passed
  | @step below above name path declared found rest inductionHypothesis =>
    cases distance with
    | zero =>
      rw [List.getElem?_cons_zero, Option.some.injEq] at passed
      exact passed ▸ self_mem_subtree 0 below
    | succ distance =>
      have link : (registry.entry below).superclass = some above := by
        rw [(formed.linked below (stage_ne_registered_of_reached loaded)).2.1, declaredSuper?,
          declared, Option.bind_some, found]
      rw [List.getElem?_cons_succ] at passed
      exact formed.mem_subtree_succ
        (inductionHypothesis (formed.supported below above link) passed) link loaded

/-- A class of a subtree is its top or has the top on its path. -/
theorem Formed.ascent_of_mem_subtree (formed : registry.Formed) {depth : Nat}
    {id below : ClassId} (member : below ∈ registry.subtree depth id) :
    below = id ∨ registry.reached below .loaded = true ∧
      ∃ path, registry.Ascent below path ∧ id ∈ path := by
  induction depth generalizing id with
  | zero => exact .inl (List.mem_singleton.mp member)
  | succ depth inductionHypothesis =>
    rw [subtree] at member
    rcases List.mem_cons.mp member with same | deeper
    · exact .inl same
    · obtain ⟨child, isChild, within⟩ := List.mem_flatMap.mp deeper
      obtain ⟨link, childLoaded⟩ := (formed.mirrored id child).mp isChild
      obtain ⟨-, -, childPath, childAscent⟩ :=
        formed.linked child (stage_ne_registered_of_reached childLoaded)
      obtain ⟨rest, rfl, ascent⟩ := formed.ascent_above link childAscent
      obtain ⟨further, rfl⟩ := ascent.head
      refine .inr ?_
      rcases inductionHypothesis within with same | ⟨loaded, path, belowAscent, passed⟩
      · subst same
        exact ⟨childLoaded, _, childAscent, by simp⟩
      · obtain ⟨before, after, rfl⟩ := List.append_of_mem passed
        rw [← childAscent.unique belowAscent.suffix] at belowAscent
        exact ⟨loaded, _, belowAscent, by simp⟩

/-- The descendants of a class are the class and the loaded classes that have it on their
    path. -/
theorem Formed.mem_descendants_iff (formed : registry.Formed) {id below : ClassId} :
    below ∈ registry.descendants id ↔
      below = id ∨ registry.reached below .loaded = true ∧
        ∃ path, registry.Ascent below path ∧ id ∈ path := by
  constructor
  · exact formed.ascent_of_mem_subtree
  · rintro (same | ⟨loaded, path, ascent, passed⟩)
    · exact same ▸ self_mem_subtree _ _
    · obtain ⟨distance, place⟩ := List.getElem?_of_mem passed
      have near : distance < path.length := (List.getElem?_eq_some_iff.mp place).1
      have bound := ascent.length_le formed.lt_of_find? (lt_size_of_reached loaded)
      exact subtree_subset (by omega) id (formed.mem_subtree_of_ascent ascent loaded place)

/-- A loaded class that is linked to a descendant is a descendant. -/
theorem Formed.descendants_closed (formed : registry.Formed) {id below next : ClassId}
    (member : below ∈ registry.descendants id)
    (link : (registry.entry next).superclass = some below)
    (loaded : registry.reached next .loaded = true) : next ∈ registry.descendants id := by
  obtain ⟨-, -, path, ascent⟩ := formed.linked next (stage_ne_registered_of_reached loaded)
  obtain ⟨rest, rfl, belowAscent⟩ := formed.ascent_above link ascent
  refine formed.mem_descendants_iff.mpr (.inr ⟨loaded, _, ascent, ?_⟩)
  rcases formed.mem_descendants_iff.mp member with same | ⟨-, path, otherAscent, passed⟩
  · obtain ⟨further, rfl⟩ := belowAscent.head
    simp [same]
  · rw [otherAscent.unique belowAscent] at passed
    exact List.mem_cons_of_mem _ passed

/-- The class above a class is not below it. -/
theorem Formed.above_not_mem_descendants (formed : registry.Formed) {id above : ClassId}
    (link : (registry.entry id).superclass = some above) : above ∉ registry.descendants id := by
  intro member
  obtain ⟨path, ascent⟩ := formed.rooted_of_superclass link
  obtain ⟨rest, rfl, aboveAscent⟩ := formed.ascent_above link ascent
  have distinct : id ∉ rest := (List.nodup_cons.mp ascent.nodup).1
  rcases formed.mem_descendants_iff.mp member with same | ⟨-, path, otherAscent, passed⟩
  · obtain ⟨further, rfl⟩ := aboveAscent.head
    exact distinct (by simp [same])
  · rw [otherAscent.unique aboveAscent] at passed
    exact distinct passed

end LateBinding.Registry
