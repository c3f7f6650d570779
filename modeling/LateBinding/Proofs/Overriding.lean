import LateBinding.Proofs.Dispatching

/-!
# Who sees a method that is replaced

Replacing a method changes what one side declares for one selector. On that side it can make no
difference, because a category of the class declares the selector too and comes later. Where it
does, the sides that see the change are those from which the way up leads to the side without
passing another one that declares the selector. For all other sides, and for all other selectors,
everything means what it did.

The last method for the selector is the one that is replaced, so putting its implementation back
gives the list as it was, with all earlier methods for the selector where they were.
-/

namespace LateBinding

namespace Method

variable {selector : Selector} {methods : List Method}

/-- The last method of two lists is that of the second one, if it has one. -/
theorem lastFor_append (first second : List Method) (selector : Selector) :
    lastFor (first ++ second) selector = (lastFor second selector).or (lastFor first selector) := by
  induction first with
  | nil => simp [lastFor]
  | cons method rest inductionHypothesis =>
    rw [List.cons_append, lastFor_cons, lastFor_cons, inductionHypothesis, Option.or_assoc]

/-- There is no last method for a selector exactly if no method is for it. -/
theorem lastFor_eq_none_iff :
    lastFor methods selector = none ↔ ∀ method ∈ methods, method.selector ≠ selector := by
  simp [lastFor]

/-- Replacing the last method for a selector gives the selector another implementation. -/
theorem lastFor_replaceLast (methods : List Method) (imp : Imp) (asked : Selector) :
    lastFor (replaceLast selector imp methods) asked =
      if asked = selector then some imp else lastFor methods asked := by
  induction methods with
  | nil =>
    rw [replaceLast, lastFor_cons]
    by_cases same : asked = selector
    · simp [same, lastFor]
    · simp [same, Ne.symm same]
  | cons method rest inductionHypothesis =>
    rw [replaceLast]
    split
    · rename_i last
      simp only [Bool.and_eq_true, beq_iff_eq, Bool.not_eq_true', List.any_eq_false] at last
      obtain ⟨here, later⟩ := last
      rw [lastFor_cons, lastFor_cons]
      by_cases same : asked = selector
      · subst same
        rw [lastFor_eq_none_iff.mpr later]
        simp [here]
      · have different : method.selector ≠ asked := fun also => same (also.symm.trans here)
        simp [same, different]
    · rename_i notLast
      rw [lastFor_cons, lastFor_cons, inductionHypothesis]
      by_cases same : asked = selector
      · simp [same]
      · simp [same]

/-- After a method has been replaced or added there is one for the selector. -/
theorem any_replaceLast (selector : Selector) (imp : Imp) (methods : List Method) :
    (replaceLast selector imp methods).any (·.selector == selector) = true := by
  by_contra absent
  have none : lastFor (replaceLast selector imp methods) selector = none :=
    lastFor_eq_none_iff.mpr (by simpa using absent)
  rw [lastFor_replaceLast, if_pos rfl] at none
  cases none

/-- Putting back the implementation that a method had gives the methods as they were. -/
theorem replaceLast_replaceLast {previous : Imp}
    (had : lastFor methods selector = some previous) (imp : Imp) :
    replaceLast selector previous (replaceLast selector imp methods) = methods := by
  induction methods with
  | nil => cases had
  | cons method rest inductionHypothesis =>
    rw [lastFor_cons] at had
    by_cases last : (method.selector == selector && !rest.any (·.selector == selector)) = true
    · have marked := last
      simp only [Bool.and_eq_true, beq_iff_eq, Bool.not_eq_true', List.any_eq_false] at marked
      obtain ⟨here, later⟩ := marked
      rw [lastFor_eq_none_iff.mpr later, if_pos here] at had
      cases had
      rw [replaceLast, if_pos last, replaceLast, if_pos last]
    · rw [replaceLast, if_neg last, replaceLast, any_replaceLast]
      have hadRest : lastFor rest selector = some previous := by
        cases below : lastFor rest selector with
        | some found =>
          rw [below] at had
          exact had
        | none =>
          have later := lastFor_eq_none_iff.mp below
          have here : method.selector = selector := by
            by_contra different
            simp [below, different] at had
          exact absurd (by simpa [here] using later) last
      simp [inductionHypothesis hadRest]

end Method

/-- Where one answer on a way is replaced, the first answer is the new one if there was none
    before that place, and otherwise the first answer is as it was. -/
theorem findSome?_replaced {α β : Type} {answer changed : α → Option β} {place : α} {new : β}
    (here : changed place = some new)
    (elsewhere : ∀ other, other ≠ place → changed other = answer other) (way : List α) :
    ((∃ below above, way = below ++ place :: above ∧ ∀ lower ∈ below, answer lower = none) →
      way.findSome? changed = some new) ∧
    ((¬∃ below above, way = below ++ place :: above ∧ ∀ lower ∈ below, answer lower = none) →
      way.findSome? changed = way.findSome? answer) := by
  induction way with
  | nil => simp
  | cons first rest inductionHypothesis =>
    rw [List.findSome?_cons, List.findSome?_cons]
    by_cases atPlace : first = place
    · subst atPlace
      rw [here]
      exact ⟨fun _ => rfl, fun unseen => absurd ⟨[], rest, rfl, by simp⟩ unseen⟩
    · rw [elsewhere first atPlace]
      cases answered : answer first with
      | some value =>
        constructor
        · rintro ⟨below, above, same, silent⟩
          cases below with
          | nil =>
            rw [List.nil_append, List.cons.injEq] at same
            exact absurd same.1 atPlace
          | cons lower others =>
            rw [List.cons_append, List.cons.injEq] at same
            have quiet := silent lower List.mem_cons_self
            rw [← same.1, answered] at quiet
            cases quiet
        · exact fun _ => rfl
      -- Below the place nothing answers so far, and the rest of the way decides.
      | none =>
        have onward : (∃ below above, first :: rest = below ++ place :: above ∧
            ∀ lower ∈ below, answer lower = none) ↔
            ∃ below above, rest = below ++ place :: above ∧
              ∀ lower ∈ below, answer lower = none := by
          constructor
          · rintro ⟨below, above, same, silent⟩
            cases below with
            | nil =>
              rw [List.nil_append, List.cons.injEq] at same
              exact absurd same.1 atPlace
            | cons lower others =>
              rw [List.cons_append, List.cons.injEq] at same
              exact ⟨others, above, same.2, fun next member =>
                silent next (List.mem_cons_of_mem _ member)⟩
          · rintro ⟨below, above, rfl, silent⟩
            refine ⟨first :: below, above, rfl, ?_⟩
            intro lower member
            rcases List.mem_cons.mp member with rfl | later
            · exact answered
            · exact silent lower later
        rw [onward]
        exact inductionHypothesis

namespace Registry

variable {registry : Registry} {ref side : SideRef} {selector asked : Selector} {imp : Imp}

/-- A side declares a method for a selector, itself or in a category. -/
def Declares (registry : Registry) (side : SideRef) (selector : Selector) : Prop :=
  ∃ method ∈ (registry.entry side.id).declarations side.side, method.selector = selector

/-- A category that is attached to the class of a side declares a method for a selector on that
    side. -/
def Attaches (registry : Registry) (side : SideRef) (selector : Selector) : Prop :=
  ∃ category ∈ (registry.entry side.id).categories,
    ∃ method ∈ category.methods.get side.side, method.selector = selector

/-- A side sees what another one declares itself for a selector: the way up leads there, no side
    before it declares the selector, and no category does so there. -/
def Sees (registry : Registry) (side ref : SideRef) (selector : Selector) : Prop :=
  (∃ below above, registry.superclasses side = below ++ ref :: above ∧
    ∀ lower ∈ below, ¬registry.Declares lower selector) ∧ ¬registry.Attaches ref selector

/-- A side has no method of its own for a selector that it does not declare. -/
theorem own_eq_none_iff : registry.own side selector = none ↔ ¬registry.Declares side selector := by
  simp [own, Declares, Method.lastFor_eq_none_iff]

/-- What a category declares decides, and what the class declares itself decides otherwise. -/
theorem own_eq (registry : Registry) (side : SideRef) (selector : Selector) :
    registry.own side selector =
      (Method.lastFor ((registry.entry side.id).categories.flatMap fun category =>
        category.methods.get side.side) selector).or
        (Method.lastFor ((registry.entry side.id).methods.get side.side) selector) := by
  rw [own, ClassEntry.declarations, Method.lastFor_append]

/-- It has none from a category if no category has one. -/
theorem attached_eq_none_iff :
    Method.lastFor ((registry.entry side.id).categories.flatMap fun category =>
      category.methods.get side.side) selector = none ↔ ¬registry.Attaches side selector := by
  rw [Method.lastFor_eq_none_iff]
  simp only [List.mem_flatMap, Attaches, not_exists, not_and, forall_exists_index, and_imp]
  constructor
  · exact fun absent category attached method declared => absent method category attached declared
  · exact fun absent method category attached declared => absent category attached method declared

/-- Replacing a method changes the methods of one side. -/
theorem methods_replaceMethod (inside : ref.id < registry.size) (selector : Selector) (imp : Imp)
    (side : SideRef) :
    ((registry.replaceMethod ref selector imp).entry side.id).methods.get side.side =
      if side = ref then
        Method.replaceLast selector imp ((registry.entry ref.id).methods.get ref.side)
      else (registry.entry side.id).methods.get side.side := by
  obtain ⟨id, whichSide⟩ := side
  rw [replaceMethod]
  by_cases sameClass : ref.id = id
  · subst sameClass
    rw [entry_modify_same _ _ inside]
    by_cases sameSide : whichSide = ref.side
    · subst sameSide
      simp
    · have different : (⟨ref.id, whichSide⟩ : SideRef) ≠ ref := fun same =>
        sameSide (congrArg SideRef.side same)
      rw [if_neg different]
      exact BySide.get_set_of_ne _ _ sameSide
  · have different : (⟨id, whichSide⟩ : SideRef) ≠ ref := fun same =>
      sameClass (congrArg SideRef.id same).symm
    rw [entry_modify_of_ne _ _ sameClass, if_neg different]

/-- The side of a replaced method declares its implementation for the selector, unless a category
    declares the selector there. -/
theorem own_replaceMethod_same (inside : ref.id < registry.size) (imp : Imp)
    (unattached : ¬registry.Attaches ref selector) :
    (registry.replaceMethod ref selector imp).own ref selector = some imp := by
  have categories := registry.field_replaceMethod ref selector imp ClassEntry.categories
    fun _ _ => rfl
  rw [own_eq, categories, methods_replaceMethod inside, attached_eq_none_iff.mpr unattached,
    if_pos rfl, Method.lastFor_replaceLast, if_pos rfl]
  rfl

/-- Other sides declare what they did, and so does the side of a replaced method for other
    selectors, and for the selector if a category declares it there. -/
theorem own_replaceMethod_of_unaffected (inside : ref.id < registry.size) (imp : Imp)
    (unaffected : side ≠ ref ∨ asked ≠ selector ∨ registry.Attaches ref selector) :
    (registry.replaceMethod ref selector imp).own side asked = registry.own side asked := by
  have categories := registry.field_replaceMethod ref selector imp ClassEntry.categories
    fun _ _ => rfl
  rw [own_eq, own_eq registry, categories, methods_replaceMethod inside]
  by_cases atRef : side = ref
  · subst atRef
    rw [if_pos rfl, Method.lastFor_replaceLast]
    by_cases same : asked = selector
    · subst same
      have attached : registry.Attaches side asked := by simpa using unaffected
      cases found : Method.lastFor ((registry.entry side.id).categories.flatMap fun category =>
          category.methods.get side.side) asked with
      | some imp => rfl
      | none => exact absurd attached (attached_eq_none_iff.mp found)
    · rw [if_neg same]
  · rw [if_neg atRef]

/-- Replacing a method leaves lineages alone. -/
theorem lineage_replaceMethod (ref : SideRef) (selector : Selector) (imp : Imp) (side : SideRef) :
    (registry.replaceMethod ref selector imp).lineage side = registry.lineage side := by
  have parents : (registry.replaceMethod ref selector imp).parent? = registry.parent? := by
    funext side
    rw [parent?, parent?,
      registry.field_replaceMethod ref selector imp ClassEntry.superclass fun _ _ => rfl]
  have size : (registry.replaceMethod ref selector imp).size = registry.size :=
    registry.size_modify _ _
  rw [lineage, lineage, parents, size]

/-- After a method was replaced, the sides that see it find its implementation, and to all others
    every selector means what it did. -/
theorem Formed.resolve_replaceMethod (formed : registry.Formed) (inside : ref.id < registry.size)
    (loaded : registry.reached side.id .loaded = true) (selector : Selector) (imp : Imp)
    (asked : Selector) :
    (asked = selector ∧ registry.Sees side ref selector →
      (registry.replaceMethod ref selector imp).resolve side asked = some imp) ∧
    (¬(asked = selector ∧ registry.Sees side ref selector) →
      (registry.replaceMethod ref selector imp).resolve side asked =
        registry.resolve side asked) := by
  rw [resolve, resolve, lineage_replaceMethod, Sees, formed.superclasses_eq loaded]
  by_cases affected : asked = selector ∧ ¬registry.Attaches ref selector
  · obtain ⟨rfl, unattached⟩ := affected
    let changed := fun other => (registry.replaceMethod ref asked imp).own other asked
    have here : changed ref = some imp := own_replaceMethod_same inside imp unattached
    have elsewhere : ∀ other, other ≠ ref → changed other = registry.own other asked :=
      fun other different => own_replaceMethod_of_unaffected inside imp (.inl different)
    have replaced := findSome?_replaced here elsewhere (registry.lineage side)
    simp only [own_eq_none_iff] at replaced
    simpa only [true_and, unattached, not_false_eq_true, and_true] using replaced
  · have unchanged : ∀ other, (registry.replaceMethod ref selector imp).own other asked =
        registry.own other asked := by
      intro other
      apply own_replaceMethod_of_unaffected inside imp
      by_cases same : asked = selector
      · exact .inr (.inr (by_contra fun unattached => affected ⟨same, unattached⟩))
      · exact .inr (.inl same)
    rw [funext unchanged]
    exact ⟨fun given => absurd ⟨given.1, given.2.2⟩ affected, fun _ => rfl⟩

/-- Putting back the implementation that a side declared itself gives the registry as it was. -/
theorem replaceMethod_replaceMethod {previous : Imp}
    (had : Method.lastFor ((registry.entry ref.id).methods.get ref.side) selector = some previous)
    (imp : Imp) :
    (registry.replaceMethod ref selector imp).replaceMethod ref selector previous = registry := by
  have restored := Method.replaceLast_replaceLast had imp
  have classes : ((registry.replaceMethod ref selector imp).replaceMethod ref selector
      previous).classes = registry.classes := by
    apply Array.ext
    · simp [replaceMethod, modify]
    · intro id inside within
      simp only [replaceMethod, modify, Array.getElem_modify]
      by_cases same : ref.id = id
      · have here : registry.classes[id] = registry.entry ref.id := by
          rw [same, entry, Array.getD_eq_getD_getElem?, Array.getElem?_eq_getElem within]
          rfl
        rw [if_pos same, if_pos same, here, BySide.get_set_same, restored]
        cases ref.side <;> rfl
      · rw [if_neg same, if_neg same]
  simp only [replaceMethod, modify] at classes ⊢
  rw [classes]

end Registry

end LateBinding
