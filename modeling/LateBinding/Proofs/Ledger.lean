import LateBinding.Proofs.Arrivals
import Mathlib.Data.List.Forall2

/-!
# The categories of an image

An image holds the categories of a class name in two places: those that are attached to the
class of that name, if there is one, and those that wait. Taken together they are the
categories that were registered for the name, in the order of registration, each under its
own number.

This is kept by whatever an edit does. A category that arrives goes to the end of one of the
two places, and the places are never both in use: nothing waits for a loaded class, and
nothing is attached to a class that is not loaded. Raising a class moves everything from the
second place to the first.
-/

namespace LateBinding

/-- The registrations for a class name among all of them, each with its number. -/
def CategoryDecl.forName (registered : List CategoryDecl) (name : String) :
    List (CategoryDecl × Nat) :=
  registered.zipIdx.filter fun entry => entry.1.className == name

/-- Categories are those of a list of registrations, in the same order. -/
def Category.Recorded {hash : String → Nat} (table : SelectorTable hash)
    (categories : List Category) (entries : List (CategoryDecl × Nat)) : Prop :=
  List.Forall₂ (fun category entry => category.Realizes table entry.2 entry.1) categories entries

/-- A category that is registered is the last one for its name. -/
theorem CategoryDecl.forName_append (registered : List CategoryDecl) (decl : CategoryDecl)
    (name : String) : forName (registered ++ [decl]) name = forName registered name ++
      if decl.className = name then [(decl, registered.length)] else [] := by
  rw [forName, List.zipIdx_append, List.filter_append, forName]
  by_cases same : decl.className = name <;> simp [same]

namespace Registry

/-- The categories attached to the class of a name. A name without a class has none. -/
def attachedTo (registry : Registry) (name : String) : List Category :=
  ((registry.find? name).map fun id => (registry.entry id).categories).getD []

/-- What is attached to a name is attached to the class found under it. -/
theorem attachedTo_of_find? {registry : Registry} {name : String} {id : ClassId}
    (found : registry.find? name = some id) :
    registry.attachedTo name = (registry.entry id).categories := by
  rw [attachedTo, found]
  rfl

/-- Nothing is attached to a name without a class. -/
theorem attachedTo_of_none {registry : Registry} {name : String}
    (absent : registry.find? name = none) : registry.attachedTo name = [] := by
  rw [attachedTo, absent]
  rfl

/-- Nothing else matters to what is attached to a name. -/
theorem attachedTo_congr {registry after : Registry}
    (found : ∀ name, after.find? name = registry.find? name)
    (categories : ∀ id, (after.entry id).categories = (registry.entry id).categories)
    (name : String) : after.attachedTo name = registry.attachedTo name := by
  rw [attachedTo, attachedTo, found, funext categories]

/-- The categories that an image was given record all registrations. -/
structure Ledger (registry : Registry) {hash : String → Nat} (table : SelectorTable hash)
    (registered : List CategoryDecl) : Prop where
  count : registry.categoryCount = registered.length
  held : ∀ name, Category.Recorded table (registry.attachedTo name ++ registry.parkedFor name)
    (CategoryDecl.forName registered name)
  /-- Nothing is attached to a class that is not loaded. -/
  early : ∀ id, registry.reached id .loaded = false → (registry.entry id).categories = []
  /-- Nothing waits for a class that is loaded. -/
  late : ∀ id, registry.reached id .loaded = true →
    registry.parkedFor (registry.entry id).name = []

variable {registry after : Registry} {hash : String → Nat} {table grown : SelectorTable hash}
  {registered : List CategoryDecl}

/-- In an empty registry nothing is attached and nothing waits. -/
theorem ledger_empty (table : SelectorTable hash) : empty.Ledger table [] where
  count := rfl
  held name := .nil
  early id _ := by rw [entry_of_size_le _ (Nat.zero_le id)]; rfl
  late id loaded := absurd (lt_size_of_reached loaded) (Nat.not_lt_zero id)

namespace Ledger

/-- No category waits for a name whose class is loaded. -/
theorem parked_of_loaded (ledger : registry.Ledger table registered) (formed : registry.Formed)
    {name : String} {target : ClassId} (found : registry.find? name = some target)
    (loaded : registry.reached target .loaded = true) : registry.parkedFor name = [] := by
  have late := ledger.late target loaded
  rwa [((formed.named name target).mp found).2] at late

/-- No category is attached to a name that has no loaded class. -/
theorem attached_of_early (ledger : registry.Ledger table registered) {name : String}
    (early : ∀ target, registry.find? name = some target →
      registry.reached target .loaded = false) : registry.attachedTo name = [] := by
  cases found : registry.find? name with
  | none => exact attachedTo_of_none found
  | some target => rw [attachedTo_of_find? found, ledger.early target (early target found)]

/-- What is held for a name is attached if the class of that name is loaded, and waits if it
    is not or there is none. -/
theorem places (ledger : registry.Ledger table registered) (formed : registry.Formed)
    (name : String) :
    ((∃ id, registry.find? name = some id ∧ registry.reached id .loaded = true) ∧
        registry.parkedFor name = []) ∨
      ((∀ id, registry.find? name = some id → registry.reached id .loaded = false) ∧
        registry.attachedTo name = []) := by
  by_cases loaded : ∃ id, registry.find? name = some id ∧ registry.reached id .loaded = true
  · obtain ⟨id, found, isLoaded⟩ := loaded
    exact .inl ⟨⟨id, found, isLoaded⟩, ledger.parked_of_loaded formed found isLoaded⟩
  · have early : ∀ id, registry.find? name = some id → registry.reached id .loaded = false :=
      fun id found => Bool.eq_false_iff.mpr fun isLoaded => loaded ⟨id, found, isLoaded⟩
    exact .inr ⟨early, ledger.attached_of_early early⟩

/-- A ledger stays as it is when names, categories and what is loaded stay. -/
theorem alter (ledger : registry.Ledger table registered) (extended : table.Extends grown)
    (count : after.categoryCount = registry.categoryCount)
    (found : ∀ name, after.attachedTo name = registry.attachedTo name)
    (parked : after.parked = registry.parked)
    (loaded : ∀ id, after.reached id .loaded = registry.reached id .loaded)
    (categories : ∀ id, (after.entry id).categories = (registry.entry id).categories)
    (names : ∀ id, registry.reached id .loaded = true →
      (after.entry id).name = (registry.entry id).name) : after.Ledger grown registered where
  count := count.trans ledger.count
  held name := by
    rw [found, parkedFor, parked]
    exact (ledger.held name).imp fun _ _ => Category.Realizes.extend extended
  early id early := by
    rw [loaded] at early
    rw [categories, ledger.early id early]
  late id late := by
    rw [loaded] at late
    rw [names id late, parkedFor, parked]
    exact ledger.late id late

/-- Tables have no part in it. -/
theorem of_bare (ledger : registry.Ledger table registered) (same : after.bare = registry.bare) :
    after.Ledger table registered := by
  have categories := field_of_bare same ClassEntry.categories fun _ => rfl
  refine ledger.alter (.refl table) ?_ ?_ (parked_of_bare same)
    (fun id => reached_of_bare same id .loaded) categories
    fun id _ => field_of_bare same ClassEntry.name (fun _ => rfl) id
  · exact categoryCount_of_bare same
  · exact attachedTo_congr (find?_of_bare same) categories

/-- A new class has no categories yet. -/
theorem push (ledger : registry.Ledger table registered) {name : String}
    {superName : Option String} {declaredSize : Nat} {methods : BySide (List Method)}
    (fresh : registry.find? name = none) :
    (registry.push (.declared name superName declaredSize methods)).Ledger table registered := by
  let new := ClassEntry.declared name superName declaredSize methods
  have categories := registry.field_push ClassEntry.categories new rfl
  refine ledger.alter (.refl table) rfl ?_ rfl ?_ categories ?_
  · intro asked
    cases found : registry.find? asked with
    | some id =>
      rw [attachedTo_of_find? found, attachedTo_of_find? (find?_push_of_found _ fresh found),
        categories]
    | none =>
      rw [attachedTo_of_none found, attachedTo, find?_push]
      split
      · rw [Option.map_some, Option.getD_some, entry_push_size]
        rfl
      · rw [found]
        rfl
  · exact fun id => registry.field_push (·.stage.inst.reached .loaded) new rfl id
  · intro id loaded
    rw [entry_push_of_ne _ _ (Nat.ne_of_lt (lt_size_of_reached loaded))]

end Ledger

/-- A category that is parked waits behind those that wait for the same name. -/
theorem parkedFor_park (registry : Registry) (category : Category) (name : String) :
    (registry.countCategory.park category).parkedFor name =
      registry.parkedFor name ++ if category.className = name then [category] else [] := by
  rw [parkedFor, park, List.filter_append]
  by_cases same : category.className = name <;> simp [same, parkedFor, countCategory]

namespace Ledger

/-- A category whose class is not loaded may wait. -/
theorem park (ledger : registry.Ledger table registered) (formed : registry.Formed)
    {category : Category} {decl : CategoryDecl}
    (realizes : category.Realizes table registry.categoryCount decl)
    (early : ∀ id, registry.find? decl.className = some id →
      registry.reached id .loaded = false) :
    (registry.countCategory.park category).Ledger table (registered ++ [decl]) where
  count := by
    rw [List.length_append, ← ledger.count]
    rfl
  held name := by
    rw [parkedFor_park, CategoryDecl.forName_append, ← List.append_assoc, realizes.className]
    refine List.rel_append (ledger.held name) ?_
    split
    · exact .cons (ledger.count ▸ realizes) .nil
    · exact .nil
  early := ledger.early
  late id loaded := by
    change registry.reached id .loaded = true at loaded
    change (registry.countCategory.park category).parkedFor (registry.entry id).name = []
    have named := (formed.named _ id).mpr ⟨lt_size_of_reached loaded, rfl⟩
    have other : decl.className ≠ (registry.entry id).name := by
      intro same
      rw [early id (same ▸ named)] at loaded
      cases loaded
    rw [parkedFor_park, realizes.className, if_neg other, List.append_nil]
    exact ledger.late id loaded

end Ledger

/-- A category that is attached comes last in its class. -/
theorem entry_attach (registry : Registry) {id : ClassId} (inside : id < registry.size)
    (category : Category) (other : ClassId) :
    (registry.countCategory.attach id category).entry other =
      { registry.entry other with
        categories :=
          (registry.entry other).categories ++ if id = other then [category] else [] } := by
  rw [Registry.attach]
  by_cases same : id = other
  · subst same
    rw [if_pos rfl]
    exact registry.countCategory.entry_modify_same _ inside
  · rw [if_neg same, List.append_nil]
    exact registry.countCategory.entry_modify_of_ne _ same

namespace Ledger

/-- A category may be attached to its class when that is loaded. -/
theorem attach (ledger : registry.Ledger table registered) (formed : registry.Formed)
    {category : Category} {decl : CategoryDecl} {id : ClassId}
    (realizes : category.Realizes table registry.categoryCount decl)
    (found : registry.find? decl.className = some id)
    (loaded : registry.reached id .loaded = true) :
    (registry.countCategory.attach id category).Ledger table (registered ++ [decl]) := by
  obtain ⟨inside, named⟩ := (formed.named _ id).mp found
  have entries := registry.entry_attach inside category
  have stages : ∀ other goal, (registry.countCategory.attach id category).reached other goal =
      registry.reached other goal := by
    intro other goal
    rw [reached, stage, entries]
    rfl
  -- Nothing waits for the class, so the end of what is attached is the end of all.
  have nothing : registry.parkedFor decl.className = [] := named ▸ ledger.late id loaded
  refine ⟨?_, ?_, ?_, ?_⟩
  · rw [List.length_append, ← ledger.count]
    rfl
  · intro name
    have attached : (registry.countCategory.attach id category).attachedTo name =
        registry.attachedTo name ++ if decl.className = name then [category] else [] := by
      have sameFound : (registry.countCategory.attach id category).find? name =
          registry.find? name := rfl
      cases asked : registry.find? name with
      | none =>
        have other : decl.className ≠ name := by
          rintro rfl
          rw [found] at asked
          cases asked
        rw [attachedTo_of_none asked, attachedTo_of_none (sameFound.trans asked), if_neg other]
        rfl
      | some holder =>
        rw [attachedTo_of_find? asked, attachedTo_of_find? (sameFound.trans asked), entries]
        simp only [formed.found_eq_iff found asked]
    have held := ledger.held name
    change Category.Recorded table (_ ++ registry.parkedFor name) _
    rw [attached, CategoryDecl.forName_append]
    by_cases same : decl.className = name
    · rw [← same, nothing, List.append_nil] at held ⊢
      rw [if_pos rfl, if_pos rfl]
      exact List.rel_append held (.cons (ledger.count ▸ realizes) .nil)
    · rw [if_neg same, if_neg same, List.append_nil, List.append_nil]
      exact held
  · intro other early
    rw [stages] at early
    have different : id ≠ other := by
      rintro rfl
      rw [early] at loaded
      cases loaded
    rw [entries, if_neg different, ledger.early other early]
    rfl
  · intro other late
    rw [stages] at late
    rw [entries]
    exact ledger.late other late

/-- A class may change in what is neither its name nor its categories nor that it is loaded. -/
theorem modify (ledger : registry.Ledger table registered) (target : ClassId)
    (change : ClassEntry → ClassEntry)
    (name : (change (registry.entry target)).name = (registry.entry target).name)
    (categories : (change (registry.entry target)).categories =
      (registry.entry target).categories)
    (loaded : (change (registry.entry target)).stage.inst.reached .loaded =
      registry.reached target .loaded) :
    (registry.modify target change).Ledger table registered := by
  have all := registry.field_modify target change ClassEntry.categories categories
  exact ledger.alter (.refl table) rfl (attachedTo_congr (fun _ => rfl) all) rfl
    (registry.field_modify target change (·.stage.inst.reached .loaded) loaded) all
    fun id _ => registry.field_modify target change ClassEntry.name name id

end Ledger

/-- What waits for other classes than the one that is raised goes on waiting. -/
theorem parkedFor_raise {id : ClassId} (raisable : registry.Raisable id) (name : String) :
    (registry.raise id).parkedFor name =
      if (registry.entry id).name = name then [] else registry.parkedFor name := by
  have linkedName : ((registry.link id).entry id).name = (registry.entry id).name := by
    rw [entry_link_same raisable.inside raisable.proper]
    rfl
  have parked : (registry.raise id).parked =
      registry.parked.filter (·.className != (registry.entry id).name) := by
    rw [raise, absorb, linkedName, parked_link]
  rw [parkedFor, parked, List.filter_filter, parkedFor]
  split
  · rename_i same
    subst same
    refine List.filter_eq_nil_iff.mpr fun category _ => ?_
    simp
  · rename_i other
    refine List.filter_congr fun category _ => ?_
    by_cases same : category.className = name
    · simp [same, Ne.symm other]
    · simp [same]

/-- A class that is raised gets what waited for it, behind what it has. -/
theorem categories_raise {id : ClassId} (raisable : registry.Raisable id) (other : ClassId) :
    ((registry.raise id).entry other).categories = (registry.entry other).categories ++
      if id = other then registry.parkedFor (registry.entry id).name else [] := by
  by_cases same : id = other
  · subst same
    rw [entry_raise_same raisable.inside raisable.proper, if_pos rfl]
    rfl
  · rw [entry_raise_of_ne same, if_neg same, List.append_nil]
    split <;> rfl

namespace Ledger

/-- Raising a class attaches what waited for it. -/
theorem raise (ledger : registry.Ledger table registered) (formed : registry.Formed)
    {id : ClassId} (raisable : registry.Raisable id) :
    (registry.raise id).Ledger table registered := by
  have named := (formed.named _ id).mpr ⟨raisable.inside, rfl⟩
  have categories := categories_raise raisable
  have loaded : ∀ other, (registry.raise id).reached other .loaded =
      if other = id then true else registry.reached other .loaded := by
    intro other
    rw [reached, raisable.stage]
    split <;> rfl
  refine ⟨(categoryCount_link id).trans ledger.count, ?_, ?_, ?_⟩
  · intro name
    have held := ledger.held name
    cases found : registry.find? name with
    | none =>
      have other : (registry.entry id).name ≠ name := by
        rintro rfl
        rw [named] at found
        cases found
      rw [attachedTo_of_none found] at held
      rw [attachedTo_of_none ((find?_raise id name).trans found), parkedFor_raise raisable,
        if_neg other]
      exact held
    | some holder =>
      rw [attachedTo_of_find? found] at held
      rw [attachedTo_of_find? ((find?_raise id name).trans found), parkedFor_raise raisable,
        categories]
      by_cases same : id = holder
      · have sameName := (formed.found_eq_iff named found).mp same
        rw [if_pos same, if_pos sameName, List.append_nil, sameName]
        exact held
      · have otherName := fun equal => same ((formed.found_eq_iff named found).mpr equal)
        rw [if_neg same, if_neg otherName, List.append_nil]
        exact held
  · intro other early
    rw [loaded] at early
    split at early
    · cases early
    · rename_i different
      rw [categories, if_neg (Ne.symm different), List.append_nil, ledger.early other early]
  · intro other late
    rw [loaded] at late
    rw [(raisable.names other).1, parkedFor_raise raisable]
    split at late
    · rename_i same
      rw [same, if_pos rfl]
    · split
      · rfl
      · exact ledger.late other late

end Ledger

end Registry

/-- The categories of an image record all registrations. -/
abbrev Image.Ledger [NameHash] (image : Image) (registered : List CategoryDecl) : Prop :=
  image.registry.Ledger image.selectors registered

namespace Draft

variable [NameHash] {before after : Draft} {registered : List CategoryDecl}

/-- An arriving category is entered at the end, and nothing else is entered. -/
theorem Takes.ledger {arrival : Arrival} (takes : before.Takes arrival after)
    (formed : before.image.registry.Formed) (ledger : before.image.Ledger registered) :
    after.image.Ledger (registered ++ arrival.category?.toList) := by
  unfold Image.Ledger at ledger ⊢
  cases takes with
  | signature image _ =>
    simp only [image, Arrival.category?, Option.toList_none, List.append_nil]
    exact ledger.alter (SelectorTable.extends_intern _) rfl (fun _ => rfl) rfl (fun _ => rfl)
      (fun _ => rfl) fun _ _ => rfl
  | newClass fresh _ image _ =>
    simp only [image, Arrival.category?, Option.toList_none, List.append_nil]
    exact ledger.push fresh
  | waiting realizes early image _ =>
    simp only [image]
    exact ledger.park formed realizes early
  | attached realizes found loaded image bare _ =>
    have selectors : after.image.selectors = before.image.selectors := by
      rw [image]
    rw [selectors]
    exact (ledger.attach formed realizes found loaded).of_bare bare
  | newMethod image bare _ =>
    have selectors : after.image.selectors = before.image.selectors := by
      rw [image]
    simp only [selectors, Arrival.category?, Option.toList_none, List.append_nil]
    exact (ledger.modify _ _ rfl rfl rfl).of_bare bare

/-- What arrives is entered in the ledger, in order. -/
theorem TakesIn.ledger {arrivals : List Arrival} (taken : before.TakesIn arrivals after)
    (formed : before.image.registry.Formed) (ledger : before.image.Ledger registered) :
    after.image.Ledger (registered ++ arrivals.filterMap Arrival.category?) := by
  induction taken generalizing registered with
  | none draft reports =>
    rw [List.filterMap_nil, List.append_nil]
    exact ledger
  | @first draft next after arrival rest takes sound _ _ inductionHypothesis =>
    have entered := inductionHypothesis sound.formed (takes.ledger formed ledger)
    rw [List.append_assoc] at entered
    rw [List.filterMap_cons]
    cases given : arrival.category? with
    | none =>
      rw [given] at entered
      exact entered
    | some decl =>
      rw [given] at entered
      exact entered

/-- Building tables leaves the ledger alone. -/
theorem Retabled.ledger (retabled : before.Retabled after)
    (ledger : before.image.Ledger registered) : after.image.Ledger registered := by
  have selectors : after.image.selectors = before.image.selectors := by
    rw [retabled.image]
  unfold Image.Ledger
  rw [selectors]
  exact ledger.of_bare retabled.bare

/-- Raising a class moves its categories from waiting to attached, which the ledger does not tell
    apart. -/
theorem Raised.ledger {id : ClassId} (raised : before.Raised id after)
    (formed : before.image.registry.Formed) (ledger : before.image.Ledger registered) :
    after.image.Ledger registered := by
  have selectors : after.image.selectors = before.image.selectors := by
    rw [raised.image]
  unfold Image.Ledger
  rw [selectors]
  exact (ledger.raise formed raised.raisable).of_bare raised.bare

/-- So does raising several. -/
theorem Raises.ledger {order : List ClassId} (raises : before.Raises order after)
    (formed : before.image.registry.Formed) (ledger : before.image.Ledger registered) :
    after.image.Ledger registered := by
  induction raises with
  | none draft => exact ledger
  | first raised _ inductionHypothesis =>
    exact inductionHypothesis raised.sound.formed (raised.ledger formed ledger)

/-- An edit enters the categories that arrived with it, in order. -/
theorem Amends.ledger {arrivals : List Arrival} {order : List ClassId}
    (amends : before.Amends arrivals order after) (sound : before.image.registry.Sound)
    (ledger : before.image.Ledger registered) :
    after.image.Ledger (registered ++ arrivals.filterMap Arrival.category?) := by
  obtain ⟨entered, settled, taken, raises, retabled, -⟩ := amends
  have enteredSound := (taken.kept sound).1
  exact retabled.ledger (raises.ledger enteredSound.formed (taken.ledger sound.formed ledger))

end Draft

end LateBinding
