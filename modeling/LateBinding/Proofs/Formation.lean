import LateBinding.Proofs.Ascent
import LateBinding.Proofs.Changes

/-!
# Well-formed registries

A registry is formed if names and numbers agree, if every class is either registered or at
least loaded and linked to the superclass it declares, if the lists of subclasses mirror the
links of loaded classes, and if every selector in it can be the key of a table. These
conditions do not look at tables.

The one change that links classes is `raise`: it sets up and loads a class at once. The
classes below a class are linked after it, so nothing is linked to the class that is
raised, and raising adds one edge to the forest of links. A class that is too large to be
raised gets its link all the same. It is in no list then, and where there is no such class the
registry is loose.
-/

namespace LateBinding

/-- Every selector of the methods can be the key of a table. -/
def Method.Issued (methods : List Method) : Prop :=
  ∀ method ∈ methods, method.selector < SparseMap.capacity

/-- Every selector that a category declares can be the key of a table. -/
def Category.Issued (category : Category) : Prop :=
  ∀ side, Method.Issued (category.methods.get side)

/-- Every selector that a class or one of its categories declares can be the key of a
    table. -/
structure ClassEntry.Issued (entry : ClassEntry) : Prop where
  methods : ∀ side, Method.Issued (entry.methods.get side)
  categories : ∀ category ∈ entry.categories, category.Issued

/-- What a side declares, its categories included, has issued selectors. -/
theorem ClassEntry.Issued.declarations {entry : ClassEntry} (issued : entry.Issued) (side : Side) :
    Method.Issued (entry.declarations side) := by
  intro method member
  rcases List.mem_append.mp member with own | attached
  · exact issued.methods side method own
  · obtain ⟨category, present, declared⟩ := List.mem_flatMap.mp attached
    exact issued.categories category present side method declared

/-- A class may be given more categories. -/
theorem ClassEntry.Issued.extend {entry after : ClassEntry} (issued : entry.Issued)
    {more : List Category} (moreIssued : ∀ category ∈ more, category.Issued)
    (methods : after.methods = entry.methods)
    (categories : after.categories = entry.categories ++ more) : after.Issued := by
  refine ⟨methods ▸ issued.methods, ?_⟩
  intro category member
  rw [categories, List.mem_append] at member
  exact member.elim (issued.categories category) (moreIssued category)

namespace Registry

/-- The names, links and selectors of a registry are in order. -/
structure Formed (registry : Registry) : Prop where
  /-- Names lead to the numbers of the classes that have them. -/
  named : ∀ name id, registry.find? name = some id ↔
    id < registry.size ∧ (registry.entry id).name = name
  /-- Both sides of a class are at one stage. -/
  level : ∀ id, (registry.entry id).stage.metaclass = registry.stage id
  /-- A class that is only registered is linked as it declares, if it is linked. -/
  tied : ∀ id above, registry.stage id = .registered →
    (registry.entry id).superclass = some above → registry.declaredSuper? id = some above
  /-- Any other class is loaded and linked as it declares, and its names lead to a root. -/
  linked : ∀ id, registry.stage id ≠ .registered →
    registry.reached id .loaded = true ∧
      (registry.entry id).superclass = registry.declaredSuper? id ∧
      ∃ path, registry.Ascent id path
  /-- Classes are linked to loaded classes only. -/
  supported : ∀ id above, (registry.entry id).superclass = some above →
    registry.reached above .loaded = true
  /-- The lists of subclasses say what the links of loaded classes say. -/
  mirrored : ∀ above id, id ∈ (registry.entry above).subclasses ↔
    (registry.entry id).superclass = some above ∧ registry.reached id .loaded = true
  /-- No class is listed twice below another. -/
  once : ∀ above, (registry.entry above).subclasses.Nodup
  issued : ∀ id, (registry.entry id).Issued
  parkedIssued : ∀ category ∈ registry.parked, category.Issued

/-- No class that is only registered is linked. -/
def Loose (registry : Registry) : Prop :=
  ∀ id, registry.stage id = .registered → (registry.entry id).superclass = none

/-- A number without a class counts as registered. -/
theorem stage_of_size_le {registry : Registry} {id : ClassId} (outside : registry.size ≤ id) :
    registry.stage id = .registered := by
  rw [stage, entry_of_size_le registry outside]
  rfl

/-- A class that is loaded is registered no more. -/
theorem stage_ne_registered_of_reached {registry : Registry} {id : ClassId}
    (loaded : registry.reached id .loaded = true) : registry.stage id ≠ .registered := by
  intro registered
  rw [reached, registered] at loaded
  cases loaded

/-- A class that is loaded is there. -/
theorem lt_size_of_reached {registry : Registry} {id : ClassId}
    (loaded : registry.reached id .loaded = true) : id < registry.size := by
  by_contra outside
  exact stage_ne_registered_of_reached loaded (stage_of_size_le (Nat.le_of_not_lt outside))

namespace Formed

variable {registry : Registry}

/-- What is found under a name is there. -/
theorem lt_of_find? (formed : registry.Formed) (name : String) (id : ClassId)
    (found : registry.find? name = some id) : id < registry.size :=
  ((formed.named name id).mp found).1

/-- Two names lead to one class exactly if they are the same. -/
theorem found_eq_iff (formed : registry.Formed) {name other : String} {id otherId : ClassId}
    (found : registry.find? name = some id) (otherFound : registry.find? other = some otherId) :
    id = otherId ↔ name = other := by
  constructor
  · rintro rfl
    rw [← ((formed.named name id).mp found).2, ((formed.named other id).mp otherFound).2]
  · rintro rfl
    rw [found] at otherFound
    exact Option.some.inj otherFound

/-- A class is registered or loaded, and nothing in between. -/
theorem registered_or_loaded (formed : registry.Formed) (id : ClassId) :
    registry.stage id = .registered ∨ registry.reached id .loaded = true := by
  by_cases registered : registry.stage id = .registered
  · exact .inl registered
  · exact .inr (formed.linked id registered).1

/-- The stage of a class is known from whether it is loaded and whether it is initialized. -/
theorem stage_eq (formed : registry.Formed) (id : ClassId) :
    registry.stage id = if registry.reached id .initialized then .initialized
      else if registry.reached id .loaded then .loaded else .registered := by
  rcases formed.registered_or_loaded id with registered | loaded
  · rw [reached, reached, registered]
    rfl
  · revert loaded
    rw [reached, reached]
    cases registry.stage id <;> decide

/-- A loaded class is linked as it declares. -/
theorem superclass_of_loaded (formed : registry.Formed) {id : ClassId}
    (loaded : registry.reached id .loaded = true) :
    (registry.entry id).superclass = registry.declaredSuper? id :=
  (formed.linked id (stage_ne_registered_of_reached loaded)).2.1

/-- In a loose registry a loaded class is linked as it declares, and no other class is linked. -/
theorem link_eq (formed : registry.Formed) (loose : registry.Loose) (id : ClassId) :
    (registry.entry id).superclass =
      if registry.reached id .loaded then registry.declaredSuper? id else none := by
  rcases formed.registered_or_loaded id with registered | loaded
  · rw [loose id registered, reached, registered]
    rfl
  · rw [(formed.linked id (stage_ne_registered_of_reached loaded)).2.1, if_pos loaded]

/-- Where no link is ahead of its class, a class with a link is loaded. -/
theorem loaded_of_superclass (formed : registry.Formed) (loose : registry.Loose)
    {id above : ClassId} (link : (registry.entry id).superclass = some above) :
    registry.reached id .loaded = true := by
  rcases formed.registered_or_loaded id with registered | loaded
  · rw [loose id registered] at link
    cases link
  · exact loaded

/-- A class that is linked is linked as it declares. -/
theorem declaredSuper?_of_superclass (formed : registry.Formed) {id above : ClassId}
    (link : (registry.entry id).superclass = some above) :
    registry.declaredSuper? id = some above := by
  rcases formed.registered_or_loaded id with registered | loaded
  · exact formed.tied id above registered link
  · rw [← formed.superclass_of_loaded loaded, link]

/-- A class with a link is there. -/
theorem lt_size_of_superclass {id above : ClassId}
    (link : (registry.entry id).superclass = some above) : id < registry.size := by
  by_contra outside
  rw [entry_of_size_le registry (Nat.le_of_not_lt outside)] at link
  cases link

/-- The class above a linked class is the next one on its path. -/
theorem ascent_above (formed : registry.Formed) {id above : ClassId} {path : List ClassId}
    (link : (registry.entry id).superclass = some above) (ascent : registry.Ascent id path) :
    ∃ rest, path = id :: rest ∧ registry.Ascent above rest := by
  have declaredSuper := formed.declaredSuper?_of_superclass link
  rw [declaredSuper?] at declaredSuper
  cases ascent with
  | root declared => rw [declared] at declaredSuper; cases declaredSuper
  | step declared found rest =>
    rw [declared, Option.bind_some, found, Option.some.injEq] at declaredSuper
    subst declaredSuper
    exact ⟨_, rfl, rest⟩

/-- The names of a linked class lead to a root. -/
theorem rooted_of_superclass (formed : registry.Formed) {id above : ClassId}
    (link : (registry.entry id).superclass = some above) : ∃ path, registry.Ascent id path := by
  have loaded := formed.supported id above link
  obtain ⟨-, -, path, ascent⟩ := formed.linked above (stage_ne_registered_of_reached loaded)
  obtain ⟨name, declared, found⟩ :=
    Option.bind_eq_some_iff.mp (formed.declaredSuper?_of_superclass link)
  exact ⟨id :: path, .step declared found ascent⟩

/-- All classes above a loaded class are loaded. -/
theorem loaded_of_mem (formed : registry.Formed) {id : ClassId} {path : List ClassId}
    (ascent : registry.Ascent id path) (loaded : registry.reached id .loaded = true) :
    ∀ passed ∈ path, registry.reached passed .loaded = true := by
  induction ascent with
  | root declared =>
    intro passed member
    rw [List.mem_singleton] at member
    exact member ▸ loaded
  | @step id above name path declared found rest inductionHypothesis =>
    have declaredSuper := (formed.linked id (stage_ne_registered_of_reached loaded)).2.1
    have link : (registry.entry id).superclass = some above := by
      rw [declaredSuper, declaredSuper?, declared, Option.bind_some, found]
    intro passed member
    rcases List.mem_cons.mp member with same | later
    · exact same ▸ loaded
    · exact inductionHypothesis (formed.supported id above link) passed later

end Formed

/-- A class that is not there has no methods. -/
theorem issued_default : (default : ClassEntry).Issued where
  methods side method member := by cases side <;> cases member
  categories category member := by cases member

/-- The registry without classes is formed. -/
theorem formed_empty : empty.Formed := by
  have vacant : ∀ id, empty.entry id = default := fun id => entry_of_size_le _ (Nat.zero_le id)
  exact {
    named := indexed_empty
    level := fun id => by rw [stage, vacant]; rfl
    tied := fun id above _ link => by rw [vacant] at link; cases link
    linked := fun id awake => absurd (stage_of_size_le (Nat.zero_le id)) awake
    supported := fun id above link => by rw [vacant] at link; cases link
    mirrored := fun above id => by
      rw [vacant, vacant]
      exact ⟨fun member => (List.not_mem_nil member).elim, fun link => by cases link.1⟩
    once := fun above => by rw [vacant]; exact List.nodup_nil
    issued := fun id => vacant id ▸ issued_default
    parkedIssued := fun category member => (List.not_mem_nil member).elim }

end Registry

/-- A class goes on as before in its names and links, and at a stage that is registered
    only if it was, and loaded if it was. -/
structure ClassEntry.Continues (before after : ClassEntry) : Prop where
  name : after.name = before.name
  superName : after.superName = before.superName
  superclass : after.superclass = before.superclass
  subclasses : after.subclasses = before.subclasses
  level : before.stage.metaclass = before.stage.inst → after.stage.metaclass = after.stage.inst
  registered : after.stage.inst = .registered ↔ before.stage.inst = .registered
  loaded : before.stage.inst.reached .loaded = true → after.stage.inst.reached .loaded = true

/-- A class continues itself. -/
theorem ClassEntry.Continues.refl (entry : ClassEntry) : entry.Continues entry :=
  ⟨rfl, rfl, rfl, rfl, id, Iff.rfl, id⟩

namespace Registry

variable {registry : Registry}

/-- A registry stays formed when all of its classes go on in their names and links. -/
theorem Formed.alter (formed : registry.Formed) {after : Registry}
    (sameSize : after.size = registry.size)
    (sameFound : ∀ name, after.find? name = registry.find? name)
    (continues : ∀ id, (registry.entry id).Continues (after.entry id))
    (issued : ∀ id, (after.entry id).Issued)
    (parkedIssued : ∀ category ∈ after.parked, category.Issued) : after.Formed := by
  have sameSuper : ∀ id, after.declaredSuper? id = registry.declaredSuper? id := by
    intro id
    rw [declaredSuper?, declaredSuper?, (continues id).superName]
    exact congrArg _ (funext sameFound)
  exact {
    named := fun name id => by
      rw [sameFound, sameSize, (continues id).name]
      exact formed.named name id
    level := fun id => (continues id).level (formed.level id)
    tied := fun id above still link => by
      rw [(continues id).superclass] at link
      rw [sameSuper]
      exact formed.tied id above ((continues id).registered.mp still) link
    linked := fun id awake => by
      have wasAwake : registry.stage id ≠ .registered :=
        fun registered => awake ((continues id).registered.mpr registered)
      obtain ⟨loaded, link, path, ascent⟩ := formed.linked id wasAwake
      refine ⟨(continues id).loaded loaded, ?_, path, ?_⟩
      · rw [(continues id).superclass, link, sameSuper]
      · exact ascent.transfer (fun passed _ => (continues passed).superName)
          (fun name above found => by rw [sameFound, found])
    supported := fun id above link => by
      rw [(continues id).superclass] at link
      exact (continues above).loaded (formed.supported id above link)
    mirrored := fun above id => by
      rw [(continues above).subclasses, (continues id).superclass, formed.mirrored above id]
      refine and_congr_right fun _ => ⟨(continues id).loaded, fun loaded => ?_⟩
      rcases formed.registered_or_loaded id with registered | before
      · exact absurd ((continues id).registered.mpr registered)
          (stage_ne_registered_of_reached loaded)
      · exact before
    once := fun above => by
      rw [(continues above).subclasses]
      exact formed.once above
    issued := issued
    parkedIssued := parkedIssued }

/-- Tables have no part in whether a registry is formed. -/
theorem Formed.of_bare (formed : registry.Formed) {after : Registry}
    (same : after.bare = registry.bare) : after.Formed := by
  apply formed.alter (size_of_bare same) (find?_of_bare same)
  · intro id
    have stages := field_of_bare same ClassEntry.stage (fun _ => rfl) id
    exact {
      name := field_of_bare same ClassEntry.name (fun _ => rfl) id
      superName := field_of_bare same ClassEntry.superName (fun _ => rfl) id
      superclass := field_of_bare same ClassEntry.superclass (fun _ => rfl) id
      subclasses := field_of_bare same ClassEntry.subclasses (fun _ => rfl) id
      level := fun level => by rw [stages, level]
      registered := by rw [stages]
      loaded := fun loaded => by rw [stages, loaded] }
  · intro id
    have methods := field_of_bare same ClassEntry.methods (fun _ => rfl) id
    have categories := field_of_bare same ClassEntry.categories (fun _ => rfl) id
    exact ⟨by rw [methods]; exact (formed.issued id).methods,
      by rw [categories]; exact (formed.issued id).categories⟩
  · rw [parked_of_bare same]
    exact formed.parkedIssued

/-- A registry stays formed when one of its classes goes on in its names and links. -/
theorem Formed.modify (formed : registry.Formed) (id : ClassId)
    (change : ClassEntry → ClassEntry)
    (continues : (registry.entry id).Continues (change (registry.entry id)))
    (issued : (change (registry.entry id)).Issued) : (registry.modify id change).Formed := by
  refine formed.alter (size_modify _ _ _) (find?_modify _ _ _) ?_ ?_ formed.parkedIssued
  · intro other
    rw [entry_modify]
    split
    · rename_i same
      exact same.1 ▸ continues
    · exact .refl _
  · intro other
    rw [entry_modify]
    split
    · rename_i same
      exact same.1 ▸ issued
    · exact formed.issued other

/-- A category can be parked. -/
theorem Formed.park (formed : registry.Formed) {category : Category} (issued : category.Issued) :
    (registry.park category).Formed := by
  refine formed.alter rfl (fun _ => rfl) (fun _ => .refl _) formed.issued ?_
  intro other member
  rcases List.mem_append.mp member with before | new
  · exact formed.parkedIssued other before
  · rw [List.mem_singleton] at new
    exact new ▸ issued

/-- Counting categories touches no class. -/
theorem Formed.countCategory (formed : registry.Formed) : registry.countCategory.Formed :=
  formed.alter rfl (fun _ => rfl) (fun _ => .refl _) formed.issued formed.parkedIssued

/-- Registering a class leaves the paths of loaded classes as they are. -/
theorem Formed.ascent_push (formed : registry.Formed) (new : ClassEntry)
    (fresh : registry.find? new.name = none) {id : ClassId} {path : List ClassId}
    (inside : id < registry.size) (ascent : registry.Ascent id path) :
    (registry.push new).Ascent id path := by
  apply ascent.transfer
  · intro passed member
    have older := ascent.inside formed.lt_of_find? inside passed member
    rw [entry_push_of_ne _ _ (Nat.ne_of_lt older)]
  · intro name above found
    exact find?_push_of_found _ fresh found

/-- A new class under a name that is not taken changes nothing for classes that have a
    path. -/
theorem declaredSuper?_push {new : ClassEntry} (fresh : registry.find? new.name = none)
    {id : ClassId} {path : List ClassId} (inside : id < registry.size)
    (ascent : registry.Ascent id path) :
    (registry.push new).declaredSuper? id = registry.declaredSuper? id := by
  rw [declaredSuper?, declaredSuper?, entry_push_of_ne _ _ (Nat.ne_of_lt inside)]
  cases ascent with
  | root declared =>
    rw [declared]
    rfl
  | step declared found rest =>
    rw [declared, Option.bind_some, Option.bind_some, found, find?_push_of_found _ fresh found]

/-- A class can be registered under a name that is not taken. -/
theorem Formed.push (formed : registry.Formed) {name : String} {superName : Option String}
    {declaredSize : Nat} {methods : BySide (List Method)} (fresh : registry.find? name = none)
    (issued : ∀ side, Method.Issued (methods.get side)) :
    (registry.push (.declared name superName declaredSize methods)).Formed := by
  let new := ClassEntry.declared name superName declaredSize methods
  have stages : ∀ id, (registry.push new).stage id = registry.stage id :=
    registry.field_push (·.stage.inst) new rfl
  have metaclasses : ∀ id, ((registry.push new).entry id).stage.metaclass =
      (registry.entry id).stage.metaclass :=
    registry.field_push (·.stage.metaclass) new rfl
  have links : ∀ id, ((registry.push new).entry id).superclass = (registry.entry id).superclass :=
    registry.field_push ClassEntry.superclass new rfl
  have lists : ∀ id, ((registry.push new).entry id).subclasses = (registry.entry id).subclasses :=
    registry.field_push ClassEntry.subclasses new rfl
  exact {
    named := Indexed.push formed.named fresh
    level := by
      intro id
      rw [stages, metaclasses]
      exact formed.level id
    -- A link is on a path that exists already, so the new name is on none of them.
    tied := by
      intro id above still link
      rw [stages] at still
      rw [links] at link
      obtain ⟨path, ascent⟩ := formed.rooted_of_superclass link
      rw [declaredSuper?_push fresh (lt_size_of_superclass link) ascent]
      exact formed.tied id above still link
    linked := by
      intro id awake
      rw [stages] at awake
      obtain ⟨loaded, link, path, ascent⟩ := formed.linked id awake
      have inside := lt_size_of_reached loaded
      refine ⟨by rw [reached, stages]; exact loaded, ?_, path, ?_⟩
      · rw [links, link, declaredSuper?_push fresh inside ascent]
      · exact formed.ascent_push new fresh inside ascent
    supported := by
      intro id above link
      rw [links] at link
      rw [reached, stages]
      exact formed.supported id above link
    mirrored := by
      intro above id
      rw [lists, links, reached, stages]
      exact formed.mirrored above id
    once := by
      intro above
      rw [lists]
      exact formed.once above
    issued := by
      intro id
      by_cases last : id = registry.size
      · rw [last, entry_push_size]
        exact ⟨issued, fun category member => by cases member⟩
      · rw [entry_push_of_ne _ _ last]
        exact formed.issued id
    parkedIssued := formed.parkedIssued }

/-- Sets up and loads a class. -/
def raise (registry : Registry) (id : ClassId) : Registry := (registry.link id).absorb id

/-- What raising makes of the class itself. -/
def raised (registry : Registry) (id : ClassId) : ClassEntry :=
  { ((registry.entry id).advance .setUp).advance .loaded with
    superclass := registry.declaredSuper? id
    size := registry.fullSize id
    categories := (registry.entry id).categories ++ registry.parkedFor (registry.entry id).name }

/-- Linking adds no class. -/
theorem size_link (id : ClassId) : (registry.link id).size = registry.size := by
  unfold link addSubclass
  split <;> simp

/-- It changes no name. -/
theorem find?_link (id : ClassId) (name : String) :
    (registry.link id).find? name = registry.find? name := by
  unfold link addSubclass
  split <;> rfl

/-- What waits goes on waiting. -/
theorem parked_link (id : ClassId) : (registry.link id).parked = registry.parked := by
  unfold link addSubclass
  split <;> rfl

/-- Categories are counted when they are registered. -/
theorem categoryCount_link (id : ClassId) :
    (registry.link id).categoryCount = registry.categoryCount := by
  unfold link addSubclass
  split <;> rfl

/-- Raising a class adds none. -/
@[simp] theorem size_raise (id : ClassId) : (registry.raise id).size = registry.size :=
  (size_modify _ _ _).trans (size_link id)

/-- It changes no name. -/
@[simp] theorem find?_raise (id : ClassId) (name : String) :
    (registry.raise id).find? name = registry.find? name :=
  find?_link id name

/-- The class linked: the entry that the second half of raising starts from. -/
theorem entry_link_same {id : ClassId} (inside : id < registry.size)
    (proper : registry.declaredSuper? id ≠ some id) :
    (registry.link id).entry id =
      { (registry.entry id).advance .setUp with
        superclass := registry.declaredSuper? id
        size := registry.fullSize id } := by
  unfold link addSubclass
  split
  · rename_i above declared
    have different : above ≠ id := fun same => proper (same ▸ declared)
    rw [entry_modify_of_ne _ _ different, entry_modify_same _ _ inside]
  · rw [entry_modify_same _ _ inside]

/-- Of the other classes only the superclass learns of a link. -/
theorem entry_link_of_ne {id other : ClassId} (different : id ≠ other) :
    (registry.link id).entry other =
      if registry.declaredSuper? id = some other ∧ other < registry.size then
        { registry.entry other with subclasses := (registry.entry other).subclasses ++ [id] }
      else registry.entry other := by
  unfold link addSubclass
  split
  · rename_i above declared
    rw [entry_modify, size_modify, entry_modify_of_ne _ _ different, declared]
    simp only [Option.some.injEq]
  · rename_i declared
    rw [entry_modify_of_ne _ _ different, declared]
    simp

/-- A class that is raised is linked and loaded, and has what waited for it. -/
theorem entry_raise_same {id : ClassId} (inside : id < registry.size)
    (proper : registry.declaredSuper? id ≠ some id) :
    (registry.raise id).entry id = registry.raised id := by
  change ((registry.link id).modify id _).entry id = _
  rw [entry_modify_same _ _ (by rw [size_link]; exact inside), entry_link_same inside proper]
  simp only [raised, parkedFor, parked_link, ClassEntry.advance]

/-- Of the others only the superclass learns of it. -/
theorem entry_raise_of_ne {id other : ClassId} (different : id ≠ other) :
    (registry.raise id).entry other =
      if registry.declaredSuper? id = some other ∧ other < registry.size then
        { registry.entry other with subclasses := (registry.entry other).subclasses ++ [id] }
      else registry.entry other := by
  change ((registry.link id).modify id _).entry other = _
  rw [entry_modify_of_ne _ _ different, entry_link_of_ne different]

/-- When a class can be raised: it is registered, its names lead to a root, and the class
    above it is loaded. -/
structure Raisable (registry : Registry) (id : ClassId) : Prop where
  inside : id < registry.size
  registered : registry.stage id = .registered
  rooted : ∃ path, registry.Ascent id path
  supported : ∀ above, registry.declaredSuper? id = some above →
    registry.reached above .loaded = true

namespace Raisable

variable {id : ClassId}

/-- A class that can be raised is not its own superclass. -/
theorem proper (raisable : registry.Raisable id) : registry.declaredSuper? id ≠ some id :=
  fun same => stage_ne_registered_of_reached (raisable.supported id same) raisable.registered

/-- Raising leaves names as they are. -/
theorem names (raisable : registry.Raisable id) (other : ClassId) :
    ((registry.raise id).entry other).name = (registry.entry other).name ∧
      ((registry.raise id).entry other).superName = (registry.entry other).superName := by
  by_cases same : id = other
  · subst same
    rw [entry_raise_same raisable.inside raisable.proper, raised, ClassEntry.advance,
      ClassEntry.advance]
    exact ⟨rfl, rfl⟩
  · rw [entry_raise_of_ne same]
    split <;> exact ⟨rfl, rfl⟩

/-- Superclasses are found by name as before. -/
theorem declaredSuper? (raisable : registry.Raisable id) (other : ClassId) :
    (registry.raise id).declaredSuper? other = registry.declaredSuper? other := by
  rw [Registry.declaredSuper?, Registry.declaredSuper?, (raisable.names other).2]
  exact congrArg _ (funext (find?_raise id))

/-- So are the classes above. -/
theorem ascent (raisable : registry.Raisable id) {other : ClassId} {path : List ClassId}
    (ascent : registry.Ascent other path) : (registry.raise id).Ascent other path :=
  ascent.transfer (fun passed _ => (raisable.names passed).2)
    (fun name above found => by rw [find?_raise, found])

/-- Raising links the class as it declares and leaves the other links as they are. -/
theorem superclass (raisable : registry.Raisable id) (other : ClassId) :
    ((registry.raise id).entry other).superclass =
      if other = id then registry.declaredSuper? id else (registry.entry other).superclass := by
  by_cases same : id = other
  · subst same
    rw [entry_raise_same raisable.inside raisable.proper, if_pos rfl]
    rfl
  · rw [entry_raise_of_ne same, if_neg (Ne.symm same)]
    split <;> rfl

/-- Raising notes the class below the class it is linked to. -/
theorem subclasses (raisable : registry.Raisable id) (other : ClassId) :
    ((registry.raise id).entry other).subclasses =
      if registry.declaredSuper? id = some other then (registry.entry other).subclasses ++ [id]
      else (registry.entry other).subclasses := by
  by_cases same : id = other
  · subst same
    rw [entry_raise_same raisable.inside raisable.proper, if_neg raisable.proper, raised,
      ClassEntry.advance, ClassEntry.advance]
  · rw [entry_raise_of_ne same]
    by_cases declared : registry.declaredSuper? id = some other
    · have inside := lt_size_of_reached (raisable.supported other declared)
      rw [if_pos ⟨declared, inside⟩, if_pos declared]
    · rw [if_neg fun both => declared both.1, if_neg declared]

/-- The class is loaded, and the others are at their stages. -/
theorem stage (raisable : registry.Raisable id) (other : ClassId) :
    (registry.raise id).stage other = if other = id then .loaded else registry.stage other := by
  by_cases same : id = other
  · subst same
    have registered := raisable.registered
    rw [Registry.stage] at registered
    rw [Registry.stage, entry_raise_same raisable.inside raisable.proper, if_pos rfl]
    simp only [raised, ClassEntry.advance, BySide.map, registered]
    rfl
  · rw [Registry.stage, entry_raise_of_ne same, if_neg (Ne.symm same)]
    split <;> rfl

/-- No list has a class that is not loaded yet. -/
theorem unlisted (raisable : registry.Raisable id) (formed : registry.Formed) (above : ClassId) :
    id ∉ (registry.entry above).subclasses := by
  rw [formed.mirrored]
  exact fun listed => stage_ne_registered_of_reached listed.2 raisable.registered

/-- Classes that were loaded still are. -/
theorem reached_loaded (raisable : registry.Raisable id) {other : ClassId}
    (loaded : registry.reached other .loaded = true) :
    (registry.raise id).reached other .loaded = true := by
  rw [reached, raisable.stage]
  split
  · rfl
  · exact loaded

end Raisable

/-- A registry stays formed when a class is raised. -/
theorem Formed.raise (formed : registry.Formed) {id : ClassId} (raisable : registry.Raisable id) :
    (registry.raise id).Formed where
  named name other := by
    rw [find?_raise, size_raise, (raisable.names other).1]
    exact formed.named name other
  level other := by
    rw [raisable.stage]
    by_cases same : id = other
    · subst same
      have registered := (formed.level id).trans raisable.registered
      rw [entry_raise_same raisable.inside raisable.proper, if_pos rfl]
      simp only [raised, ClassEntry.advance, BySide.map, registered]
      rfl
    · have level := formed.level other
      rw [entry_raise_of_ne same, if_neg (Ne.symm same)]
      split <;> exact level
  tied other above still link := by
    rw [raisable.stage] at still
    by_cases same : other = id
    · rw [if_pos same] at still
      cases still
    · rw [if_neg same] at still
      rw [raisable.superclass, if_neg same] at link
      rw [raisable.declaredSuper?]
      exact formed.tied other above still link
  linked other awake := by
    rw [raisable.superclass, raisable.declaredSuper?]
    by_cases same : other = id
    · subst same
      obtain ⟨path, ascent⟩ := raisable.rooted
      refine ⟨?_, if_pos rfl, path, raisable.ascent ascent⟩
      rw [reached, raisable.stage, if_pos rfl]
      rfl
    · rw [raisable.stage, if_neg same] at awake
      obtain ⟨loaded, link, path, ascent⟩ := formed.linked other awake
      exact ⟨raisable.reached_loaded loaded, by rw [if_neg same, link], path,
        raisable.ascent ascent⟩
  supported other above link := by
    rw [raisable.superclass] at link
    apply raisable.reached_loaded
    by_cases same : other = id
    · rw [if_pos same] at link
      exact raisable.supported above link
    · rw [if_neg same] at link
      exact formed.supported other above link
  mirrored above other := by
    have before := formed.mirrored above other
    rw [raisable.subclasses, raisable.superclass, reached, raisable.stage]
    by_cases same : other = id
    · subst same
      have unlisted := raisable.unlisted formed above
      by_cases declared : registry.declaredSuper? other = some above
      · simp [declared, Stage.reached, Stage.rank]
      · simp [declared, unlisted]
    · rw [reached] at before
      by_cases declared : registry.declaredSuper? id = some above
      · simp [declared, same, before]
      · simp [declared, same, before]
  once above := by
    rw [raisable.subclasses]
    split
    · -- The class that is raised was not loaded, so no list has it.
      have unlisted := raisable.unlisted formed above
      refine List.nodup_append.mpr ⟨formed.once above, List.nodup_singleton id, ?_⟩
      intro other member last isLast same
      rw [List.mem_singleton] at isLast
      exact unlisted (isLast ▸ same ▸ member)
    · exact formed.once above
  issued other := by
    by_cases same : id = other
    · subst same
      rw [entry_raise_same raisable.inside raisable.proper]
      refine (formed.issued id).extend ?_ rfl rfl
      exact fun category waiting => formed.parkedIssued category (List.mem_filter.mp waiting).1
    · rw [entry_raise_of_ne same]
      split
      · exact ⟨(formed.issued other).methods, (formed.issued other).categories⟩
      · exact formed.issued other
  parkedIssued category member := by
    have waiting := (List.mem_filter.mp member).1
    rw [parked_link] at waiting
    exact formed.parkedIssued category waiting

/-- A registry stays formed when a class that could be raised is given its link only. -/
theorem Formed.tie (formed : registry.Formed) {id : ClassId} (raisable : registry.Raisable id) :
    (registry.tie id).Formed := by
  have stages : ∀ other, (registry.tie id).stage other = registry.stage other :=
    registry.field_modify id _ (·.stage.inst) rfl
  have metaclasses : ∀ other, ((registry.tie id).entry other).stage.metaclass =
      (registry.entry other).stage.metaclass :=
    registry.field_modify id _ (·.stage.metaclass) rfl
  have names : ∀ other, ((registry.tie id).entry other).name = (registry.entry other).name :=
    registry.field_modify id _ ClassEntry.name rfl
  have superNames : ∀ other, ((registry.tie id).entry other).superName =
      (registry.entry other).superName :=
    registry.field_modify id _ ClassEntry.superName rfl
  have lists : ∀ other, ((registry.tie id).entry other).subclasses =
      (registry.entry other).subclasses :=
    registry.field_modify id _ ClassEntry.subclasses rfl
  have supers : ∀ other, (registry.tie id).declaredSuper? other = registry.declaredSuper? other :=
    fun other => by
      rw [declaredSuper?, declaredSuper?, superNames]
      rfl
  have size : (registry.tie id).size = registry.size := size_modify _ _ _
  -- The link is all that changes, and the class that gets it is not loaded.
  have links : ∀ other, ((registry.tie id).entry other).superclass =
      if other = id then registry.declaredSuper? id else (registry.entry other).superclass := by
    intro other
    rw [Registry.tie]
    by_cases same : id = other
    · subst same
      rw [entry_modify_same _ _ raisable.inside, if_pos rfl]
    · rw [entry_modify_of_ne _ _ same, if_neg (Ne.symm same)]
  exact {
    named := fun name other => by
      rw [size, names]
      exact formed.named name other
    level := fun other => by
      rw [stages, metaclasses]
      exact formed.level other
    tied := fun other above still link => by
      rw [stages] at still
      rw [links] at link
      rw [supers]
      split at link
      · rename_i same
        rw [same, link]
      · exact formed.tied other above still link
    linked := fun other awake => by
      rw [stages] at awake
      obtain ⟨loaded, link, path, ascent⟩ := formed.linked other awake
      have different : other ≠ id := fun same => awake (same ▸ raisable.registered)
      refine ⟨by rw [reached, stages]; exact loaded, ?_, path, ?_⟩
      · rw [links, if_neg different, link, supers]
      · exact ascent.transfer (fun passed _ => superNames passed) fun _ _ found => found
    supported := fun other above link => by
      rw [links] at link
      rw [reached, stages]
      split at link
      · exact raisable.supported above link
      · exact formed.supported other above link
    -- Lists mention loaded classes only, so the new link is not missing from one.
    mirrored := fun above other => by
      rw [lists, links, reached, stages, formed.mirrored]
      split
      · rename_i same
        subst same
        have waits : (registry.stage other).reached .loaded = false := by
          rw [raisable.registered]
          rfl
        simp [reached, waits]
      · exact Iff.rfl
    once := fun above => by
      rw [lists]
      exact formed.once above
    issued := fun other => by
      rw [Registry.tie, entry_modify]
      split
      · exact ⟨(formed.issued other).methods, (formed.issued other).categories⟩
      · exact formed.issued other
    parkedIssued := formed.parkedIssued }

/-- A registry is loose if no link was made to a class that is still registered. -/
theorem Loose.of_links {after : Registry} (loose : registry.Loose)
    (links : ∀ id, (after.entry id).superclass = (registry.entry id).superclass)
    (stages : ∀ id, after.stage id = .registered → registry.stage id = .registered) :
    after.Loose :=
  fun id still => (links id).trans (loose id (stages id still))

/-- A registry stays loose when a class goes on in its name and links. -/
theorem Loose.modify (loose : registry.Loose) (id : ClassId) (change : ClassEntry → ClassEntry)
    (continues : (registry.entry id).Continues (change (registry.entry id))) :
    (registry.modify id change).Loose := by
  have links := registry.field_modify id change ClassEntry.superclass continues.superclass
  refine loose.of_links links fun other still => ?_
  rw [stage, entry_modify] at still
  split at still
  · rename_i same
    obtain ⟨rfl, -⟩ := same
    exact continues.registered.mp still
  · exact still

/-- Links do not depend on tables. -/
theorem Loose.of_bare {after : Registry} (loose : registry.Loose)
    (same : after.bare = registry.bare) : after.Loose :=
  loose.of_links (field_of_bare same ClassEntry.superclass fun _ => rfl) fun id =>
    (field_of_bare same (·.stage.inst) (fun _ => rfl) id).symm.trans

/-- Raising a class leaves a registry loose. -/
theorem Loose.raise (loose : registry.Loose) {id : ClassId} (raisable : registry.Raisable id) :
    (registry.raise id).Loose := by
  intro other still
  rw [raisable.stage] at still
  rw [raisable.superclass]
  by_cases same : other = id
  · rw [if_pos same] at still
    cases still
  · rw [if_neg same] at still
    rw [if_neg same]
    exact loose other still

end Registry

end LateBinding
