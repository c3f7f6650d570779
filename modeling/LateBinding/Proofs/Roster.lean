import LateBinding.Proofs.DueHooks
import LateBinding.Proofs.Programs

/-!
# The classes of an image

An image keeps every class as it was declared, under numbers in the order of registration,
as long as no method is replaced. The size of a class is what it declares itself and, once
the class is linked, the size of the class above it; a class is linked after the class above
it has its size, so no size has to be corrected later.

This is kept by whatever arrives and by raising a class. Together with the ledger of
categories it says what an image holds in terms of what was registered.
-/

namespace LateBinding

/-- The class that arrives, if it is one. -/
def Arrival.class? : Arrival → Option ClassDecl
  | .newClass decl => some decl
  | _ => none

/-- Whether what arrives takes the place of something declared before. -/
def Arrival.replaces : Arrival → Bool
  | .newMethod _ _ _ => true
  | _ => false

/-- With a class it arrives. -/
theorem ClassDecl.class?_arrivals (decl : ClassDecl) :
    decl.arrivals.filterMap Arrival.class? = [decl] :=
  Arrival.filterMap_signatures (fun _ => rfl) decl.sides (.newClass decl)

/-- With a category no class arrives. -/
theorem CategoryDecl.class?_arrivals (decl : CategoryDecl) :
    decl.arrivals.filterMap Arrival.class? = [] :=
  Arrival.filterMap_signatures (fun _ => rfl) decl.sides (.newCategory decl)

/-- Signatures replace nothing, so what arrives last decides. -/
theorem Arrival.replaces_signatures (decls : BySide (List MethodDecl)) {last : Arrival}
    (declares : last.replaces = false) :
    ∀ arrival ∈ signatures decls ++ [last], arrival.replaces = false := by
  intro arrival member
  rcases List.mem_append.mp member with early | late
  · obtain ⟨signature, -, rfl⟩ := List.mem_map.mp early
    rfl
  · rw [List.mem_singleton] at late
    rw [late, declares]

/-- What a class declares itself, apart from categories. -/
def ClassEntry.facts (entry : ClassEntry) : String × Option String × Nat × BySide (List Method) :=
  (entry.name, entry.superName, entry.declaredSize, entry.methods)

/-- A class is kept as it was declared. -/
def ClassEntry.Realizes {hash : String → Nat} (table : SelectorTable hash) (entry : ClassEntry)
    (decl : ClassDecl) : Prop :=
  ∃ methods, entry.facts = (decl.name, decl.superclass, decl.size, methods) ∧
    table.Spells methods decl.sides

/-- A class has the name that was declared. -/
theorem ClassEntry.Realizes.name {hash : String → Nat} {table : SelectorTable hash}
    {entry : ClassEntry} {decl : ClassDecl} (realizes : entry.Realizes table decl) :
    entry.name = decl.name := by
  obtain ⟨methods, facts, -⟩ := realizes
  exact congrArg Prod.fst facts

namespace Registry

/-- The size of a class is what it declares and the size of the class it is linked to. -/
def Sized (registry : Registry) : Prop :=
  ∀ id, (registry.entry id).size =
    ((registry.entry id).superclass.map fun above => (registry.entry above).size).getD 0 +
      (registry.entry id).declaredSize

variable {registry after : Registry}

/-- In an empty registry all sizes are right. -/
theorem sized_empty : empty.Sized := by
  intro id
  rw [entry_of_size_le empty (Nat.zero_le id)]
  rfl

/-- Sizes stay right where sizes and links stay. -/
theorem Sized.alter (sized : registry.Sized)
    (sizes : ∀ id, (after.entry id).size = (registry.entry id).size)
    (links : ∀ id, (after.entry id).superclass = (registry.entry id).superclass)
    (declared : ∀ id, (after.entry id).declaredSize = (registry.entry id).declaredSize) :
    after.Sized := by
  intro id
  simp only [sizes, links, declared]
  exact sized id

/-- Tables have no part in them. -/
theorem Sized.of_bare (sized : registry.Sized) (same : after.bare = registry.bare) :
    after.Sized :=
  sized.alter (field_of_bare same ClassEntry.size fun _ => rfl)
    (field_of_bare same ClassEntry.superclass fun _ => rfl)
    (field_of_bare same ClassEntry.declaredSize fun _ => rfl)

/-- Marks have no part in them. -/
theorem Sized.mark (sized : registry.Sized) {target : ClassId} {change : ClassEntry → ClassEntry}
    (kept : ∀ entry, change entry = { entry with
      stage := (change entry).stage
      initializing := (change entry).initializing }) : (registry.modify target change).Sized :=
  sized.alter (registry.field_modify target change ClassEntry.size (by rw [kept]))
    (registry.field_modify target change ClassEntry.superclass (by rw [kept]))
    (registry.field_modify target change ClassEntry.declaredSize (by rw [kept]))

/-- A new class is not linked and has the size it declares. -/
theorem Sized.push (sized : registry.Sized) (formed : registry.Formed) (name : String)
    (superName : Option String) (declaredSize : Nat) (methods : BySide (List Method)) :
    (registry.push (.declared name superName declaredSize methods)).Sized := by
  intro id
  by_cases last : id = registry.size
  · rw [last, entry_push_size]
    exact (Nat.zero_add declaredSize).symm
  · rw [entry_push_of_ne _ _ last, sized id]
    cases link : (registry.entry id).superclass with
    | none => rfl
    | some above =>
      have older := lt_size_of_reached (formed.supported id above link)
      rw [Option.map_some, Option.map_some, entry_push_of_ne _ _ (Nat.ne_of_lt older)]

/-- A class that is raised has its full size, and the others keep theirs. -/
theorem Raisable.size {id : ClassId} (raisable : registry.Raisable id) (other : ClassId) :
    ((registry.raise id).entry other).size =
      if other = id then registry.fullSize id else (registry.entry other).size := by
  by_cases same : id = other
  · subst same
    rw [entry_raise_same raisable.inside raisable.proper, if_pos rfl]
    rfl
  · rw [entry_raise_of_ne same, if_neg (Ne.symm same)]
    split <;> rfl

/-- What was declared stays. -/
theorem Raisable.declaredSize {id : ClassId} (raisable : registry.Raisable id) (other : ClassId) :
    ((registry.raise id).entry other).declaredSize = (registry.entry other).declaredSize := by
  by_cases same : id = other
  · subst same
    rw [entry_raise_same raisable.inside raisable.proper]
    rfl
  · rw [entry_raise_of_ne same]
    split <;> rfl

/-- Raising a class leaves the sizes of those above it as they are. -/
theorem Sized.raise (sized : registry.Sized) (formed : registry.Formed) {id : ClassId}
    (raisable : registry.Raisable id) : (registry.raise id).Sized := by
  have above : ∀ {superclass : ClassId}, registry.reached superclass .loaded = true →
      ((registry.raise id).entry superclass).size = (registry.entry superclass).size := by
    intro superclass loaded
    rw [raisable.size, if_neg]
    rintro rfl
    exact stage_ne_registered_of_reached loaded raisable.registered
  intro other
  rw [raisable.size, raisable.superclass, raisable.declaredSize]
  split
  · rename_i same
    subst same
    rw [fullSize]
    cases declared : registry.declaredSuper? other with
    | none => rfl
    | some superclass =>
      rw [Option.map_some, Option.map_some, above (raisable.supported superclass declared)]
  · rw [sized other]
    cases link : (registry.entry other).superclass with
    | none => rfl
    | some superclass =>
      rw [Option.map_some, Option.map_some, above (formed.supported other superclass link)]

end Registry

/-- The classes of an image are those that were registered, in the order of their numbers,
    each with the size that it ought to have, and every signature has one selector. -/
structure Image.Roster [NameHash] (image : Image) (classes : List ClassDecl) : Prop where
  lawful : image.selectors.Lawful
  count : image.registry.size = classes.length
  declared : ∀ id decl, classes[id]? = some decl →
    (image.registry.entry id).Realizes image.selectors decl
  sized : image.registry.Sized

namespace Image.Roster

variable [NameHash] {image after : Image} {classes : List ClassDecl}

/-- A roster is kept when classes stay as they are declared, linked and sized. -/
theorem alter (roster : image.Roster classes) (lawful : after.selectors.Lawful)
    (extended : image.selectors.Extends after.selectors)
    (size : after.registry.size = image.registry.size)
    (facts : ∀ id, (after.registry.entry id).facts = (image.registry.entry id).facts)
    (sized : after.registry.Sized) : after.Roster classes where
  lawful := lawful
  count := size.trans roster.count
  declared id decl listed := by
    obtain ⟨methods, same, spelled⟩ := roster.declared id decl listed
    exact ⟨methods, (facts id).trans same, spelled.extend extended⟩
  sized := sized

/-- A new class goes to the end. -/
theorem push (roster : image.Roster classes) (formed : image.registry.Formed) {decl : ClassDecl}
    {methods : BySide (List Method)} (spelled : image.selectors.Spells methods decl.sides) :
    Roster { image with
      registry := image.registry.push (.declared decl.name decl.superclass decl.size methods) }
      (classes ++ [decl]) where
  lawful := roster.lawful
  count := by
    rw [Registry.size_push, roster.count, List.length_append, List.length_singleton]
  declared id known listed := by
    rw [List.getElem?_append] at listed
    split at listed
    · rename_i older
      rw [Registry.entry_push_of_ne _ _ (Nat.ne_of_lt (roster.count ▸ older))]
      exact roster.declared id known listed
    · rename_i newer
      have last := (List.getElem?_eq_some_iff.mp listed).1
      rw [List.length_singleton, Nat.lt_one_iff, Nat.sub_eq_zero_iff_le] at last
      have same : id = classes.length := Nat.le_antisymm last (Nat.le_of_not_lt newer)
      rw [same, Nat.sub_self] at listed
      cases listed
      rw [same, ← roster.count, Registry.entry_push_size]
      exact ⟨methods, rfl, spelled⟩
  sized := roster.sized.push formed _ _ _ _

end Image.Roster

namespace Draft

open Registry

variable [NameHash] {before after : Draft} {classes : List ClassDecl}

/-- What replaces nothing keeps the roster, and a class is entered at its end. -/
theorem Takes.roster {arrival : Arrival} (takes : before.Takes arrival after)
    (formed : before.image.registry.Formed) (declares : arrival.replaces = false)
    (roster : before.image.Roster classes) :
    after.image.Roster (classes ++ arrival.class?.toList) := by
  cases takes with
  | signature image _ =>
    rw [image]
    simp only [Arrival.class?, Option.toList_none, List.append_nil]
    exact roster.alter (roster.lawful.intern _) (SelectorTable.extends_intern _) rfl
      (fun _ => rfl) roster.sized
  | newClass _ spelled image _ =>
    rw [image]
    exact roster.push formed spelled
  | waiting _ _ image _ =>
    rw [image]
    simp only [Arrival.class?, Option.toList_none, List.append_nil]
    exact roster.alter roster.lawful (.refl _) rfl (fun _ => rfl)
      (roster.sized.alter (fun _ => rfl) (fun _ => rfl) fun _ => rfl)
  | @attached decl category id after _ _ loaded image bare _ =>
    have selectors : after.image.selectors = before.image.selectors := by rw [image]
    have entries := before.image.registry.entry_attach (lt_size_of_reached loaded) category
    simp only [Arrival.class?, Option.toList_none, List.append_nil]
    refine roster.alter (selectors ▸ roster.lawful) (selectors ▸ .refl _) ?_ (fun other => ?_) ?_
    · rw [size_of_bare bare, attach, size_modify]
      rfl
    · rw [field_of_bare bare ClassEntry.facts (fun _ => rfl), entries]
      rfl
    · refine Sized.of_bare (roster.sized.alter ?_ ?_ ?_) bare
      · exact fun other => by rw [entries]
      · exact fun other => by rw [entries]
      · exact fun other => by rw [entries]
  | newMethod _ _ _ => cases declares

/-- Classes that arrive are added at the end of the roster. -/
theorem TakesIn.roster {arrivals : List Arrival} (taken : before.TakesIn arrivals after)
    (formed : before.image.registry.Formed)
    (declare : ∀ arrival ∈ arrivals, arrival.replaces = false)
    (roster : before.image.Roster classes) :
    after.image.Roster (classes ++ arrivals.filterMap Arrival.class?) := by
  induction taken generalizing classes with
  | none draft reports =>
    rw [List.filterMap_nil, List.append_nil]
    exact roster
  | @first draft next after arrival rest takes sound _ _ inductionHypothesis =>
    have entered := inductionHypothesis sound.formed
      (fun later member => declare later (List.mem_cons_of_mem _ member))
      (takes.roster formed (declare arrival List.mem_cons_self) roster)
    rw [List.append_assoc] at entered
    rw [List.filterMap_cons]
    cases given : arrival.class? with
    | none =>
      rw [given] at entered
      exact entered
    | some decl =>
      rw [given] at entered
      exact entered

/-- Building tables leaves it alone. -/
theorem Retabled.roster (retabled : before.Retabled after) (roster : before.image.Roster classes) :
    after.image.Roster classes := by
  have selectors : after.image.selectors = before.image.selectors := by rw [retabled.image]
  exact roster.alter (selectors ▸ roster.lawful) (selectors ▸ .refl _) (size_of_bare retabled.bare)
    (field_of_bare retabled.bare ClassEntry.facts fun _ => rfl) (roster.sized.of_bare retabled.bare)

/-- So does raising a class. -/
theorem Raised.roster {id : ClassId} (raised : before.Raised id after)
    (formed : before.image.registry.Formed) (roster : before.image.Roster classes) :
    after.image.Roster classes := by
  have selectors : after.image.selectors = before.image.selectors := by rw [raised.image]
  exact roster.alter (selectors ▸ roster.lawful) (selectors ▸ .refl _) raised.advanced.size
    (raised.field ClassEntry.facts fun _ _ _ _ _ _ _ => rfl)
    ((roster.sized.raise formed raised.raisable).of_bare raised.bare)

/-- So does raising several. -/
theorem Raises.roster {order : List ClassId} (raises : before.Raises order after)
    (formed : before.image.registry.Formed) (roster : before.image.Roster classes) :
    after.image.Roster classes := by
  induction raises with
  | none draft => exact roster
  | first raised _ inductionHypothesis =>
    exact inductionHypothesis raised.sound.formed (raised.roster formed roster)

/-- An edit enters the classes that arrived with it, in order, if it replaces nothing. -/
theorem Amends.roster {arrivals : List Arrival} {order : List ClassId}
    (amends : before.Amends arrivals order after) (sound : before.image.registry.Sound)
    (declare : ∀ arrival ∈ arrivals, arrival.replaces = false)
    (roster : before.image.Roster classes) :
    after.image.Roster (classes ++ arrivals.filterMap Arrival.class?) := by
  obtain ⟨entered, settled, taken, raises, retabled, -⟩ := amends
  have enteredSound := (taken.kept sound).1
  exact retabled.roster
    (raises.roster enteredSound.formed (taken.roster sound.formed declare roster))

end Draft

/-- A settled image holds these classes and categories, and no class has had a message. -/
structure Image.Holds [NameHash] (image : Image) (classes : List ClassDecl)
    (categories : List CategoryDecl) : Prop where
  sound : image.Sound true
  roster : image.Roster classes
  ledger : image.Ledger categories
  fresh : ∀ id, image.registry.reached id .initialized = false

/-- A class of an image is the one that was declared. -/
def Image.Knows [NameHash] (image : Image) (id : ClassId) (decl : ClassDecl) : Prop :=
  image.registry.find? decl.name = some id ∧
    (image.registry.entry id).Realizes image.selectors decl

namespace Image.Holds

open Registry

variable [NameHash] {image : Image} {classes : List ClassDecl} {categories : List CategoryDecl}

/-- What an image holds is in order. -/
theorem formed (holds : image.Holds classes categories) : image.registry.Formed :=
  holds.sound.registry.formed

/-- No link is ahead of its class. -/
theorem loose (holds : image.Holds classes categories) : image.registry.Loose :=
  (holds.sound.settled rfl).loose holds.formed

/-- An edit that replaces nothing and leaves the image settled adds what arrived with it. -/
theorem amend {before after : Draft} (holds : before.image.Holds classes categories)
    {arrivals : List Arrival} {order : List ClassId} (amends : before.Amends arrivals order after)
    (declare : ∀ arrival ∈ arrivals, arrival.replaces = false) (sound : after.image.Sound true) :
    after.image.Holds (classes ++ arrivals.filterMap Arrival.class?)
      (categories ++ arrivals.filterMap Arrival.category?) where
  sound := sound
  roster := amends.roster holds.sound.registry declare holds.roster
  ledger := amends.ledger holds.sound.registry holds.ledger
  fresh id := (amends.unprepared id).1.trans (holds.fresh id)

/-- Every class that was registered is known. -/
theorem exists_known (holds : image.Holds classes categories) {decl : ClassDecl}
    (member : decl ∈ classes) : ∃ id, image.Knows id decl := by
  obtain ⟨id, inside, rfl⟩ := List.mem_iff_getElem.mp member
  have realizes := holds.roster.declared id _ (List.getElem?_eq_getElem inside)
  have found := (holds.formed.named _ id).mpr ⟨holds.roster.count ▸ inside, realizes.name⟩
  exact ⟨id, found, realizes⟩

/-- Every class that is found was registered. -/
theorem known_of_find? (holds : image.Holds classes categories) {name : String} {id : ClassId}
    (found : image.registry.find? name = some id) :
    ∃ decl ∈ classes, decl.name = name ∧ image.Knows id decl := by
  obtain ⟨inside, named⟩ := (holds.formed.named name id).mp found
  rw [holds.roster.count] at inside
  have realizes := holds.roster.declared id _ (List.getElem?_eq_getElem inside)
  have sameName : classes[id].name = name := realizes.name.symm.trans named
  exact ⟨classes[id], List.getElem_mem inside, sameName, sameName.symm ▸ found, realizes⟩

/-- A class is loaded exactly if its chain leads to a root. -/
theorem loaded_iff (holds : image.Holds classes categories) {id : ClassId}
    (inside : id < image.registry.size) :
    image.registry.reached id .loaded = true ↔ ∃ path, image.registry.chain id = .ok path :=
  (holds.sound.settled rfl).loaded_iff holds.formed inside

/-- A class is loaded or only registered, and nothing else. -/
theorem stage_eq (holds : image.Holds classes categories) (id : ClassId) (side : Side) :
    (image.registry.entry id).stage.get side =
      if image.registry.reached id .loaded then .loaded else .registered := by
  have both : (image.registry.entry id).stage.get side = image.registry.stage id := by
    cases side
    · rfl
    · exact holds.formed.level id
  rw [both, holds.formed.stage_eq, holds.fresh id]
  rfl

/-- What is held for a name is attached if the class of that name is loaded, and waits if it
    is not or there is none. -/
theorem places (holds : image.Holds classes categories) (name : String) :
    ((∃ id, image.registry.find? name = some id ∧ image.registry.reached id .loaded = true) ∧
        image.registry.parkedFor name = []) ∨
      ((∀ id, image.registry.find? name = some id →
        image.registry.reached id .loaded = false) ∧ image.registry.attachedTo name = []) :=
  holds.ledger.places holds.formed name

end Image.Holds

/-- A table with buckets gives every signature one selector. -/
theorem Config.lawful_selectorTable {config : Config} {hash : String → Nat}
    {table : SelectorTable hash} (made : config.selectorTable = .ok table) : table.Lawful := by
  obtain ⟨count, roomy, rfl⟩ := SelectorTable.create_cases made
  exact SelectorTable.lawful_empty roomy _ _

namespace Session

variable [NameHash]

/-- The selector tables of a new session give every signature one selector. -/
theorem start_lawful {threshold : Log.Level} {configs : List Config} {first : Session}
    (started : start threshold configs = .ok first) (id : ImageId) :
    (first.image id).selectors.Lawful := by
  refine @start_induction _ (fun session => ∀ id, (session.image id).selectors.Lawful) ?_ ?_
    threshold configs first started id
  · exact fun _ _ => SelectorTable.lawful_empty Nat.one_pos _ _
  · intro session after config added lawful id
    obtain ⟨image, reports, threshold, created, images, -⟩ := addImage_cases added
    obtain ⟨table, made, -, selectors, -⟩ := Image.create_cases created
    rw [images]
    split
    · rw [selectors]
      exact ((Config.lawful_selectorTable made).intern _).intern _
    · exact lawful id

/-- New images hold nothing. -/
theorem start_holds {threshold : Log.Level} {configs : List Config} {first : Session}
    (started : start threshold configs = .ok first) (id : ImageId) :
    (first.image id).Holds [] [] := by
  have blank := start_registry started id
  refine ⟨(start_sound started).images id, ⟨start_lawful started id, ?_, ?_, ?_⟩, ?_, ?_⟩
  · rw [blank]
    rfl
  · intro target decl impossible
    cases impossible
  · rw [blank]
    exact Registry.sized_empty
  · rw [Image.Ledger, blank]
    exact Registry.ledger_empty _
  · intro target
    rw [blank, Registry.reached, Registry.stage_of_size_le (Nat.zero_le target)]
    rfl

end Session

end LateBinding
