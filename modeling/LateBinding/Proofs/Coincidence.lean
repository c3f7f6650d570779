import LateBinding.Proofs.Inventory
import LateBinding.Proofs.Twins

/-!
# Images that have gathered the same

A settled image is known from what it has gathered. Its selectors and what its classes declare
are gathered themselves. A class is loaded exactly if its chain leads to a root, which is a
matter of what was declared, and that decides its stage, its link, its size and whether its
categories are attached or wait. What is left open are tables, which have no part in what a
selector means, and the order in which a class lists those below it.

So it does not matter in which portions an image has gathered what it has. The hooks that have
become due on the way are the same too, in some order: those of the classes and categories that
have come to be loaded and attached.
-/

namespace LateBinding

/-- Values for both sides are known from each side. -/
theorem BySide.ext_get {α : Type} {values others : BySide α}
    (same : ∀ side, values.get side = others.get side) : values = others := by
  obtain ⟨inst, metaclass⟩ := values
  obtain ⟨otherInst, otherMetaclass⟩ := others
  exact congr (congrArg BySide.mk (same .inst)) (same .metaclass)

section

variable {hash : String → Nat} {table : SelectorTable hash}

/-- A method is spelled in one way where every signature has one selector. -/
theorem Method.Spelled.unique (lawful : table.Lawful) {method other : Method} {decl : MethodDecl}
    (spelled : method.Spelled table decl) (again : other.Spelled table decl) : method = other := by
  have selectors := lawful.distinct _ _ _ spelled.1 again.1
  exact congr (congrArg Method.mk selectors) (spelled.2.trans again.2.symm)

/-- So are the methods of both sides. -/
theorem SelectorTable.Spells.unique (lawful : table.Lawful) {methods others : BySide (List Method)}
    {decls : BySide (List MethodDecl)} (spells : table.Spells methods decls)
    (again : table.Spells others decls) : methods = others := by
  refine BySide.ext_get fun side => ?_
  exact List.left_unique_forall₂' (fun _ _ _ spelled other => spelled.unique lawful other)
    (spells side) (again side)

/-- So are the facts of a class. -/
theorem ClassDecl.Listed.unique (lawful : table.Lawful)
    {facts others : String × Option String × Nat × BySide (List Method)} {decl : ClassDecl}
    (listed : decl.Listed table facts) (again : decl.Listed table others) : facts = others := by
  obtain ⟨methods, rfl, spelled⟩ := listed
  obtain ⟨otherMethods, rfl, otherSpelled⟩ := again
  rw [spelled.unique lawful otherSpelled]

/-- And a category. -/
theorem Category.Realizes.unique (lawful : table.Lawful) {category other : Category}
    {serial : Nat} {decl : CategoryDecl} (realizes : category.Realizes table serial decl)
    (again : other.Realizes table serial decl) : category = other := by
  have methods := realizes.spelled.unique lawful again.spelled
  have serials := realizes.serial.trans again.serial.symm
  have names := realizes.name.trans again.name.symm
  have classNames := realizes.className.trans again.className.symm
  cases category
  cases other
  cases methods
  cases serials
  cases names
  cases classNames
  rfl

/-- Ledgers of one list hold the same categories for every name. -/
theorem Registry.Ledger.held_unique (lawful : table.Lawful) {registry other : Registry}
    {registered : List CategoryDecl} (ledger : registry.Ledger table registered)
    (again : other.Ledger table registered) (name : String) :
    other.attachedTo name ++ other.parkedFor name =
      registry.attachedTo name ++ registry.parkedFor name :=
  List.left_unique_forall₂' (fun _ _ _ realizes other => realizes.unique lawful other)
    (again.held name) (ledger.held name)

end

namespace Registry

variable {registry other : Registry}

/-- Names lead to the same classes where the same numbers have them. -/
theorem Formed.find?_congr (formed : registry.Formed) (otherFormed : other.Formed)
    (size : other.size = registry.size)
    (names : ∀ id, (other.entry id).name = (registry.entry id).name) (name : String) :
    other.find? name = registry.find? name := by
  refine Option.ext fun id => ?_
  rw [otherFormed.named, formed.named, size, names]

/-- Walks go the same way where the same names lead to the same classes. -/
theorem walk_congr (found : ∀ name, other.find? name = registry.find? name)
    (names : ∀ id, (other.entry id).name = (registry.entry id).name)
    (superNames : ∀ id, (other.entry id).superName = (registry.entry id).superName)
    (origin : ClassId) (room : Nat) (passed : List ClassId) (current : ClassId) :
    other.walk origin room passed current = registry.walk origin room passed current := by
  fun_induction registry.walk origin room passed current with
  | case1 room passed current declared =>
    rw [walk, superNames, declared]
  | case2 room passed current name declared absent =>
    rw [walk, superNames, declared]
    simp only [found, absent, names]
  | case3 room passed current name declared next isNext again =>
    rw [walk, superNames, declared]
    simp only [found, isNext, if_pos again]
  | case4 passed current name declared next isNext new =>
    rw [walk, superNames, declared]
    simp only [found, isNext, if_neg new]
  | case5 passed current name declared next isNext new room inductionHypothesis =>
    rw [walk, superNames, declared]
    simp only [found, isNext, if_neg new]
    exact inductionHypothesis

/-- The chain of a class depends on names alone. -/
theorem chain_congr (size : other.size = registry.size)
    (found : ∀ name, other.find? name = registry.find? name)
    (names : ∀ id, (other.entry id).name = (registry.entry id).name)
    (superNames : ∀ id, (other.entry id).superName = (registry.entry id).superName)
    (id : ClassId) : other.chain id = registry.chain id := by
  rw [chain, chain, size, walk_congr found names superNames]

/-- Sizes are known from links and from what is declared. -/
theorem Sized.size_congr (formed : registry.Formed) (sized : registry.Sized)
    (otherSized : other.Sized)
    (links : ∀ id, (other.entry id).superclass = (registry.entry id).superclass)
    (declared : ∀ id, (other.entry id).declaredSize = (registry.entry id).declaredSize)
    (id : ClassId) : (other.entry id).size = (registry.entry id).size := by
  -- Sizes are added along links, so the induction is along the line of the instance side.
  suffices along : ∀ ref : SideRef, ref.side = .inst →
      (other.entry ref.id).size = (registry.entry ref.id).size from along ⟨id, .inst⟩ rfl
  intro ref
  induction ref using formed.parent_induction with
  | _ ref inductionHypothesis =>
    intro isInst
    rw [sized, otherSized, links, declared]
    cases link : (registry.entry ref.id).superclass with
    | none => rfl
    | some above =>
      have leads : registry.parent? ref = some ⟨above, .inst⟩ := by rw [parent?, link, isInst]
      rw [Option.map_some, Option.map_some, inductionHypothesis ⟨above, .inst⟩ leads rfl]

/-- No hook becomes due twice: the hooks for a class can be told apart by the categories that
    they belong to. -/
theorem Owes.once {selector : Selector} {due : List LoadHook}
    (owes : ∀ target, registry.Owes other selector target due)
    (sorted : ∀ target, ((other.entry target).categories.map Category.serial).Pairwise (· < ·)) :
    due.Pairwise fun hook next =>
      (hook.receiver, hook.category) ≠ (next.receiver, next.category) := by
  refine List.pairwise_iff_forall_sublist.mpr fun {hook next} pair same => ?_
  obtain ⟨receiver, category⟩ := Prod.mk.inj same
  cases isNext : next.category with
  | none =>
    have kept := pair.filter (LoadHook.isOwn next.receiver)
    rw [(owes next.receiver).own] at kept
    have two : [hook, next].filter (LoadHook.isOwn next.receiver) = [hook, next] := by
      simp [LoadHook.isOwn, receiver, category, isNext]
    have bound := two ▸ kept.length_le
    rw [List.length_cons, List.length_singleton] at bound
    split at bound
    · exact absurd (bound.trans Option.length_toList_le) (by decide)
    · exact absurd bound (by decide)
  | some serial =>
    have kept := pair.filter (LoadHook.isAttached next.receiver)
    have two : [hook, next].filter (LoadHook.isAttached next.receiver) = [hook, next] := by
      simp [LoadHook.isAttached, receiver, category, isNext]
    rw [two] at kept
    have attached := kept.trans (List.sublist_append_right
      (registry.categoryHooks selector next.receiver) _)
    rw [← (owes next.receiver).attached] at attached
    have ordered := (categoryHooks_ordered (sorted next.receiver) selector).sublist attached
    obtain ⟨first, second, isFirst, isSecond, less⟩ := List.rel_of_pairwise_cons ordered
      (List.mem_singleton.mpr rfl)
    rw [isFirst, isSecond, Option.some.injEq] at category
    exact absurd less (category ▸ Nat.lt_irrefl _)

end Registry

/-- Two images are the same but for their tables and the order in which classes list those
    below them. -/
structure Image.Coincides [NameHash] (image other : Image) : Prop where
  rest : other = { image with registry := other.registry }
  size : other.registry.size = image.registry.size
  count : other.registry.categoryCount = image.registry.categoryCount
  found : ∀ name, other.registry.find? name = image.registry.find? name
  entries : ∀ id, other.registry.entry id = { image.registry.entry id with
    subclasses := (other.registry.entry id).subclasses
    table := (other.registry.entry id).table }
  subclasses : ∀ id,
    (other.registry.entry id).subclasses.Perm (image.registry.entry id).subclasses
  waiting : ∀ name, other.registry.parkedFor name = image.registry.parkedFor name

namespace Image.Coincides

variable [NameHash] {image other : Image}

/-- What neither tables nor lists of subclasses have a part in reads the same in every class. -/
theorem field (coincides : image.Coincides other) {β : Type} (field : ClassEntry → β)
    (blind : ∀ (entry : ClassEntry) subclasses table,
      field { entry with subclasses, table } = field entry) (id : ClassId) :
    field (other.registry.entry id) = field (image.registry.entry id) := by
  rw [coincides.entries]
  exact blind _ _ _

/-- Images that coincide have the same chains. -/
theorem chain (coincides : image.Coincides other) (id : ClassId) :
    other.registry.chain id = image.registry.chain id :=
  Registry.chain_congr coincides.size coincides.found
    (coincides.field ClassEntry.name fun _ _ _ => rfl)
    (coincides.field ClassEntry.superName fun _ _ _ => rfl) id

/-- A selector means the same on every side. -/
theorem resolve (coincides : image.Coincides other) (formed : image.registry.Formed)
    (otherFormed : other.registry.Formed) (ref : SideRef) (selector : Selector) :
    other.registry.resolve ref selector = image.registry.resolve ref selector := by
  refine formed.resolve_congr otherFormed (fun _ => True) (fun _ _ _ _ => trivial) ?_ ?_ ref
    trivial selector
  · exact fun id _ => coincides.field ClassEntry.superclass (fun _ _ _ => rfl) id
  · exact fun id side _ => coincides.field (·.declarations side) (fun _ _ _ => rfl) id

end Image.Coincides

/-- An image that can take things in one after the other: its classes, selectors and sizes are in
    order, and its categories have been recorded. One that is strictly in order is settled. -/
structure Image.Regulated [NameHash] (strict : Bool) (image : Image) : Prop where
  sound : image.Sound strict
  lawful : image.selectors.Lawful
  sized : image.registry.Sized
  ledger : ∃ registered, image.Ledger registered

namespace Image.Gathers

open Registry

variable [NameHash] {strict : Bool} {base image other : Image} {arrivals : List Arrival}
  {hooks more : List LoadHook}

/-- An image in order stays so whatever it gathers. -/
theorem regulated (gathers : base.Gathers arrivals hooks image) (regulated : base.Regulated strict)
    {strictly : Bool} (sound : image.Sound strictly) : image.Regulated strictly where
  sound := sound
  lawful := gathers.selectors ▸ lawful_foldl regulated.lawful arrivals
  sized := gathers.sized regulated.sized
  ledger := by
    obtain ⟨registered, ledger⟩ := regulated.ledger
    exact ⟨_, gathers.ledger registered ledger⟩

section

variable (regulated : base.Regulated strict) (gathers : base.Gathers arrivals hooks image)
  (again : base.Gathers arrivals more other) (sound : image.Sound true)
  (otherSound : other.Sound true)

include gathers again

/-- Both have the same selector table. -/
theorem selectors_eq : other.selectors = image.selectors := by
  rw [gathers.selectors, again.selectors]

/-- The same classes are initialized. -/
theorem reached_initialized_eq (id : ClassId) :
    other.registry.reached id .initialized = image.registry.reached id .initialized := by
  rw [gathers.initialized, again.initialized]

include regulated

/-- Classes are declared alike. -/
theorem facts_eq : other.registry.size = image.registry.size ∧
    ∀ id, (other.registry.entry id).facts = (image.registry.entry id).facts := by
  have lawful : image.selectors.Lawful :=
    gathers.selectors ▸ lawful_foldl regulated.lawful arrivals
  obtain ⟨new, grown, listed⟩ := gathers.roll
  obtain ⟨newer, grownAgain, listedAgain⟩ := again.roll
  rw [selectors_eq gathers again] at listedAgain
  have same := List.left_unique_forall₂' (fun _ _ _ listed other => listed.unique lawful other)
    listedAgain listed
  exact facts_of_roll (by rw [grownAgain, grown, same])

include sound otherSound

/-- The same classes are found under the same names. -/
theorem find?_eq (name : String) :
    other.registry.find? name = image.registry.find? name := by
  obtain ⟨size, facts⟩ := facts_eq regulated gathers again
  exact sound.registry.formed.find?_congr otherSound.registry.formed size
    (fun id => congrArg Prod.fst (facts id)) name

/-- The same classes are loaded. -/
theorem loaded_eq (id : ClassId) :
    other.registry.reached id .loaded = image.registry.reached id .loaded := by
  obtain ⟨size, facts⟩ := facts_eq regulated gathers again
  have formed := sound.registry.formed
  have otherFormed := otherSound.registry.formed
  by_cases inside : id < image.registry.size
  · rw [Bool.eq_iff_iff, (otherSound.settled rfl).loaded_iff otherFormed (size ▸ inside),
      (sound.settled rfl).loaded_iff formed inside,
      chain_congr size (find?_eq regulated gathers again sound otherSound)
        (fun id => congrArg Prod.fst (facts id)) (fun id => congrArg (·.2.1) (facts id))]
  · have outside := Nat.le_of_not_lt inside
    rw [reached, reached, stage_of_size_le outside, stage_of_size_le (size.symm ▸ outside)]

/-- They are at the same stages. -/
theorem stage_eq (id : ClassId) :
    (other.registry.entry id).stage = (image.registry.entry id).stage := by
  have formed := sound.registry.formed
  have otherFormed := otherSound.registry.formed
  have inst : other.registry.stage id = image.registry.stage id := by
    rw [formed.stage_eq, otherFormed.stage_eq, reached_initialized_eq gathers again,
      loaded_eq regulated gathers again sound otherSound]
  refine BySide.ext_get fun side => ?_
  cases side with
  | inst => exact inst
  | metaclass => exact (otherFormed.level id).trans (inst.trans (formed.level id).symm)

/-- They have the same links. -/
theorem superclass_eq (id : ClassId) :
    (other.registry.entry id).superclass = (image.registry.entry id).superclass := by
  obtain ⟨-, facts⟩ := facts_eq regulated gathers again
  have formed := sound.registry.formed
  have otherFormed := otherSound.registry.formed
  have found := find?_eq regulated gathers again sound otherSound
  rw [formed.link_eq ((sound.settled rfl).loose formed),
    otherFormed.link_eq ((otherSound.settled rfl).loose otherFormed),
    loaded_eq regulated gathers again sound otherSound, declaredSuper?, declaredSuper?,
    funext found, show (other.registry.entry id).superName = (image.registry.entry id).superName
      from congrArg (·.2.1) (facts id)]

/-- The same categories are attached and wait for every name. -/
theorem places_eq (name : String) :
    other.registry.attachedTo name = image.registry.attachedTo name ∧
      other.registry.parkedFor name = image.registry.parkedFor name := by
  obtain ⟨registered, start⟩ := regulated.ledger
  have ledger := gathers.ledger registered start
  have otherLedger := again.ledger registered start
  rw [Image.Ledger, selectors_eq gathers again] at otherLedger
  have held := ledger.held_unique (gathers.selectors ▸ lawful_foldl regulated.lawful arrivals)
    otherLedger name
  have found := find?_eq regulated gathers again sound otherSound name
  have loaded := loaded_eq regulated gathers again sound otherSound
  rcases ledger.places sound.registry.formed name with
    ⟨⟨id, isFound, isLoaded⟩, nothing⟩ | ⟨early, nothing⟩
  · have otherNothing := otherLedger.parked_of_loaded otherSound.registry.formed
      (found.trans isFound) ((loaded id).trans isLoaded)
    rw [nothing, otherNothing, List.append_nil, List.append_nil] at held
    exact ⟨held, otherNothing.trans nothing.symm⟩
  · have otherNothing := otherLedger.attached_of_early fun id isFound =>
      (loaded id).trans (early id (found ▸ isFound))
    rw [nothing, otherNothing, List.nil_append, List.nil_append] at held
    exact ⟨otherNothing.trans nothing.symm, held⟩

/-- They have the same categories. -/
theorem categories_eq (id : ClassId) :
    (other.registry.entry id).categories = (image.registry.entry id).categories := by
  obtain ⟨size, facts⟩ := facts_eq regulated gathers again
  by_cases inside : id < image.registry.size
  · have found := (sound.registry.formed.named _ id).mpr ⟨inside, rfl⟩
    have otherFound := (find?_eq regulated gathers again sound otherSound _).trans found
    have same := (places_eq regulated gathers again sound otherSound
      (image.registry.entry id).name).1
    rwa [attachedTo_of_find? found, attachedTo_of_find? otherFound] at same
  · have outside := Nat.le_of_not_lt inside
    rw [entry_of_size_le _ outside, entry_of_size_le _ (size.symm ▸ outside)]

/-- Settled images that have gathered the same coincide. -/
theorem coincides : image.Coincides other := by
  obtain ⟨size, facts⟩ := facts_eq regulated gathers again
  have formed := sound.registry.formed
  have otherFormed := otherSound.registry.formed
  have links := superclass_eq regulated gathers again sound otherSound
  have declaredSizes : ∀ id, (other.registry.entry id).declaredSize =
      (image.registry.entry id).declaredSize := fun id => congrArg (·.2.2.1) (facts id)
  refine ⟨?_, size, ?_, find?_eq regulated gathers again sound otherSound, fun id => ?_,
    fun id => ?_, fun name => (places_eq regulated gathers again sound otherSound name).2⟩
  · rw [again.rest, gathers.rest]
  · obtain ⟨registered, start⟩ := regulated.ledger
    rw [(gathers.ledger registered start).count, (again.ledger registered start).count]
  · have stages := stage_eq regulated gathers again sound otherSound id
    have categories := categories_eq regulated gathers again sound otherSound id
    have sizes := Sized.size_congr formed (gathers.sized regulated.sized)
      (again.sized regulated.sized) links declaredSizes id
    have marks : (other.registry.entry id).initializing =
        (image.registry.entry id).initializing := by
      rw [gathers.initializing, again.initializing]
    have declares := facts id
    have link := links id
    generalize other.registry.entry id = otherEntry at *
    generalize image.registry.entry id = entry at *
    cases entry
    cases otherEntry
    simp only [ClassEntry.facts, Prod.mk.injEq] at declares
    simp_all
  · refine (List.perm_ext_iff_of_nodup (otherFormed.once id) (formed.once id)).mpr fun below => ?_
    rw [otherFormed.mirrored, formed.mirrored, links,
      loaded_eq regulated gathers again sound otherSound]

end

end Image.Gathers

end LateBinding
