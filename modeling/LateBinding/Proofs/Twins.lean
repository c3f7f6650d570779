import LateBinding.Proofs.Roster
import LateBinding.Session.Answer

/-!
# Images that hold the same classes

Two images that were given the same classes in different orders number classes and selectors
differently. Classes of one name in both are twins. Whatever an image derives from its
classes takes twins to twins: the superclass that a name leads to, the chain of a class or
the error that refuses it, the link, the size, and what a selector means.

What was registered last may be what loads a class, and a category may have waited in one
image and not in the other. Neither can be seen afterwards in settled images: a class is
loaded exactly if its chain leads to a root, and the categories of a class are attached to it
exactly if it is loaded.
-/

namespace LateBinding

/-- Methods of two images implement one signature in the same way. -/
structure Method.Matches {hash : String → Nat} (table otherTable : SelectorTable hash)
    (method other : Method) : Prop where
  signature : ∃ signature, table.resolve? method.selector = some signature ∧
    otherTable.resolve? other.selector = some signature
  imp : method.imp = other.imp

/-- Categories of two images are the same in all but their numbers. -/
structure Category.Matches {hash : String → Nat} (table otherTable : SelectorTable hash)
    (category other : Category) : Prop where
  name : category.name = other.name
  className : category.className = other.className
  methods : ∀ side, List.Forall₂ (Method.Matches table otherTable) (category.methods.get side)
    (other.methods.get side)

/-- Lists that are related to one list are related to each other. -/
theorem forall₂_meet {α β γ : Type} {left : α → γ → Prop} {right : β → γ → Prop}
    {both : α → β → Prop} (meet : ∀ {a b c}, left a c → right b c → both a b) {as : List α}
    {bs : List β} {cs : List γ} (lefts : List.Forall₂ left as cs)
    (rights : List.Forall₂ right bs cs) : List.Forall₂ both as bs := by
  induction lefts generalizing bs with
  | nil =>
    cases rights with
    | nil => exact .nil
  | cons first _ inductionHypothesis =>
    cases rights with
    | cons second rest => exact .cons (meet first second) (inductionHypothesis rest)

section

variable {hash : String → Nat} {table otherTable : SelectorTable hash}

/-- Methods that were declared alike match. -/
theorem SelectorTable.Spells.meet {methods others : BySide (List Method)}
    {decls : BySide (List MethodDecl)} (spells : table.Spells methods decls)
    (otherSpells : otherTable.Spells others decls) (side : Side) :
    List.Forall₂ (Method.Matches table otherTable) (methods.get side) (others.get side) := by
  refine forall₂_meet ?_ (spells side) (otherSpells side)
  rintro method other decl ⟨resolved, imp⟩ ⟨otherResolved, otherImp⟩
  exact ⟨⟨_, resolved, otherResolved⟩, imp.trans otherImp.symm⟩

/-- Categories that realize one declaration match. -/
theorem Category.Realizes.meet {category other : Category} {serial otherSerial : Nat}
    {decl : CategoryDecl} (realizes : category.Realizes table serial decl)
    (otherRealizes : other.Realizes otherTable otherSerial decl) :
    category.Matches table otherTable other where
  name := realizes.name.trans otherRealizes.name.symm
  className := realizes.className.trans otherRealizes.className.symm
  methods := realizes.spelled.meet otherRealizes.spelled

/-- The last of matching methods is the same for selectors of one signature. -/
theorem Method.lastFor_matches (lawful : table.Lawful) (otherLawful : otherTable.Lawful)
    {signature : Signature} {selector otherSelector : Selector}
    (resolved : table.resolve? selector = some signature)
    (otherResolved : otherTable.resolve? otherSelector = some signature)
    {methods others : List Method}
    (matching : List.Forall₂ (Method.Matches table otherTable) methods others) :
    lastFor methods selector = lastFor others otherSelector := by
  induction matching with
  | nil => rfl
  | @cons method other rest otherRest first _ inductionHypothesis =>
    obtain ⟨known, here, there⟩ := first.signature
    have same : method.selector = selector ↔ other.selector = otherSelector := by
      constructor
      · rintro rfl
        rw [resolved, Option.some.injEq] at here
        exact otherLawful.distinct _ _ _ there (here ▸ otherResolved)
      · rintro rfl
        rw [otherResolved, Option.some.injEq] at there
        exact lawful.distinct _ _ _ here (there ▸ resolved)
    rw [lastFor_cons, lastFor_cons, inductionHypothesis, first.imp]
    simp only [same]

end

/-- The registrations for a class name without their numbers. -/
theorem CategoryDecl.map_fst_forName (registered : List CategoryDecl) (name : String) :
    (forName registered name).map Prod.fst = registered.filter (·.className == name) := by
  have unnumbered : registered = (registered.zipIdx.map Prod.fst) := by
    rw [List.zipIdx_map_fst]
  conv_rhs => rw [unnumbered, List.filter_map]
  rfl

/-- What a class shows of itself apart from its table. -/
def ClassView.outline (view : ClassView) : ClassView := { view with table := none }

/-- A class of one image and a class of another were declared alike. -/
def Image.Twins [NameHash] (image other : Image) (id otherId : ClassId) : Prop :=
  ∃ decl, image.Knows id decl ∧ other.Knows otherId decl

/-- Sides of twins. -/
def Image.SidesAgree [NameHash] (image other : Image) (ref otherRef : SideRef) : Prop :=
  image.Twins other ref.id otherRef.id ∧ ref.side = otherRef.side

/-- Chains lead through twins, or are refused alike. -/
def Image.ChainsAgree [NameHash] (image other : Image) :
    Except Error (List ClassId) → Except Error (List ClassId) → Prop
  | .ok path, .ok otherPath => List.Forall₂ (image.Twins other) path otherPath
  | .error error, .error otherError => error = otherError
  | _, _ => False

namespace Image.ChainsAgree

variable [NameHash] {image other : Image} {chain otherChain : Except Error (List ClassId)}

/-- Chains that agree are both found or both not. -/
theorem exists_ok_iff (agree : image.ChainsAgree other chain otherChain) :
    (∃ path, chain = .ok path) ↔ ∃ path, otherChain = .ok path := by
  cases chain with
  | ok path =>
    cases otherChain with
    | ok otherPath => exact ⟨fun _ => ⟨otherPath, rfl⟩, fun _ => ⟨path, rfl⟩⟩
    | error error => exact agree.elim
  | error error =>
    cases otherChain with
    | ok otherPath => exact agree.elim
    | error otherError => exact ⟨nofun, nofun⟩

/-- Chains are equal but for the numbers of the classes on them. -/
theorem map_eq {α : Type} (agree : image.ChainsAgree other chain otherChain) (value : α) :
    (chain.map fun _ => value) = otherChain.map fun _ => value := by
  cases chain with
  | ok path =>
    cases otherChain with
    | ok otherPath => rfl
    | error error => exact agree.elim
  | error error =>
    cases otherChain with
    | ok otherPath => exact agree.elim
    | error otherError => exact congrArg Except.error agree

end Image.ChainsAgree

namespace Image.Twins

open Registry

variable [NameHash] {image other : Image} {id otherId : ClassId}

/-- Twins are twins of each other. -/
theorem symm (twins : image.Twins other id otherId) : other.Twins image otherId id := by
  obtain ⟨decl, knows, otherKnows⟩ := twins
  exact ⟨decl, otherKnows, knows⟩

/-- Twins have one name and declare one superclass name and one size. -/
theorem facts (twins : image.Twins other id otherId) :
    (image.registry.entry id).name = (other.registry.entry otherId).name ∧
      (image.registry.entry id).superName = (other.registry.entry otherId).superName ∧
      (image.registry.entry id).declaredSize = (other.registry.entry otherId).declaredSize := by
  obtain ⟨decl, ⟨-, methods, facts, -⟩, -, otherMethods, otherFacts, -⟩ := twins
  simp only [ClassEntry.facts, Prod.mk.injEq] at facts otherFacts
  exact ⟨facts.1.trans otherFacts.1.symm, facts.2.1.trans otherFacts.2.1.symm,
    facts.2.2.1.trans otherFacts.2.2.1.symm⟩

/-- They declare methods that match. -/
theorem methods (twins : image.Twins other id otherId) (side : Side) :
    List.Forall₂ (Method.Matches image.selectors other.selectors)
      ((image.registry.entry id).methods.get side)
      ((other.registry.entry otherId).methods.get side) := by
  obtain ⟨decl, ⟨-, methods, facts, spelled⟩, -, otherMethods, otherFacts, otherSpelled⟩ := twins
  simp only [ClassEntry.facts, Prod.mk.injEq] at facts otherFacts
  rw [facts.2.2.2, otherFacts.2.2.2]
  exact spelled.meet otherSpelled side

/-- They are found under one name. -/
theorem found (twins : image.Twins other id otherId) :
    ∃ name, image.registry.find? name = some id ∧ other.registry.find? name = some otherId := by
  obtain ⟨decl, knows, otherKnows⟩ := twins
  exact ⟨decl.name, knows.1, otherKnows.1⟩

/-- They are there. -/
theorem inside (twins : image.Twins other id otherId) (formed : image.registry.Formed) :
    id < image.registry.size := by
  obtain ⟨name, found, -⟩ := twins.found
  exact formed.lt_of_find? name id found

/-- A class has at most one twin. -/
theorem unique {another : ClassId} (twins : image.Twins other id otherId)
    (again : image.Twins other id another) (formed : image.registry.Formed) :
    otherId = another := by
  obtain ⟨name, found, otherFound⟩ := twins.found
  obtain ⟨sameName, foundAgain, anotherFound⟩ := again.found
  rw [(formed.found_eq_iff foundAgain found).mp rfl] at anotherFound
  exact Option.some.inj (otherFound.symm.trans anotherFound)

/-- A class has one twin at most, on either side. -/
theorem biUnique (formed : image.registry.Formed) (otherFormed : other.registry.Formed) :
    Relator.BiUnique (image.Twins other) :=
  ⟨fun _ _ _ twins again => twins.symm.unique again.symm otherFormed,
    fun _ _ _ twins again => twins.unique again formed⟩

end Image.Twins

namespace Image.Holds

open Registry

variable [NameHash] {image other : Image} {classes otherClasses : List ClassDecl}
  {categories otherCategories : List CategoryDecl}
  (holds : image.Holds classes categories) (otherHolds : other.Holds otherClasses otherCategories)

include holds otherHolds

section

variable (perm : classes.Perm otherClasses)

include perm

/-- A name that is found in one image is found in the other, and the classes are twins. -/
theorem twin_of_find? {name : String} {id : ClassId}
    (found : image.registry.find? name = some id) :
    ∃ otherId, other.registry.find? name = some otherId ∧ image.Twins other id otherId := by
  obtain ⟨decl, member, rfl, knows⟩ := holds.known_of_find? found
  obtain ⟨otherId, otherKnows⟩ := otherHolds.exists_known (perm.mem_iff.mp member)
  exact ⟨otherId, otherKnows.1, decl, knows, otherKnows⟩

/-- A name that is not found in one image is not found in the other. -/
theorem find?_eq_none {name : String} (absent : image.registry.find? name = none) :
    other.registry.find? name = none := by
  cases found : other.registry.find? name with
  | none => rfl
  | some otherId =>
    obtain ⟨id, present, -⟩ := twin_of_find? otherHolds holds perm.symm found
    rw [absent] at present
    cases present

/-- Walks from twins lead through twins, or are refused alike. -/
theorem walk_agree {origin otherOrigin : ClassId} (origins : image.Twins other origin otherOrigin)
    {room : Nat} {passed otherPassed : List ClassId}
    (before : List.Forall₂ (image.Twins other) passed otherPassed) {current otherCurrent : ClassId}
    (twins : image.Twins other current otherCurrent) :
    image.ChainsAgree other (image.registry.walk origin room passed current)
      (other.registry.walk otherOrigin room otherPassed otherCurrent) := by
  have biUnique := Twins.biUnique holds.formed otherHolds.formed
  have sameDeclared : ∀ {id otherId : ClassId}, image.Twins other id otherId →
      (other.registry.entry otherId).superName = (image.registry.entry id).superName :=
    fun twins => twins.facts.2.1.symm
  fun_induction image.registry.walk origin room passed current
    generalizing otherPassed otherCurrent with
  | case1 room passed current declared =>
    rw [walk, sameDeclared twins, declared]
    exact List.rel_reverse before
  | case2 room passed current name declared absent =>
    rw [walk, sameDeclared twins, declared]
    simp only [find?_eq_none holds otherHolds perm absent, ChainsAgree, origins.facts.1]
  | case3 room passed current name declared next found again =>
    obtain ⟨otherNext, otherFound, nextTwins⟩ := twin_of_find? holds otherHolds perm found
    have otherAgain := (List.rel_mem biUnique nextTwins before).mp again
    rw [walk, sameDeclared twins, declared]
    simp only [otherFound, if_pos otherAgain, ChainsAgree]
  | case4 passed current name declared next found new =>
    obtain ⟨otherNext, otherFound, nextTwins⟩ := twin_of_find? holds otherHolds perm found
    have otherNew := fun again => new ((List.rel_mem biUnique nextTwins before).mpr again)
    rw [walk, sameDeclared twins, declared]
    simp only [otherFound, if_neg otherNew, ChainsAgree]
  | case5 passed current name declared next found new room inductionHypothesis =>
    obtain ⟨otherNext, otherFound, nextTwins⟩ := twin_of_find? holds otherHolds perm found
    have otherNew := fun again => new ((List.rel_mem biUnique nextTwins before).mpr again)
    have onwards : other.registry.walk otherOrigin (room + 1) otherPassed otherCurrent =
        other.registry.walk otherOrigin room (otherNext :: otherPassed) otherNext := by
      rw [walk, sameDeclared twins, declared]
      simp only [otherFound, if_neg otherNew]
    rw [Nat.succ_eq_add_one, onwards]
    exact inductionHypothesis (.cons nextTwins before) nextTwins

/-- The chains of twins lead through twins, or are refused alike. -/
theorem chain_agree {id otherId : ClassId} (twins : image.Twins other id otherId) :
    image.ChainsAgree other (image.registry.chain id) (other.registry.chain otherId) := by
  have sizes : image.registry.size = other.registry.size := by
    rw [holds.roster.count, otherHolds.roster.count, perm.length_eq]
  rw [chain, chain, sizes]
  exact walk_agree holds otherHolds perm twins (.cons twins .nil) twins

/-- Twins are loaded together. -/
theorem loaded_agree {id otherId : ClassId} (twins : image.Twins other id otherId) :
    image.registry.reached id .loaded = other.registry.reached otherId .loaded := by
  rw [Bool.eq_iff_iff, holds.loaded_iff (twins.inside holds.formed),
    otherHolds.loaded_iff (twins.symm.inside otherHolds.formed)]
  exact (chain_agree holds otherHolds perm twins).exists_ok_iff

/-- Twins are at one stage. -/
theorem stage_agree {id otherId : ClassId} (twins : image.Twins other id otherId) (side : Side) :
    (image.registry.entry id).stage.get side = (other.registry.entry otherId).stage.get side := by
  rw [holds.stage_eq, otherHolds.stage_eq, loaded_agree holds otherHolds perm twins]

/-- Twins are linked to twins, or not linked. -/
theorem superclass_agree {id otherId : ClassId} (twins : image.Twins other id otherId) :
    Option.Rel (image.Twins other) (image.registry.entry id).superclass
      (other.registry.entry otherId).superclass := by
  have loaded := loaded_agree holds otherHolds perm twins
  rcases holds.formed.registered_or_loaded id with registered | isLoaded
  · have otherRegistered : other.registry.stage otherId = .registered := by
      refine (otherHolds.formed.registered_or_loaded otherId).resolve_right fun isLoaded => ?_
      rw [← loaded, reached, registered] at isLoaded
      cases isLoaded
    rw [holds.loose id registered, otherHolds.loose otherId otherRegistered]
    exact .none
  · have otherLoaded := loaded ▸ isLoaded
    rw [holds.formed.superclass_of_loaded isLoaded,
      otherHolds.formed.superclass_of_loaded otherLoaded, declaredSuper?, declaredSuper?,
      twins.facts.2.1]
    cases declared : (other.registry.entry otherId).superName with
    | none => exact .none
    | some name =>
      rw [Option.bind_some, Option.bind_some]
      cases found : image.registry.find? name with
      | none =>
        rw [find?_eq_none holds otherHolds perm found]
        exact .none
      | some above =>
        obtain ⟨otherAbove, otherFound, aboveTwins⟩ := twin_of_find? holds otherHolds perm found
        rw [otherFound]
        exact .some aboveTwins

/-- Lines lead from sides of twins to sides of twins. -/
theorem parent_agree {id otherId : ClassId} (twins : image.Twins other id otherId) (side : Side) :
    Option.Rel (image.SidesAgree other) (image.registry.parent? ⟨id, side⟩)
      (other.registry.parent? ⟨otherId, side⟩) := by
  have links := superclass_agree holds otherHolds perm twins
  rw [parent?, parent?]
  generalize (image.registry.entry id).superclass = link at links
  generalize (other.registry.entry otherId).superclass = otherLink at links
  cases links with
  | some above => exact .some ⟨above, rfl⟩
  | none =>
    cases side with
    | inst => exact .none
    | metaclass => exact .some ⟨twins, rfl⟩

/-- Twins show sides of twins as their superclasses. -/
theorem superside_agree {id otherId : ClassId} (twins : image.Twins other id otherId)
    (side : Side) :
    Option.Rel (image.SidesAgree other) (image.registry.superside? ⟨id, side⟩)
      (other.registry.superside? ⟨otherId, side⟩) := by
  have links := superclass_agree holds otherHolds perm twins
  rw [superside?, superside?]
  generalize (image.registry.entry id).superclass = link at links
  generalize (other.registry.entry otherId).superclass = otherLink at links
  cases links with
  | some above => exact .some ⟨above, rfl⟩
  | none =>
    cases side with
    | inst => exact .none
    | metaclass =>
      have stages := stage_agree holds otherHolds perm twins .metaclass
      change Option.Rel _ (if Stage.reached (BySide.get _ .metaclass) .setUp then _ else _)
        (if Stage.reached (BySide.get _ .metaclass) .setUp then _ else _)
      rw [stages]
      split
      · exact .some ⟨twins, rfl⟩
      · exact .none

/-- Twins have one size. -/
theorem size_agree {id otherId : ClassId} (twins : image.Twins other id otherId) :
    (image.registry.entry id).size = (other.registry.entry otherId).size := by
  -- Sizes are added along links, so the induction is along the line of the instance side.
  suffices along : ∀ ref : SideRef, ref.side = .inst → ∀ otherId,
      image.Twins other ref.id otherId →
        (image.registry.entry ref.id).size = (other.registry.entry otherId).size from
    along ⟨id, .inst⟩ rfl otherId twins
  intro ref
  induction ref using holds.formed.parent_induction with
  | _ ref inductionHypothesis =>
    intro isInst otherId twins
    have links := superclass_agree holds otherHolds perm twins
    rw [holds.roster.sized, otherHolds.roster.sized, twins.facts.2.2]
    generalize linked : (image.registry.entry ref.id).superclass = link at links ⊢
    generalize (other.registry.entry otherId).superclass = otherLink at links ⊢
    cases links with
    | none => rfl
    | @some above otherAbove aboveTwins =>
      have leads : image.registry.parent? ref = some ⟨above, .inst⟩ := by
        rw [parent?, linked, isInst]
      rw [Option.map_some, Option.map_some,
        inductionHypothesis ⟨above, .inst⟩ leads rfl otherAbove aboveTwins]

/-- Twins look alike from outside, apart from their tables. -/
theorem view_agree {id otherId : ClassId} (twins : image.Twins other id otherId) (side : Side) :
    (image.registry.view ⟨id, side⟩).outline = (other.registry.view ⟨otherId, side⟩).outline := by
  obtain ⟨name, superName, -⟩ := twins.facts
  have superclasses : (image.registry.superside? ⟨id, side⟩).map image.registry.label =
      (other.registry.superside? ⟨otherId, side⟩).map other.registry.label := by
    have sides := superside_agree holds otherHolds perm twins side
    generalize image.registry.superside? ⟨id, side⟩ = above at sides
    generalize other.registry.superside? ⟨otherId, side⟩ = otherAbove at sides
    cases sides with
    | none => rfl
    | some agree =>
      rw [Option.map_some, Option.map_some, label, label, agree.1.facts.1, agree.2]
  simp only [ClassView.outline, view, label, name, superName, superclasses,
    stage_agree holds otherHolds perm twins side, size_agree holds otherHolds perm twins]

variable (ordered : ∀ name, categories.filter (·.className == name) =
  otherCategories.filter (·.className == name))

include ordered

omit perm in
/-- The categories held for a name match, wherever they are kept. -/
theorem held_agree (name : String) :
    List.Forall₂ (Category.Matches image.selectors other.selectors)
      (image.registry.attachedTo name ++ image.registry.parkedFor name)
      (other.registry.attachedTo name ++ other.registry.parkedFor name) := by
  have records : ∀ {image : Image} {categories : List CategoryDecl}, image.Ledger categories →
      List.Forall₂ (fun category decl => ∃ serial, category.Realizes image.selectors serial decl)
        (image.registry.attachedTo name ++ image.registry.parkedFor name)
        (categories.filter (·.className == name)) := by
    intro image categories ledger
    rw [← CategoryDecl.map_fst_forName, List.forall₂_map_right_iff]
    exact (ledger.held name).imp fun _ entry realizes => ⟨entry.2, realizes⟩
  refine forall₂_meet ?_ (records holds.ledger) (ordered name ▸ records otherHolds.ledger)
  rintro category another decl ⟨serial, realizes⟩ ⟨otherSerial, otherRealizes⟩
  exact realizes.meet otherRealizes

/-- The categories attached for a name match, and so do those that wait. -/
theorem categories_agree (name : String) :
    List.Forall₂ (Category.Matches image.selectors other.selectors)
        (image.registry.attachedTo name) (other.registry.attachedTo name) ∧
      List.Forall₂ (Category.Matches image.selectors other.selectors)
        (image.registry.parkedFor name) (other.registry.parkedFor name) := by
  have held := held_agree holds otherHolds ordered name
  rcases holds.places name with ⟨⟨id, found, loaded⟩, nothing⟩ | ⟨early, nothing⟩
  · obtain ⟨otherId, otherFound, twins⟩ := twin_of_find? holds otherHolds perm found
    rw [loaded_agree holds otherHolds perm twins] at loaded
    rcases otherHolds.places name with ⟨-, otherNothing⟩ | ⟨otherEarly, -⟩
    · rw [nothing, otherNothing, List.append_nil, List.append_nil] at held
      rw [nothing, otherNothing]
      exact ⟨held, .nil⟩
    · rw [otherEarly otherId otherFound] at loaded
      cases loaded
  · rcases otherHolds.places name with ⟨⟨otherId, otherFound, loaded⟩, -⟩ | ⟨-, otherNothing⟩
    · obtain ⟨id, found, twins⟩ := twin_of_find? otherHolds holds perm.symm otherFound
      rw [loaded_agree otherHolds holds perm.symm twins, early id found] at loaded
      cases loaded
    · rw [nothing, otherNothing, List.nil_append, List.nil_append] at held
      rw [nothing, otherNothing]
      exact ⟨.nil, held⟩

/-- Twins declare the same methods in the same order. -/
theorem declarations_agree {id otherId : ClassId} (twins : image.Twins other id otherId)
    (side : Side) :
    List.Forall₂ (Method.Matches image.selectors other.selectors)
      ((image.registry.entry id).declarations side)
      ((other.registry.entry otherId).declarations side) := by
  obtain ⟨name, found, otherFound⟩ := twins.found
  have attached := (categories_agree holds otherHolds perm ordered name).1
  rw [attachedTo_of_find? found, attachedTo_of_find? otherFound] at attached
  exact List.rel_append (twins.methods side)
    (List.rel_flatMap attached fun _ _ matching => matching.methods side)

/-- Selectors of one signature mean the same on sides of twins. -/
theorem resolve_agree {signature : Signature} {selector otherSelector : Selector}
    (resolved : image.selectors.resolve? selector = some signature)
    (otherResolved : other.selectors.resolve? otherSelector = some signature)
    {ref otherRef : SideRef} (agree : image.SidesAgree other ref otherRef) :
    image.registry.resolve ref selector = other.registry.resolve otherRef otherSelector := by
  induction ref using holds.formed.parent_induction generalizing otherRef with
  | _ ref inductionHypothesis =>
    obtain ⟨id, side⟩ := ref
    obtain ⟨otherId, otherSide⟩ := otherRef
    obtain ⟨twins, rfl⟩ : image.Twins other id otherId ∧ side = otherSide := agree
    have parents := parent_agree holds otherHolds perm twins side
    have owns : image.registry.own ⟨id, side⟩ selector =
        other.registry.own ⟨otherId, side⟩ otherSelector :=
      Method.lastFor_matches holds.roster.lawful otherHolds.roster.lawful resolved otherResolved
        (declarations_agree holds otherHolds perm ordered twins side)
    rw [holds.formed.resolve_eq, otherHolds.formed.resolve_eq, owns]
    generalize image.registry.parent? ⟨id, side⟩ = above at parents inductionHypothesis ⊢
    generalize other.registry.parent? ⟨otherId, side⟩ = otherAbove at parents ⊢
    cases parents with
    | none => rfl
    | some agreeAbove =>
      rw [Option.bind_some, Option.bind_some, inductionHypothesis _ rfl agreeAbove]

end

end Image.Holds

end LateBinding
