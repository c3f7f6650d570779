import LateBinding.Proofs.LoadCalls
import LateBinding.Proofs.Roster

/-!
# What an image has gathered

What becomes of an image that takes things in depends on more than what arrives: a category
may be attached or wait, and classes may be raised early or late. What an image has gathered
does not. Its selectors are those it had with the signatures that arrived, its classes are
those it had followed by those that arrived, its categories likewise, and every hook that the
difference makes due has been made due once. This holds of every edit that replaces no method,
and of edits one after the other.
-/

namespace LateBinding

/-- The selectors when something has arrived. -/
def Arrival.enter {hash : String → Nat} (table : SelectorTable hash) :
    Arrival → SelectorTable hash
  | .signature given => (table.intern given).table
  | _ => table

/-- What a class declares itself is what was declared. -/
def ClassDecl.Listed {hash : String → Nat} (table : SelectorTable hash)
    (facts : String × Option String × Nat × BySide (List Method)) (decl : ClassDecl) : Prop :=
  ∃ methods, facts = (decl.name, decl.superclass, decl.size, methods) ∧
    table.Spells methods decl.sides

/-- What is listed under a selector table is listed under one that extends it. -/
theorem ClassDecl.Listed.extend {hash : String → Nat} {table grown : SelectorTable hash}
    (extended : table.Extends grown) {facts : String × Option String × Nat × BySide (List Method)}
    {decl : ClassDecl} (listed : decl.Listed table facts) : decl.Listed grown facts := by
  obtain ⟨methods, same, spelled⟩ := listed
  exact ⟨methods, same, spelled.extend extended⟩

namespace Registry

/-- What the classes of a registry declare themselves, in the order of their numbers. -/
def roll (registry : Registry) : List (String × Option String × Nat × BySide (List Method)) :=
  registry.column ClassEntry.facts

variable {registry after : Registry}

/-- There is an entry for each class. -/
theorem length_roll : registry.roll.length = registry.size := registry.length_column _

/-- The entries bear the names of the classes, in the order of registration. -/
theorem map_fst_roll : registry.roll.map Prod.fst = registry.names := by
  rw [roll, column, List.map_map]
  rfl

/-- Registries with the same facts have the same roll. -/
theorem roll_congr (size : after.size = registry.size)
    (facts : ∀ id, (after.entry id).facts = (registry.entry id).facts) :
    after.roll = registry.roll := by
  rw [roll, column, size, funext facts]
  rfl

/-- Tables are not on the roll. -/
theorem roll_of_bare (same : after.bare = registry.bare) : after.roll = registry.roll :=
  roll_congr (size_of_bare same) (field_of_bare same ClassEntry.facts fun _ => rfl)

/-- A class of a registry is on its roll. -/
theorem getElem?_roll {id : ClassId} (inside : id < registry.size) :
    registry.roll[id]? = some (registry.entry id).facts :=
  registry.getElem?_column _ inside

/-- Registries with one roll have the same classes. -/
theorem facts_of_roll (same : after.roll = registry.roll) :
    after.size = registry.size ∧ ∀ id, (after.entry id).facts = (registry.entry id).facts := by
  have size : after.size = registry.size := by rw [← length_roll, same, length_roll]
  refine ⟨size, fun id => ?_⟩
  by_cases inside : id < registry.size
  · have here := getElem?_roll inside
    rw [← same, getElem?_roll (size ▸ inside)] at here
    exact Option.some.inj here
  · have outside := Nat.le_of_not_lt inside
    rw [entry_of_size_le _ outside, entry_of_size_le _ (size ▸ outside)]

/-- What the classes of a registry declare stays when others are added. -/
theorem facts_of_roll_append {new : List (String × Option String × Nat × BySide (List Method))}
    (grown : after.roll = registry.roll ++ new) {id : ClassId} (inside : id < registry.size) :
    (after.entry id).facts = (registry.entry id).facts := by
  have size := congrArg List.length grown
  rw [List.length_append, length_roll, length_roll] at size
  have within : id < after.size := by
    rw [size]
    exact Nat.lt_add_right _ inside
  have here := getElem?_roll within
  rw [grown, List.getElem?_append_left (by rwa [length_roll]), getElem?_roll inside] at here
  exact (Option.some.inj here).symm

/-- What became due for a class along two changes is what became due along each. -/
theorem Owes.trans {before between : Registry} {selector : Selector} {target : ClassId}
    {due more : List LoadHook} (first : before.Owes between selector target due)
    (second : between.Owes after selector target more)
    (same : between.reached target .loaded = true →
      after.ownHook selector target = between.ownHook selector target) :
    before.Owes after selector target (due ++ more) where
  attached := by
    rw [second.attached, first.attached, List.filter_append, List.append_assoc]
  own := by
    rw [List.filter_append, first.own, second.own]
    cases early : before.reached target .loaded with
    | true => simp [first.kept early]
    | false =>
      cases middle : between.reached target .loaded with
      | true => simp [same middle, second.kept middle]
      | false => simp
  kept loaded := second.kept (first.kept loaded)

end Registry

/-- What an image has gathered when these things have arrived and these hooks have become
    due. -/
structure Image.Gathers [NameHash] (before : Image) (arrivals : List Arrival)
    (hooks : List LoadHook) (after : Image) : Prop where
  rest : after = { before with
    selectors := arrivals.foldl Arrival.enter before.selectors
    registry := after.registry }
  roll : ∃ new, after.registry.roll = before.registry.roll ++ new ∧
    List.Forall₂ (fun facts decl => ClassDecl.Listed after.selectors facts decl) new
      (arrivals.filterMap Arrival.class?)
  ledger : ∀ registered, before.Ledger registered →
    after.Ledger (registered ++ arrivals.filterMap Arrival.category?)
  sized : before.registry.Sized → after.registry.Sized
  initialized : ∀ id, after.registry.reached id .initialized =
    before.registry.reached id .initialized
  initializing : ∀ id, (after.registry.entry id).initializing =
    (before.registry.entry id).initializing
  owes : ∀ registered, before.Ledger registered → ∀ target,
    before.registry.Owes after.registry before.loadSelector target hooks

namespace Draft

open Registry

variable [NameHash] {before between after : Draft} {arrivals : List Arrival} {order : List ClassId}

/-- Of an image an arrival changes the selectors and the registry. -/
theorem Takes.rest {arrival : Arrival} (takes : before.Takes arrival after) :
    after.image = { before.image with
      selectors := arrival.enter before.image.selectors
      registry := after.image.registry } := by
  cases takes with
  | signature image _ => rw [image]; rfl
  | newClass _ _ image _ => rw [image]; rfl
  | waiting _ _ image _ => rw [image]; rfl
  | attached _ _ _ image _ _ => exact image
  | newMethod image _ _ => exact image

/-- So do several. -/
theorem TakesIn.rest (taken : before.TakesIn arrivals after) :
    after.image = { before.image with
      selectors := arrivals.foldl Arrival.enter before.image.selectors
      registry := after.image.registry } := by
  induction taken with
  | none draft reports => rfl
  | first takes _ _ _ inductionHypothesis =>
    rw [inductionHypothesis, takes.rest]
    rfl

/-- A class that arrives is put on the roll, and nothing else is. -/
theorem Takes.roll {arrival : Arrival} (takes : before.Takes arrival after)
    (declares : arrival.replaces = false) :
    ∃ new, after.image.registry.roll = before.image.registry.roll ++ new ∧
      List.Forall₂ (fun facts decl => ClassDecl.Listed after.image.selectors facts decl) new
        arrival.class?.toList := by
  have nothing : after.image.registry.roll = before.image.registry.roll → arrival.class? = none →
      ∃ new, after.image.registry.roll = before.image.registry.roll ++ new ∧
        List.Forall₂ (fun facts decl => ClassDecl.Listed after.image.selectors facts decl) new
          arrival.class?.toList := by
    intro same none
    rw [none]
    exact ⟨[], same.trans (List.append_nil _).symm, .nil⟩
  cases takes with
  | signature image _ =>
    refine nothing ?_ rfl
    rw [image]
  | @newClass decl methods _ _ spelled image _ =>
    rw [image]
    exact ⟨_, before.image.registry.column_push _ _, .cons ⟨methods, rfl, spelled⟩ .nil⟩
  | waiting _ _ image _ =>
    refine nothing ?_ rfl
    rw [image]
    rfl
  | attached _ _ loaded _ bare _ =>
    refine nothing ?_ rfl
    refine (roll_of_bare bare).trans (roll_congr ?_ fun other => ?_)
    · rw [attach, size_modify]
      rfl
    · rw [entry_attach _ (lt_size_of_reached loaded)]
      rfl
  | newMethod _ _ _ => cases declares

/-- Classes that arrive are put at the end of the roll. -/
theorem TakesIn.roll (taken : before.TakesIn arrivals after)
    (declare : ∀ arrival ∈ arrivals, arrival.replaces = false) :
    ∃ new, after.image.registry.roll = before.image.registry.roll ++ new ∧
      List.Forall₂ (fun facts decl => ClassDecl.Listed after.image.selectors facts decl) new
        (arrivals.filterMap Arrival.class?) := by
  induction taken with
  | none draft reports => exact ⟨[], (List.append_nil _).symm, .nil⟩
  | @first draft next after arrival rest takes _ _ others inductionHypothesis =>
    obtain ⟨new, grown, listed⟩ := takes.roll (declare arrival List.mem_cons_self)
    obtain ⟨more, grownAgain, listedAgain⟩ := inductionHypothesis fun later member =>
      declare later (List.mem_cons_of_mem _ member)
    refine ⟨new ++ more, by rw [grownAgain, grown, List.append_assoc], ?_⟩
    have still := listed.imp fun _ _ => ClassDecl.Listed.extend others.selectors
    rw [List.filterMap_cons]
    cases given : arrival.class? with
    | none =>
      rw [given] at still
      cases still with
      | nil => exact listedAgain
    | some decl =>
      rw [given] at still
      exact List.rel_append still listedAgain

/-- Sizes are in order after whatever arrives. -/
theorem Takes.sized {arrival : Arrival} (takes : before.Takes arrival after)
    (formed : before.image.registry.Formed) (sized : before.image.registry.Sized) :
    after.image.registry.Sized := by
  cases takes with
  | signature image _ =>
    rw [image]
    exact sized
  | newClass _ _ image _ =>
    rw [image]
    exact sized.push formed _ _ _ _
  | waiting _ _ image _ =>
    rw [image]
    exact sized.alter (fun _ => rfl) (fun _ => rfl) fun _ => rfl
  | @attached _ category id _ _ _ loaded _ bare _ =>
    have entries := before.image.registry.entry_attach (lt_size_of_reached loaded) category
    refine Sized.of_bare (sized.alter ?_ ?_ ?_) bare
    · exact fun other => by rw [entries]
    · exact fun other => by rw [entries]
    · exact fun other => by rw [entries]
  | newMethod _ bare _ =>
    refine Sized.of_bare (sized.alter ?_ ?_ ?_) bare
    · exact before.image.registry.field_replaceMethod _ _ _ ClassEntry.size fun _ _ => rfl
    · exact before.image.registry.field_replaceMethod _ _ _ ClassEntry.superclass fun _ _ => rfl
    · exact before.image.registry.field_replaceMethod _ _ _ ClassEntry.declaredSize fun _ _ => rfl

/-- Sizes stay right when something arrives. -/
theorem TakesIn.sized (taken : before.TakesIn arrivals after)
    (formed : before.image.registry.Formed) (sized : before.image.registry.Sized) :
    after.image.registry.Sized := by
  induction taken with
  | none draft reports => exact sized
  | first takes sound _ _ inductionHypothesis =>
    exact inductionHypothesis sound.formed (takes.sized formed sized)

/-- They stay right when classes are raised. -/
theorem Raises.sized (raises : before.Raises order after) (formed : before.image.registry.Formed)
    (sized : before.image.registry.Sized) : after.image.registry.Sized := by
  induction raises with
  | none draft => exact sized
  | first raised _ inductionHypothesis =>
    exact inductionHypothesis raised.sound.formed
      ((sized.raise formed raised.raisable).of_bare raised.bare)

/-- So they do along a whole change. -/
theorem Amends.sized (amends : before.Amends arrivals order after)
    (sound : before.image.registry.Sound) (sized : before.image.registry.Sized) :
    after.image.registry.Sized := by
  obtain ⟨entered, settled, taken, raises, retabled, -⟩ := amends
  exact (raises.sized (taken.kept sound).1.formed (taken.sized sound.formed sized)).of_bare
    retabled.bare

/-- Raising a class changes nothing that was declared. -/
theorem Raises.facts (raises : before.Raises order after) (id : ClassId) :
    (after.image.registry.entry id).facts = (before.image.registry.entry id).facts := by
  induction raises with
  | none draft => rfl
  | first raised _ inductionHypothesis =>
    rw [inductionHypothesis, raised.field ClassEntry.facts fun _ _ _ _ _ _ _ => rfl]

/-- Apart from its registry, an edit changes the selectors of an image and nothing else. -/
theorem Amends.rest (amends : before.Amends arrivals order after)
    (sound : before.image.registry.Sound) :
    after.image = { before.image with
      selectors := arrivals.foldl Arrival.enter before.image.selectors
      registry := after.image.registry } := by
  obtain ⟨entered, settled, taken, raises, retabled, -⟩ := amends
  rw [retabled.image, (raises.advanced (taken.kept sound).1).image, taken.rest]

/-- An edit that replaces no method gathers what arrives with it. -/
theorem Amends.gathers {image : Image} (amends : Amends { image } arrivals order after)
    (sound : image.registry.Sound) (declare : ∀ arrival ∈ arrivals, arrival.replaces = false) :
    image.Gathers arrivals after.hooks after.image := by
  have whole := amends
  obtain ⟨entered, settled, taken, raises, retabled, soundAfter⟩ := amends
  have advanced := raises.advanced (taken.kept sound).1
  refine ⟨whole.rest sound, ?_, fun registered ledger => whole.ledger sound ledger,
    whole.sized sound,
    fun id => (whole.unprepared id).1, fun id => (whole.unprepared id).2,
    fun registered ledger target => ?_⟩
  · obtain ⟨new, grown, listed⟩ := taken.roll declare
    have same : after.image.selectors = entered.image.selectors := by
      rw [retabled.image, advanced.image]
    refine ⟨new, ?_, same ▸ listed⟩
    rw [roll_of_bare retabled.bare, roll_congr advanced.size raises.facts, grown]
  · obtain ⟨⟨early, order, blocks⟩, attached⟩ :=
      Image.blocks_of_amends whole sound soundAfter ledger
    refine ⟨attached target, ?_, fun loaded => (whole.loaded_iff target).mpr (.inr loaded)⟩
    simp only [blocks.filter_isOwn, blocks.loaded]

end Draft

namespace Image.Gathers

open Registry

variable [NameHash] {before between after : Image} {arrivals others : List Arrival}
  {hooks more : List LoadHook}

/-- An image gathers nothing where nothing arrives. -/
theorem refl (image : Image) : image.Gathers [] [] image where
  rest := rfl
  roll := ⟨[], (List.append_nil _).symm, .nil⟩
  ledger registered ledger := by
    rw [List.filterMap_nil, List.append_nil]
    exact ledger
  sized given := given
  initialized _ := rfl
  initializing _ := rfl
  owes _ _ _ := .nothing rfl rfl

/-- What was declared before stays. -/
theorem facts (gathers : before.Gathers arrivals hooks after) {id : ClassId}
    (inside : id < before.registry.size) :
    (after.registry.entry id).facts = (before.registry.entry id).facts := by
  obtain ⟨new, grown, -⟩ := gathers.roll
  exact facts_of_roll_append grown inside

/-- The names of the classes are those that were there and those that have arrived. -/
theorem names (gathers : before.Gathers arrivals hooks after) :
    after.registry.names =
      before.registry.names ++ (arrivals.filterMap Arrival.class?).map ClassDecl.name := by
  obtain ⟨new, grown, listed⟩ := gathers.roll
  rw [← map_fst_roll, grown, List.map_append, map_fst_roll]
  refine congrArg (_ ++ ·) ?_
  clear grown
  generalize arrivals.filterMap Arrival.class? = classes at listed ⊢
  induction listed with
  | nil => rfl
  | cons first _ inductionHypothesis =>
    obtain ⟨methods, rfl, -⟩ := first
    rw [List.map_cons, List.map_cons, inductionHypothesis]

omit [NameHash] in
/-- Selectors stay as they are when others are added. -/
theorem selectors_extend {hash : String → Nat} (table : SelectorTable hash)
    (arrivals : List Arrival) : table.Extends (arrivals.foldl Arrival.enter table) := by
  induction arrivals generalizing table with
  | nil => exact .refl table
  | cons arrival rest inductionHypothesis =>
    rw [List.foldl_cons]
    refine SelectorTable.Extends.trans ?_ (inductionHypothesis (arrival.enter table))
    cases arrival with
    | signature given => exact SelectorTable.extends_intern given
    | newClass | newCategory | newMethod => exact .refl table

omit [NameHash] in
/-- A selector table stays lawful whatever arrives. -/
theorem lawful_foldl {hash : String → Nat} {table : SelectorTable hash} (lawful : table.Lawful)
    (arrivals : List Arrival) : (arrivals.foldl Arrival.enter table).Lawful := by
  induction arrivals generalizing table with
  | nil => exact lawful
  | cons arrival rest inductionHypothesis =>
    rw [List.foldl_cons]
    refine inductionHypothesis ?_
    cases arrival with
    | signature given => exact lawful.intern given
    | newClass | newCategory | newMethod => exact lawful

/-- Its selectors are those that the arrivals have entered. -/
theorem selectors (gathers : before.Gathers arrivals hooks after) :
    after.selectors = arrivals.foldl Arrival.enter before.selectors := by
  rw [gathers.rest]

/-- The selector of `load` stays. -/
theorem loadSelector (gathers : before.Gathers arrivals hooks after) :
    after.loadSelector = before.loadSelector := by
  rw [gathers.rest]

/-- What is gathered one after the other is gathered. -/
theorem trans (first : before.Gathers arrivals hooks between)
    (second : between.Gathers others more after) :
    before.Gathers (arrivals ++ others) (hooks ++ more) after where
  rest := by
    rw [second.rest, first.rest, List.foldl_append]
  roll := by
    obtain ⟨new, grown, listed⟩ := first.roll
    obtain ⟨newer, grownAgain, listedAgain⟩ := second.roll
    refine ⟨new ++ newer, by rw [grownAgain, grown, List.append_assoc], ?_⟩
    have extended : between.selectors.Extends after.selectors := by
      rw [second.selectors]
      exact selectors_extend _ others
    rw [List.filterMap_append]
    exact List.rel_append (listed.imp fun _ _ => ClassDecl.Listed.extend extended) listedAgain
  ledger registered ledger := by
    rw [List.filterMap_append, ← List.append_assoc]
    exact second.ledger _ (first.ledger registered ledger)
  sized given := second.sized (first.sized given)
  initialized id := (second.initialized id).trans (first.initialized id)
  initializing id := (second.initializing id).trans (first.initializing id)
  owes registered ledger target := by
    have later := second.owes _ (first.ledger registered ledger) target
    rw [first.loadSelector] at later
    refine (first.owes registered ledger target).trans later fun loaded => ?_
    have facts := second.facts (lt_size_of_reached loaded)
    simp only [ClassEntry.facts, Prod.mk.injEq] at facts
    exact ownHook_congr facts.1 facts.2.2.2

end Image.Gathers

end LateBinding
