import LateBinding.Proofs.Interning
import LateBinding.Proofs.Registering

/-!
# What arrives at an image

An edit takes in signatures, classes, categories and methods, one after the other, then
raises the classes that can make progress, and may build tables at the end. `Takes` says
once what each arrival does to an image and which hooks it makes due. Whatever is to be
known of a registration is known from that, from one raise, and from the fact that tables
are built beside everything else.

Methods are declared under signatures and kept under selectors. They are spelled by a table
if the selector of each stands for the signature it was declared under. Tables only add
signatures, so methods that were spelled once stay so.
-/

namespace LateBinding

/-- The methods that a class declares for each side. -/
def ClassDecl.sides (decl : ClassDecl) : BySide (List MethodDecl) :=
  ⟨decl.methods, decl.classMethods⟩

/-- The methods that a category declares for each side. -/
def CategoryDecl.sides (decl : CategoryDecl) : BySide (List MethodDecl) :=
  ⟨decl.methods, decl.classMethods⟩

/-- A method is the one that was declared. -/
def Method.Spelled {hash : String → Nat} (table : SelectorTable hash) (method : Method)
    (decl : MethodDecl) : Prop :=
  table.resolve? method.selector = some decl.signature ∧ method.imp = decl.imp

/-- The methods of both sides are those that were declared, in the same order. -/
def SelectorTable.Spells {hash : String → Nat} (table : SelectorTable hash)
    (methods : BySide (List Method)) (decls : BySide (List MethodDecl)) : Prop :=
  ∀ side, List.Forall₂ (Method.Spelled table) (methods.get side) (decls.get side)

/-- A category is the one that was declared, registered under this number. -/
structure Category.Realizes {hash : String → Nat} (table : SelectorTable hash)
    (category : Category) (serial : Nat) (decl : CategoryDecl) : Prop where
  serial : category.serial = serial
  name : category.name = decl.name
  className : category.className = decl.className
  spelled : table.Spells category.methods decl.sides

section

variable {hash : String → Nat} {before after : SelectorTable hash}

/-- A method that is spelled under a table is spelled under one that extends it. -/
theorem Method.Spelled.extend (grown : before.Extends after) {method : Method} {decl : MethodDecl}
    (spelled : method.Spelled before decl) : method.Spelled after decl :=
  ⟨grown _ _ spelled.1, spelled.2⟩

/-- So are the methods of both sides. -/
theorem SelectorTable.Spells.extend (grown : before.Extends after) {methods : BySide (List Method)}
    {decls : BySide (List MethodDecl)} (spells : before.Spells methods decls) :
    after.Spells methods decls :=
  fun side => (spells side).imp fun _ _ => Method.Spelled.extend grown

/-- And a category. -/
theorem Category.Realizes.extend (grown : before.Extends after) {category : Category}
    {serial : Nat} {decl : CategoryDecl} (realizes : category.Realizes before serial decl) :
    category.Realizes after serial decl :=
  ⟨realizes.serial, realizes.name, realizes.className, realizes.spelled.extend grown⟩

end

/-- Something that arrives at an image. -/
inductive Arrival where
  | signature (signature : Signature)
  | newClass (decl : ClassDecl)
  | newCategory (decl : CategoryDecl)
  /-- A method takes the place of another one. -/
  | newMethod (ref : SideRef) (selector : Selector) (imp : Imp)

/-- The category that arrives, if it is one. -/
def Arrival.category? : Arrival → Option CategoryDecl
  | .newCategory decl => some decl
  | _ => none

/-- The signatures that arrive with the methods of both sides. -/
def Arrival.signatures (decls : BySide (List MethodDecl)) : List Arrival :=
  ((decls.inst ++ decls.metaclass).map MethodDecl.signature).map .signature

/-- What is reported about a class whose name is taken. -/
def ClassDecl.ignored (decl : ClassDecl) : Log.Message :=
  ⟨.warn, "class " ++ decl.name ++ " is already registered, ignoring duplicate"⟩

/-- What arrives with a class: the signatures of its methods, and then the class. -/
def ClassDecl.arrivals (decl : ClassDecl) : List Arrival :=
  Arrival.signatures decl.sides ++ [.newClass decl]

/-- What arrives with a category. -/
def CategoryDecl.arrivals (decl : CategoryDecl) : List Arrival :=
  Arrival.signatures decl.sides ++ [.newCategory decl]

/-- What signatures have no part in is not among them. -/
theorem Arrival.filterMap_signature {α : Type} {pick : Arrival → Option α}
    (blind : ∀ signature, pick (.signature signature) = none) (signatures : List Signature) :
    (signatures.map Arrival.signature).filterMap pick = [] := by
  rw [List.filterMap_map]
  exact List.filterMap_eq_nil_iff.mpr fun signature _ => blind signature

/-- After the signatures comes one arrival of another kind. -/
theorem Arrival.filterMap_signatures {α : Type} {pick : Arrival → Option α}
    (blind : ∀ signature, pick (.signature signature) = none) (decls : BySide (List MethodDecl))
    (last : Arrival) : (signatures decls ++ [last]).filterMap pick = (pick last).toList := by
  rw [List.filterMap_append, signatures, filterMap_signature blind, List.nil_append,
    List.filterMap_eq_flatMap_toList, List.flatMap_singleton]

/-- With a class no category arrives. -/
theorem ClassDecl.category?_arrivals (decl : ClassDecl) :
    decl.arrivals.filterMap Arrival.category? = [] :=
  Arrival.filterMap_signatures (fun _ => rfl) decl.sides (.newClass decl)

/-- With a category it arrives. -/
theorem CategoryDecl.category?_arrivals (decl : CategoryDecl) :
    decl.arrivals.filterMap Arrival.category? = [decl] :=
  Arrival.filterMap_signatures (fun _ => rfl) decl.sides (.newCategory decl)

/-- The classes of a list that can be registered, one after the other, where some names are
    taken. -/
def ClassDecl.fresh (names : List String) : List ClassDecl → List ClassDecl
  | [] => []
  | decl :: rest =>
    if decl.name ∈ names then fresh names rest else decl :: fresh (names ++ [decl.name]) rest

/-- What arrives with a module where some names are taken. -/
def ModuleDecl.arrivals (decl : ModuleDecl) (names : List String) : List Arrival :=
  decl.signatures.map .signature ++
    ((ClassDecl.fresh names decl.classes).flatMap ClassDecl.arrivals ++
      decl.categories.flatMap CategoryDecl.arrivals)

/-- With a module its categories arrive. -/
theorem ModuleDecl.category?_arrivals (decl : ModuleDecl) (names : List String) :
    (decl.arrivals names).filterMap Arrival.category? = decl.categories := by
  rw [arrivals, List.filterMap_append, List.filterMap_append, List.filterMap_flatMap,
    List.filterMap_flatMap, Arrival.filterMap_signature fun _ => rfl]
  have none : (ClassDecl.fresh names decl.classes).flatMap
      (fun decl => decl.arrivals.filterMap Arrival.category?) = [] :=
    List.flatMap_eq_nil_iff.mpr fun decl _ => decl.category?_arrivals
  rw [none, List.nil_append, List.nil_append, funext CategoryDecl.category?_arrivals,
    List.flatMap_singleton']

/-- What an arrival does to an image. A category is attached if its class is loaded, and then
    its hook is due; otherwise it waits. -/
inductive Draft.Takes [NameHash] (before : Draft) : Arrival → Draft → Prop
  | signature {signature : Signature} {after : Draft}
      (image : after.image =
        { before.image with selectors := (before.image.selectors.intern signature).table })
      (hooks : after.hooks = before.hooks) : Takes before (.signature signature) after
  | newClass {decl : ClassDecl} {methods : BySide (List Method)} {after : Draft}
      (fresh : before.image.registry.find? decl.name = none)
      (spelled : before.image.selectors.Spells methods decl.sides)
      (image : after.image = { before.image with
        registry := before.image.registry.push
          (.declared decl.name decl.superclass decl.size methods) })
      (hooks : after.hooks = before.hooks) : Takes before (.newClass decl) after
  | waiting {decl : CategoryDecl} {category : Category} {after : Draft}
      (realizes : category.Realizes before.image.selectors before.image.registry.categoryCount decl)
      (early : ∀ id, before.image.registry.find? decl.className = some id →
        before.image.registry.reached id .loaded = false)
      (image : after.image = { before.image with
        registry := before.image.registry.countCategory.park category })
      (hooks : after.hooks = before.hooks) : Takes before (.newCategory decl) after
  | attached {decl : CategoryDecl} {category : Category} {id : ClassId} {after : Draft}
      (realizes : category.Realizes before.image.selectors before.image.registry.categoryCount decl)
      (found : before.image.registry.find? decl.className = some id)
      (loaded : before.image.registry.reached id .loaded = true)
      (image : after.image = { before.image with registry := after.image.registry })
      (bare : after.image.registry.bare =
        (before.image.registry.countCategory.attach id category).bare)
      (hooks : after.hooks = before.hooks ++ (category.hook before.image.loadSelector id).toList) :
      Takes before (.newCategory decl) after
  | newMethod {ref : SideRef} {selector : Selector} {imp : Imp} {after : Draft}
      (image : after.image = { before.image with registry := after.image.registry })
      (bare : after.image.registry.bare =
        (before.image.registry.replaceMethod ref selector imp).bare)
      (hooks : after.hooks = before.hooks) : Takes before (.newMethod ref selector imp) after

/-- An edit has taken in what is on a list, one after the other, and the registry was in
    order after each. Reports are left open. -/
inductive Draft.TakesIn [NameHash] : Draft → List Arrival → Draft → Prop
  | none (draft : Draft) (reports : List Log.Message) : TakesIn draft [] { draft with reports }
  | first {draft next after : Draft} {arrival : Arrival} {rest : List Arrival}
      (takes : draft.Takes arrival next) (sound : next.image.registry.Sound)
      (grows : draft.image.registry.Grows next.image.registry) (others : TakesIn next rest after) :
      TakesIn draft (arrival :: rest) after

/-- An edit has taken in what arrived, then raised classes in this order, and built tables. -/
def Draft.Amends [NameHash] (before : Draft) (arrivals : List Arrival) (order : List ClassId)
    (after : Draft) : Prop :=
  ∃ entered settled, before.TakesIn arrivals entered ∧ entered.Raises order settled ∧
    settled.Retabled after ∧ after.image.registry.Sound

namespace Draft

variable [NameHash] {before between after : Draft} {arrivals others : List Arrival}
  {order : List ClassId}

/-- One arrival is a list of one. -/
theorem Takes.takesIn {arrival : Arrival} (takes : before.Takes arrival after)
    (sound : after.image.registry.Sound)
    (grows : before.image.registry.Grows after.image.registry) : before.TakesIn [arrival] after :=
  .first takes sound grows (.none after after.reports)

/-- Reports have no part in what an arrival does. -/
theorem Takes.of_reports {arrival : Arrival} {reports : List Log.Message}
    (takes : Takes { before with reports } arrival after) : before.Takes arrival after := by
  cases takes with
  | signature image hooks => exact .signature image hooks
  | newClass fresh spelled image hooks => exact .newClass fresh spelled image hooks
  | waiting realizes early image hooks => exact .waiting realizes early image hooks
  | attached realizes found loaded image bare hooks =>
    exact .attached realizes found loaded image bare hooks
  | newMethod image bare hooks => exact .newMethod image bare hooks

/-- Arrivals one after the other arrive in that order. -/
theorem TakesIn.trans (first : before.TakesIn arrivals between)
    (second : between.TakesIn others after) : before.TakesIn (arrivals ++ others) after := by
  induction first with
  | none draft reports =>
    cases second with
    | none _ more => exact .none draft more
    | first takes sound grows rest => exact .first takes.of_reports sound grows rest
  | first takes sound grows _ inductionHypothesis =>
    exact .first takes sound grows (inductionHypothesis second)

/-- A registry in order stays in order, and grows. -/
theorem TakesIn.kept (taken : before.TakesIn arrivals after)
    (sound : before.image.registry.Sound) :
    after.image.registry.Sound ∧ before.image.registry.Grows after.image.registry := by
  induction taken with
  | none draft reports => exact ⟨sound, .refl _⟩
  | first takes soundNext grows _ inductionHypothesis =>
    obtain ⟨soundAfter, growsAfter⟩ := inductionHypothesis soundNext
    exact ⟨soundAfter, grows.trans growsAfter⟩

/-- An edit that raises nothing and builds no tables at the end. -/
theorem TakesIn.amends (taken : before.TakesIn arrivals after)
    (sound : before.image.registry.Sound) : before.Amends arrivals [] after :=
  ⟨after, after, taken, .none after, .refl after, (taken.kept sound).1⟩

/-- An edit that settles what it has taken in. -/
theorem TakesIn.settled (taken : before.TakesIn arrivals between)
    (sound : before.image.registry.Sound) (raises : between.Raises order after) :
    before.Amends arrivals order after :=
  ⟨between, after, taken, raises, .refl after, (raises.advanced (taken.kept sound).1).sound⟩

/-- An arrival extends the selector table. -/
theorem Takes.selectors {arrival : Arrival} (takes : before.Takes arrival after) :
    before.image.selectors.Extends after.image.selectors := by
  cases takes with
  | signature image _ =>
    rw [image]
    exact SelectorTable.extends_intern _
  | newClass _ _ image _ =>
    rw [image]
    exact .refl _
  | waiting _ _ image _ =>
    rw [image]
    exact .refl _
  | attached _ _ _ image _ _ =>
    rw [image]
    exact .refl _
  | newMethod image _ _ =>
    rw [image]
    exact .refl _

/-- So do several. -/
theorem TakesIn.selectors (taken : before.TakesIn arrivals after) :
    before.image.selectors.Extends after.image.selectors := by
  induction taken with
  | none draft reports => exact .refl _
  | first takes _ _ _ inductionHypothesis => exact takes.selectors.trans inductionHypothesis

/-- The selectors that the image itself sends stay the same. -/
theorem Takes.reserved {arrival : Arrival} (takes : before.Takes arrival after) :
    after.image.loadSelector = before.image.loadSelector ∧
      after.image.initSelector = before.image.initSelector := by
  cases takes with
  | signature image _ => exact ⟨by rw [image], by rw [image]⟩
  | newClass _ _ image _ => exact ⟨by rw [image], by rw [image]⟩
  | waiting _ _ image _ => exact ⟨by rw [image], by rw [image]⟩
  | attached _ _ _ image _ _ => exact ⟨by rw [image], by rw [image]⟩
  | newMethod image _ _ => exact ⟨by rw [image], by rw [image]⟩

/-- The two selectors of the image stay when something arrives. -/
theorem TakesIn.reserved (taken : before.TakesIn arrivals after) :
    after.image.loadSelector = before.image.loadSelector ∧
      after.image.initSelector = before.image.initSelector := by
  induction taken with
  | none draft reports => exact ⟨rfl, rfl⟩
  | first takes _ _ _ inductionHypothesis =>
    exact ⟨inductionHypothesis.1.trans takes.reserved.1,
      inductionHypothesis.2.trans takes.reserved.2⟩

/-- They stay along a whole change. -/
theorem Amends.reserved (amends : before.Amends arrivals order after)
    (sound : before.image.registry.Sound) :
    after.image.loadSelector = before.image.loadSelector ∧
      after.image.initSelector = before.image.initSelector := by
  obtain ⟨entered, settled, taken, raises, retabled, -⟩ := amends
  have advanced := raises.advanced (taken.kept sound).1
  rw [retabled.image, advanced.image]
  exact taken.reserved

/-- An edit has taken in signatures at most. -/
def Interns (before after : Draft) : Prop :=
  ∃ signatures : List Signature, before.TakesIn (signatures.map .signature) after

/-- Signatures leave the registry as it is. -/
theorem TakesIn.registry {signatures : List Signature}
    (taken : before.TakesIn (signatures.map .signature) after) :
    after.image.registry = before.image.registry := by
  induction signatures generalizing before with
  | nil =>
    cases taken with
    | none _ _ => rfl
  | cons signature rest inductionHypothesis =>
    cases taken with
    | first takes _ _ others =>
      cases takes with
      | signature image _ => rw [inductionHypothesis others, image]

end Draft

namespace Edit

open Registry

variable [NameHash] {strict : Bool} {draft : Draft}

/-- Interning takes in a signature, and the selector it gives stands for it. -/
theorem intern_takes (sound : draft.image.Sound strict) (signature : Signature) :
    Outcome (intern signature draft)
      (fun selector after => draft.TakesIn [.signature signature] after ∧
        after.image.selectors.resolve? selector = some signature)
      (fun _ after => draft.TakesIn [.signature signature] after) := by
  have taken : ∀ reports, draft.TakesIn [.signature signature] { draft with
      image := { draft.image with selectors := (draft.image.selectors.intern signature).table }
      reports } :=
    fun _ => Draft.Takes.takesIn (.signature rfl rfl) sound.registry (.refl _)
  simp only [intern, outcome_bind, outcome_get, outcome_set]
  cases result : (draft.image.selectors.intern signature).result with
  | ok selector => exact ⟨taken _, SelectorTable.resolve?_intern result⟩
  | error failure => exact taken _

/-- Interning methods takes in their signatures and spells them. -/
theorem internMethods_takes (sound : draft.image.Sound strict) (methods : List MethodDecl) :
    Outcome (internMethods methods draft)
      (fun interned after =>
        draft.TakesIn ((methods.map MethodDecl.signature).map .signature) after ∧
        List.Forall₂ (Method.Spelled after.image.selectors) interned methods)
      (fun _ after => draft.Interns after) := by
  induction methods generalizing draft with
  | nil => exact ⟨.none draft draft.reports, .nil⟩
  | cons method rest inductionHypothesis =>
    simp only [internMethods, List.mapM_cons, outcome_bind, outcome_pure]
    apply ((intern_outcome sound method.signature).and
      (intern_takes sound method.signature)).mono
    · rintro selector between ⟨⟨-, kept, -⟩, taken, resolved⟩
      apply (inductionHypothesis kept.sound).mono
      · rintro interned after ⟨further, spelled⟩
        exact ⟨taken.trans further, .cons ⟨further.selectors _ _ resolved, rfl⟩ spelled⟩
      · rintro _ after ⟨signatures, further⟩
        exact ⟨method.signature :: signatures, taken.trans further⟩
    · rintro _ after ⟨-, taken⟩
      exact ⟨[method.signature], taken⟩

/-- What goes on with the methods of both sides goes on after their signatures have been
    taken in. -/
theorem internSides_takes {α : Type} (sound : draft.image.Sound strict)
    (decls : BySide (List MethodDecl)) {next : List Method → List Method → Edit α}
    {done : α → Draft → Prop} {stopped : Failure → Draft → Prop}
    (further : ∀ (methods : BySide (List Method)) now,
      draft.TakesIn (Arrival.signatures decls) now → now.image.Sound strict →
      now.image.selectors.Spells methods decls →
      (∀ side, Method.Issued (methods.get side)) →
      Outcome (next methods.inst methods.metaclass now) done stopped)
    (refused : ∀ failure now, draft.Interns now → stopped failure now) :
    Outcome
      ((do next (← internMethods decls.inst) (← internMethods decls.metaclass) : Edit α) draft)
      done stopped := by
  simp only [outcome_bind]
  apply ((internMethods_outcome sound decls.inst).and (internMethods_takes sound decls.inst)).mono
  case weakenStopped =>
    rintro failure now ⟨-, interns⟩
    exact refused failure now interns
  rintro methods first ⟨⟨issued, kept, -⟩, taken, spelled⟩
  apply ((internMethods_outcome kept.sound decls.metaclass).and
    (internMethods_takes kept.sound decls.metaclass)).mono
  case weakenStopped =>
    rintro failure now ⟨-, signatures, takenAgain⟩
    refine refused failure now ⟨decls.inst.map MethodDecl.signature ++ signatures, ?_⟩
    rw [List.map_append]
    exact taken.trans takenAgain
  rintro classMethods second ⟨⟨classIssued, classKept, -⟩, takenAgain, classSpelled⟩
  refine further ⟨methods, classMethods⟩ second ?_ classKept.sound ?_ ?_
  · rw [Arrival.signatures, List.map_append, List.map_append]
    exact taken.trans takenAgain
  · intro side
    cases side
    · exact spelled.imp fun _ _ => Method.Spelled.extend takenAgain.selectors
    · exact classSpelled
  · intro side
    cases side
    · exact issued
    · exact classIssued

/-- A class whose name is taken is refused before anything is done, and reported. -/
theorem insertClass_taken {decl : ClassDecl}
    (taken : draft.image.registry.find? decl.name ≠ none) :
    insertClass decl draft = .error (.refused (.classAlreadyExists decl.name))
      { draft with reports := draft.reports ++ [decl.ignored] } := by
  obtain ⟨holder, found⟩ := Option.ne_none_iff_exists'.mp taken
  have outcome : Outcome (insertClass decl draft) (fun _ _ => False) (fun failure after =>
      failure = .refused (.classAlreadyExists decl.name) ∧
        after = { draft with reports := draft.reports ++ [decl.ignored] }) := by
    simp only [insertClass, outcome_bind, outcome_registry, found]
    exact ⟨rfl, rfl⟩
  cases ended : insertClass decl draft with
  | ok id after =>
    rw [ended] at outcome
    exact outcome.elim
  | error failure after =>
    rw [ended] at outcome
    rw [outcome.1, outcome.2]

/-- A class is taken in with its signatures under the next number, or refused when some of them
    may have been. -/
theorem insertClass_takes (sound : draft.image.Sound strict) (decl : ClassDecl) :
    Outcome (insertClass decl draft)
      (fun id after => draft.TakesIn decl.arrivals after ∧ id = draft.image.registry.size ∧
        after.image.registry.names = draft.image.registry.names ++ [decl.name])
      (fun _ after => draft.Interns after) := by
  simp only [insertClass, outcome_bind, outcome_registry]
  cases found : draft.image.registry.find? decl.name with
  | some id => exact ⟨[], .none draft _⟩
  | none =>
    refine internSides_takes sound decl.sides ?_ fun _ _ interns => interns
    intro methods now taken nowSound spelled issued
    have same := taken.registry
    have fresh : now.image.registry.find? decl.name = none := by rw [same, found]
    obtain ⟨pushed, grows⟩ := nowSound.registry.push fresh issued
    refine ⟨taken.trans ?_, ?_, ?_⟩
    · exact Draft.Takes.takesIn (.newClass fresh spelled rfl rfl) pushed grows
    · rw [same]
    · rw [← same]
      exact now.image.registry.column_push ClassEntry.name _

/-- Counting a category keeps an image in order. -/
theorem countCategory_kept (sound : draft.image.Sound strict) :
    draft.Kept strict { draft with
      image := { draft.image with registry := draft.image.registry.countCategory } } := by
  have advanced : draft.Advanced { draft with
      image := { draft.image with registry := draft.image.registry.countCategory } } :=
    ⟨rfl, sound.registry.countCategory, rfl, grows_of_classes rfl rfl⟩
  exact advanced.kept sound

/-- A category is taken in with its signatures, or refused when some of them may have been. -/
theorem insertCategory_takes (sound : draft.image.Sound strict) (decl : CategoryDecl) :
    Outcome (insertCategory decl draft) (fun _ after => draft.TakesIn decl.arrivals after)
      (fun _ after => draft.Interns after) := by
  unfold insertCategory
  refine internSides_takes sound decl.sides ?_ fun _ _ interns => interns
  intro methods now taken nowSound spelled issued
  let category : Category :=
    ⟨now.image.registry.categoryCount, decl.name, decl.className, methods⟩
  let counted : Draft := { now with
    image := { now.image with registry := now.image.registry.countCategory } }
  have realizes : category.Realizes now.image.selectors now.image.registry.categoryCount decl :=
    ⟨rfl, rfl, rfl, spelled⟩
  have countedKept : now.Kept strict counted := countCategory_kept nowSound
  have fits : category.Issued := issued
  have ended : ∀ {act : Edit Unit},
      Outcome (act counted) (fun _ after => now.TakesIn [.newCategory decl] after)
        (fun _ _ => False) →
      Outcome ((do act; return category : Edit Category) counted)
        (fun _ after => draft.TakesIn decl.arrivals after)
        (fun _ after => draft.Interns after) := by
    intro act outcome
    simp only [outcome_bind, outcome_pure]
    exact outcome.certain fun _ after further => taken.trans further
  have waits : (∀ id, now.image.registry.find? decl.className = some id →
      now.image.registry.reached id .loaded = false) →
      Outcome (park category counted)
        (fun _ after => now.TakesIn [.newCategory decl] after) (fun _ _ => False) :=
    fun early => Draft.Takes.takesIn (.waiting realizes early rfl rfl)
      (countedKept.sound.registry.park fits) (grows_of_classes rfl rfl)
  simp only [outcome_bind, outcome_registry, outcome_modifyRegistry]
  cases found : now.image.registry.find? decl.className with
  | none => exact ended (waits fun id some => by rw [found] at some; cases some)
  | some id =>
    dsimp only
    split
    · rename_i loaded
      refine ended ((attach_outcome countedKept.sound id fits).imp ?_)
      rintro _ after ⟨advanced, bare, hooks⟩
      exact Draft.Takes.takesIn (.attached realizes found loaded advanced.image bare hooks)
        advanced.sound (countedKept.grows.trans advanced.grows)
    · rename_i early
      refine ended (waits fun other isOther => ?_)
      rw [found, Option.some.injEq] at isOther
      exact isOther ▸ Bool.eq_false_iff.mpr early

/-- A class of a module is taken in under the next number, or left out if its name is taken. -/
theorem insertNewClass_takes (sound : draft.image.Sound strict) (decl : ClassDecl) :
    Outcome (insertNewClass decl draft)
      (fun given after =>
        (given = none ∧ decl.name ∈ draft.image.registry.names ∧ draft.TakesIn [] after) ∨
        (given = some draft.image.registry.size ∧ decl.name ∉ draft.image.registry.names ∧
          draft.TakesIn decl.arrivals after ∧
          after.image.registry.names = draft.image.registry.names ++ [decl.name]))
      (fun _ after => ∃ arrivals, draft.TakesIn arrivals after) := by
  have named := Registry.Indexed.find?_eq_none_iff sound.registry.formed.named decl.name
  by_cases fresh : draft.image.registry.find? decl.name = none
  · have inserted := (insertClass_outcome sound decl).and (insertClass_takes sound decl)
    unfold insertNewClass
    cases ended : insertClass decl draft with
    | ok id after =>
      rw [ended] at inserted
      obtain ⟨-, taken, rfl, names⟩ := inserted
      exact .inr ⟨rfl, named.mp fresh, taken, names⟩
    | error failure after =>
      rw [ended] at inserted
      obtain ⟨⟨-, ⟨-, present⟩ | rfl | rfl⟩, signatures, interned⟩ := inserted
      · exact absurd fresh present
      · exact ⟨_, interned⟩
      · exact ⟨_, interned⟩
  · rw [insertNewClass, insertClass_taken fresh]
    exact .inl ⟨rfl, not_not.mp fun absent => fresh (named.mpr absent), .none draft _⟩

/-- Those classes of a module are taken in that can be, under the next numbers. -/
theorem insertNewClasses_takes (sound : draft.image.Sound strict) (classes : List ClassDecl) :
    Outcome (classes.mapM insertNewClass draft)
      (fun inserted after => draft.Kept false after ∧
        draft.TakesIn
          ((ClassDecl.fresh draft.image.registry.names classes).flatMap ClassDecl.arrivals) after ∧
        inserted.filterMap id = List.range' draft.image.registry.size
          (ClassDecl.fresh draft.image.registry.names classes).length)
      (fun _ after => ∃ arrivals, draft.TakesIn arrivals after) := by
  induction classes generalizing strict draft with
  | nil => exact ⟨⟨sound.weaken, .refl _⟩, .none draft draft.reports, rfl⟩
  | cons decl rest inductionHypothesis =>
    simp only [List.mapM_cons, outcome_bind, outcome_pure]
    apply ((insertNewClass_outcome sound decl).and (insertNewClass_takes sound decl)).mono
    case weakenStopped => exact fun _ after both => both.2
    rintro given between ⟨kept, ⟨rfl, present, taken⟩ | ⟨rfl, absent, taken, names⟩⟩
    · have same : between.image = draft.image := by
        cases taken with
        | none => rfl
      apply (inductionHypothesis kept.sound).mono
      · rintro inserted after ⟨further, takenAgain, numbers⟩
        rw [same] at takenAgain numbers
        rw [ClassDecl.fresh, if_pos present]
        exact ⟨kept.trans further, taken.trans takenAgain, numbers⟩
      · rintro _ after ⟨arrivals, takenAgain⟩
        exact ⟨_, taken.trans takenAgain⟩
    · apply (inductionHypothesis kept.sound).mono
      · rintro inserted after ⟨further, takenAgain, numbers⟩
        have size : between.image.registry.size = draft.image.registry.size + 1 := by
          rw [← length_names, names, List.length_append, length_names, List.length_singleton]
        rw [names] at takenAgain numbers
        rw [size] at numbers
        rw [ClassDecl.fresh, if_neg absent, List.flatMap_cons, List.length_cons, List.range'_succ]
        exact ⟨kept.trans further, taken.trans takenAgain, congrArg (_ :: ·) numbers⟩
      · rintro _ after ⟨arrivals, takenAgain⟩
        exact ⟨_, taken.trans takenAgain⟩

/-- A class under a name that is taken is refused, and all that happens is a report. -/
theorem registerClass_taken {decl : ClassDecl}
    (taken : draft.image.registry.find? decl.name ≠ none) :
    registerClass decl draft = .error (.refused (.classAlreadyExists decl.name))
      { draft with reports := draft.reports ++ [decl.ignored] } := by
  simp only [registerClass, bind, EStateM.bind, insertClass_taken taken]

/-- Registering a class takes it in under the next number and settles. -/
theorem registerClass_amends (sound : draft.image.Sound strict) (decl : ClassDecl) :
    Outcome (registerClass decl draft)
      (fun id after => id = draft.image.registry.size ∧
        ∃ order, draft.Amends decl.arrivals order after)
      (fun failure after => ∀ error, failure = .refused error → draft.Interns after) := by
  simp only [registerClass, outcome_bind, outcome_pure]
  apply ((insertClass_outcome sound decl).and (insertClass_takes sound decl)).mono
  · rintro _ inserted ⟨kept, taken, number, -⟩
    apply (settle_outcome kept.sound.registry).mono
    · rintro _ after ⟨⟨order, raises⟩, -⟩
      exact ⟨number, order, taken.settled sound.registry raises⟩
    · rintro _ after ⟨rfl, -⟩ error impossible
      cases impossible
  · rintro _ after ⟨-, interns⟩ _ _
    exact interns

/-- A category arrives, and nothing is raised. -/
theorem insertCategory_amends (sound : draft.image.Sound strict) (decl : CategoryDecl) :
    Outcome (insertCategory decl draft) (fun _ after => draft.Amends decl.arrivals [] after)
      (fun _ after => draft.Interns after) :=
  (insertCategory_takes sound decl).imp fun _ _ taken => taken.amends sound.registry

/-- What a module declares is taken in, in order, except for classes whose names are taken. -/
theorem takeModule_takes (sound : draft.image.Sound strict) (decl : ModuleDecl) :
    Outcome (takeModule decl draft)
      (fun classes after => draft.TakesIn (decl.arrivals draft.image.registry.names) after ∧
        classes = List.range' draft.image.registry.size
          (ClassDecl.fresh draft.image.registry.names decl.classes).length)
      (fun _ after => ∃ arrivals, draft.TakesIn arrivals after) := by
  simp only [takeModule, outcome_bind, outcome_pure]
  refine Outcome.imp (outcome_forM
    (fun rest now => draft.Kept false now ∧ ∃ done : List Signature,
      draft.TakesIn (done.map .signature) now ∧ done ++ rest = decl.signatures) ?interned
    decl.signatures draft ⟨⟨sound.weaken, .refl _⟩, [], .none draft draft.reports, rfl⟩) ?_
  case interned =>
    rintro signature rest now ⟨kept, done, taken, split⟩
    simp only [outcome_bind, outcome_pure]
    apply ((intern_outcome kept.sound signature).and (intern_takes kept.sound signature)).mono
    · rintro _ after ⟨⟨-, further, -⟩, takenAgain, -⟩
      refine ⟨kept.trans further, done ++ [signature], ?_, ?_⟩
      · rw [List.map_append]
        exact taken.trans takenAgain
      · rw [List.append_assoc]
        exact split
    · rintro _ after ⟨-, takenAgain⟩
      exact ⟨_, taken.trans takenAgain⟩
  -- Interning adds no class, so the names that are taken are those from before.
  rintro _ signed ⟨signedKept, done, taken, split⟩
  rw [List.append_nil] at split
  subst split
  have same := taken.registry
  apply Outcome.mono (insertNewClasses_takes signedKept.sound decl.classes)
  case weakenStopped =>
    rintro _ after ⟨arrivals, takenAgain⟩
    exact ⟨_, taken.trans takenAgain⟩
  rintro classes inserted ⟨insertedKept, insertedTaken, numbers⟩
  rw [same] at insertedTaken numbers
  refine Outcome.imp (outcome_forM
    (fun rest now => draft.Kept false now ∧ ∃ done : List CategoryDecl,
      inserted.TakesIn (done.flatMap CategoryDecl.arrivals) now ∧ done ++ rest = decl.categories)
    ?registered decl.categories inserted
    ⟨signedKept.trans insertedKept, [], .none inserted inserted.reports, rfl⟩) ?_
  case registered =>
    rintro category rest now ⟨kept, done, further, split⟩
    simp only [outcome_bind, outcome_pure]
    apply ((insertCategory_outcome kept.sound category).and
      (insertCategory_takes kept.sound category)).mono
    · rintro _ after ⟨furtherKept, takenAgain⟩
      refine ⟨kept.trans furtherKept, done ++ [category], ?_, ?_⟩
      · rw [List.flatMap_append, List.flatMap_singleton]
        exact further.trans takenAgain
      · rw [List.append_assoc]
        exact split
    · rintro _ after ⟨-, signatures, takenAgain⟩
      exact ⟨_, taken.trans (insertedTaken.trans (further.trans takenAgain))⟩
  rintro _ attached ⟨kept, done, further, split⟩
  rw [List.append_nil] at split
  subst split
  exact ⟨taken.trans (insertedTaken.trans further), numbers⟩

/-- Loading a module takes in what it declares, in order, except for classes whose names are
    taken, and then settles. One that is refused has taken in part of it. -/
theorem loadModule_amends (sound : draft.image.Sound strict) (decl : ModuleDecl) :
    Outcome (loadModule decl draft)
      (fun classes after =>
        (∃ order, draft.Amends (decl.arrivals draft.image.registry.names) order after) ∧
        classes = List.range' draft.image.registry.size
          (ClassDecl.fresh draft.image.registry.names decl.classes).length)
      (fun failure after => ∀ error, failure = .refused error →
        ∃ arrivals, draft.TakesIn arrivals after) := by
  rw [loadModule_eq, outcome_bind]
  apply ((takeModule_outcome sound decl).and (takeModule_takes sound decl)).mono
  · rintro classes attached ⟨kept, taken, numbers⟩
    rw [outcome_bind]
    apply (settle_outcome kept.sound.registry).mono
    · rintro _ settled ⟨⟨order, raises⟩, -⟩
      simp only [outcome_bind, outcome_get, outcome_report, outcome_pure]
      exact ⟨⟨order, attached, settled, taken, raises, .report settled _,
        (raises.advanced kept.sound.registry).sound⟩, numbers⟩
    · rintro _ after ⟨rfl, -⟩ error impossible
      cases impossible
  · exact fun _ _ stopped _ _ => stopped.2

/-- Replacing a method takes in the method. -/
theorem replaceMethod_amends (sound : draft.image.Sound strict) (ref : SideRef)
    {selector : Selector} (imp : Imp) (fits : selector < SparseMap.capacity) :
    Outcome (replaceMethod ref selector imp draft)
      (fun _ after => draft.Amends [.newMethod ref selector imp] [] after)
      (fun _ _ => False) := by
  apply (replaceMethod_outcome sound ref imp fits).imp
  rintro _ after ⟨advanced, bare, hooks⟩
  exact Draft.TakesIn.amends (Draft.Takes.takesIn (.newMethod advanced.image bare hooks)
    advanced.sound advanced.grows) sound.registry

/-- Making a class ready raises classes and builds tables, and takes nothing in. -/
theorem readyTables_amends (sound : draft.image.Sound strict) {id : ClassId}
    (inside : id < draft.image.registry.size) :
    Outcome (Act.readyTables id draft)
      (fun _ after => ∃ order, draft.Amends [] order after)
      (fun failure after => ∀ error, failure = .refused error → after = draft) := by
  apply (readyTables_outcome sound inside).mono
  · rintro _ after ⟨⟨order, raised, raises, retabled⟩, kept, -⟩
    exact ⟨order, draft, raised, .none draft draft.reports, raises, retabled, kept.sound.registry⟩
  · rintro failure after (⟨rfl, -⟩ | ⟨error, -, -, same⟩) _ refused
    · cases refused
    · exact same

end Edit

end LateBinding
