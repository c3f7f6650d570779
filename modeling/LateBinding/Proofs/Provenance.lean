import LateBinding.Proofs.BlindEdits
import LateBinding.Proofs.Enrolment

/-!
# Where selectors come from

No selector table hands out more selectors than a sparse map has keys, whatever limit it was
created with, and it does not matter which table a selector comes from. So every method that is
declared can be written into a dispatch table, and to build one never fails.

An edit does part of its work before it builds tables. That is safe because of what every edit
upholds: the draft holds only selectors that some table has handed out, and goes on to do so
however the edit ends. This asks for nothing else to be in order. It holds in the middle of an
edit, and after one that panicked half way.
-/

namespace LateBinding

namespace SelectorTable

variable {hash : String → Nat}

/-- A table as it comes to be: it is created, and then asked for selectors. -/
inductive Arises : SelectorTable hash → Prop
  | created {buckets limit : Nat} {load : LoadFactor} {table : SelectorTable hash}
      (made : create buckets load limit = .ok table) : Arises table
  | asked {table : SelectorTable hash} (before : Arises table) (signature : Signature) :
      Arises (table.intern signature).table

/-- A table that has come about by interning is within its bounds. -/
theorem Arises.bounded {table : SelectorTable hash} (arises : table.Arises) : table.Bounded := by
  induction arises with
  | created made =>
    obtain ⟨count, -, rfl⟩ := create_cases made
    exact bounded_empty _ _ _
  | asked _ signature inductionHypothesis => exact (inductionHypothesis.intern signature).1

end SelectorTable

/-- Some selector table has handed out a selector. -/
def Selector.Handed (selector : Selector) : Prop :=
  ∃ (hash : String → Nat) (table : SelectorTable hash) (signature : Signature),
    table.Arises ∧ (table.intern signature).result = .ok selector

/-- A selector that has been handed out can be the key of a dispatch table. -/
theorem Selector.Handed.lt_capacity {selector : Selector} (handed : Selector.Handed selector) :
    selector < SparseMap.capacity := by
  obtain ⟨hash, table, signature, arises, given⟩ := handed
  exact (arises.bounded.intern signature).2 selector given

/-- An error is not that a key is out of range. -/
def Error.Spared : Error → Prop
  | .keyOutOfRange _ => False
  | _ => True

/-- A failure is not that a key is out of range. -/
def Failure.Spared : Failure → Prop
  | .refused error => error.Spared
  | .panicked _ => True

/-- Running out of selectors spares tables. -/
theorem Failure.Exhausted.spared {failure : Failure} (exhausted : failure.Exhausted) :
    failure.Spared := by
  rcases exhausted with rfl | rfl
  · trivial
  · trivial

/-- A chain is not refused for a key. -/
theorem Registry.chain_spared {registry : Registry} {id : ClassId} {error : Error}
    (refused : registry.chain id = .error error) : error.Spared := by
  obtain ⟨name, missing, rfl⟩ | ⟨name, rfl⟩ := walk_error refused
  · trivial
  · trivial

namespace Edit

open Registry

variable [NameHash] {α β : Type} {gives : α → Prop} {later : β → Prop}
  {fails weaker : Failure → Prop}

/-- An edit of an issued draft leaves it issued however it ends. It gives values that meet a
    condition, or fails in one of certain ways. -/
def Upholds (gives : α → Prop) (fails : Failure → Prop) (change : Edit α) : Prop :=
  ∀ draft : Draft, draft.Issued →
    Outcome (change draft) (fun value after => gives value ∧ after.Issued)
      (fun failure after => fails failure ∧ after.Issued)

/-- An edit that does not fail. -/
abbrev never : Failure → Prop := fun _ => False

namespace Upholds

/-- A value is what it is given as. -/
theorem pure {value : α} (given : gives value) :
    Upholds gives fails (Pure.pure value : Edit α) :=
  fun _ issued => ⟨given, issued⟩

/-- A failure that is allowed for leaves the draft as it is. -/
theorem throw {failure : Failure} (failed : fails failure) :
    Upholds gives fails (throw failure : Edit α) :=
  fun _ issued => ⟨failed, issued⟩

/-- What holds after one edit and then after another one holds after both. -/
theorem bind {first : Edit α} {next : α → Edit β} (begun : Upholds gives fails first)
    (further : ∀ value, gives value → Upholds later fails (next value)) :
    Upholds later fails (first >>= next) := by
  intro draft issued
  rw [outcome_bind]
  apply (begun draft issued).imp
  rintro value between ⟨given, kept⟩
  exact further value given between kept

/-- More failures may be allowed for. -/
theorem mono {change : Edit α} (upholds : Upholds gives fails change)
    (weaken : ∀ failure, fails failure → weaker failure) : Upholds gives weaker change := by
  intro draft issued
  apply (upholds draft issued).mono
  · exact fun _ _ given => given
  · exact fun failure _ stopped => ⟨weaken failure stopped.1, stopped.2⟩

/-- So it is for an edit on each member of a list. -/
theorem forM {act : α → Edit PUnit} (turn : ∀ item, Upholds anything fails (act item))
    (items : List α) : Upholds anything fails (items.forM act) := by
  induction items with
  | nil => exact .pure trivial
  | cons item rest inductionHypothesis => exact (turn item).bind fun _ _ => inductionHypothesis

/-- And for one that gives a value for each. -/
theorem mapM {act : β → Edit α} (turn : ∀ item, Upholds gives fails (act item))
    (items : List β) :
    Upholds (fun values => ∀ value ∈ values, gives value) fails (items.mapM act) := by
  intro draft issued
  exact outcome_mapM Draft.Issued gives turn items draft issued

/-- The draft that is looked at has issued selectors. -/
theorem get : Upholds Draft.Issued fails (MonadState.get : Edit Draft) :=
  fun _ issued => ⟨issued, issued⟩

/-- So has its registry. -/
theorem registry : Upholds Registry.Issued fails registry :=
  fun _ issued => ⟨issued.registry, issued⟩

/-- A change of the registry has to keep selectors issued. -/
theorem modifyRegistry {change : Registry → Registry}
    (kept : ∀ registry : Registry, registry.Issued → (change registry).Issued) :
    Upholds anything fails (modifyRegistry change) :=
  fun _ issued => ⟨trivial, kept _ issued.registry, issued.selectors⟩

/-- A report leaves them alone. -/
theorem report (level : Log.Level) (text : String) : Upholds anything fails (report level text) :=
  fun _ issued => ⟨trivial, issued.registry, issued.selectors⟩

/-- So does a hook. -/
theorem collect (hook : LoadHook) : Upholds anything fails (collect hook) :=
  fun _ issued => ⟨trivial, issued.registry, issued.selectors⟩

/-- Building tables leaves a draft issued and does not fail. -/
theorem unseen {change : Edit α}
    (silent : ∀ draft : Draft, draft.Issued →
      Outcome (change draft) (fun _ after => draft.Unseen after) fun _ _ => False) :
    Upholds anything fails change :=
  fun draft issued => (silent draft issued).certain fun _ _ kept => ⟨trivial, kept.issued⟩

end Upholds

/-- Interning leaves the registry alone, and hands out a selector unless none can be had. -/
theorem intern_hands {draft : Draft} (issued : draft.Issued) (signature : Signature) :
    Outcome (intern signature draft)
      (fun selector after => selector < SparseMap.capacity ∧ after.Issued ∧
        after.image.registry = draft.image.registry)
      (fun failure after => failure.Exhausted ∧ after.Issued ∧
        after.image.registry = draft.image.registry) := by
  obtain ⟨bounded, given⟩ := issued.selectors.intern signature
  have kept : (interned signature draft).Issued := ⟨issued.registry, bounded⟩
  simp only [intern, outcome_bind, outcome_get, outcome_set]
  cases result : (draft.image.selectors.intern signature).result with
  | ok selector => exact ⟨given selector result, kept, rfl⟩
  | error failure => exact ⟨SelectorTable.intern_eq_error result, kept, rfl⟩

/-- Interned methods have issued selectors, also if interning stops on the way. The registry is left
    alone. -/
theorem internMethods_hands {draft : Draft} (issued : draft.Issued) (methods : List MethodDecl) :
    Outcome (internMethods methods draft)
      (fun interned after => Method.Issued interned ∧ after.Issued ∧
        after.image.registry = draft.image.registry)
      (fun failure after => failure.Exhausted ∧ after.Issued ∧
        after.image.registry = draft.image.registry) := by
  refine outcome_mapM
    (fun now => now.Issued ∧ now.image.registry = draft.image.registry)
    (fun method : Method => method.selector < SparseMap.capacity) ?_ methods draft ⟨issued, rfl⟩
  rintro method now ⟨nowIssued, same⟩
  simp only [outcome_bind, outcome_pure]
  apply (intern_hands nowIssued method.signature).mono
  · rintro selector after ⟨fits, kept, again⟩
    exact ⟨fits, kept, again.trans same⟩
  · rintro failure after ⟨exhausted, kept, again⟩
    exact ⟨exhausted, kept, again.trans same⟩

/-- Interning gives a selector that a table can hand out. -/
theorem intern_upholds (signature : Signature) :
    Upholds (· < SparseMap.capacity) Failure.Exhausted (intern signature) := by
  intro draft issued
  apply (intern_hands issued signature).mono
  · exact fun _ _ given => ⟨given.1, given.2.1⟩
  · exact fun _ _ stopped => ⟨stopped.1, stopped.2.1⟩

/-- Interning methods gives such methods. -/
theorem internMethods_upholds (methods : List MethodDecl) :
    Upholds Method.Issued Failure.Exhausted (internMethods methods) := by
  intro draft issued
  apply (internMethods_hands issued methods).mono
  · exact fun _ _ given => ⟨given.1, given.2.1⟩
  · exact fun _ _ stopped => ⟨stopped.1, stopped.2.1⟩

/-- Setting a class up changes its link and its size, not its methods. -/
theorem setUp_upholds (id : ClassId) :
    Upholds anything (· = .panicked .sumOverflow) (setUp id) := by
  refine Upholds.registry.bind fun before _ => ?_
  split
  · exact .pure trivial
  · split
    · exact (Upholds.modifyRegistry fun _ issued => issued.tie id).bind fun _ _ => .throw rfl
    · exact (Upholds.modifyRegistry fun _ issued => issued.link id).bind fun _ _ => .report _ _

/-- Collecting a `load` reads methods. -/
theorem collectLoad_upholds (receiver : ClassId) (category : Option Nat) (owner : String)
    (methods : List Method) :
    Upholds anything fails (collectLoad receiver category owner methods) := by
  refine Upholds.get.bind fun draft _ => ?_
  split
  · exact .collect _
  · exact .pure trivial

/-- What waited has issued selectors already. -/
theorem load_upholds (id : ClassId) : Upholds anything fails (load id) := by
  have merging : ∀ waiting name, Upholds anything fails (reportMerging waiting name) := by
    intro waiting name
    unfold reportMerging
    split
    · exact .pure trivial
    · exact .report _ _
  refine Upholds.registry.bind fun before _ => ?_
  split
  · exact .pure trivial
  · refine (merging _ _).bind fun _ _ => (collectLoad_upholds _ _ _ _).bind fun _ _ => ?_
    refine (Upholds.forM (fun category => collectLoad_upholds _ _ _ _) _).bind fun _ _ => ?_
    refine (Upholds.modifyRegistry fun _ issued => issued.absorb id).bind fun _ _ => ?_
    exact (Upholds.report _ _).bind fun _ _ => .unseen fun _ issued => ensureEarly_unseen issued id

/-- Advancing a chain is setting up and loading. -/
theorem advanceAlong_upholds (chain : List ClassId) :
    Upholds anything (· = .panicked .sumOverflow) (advanceAlong chain) :=
  Upholds.forM (fun id => (setUp_upholds id).bind fun _ _ => load_upholds id) _

/-- Classes that can make progress do, up to one whose size is no word. -/
theorem settle_upholds : Upholds anything (· = .panicked .sumOverflow) settle := by
  refine Upholds.registry.bind fun registry _ => Upholds.forM (fun id => ?_) _
  refine Upholds.registry.bind fun before _ => ?_
  split
  · exact .pure trivial
  · split
    · exact advanceAlong_upholds _
    · exact .pure trivial

/-- Rebuilding only publishes tables. -/
theorem rebuild_upholds (id : ClassId) : Upholds anything fails (rebuild id) := by
  refine Upholds.registry.bind fun registry _ => Upholds.forM (fun below => ?_) _
  have sides := fun side => @Upholds.unseen _ Unit fails (rebuildSide ⟨below, side⟩)
    fun _ issued => rebuildSide_unseen issued ⟨below, side⟩
  refine (sides .inst).bind fun _ _ => (sides .metaclass).bind fun _ _ => ?_
  exact Upholds.registry.bind fun _ _ => .report _ _

/-- The tables of a class are brought up to date, unless its names do not lead to a root or a
    size is no word. -/
theorem readyTables_upholds (id : ClassId) :
    Upholds anything Failure.Spared (Act.readyTables id) := by
  have advances : Upholds anything Failure.Spared (advance id) := by
    refine Upholds.registry.bind fun registry _ => ?_
    split
    · refine (advanceAlong_upholds _).mono ?_
      rintro _ rfl
      trivial
    · rename_i refused
      exact .throw (chain_spared refused)
  exact advances.bind fun _ _ => .unseen fun _ issued => ensureSides_unseen issued id

/-- A class under a name that is not taken is added unless a selector cannot be had. -/
theorem insertClass_issues {draft : Draft} (issued : draft.Issued) {decl : ClassDecl}
    (fresh : draft.image.registry.find? decl.name = none) :
    Outcome (insertClass decl draft) (fun _ after => after.Issued)
      (fun failure after => failure.Exhausted ∧ after.Issued) := by
  simp only [insertClass, outcome_bind, outcome_registry, fresh]
  apply (internMethods_upholds decl.methods draft issued).imp
  rintro methods first ⟨methodsIssued, firstIssued⟩
  apply (internMethods_upholds decl.classMethods first firstIssued).imp
  rintro classMethods second ⟨classMethodsIssued, secondIssued⟩
  refine ⟨secondIssued.registry.push ?_, secondIssued.selectors⟩
  constructor
  · rintro (_ | _)
    · exact methodsIssued
    · exact classMethodsIssued
  · exact fun _ impossible => absurd impossible List.not_mem_nil

/-- A class is registered unless its name is taken, a selector cannot be had, or a size is no
    word. A class whose name is taken changes nothing. -/
theorem registerClass_issues {draft : Draft} (issued : draft.Issued) (decl : ClassDecl) :
    Outcome (registerClass decl draft) (fun _ after => after.Issued)
      (fun failure after => after.Issued ∧
        (failure = .refused (.classAlreadyExists decl.name) ∧
            draft.image.registry.find? decl.name ≠ none ∨
          failure.Exhausted ∨ failure = .panicked .sumOverflow)) := by
  by_cases fresh : draft.image.registry.find? decl.name = none
  · simp only [registerClass, outcome_bind, outcome_pure]
    apply (insertClass_issues issued fresh).mono
    · rintro _ inserted kept
      apply (settle_upholds inserted kept).mono
      · exact fun _ _ settled => settled.2
      · exact fun _ _ stopped => ⟨stopped.2, .inr (.inr stopped.1)⟩
    · exact fun _ _ stopped => ⟨stopped.2, .inr (.inl stopped.1)⟩
  · rw [registerClass_taken fresh]
    exact ⟨⟨issued.registry, issued.selectors⟩, .inl ⟨rfl, fresh⟩⟩

/-- A class of a module is added, or left out, unless a selector cannot be had. -/
theorem insertNewClass_upholds (decl : ClassDecl) :
    Upholds anything Failure.Exhausted (insertNewClass decl) := by
  intro draft issued
  by_cases fresh : draft.image.registry.find? decl.name = none
  · have inserted := insertClass_issues issued fresh
    unfold insertNewClass
    cases ended : insertClass decl draft with
    | ok id after =>
      rw [ended] at inserted
      exact ⟨trivial, inserted⟩
    | error failure after =>
      rw [ended] at inserted
      obtain ⟨rfl | rfl, kept⟩ := inserted
      · exact ⟨.inl rfl, kept⟩
      · exact ⟨.inr rfl, kept⟩
  · rw [insertNewClass, insertClass_taken fresh]
    exact ⟨trivial, issued.registry, issued.selectors⟩

/-- An issued category can be parked. -/
theorem park_upholds {category : Category} (issued : category.Issued) :
    Upholds anything fails (park category) :=
  (Upholds.modifyRegistry fun _ given => given.park issued).bind fun _ _ => .report _ _

/-- It can be attached. -/
theorem attach_upholds (id : ClassId) {category : Category} (issued : category.Issued) :
    Upholds anything fails (attach id category) :=
  (Upholds.modifyRegistry fun _ given => given.attach id issued).bind fun _ _ =>
    (Upholds.report _ _).bind fun _ _ => (collectLoad_upholds _ _ _ _).bind fun _ _ =>
      rebuild_upholds id

/-- A category is added unless a selector cannot be had, and then the registry is as it was: once
    its selectors are there nothing fails. -/
theorem insertCategory_issues {draft : Draft} (issued : draft.Issued) (decl : CategoryDecl) :
    Outcome (insertCategory decl draft) (fun _ after => after.Issued)
      (fun failure after => failure.Exhausted ∧ after.Issued ∧
        after.image.registry = draft.image.registry) := by
  simp only [insertCategory, outcome_bind]
  apply (internMethods_hands issued decl.methods).imp
  rintro methods first ⟨methodsIssued, firstIssued, firstSame⟩
  apply (internMethods_hands firstIssued decl.classMethods).mono
  case weakenStopped =>
    rintro _ _ ⟨exhausted, kept, same⟩
    exact ⟨exhausted, kept, same.trans firstSame⟩
  rintro classMethods second ⟨classMethodsIssued, secondIssued, -⟩
  simp only [outcome_registry, outcome_modifyRegistry]
  let category : Category :=
    ⟨second.image.registry.categoryCount, decl.name, decl.className, ⟨methods, classMethods⟩⟩
  have declares : category.Issued := by
    rintro (_ | _)
    · exact methodsIssued
    · exact classMethodsIssued
  let counted : Draft := { second with
    image := { second.image with registry := second.image.registry.countCategory } }
  have countedIssued : counted.Issued :=
    ⟨⟨secondIssued.registry.entries, secondIssued.registry.parked⟩, secondIssued.selectors⟩
  have ended : ∀ {act : Edit Unit} {stopped : Failure → Draft → Prop},
      Upholds anything never act →
      Outcome ((do act; return category : Edit Category) counted) (fun _ after => after.Issued)
        stopped := by
    intro act stopped upholds
    simp only [outcome_bind, outcome_pure]
    apply (upholds counted countedIssued).mono
    · exact fun _ _ given => given.2
    · exact fun _ _ impossible => impossible.1.elim
  cases second.image.registry.find? decl.className with
  | none => exact ended (park_upholds declares)
  | some id =>
    dsimp only
    split
    · exact ended (attach_upholds id declares)
    · exact ended (park_upholds declares)

/-- A category is interned, and then attached or parked. -/
theorem insertCategory_upholds (decl : CategoryDecl) :
    Upholds anything Failure.Exhausted (insertCategory decl) := by
  intro draft issued
  apply (insertCategory_issues issued decl).mono
  · exact fun _ _ kept => ⟨trivial, kept⟩
  · exact fun _ _ stopped => ⟨stopped.1, stopped.2.1⟩

/-- A module is loaded unless a selector cannot be had or a size is no word. -/
theorem loadModule_upholds (decl : ModuleDecl) :
    Upholds anything (fun failure => failure.Exhausted ∨ failure = .panicked .sumOverflow)
      (loadModule decl) := by
  refine Upholds.bind (.forM (fun signature => ?_) _) fun _ _ => ?_
  · exact ((intern_upholds signature).mono fun _ => .inl).bind fun _ _ => .pure trivial
  refine (Upholds.mapM (fun new => (insertNewClass_upholds new).mono fun _ => .inl) _).bind
    fun inserted _ => ?_
  refine Upholds.bind (.forM (fun category => ?_) _) fun _ _ => ?_
  · exact ((insertCategory_upholds category).mono fun _ => .inl).bind fun _ _ => .pure trivial
  refine (settle_upholds.mono fun _ => .inr).bind fun _ _ => ?_
  exact Upholds.get.bind fun _ _ => (Upholds.report _ _).bind fun _ _ => .pure trivial

/-- A method is replaced without fail if its selector has been handed out. -/
theorem replaceMethod_upholds (ref : SideRef) {selector : Selector} (imp : Imp)
    (fits : selector < SparseMap.capacity) :
    Upholds anything fails (replaceMethod ref selector imp) := by
  refine Upholds.registry.bind fun before _ => ?_
  refine (Upholds.modifyRegistry fun _ issued => issued.replaceMethod ref imp fits).bind
    fun _ _ => (rebuild_upholds ref.id).bind fun _ _ => ?_
  exact Upholds.get.bind fun _ _ => (Upholds.report _ _).bind fun _ _ => .pure trivial

end Edit

end LateBinding
