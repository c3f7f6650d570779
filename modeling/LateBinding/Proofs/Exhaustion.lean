import LateBinding.Proofs.Passive
import LateBinding.Proofs.Sizes
import LateBinding.Proofs.TableGrowth
import Mathlib.Data.Fintype.EquivFin

/-!
# Running out of selectors

There are no more selectors than a dispatch table has keys, and distinct signatures have distinct
selectors. So nobody can declare methods for more signatures than that. Whoever tries is refused
half way, and the signatures that came first have been interned.

A module that is refused keeps what it has taken in. Its classes before the one that was refused
are there, and none of them has been linked, because classes are linked at the end of a module.
Such a run goes on without a panic, with classes that were left behind although their names lead
to a root.
-/

namespace LateBinding

/-- Distinct signatures have distinct selectors, and there are only so many of those. -/
theorem Method.length_le_of_spelled {hash : String → Nat} {table : SelectorTable hash}
    {methods : List Method} {decls : List MethodDecl}
    (spelled : List.Forall₂ (Method.Spelled table) methods decls) (issued : Method.Issued methods)
    (distinct : (decls.map MethodDecl.signature).Nodup) : decls.length ≤ SparseMap.capacity := by
  have same : (methods.map Method.selector).map table.resolve? =
      (decls.map MethodDecl.signature).map some := by
    clear issued distinct
    induction spelled with
    | nil => rfl
    | cons first _ inductionHypothesis =>
      rw [List.map_cons, List.map_cons, inductionHypothesis, first.1]
      rfl
  have apart : (methods.map Method.selector).Nodup := by
    refine List.Nodup.of_map table.resolve? ?_
    rw [same]
    exact distinct.map (Option.some_injective _)
  have within : methods.map Method.selector ⊆ List.range SparseMap.capacity := by
    intro selector member
    obtain ⟨method, among, rfl⟩ := List.mem_map.mp member
    exact List.mem_range.mpr (issued method among)
  calc decls.length = (methods.map Method.selector).length := by
        rw [List.length_map, spelled.length_eq]
    _ ≤ (List.range SparseMap.capacity).length := (apart.subperm within).length_le
    _ = SparseMap.capacity := List.length_range

namespace SelectorTable

variable {hash : String → Nat} {table : SelectorTable hash}

/-- The load of a table allows for as many signatures as there are selectors in a single bucket,
    so the table never has to grow. -/
structure Ample (table : SelectorTable hash) : Prop where
  load : table.load = ⟨SparseMap.capacity, 1⟩
  single : table.bucketCount = 1

/-- An ample table stays ample, and interning is refused at most. -/
theorem Ample.intern (ample : table.Ample) (bounded : table.Bounded) (signature : Signature) :
    (table.intern signature).table.Ample ∧
      ∀ panic, (table.intern signature).result ≠ .error (.panicked panic) := by
  have limited := bounded.limited
  have calm : ∀ panic, (table.intern signature).result ≠ .error (.panicked panic) := by
    intro panic stopped
    obtain ⟨-, room, tooLarge⟩ := intern_panics_iff.mp ⟨panic, stopped⟩
    rw [ample.load, ample.single] at tooLarge
    simp only [SparseMap.capacity, Word.largest] at limited tooLarge
    omega
  refine ⟨?_, calm⟩
  obtain same | ⟨same, -⟩ | ⟨same, beyond⟩ := intern_of_calm calm
  · rw [same]
    exact ample
  · rw [same]
    exact ⟨ample.load, (bucketCount_append signature).trans ample.single⟩
  · refine absurd ?_ beyond
    have added := (bounded.intern signature).1.within.trans (bounded.intern signature).1.limited
    rw [same] at added
    change (table.append signature).size ≤ _ at added
    rw [WithinLoad, bucketCount_append, ample.single]
    change (table.append signature).size * table.load.den ≤ 1 * table.load.num
    rw [ample.load, Nat.mul_one, Nat.one_mul]
    exact added

end SelectorTable

namespace Edit

open Registry

variable [NameHash] {strict : Bool} {draft : Draft}

/-- Where the table is ample, methods are refused at most, and the table stays ample. -/
theorem internMethods_ample (sound : draft.image.Sound strict)
    (ample : draft.image.selectors.Ample) (methods : List MethodDecl) :
    Outcome (internMethods methods draft)
      (fun _ after => after.image.selectors.Ample)
      (fun failure _ => failure = .refused .outOfSelectors) := by
  refine Outcome.imp (outcome_mapM
    (fun now => now.image.Sound strict ∧ now.image.selectors.Ample) (fun _ => True) ?_ methods
    draft ⟨sound, ample⟩) fun _ _ given => given.2.2
  rintro method now ⟨nowSound, nowAmple⟩
  obtain ⟨still, calm⟩ := nowAmple.intern nowSound.selectors method.signature
  have interned := intern_outcome nowSound method.signature
  simp only [intern, outcome_bind, outcome_get, outcome_set, outcome_pure] at interned ⊢
  cases result : (now.image.selectors.intern method.signature).result with
  | ok selector =>
    rw [result] at interned
    exact ⟨trivial, interned.2.1.sound, still⟩
  | error failure =>
    rw [result] at interned
    obtain ⟨refused | panicked, -⟩ := interned
    · exact refused
    · exact absurd (panicked ▸ result) (calm _)

/-- Methods for more signatures than there are selectors are refused, and the registry is left
    alone. -/
theorem internMethods_exhausted (sound : draft.image.Sound strict)
    (ample : draft.image.selectors.Ample) {methods : List MethodDecl}
    (distinct : (methods.map MethodDecl.signature).Nodup)
    (many : SparseMap.capacity < methods.length) :
    Outcome (internMethods methods draft) (fun _ _ => False) (fun failure after =>
      failure = .refused .outOfSelectors ∧ after.image.registry = draft.image.registry) := by
  apply (((internMethods_outcome sound methods).and (internMethods_takes sound methods)).and
    (internMethods_ample sound ample methods)).mono
  · rintro interned after ⟨⟨⟨issued, -⟩, -, spelled⟩, -⟩
    exact absurd (Method.length_le_of_spelled spelled issued distinct) (Nat.not_le_of_lt many)
  · rintro failure after ⟨⟨⟨-, -, same⟩, -⟩, refused⟩
    exact ⟨refused, same⟩

/-- A class without methods is added to the registry of an image, unless its name is taken, and
    nothing else of the image changes. -/
theorem insertNewClass_bare {decl : ClassDecl} (methods : decl.methods = [])
    (classMethods : decl.classMethods = []) :
    Outcome (insertNewClass decl draft)
      (fun _ after => after.image =
        { draft.image with registry := draft.image.registry.adding [decl] })
      (fun _ _ => False) := by
  cases found : draft.image.registry.find? decl.name with
  | some known =>
    rw [insertNewClass, insertClass_taken (by rw [found]; exact Option.some_ne_none known)]
    simp only [adding, List.foldl_cons, List.foldl_nil, found, outcome_ok]
  | none =>
    have inserted : Outcome (insertClass decl draft)
        (fun _ after => after.image =
          { draft.image with registry := draft.image.registry.adding [decl] })
        (fun _ _ => False) := by
      simp only [insertClass, methods, classMethods, internMethods, List.mapM_nil, outcome_bind,
        outcome_registry, found, outcome_pure, outcome_modifyRegistry, outcome_report, adding,
        List.foldl_cons, List.foldl_nil]
      rfl
    obtain ⟨id, after, ended, image⟩ := inserted.exists_ok
    rw [insertNewClass, ended]
    exact image

/-- A class under a free name that declares methods for more signatures than there are selectors is
    refused, and the registry is left alone. -/
theorem insertNewClass_exhausted (sound : draft.image.Sound strict)
    (ample : draft.image.selectors.Ample) {decl : ClassDecl}
    (fresh : draft.image.registry.find? decl.name = none)
    (distinct : (decl.methods.map MethodDecl.signature).Nodup)
    (many : SparseMap.capacity < decl.methods.length) :
    Outcome (insertNewClass decl draft) (fun _ _ => False) (fun failure after =>
      failure = .refused .outOfSelectors ∧ after.image.registry = draft.image.registry) := by
  have inserted : Outcome (insertClass decl draft) (fun _ _ => False) (fun failure after =>
      failure = .refused .outOfSelectors ∧ after.image.registry = draft.image.registry) := by
    simp only [insertClass, outcome_bind, outcome_registry, fresh]
    exact (internMethods_exhausted sound ample distinct many).mono (fun _ _ never => never.elim)
      fun _ _ given => given
  unfold insertNewClass
  cases ended : insertClass decl draft with
  | ok id after =>
    rw [ended] at inserted
    exact inserted.elim
  | error failure after =>
    rw [ended] at inserted
    obtain ⟨rfl, same⟩ := inserted
    exact ⟨rfl, same⟩

/-- A module with such a class at its end is refused after the classes before it have been added,
    and none of them is linked. -/
theorem loadModule_exhausted (sound : draft.image.Sound strict)
    (ample : draft.image.selectors.Ample) {bare : List ClassDecl} {vast : ClassDecl}
    (empty : ∀ decl ∈ bare, decl.methods = [] ∧ decl.classMethods = [])
    (fresh : (draft.image.registry.adding bare).find? vast.name = none)
    (distinct : (vast.methods.map MethodDecl.signature).Nodup)
    (many : SparseMap.capacity < vast.methods.length) (name : String) :
    Outcome (loadModule ⟨name, [], bare ++ [vast], []⟩ draft) (fun _ _ => False)
      (fun failure after => failure = .refused .outOfSelectors ∧
        after.image.registry = draft.image.registry.adding bare) := by
  -- The image that is left at the end of the classes without methods is in order, too.
  have inserted : Outcome ((bare ++ [vast]).mapM insertNewClass draft) (fun _ _ => False)
      (fun failure after => failure = .refused .outOfSelectors ∧
        after.image.registry = draft.image.registry.adding bare) := by
    induction bare generalizing draft strict with
    | nil =>
      simp only [List.nil_append, List.mapM_cons, outcome_bind]
      exact (insertNewClass_exhausted sound ample fresh distinct many).mono
        (fun _ _ never => never.elim) fun _ _ given => given
    | cons decl rest inductionHypothesis =>
      obtain ⟨methods, classMethods⟩ := empty decl List.mem_cons_self
      simp only [List.cons_append, List.mapM_cons, outcome_bind]
      apply ((insertNewClass_bare methods classMethods).and
        (insertNewClass_outcome sound decl)).mono
      · rintro _ between ⟨image, kept⟩
        have step : draft.image.registry.adding (decl :: rest) =
            between.image.registry.adding rest := by
          rw [image]
          rfl
        rw [step] at fresh ⊢
        apply (inductionHypothesis kept.sound (by rw [image]; exact ample)
          (fun other member => empty other (List.mem_cons_of_mem _ member)) fresh).mono
        · exact fun _ _ never => never.elim
        · exact fun _ _ given => given
      · exact fun _ _ never => never.1.elim
  simp only [loadModule, outcome_bind]
  exact inserted.mono (fun _ _ never => never.elim) fun _ _ given => given

end Edit

/-- In every registry there is room for one more class, and it can declare methods for more
    signatures than there are selectors. -/
theorem ClassDecl.exists_vast {registry : Registry} (indexed : registry.Indexed) :
    ∃ vast : ClassDecl, registry.find? vast.name = none ∧
      (vast.methods.map MethodDecl.signature).Nodup ∧
      SparseMap.capacity < vast.methods.length := by
  obtain ⟨name, unknown⟩ := Infinite.exists_notMem_finset registry.names.toFinset
  have fresh : registry.find? name = none :=
    (indexed.find?_eq_none_iff name).mpr fun known => unknown (List.mem_toFinset.mpr known)
  generalize SparseMap.capacity = bound
  let methods : List MethodDecl := (List.range (bound + 1)).map fun length =>
    ⟨⟨String.ofList (List.replicate length 'x'), none⟩, 0⟩
  refine ⟨⟨name, none, 0, methods, []⟩, fresh, ?_, by simp [methods]⟩
  -- Names of different lengths are different.
  rw [List.map_map]
  refine List.nodup_range.map fun length other same => ?_
  have lengths := congrArg (fun signature : Signature => signature.name.length) same
  simpa using lengths

namespace Act

variable [NameHash] {α : Type} {behaviour : Behaviour} {session : Session} {id : ImageId}

/-- An edit that is refused in any case is answered so, and the image keeps what has been done. -/
theorem inRegistry_refused (opened : session.isShut id = false) {change : Edit α} {error : Error}
    {left : Draft → Prop}
    (edited : Outcome (change { image := session.image id }) (fun _ _ => False)
      fun failure after => failure = .refused error ∧ left after) :
    Outcome (inRegistry id (editAndRun behaviour id change) session)
      (fun result after => result = .error error ∧
        ∃ draft, left draft ∧ after = session.adopt id draft)
      (fun _ _ => False) := by
  rw [outcome_inRegistry, if_neg (Bool.eq_false_iff.mp opened)]
  let inside : Session := { session with entered := (id, session.thread) :: session.entered }
  have editedInside : Outcome (change { image := inside.image id }) (fun _ _ => False)
      fun failure after => failure = .refused error ∧ left after := edited
  simp only [editAndRun, outcome_bind]
  unfold edit
  cases ended : change { image := inside.image id } with
  | ok value draft =>
    rw [ended] at editedInside
    exact editedInside.elim
  | error failure draft =>
    rw [ended] at editedInside
    obtain ⟨rfl, isLeft⟩ := editedInside
    exact ⟨rfl, draft, isLeft, rfl⟩

/-- A program that does not insist on selectors goes on when a module is refused. -/
theorem inTurn_refused (opened : session.isShut id = false) (existing : id < session.images.size)
    {decl : ModuleDecl} {left : Registry → Prop}
    (edited : Outcome (Edit.loadModule decl { image := session.image id }) (fun _ _ => False)
      fun failure after => failure = .refused .outOfSelectors ∧ left after.image.registry) :
    Outcome (inTurn false behaviour id [.loadModule decl] session)
      (fun _ after => after.isShut id = false ∧ left (after.image id).registry)
      (fun _ _ => False) := by
  simp only [inTurn, insist, asking, askingNow, Request.registers, Request.run, if_true,
    outcome_bind, outcome_awaitRegistry, outcome_get, opened, Bool.false_eq_true, if_false]
  let noted := session.note (.asked id (.loadModule decl))
  have refused := @inRegistry_refused _ _ behaviour.noting noted id opened _ _ _ edited
  change Outcome (inRegistry id (editAndRun behaviour.noting id (Edit.loadModule decl)) noted) _ _
  apply refused.imp
  rintro _ _ ⟨rfl, draft, isLeft, rfl⟩
  obtain ⟨image, -⟩ :=
    @Session.image_of_adopted _ noted (noted.adopt id draft) id draft rfl existing
  refine ⟨opened, ?_⟩
  change left ((noted.adopt id draft).image id).registry
  rw [image]
  exact isLeft

end Act

/-- Whatever classes without methods there are, a run in which nothing panics can leave all of
    them behind, and all of them unlinked. -/
theorem Session.Observed.exists_left_behind {bare : List ClassDecl}
    (empty : ∀ decl ∈ bare, decl.methods = [] ∧ decl.classMethods = []) :
    ∃ session : Session, session.Observed false ∧ session.isShut 0 = false ∧
      (session.image 0).registry = Registry.empty.adding bare := by
  let config : Config := { Config.standard with buckets := 1, load := ⟨SparseMap.capacity, 1⟩ }
  obtain ⟨vast, fresh, distinct, many⟩ :=
    ClassDecl.exists_vast (Registry.indexed_empty.adding bare).1
  let requests : List Request := [.loadModule ⟨"Module", [], bare ++ [vast], []⟩]
  have isPublic : (Act.inTurn false .idle 0 requests).Public false :=
    Act.inTurn_public (fun _ => .done ()) (fun _ _ _ => .done 0) 0
      (by simp [requests, Request.Issued])
  let ample (first : Session) : Bool := !first.isShut 0 && decide (0 < first.images.size) &&
    (first.image 0).selectors.load == config.load && (first.image 0).selectors.bucketCount == 1
  obtain ⟨first, _, after, started, returned, checked⟩ :=
    @Act.exists_of_reaches _ Unit .info [config] (pure ()) ample (by decide +kernel)
  cases returned
  simp only [ample, Bool.and_eq_true, decide_eq_true_eq, Bool.not_eq_true', beq_iff_eq] at checked
  obtain ⟨⟨⟨opened, existing⟩, load⟩, single⟩ := checked
  have vacant : (first.image 0).registry = .empty := start_registry started 0
  have sound : (first.image 0).Sound false := (start_sound started).images 0
  have edited := @Edit.loadModule_exhausted _ false { image := first.image 0 } sound ⟨load, single⟩
    bare vast empty (vacant ▸ fresh) distinct many "Module"
  rw [vacant] at edited
  have ran := @Act.inTurn_refused _ .idle first 0 opened existing _
    (· = Registry.empty.adding bare) edited
  obtain ⟨_, last, ended, isLast⟩ := ran.exists_ok
  exact ⟨last, ⟨.info, [config], first, started, _, _, isPublic, .inl ⟨_, ended⟩⟩, isLast⟩

end LateBinding
