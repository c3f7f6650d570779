import LateBinding.Proofs.Outlines
import LateBinding.Proofs.TwoRuns

/-!
# Edits that do not look at tables

An edit that registers or replaces something builds tables and brings them up to date, but it
decides nothing by them. Two drafts of one outline are therefore edited alike: the edit ends in
the same way on both, the hooks are the same, and the drafts it leaves have one outline again.
So have their reports, apart from those that tables were built.

For this to be so no table may fail to be built. A table takes any method whose selector can be
a key, and nothing else is asked of a draft here. In the middle of an edit its tables are out of
date and its links are not all in place.
-/

namespace LateBinding

/-- Every selector that is declared in a registry can be the key of a table. -/
structure Registry.Issued (registry : Registry) : Prop where
  entries : ∀ id, (registry.entry id).Issued
  parked : ∀ category ∈ registry.parked, category.Issued

/-- Every selector of a draft can be the key of a table, and so will those to come. -/
structure Draft.Issued [NameHash] (draft : Draft) : Prop where
  registry : draft.image.registry.Issued
  selectors : draft.image.selectors.Bounded

namespace Registry

variable {registry : Registry}

/-- A registry in order holds selectors that a table can hand out, and no others. -/
theorem Formed.allIssued (formed : registry.Formed) : registry.Issued :=
  ⟨formed.issued, formed.parkedIssued⟩

/-- Tables have no part in it. -/
theorem Issued.of_bare (issued : registry.Issued) {after : Registry}
    (same : after.bare = registry.bare) : after.Issued where
  entries id := by
    refine ⟨?_, ?_⟩
    · rw [field_of_bare same ClassEntry.methods fun _ => rfl]
      exact (issued.entries id).methods
    · rw [field_of_bare same ClassEntry.categories fun _ => rfl]
      exact (issued.entries id).categories
  parked := by
    rw [parked_of_bare same]
    exact issued.parked

/-- A change of one class that keeps its selectors issued keeps all of them so. -/
theorem Issued.modify (issued : registry.Issued) (id : ClassId) {change : ClassEntry → ClassEntry}
    (changed : ∀ entry : ClassEntry, entry.Issued → (change entry).Issued) :
    (registry.modify id change).Issued where
  entries other := by
    rw [entry_modify]
    split
    · exact changed _ (issued.entries other)
    · exact issued.entries other
  parked := issued.parked

/-- A class with issued selectors can be added. -/
theorem Issued.push (issued : registry.Issued) {new : ClassEntry} (newIssued : new.Issued) :
    (registry.push new).Issued where
  entries id := by
    rw [entry_push]
    split
    · exact newIssued
    · exact issued.entries id
  parked := issued.parked

/-- Listing a class under its superclass is no change of methods. -/
theorem Issued.addSubclass (issued : registry.Issued) (superclass : Option ClassId) (id : ClassId) :
    (registry.addSubclass superclass id).Issued := by
  cases superclass with
  | none => exact issued
  | some above => exact issued.modify above fun _ given => ⟨given.methods, given.categories⟩

/-- Neither is a link. -/
theorem Issued.tie (issued : registry.Issued) (id : ClassId) : (registry.tie id).Issued :=
  issued.modify id fun _ given => ⟨given.methods, given.categories⟩

/-- Neither is linking as a whole. -/
theorem Issued.link (issued : registry.Issued) (id : ClassId) : (registry.link id).Issued := by
  refine Issued.addSubclass (issued.modify id ?_) _ id
  exact fun _ given => ⟨given.methods, given.categories⟩

/-- The categories that waited were issued when they were parked. -/
theorem Issued.absorb (issued : registry.Issued) (id : ClassId) : (registry.absorb id).Issued where
  entries := by
    have waiting : ∀ category ∈ registry.parkedFor (registry.entry id).name, category.Issued :=
      fun category member => issued.parked category (List.mem_filter.mp member).1
    have attached : (registry.modify id fun entry =>
        { entry.advance .loaded with
          categories := entry.categories ++ registry.parkedFor (registry.entry id).name }).Issued :=
      issued.modify id fun _ given => given.extend waiting rfl rfl
    exact attached.entries
  parked category member := issued.parked category (List.mem_filter.mp member).1

/-- An issued category can be attached. -/
theorem Issued.attach (issued : registry.Issued) (id : ClassId) {category : Category}
    (new : category.Issued) : (registry.attach id category).Issued :=
  issued.modify id fun _ given =>
    given.extend (fun _ member => List.mem_singleton.mp member ▸ new) rfl rfl

/-- An issued category can be parked. -/
theorem Issued.park (issued : registry.Issued) {category : Category} (new : category.Issued) :
    (registry.park category).Issued where
  entries := issued.entries
  parked other member := by
    rcases List.mem_append.mp member with older | last
    · exact issued.parked other older
    · exact List.mem_singleton.mp last ▸ new

/-- A method can be replaced under a selector that a table can hand out. -/
theorem Issued.replaceMethod (issued : registry.Issued) (ref : SideRef) {selector : Selector}
    (imp : Imp) (fits : selector < SparseMap.capacity) :
    (registry.replaceMethod ref selector imp).Issued :=
  issued.modify ref.id fun _ given => given.replaceMethod ref.side imp fits

end Registry

namespace Draft

variable [NameHash] {before between after : Draft}

/-- An edit has changed nothing that an outline shows. -/
structure Unseen (before after : Draft) : Prop where
  issued : after.Issued
  outline : after.outline = before.outline

/-- Nothing that happens is seen where nothing happens. -/
theorem Unseen.refl (issued : before.Issued) : before.Unseen before := ⟨issued, rfl⟩

/-- Of two unseen changes in a row nothing is seen. -/
theorem Unseen.trans (first : before.Unseen between) (second : between.Unseen after) :
    before.Unseen after :=
  ⟨second.issued, second.outline.trans first.outline⟩

/-- A table that is published is not seen. -/
theorem Unseen.publish (issued : before.Issued) (ref : SideRef) (table : DispatchTable) :
    before.Unseen { before with
      image := { before.image with registry := before.image.registry.publish ref table } } where
  issued := ⟨issued.registry.of_bare (Registry.bare_publish _ ref table), issued.selectors⟩
  outline := by simp only [Draft.outline, Image.outline, Registry.bare_publish]

/-- A report that a table has been built is not seen. -/
theorem Unseen.report (issued : before.Issued) {message : Log.Message}
    (building : message.ofBuilding = true) :
    before.Unseen { before with reports := before.reports ++ [message] } where
  issued := ⟨issued.registry, issued.selectors⟩
  outline := by simp [Draft.outline, building]

end Draft

namespace Edit

open Registry

variable [NameHash] {α : Type} {draft : Draft}

omit [NameHash] in
/-- What building a table reports is recognized as such a report. -/
theorem ofBuilding_built (side : Side) (name size : String) :
    (⟨.trace, "built " ++ sideWord side ++ " dispatch table of " ++ name ++ " (" ++ size ++
      " entries)"⟩ : Log.Message).ofBuilding = true := by
  simp [Log.Message.ofBuilding, String.append_assoc]

/-- Laying the methods of a side over a table is not seen, and does not fail. -/
theorem overlaySide_unseen (issued : draft.Issued) (table : DispatchTable) (ref : SideRef) :
    Outcome (overlaySide table ref draft) (fun _ after => draft.Unseen after) fun _ _ => False := by
  obtain ⟨written, overlaid, -⟩ :=
    overlay_spec table ((issued.registry.entries ref.id).declarations ref.side) draft
  simp only [overlaySide, outcome_bind, outcome_registry, overlaid]
  exact .refl issued

/-- Tables are built along any line, and nothing else is seen of it. -/
theorem ensureAlong_unseen (issued : draft.Issued) (line : List SideRef) :
    Outcome (ensureAlong line draft) (fun _ after => draft.Unseen after) fun _ _ => False := by
  induction line with
  | nil => exact .refl issued
  | cons ref above inductionHypothesis =>
    simp only [ensureAlong, outcome_bind, outcome_registry]
    cases draft.image.registry.table? ref with
    | some table => exact .refl issued
    | none =>
      simp only [outcome_bind, outcome_modifyRegistry, outcome_registry, outcome_report,
        outcome_pure]
      refine inductionHypothesis.imp fun inherited between built => ?_
      refine (overlaySide_unseen built.issued inherited ref).imp fun table written overlaid => ?_
      have published := Draft.Unseen.publish overlaid.issued ref table
      exact ((built.trans overlaid).trans published).trans
        (.report published.issued (ofBuilding_built _ _ _))

/-- Making sure of a table is not seen, and does not fail. -/
theorem ensure_unseen (issued : draft.Issued) (ref : SideRef) :
    Outcome (ensure ref draft) (fun _ after => draft.Unseen after) fun _ _ => False := by
  simp only [ensure, outcome_bind, outcome_registry]
  exact ensureAlong_unseen issued _

/-- Building a table is not seen, and does not fail. -/
theorem build_unseen (issued : draft.Issued) (ref : SideRef) :
    Outcome (build ref draft) (fun _ after => draft.Unseen after) fun _ _ => False := by
  simp only [build, outcome_bind, outcome_registry]
  cases draft.image.registry.parent? ref with
  | none => exact overlaySide_unseen issued .empty ref
  | some above =>
    simp only [outcome_bind]
    refine (ensure_unseen issued above).imp fun inherited between built => ?_
    exact (overlaySide_unseen built.issued inherited ref).imp fun _ _ overlaid =>
      built.trans overlaid

/-- Rebuilding the table of a side is not seen, and does not fail. -/
theorem rebuildSide_unseen (issued : draft.Issued) (ref : SideRef) :
    Outcome (rebuildSide ref draft) (fun _ after => draft.Unseen after) fun _ _ => False := by
  simp only [rebuildSide, outcome_bind, outcome_registry]
  split
  · simp only [outcome_bind, outcome_modifyRegistry]
    refine (build_unseen issued ref).imp fun table between built => ?_
    exact built.trans (.publish built.issued ref table)
  · exact .refl issued

/-- Making sure of the tables of both sides is not seen, and does not fail. -/
theorem ensureSides_unseen (issued : draft.Issued) (id : ClassId) :
    Outcome ((do let _ ← ensure ⟨id, .inst⟩; let _ ← ensure ⟨id, .metaclass⟩ : Edit Unit) draft)
      (fun _ after => draft.Unseen after) fun _ _ => False := by
  simp only [outcome_bind, outcome_pure]
  refine (ensure_unseen issued ⟨id, .inst⟩).imp fun _ between built => ?_
  exact (ensure_unseen built.issued ⟨id, .metaclass⟩).imp fun _ _ further => built.trans further

/-- Whether tables are built early is not seen. -/
theorem ensureEarly_unseen (issued : draft.Issued) (id : ClassId) :
    Outcome (ensureEarly id draft) (fun _ after => draft.Unseen after) fun _ _ => False := by
  simp only [ensureEarly, outcome_bind, outcome_get]
  split
  · exact ensureSides_unseen issued id
  · exact .refl issued

/-- An edit ends in the same way on drafts of one outline, and gives values that meet a
    condition. -/
abbrev Blind (meets : α → Prop) (change : Edit α) : Prop :=
  Veiled Draft.Issued Draft.outline meets id change

/-- Nothing is asked of a value. -/
abbrev anything : α → Prop := fun _ => True

variable {meets : α → Prop}

/-- An edit that is not seen is blind. -/
theorem Blind.unseen {change : Edit Unit}
    (silent : ∀ draft : Draft, draft.Issued →
      Outcome (change draft) (fun _ after => draft.Unseen after) fun _ _ => False) :
    Blind anything change :=
  Veiled.unseen fun draft issued =>
    (silent draft issued).imp fun _ _ unseen => ⟨unseen.issued, unseen.outline⟩

/-- What is read of a registry is the same without tables. -/
theorem Blind.registry {next : Registry → Edit α}
    (inView : ∀ registry : Registry, next registry.bare = next registry)
    (continued : ∀ registry : Registry, registry.Issued → Blind meets (next registry)) :
    Blind meets (registry >>= next) :=
  Veiled.read (fun draft => inView draft.image.registry)
    fun draft issued => continued draft.image.registry issued.registry

/-- A change of the registry is blind if it leaves tables out and leaves them alone. -/
theorem modifyRegistry_blind {change : Registry → Registry}
    (inView : ∀ registry : Registry, (change registry).bare = change registry.bare)
    (kept : ∀ registry : Registry, registry.Issued → (change registry).Issued) :
    Blind anything (modifyRegistry change) := by
  let lowered : Draft → Draft := fun draft =>
    { draft with image := { draft.image with registry := change draft.image.registry } }
  have commutes : ∀ draft : Draft, (lowered draft).outline = lowered draft.outline := by
    intro draft
    simp only [lowered, Draft.outline, Image.outline, inView]
  exact Veiled.modify lowered (fun draft issued => ⟨kept _ issued.registry, issued.selectors⟩)
    commutes

/-- Reports do not depend on tables. -/
theorem report_blind (level : Log.Level) (text : String) : Blind anything (report level text) := by
  let shown := [(⟨level, text⟩ : Log.Message)].filter fun message => !message.ofBuilding
  refine Veiled.modify (fun draft => { draft with reports := draft.reports ++ shown })
    (fun draft issued => ⟨issued.registry, issued.selectors⟩) fun draft => ?_
  simp only [Draft.outline, List.filter_append, shown]

/-- Hooks do not depend on tables. -/
theorem collect_blind (hook : LoadHook) : Blind anything (collect hook) :=
  Veiled.modify (fun draft => { draft with hooks := draft.hooks ++ [hook] })
    (fun _ issued => ⟨issued.registry, issued.selectors⟩) fun _ => rfl

/-- A refusal does not depend on tables. -/
theorem refuse_blind (error : Error) : Blind meets (refuse error) := Veiled.throw _

/-- A draft whose selectors have been asked for a signature. -/
def interned (signature : Signature) (draft : Draft) : Draft :=
  { draft with
    image := { draft.image with selectors := (draft.image.selectors.intern signature).table }
    reports := draft.reports ++ Image.growthMessages (draft.image.selectors.intern signature) }

/-- The selector table is seen as a whole. -/
theorem interned_blind (signature : Signature) :
    Blind anything (modify (interned signature) : Edit Unit) := by
  let lowered : Draft → Draft := fun draft =>
    { interned signature draft with
      reports := draft.reports ++
        (Image.growthMessages (draft.image.selectors.intern signature)).filter
          fun message => !message.ofBuilding }
  refine Veiled.modify lowered (fun draft issued => ?_) fun draft => ?_
  · exact ⟨issued.registry, (issued.selectors.intern signature).1⟩
  · simp only [Draft.outline, interned, List.filter_append, lowered]
    rfl

/-- An edit that gives a result which is known. -/
def giving : Except Failure α → Edit α
  | .ok value => pure value
  | .error failure => throw failure

/-- The draft is changed whatever the result is, and the selectors alone decide both. -/
theorem intern_eq (signature : Signature) :
    intern signature = (do
      let draft ← get
      modify (interned signature)
      giving (draft.image.selectors.intern signature).result) := by
  funext draft
  rw [intern, get_bind, get_bind]
  cases (draft.image.selectors.intern signature).result <;> rfl

/-- Interning is blind, and what it gives is a selector that a table can hand out. -/
theorem intern_blind (signature : Signature) :
    Blind (· < SparseMap.capacity) (intern signature) := by
  rw [intern_eq]
  refine Veiled.read (fun _ => rfl) fun draft issued =>
    (interned_blind signature).bind fun _ _ => ?_
  have given := (issued.selectors.intern signature).2
  cases result : (draft.image.selectors.intern signature).result with
  | ok selector => exact .pure (given selector result)
  | error failure => exact .throw failure

/-- So is interning the methods of a declaration. -/
theorem internMethods_blind (methods : List MethodDecl) :
    Blind Method.Issued (internMethods methods) := by
  have turn : ∀ method : MethodDecl,
      Blind (fun interned : Method => interned.selector < SparseMap.capacity)
        (do return ⟨← intern method.signature, method.imp⟩) := by
    intro method
    exact (intern_blind method.signature).bind fun _ fits => .pure fits
  exact (Veiled.mapM turn methods).mono fun _ issued => issued

/-- Setting a class up looks at its superclass and at sizes, not at tables. -/
theorem setUp_blind (id : ClassId) : Blind anything (setUp id) := by
  refine Blind.registry (fun registry => ?_) fun registry _ => ?_
  · simp only [reached_bare, fullSize_bare, entry_bare, ClassEntry.bare]
  · split
    · exact .pure trivial
    · split
      · exact (modifyRegistry_blind (bare_tie · id) fun _ issued => issued.tie id).bind fun _ _ =>
          .throw _
      · exact (modifyRegistry_blind (bare_link · id) fun _ issued => issued.link id).bind fun _ _ =>
          report_blind _ _

/-- A `load` is looked for among methods, not in a table. -/
theorem collectLoad_blind (receiver : ClassId) (category : Option Nat) (owner : String)
    (methods : List Method) : Blind anything (collectLoad receiver category owner methods) := by
  refine Veiled.read (fun _ => rfl) fun draft _ => ?_
  split
  · exact collect_blind _
  · exact .pure trivial

/-- The report counts the categories that waited. -/
theorem reportMerging_blind (waiting : List Category) (name : String) :
    Blind anything (reportMerging waiting name) := by
  unfold reportMerging
  split
  · exact .pure trivial
  · exact report_blind _ _

/-- Loading is blind. Early tables, if there are any, are not seen. -/
theorem load_blind (id : ClassId) : Blind anything (load id) := by
  refine Blind.registry (fun registry => ?_) fun registry _ => ?_
  · simp only [reached_bare, entry_bare, parkedFor_bare, ClassEntry.bare]
  · split
    · exact .pure trivial
    · refine (reportMerging_blind _ _).bind fun _ _ => ?_
      refine (collectLoad_blind _ _ _ _).bind fun _ _ => ?_
      refine (Veiled.forM (fun category => collectLoad_blind _ _ _ _) _).bind fun _ _ => ?_
      refine (modifyRegistry_blind (bare_absorb · id) fun _ issued => issued.absorb id).bind
        fun _ _ => (report_blind _ _).bind fun _ _ => ?_
      exact Blind.unseen fun _ issued => ensureEarly_unseen issued id

/-- Advancing the classes of a chain is blind. -/
theorem advanceAlong_blind (chain : List ClassId) : Blind anything (advanceAlong chain) :=
  Veiled.forM (fun id => (setUp_blind id).bind fun _ _ => load_blind id) _

/-- Advancing a class is blind, with the errors of its chain. -/
theorem advance_blind (id : ClassId) : Blind anything (advance id) := by
  refine Blind.registry (fun registry => ?_) fun registry _ => ?_
  · rw [chain_bare]
  · split
    · exact advanceAlong_blind _
    · exact refuse_blind _

/-- Giving one class the chance to make progress is blind. -/
theorem settleClass_blind (id : ClassId) : Blind anything (settleClass id) := by
  refine Blind.registry (fun registry => ?_) fun registry _ => ?_
  · rw [reached_bare, chain_bare]
  · split
    · exact .pure trivial
    · split
      · exact advanceAlong_blind _
      · exact .pure trivial

/-- Settling is blind. -/
theorem settle_blind : Blind anything settle := by
  refine Blind.registry (fun registry => ?_) fun registry _ => ?_
  · rw [size_bare]
  · exact Veiled.forM settleClass_blind _

/-- Rebuilding the tables of one class is blind: only its report is seen. -/
theorem rebuildClass_blind (id : ClassId) : Blind anything (rebuildClass id) := by
  have sides := fun side => Blind.unseen fun _ issued => rebuildSide_unseen issued ⟨id, side⟩
  refine (sides .inst).bind fun _ _ => (sides .metaclass).bind fun _ _ => ?_
  refine Blind.registry (fun registry => ?_) fun registry _ => report_blind _ _
  simp only [entry_bare, ClassEntry.bare]

/-- So is rebuilding those of a class and of all below it, whose order does not depend on tables. -/
theorem rebuild_blind (id : ClassId) : Blind anything (rebuild id) := by
  refine Blind.registry (fun registry => ?_) fun registry _ => ?_
  · rw [descendants_bare]
  · exact Veiled.forM rebuildClass_blind _

/-- Adding a class is blind. -/
theorem insertClass_blind (decl : ClassDecl) : Blind anything (insertClass decl) := by
  refine Blind.registry (fun registry => ?_) fun registry _ => ?_
  · rw [find?_bare]
  · split
    · exact (report_blind _ _).bind fun _ _ => refuse_blind _
    · refine (internMethods_blind _).bind fun methods methodsIssued =>
        (internMethods_blind _).bind fun classMethods classMethodsIssued => ?_
      refine Blind.registry (fun registry => ?_) fun registry _ => ?_
      · rw [size_bare]
      · refine (modifyRegistry_blind ?_ fun _ issued => issued.push ?_).bind fun _ _ =>
          (report_blind _ _).bind fun _ _ => .pure trivial
        · exact fun registry => registry.bare_push rfl
        · refine ⟨fun side => ?_, fun _ impossible => absurd impossible List.not_mem_nil⟩
          cases side
          · exact methodsIssued
          · exact classMethodsIssued

/-- Attaching a category is blind. -/
theorem attach_blind (id : ClassId) {category : Category} (issued : category.Issued) :
    Blind anything (attach id category) := by
  have attached := modifyRegistry_blind (bare_attach · id category)
    fun _ given => given.attach id issued
  refine attached.bind fun _ _ => (report_blind _ _).bind fun _ _ => ?_
  exact (collectLoad_blind _ _ _ _).bind fun _ _ => rebuild_blind id

/-- Parking a category is blind. -/
theorem park_blind {category : Category} (issued : category.Issued) :
    Blind anything (park category) := by
  refine Veiled.bind (modifyRegistry_blind ?_ ?_) fun _ _ => report_blind _ _
  · exact fun _ => rfl
  · exact fun _ given => given.park issued

/-- A category is blindly attached or parked. -/
theorem insertCategory_blind (decl : CategoryDecl) : Blind anything (insertCategory decl) := by
  refine (internMethods_blind _).bind fun methods methodsIssued =>
    (internMethods_blind _).bind fun classMethods classMethodsIssued => ?_
  refine Blind.registry (fun registry => ?_) fun registry _ => ?_
  · simp only [categoryCount_bare, find?_bare, reached_bare]
  · have issued : Category.Issued
        ⟨registry.categoryCount, decl.name, decl.className, ⟨methods, classMethods⟩⟩ := by
      intro side
      cases side
      · exact methodsIssued
      · exact classMethodsIssued
    have counted : Blind anything (modifyRegistry (·.countCategory)) :=
      modifyRegistry_blind (fun _ => rfl) fun _ given => ⟨given.entries, given.parked⟩
    refine counted.bind fun _ _ => ?_
    dsimp only
    split
    · split
      · exact (attach_blind _ issued).bind fun _ _ => .pure trivial
      · exact (park_blind issued).bind fun _ _ => .pure trivial
    · exact (park_blind issued).bind fun _ _ => .pure trivial

/-- Registering a class is blind. -/
theorem registerClass_blind (decl : ClassDecl) : Blind anything (registerClass decl) :=
  (insertClass_blind decl).bind fun _ _ => settle_blind.bind fun _ _ => .pure trivial

/-- Interning keeps a draft issued also if it fails. -/
theorem internMethods_issued (issued : draft.Issued) (methods : List MethodDecl) :
    Outcome (internMethods methods draft) (fun _ after => after.Issued)
      fun _ after => after.Issued := by
  refine (outcome_mapM Draft.Issued anything ?_ methods draft issued).imp fun _ _ kept => kept.2
  intro method now issued
  have kept : (interned method.signature now).Issued :=
    ⟨issued.registry, (issued.selectors.intern method.signature).1⟩
  rw [intern_eq]
  simp only [outcome_bind, outcome_get, outcome_pure]
  change Outcome (giving _ (interned method.signature now)) _ _
  cases (now.image.selectors.intern method.signature).result with
  | ok selector => exact ⟨trivial, kept⟩
  | error failure => exact kept

/-- A class that is not added leaves a draft issued. -/
theorem insertClass_issued (issued : draft.Issued) (decl : ClassDecl) :
    Outcome (insertClass decl draft) (fun _ _ => True) fun _ after => after.Issued := by
  simp only [insertClass, outcome_bind, outcome_registry]
  cases draft.image.registry.find? decl.name with
  | some id => exact ⟨issued.registry, issued.selectors⟩
  | none =>
    simp only [outcome_bind]
    refine (internMethods_issued issued decl.methods).imp fun _ between betweenIssued => ?_
    exact (internMethods_issued betweenIssued decl.classMethods).imp fun _ _ _ => trivial

/-- The class is left out on both drafts or on neither. -/
theorem insertNewClass_blind (decl : ClassDecl) : Blind anything (insertNewClass decl) where
  keeps draft issued := by
    have inserted :=
      ((insertClass_blind decl).keeps draft issued).and (insertClass_issued issued decl)
    unfold insertNewClass
    cases ended : insertClass decl draft with
    | ok id after =>
      rw [ended] at inserted
      exact inserted.1
    | error failure after =>
      rw [ended] at inserted
      split
      · contradiction
      · rename_i same
        cases same
        exact ⟨trivial, inserted.2⟩
      · trivial
  alike draft other issued otherIssued same := by
    have inserted := (insertClass_blind decl).alike draft other issued otherIssued same
    unfold insertNewClass
    rcases seen_cases inserted with ⟨value, after, after', ended, ended', views⟩ |
      ⟨reason, after, after', ended, ended', views⟩
    · simp only [ended, ended', seen, views, id]
    · simp only [ended, ended']
      cases reason with
      | panicked panic => simp only [seen, views]
      | refused error => cases error <;> simp only [seen, views, id]

/-- Loading a module is blind. -/
theorem loadModule_blind (decl : ModuleDecl) : Blind anything (loadModule decl) := by
  refine (Veiled.forM (fun signature => (intern_blind signature).bind fun _ _ => .pure trivial)
    _).bind fun _ _ => (Veiled.mapM insertNewClass_blind _).bind fun inserted _ => ?_
  refine (Veiled.forM (fun category => (insertCategory_blind category).bind fun _ _ =>
    .pure trivial) _).bind fun _ _ => settle_blind.bind fun _ _ => ?_
  refine Veiled.read (fun _ => rfl) fun draft _ => ?_
  exact (report_blind _ _).bind fun _ _ => .pure trivial

/-- Replacing a method is blind: the previous one is looked up among the methods. -/
theorem replaceMethod_blind (ref : SideRef) {selector : Selector} (imp : Imp)
    (fits : selector < SparseMap.capacity) : Blind anything (replaceMethod ref selector imp) := by
  refine Blind.registry (fun registry => ?_) fun registry _ => ?_
  · simp only [entry_bare, ClassEntry.bare]
  · refine (modifyRegistry_blind (bare_replaceMethod · ref selector imp) fun _ issued =>
      issued.replaceMethod ref imp fits).bind fun _ _ => (rebuild_blind ref.id).bind fun _ _ => ?_
    refine Veiled.read (fun draft => ?_) fun draft _ =>
      (report_blind _ _).bind fun _ _ => .pure trivial
    simp only [Draft.outline, Image.outline, entry_bare, ClassEntry.bare]

/-- Preparing the tables of a class is blind. -/
theorem readyTables_blind (id : ClassId) : Blind anything (Act.readyTables id) :=
  (advance_blind id).bind fun _ _ => Blind.unseen fun _ issued => ensureSides_unseen issued id

end Edit

end LateBinding
