import LateBinding.Proofs.Categories
import Mathlib.Data.List.Perm.Subperm

/-!
# Hooks are called once

A change makes hooks due: those of categories that it attaches to classes which were loaded
before, and then a block for each class that it loads, no class before one above it. Nothing
else makes a hook due. So along a run every class that has been loaded has had its own hook
made due once, as it was declared then, and every attached category has had its hook made due
once.

Whatever was due has been called, except for what is still due where the run waits inside a
hook. So at any moment the calls of hooks are some of those that were due, and all of them
where no hook is running.
-/

namespace LateBinding

/-- The hooks of an image that a deed makes due. -/
def Deed.hooks (id : ImageId) : Deed → List LoadHook
  | .changed other _ hooks => if other = id then hooks else []
  | _ => []

/-- Whether a deed loads a class. -/
def Moment.loadsClass [NameHash] (id : ImageId) (target : ClassId) (moment : Moment) : Bool :=
  !(moment.before.image id).registry.reached target .loaded &&
    (moment.after.image id).registry.reached target .loaded

/-- A class is loaded at a moment if it is loaded after it and was not before. -/
theorem Moment.loadsClass_eq_true [NameHash] {id : ImageId} {target : ClassId} {moment : Moment} :
    moment.loadsClass id target = true ↔
      (moment.before.image id).registry.reached target .loaded = false ∧
        (moment.after.image id).registry.reached target .loaded = true := by
  rw [loadsClass, Bool.and_eq_true, Bool.not_eq_true']

/-- Whether a call is that of a hook on a class. -/
def Call.loads (id : ImageId) (target : ClassId) (call : Call) : Bool :=
  call.isLoad && decide (call.receiver = some ⟨id, ⟨target, .inst⟩⟩)

namespace Course

variable [NameHash]

/-- The hooks of an image that became due, in order. -/
def hooks (id : ImageId) (course : List Moment) : List LoadHook :=
  course.flatMap (·.deed.hooks id)

/-- The moments at which a class was loaded. -/
def loadings (id : ImageId) (target : ClassId) (course : List Moment) : List Moment :=
  course.filter (·.loadsClass id target)

/-- The hooks that a class declared itself when it was loaded. -/
def ownHooks (id : ImageId) (selector : Selector) (target : ClassId) (course : List Moment) :
    List LoadHook :=
  (loadings id target course).flatMap fun moment =>
    ((moment.after.image id).registry.ownHook selector target).toList

/-- The hooks of a course are those of its first moment and those of the rest. -/
theorem hooks_cons (id : ImageId) (moment : Moment) (rest : List Moment) :
    hooks id (moment :: rest) = moment.deed.hooks id ++ hooks id rest := List.flatMap_cons

/-- So are the moments at which a class was loaded. -/
theorem loadings_cons (id : ImageId) (target : ClassId) (moment : Moment) (rest : List Moment) :
    loadings id target (moment :: rest) =
      (if moment.loadsClass id target then [moment] else []) ++ loadings id target rest := by
  rw [loadings, List.filter_cons, loadings]
  split <;> rfl

/-- So are the hooks that it declared itself. -/
theorem ownHooks_cons (id : ImageId) (selector : Selector) (target : ClassId) (moment : Moment)
    (rest : List Moment) : ownHooks id selector target (moment :: rest) =
      (if moment.loadsClass id target then
        ((moment.after.image id).registry.ownHook selector target).toList else []) ++
        ownHooks id selector target rest := by
  rw [ownHooks, loadings_cons, List.flatMap_append, ownHooks]
  split
  · rw [List.flatMap_singleton]
  · rfl

end Course

/-- Categories that were recorded have the numbers of their registration. -/
theorem Category.Recorded.serials {hash : String → Nat} {table : SelectorTable hash}
    {categories : List Category} {entries : List (CategoryDecl × Nat)}
    (recorded : Category.Recorded table categories entries) :
    categories.map Category.serial = entries.map Prod.snd := by
  induction recorded with
  | nil => rfl
  | cons realizes _ inductionHypothesis =>
    rw [List.map_cons, List.map_cons, realizes.serial, inductionHypothesis]

/-- The categories of a class stand in the order in which they were registered, and no two have
    the same number. -/
theorem Registry.Ledger.sorted {registry : Registry} {hash : String → Nat}
    {table : SelectorTable hash} {registered : List CategoryDecl}
    (ledger : registry.Ledger table registered) (formed : registry.Formed) (target : ClassId) :
    ((registry.entry target).categories.map Category.serial).Pairwise (· < ·) := by
  by_cases inside : target < registry.size
  · have found := (formed.named _ target).mpr ⟨inside, rfl⟩
    have held := ledger.held (registry.entry target).name
    rw [attachedTo_of_find? found] at held
    have numbers : ((CategoryDecl.forName registered (registry.entry target).name).map
        Prod.snd).Pairwise (· < ·) := by
      refine List.Pairwise.sublist (List.filter_sublist.map Prod.snd) ?_
      rw [List.zipIdx_map_snd]
      exact List.pairwise_lt_range'
    rw [← held.serials, List.map_append] at numbers
    exact numbers.sublist (List.sublist_append_left _ _)
  · rw [entry_of_size_le _ (Nat.le_of_not_lt inside)]
    exact .nil

/-- The hooks of the categories of a class are numbered in their order. -/
theorem Registry.categoryHooks_ordered {registry : Registry} {target : ClassId}
    (sorted : ((registry.entry target).categories.map Category.serial).Pairwise (· < ·))
    (selector : Selector) : (registry.categoryHooks selector target).Pairwise fun hook next =>
      ∃ serial other, hook.category = some serial ∧ next.category = some other ∧
        serial < other := by
  refine (List.pairwise_map.mp sorted).filterMap _ fun category other ordered hook given next
    nextGiven => ?_
  exact ⟨category.serial, other.serial, (LoadHook.among_eq_some given).2,
    (LoadHook.among_eq_some nextGiven).2, ordered⟩

/-- The hooks that one change makes due: those of categories whose classes were loaded before,
    and then one block for each class that it loads, after the blocks of all classes above. The
    categories of a class are numbered in the order in which they were registered. -/
structure Registry.Blocks (before after : Registry) (selector : Selector)
    (hooks early : List LoadHook) (order : List ClassId) : Prop where
  hooks : hooks = early ++ order.flatMap (after.block selector)
  early : ∀ hook ∈ early, hook.category.isSome = true ∧
    before.reached hook.receiver .loaded = true
  nodup : order.Nodup
  loaded : ∀ target, target ∈ order ↔
    before.reached target .loaded = false ∧ after.reached target .loaded = true
  ordered : order.Pairwise fun earlier later =>
    ∀ path, after.Ascent earlier path → later ∉ path
  merged : ∀ target, ((after.entry target).categories.map Category.serial).Pairwise (· < ·)

namespace Registry.Blocks

variable {before after : Registry} {selector : Selector} {hooks early : List LoadHook}
  {order : List ClassId}

/-- The own hooks of a class among those that one change makes due. -/
theorem filter_isOwn (blocks : before.Blocks after selector hooks early order) (target : ClassId) :
    hooks.filter (LoadHook.isOwn target) =
      if target ∈ order then (after.ownHook selector target).toList else [] := by
  have first : early.filter (LoadHook.isOwn target) = [] := by
    refine List.filter_eq_nil_iff.mpr fun hook member => ?_
    have attached := (blocks.early hook member).1
    rw [LoadHook.isOwn, ← Option.not_isSome, attached]
    simp
  have block : ∀ id, (after.block selector id).filter (LoadHook.isOwn target) =
      if id = target then (after.ownHook selector id).toList else [] := by
    intro id
    rw [block, List.filter_append, filter_isOwn_ownHook, categoryHooks, filter_isOwn_hooks,
      List.append_nil]
  have nodup := blocks.nodup
  rw [blocks.hooks, List.filter_append, first, List.nil_append]
  clear blocks
  induction order with
  | nil => rfl
  | cons id rest inductionHypothesis =>
    obtain ⟨once, others⟩ := List.nodup_cons.mp nodup
    rw [List.flatMap_cons, List.filter_append, block, inductionHypothesis others]
    by_cases same : id = target
    · subst same
      simp [once]
    · simp [same, Ne.symm same]

end Registry.Blocks

/-- The hooks that became due for a class while a registry changed: those of the categories that
    were attached to it meanwhile, and its own, if it was loaded meanwhile. -/
structure Registry.Owes (before after : Registry) (selector : Selector) (target : ClassId)
    (due : List LoadHook) : Prop where
  attached : after.categoryHooks selector target =
    before.categoryHooks selector target ++ due.filter (LoadHook.isAttached target)
  own : due.filter (LoadHook.isOwn target) =
    if before.reached target .loaded = false ∧ after.reached target .loaded = true then
      (after.ownHook selector target).toList else []
  kept : before.reached target .loaded = true → after.reached target .loaded = true

/-- Where a class and its categories stay as they are no hook is owed. -/
theorem Registry.Owes.nothing {before after : Registry} {selector : Selector} {target : ClassId}
    (categories : (after.entry target).categories = (before.entry target).categories)
    (loaded : after.reached target .loaded = before.reached target .loaded) :
    before.Owes after selector target [] where
  attached := by rw [categoryHooks_congr categories, List.filter_nil, List.append_nil]
  own := by
    rw [loaded, List.filter_nil, if_neg]
    rintro ⟨unloaded, given⟩
    rw [unloaded] at given
    cases given
  kept given := loaded.trans given

namespace Image

variable [NameHash] {id : ImageId} {before after : Image} {deed : Deed}
  {registered : List CategoryDecl}

/-- A change makes blocks of hooks due, and attaches the categories that they belong to. -/
theorem blocks_of_amends {draft : Draft} {arrivals : List Arrival} {order : List ClassId}
    (amends : Draft.Amends { image := before } arrivals order draft)
    (sound : before.registry.Sound) (soundAfter : draft.image.registry.Sound)
    (ledger : before.Ledger registered) :
    (∃ early order, before.registry.Blocks draft.image.registry before.loadSelector draft.hooks
      early order) ∧
    ∀ target, draft.image.registry.categoryHooks before.loadSelector target =
      before.registry.categoryHooks before.loadSelector target ++
        draft.hooks.filter (LoadHook.isAttached target) := by
  obtain ⟨early, queues, due⟩ := amends.queues sound ledger
  have hooks := queues.hooks
  rw [List.nil_append] at hooks
  have merged := (amends.ledger sound ledger).sorted soundAfter.formed
  refine ⟨⟨early, order, hooks, due, amends.nodup, fun target => ?_, amends.pairwise sound,
    merged⟩, ?_⟩
  · rw [amends.loaded_iff]
    constructor
    · exact fun member => ⟨amends.early target member, .inl member⟩
    · rintro ⟨unloaded, member | loaded⟩
      · exact member
      · rw [unloaded] at loaded
        cases loaded
  · intro target
    rw [hooks]
    exact queues.attached target

/-- The hooks of one change come in blocks. -/
theorem Lives.blocks {change : Change} {hooks : List LoadHook}
    (lives : before.Lives true id (.changed id change hooks) after)
    (sound : before.registry.Sound) (soundAfter : after.registry.Sound)
    (ledger : before.Ledger registered) :
    ∃ early order, before.registry.Blocks after.registry before.loadSelector hooks early order := by
  cases lives with
  | changed amends _ => exact (blocks_of_amends amends sound soundAfter ledger).1
  | apart other _ => exact absurd rfl other

omit [NameHash] in
/-- Marking a class as initialized leaves what is loaded as it is. -/
theorem loaded_endInit {registry : Registry} {target : ClassId}
    (loaded : registry.reached target .loaded = true) (other : ClassId) :
    (registry.endInit target).reached other .loaded = registry.reached other .loaded := by
  refine registry.field_modify target _ (·.stage.inst.reached .loaded) ?_ other
  obtain ⟨continues, -⟩ := ClassEntry.continues_initialized (registry.entry target) loaded
  exact (continues.loaded loaded).trans loaded.symm

/-- Every deed makes due what it owes. -/
theorem Lives.owes (lives : before.Lives true id deed after) (sound : before.registry.Sound)
    (soundAfter : after.registry.Sound) (ledger : before.Ledger registered) (target : ClassId) :
    before.registry.Owes after.registry before.loadSelector target (deed.hooks id) := by
  cases lives with
  | @changed change draft arrivals order amends _ =>
    obtain ⟨⟨early, order, blocks⟩, attached⟩ := blocks_of_amends amends sound soundAfter ledger
    rw [Deed.hooks, if_pos rfl]
    refine ⟨attached target, ?_, fun loaded => (amends.loaded_iff target).mpr (.inr loaded)⟩
    simp only [blocks.filter_isOwn, blocks.loaded]
  | refused _ quiet =>
    obtain ⟨signatures, taken⟩ := quiet rfl
    have same := taken.registry
    exact .nothing (by rw [same]) (by rw [same])
  | began _ _ =>
    exact .nothing (before.registry.field_modify _ _ ClassEntry.categories rfl target)
      (before.registry.field_modify _ _ (·.stage.inst.reached .loaded) rfl target)
  | finished marked =>
    exact .nothing (before.registry.field_modify _ _ ClassEntry.categories rfl target)
      (loaded_endInit (sound.loaded_of_marked marked) target)
  | apart other alike =>
    have nothing : deed.hooks id = [] := by
      cases deed with
      | changed named change hooks =>
        rw [Deed.hooks, if_neg fun same => other (congrArg some same)]
      | refused | began | finished | called | noted | rested => rfl
    rw [nothing]
    exact .nothing (by rw [alike.registry]) (by rw [alike.registry])

end Image

namespace Session

variable [NameHash] {first last : Session} {course : List Moment} {id : ImageId}

/-- The hooks that became due along a course for a class are those of the categories attached to
    it on the way, in the same order, and its own, if it was loaded on the way. -/
theorem Course.owes (run : first.Course true course last)
    (sound : ∀ id, (first.image id).Sound true) (inside : id < first.images.size)
    {registered : List CategoryDecl} (ledger : (first.image id).Ledger registered)
    {selector : Selector} (same : (first.image id).loadSelector = selector) (target : ClassId) :
    (last.image id).registry.categoryHooks selector target =
        (first.image id).registry.categoryHooks selector target ++
          (Course.hooks id course).filter (LoadHook.isAttached target) ∧
      (Course.hooks id course).filter (LoadHook.isOwn target) =
        Course.ownHooks id selector target course ∧
      ((last.image id).registry.reached target .loaded).toNat =
        (Course.loadings id target course).length +
          ((first.image id).registry.reached target .loaded).toNat := by
  induction run generalizing registered with
  | done session => simp [Course.hooks, Course.ownHooks, Course.loadings]
  | @next before after last deed rest does _ inductionHypothesis =>
    obtain ⟨regular, soundAfter⟩ := does.regular sound
    have lives := regular.lives id inside
    have owes := lives.owes (sound id).registry (soundAfter id).registry ledger target
    obtain ⟨attachedLater, ownLater, count⟩ := inductionHypothesis soundAfter
      (regular.count.symm ▸ inside) (lives.ledger (sound id).registry ledger)
      ((regular.reserved id).1.trans same)
    rw [same] at owes
    refine ⟨?_, ?_, ?_⟩
    · rw [attachedLater, owes.attached, Course.hooks_cons, List.filter_append, List.append_assoc]
    · rw [Course.hooks_cons, List.filter_append, owes.own, ownLater, Course.ownHooks_cons]
      simp only [Moment.loadsClass_eq_true]
    · have kept := owes.kept
      rw [count, Course.loadings_cons, List.length_append, Moment.loadsClass]
      cases early : (before.image id).registry.reached target .loaded with
      | false =>
        cases late : (after.image id).registry.reached target .loaded with
        | false => simp
        | true =>
          simp only [Bool.not_false, Bool.and_self, if_true, List.length_singleton,
            Bool.toNat_true, Bool.toNat_false]
          omega
      | true => simp [kept early]

omit [NameHash] in
/-- The hooks for a class are its own and those of its categories. -/
theorem perm_receiver (hooks : List LoadHook) (target : ClassId) :
    (hooks.filter fun hook => decide (hook.receiver = target)).Perm
      (hooks.filter (LoadHook.isOwn target) ++ hooks.filter (LoadHook.isAttached target)) := by
  have parts := List.filter_append_perm (fun hook : LoadHook => hook.category.isNone)
    (hooks.filter fun hook => decide (hook.receiver = target))
  rw [List.filter_filter, List.filter_filter] at parts
  refine parts.symm.trans (List.Perm.of_eq ?_)
  congr 1
  · refine List.filter_congr fun hook _ => ?_
    rw [LoadHook.isOwn, Bool.and_comm]
  · refine List.filter_congr fun hook _ => ?_
    rw [LoadHook.isAttached, Bool.and_comm, Option.not_isNone]

/-- The calls that a deed makes due on a class are those of the hooks that it makes due for it. -/
theorem filter_queued (moment : Moment) (id : ImageId) (target : ClassId) :
    moment.queued.filter (Call.loads id target) =
      ((moment.deed.hooks id).filter fun hook => decide (hook.receiver = target)).map
        (·.call id (moment.before.image id).loadSelector) := by
  obtain ⟨before, deed, after⟩ := moment
  cases deed with
  | changed other change hooks =>
    simp only [Moment.queued, Deed.hooks]
    by_cases same : other = id
    · subst same
      rw [if_pos rfl, List.filter_map]
      refine congrArg _ (List.filter_congr fun hook _ => ?_)
      simp [Call.loads, LoadHook.call, Call.isLoad]
    · rw [if_neg same, List.filter_nil, List.map_nil, List.filter_map, List.map_eq_nil_iff]
      refine List.filter_eq_nil_iff.mpr fun hook _ => ?_
      simp [Call.loads, LoadHook.call, same]
  | refused | began | finished | called | noted | rested => rfl

/-- The calls that became due on a class along a course. -/
theorem Course.queued (run : first.Course true course last)
    (sound : ∀ id, (first.image id).Sound true) {selector : Selector}
    (same : (first.image id).loadSelector = selector) (target : ClassId) :
    (course.flatMap Moment.queued).filter (Call.loads id target) =
      ((Course.hooks id course).filter fun hook => decide (hook.receiver = target)).map
        (·.call id selector) := by
  induction run with
  | done session => rfl
  | next does _ inductionHypothesis =>
    obtain ⟨regular, soundAfter⟩ := does.regular sound
    have later := inductionHypothesis soundAfter ((regular.reserved id).1.trans same)
    rw [List.flatMap_cons, List.filter_append, filter_queued, later, Course.hooks_cons,
      List.filter_append, List.map_append, same]

/-- The calls of hooks along a course from new images are some of those that became due, and
    all of them if nothing is due any more. -/
theorem Course.loads (run : first.Course true course last) {due : List Call}
    (serves : Course.Serves [] course due) (silent : first.calls = []) :
    (last.calls.filter Call.isLoad).Subperm (course.flatMap Moment.queued) ∧
      (due = [] → (last.calls.filter Call.isLoad).Perm (course.flatMap Moment.queued)) := by
  have made : last.calls.filter Call.isLoad = course.flatMap Moment.loads := by
    rw [run.calls, silent, List.nil_append, List.filter_flatMap]
    rfl
  rw [made]
  constructor
  · refine List.subperm_ext_iff.mpr fun call _ => ?_
    have balance := serves.balance call
    rw [List.count_nil] at balance
    omega
  · rintro rfl
    refine List.perm_iff_count.mpr fun call => ?_
    have balance := serves.balance call
    rw [List.count_nil] at balance
    omega

/-- Every call of a hook along a passage from new images is that of a hook on a class. -/
theorem Passage.exists_receiver {running due : List Call}
    (passage : first.Passage true [] course running due last) (silent : first.calls = [])
    {call : Call} (member : call ∈ last.calls) (isLoad : call.isLoad = true) :
    ∃ id target, call.loads id target = true := by
  have queued := (passage.run.loads passage.serves silent).1.subset
    (List.mem_filter.mpr ⟨member, isLoad⟩)
  obtain ⟨moment, -, among⟩ := List.mem_flatMap.mp queued
  obtain ⟨before, deed, after⟩ := moment
  cases deed with
  | changed id change hooks =>
    obtain ⟨hook, -, rfl⟩ := List.mem_map.mp among
    exact ⟨id, hook.receiver, by simp [Call.loads, LoadHook.call, Call.isLoad]⟩
  | refused | began | finished | called | noted | rested => cases among

/-- The calls that became due on a class along a course from new images: of its own hook, if it
    was loaded, and of the hooks of its categories. -/
theorem Course.queued_perm (run : first.Course true course last)
    (sound : ∀ id, (first.image id).Sound true) (blank : (first.image id).registry = .empty)
    (inside : id < first.images.size) (target : ClassId) :
    let selector := (last.image id).loadSelector
    ((course.flatMap Moment.queued).filter (Call.loads id target)).Perm
      ((Course.ownHooks id selector target course ++
        (last.image id).registry.categoryHooks selector target).map (·.call id selector)) := by
  have start : (first.image id).Ledger [] := by
    rw [Image.Ledger, blank]
    exact Registry.ledger_empty _
  obtain ⟨attached, own, -⟩ := run.owes sound inside start rfl target
  have fresh : (first.image id).registry.categoryHooks (first.image id).loadSelector target =
      [] := by
    rw [blank]
    rfl
  rw [fresh, List.nil_append] at attached
  have hooks := (perm_receiver (Course.hooks id course) target).map
    (·.call id (first.image id).loadSelector)
  rw [← run.queued sound rfl target, own, ← attached] at hooks
  simp only [(run.reserved sound id).1]
  exact hooks

/-- The calls of hooks on a class along a passage from new images. -/
theorem Passage.loads_on {running due : List Call}
    (passage : first.Passage true [] course running due last)
    (sound : ∀ id, (first.image id).Sound true) (silent : first.calls = [])
    (blank : (first.image id).registry = .empty) (inside : id < first.images.size)
    (target : ClassId) :
    let selector := (last.image id).loadSelector
    let hooks := Course.ownHooks id selector target course ++
      (last.image id).registry.categoryHooks selector target
    (last.calls.filter (Call.loads id target)).Subperm (hooks.map (·.call id selector)) ∧
      (due = [] →
        (last.calls.filter (Call.loads id target)).Perm (hooks.map (·.call id selector))) := by
  obtain ⟨some, all⟩ := passage.run.loads passage.serves silent
  have hooks := passage.run.queued_perm sound blank inside target
  have filtered : last.calls.filter (Call.loads id target) =
      (last.calls.filter Call.isLoad).filter (Call.loads id target) := by
    rw [List.filter_filter]
    refine List.filter_congr fun call _ => ?_
    rw [Call.loads, Bool.and_right_comm, Bool.and_self]
  rw [filtered]
  exact ⟨(some.filter _).trans hooks.subperm, fun nothing => ((all nothing).filter _).trans hooks⟩

/-- The blocks of hooks that a change of a course makes due. -/
theorem Course.blocks (run : first.Course true course last)
    (sound : ∀ id, (first.image id).Sound true) (inside : id < first.images.size)
    {registered : List CategoryDecl} (ledger : (first.image id).Ledger registered)
    {moment : Moment} (member : moment ∈ course) {change : Change} {hooks : List LoadHook}
    (changed : moment.deed = .changed id change hooks) :
    ∃ early order, (moment.before.image id).registry.Blocks (moment.after.image id).registry
      (moment.before.image id).loadSelector hooks early order := by
  induction run generalizing registered with
  | done session => cases member
  | next does _ inductionHypothesis =>
    obtain ⟨regular, soundAfter⟩ := does.regular sound
    have lives := regular.lives id inside
    rcases List.mem_cons.mp member with rfl | later
    · rw [changed] at lives
      exact lives.blocks (sound id).registry (soundAfter id).registry ledger
    · exact inductionHypothesis soundAfter (regular.count.symm ▸ inside)
        (lives.ledger (sound id).registry ledger) later

/-- A class is loaded once at most, and its categories are numbered in the order in which they
    were registered, so that they can be told apart. One change makes hooks due in blocks, and
    every hook that was due is called once: on a class, its own as it was declared when the class
    was loaded, and those of the categories attached to it. Where no hook is running, as at the
    end of a run, all of them have been called; elsewhere some may be due. No other hooks are
    called. -/
theorem Ran.loading {ended : Bool} (ran : first.Ran true ended last) :
    (∀ course, first.Course true course last → ∀ id, id < last.images.size →
      (∀ target,
        (Course.loadings id target course).length =
            ((last.image id).registry.reached target .loaded).toNat ∧
          (((last.image id).registry.entry target).categories.map Category.serial).Pairwise
            (· < ·)) ∧
      ∀ moment ∈ course, ∀ change hooks, moment.deed = .changed id change hooks →
        ∃ early order, (moment.before.image id).registry.Blocks (moment.after.image id).registry
          (moment.before.image id).loadSelector hooks early order) ∧
    (ended = true → last.running = []) ∧
    ∃ course, first.Course true course last ∧
      (∀ call ∈ last.calls, call.isLoad = true → ∃ id target, call.loads id target = true) ∧
      ∀ id, id < last.images.size → ∀ target,
        let selector := (last.image id).loadSelector
        let hooks := Course.ownHooks id selector target course ++
          (last.image id).registry.categoryHooks selector target
        (last.calls.filter (Call.loads id target)).Subperm (hooks.map (·.call id selector)) ∧
          (last.Hookless →
            (last.calls.filter (Call.loads id target)).Perm (hooks.map (·.call id selector))) := by
  have sound := ran.sound.images
  have blank := ran.blank
  have start : ∀ id, (first.image id).Ledger [] := fun id => by
    rw [Image.Ledger, blank.registry id]
    exact Registry.ledger_empty _
  obtain ⟨course, due, passage, nothing, complete⟩ := ran.history
  refine ⟨?_, complete, course, passage.run, fun call => passage.exists_receiver blank.calls, ?_⟩
  · intro course run id inside
    rw [run.count sound] at inside
    refine ⟨fun target => ⟨?_, ?_⟩, fun moment member change hooks changed =>
      run.blocks sound inside (start id) member changed⟩
    · have count := (run.owes sound inside (start id) rfl target).2.2
      have fresh : (first.image id).registry.reached target .loaded = false := by
        rw [blank.registry id]
        rfl
      rw [fresh, Bool.toNat_false, Nat.add_zero] at count
      exact count.symm
    · exact (run.ledger sound inside (start id)).sorted
        ((run.regular sound).2 id).registry.formed target
  · intro id inside target
    rw [passage.run.count sound] at inside
    obtain ⟨some, all⟩ := passage.loads_on sound blank.calls (blank.registry id) inside target
    exact ⟨some, fun hookless => all (nothing hookless)⟩

end Session

namespace Session

/-- A class, the category that waited for it and the subclass that waited for it have their hooks
    called in this order, each once. -/
theorem Ran.loading_of_late_superclass : ∃ first last : Session, first.Ran true true last ∧
    last.calls.map Call.imp = [1, 2, 3] ∧ ∃ course, first.Course true course last ∧
      (Course.loadings 0 1 course).length = 1 ∧
      (last.calls.filter (Call.loads 0 1)).Perm
        ((Course.ownHooks 0 (last.image 0).loadSelector 1 course ++
          (last.image 0).registry.categoryHooks (last.image 0).loadSelector 1).map
            (·.call 0 (last.image 0).loadSelector)) := by
  let requests : List Request :=
    [.registerClass ⟨"Dog", some "Animal", 0, [], [⟨Image.loadSignature, 3⟩]⟩,
     .registerCategory ⟨"Loud", "Animal", [], [⟨Image.loadSignature, 2⟩]⟩,
     .registerClass ⟨"Animal", none, 8, [], [⟨Image.loadSignature, 1⟩]⟩]
  have isPublic : (Act.inTurn true .idle 0 requests).Public true :=
    Act.inTurn_public (fun _ => .done ()) (fun _ _ _ => .done 0) 0
      (by simp [requests, Request.Issued])
  obtain ⟨first, last, ran, checked⟩ := isPublic.exists_ran .info [.standard]
    (fun last => decide (0 < last.images.size) && (last.image 0).registry.reached 1 .loaded &&
      last.calls.map Call.imp == [1, 2, 3])
    (by decide +kernel)
  simp only [Bool.and_eq_true, decide_eq_true_eq, beq_iff_eq] at checked
  obtain ⟨⟨inside, loaded⟩, imps⟩ := checked
  obtain ⟨counted, complete, course, run, -, called⟩ := ran.loading
  have hookless : last.Hookless := fun call member => by
    rw [complete rfl] at member
    cases member
  have once := ((counted course run 0 inside).1 1).1
  rw [loaded] at once
  exact ⟨first, last, ran, imps, course, run, once, (called 0 inside 1).2 hookless⟩

end Session

end LateBinding
