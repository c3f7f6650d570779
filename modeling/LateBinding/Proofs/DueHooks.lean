import LateBinding.Proofs.Ledger

/-!
# The hooks that an edit makes due

An edit makes the hook of a category due when it attaches the category, and the hook of a
class when it raises the class. What one edit collects is therefore in two parts. First come
the hooks of categories whose classes were loaded before. Then comes one block for each
class that the edit raised: the hook of the class, followed by those of the categories that
waited for it. Classes are raised once, and never before a class above them.

The hooks of categories that were collected for a class are those of the categories attached
to it, in the same order. This holds of every part of an edit, so it holds of a whole run.
-/

namespace LateBinding

/-- A hook that a class declares itself. -/
def LoadHook.isOwn (id : ClassId) (hook : LoadHook) : Bool :=
  decide (hook.receiver = id) && hook.category.isNone

/-- A hook of a category of a class. -/
def LoadHook.isAttached (id : ClassId) (hook : LoadHook) : Bool :=
  decide (hook.receiver = id) && hook.category.isSome

namespace Registry

/-- The hooks of the categories attached to a class, in their order. -/
def categoryHooks (registry : Registry) (selector : Selector) (id : ClassId) : List LoadHook :=
  (registry.entry id).categories.filterMap (·.hook selector id)

/-- The hooks of a loaded class: its own before those of its categories. -/
def block (registry : Registry) (selector : Selector) (id : ClassId) : List LoadHook :=
  (registry.ownHook selector id).toList ++ registry.categoryHooks selector id

variable {registry after : Registry} {selector : Selector} {id target : ClassId}

/-- The hook of a class depends on its name and its methods. -/
theorem ownHook_congr (name : (after.entry id).name = (registry.entry id).name)
    (methods : (after.entry id).methods = (registry.entry id).methods) :
    after.ownHook selector id = registry.ownHook selector id := by
  rw [ownHook, ownHook, name, methods]

/-- The hooks of its categories depend on its categories. -/
theorem categoryHooks_congr
    (categories : (after.entry id).categories = (registry.entry id).categories) :
    after.categoryHooks selector id = registry.categoryHooks selector id := by
  rw [categoryHooks, categoryHooks, categories]

end Registry

section

variable {selector : Selector} {id target : ClassId}

/-- A hook is for the class and the category whose methods it was found among. -/
theorem LoadHook.among_eq_some {category : Option Nat} {owner : String} {methods : List Method}
    {hook : LoadHook} (given : LoadHook.among selector id category owner methods = some hook) :
    hook.receiver = id ∧ hook.category = category := by
  obtain ⟨imp, -, rfl⟩ := Option.map_eq_some_iff.mp given
  exact ⟨rfl, rfl⟩

/-- The hooks of attached categories are those of categories, for one class. -/
theorem filter_isAttached_hooks (categories : List Category) :
    (categories.filterMap (·.hook selector id)).filter (LoadHook.isAttached target) =
      if id = target then categories.filterMap (·.hook selector id) else [] := by
  have made : ∀ hook ∈ categories.filterMap (·.hook selector id),
      hook.isAttached target = decide (id = target) := by
    intro hook member
    obtain ⟨category, -, given⟩ := List.mem_filterMap.mp member
    obtain ⟨receiver, attached⟩ := LoadHook.among_eq_some given
    simp [LoadHook.isAttached, receiver, attached]
  split
  · rename_i same
    refine List.filter_eq_self.mpr fun hook member => ?_
    rw [made hook member, decide_eq_true same]
  · rename_i other
    refine List.filter_eq_nil_iff.mpr fun hook member => ?_
    rw [made hook member, decide_eq_false other]
    exact Bool.false_ne_true

/-- The hook of a class itself is none of them. -/
theorem filter_isAttached_ownHook (registry : Registry) :
    (registry.ownHook selector id).toList.filter (LoadHook.isAttached target) = [] := by
  refine List.filter_eq_nil_iff.mpr fun hook member => ?_
  obtain ⟨-, own⟩ := LoadHook.among_eq_some (Option.mem_toList.mp member)
  simp [LoadHook.isAttached, own]

/-- The hooks of categories are not the class's own. -/
theorem filter_isOwn_hooks (categories : List Category) :
    (categories.filterMap (·.hook selector id)).filter (LoadHook.isOwn target) = [] := by
  refine List.filter_eq_nil_iff.mpr fun hook member => ?_
  obtain ⟨category, -, given⟩ := List.mem_filterMap.mp member
  obtain ⟨-, attached⟩ := LoadHook.among_eq_some given
  simp [LoadHook.isOwn, attached]

/-- The hook of a class is its own. -/
theorem filter_isOwn_ownHook (registry : Registry) :
    (registry.ownHook selector id).toList.filter (LoadHook.isOwn target) =
      if id = target then (registry.ownHook selector id).toList else [] := by
  cases given : registry.ownHook selector id with
  | none => simp
  | some hook =>
    obtain ⟨receiver, own⟩ := LoadHook.among_eq_some given
    by_cases same : id = target <;> simp [LoadHook.isOwn, receiver, own, same]

end

/-- An edit has collected these hooks, and attached the categories that they belong to. -/
structure Draft.Queues [NameHash] (before : Draft) (new : List LoadHook)
    (after : Draft) : Prop where
  selector : after.image.loadSelector = before.image.loadSelector
  hooks : after.hooks = before.hooks ++ new
  attached : ∀ target, after.image.registry.categoryHooks before.image.loadSelector target =
    before.image.registry.categoryHooks before.image.loadSelector target ++
      new.filter (LoadHook.isAttached target)

namespace Draft

open Registry

variable [NameHash] {before between after : Draft} {new more : List LoadHook}

/-- What is queued by two edits in a row is queued in that order. -/
theorem Queues.trans (first : before.Queues new between) (second : between.Queues more after) :
    before.Queues (new ++ more) after where
  selector := second.selector.trans first.selector
  hooks := by rw [second.hooks, first.hooks, List.append_assoc]
  attached target := by
    have further := second.attached target
    rw [first.selector, first.attached] at further
    rw [further, List.filter_append, List.append_assoc]

/-- An edit that attaches nothing and collects nothing. -/
theorem Queues.none (selector : after.image.loadSelector = before.image.loadSelector)
    (hooks : after.hooks = before.hooks)
    (categories : ∀ id, (after.image.registry.entry id).categories =
      (before.image.registry.entry id).categories) : before.Queues [] after where
  selector := selector
  hooks := hooks.trans (List.append_nil _).symm
  attached target := by
    rw [categoryHooks_congr (categories target), List.filter_nil, List.append_nil]

/-- Building tables queues nothing. -/
theorem Retabled.queues (retabled : before.Retabled after) : before.Queues [] after :=
  .none (by rw [retabled.image]) retabled.hooks
    (field_of_bare retabled.bare ClassEntry.categories fun _ => rfl)

/-- Whatever arrives makes at most the hook of a category due whose class is loaded. -/
theorem Takes.queues {arrival : Arrival} (takes : before.Takes arrival after) :
    ∃ new, before.Queues new after ∧ ∀ hook ∈ new, hook.category.isSome = true ∧
      before.image.registry.reached hook.receiver .loaded = true := by
  have quiet : before.Queues [] after → ∃ new, before.Queues new after ∧ ∀ hook ∈ new,
      hook.category.isSome = true ∧ before.image.registry.reached hook.receiver .loaded = true :=
    fun queues => ⟨[], queues, by simp⟩
  cases takes with
  | signature image hooks =>
    exact quiet (.none (by rw [image]) hooks fun _ => by rw [image])
  | @newClass decl methods _ _ _ image hooks =>
    refine quiet (.none (by rw [image]) hooks fun id => ?_)
    rw [image]
    exact before.image.registry.field_push ClassEntry.categories
      (.declared decl.name decl.superclass decl.size methods) rfl id
  | waiting _ _ image hooks =>
    refine quiet (.none (by rw [image]) hooks fun id => ?_)
    rw [image]
    rfl
  | newMethod image bare hooks =>
    refine quiet (.none (by rw [image]) hooks fun id => ?_)
    rw [field_of_bare bare ClassEntry.categories (fun _ => rfl) id]
    exact Registry.field_replaceMethod _ _ _ _ ClassEntry.categories (fun _ _ => rfl) id
  -- Only a category whose class is loaded makes a hook due, and it is the last of its class.
  | @attached decl category id after _ found loaded image bare hooks =>
    refine ⟨_, ⟨by rw [image], hooks, fun target => ?_⟩, fun hook member => ?_⟩
    · have inside := lt_size_of_reached loaded
      have categories := field_of_bare bare ClassEntry.categories (fun _ => rfl) target
      rw [entry_attach _ inside] at categories
      rw [categoryHooks, categories, List.filterMap_append, categoryHooks]
      refine congrArg (_ ++ ·) ?_
      have hooksOf := @filter_isAttached_hooks before.image.loadSelector id target [category]
      rw [List.filterMap_eq_flatMap_toList, List.flatMap_singleton] at hooksOf
      rw [hooksOf]
      split
      · rename_i same
        rw [same, List.filterMap_eq_flatMap_toList, List.flatMap_singleton]
      · rfl
    · obtain ⟨receiver, attached⟩ := LoadHook.among_eq_some (Option.mem_toList.mp member)
      rw [receiver, attached]
      exact ⟨rfl, loaded⟩

/-- Raising a class makes due what was due. -/
theorem Raised.queues {id : ClassId} (raised : before.Raised id after) :
    before.Queues (before.image.registry.due before.image.loadSelector id) after where
  selector := by rw [raised.image]
  hooks := raised.hooks
  attached target := by
    have categories := field_of_bare raised.bare ClassEntry.categories (fun _ => rfl) target
    rw [categories_raise raised.raisable] at categories
    rw [categoryHooks, categories, List.filterMap_append, due, List.filter_append,
      filter_isAttached_ownHook, List.nil_append, filter_isAttached_hooks, categoryHooks]
    refine congrArg (_ ++ ·) ?_
    split
    · rename_i same
      rw [same]
    · rfl

/-- What raising does not touch in a class reads as before, in all classes. -/
theorem Raised.field {id : ClassId} (raised : before.Raised id after) {β : Type}
    (field : ClassEntry → β)
    (blind : ∀ (entry : ClassEntry) stage superclass size categories subclasses table,
      field { entry with stage, superclass, size, categories, subclasses, table } = field entry)
    (target : ClassId) :
    field (after.image.registry.entry target) = field (before.image.registry.entry target) := by
  have tables : ∀ entry : ClassEntry, field entry.bare = field entry :=
    fun entry => blind entry _ _ _ _ _ _
  rw [field_of_bare raised.bare field tables]
  by_cases same : id = target
  · subst same
    rw [entry_raise_same raised.raisable.inside raised.raisable.proper]
    exact blind (before.image.registry.entry id) _ _ _ _ _ _
  · rw [entry_raise_of_ne same]
    split
    · exact blind (before.image.registry.entry target) _ _ _ _ _ _
    · rfl

/-- Raising loads one class. -/
theorem Raised.loaded_iff {id : ClassId} (raised : before.Raised id after) (target : ClassId) :
    after.image.registry.reached target .loaded = true ↔
      target = id ∨ before.image.registry.reached target .loaded = true := by
  rw [reached_of_bare raised.bare, Registry.reached, raised.raisable.stage]
  split
  · rename_i same
    exact ⟨fun _ => .inl same, fun _ => rfl⟩
  · rename_i other
    exact ⟨.inr, fun either => either.resolve_left other⟩

/-- A class that could be raised was not loaded. -/
theorem Raised.early {id : ClassId} (raised : before.Raised id after) :
    before.image.registry.reached id .loaded = false := by
  rw [Registry.reached, raised.raisable.registered]
  rfl

/-- The hooks that raising a class makes due are those of the class as it is then, if nothing
    was attached to it before. -/
theorem Raised.due_eq {id : ClassId} (raised : before.Raised id after)
    (nothing : (before.image.registry.entry id).categories = []) (selector : Selector) :
    before.image.registry.due selector id = after.image.registry.block selector id := by
  have categories := field_of_bare raised.bare ClassEntry.categories (fun _ => rfl) id
  rw [categories_raise raised.raisable, nothing, if_pos rfl, List.nil_append] at categories
  have name := raised.field ClassEntry.name (fun _ _ _ _ _ _ _ => rfl) id
  have methods := raised.field ClassEntry.methods (fun _ _ _ _ _ _ _ => rfl) id
  rw [due, block, categoryHooks, categories, ownHook_congr name methods]

/-- Raising a class leaves the hooks of the others as they are. -/
theorem Raised.block_eq {id target : ClassId} (raised : before.Raised id after)
    (other : id ≠ target) (selector : Selector) :
    after.image.registry.block selector target = before.image.registry.block selector target := by
  have categories := field_of_bare raised.bare ClassEntry.categories (fun _ => rfl) target
  rw [categories_raise raised.raisable, if_neg other, List.append_nil] at categories
  have name := raised.field ClassEntry.name (fun _ _ _ _ _ _ _ => rfl) target
  have methods := raised.field ClassEntry.methods (fun _ _ _ _ _ _ _ => rfl) target
  rw [block, block, categoryHooks_congr categories, ownHook_congr name methods]

/-- Raising classes loads those and no others. -/
theorem Raises.loaded_iff {order : List ClassId} (raises : before.Raises order after)
    (target : ClassId) :
    after.image.registry.reached target .loaded = true ↔
      target ∈ order ∨ before.image.registry.reached target .loaded = true := by
  induction raises with
  | none draft => simp
  | first raised _ inductionHypothesis =>
    rw [inductionHypothesis, raised.loaded_iff, List.mem_cons]
    tauto

/-- The classes that are raised were not loaded. -/
theorem Raises.early {order : List ClassId} (raises : before.Raises order after) :
    ∀ id ∈ order, before.image.registry.reached id .loaded = false := by
  induction raises with
  | none draft => simp
  | first raised _ inductionHypothesis =>
    intro target member
    rcases List.mem_cons.mp member with rfl | later
    · exact raised.early
    · have early := inductionHypothesis target later
      rw [Bool.eq_false_iff] at early ⊢
      exact fun loaded => early ((raised.loaded_iff target).mpr (.inr loaded))

/-- No class is raised twice. -/
theorem Raises.nodup {order : List ClassId} (raises : before.Raises order after) :
    order.Nodup := by
  induction raises with
  | none draft => exact .nil
  | @first draft next after id ids raised rest inductionHypothesis =>
    refine List.nodup_cons.mpr ⟨fun member => ?_, inductionHypothesis⟩
    have early := rest.early id member
    rw [raised.reached] at early
    cases early

/-- The block of a class that is not raised stays. -/
theorem Raises.block_eq {order : List ClassId} (raises : before.Raises order after)
    {target : ClassId} (other : target ∉ order) (selector : Selector) :
    after.image.registry.block selector target = before.image.registry.block selector target := by
  induction raises with
  | none draft => rfl
  | first raised _ inductionHypothesis =>
    rw [List.mem_cons, not_or] at other
    rw [inductionHypothesis other.2, raised.block_eq (Ne.symm other.1)]

/-- Raising classes collects one block for each, in the order in which they are raised. -/
theorem Raises.queues {order : List ClassId} (raises : before.Raises order after)
    (formed : before.image.registry.Formed) {registered : List CategoryDecl}
    (ledger : before.image.Ledger registered) :
    before.Queues (order.flatMap (after.image.registry.block before.image.loadSelector)) after := by
  induction raises with
  | none draft => exact .none rfl rfl fun _ => rfl
  | @first draft next after id ids raised rest inductionHypothesis =>
    have further := inductionHypothesis raised.sound.formed (raised.ledger formed ledger)
    have once : id ∉ ids := (List.nodup_cons.mp (Raises.first raised rest).nodup).1
    have queues := raised.queues
    rw [raised.due_eq (ledger.early id raised.early), ← rest.block_eq once] at queues
    rw [queues.selector] at further
    exact queues.trans further

/-- A class is raised after the classes above it. -/
theorem Raises.pairwise {order : List ClassId} (raises : before.Raises order after)
    (sound : before.image.registry.Sound) :
    order.Pairwise fun earlier later =>
      ∀ path, after.image.registry.Ascent earlier path → later ∉ path := by
  induction raises with
  | none draft => exact .nil
  | @first draft next after id ids raised rest inductionHypothesis =>
    refine List.pairwise_cons.mpr ⟨fun later member path ascent passed => ?_,
      inductionHypothesis raised.sound⟩
    -- When a class is raised its whole path is loaded, and what is raised later is not.
    have advanced := rest.advanced raised.sound
    have inside : id < next.image.registry.size := by
      rw [raised.advanced.size]
      exact raised.raisable.inside
    have nextAscent := (advanced.grows.ascent_iff raised.sound.formed advanced.sound.formed
      advanced.size inside).mp ascent
    have loaded := raised.sound.formed.loaded_of_mem nextAscent raised.reached later passed
    rw [rest.early later member] at loaded
    cases loaded

/-- What neither methods, categories nor tables have a part in, and a new class has in common
    with the empty entry, is the same after any arrival. -/
theorem Takes.field {arrival : Arrival} (takes : before.Takes arrival after) {β : Type}
    (field : ClassEntry → β)
    (blind : ∀ (entry : ClassEntry) methods categories table,
      field { entry with methods, categories, table } = field entry)
    (blank : ∀ name superName size methods,
      field (.declared name superName size methods) = field default) (id : ClassId) :
    field (after.image.registry.entry id) = field (before.image.registry.entry id) := by
  have tables : ∀ entry : ClassEntry, field entry.bare = field entry :=
    fun entry => blind entry _ _ _
  cases takes with
  | signature image _ => rw [image]
  | @newClass decl methods _ _ _ image _ =>
    rw [image]
    exact before.image.registry.field_push field
      (.declared decl.name decl.superclass decl.size methods) (blank _ _ _ _) id
  | waiting _ _ image _ =>
    rw [image]
    rfl
  | attached _ _ loaded _ bare _ =>
    rw [field_of_bare bare field tables, entry_attach _ (lt_size_of_reached loaded)]
    exact blind _ _ _ _
  | newMethod _ bare _ =>
    rw [field_of_bare bare field tables]
    exact before.image.registry.field_replaceMethod _ _ _ field
      (fun entry methods => blind entry methods _ _) id

/-- Arrivals leave alone what does not depend on methods, categories or tables. -/
theorem TakesIn.field {arrivals : List Arrival} (taken : before.TakesIn arrivals after) {β : Type}
    (field : ClassEntry → β)
    (blind : ∀ (entry : ClassEntry) methods categories table,
      field { entry with methods, categories, table } = field entry)
    (blank : ∀ name superName size methods,
      field (.declared name superName size methods) = field default) (id : ClassId) :
    field (after.image.registry.entry id) = field (before.image.registry.entry id) := by
  induction taken with
  | none draft reports => rfl
  | first takes _ _ _ inductionHypothesis =>
    rw [inductionHypothesis, takes.field field blind blank]

/-- In particular, classes have reached the same stages. -/
theorem TakesIn.reached {arrivals : List Arrival} (taken : before.TakesIn arrivals after)
    (id : ClassId) (goal : Stage) :
    after.image.registry.reached id goal = before.image.registry.reached id goal :=
  taken.field (·.stage.inst.reached goal) (fun _ _ _ _ => rfl) (fun _ _ _ _ => rfl) id

/-- Whatever arrives makes the hooks of categories due whose classes are loaded. -/
theorem TakesIn.queues {arrivals : List Arrival} (taken : before.TakesIn arrivals after) :
    ∃ new, before.Queues new after ∧ ∀ hook ∈ new, hook.category.isSome = true ∧
      before.image.registry.reached hook.receiver .loaded = true := by
  induction taken with
  | none draft reports => exact ⟨[], .none rfl rfl fun _ => rfl, by simp⟩
  | first takes sound grows others inductionHypothesis =>
    obtain ⟨new, queues, due⟩ := takes.queues
    obtain ⟨more, further, dueLater⟩ := inductionHypothesis
    refine ⟨new ++ more, queues.trans further, fun hook member => ?_⟩
    rcases List.mem_append.mp member with first | later
    · exact due hook first
    · obtain ⟨attached, loaded⟩ := dueLater hook later
      refine ⟨attached, ?_⟩
      rw [← (takes.takesIn sound grows).reached]
      exact loaded

variable {arrivals : List Arrival} {order : List ClassId}

/-- An edit loads the classes it raises and no others. -/
theorem Amends.loaded_iff (amends : before.Amends arrivals order after) (target : ClassId) :
    after.image.registry.reached target .loaded = true ↔
      target ∈ order ∨ before.image.registry.reached target .loaded = true := by
  obtain ⟨entered, settled, taken, raises, retabled, -⟩ := amends
  rw [reached_of_bare retabled.bare, raises.loaded_iff, taken.reached]

/-- Classes that a change loads were not loaded before. -/
theorem Amends.early (amends : before.Amends arrivals order after) :
    ∀ id ∈ order, before.image.registry.reached id .loaded = false := by
  obtain ⟨entered, settled, taken, raises, -, -⟩ := amends
  intro id member
  rw [← taken.reached]
  exact raises.early id member

/-- Each is loaded once. -/
theorem Amends.nodup (amends : before.Amends arrivals order after) : order.Nodup := by
  obtain ⟨entered, settled, -, raises, -, -⟩ := amends
  exact raises.nodup

/-- An edit raises a class after the classes above it. -/
theorem Amends.pairwise (amends : before.Amends arrivals order after)
    (sound : before.image.registry.Sound) :
    order.Pairwise fun earlier later =>
      ∀ path, after.image.registry.Ascent earlier path → later ∉ path := by
  obtain ⟨entered, settled, taken, raises, retabled, -⟩ := amends
  refine (raises.pairwise (taken.kept sound).1).imp fun apart path ascent => apart path ?_
  refine ascent.transfer (fun passed _ => ?_) fun name above found => ?_
  · exact (field_of_bare retabled.bare ClassEntry.superName (fun _ => rfl) passed).symm
  · rw [← find?_of_bare retabled.bare, found]

/-- The hooks that an edit makes due: those of categories of classes that were loaded, and
    then the blocks of the classes it raised. -/
theorem Amends.queues (amends : before.Amends arrivals order after)
    (sound : before.image.registry.Sound) {registered : List CategoryDecl}
    (ledger : before.image.Ledger registered) :
    ∃ early, before.Queues
        (early ++ order.flatMap (after.image.registry.block before.image.loadSelector)) after ∧
      ∀ hook ∈ early, hook.category.isSome = true ∧
        before.image.registry.reached hook.receiver .loaded = true := by
  obtain ⟨entered, settled, taken, raises, retabled, -⟩ := amends
  obtain ⟨early, queues, due⟩ := taken.queues
  have blocks := raises.queues (taken.kept sound).1.formed (taken.ledger sound.formed ledger)
  have same : after.image.registry.block = settled.image.registry.block := by
    funext selector id
    rw [block, block, categoryHooks_congr (field_of_bare retabled.bare _ (fun _ => rfl) id),
      ownHook_congr (field_of_bare retabled.bare _ (fun _ => rfl) id)
        (field_of_bare retabled.bare _ (fun _ => rfl) id)]
  refine ⟨early, ?_, due⟩
  have all := (queues.trans blocks).trans retabled.queues
  rwa [List.append_nil, queues.selector, ← same] at all

/-- Arrivals link nothing. -/
theorem TakesIn.loose (taken : before.TakesIn arrivals after)
    (loose : before.image.registry.Loose) : after.image.registry.Loose :=
  loose.of_links
    (taken.field ClassEntry.superclass (fun _ _ _ _ => rfl) fun _ _ _ _ => rfl) fun id still =>
      (taken.field (·.stage.inst) (fun _ _ _ _ => rfl) (fun _ _ _ _ => rfl) id).symm.trans still

/-- What is raised is linked and loaded in one. -/
theorem Raises.loose (raises : before.Raises order after)
    (loose : before.image.registry.Loose) : after.image.registry.Loose := by
  induction raises with
  | none draft => exact loose
  | first raised _ inductionHypothesis =>
    exact inductionHypothesis ((loose.raise raised.raisable).of_bare raised.bare)

/-- An edit that ends links only classes that it raises. -/
theorem Amends.loose (amends : before.Amends arrivals order after)
    (loose : before.image.registry.Loose) : after.image.registry.Loose := by
  obtain ⟨entered, settled, taken, raises, retabled, -⟩ := amends
  exact (raises.loose (taken.loose loose)).of_bare retabled.bare

/-- Raising classes prepares none and marks none. -/
theorem Raises.unprepared (raises : before.Raises order after) (id : ClassId) :
    after.image.registry.reached id .initialized =
        before.image.registry.reached id .initialized ∧
      (after.image.registry.entry id).initializing =
        (before.image.registry.entry id).initializing := by
  induction raises with
  | none draft => exact ⟨rfl, rfl⟩
  | @first draft next after raisedId ids raised _ inductionHypothesis =>
    rw [inductionHypothesis.1, inductionHypothesis.2,
      raised.field ClassEntry.initializing (fun _ _ _ _ _ _ _ => rfl), reached_of_bare raised.bare,
      Registry.reached, Registry.reached, raised.raisable.stage]
    split
    · rename_i same
      rw [same, raised.raisable.registered]
      exact ⟨rfl, rfl⟩
    · exact ⟨rfl, rfl⟩

/-- Raising classes leaves a loaded class linked as it is. -/
theorem Raises.superclass (raises : before.Raises order after) {id : ClassId}
    (loaded : before.image.registry.reached id .loaded = true) :
    (after.image.registry.entry id).superclass =
      (before.image.registry.entry id).superclass := by
  induction raises with
  | none draft => rfl
  | @first draft next after raisedId ids raised _ inductionHypothesis =>
    rw [inductionHypothesis (raised.grows.reached loaded),
      field_of_bare raised.bare ClassEntry.superclass (fun _ => rfl), raised.raisable.superclass,
      if_neg]
    rintro rfl
    rw [raised.early] at loaded
    cases loaded

/-- An edit prepares no class and marks none. -/
theorem Amends.unprepared (amends : before.Amends arrivals order after) (id : ClassId) :
    after.image.registry.reached id .initialized =
        before.image.registry.reached id .initialized ∧
      (after.image.registry.entry id).initializing =
        (before.image.registry.entry id).initializing := by
  obtain ⟨entered, settled, taken, raises, retabled, -⟩ := amends
  obtain ⟨initialized, initializing⟩ := raises.unprepared id
  rw [reached_of_bare retabled.bare,
    field_of_bare retabled.bare ClassEntry.initializing fun _ => rfl, initialized, initializing,
    taken.reached, taken.field ClassEntry.initializing (fun _ _ _ _ => rfl) fun _ _ _ _ => rfl]
  exact ⟨rfl, rfl⟩

/-- An edit leaves a loaded class linked as it is. -/
theorem Amends.superclass (amends : before.Amends arrivals order after) {id : ClassId}
    (loaded : before.image.registry.reached id .loaded = true) :
    (after.image.registry.entry id).superclass =
      (before.image.registry.entry id).superclass := by
  obtain ⟨entered, settled, taken, raises, retabled, -⟩ := amends
  rw [← taken.reached] at loaded
  rw [field_of_bare retabled.bare ClassEntry.superclass fun _ => rfl, raises.superclass loaded,
    taken.field ClassEntry.superclass (fun _ _ _ _ => rfl) fun _ _ _ _ => rfl]

end Draft

end LateBinding
