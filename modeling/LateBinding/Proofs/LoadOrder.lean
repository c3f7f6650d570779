import LateBinding.Proofs.LoadCalls
import LateBinding.Proofs.Overtaking

/-!
# The order of hooks

The hook of a superclass is to be called before that of a class linked to it, the hook of a
class before those of its categories, and the hooks of the categories of a class in the order
in which they were registered. Hooks become due in this order along every run. They are not
always called in it: what becomes due while a hook is running is called at once, before the
hooks that were due already. A class is loaded as soon as its hook is due, so a hook can
register a class below it, or a category of it, whose hook then overtakes.

Nothing else disturbs the order. So of two calls that have an order, the later one comes first
exactly if it became due while the other one was waiting.
-/

namespace LateBinding

/-- A call of the hook that a class declares itself, or of one that a category of it declares. -/
structure Call.Hooks (call : Call) (id : ImageId) (target : ClassId) (category : Option Nat) :
    Prop where
  receiver : call.receiver = some ⟨id, ⟨target, .inst⟩⟩
  purpose : call.purpose = .load category

/-- Of two hooks, the one that is to be called first. -/
inductive Session.Precedes [NameHash] (session : Session) (earlier later : Call) : Prop
  /-- A superclass comes before a class that is linked to it. -/
  | superclass {id : ImageId} {target above : ClassId} (inside : id < session.images.size)
      (link : ((session.image id).registry.entry target).superclass = some above)
      (first : earlier.Hooks id above none) (second : later.Hooks id target none)
  /-- A class comes before its categories. -/
  | category {id : ImageId} {target : ClassId} {serial : Nat} (inside : id < session.images.size)
      (first : earlier.Hooks id target none) (second : later.Hooks id target (some serial))
  /-- The categories of a class come in the order of their registration. -/
  | registration {id : ImageId} {target : ClassId} {serial next : Nat}
      (inside : id < session.images.size) (ordered : serial < next)
      (first : earlier.Hooks id target (some serial)) (second : later.Hooks id target (some next))

/-- Two elements of a list that is in order stand in the order that they have. -/
theorem pair_sublist {α : Type} {related : α → α → Prop} {list : List α}
    (ordered : list.Pairwise related) {first second : α} (firstIn : first ∈ list)
    (secondIn : second ∈ list) (different : first ≠ second) (unrelated : ¬ related second first) :
    [first, second].Sublist list := by
  induction ordered with
  | nil => cases firstIn
  | @cons head rest before _ inductionHypothesis =>
    rcases List.mem_cons.mp firstIn with rfl | firstLater
    · rcases List.mem_cons.mp secondIn with rfl | secondLater
      · exact absurd rfl different
      · exact (List.singleton_sublist.mpr secondLater).cons_cons first
    · rcases List.mem_cons.mp secondIn with rfl | secondLater
      · exact absurd (before first firstLater) unrelated
      · exact (inductionHypothesis firstLater secondLater).cons head

/-- Two elements of a concatenation stand in order if their parts do, and if they do wherever
    they are in one part. -/
theorem pair_sublist_flatMap {α β : Type} {parts : List α} {content : α → List β}
    {first second : β}
    (apart : parts.Pairwise fun part later => ¬ (second ∈ content part ∧ first ∈ content later))
    (together : ∀ part ∈ parts, first ∈ content part → second ∈ content part →
      [first, second].Sublist (content part))
    (firstIn : first ∈ parts.flatMap content) (secondIn : second ∈ parts.flatMap content) :
    [first, second].Sublist (parts.flatMap content) := by
  induction apart with
  | nil => cases firstIn
  | @cons head rest before _ inductionHypothesis =>
    rw [List.flatMap_cons] at firstIn secondIn ⊢
    have further := inductionHypothesis fun part member =>
      together part (List.mem_cons_of_mem _ member)
    rcases List.mem_append.mp firstIn with firstHere | firstLater
    · rcases List.mem_append.mp secondIn with secondHere | secondLater
      · exact (together head List.mem_cons_self firstHere secondHere).trans
          (List.sublist_append_left _ _)
      · exact (List.singleton_sublist.mpr firstHere).append (List.singleton_sublist.mpr secondLater)
    · rcases List.mem_append.mp secondIn with secondHere | secondLater
      · obtain ⟨part, member, among⟩ := List.mem_flatMap.mp firstLater
        exact absurd ⟨secondHere, among⟩ (before part member)
      · exact (further firstLater secondLater).trans (List.sublist_append_right _ _)

namespace Image

variable [NameHash] {strict : Bool} {id : ImageId} {before after : Image} {deed : Deed}
  {target : ClassId}

/-- A loaded class stays loaded, and linked as it is. -/
theorem Lives.linked (lives : before.Lives strict id deed after) (sound : before.registry.Sound)
    (loaded : before.registry.reached target .loaded = true) :
    after.registry.reached target .loaded = true ∧
      (after.registry.entry target).superclass = (before.registry.entry target).superclass := by
  cases lives with
  | changed amends _ =>
    exact ⟨(amends.loaded_iff target).mpr (.inr loaded), amends.superclass loaded⟩
  | refused taken _ =>
    exact ⟨(taken.reached target _).trans loaded,
      taken.field ClassEntry.superclass (fun _ _ _ _ => rfl) (fun _ _ _ _ => rfl) target⟩
  | began _ _ =>
    refine ⟨Eq.trans ?_ loaded, before.registry.field_modify _ _ ClassEntry.superclass rfl target⟩
    exact before.registry.field_modify _ _ (·.stage.inst.reached .loaded) rfl target
  | finished marked =>
    exact ⟨(loaded_endInit (sound.loaded_of_marked marked) target).trans loaded,
      before.registry.field_modify _ _ ClassEntry.superclass rfl target⟩
  | apart _ alike =>
    rw [alike.registry]
    exact ⟨loaded, rfl⟩

end Image

namespace Session

variable [NameHash] {first last : Session} {course : List Moment} {id : ImageId}
  {target above : ClassId}

/-- A class that is loaded stays loaded along a course, and linked as it is. -/
theorem Course.stays (run : first.Course true course last)
    (sound : ∀ id, (first.image id).Sound true) (inside : id < first.images.size)
    (loaded : (first.image id).registry.reached target .loaded = true) :
    (∀ moment ∈ course, (moment.before.image id).registry.reached target .loaded = true) ∧
      ((last.image id).registry.entry target).superclass =
        ((first.image id).registry.entry target).superclass := by
  obtain ⟨along, -, -, same⟩ := run.keeps sound (fun session => id < session.images.size ∧
      (session.image id).registry.reached target .loaded = true ∧
      ((session.image id).registry.entry target).superclass =
        ((first.image id).registry.entry target).superclass)
    (fun moment regular held => by
      obtain ⟨here, isLoaded, link⟩ := held
      obtain ⟨still, sameLink⟩ :=
        (regular.lives id here).linked (regular.sound id).registry isLoaded
      exact ⟨regular.count.symm ▸ here, still, sameLink.trans link⟩)
    ⟨inside, loaded, rfl⟩
  exact ⟨fun moment member => (along moment member).1.2.1, same⟩

/-- What is loaded before or after a deed of a course is loaded before all later deeds. -/
theorem Course.loaded_later (run : first.Course true course last)
    (sound : ∀ id, (first.image id).Sound true) (inside : id < first.images.size)
    (target : ClassId) :
    course.Pairwise fun moment later => ∀ session ∈ [moment.before, moment.after],
      (session.image id).registry.reached target .loaded = true →
        (later.before.image id).registry.reached target .loaded = true := by
  induction run with
  | done session => exact .nil
  | next does others inductionHypothesis =>
    obtain ⟨regular, soundAfter⟩ := does.regular sound
    have within := regular.count.symm ▸ inside
    refine List.pairwise_cons.mpr ⟨fun later member session isSession loaded => ?_,
      inductionHypothesis soundAfter within⟩
    rcases List.mem_pair.mp isSession with rfl | rfl
    · exact ((Course.next does others).stays sound inside loaded).1 later
        (List.mem_cons_of_mem _ member)
    · exact (others.stays soundAfter within loaded).1 later member

/-- A class that is loaded somewhere on a course is linked there as it is at the end. -/
theorem Course.linked (run : first.Course true course last)
    (sound : ∀ id, (first.image id).Sound true) (inside : id < first.images.size) :
    ∀ moment ∈ course, ∀ session ∈ [moment.before, moment.after],
      (session.image id).registry.reached target .loaded = true →
        ((session.image id).registry.entry target).superclass =
          ((last.image id).registry.entry target).superclass := by
  induction run with
  | done session => exact fun _ impossible => by cases impossible
  | @next before after last deed rest does others inductionHypothesis =>
    obtain ⟨regular, soundAfter⟩ := does.regular sound
    have within := regular.count.symm ▸ inside
    intro moment member session isSession loaded
    rcases List.mem_cons.mp member with rfl | later
    · rcases List.mem_pair.mp isSession with rfl | rfl
      · exact ((Course.next does others).stays sound inside loaded).2.symm
      · exact (others.stays soundAfter within loaded).2.symm
    · exact inductionHypothesis soundAfter within moment later session isSession loaded

end Session

namespace Registry

/-- No class is linked to itself. -/
theorem Formed.superclass_ne {registry : Registry} (formed : registry.Formed) {id above : ClassId}
    (link : (registry.entry id).superclass = some above) : id ≠ above := by
  rintro rfl
  obtain ⟨path, ascent⟩ := formed.rooted_of_superclass link
  obtain ⟨rest, rfl, further⟩ := formed.ascent_above link ascent
  obtain ⟨others, rfl⟩ := further.head
  exact (List.nodup_cons.mp ascent.nodup).1 List.mem_cons_self

variable {before after : Registry} {selector : Selector} {hooks early : List LoadHook}
  {order : List ClassId} {own hook : LoadHook} {id : ClassId}

/-- The hooks of a block are for its class. -/
theorem receiver_of_mem_block (member : hook ∈ after.block selector id) : hook.receiver = id := by
  rcases List.mem_append.mp member with isOwn | attached
  · exact (LoadHook.among_eq_some (Option.mem_toList.mp isOwn)).1
  · obtain ⟨category, -, given⟩ := List.mem_filterMap.mp attached
    exact (LoadHook.among_eq_some given).1

/-- The own hook of a class comes first in its block. -/
theorem pair_sublist_block (ownIn : own ∈ after.block selector id)
    (hookIn : hook ∈ after.block selector id) (isOwn : own.category = none)
    (different : own ≠ hook) : [own, hook].Sublist (after.block selector id) := by
  have given : after.ownHook selector id = some own := by
    rcases List.mem_append.mp ownIn with here | attached
    · exact Option.mem_toList.mp here
    · obtain ⟨category, -, given⟩ := List.mem_filterMap.mp attached
      rw [(LoadHook.among_eq_some given).2] at isOwn
      cases isOwn
  rw [block, given, Option.toList_some] at hookIn ⊢
  rcases List.mem_append.mp hookIn with same | attached
  · exact absurd (List.mem_singleton.mp same).symm different
  · exact (List.Sublist.refl [own]).append (List.singleton_sublist.mpr attached)

namespace Blocks

/-- A hook that a change makes due is that of a category of a class which was loaded before, or
    it is in the block of a class that the change loads. -/
theorem early_or_block (blocks : before.Blocks after selector hooks early order)
    (member : hook ∈ hooks) :
    hook ∈ early ∧ hook.category.isSome = true ∧ before.reached hook.receiver .loaded = true ∨
      hook.receiver ∈ order ∧ hook ∈ order.flatMap (after.block selector) := by
  rw [blocks.hooks] at member
  rcases List.mem_append.mp member with isEarly | later
  · exact .inl ⟨isEarly, blocks.early hook isEarly⟩
  · obtain ⟨id, raised, among⟩ := List.mem_flatMap.mp later
    exact .inr ⟨receiver_of_mem_block among ▸ raised, later⟩

/-- A class whose own hook becomes due is loaded then. -/
theorem mem_order (blocks : before.Blocks after selector hooks early order) (member : own ∈ hooks)
    (isOwn : own.category = none) :
    own.receiver ∈ order ∧ own ∈ order.flatMap (after.block selector) := by
  refine (blocks.early_or_block member).resolve_left fun isEarly => ?_
  rw [isOwn] at isEarly
  cases isEarly.2.1

/-- One change makes the own hook of a class due before all others on that class and on the
    classes below it. -/
theorem inOrder (blocks : before.Blocks after selector hooks early order) (ownIn : own ∈ hooks)
    (hookIn : hook ∈ hooks) (isOwn : own.category = none) (different : own ≠ hook)
    (upward : before.reached hook.receiver .loaded = true →
      before.reached own.receiver .loaded = true)
    (below : after.reached hook.receiver .loaded = true →
      ∃ path, after.Ascent hook.receiver path ∧ own.receiver ∈ path) :
    [own, hook].Sublist hooks := by
  obtain ⟨raised, ownLater⟩ := blocks.mem_order ownIn isOwn
  have unloaded := ((blocks.loaded _).mp raised).1
  obtain ⟨hookRaised, hookLater⟩ := (blocks.early_or_block hookIn).resolve_left fun isEarly => by
    rw [upward isEarly.2.2] at unloaded
    cases unloaded
  obtain ⟨path, ascent, passed⟩ := below ((blocks.loaded _).mp hookRaised).2
  have ordered : [own, hook].Sublist (order.flatMap (after.block selector)) := by
    refine pair_sublist_flatMap (blocks.ordered.imp ?_) ?_ ownLater hookLater
    · rintro earlier later apart ⟨hookHere, ownThere⟩
      rw [← receiver_of_mem_block hookHere, ← receiver_of_mem_block ownThere] at apart
      exact apart path ascent passed
    · exact fun id _ ownHere hookHere => pair_sublist_block ownHere hookHere isOwn different
  rw [blocks.hooks]
  exact ordered.trans (List.sublist_append_right _ _)

end Blocks

end Registry

/-- A call that a deed makes due is that of a hook which a change makes due. -/
theorem Moment.hook_of_queued [NameHash] {moment : Moment} {call : Call} {id : ImageId}
    {target : ClassId} {category : Option Nat} (queued : call ∈ moment.queued)
    (hooks : call.Hooks id target category) :
    ∃ change due hook, moment.deed = .changed id change due ∧ hook ∈ due ∧
      hook.receiver = target ∧ hook.category = category ∧
      call = hook.call id (moment.before.image id).loadSelector := by
  obtain ⟨before, deed, after⟩ := moment
  cases deed with
  | changed other change due =>
    obtain ⟨hook, member, rfl⟩ := List.mem_map.mp queued
    have receiver := hooks.receiver
    have purpose := hooks.purpose
    simp only [LoadHook.call, Option.some.injEq, ClassHandle.mk.injEq, SideRef.mk.injEq] at receiver
    simp only [LoadHook.call, Purpose.load.injEq] at purpose
    obtain ⟨rfl, rfl, -⟩ := receiver
    exact ⟨change, due, hook, rfl, member, rfl, purpose, rfl⟩
  | refused | began | finished | called | noted | rested => cases queued

namespace Session

variable [NameHash] {first last : Session} {course : List Moment} {id : ImageId}
  {target above : ClassId}
  {earlier later : Call} {category : Option Nat} {registered : List CategoryDecl}

/-- Wherever on a course a class is loaded, it has a path to a root, and the class that it is
    linked to at the end is loaded and on that path. -/
theorem Course.upward (run : first.Course true course last)
    (sound : ∀ id, (first.image id).Sound true) (inside : id < first.images.size)
    (linked : above = target ∨ ((last.image id).registry.entry target).superclass = some above) :
    ∀ moment ∈ course, ∀ session ∈ [moment.before, moment.after],
      (session.image id).registry.reached target .loaded = true →
        ∃ path, (session.image id).registry.Ascent target path ∧ above ∈ path ∧
          (session.image id).registry.reached above .loaded = true := by
  obtain ⟨deeds, -⟩ := run.invariant (fun session => ∀ id, (session.image id).Sound true)
    (fun does healthy => (does.regular healthy).2) sound
  intro moment member session isSession loaded
  have formed : (session.image id).registry.Formed := by
    obtain ⟨-, healthy, healthyAfter⟩ := deeds moment member
    rcases List.mem_pair.mp isSession with rfl | rfl
    · exact (healthy id).registry.formed
    · exact (healthyAfter id).registry.formed
  obtain ⟨-, -, path, ascent⟩ :=
    formed.linked target (Registry.stage_ne_registered_of_reached loaded)
  have passed : above ∈ path := by
    rcases linked with rfl | link
    · obtain ⟨rest, rfl⟩ := ascent.head
      exact List.mem_cons_self
    · rw [← run.linked sound inside moment member session isSession loaded] at link
      obtain ⟨rest, rfl, further⟩ := formed.ascent_above link ascent
      obtain ⟨others, rfl⟩ := further.head
      exact List.mem_cons_of_mem _ List.mem_cons_self
  exact ⟨path, ascent, passed, formed.loaded_of_mem ascent loaded above passed⟩

/-- The own hook of a class becomes due before all others on that class and on the classes that
    are linked to it. -/
theorem Course.own_first (run : first.Course true course last)
    (sound : ∀ id, (first.image id).Sound true) (inside : id < first.images.size)
    (ledger : (first.image id).Ledger registered) (own : earlier.Hooks id above none)
    (hooks : later.Hooks id target category) (different : earlier ≠ later)
    (linked : above = target ∨ ((last.image id).registry.entry target).superclass = some above)
    (ownIn : earlier ∈ course.flatMap Moment.queued)
    (laterIn : later ∈ course.flatMap Moment.queued) :
    [earlier, later].Sublist (course.flatMap Moment.queued) := by
  have upward := run.upward sound inside linked
  refine pair_sublist_flatMap ((run.loaded_later sound inside above).imp_of_mem ?_) ?_ ownIn laterIn
  · -- Where the lower class has a hook due the upper one is loaded, and its own hook is past.
    rintro moment next member nextMember stays ⟨laterHere, ownThere⟩
    obtain ⟨change, due, hook, changed, among, rfl, -, -⟩ := Moment.hook_of_queued laterHere hooks
    obtain ⟨early, order, blocks⟩ := run.blocks sound inside ledger member changed
    obtain ⟨session, isSession, loaded⟩ : ∃ session ∈ [moment.before, moment.after],
        (session.image id).registry.reached hook.receiver .loaded = true := by
      rcases blocks.early_or_block among with ⟨-, -, before⟩ | ⟨raised, -⟩
      · exact ⟨moment.before, by simp, before⟩
      · exact ⟨moment.after, by simp, ((blocks.loaded _).mp raised).2⟩
    obtain ⟨-, -, -, aboveLoaded⟩ := upward moment member session isSession loaded
    obtain ⟨nextChange, nextDue, ownHook, nextChanged, ownAmong, rfl, isOwn, -⟩ :=
      Moment.hook_of_queued ownThere own
    obtain ⟨nextEarly, nextOrder, nextBlocks⟩ :=
      run.blocks sound inside ledger nextMember nextChanged
    have unloaded := ((nextBlocks.loaded _).mp (nextBlocks.mem_order ownAmong isOwn).1).1
    rw [stays session isSession aboveLoaded] at unloaded
    cases unloaded
  · intro moment member ownHere laterHere
    obtain ⟨change, due, hook, changed, among, rfl, -, isCall⟩ :=
      Moment.hook_of_queued laterHere hooks
    obtain ⟨_, _, ownHook, sameChange, ownAmong, rfl, isOwn, isOwnCall⟩ :=
      Moment.hook_of_queued ownHere own
    cases changed.symm.trans sameChange
    obtain ⟨early, order, blocks⟩ := run.blocks sound inside ledger member changed
    have unlike : ownHook ≠ hook := by
      rintro rfl
      exact different (isOwnCall.trans isCall.symm)
    have ordered := blocks.inOrder ownAmong among isOwn unlike
      (fun loaded => by
        obtain ⟨-, -, -, aboveLoaded⟩ := upward moment member moment.before (by simp) loaded
        exact aboveLoaded)
      (fun loaded => by
        obtain ⟨path, ascent, passed, -⟩ := upward moment member moment.after (by simp) loaded
        exact ⟨path, ascent, passed⟩)
    rw [Moment.queued, changed, isCall, isOwnCall]
    exact ordered.map (·.call id (moment.before.image id).loadSelector)

/-- The hooks that a class declared itself are of no category. -/
theorem category_of_mem_ownHooks {selector : Selector} {hook : LoadHook}
    (member : hook ∈ Course.ownHooks id selector target course) : hook.category = none := by
  obtain ⟨moment, -, own⟩ := List.mem_flatMap.mp member
  exact (LoadHook.among_eq_some (Option.mem_toList.mp own)).2

/-- A class that was loaded once at most had its own hook made due once at most. -/
theorem length_ownHooks_le (selector : Selector)
    (once : (Course.loadings id target course).length ≤ 1) :
    (Course.ownHooks id selector target course).length ≤ 1 := by
  unfold Course.ownHooks
  cases loadings : Course.loadings id target course with
  | nil => exact Nat.zero_le 1
  | cons moment rest =>
    rw [loadings, List.length_cons] at once
    obtain rfl : rest = [] := List.eq_nil_of_length_eq_zero (by omega)
    rw [List.flatMap_singleton]
    exact Option.length_toList_le

/-- No hook becomes due twice. -/
theorem Course.due_once (run : first.Course true course last)
    (sound : ∀ id, (first.image id).Sound true) (inside : id < first.images.size)
    (blank : (first.image id).registry = .empty) {call : Call}
    (hooks : call.Hooks id target category) : (course.flatMap Moment.queued).count call ≤ 1 := by
  have isLoad : call.loads id target = true := by
    simp [Call.loads, Call.isLoad, hooks.receiver, hooks.purpose]
  have start : (first.image id).Ledger [] := by
    rw [Image.Ledger, blank]
    exact Registry.ledger_empty _
  have few : (Course.loadings id target course).length ≤ 1 := by
    have count := (run.owes sound inside start rfl target).2.2
    have := Bool.toNat_le ((last.image id).registry.reached target .loaded)
    omega
  have sorted := (run.ledger sound inside start).sorted ((run.regular sound).2 id).registry.formed
    target
  have due := run.queued_perm sound blank inside target
  rw [← List.count_filter isLoad, due.count_eq]
  -- The hooks of a class can be told apart by the categories that they belong to.
  refine List.nodup_iff_count_le_one.mp (List.pairwise_map.mpr (List.pairwise_append.mpr
    ⟨?_, (Registry.categoryHooks_ordered sorted _).imp ?_, fun own isOwn hook attached => ?_⟩)) call
  · have one := length_ownHooks_le (last.image id).loadSelector few
    cases given : Course.ownHooks id (last.image id).loadSelector target course with
    | nil => exact .nil
    | cons own rest =>
      rw [given, List.length_cons] at one
      obtain rfl : rest = [] := List.eq_nil_of_length_eq_zero (by omega)
      exact List.pairwise_singleton _ _
  · rintro hook next ⟨serial, other, isHook, isNext, ordered⟩ same
    have purpose := congrArg Call.purpose same
    simp only [LoadHook.call, isHook, isNext, Purpose.load.injEq, Option.some.injEq] at purpose
    omega
  · intro same
    obtain ⟨category, -, given⟩ := List.mem_filterMap.mp attached
    have purpose := congrArg Call.purpose same
    simp only [LoadHook.call, Purpose.load.injEq] at purpose
    rw [category_of_mem_ownHooks isOwn, (LoadHook.among_eq_some given).2] at purpose
    cases purpose

/-- The calls that became due along a course from new images for the categories of a class, in
    order. -/
theorem Course.queued_attached (run : first.Course true course last)
    (sound : ∀ id, (first.image id).Sound true) (inside : id < first.images.size)
    (blank : (first.image id).registry = .empty) (target : ClassId) :
    (course.flatMap Moment.queued).filter
        (fun call => decide (call.purpose ≠ .load none) && call.loads id target) =
      ((last.image id).registry.categoryHooks (first.image id).loadSelector target).map
        (·.call id (first.image id).loadSelector) := by
  have start : (first.image id).Ledger [] := by
    rw [Image.Ledger, blank]
    exact Registry.ledger_empty _
  have attached := (run.owes sound inside start rfl target).1
  have fresh : (first.image id).registry.categoryHooks (first.image id).loadSelector target =
      [] := by
    rw [blank]
    rfl
  have same : (first.image id).loadSelector = (first.image id).loadSelector := rfl
  rw [fresh, List.nil_append] at attached
  rw [← List.filter_filter, run.queued sound same target, List.filter_map, List.filter_filter,
    attached]
  refine congrArg _ (List.filter_congr fun hook _ => ?_)
  rw [LoadHook.isAttached, Bool.and_comm]
  refine congrArg _ ?_
  cases category : hook.category <;> simp [LoadHook.call, category]

/-- The hooks of the categories of a class become due in the order of registration. -/
theorem Course.registration_order (run : first.Course true course last)
    (sound : ∀ id, (first.image id).Sound true) (inside : id < first.images.size)
    (blank : (first.image id).registry = .empty) {serial next : Nat} (ordered : serial < next)
    (hooks : earlier.Hooks id target (some serial)) (others : later.Hooks id target (some next))
    (earlierIn : earlier ∈ course.flatMap Moment.queued)
    (laterIn : later ∈ course.flatMap Moment.queued) :
    [earlier, later].Sublist (course.flatMap Moment.queued) := by
  have start : (first.image id).Ledger [] := by
    rw [Image.Ledger, blank]
    exact Registry.ledger_empty _
  have sorted := (run.ledger sound inside start).sorted ((run.regular sound).2 id).registry.formed
    target
  have among : ∀ {call : Call} {number : Nat}, call.Hooks id target (some number) →
      call ∈ course.flatMap Moment.queued → call ∈ (course.flatMap Moment.queued).filter
        (fun call => decide (call.purpose ≠ .load none) && call.loads id target) := by
    intro call number isHook member
    refine List.mem_filter.mpr ⟨member, ?_⟩
    simp [Call.loads, Call.isLoad, isHook.receiver, isHook.purpose]
  have pairwise := Registry.categoryHooks_ordered sorted (first.image id).loadSelector
  have calls : ((course.flatMap Moment.queued).filter
      (fun call => decide (call.purpose ≠ .load none) && call.loads id target)).Pairwise
        fun call other => ∃ serial next, call.purpose = .load (some serial) ∧
          other.purpose = .load (some next) ∧ serial < next := by
    rw [run.queued_attached sound inside blank target]
    refine List.pairwise_map.mpr (pairwise.imp ?_)
    rintro hook other ⟨serial, next, isHook, isOther, less⟩
    exact ⟨serial, next, congrArg Purpose.load isHook, congrArg Purpose.load isOther, less⟩
  refine (pair_sublist calls (among hooks earlierIn) (among others laterIn) ?_ ?_).trans
    List.filter_sublist
  · rintro rfl
    have purpose := hooks.purpose
    rw [others.purpose, Purpose.load.injEq, Option.some.injEq] at purpose
    omega
  · rintro ⟨number, other, isLater, isEarlier, less⟩
    rw [others.purpose, Purpose.load.injEq, Option.some.injEq] at isLater
    rw [hooks.purpose, Purpose.load.injEq, Option.some.injEq] at isEarlier
    omega

/-- Hooks become due in the order in which they are to be called. -/
theorem Course.due_in_order (run : first.Course true course last)
    (sound : ∀ id, (first.image id).Sound true)
    (blank : ∀ id, (first.image id).registry = .empty) (precedes : last.Precedes earlier later)
    (earlierIn : earlier ∈ course.flatMap Moment.queued)
    (laterIn : later ∈ course.flatMap Moment.queued) :
    [earlier, later].Sublist (course.flatMap Moment.queued) ∧
      (course.flatMap Moment.queued).count earlier ≤ 1 ∧
      (course.flatMap Moment.queued).count later ≤ 1 := by
  have start : ∀ id, (first.image id).Ledger [] := fun id => by
    rw [Image.Ledger, blank id]
    exact Registry.ledger_empty _
  cases precedes with
  | @superclass id target above inside link hooks others =>
    rw [run.count sound] at inside
    refine ⟨run.own_first sound inside (start id) hooks others ?_ (.inr link) earlierIn laterIn,
      run.due_once sound inside (blank id) hooks, run.due_once sound inside (blank id) others⟩
    rintro rfl
    have same := hooks.receiver.symm.trans others.receiver
    simp only [Option.some.injEq, ClassHandle.mk.injEq, SideRef.mk.injEq] at same
    exact ((run.regular sound).2 id).registry.formed.superclass_ne link same.2.1.symm
  | @category id target serial inside hooks others =>
    rw [run.count sound] at inside
    refine ⟨run.own_first sound inside (start id) hooks others ?_ (.inl rfl) earlierIn laterIn,
      run.due_once sound inside (blank id) hooks, run.due_once sound inside (blank id) others⟩
    rintro rfl
    cases hooks.purpose.symm.trans others.purpose
  | @registration id target serial next inside ordered hooks others =>
    rw [run.count sound] at inside
    exact ⟨run.registration_order sound inside (blank id) ordered hooks others earlierIn laterIn,
      run.due_once sound inside (blank id) hooks, run.due_once sound inside (blank id) others⟩

/-- A run has a course that serves hooks as they become due, and by any such course, of two hooks
    that have an order and have both been called, the later one was called first exactly if it
    became due while the other one was waiting to be called. -/
theorem Ran.load_order {ended : Bool} (ran : first.Ran true ended last) :
    (∃ course due, first.Course true course last ∧ Course.Serves [] course due) ∧
    (ended = true → last.running = []) ∧
    ∀ course due, first.Course true course last → Course.Serves [] course due →
      ∀ earlier ∈ last.calls, ∀ later ∈ last.calls, last.Precedes earlier later →
        ([earlier, later].Sublist last.calls ↔ ¬ Course.Overtakes course later earlier) := by
  have sound := ran.sound.images
  have blank := ran.blank
  obtain ⟨history, waiting, passage, -, complete⟩ := ran.history
  refine ⟨⟨history, waiting, passage.run, passage.serves⟩, complete, ?_⟩
  intro course due run serves earlier earlierIn later laterIn precedes
  have made : last.calls.filter Call.isLoad = course.flatMap Moment.loads := by
    rw [run.calls, blank.calls, List.nil_append, List.filter_flatMap]
    rfl
  have areLoads : earlier.isLoad = true ∧ later.isLoad = true := by
    cases precedes with
    | superclass _ _ hooks others => simp [Call.isLoad, hooks.purpose, others.purpose]
    | category _ hooks others => simp [Call.isLoad, hooks.purpose, others.purpose]
    | registration _ _ hooks others => simp [Call.isLoad, hooks.purpose, others.purpose]
  have earlierMade := List.mem_filter.mpr ⟨earlierIn, areLoads.1⟩
  have laterMade := List.mem_filter.mpr ⟨laterIn, areLoads.2⟩
  have inLoads : [earlier, later].Sublist last.calls ↔
      [earlier, later].Sublist (last.calls.filter Call.isLoad) := by
    refine ⟨fun ordered => ?_, fun ordered => ordered.trans List.filter_sublist⟩
    have filtered := ordered.filter Call.isLoad
    simpa [areLoads] using filtered
  have queued := (run.loads serves blank.calls).1.subset
  obtain ⟨ordered, earlierOnce, laterOnce⟩ := run.due_in_order sound blank.registry precedes
    (queued earlierMade) (queued laterMade)
  rw [made] at earlierMade laterMade inLoads
  rw [inLoads]
  exact serves.inOrder_iff ordered earlierOnce laterOnce earlierMade laterMade

end Session

/-- Implementations of which one makes requests of the first image. -/
def Behaviour.requesting [NameHash] (imp : Imp) (requests : List Request) : Behaviour where
  body call := if call.imp = imp then Act.inTurn true .idle 0 requests else pure ()
  handler _ _ _ := pure 0

/-- An implementation that makes requests is public. -/
theorem Behaviour.requesting_public [NameHash] (imp : Imp) {requests : List Request}
    (issued : ∀ asked ∈ requests, asked.Issued) (call : Call) :
    ((requesting imp requests).body call).Public true := by
  simp only [requesting]
  split
  · exact Act.inTurn_public (fun _ => .done ()) (fun _ _ _ => .done 0) 0 issued
  · exact .done ()

namespace Session

/-- The hooks of three classes and two categories that are called where the first of them
    registers a class below a loaded one, and a category of it, while the hooks of that one are
    waiting. -/
def overtakenCalls : List Call :=
  [⟨1, some ⟨0, ⟨1, .inst⟩⟩, 0, .load none⟩, ⟨3, some ⟨0, ⟨2, .inst⟩⟩, 0, .load none⟩,
   ⟨5, some ⟨0, ⟨0, .inst⟩⟩, 0, .load (some 1)⟩, ⟨2, some ⟨0, ⟨0, .inst⟩⟩, 0, .load none⟩,
   ⟨4, some ⟨0, ⟨0, .inst⟩⟩, 0, .load (some 0)⟩]

/-- A run in which hooks overtake each other. -/
theorem exists_overtaken : ∃ first last : Session, first.Ran true true last ∧
    0 < last.images.size ∧ ((last.image 0).registry.entry 2).superclass = some 0 ∧
      last.calls = overtakenCalls := by
  let nested : List Request :=
    [.registerClass ⟨"Leaf", some "Derived", 0, [], [⟨Image.loadSignature, 3⟩]⟩,
     .registerCategory ⟨"Late", "Derived", [], [⟨Image.loadSignature, 5⟩]⟩]
  let requests : List Request :=
    [.registerClass ⟨"Derived", some "Base", 0, [], [⟨Image.loadSignature, 2⟩]⟩,
     .registerCategory ⟨"Early", "Derived", [], [⟨Image.loadSignature, 4⟩]⟩,
     .registerClass ⟨"Base", none, 0, [], [⟨Image.loadSignature, 1⟩]⟩]
  have isPublic : (Act.inTurn true (.requesting 1 nested) 0 requests).Public true :=
    Act.inTurn_public (Behaviour.requesting_public 1 (by simp [nested, Request.Issued]))
      (fun _ _ _ => .done 0) 0 (by simp [requests, Request.Issued])
  obtain ⟨first, last, ran, checked⟩ := isPublic.exists_ran .info [.standard]
    (fun last => decide (0 < last.images.size) &&
      decide (((last.image 0).registry.entry 2).superclass = some 0) &&
      last.calls == overtakenCalls)
    (by decide +kernel)
  simp only [Bool.and_eq_true, decide_eq_true_eq, beq_iff_eq] at checked
  exact ⟨first, last, ran, checked.1.1, checked.1.2, checked.2⟩

/-- A run in which the hook of a class comes before that of the class it is linked to, that of a
    category before that of its class, and that of a category before that of an earlier one. -/
theorem Ran.load_order_violated : ∃ first last : Session, first.Ran true true last ∧
    ∃ derived leaf early late : Call, derived ∈ last.calls ∧ leaf ∈ last.calls ∧
      early ∈ last.calls ∧ late ∈ last.calls ∧
      last.Precedes derived leaf ∧ ¬ [derived, leaf].Sublist last.calls ∧
      last.Precedes derived late ∧ ¬ [derived, late].Sublist last.calls ∧
      last.Precedes early late ∧ ¬ [early, late].Sublist last.calls := by
  obtain ⟨first, last, ran, inside, link, calls⟩ := exists_overtaken
  refine ⟨first, last, ran, ⟨2, some ⟨0, ⟨0, .inst⟩⟩, 0, .load none⟩,
    ⟨3, some ⟨0, ⟨2, .inst⟩⟩, 0, .load none⟩, ⟨4, some ⟨0, ⟨0, .inst⟩⟩, 0, .load (some 0)⟩,
    ⟨5, some ⟨0, ⟨0, .inst⟩⟩, 0, .load (some 1)⟩, ?_⟩
  have superclass : last.Precedes ⟨2, some ⟨0, ⟨0, .inst⟩⟩, 0, .load none⟩
      ⟨3, some ⟨0, ⟨2, .inst⟩⟩, 0, .load none⟩ := .superclass inside link ⟨rfl, rfl⟩ ⟨rfl, rfl⟩
  have category : last.Precedes ⟨2, some ⟨0, ⟨0, .inst⟩⟩, 0, .load none⟩
      ⟨5, some ⟨0, ⟨0, .inst⟩⟩, 0, .load (some 1)⟩ := .category inside ⟨rfl, rfl⟩ ⟨rfl, rfl⟩
  have registration : last.Precedes ⟨4, some ⟨0, ⟨0, .inst⟩⟩, 0, .load (some 0)⟩
      ⟨5, some ⟨0, ⟨0, .inst⟩⟩, 0, .load (some 1)⟩ :=
    .registration inside (by decide) ⟨rfl, rfl⟩ ⟨rfl, rfl⟩
  simp only [superclass, category, registration, calls, true_and]
  decide

/-- In that run the hook of the lower class has overtaken. -/
theorem Ran.load_order_of_nested_registration : ∃ first last : Session,
    first.Ran true true last ∧ last.calls = overtakenCalls ∧
      ∃ course, first.Course true course last ∧
        Course.Overtakes course ⟨3, some ⟨0, ⟨2, .inst⟩⟩, 0, .load none⟩
          ⟨2, some ⟨0, ⟨0, .inst⟩⟩, 0, .load none⟩ := by
  obtain ⟨first, last, ran, inside, link, calls⟩ := exists_overtaken
  obtain ⟨⟨course, due, run, serves⟩, -, law⟩ := ran.load_order
  refine ⟨first, last, ran, calls, course, run, ?_⟩
  have ordered := law course due run serves ⟨2, some ⟨0, ⟨0, .inst⟩⟩, 0, .load none⟩
    (by rw [calls]; decide)
    ⟨3, some ⟨0, ⟨2, .inst⟩⟩, 0, .load none⟩ (by rw [calls]; decide)
    (.superclass inside link ⟨rfl, rfl⟩ ⟨rfl, rfl⟩)
  rw [calls] at ordered
  exact not_not.mp ((not_congr ordered).mp (by decide))

end Session

end LateBinding
