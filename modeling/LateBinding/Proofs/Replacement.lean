import LateBinding.Proofs.Courses
import LateBinding.Proofs.Outlines
import LateBinding.Proofs.Overriding
import LateBinding.Proofs.Passive

/-!
# Replacing a method

Replacing a method is an edit that nothing can refuse once the class is one of the image. It
answers what the side declared last for the selector, changes the methods of the side and rebuilds
the tables that are there. Nothing else changes: no class moves on to another stage, no category
is attached, no implementation is called and no side gets its first table.

A table has what selectors mean on its side, before and afterwards, so it is enough to know who
sees the change. If the side had declared the selector itself, replacing the method once more with
what was answered brings back every method, every meaning and every entry of a table.
-/

namespace LateBinding

namespace Registry

variable {before after : Registry} {ref : SideRef} {selector : Selector} {imp : Imp}

/-- What the published table of a side has for a selector, if the side has a table. -/
def published (registry : Registry) (side : SideRef) (selector : Selector) :
    Option (Option Imp) :=
  (registry.table? side).map (·.get? selector)

/-- One registry is another one after a method was replaced: apart from that method, nothing has
    changed but what is in the tables that were there. -/
structure Replaced (before after : Registry) (ref : SideRef) (selector : Selector) (imp : Imp) :
    Prop where
  registry : after = { before with classes := after.classes }
  size : after.size = before.size
  classes : ∀ target, after.entry target = { before.entry target with
    methods := (after.entry target).methods
    table := (after.entry target).table }
  methods : ∀ side : SideRef, (after.entry side.id).methods.get side.side =
    if side = ref then Method.replaceLast selector imp ((before.entry ref.id).methods.get ref.side)
    else (before.entry side.id).methods.get side.side
  tables : ∀ side, (after.table? side).isSome = (before.table? side).isSome

/-- Registries that are the same without tables have the same classes but for tables. -/
theorem entry_of_bare (same : after.bare = before.bare) (target : ClassId) :
    after.entry target = { before.entry target with table := (after.entry target).table } := by
  have unchanged := field_of_bare same ClassEntry.bare (fun _ => rfl) target
  simp only [ClassEntry.bare, ClassEntry.mk.injEq] at unchanged
  cases shown : after.entry target
  simp_all

/-- A method has been replaced if it has been but for tables. -/
theorem Replaced.of_bare (inside : ref.id < before.size)
    (same : after.bare = (before.replaceMethod ref selector imp).bare)
    (tables : ∀ side, (after.table? side).isSome = (before.table? side).isSome) :
    before.Replaced after ref selector imp where
  registry := by
    have index := congrArg Registry.index same
    have parked := congrArg Registry.parked same
    have count := congrArg Registry.categoryCount same
    cases after
    simp_all [bare, replaceMethod, modify]
  size := by rw [size_of_bare same, replaceMethod, size_modify]
  classes target := by
    have changed : (before.replaceMethod ref selector imp).entry target =
        { before.entry target with
          methods := ((before.replaceMethod ref selector imp).entry target).methods } := by
      rw [replaceMethod, entry_modify]
      split
      · rfl
      · rfl
    rw [entry_of_bare same, changed]
  methods side := by
    rw [field_of_bare same ClassEntry.methods (fun _ => rfl), methods_replaceMethod inside]
  tables := tables

/-- Where tables agree with meanings, the entries of two registries with the same tables agree
    where the meanings do. -/
theorem published_eq (sound : before.Sound) (soundAfter : after.Sound) {side : SideRef}
    (tables : (after.table? side).isSome = (before.table? side).isSome) {asked : Selector}
    (change : Option Imp → Option Imp)
    (meaning : after.resolve side asked = change (before.resolve side asked)) :
    after.published side asked = (before.published side asked).map change := by
  unfold published
  cases found : before.table? side with
  | none =>
    rw [found, Option.isSome_none, Option.isSome_eq_false_iff, Option.isNone_iff_eq_none] at tables
    rw [tables]
    rfl
  | some table =>
    rw [found, Option.isSome_some] at tables
    obtain ⟨next, foundNext⟩ := Option.isSome_iff_exists.mp tables
    simp only [foundNext, Option.map_some, sound.tabled.exact side trivial table found,
      soundAfter.tabled.exact side trivial next foundNext, meaning]

end Registry

namespace Edit

open Registry

variable [NameHash] {strict : Bool} {draft : Draft}

/-- Replacing a method answers what the side declared last, and gives no side its first table. -/
theorem replaceMethod_refreshes (sound : draft.image.Sound strict) (ref : SideRef)
    {selector : Selector} (imp : Imp) (fits : selector < SparseMap.capacity) :
    Outcome (replaceMethod ref selector imp draft)
      (fun previous after =>
        previous = Method.lastFor ((draft.image.registry.entry ref.id).methods.get ref.side)
          selector ∧
        ∀ side, (after.image.registry.table? side).isSome = true →
          (draft.image.registry.table? side).isSome = true)
      (fun _ _ => False) := by
  simp only [replaceMethod, outcome_bind, outcome_registry, outcome_modifyRegistry, rebuild_eq_forM]
  let change : ClassEntry → ClassEntry := fun entry =>
    { entry with
      methods := entry.methods.set ref.side
        (Method.replaceLast selector imp (entry.methods.get ref.side)) }
  obtain ⟨formed, tabled, -⟩ := sound.registry.redeclare ref.id change rfl
    ((sound.registry.formed.issued ref.id).replaceMethod ref.side imp fits)
  let changed : Draft :=
    { draft with image := { draft.image with
        registry := draft.image.registry.modify ref.id change } }
  refine Outcome.certain (@forM_rebuildClass_refreshes _ changed formed tabled.closed _) ?_
  rintro _ after ⟨refreshed, -⟩
  simp only [outcome_get, outcome_report, outcome_pure, true_and]
  intro side present
  have kept := draft.image.registry.field_replaceMethod ref selector imp
    (·.table.get side.side) (fun _ _ => rfl) side.id
  rw [table?, ← kept]
  exact refreshed.only side present

/-- Replacing a method of a class comes to its end. -/
theorem replaceMethod_spec (sound : draft.image.Sound strict) {ref : SideRef}
    (inside : ref.id < draft.image.registry.size) {selector : Selector} (imp : Imp)
    (fits : selector < SparseMap.capacity) :
    ∃ after, replaceMethod ref selector imp draft =
        .ok (Method.lastFor ((draft.image.registry.entry ref.id).methods.get ref.side) selector)
          after ∧
      after.image = { draft.image with registry := after.image.registry } ∧
      after.image.Sound strict ∧
      after.image.registry.bare = (draft.image.registry.replaceMethod ref selector imp).bare ∧
      draft.image.registry.Replaced after.image.registry ref selector imp := by
  have outcome := (replaceMethod_outcome sound ref imp fits).and
    (replaceMethod_refreshes sound ref imp fits)
  simp only [and_self] at outcome
  obtain ⟨previous, after, ended, ⟨advanced, bare, -⟩, rfl, only⟩ := outcome.exists_ok
  refine ⟨after, ended, advanced.image, (advanced.kept sound).sound, bare,
    .of_bare inside bare fun side => ?_⟩
  rw [Bool.eq_iff_iff]
  exact ⟨only side, advanced.grows.tables side⟩

end Edit

/-- One session is another one after a method of an image was replaced: nothing has been called,
    and apart from reports and the registry of the image nothing has changed. -/
structure Session.Replaced [NameHash] (before after : Session) (id : ImageId) (ref : SideRef)
    (selector : Selector) (imp : Imp) : Prop where
  session : after = { before with images := after.images, events := after.events }
  events : ∃ reports, after.events = before.events ++ Session.admitted before.threshold reports
  calls : after.calls = before.calls
  count : after.images.size = before.images.size
  others : ∀ other, other ≠ id → after.image other = before.image other
  image : after.image id = { before.image id with registry := (after.image id).registry }
  registry : (before.image id).registry.Replaced (after.image id).registry ref selector imp

namespace Act

variable [NameHash] {strict : Bool} {session : Session} {id : ImageId} {handle : ClassHandle}
  {selector : Selector}

/-- What an image owns is there. -/
theorem lt_size_of_owns (owned : owns session id handle = true) :
    id < session.images.size ∧ handle.ref.id < (session.image id).registry.size := by
  rw [owns, Bool.and_eq_true, decide_eq_true_eq] at owned
  refine ⟨?_, owned.2⟩
  by_contra outside
  have missing : session.image id = default := by
    rw [Session.image, Array.getD_eq_getD_getElem?,
      Array.getElem?_eq_none (Nat.le_of_not_lt outside)]
    rfl
  have inside := owned.2
  rw [missing] at inside
  exact absurd inside (Nat.not_lt_zero _)

/-- Replacing a method of a class of the image answers what the class declared last. -/
theorem replaceMethod_spec (sound : (session.image id).Sound strict)
    (opened : session.isShut id = false)
    (owned : owns session id handle = true) (issued : selector < SparseMap.capacity) (imp : Imp) :
    ∃ after, replaceMethod id handle selector imp session =
        .ok (.ok (Method.lastFor (((session.image id).registry.entry handle.ref.id).methods.get
          handle.ref.side) selector)) after ∧
      session.Replaced after id handle.ref selector imp ∧
      owns after id handle = true ∧
      (after.image id).Sound strict ∧
      (after.image id).registry.bare =
        ((session.image id).registry.replaceMethod handle.ref selector imp).bare := by
  obtain ⟨existing, inside⟩ := lt_size_of_owns owned
  obtain ⟨draft, ended, image, draftSound, bare, replaced⟩ :=
    @Edit.replaceMethod_spec _ strict { image := session.image id } sound handle.ref inside selector
      imp issued
  have here : (session.adopt id draft).image id = draft.image :=
    (Session.image_of_adopted rfl existing).1
  refine ⟨session.adopt id draft, ?_, ⟨rfl, ⟨draft.reports, rfl⟩, Session.calls_adopt _ _ _, ?_,
    ?_, ?_, ?_⟩, ?_, ?_, ?_⟩
  · have edited : edit id (Edit.replaceMethod handle.ref selector imp) session =
        .ok (.ok (Method.lastFor (((session.image id).registry.entry handle.ref.id).methods.get
          handle.ref.side) selector, draft.hooks)) (session.adopt id draft) := by
      rw [edit, ended]
    rw [eq_ok_iff]
    simp only [replaceMethod, outcome_bind, outcome_awaitRegistry, opened, Bool.false_eq_true,
      if_false, outcome_get, owned, if_true, edited, outcome_ok, outcome_pure, and_self]
  · exact (Session.image_of_adopted rfl existing).2
  · intro other different
    have kept := session.image_setImage id other draft.image
    rw [if_neg fun both => different both.1.symm] at kept
    exact kept
  · rw [here]
    exact image
  · rw [here]
    exact replaced
  · rw [owns, here, replaced.size]
    exact owned
  · rw [here]
    exact draftSound
  · rw [here]
    exact bare

end Act

open Act in
/-- Replacing a method, wherever a program can come, also after panics that it has caught. It waits
    if another thread is inside the registry. Otherwise it answers the last implementation that the
    side declares itself for the selector, and changes nothing but that. Sides of classes that are
    set up and see the side for the selector find the new implementation then, by meaning and in
    their tables if they have them; other sides find what they did, and so do all sides for other
    selectors. What was answered can be put back, and then every method, every meaning and every
    entry of a table is as before. -/
theorem Session.Reachable.replacement [NameHash] {session : Session}
    (reachable : session.Reachable) {id : ImageId} {handle : ClassHandle}
    (owned : owns session id handle = true) {selector : Selector}
    (issued : selector < SparseMap.capacity) (imp : Imp) :
    let before := (session.image id).registry
    let previous :=
      Method.lastFor ((before.entry handle.ref.id).methods.get handle.ref.side) selector
    session.isShut id = true ∧
      replaceMethod id handle selector imp session = .error .deadlocked session ∨
    ∃ changed, replaceMethod id handle selector imp session = .ok (.ok previous) changed ∧
      session.Replaced changed id handle.ref selector imp ∧
      let after := (changed.image id).registry
      (∀ side, before.reached side.id .setUp = true → ∀ asked,
        (asked = selector ∧ before.Sees side handle.ref selector →
          after.resolve side asked = some imp ∧
          after.published side asked = (before.published side asked).map fun _ => some imp) ∧
        (¬(asked = selector ∧ before.Sees side handle.ref selector) →
          after.resolve side asked = before.resolve side asked ∧
          after.published side asked = before.published side asked)) ∧
      ∀ given, previous = some given →
        ∃ restored, replaceMethod id handle selector given changed =
            .ok (.ok (some imp)) restored ∧
          changed.Replaced restored id handle.ref selector given ∧
          (∀ target, (restored.image id).registry.entry target = { before.entry target with
            table := ((restored.image id).registry.entry target).table }) ∧
          ∀ side asked,
            (restored.image id).registry.resolve side asked = before.resolve side asked ∧
            (restored.image id).registry.published side asked = before.published side asked := by
  intro before previous
  cases opened : session.isShut id with
  | true => exact .inl ⟨rfl, replaceMethod_of_shut opened handle selector imp⟩
  | false =>
  right
  have sound := reachable.sound id
  have formed := sound.registry.formed
  obtain ⟨-, inside⟩ := lt_size_of_owns owned
  obtain ⟨changed, answers, replaced, changedOwned, changedSound, bare⟩ :=
    replaceMethod_spec sound opened owned issued imp
  have stillOpened : changed.isShut id = false := by
    rw [replaced.session]
    exact opened
  refine ⟨changed, answers, replaced, ?_, ?_⟩
  · intro side setUp asked
    have tables := replaced.registry.tables side
    obtain ⟨seen, unseen⟩ := formed.resolve_replaceMethod inside (formed.loaded_of_setUp setUp)
      selector imp asked
    rw [← Registry.resolve_of_bare bare] at seen unseen
    constructor
    · intro sees
      have meaning := seen sees
      exact ⟨meaning, Registry.published_eq sound.registry changedSound.registry tables
        (fun _ => some imp) meaning⟩
    · intro blind
      have meaning := unseen blind
      have published := Registry.published_eq sound.registry changedSound.registry tables
        (fun found => found) meaning
      exact ⟨meaning, published.trans Option.map_id'⟩
  -- What is put back is what was there, so the second change undoes the first but for tables.
  · intro given had
    obtain ⟨restored, again, restoredReplaced, -, restoredSound, restoredBare⟩ :=
      replaceMethod_spec changedSound stillOpened changedOwned issued given
    have undone : (restored.image id).registry.bare = before.bare := by
      rw [restoredBare, Registry.bare_replaceMethod, bare, ← Registry.bare_replaceMethod,
        Registry.replaceMethod_replaceMethod had]
    have answered := replaced.registry.methods handle.ref
    rw [if_pos rfl] at answered
    rw [answered, Method.lastFor_replaceLast, if_pos rfl] at again
    refine ⟨restored, again, restoredReplaced, fun target => ?_, fun side asked => ?_⟩
    · exact Registry.entry_of_bare undone target
    · have meaning := Registry.resolve_of_bare undone side asked
      have tables := (restoredReplaced.registry.tables side).trans (replaced.registry.tables side)
      have published :=
        Registry.published_eq sound.registry restoredSound.registry tables (fun found => found)
          meaning
      exact ⟨meaning, published.trans Option.map_id'⟩

open Act in
/-- A method of a root that is replaced and put back is seen by the metaclass of a class below it,
    through the metaclass of the root, and not by a class that overrides it. -/
theorem Session.Reachable.replacement_of_root : ∃ session changed restored : Session,
    session.Reachable ∧
    replaceMethod 0 ⟨0, 0, .inst⟩ 2 7 session = .ok (.ok (some 1)) changed ∧
    (changed.image 0).registry.resolve ⟨1, .metaclass⟩ 2 = some 7 ∧
    (changed.image 0).registry.published ⟨1, .metaclass⟩ 2 = some (some 7) ∧
    (changed.image 0).registry.resolve ⟨2, .inst⟩ 2 = some 3 ∧
    replaceMethod 0 ⟨0, 0, .inst⟩ 2 1 changed = .ok (.ok (some 7)) restored ∧
    (restored.image 0).registry.published ⟨1, .metaclass⟩ 2 = some (some 1) := by
  let requests : List Request :=
    [.registerClass ⟨"Animal", none, 8, [⟨⟨"speak", none⟩, 1⟩], []⟩,
     .registerClass ⟨"Dog", some "Animal", 0, [], []⟩,
     .registerClass ⟨"Pup", some "Dog", 0, [⟨⟨"speak", none⟩, 3⟩], []⟩,
     .dispatch ⟨0, "Dog", .metaclass⟩ (.intern 0 ⟨"speak", none⟩)]
  have isPublic : (inTurn true .idle 0 requests).Public true :=
    inTurn_public (fun _ => .done ()) (fun _ _ _ => .done 0) 0 (by simp [requests, Request.Issued])
  obtain ⟨session, observed, checked⟩ := isPublic.exists_observed .info [.standard]
    (fun session =>
      let registry := (session.image 0).registry
      !session.isShut 0 && owns session 0 ⟨0, 0, .inst⟩ &&
      registry.reached 1 .setUp && registry.reached 2 .setUp &&
      registry.superclasses ⟨1, .metaclass⟩ == [⟨1, .metaclass⟩, ⟨0, .metaclass⟩, ⟨0, .inst⟩] &&
      registry.superclasses ⟨2, .inst⟩ == [⟨2, .inst⟩, ⟨1, .inst⟩, ⟨0, .inst⟩] &&
      (registry.entry 1).declarations .metaclass == [] &&
      (registry.entry 0).declarations .metaclass == [] &&
      (registry.entry 2).declarations .inst == [⟨2, 3⟩] &&
      (registry.entry 0).categories.isEmpty &&
      (registry.entry 0).methods.inst == [⟨2, 1⟩] &&
      registry.resolve ⟨2, .inst⟩ 2 == some 3 &&
      registry.published ⟨1, .metaclass⟩ 2 == some (some 1))
    (by decide +kernel)
  simp only [Bool.and_eq_true, Bool.not_eq_true', beq_iff_eq, List.isEmpty_iff] at checked
  obtain ⟨⟨⟨⟨⟨⟨⟨⟨⟨⟨⟨⟨opened, owned⟩, dogSetUp⟩, pupSetUp⟩, dogWay⟩, pupWay⟩, dogSilent⟩,
    rootSilent⟩, overrides⟩, unattached⟩, declared⟩, resolved⟩, published⟩ := checked
  have reachable := observed.reachable
  obtain ⟨shut, -⟩ | ⟨changed, answers, -, meanings, undone⟩ :=
    Session.Reachable.replacement reachable owned (by decide : 2 < SparseMap.capacity) 7
  · rw [opened] at shut
    cases shut
  have sees : (session.image 0).registry.Sees ⟨1, .metaclass⟩ ⟨0, .inst⟩ 2 := by
    refine ⟨⟨[⟨1, .metaclass⟩, ⟨0, .metaclass⟩], [], dogWay, ?_⟩, ?_⟩
    · intro lower member
      simp only [List.mem_cons, List.not_mem_nil, or_false] at member
      rcases member with rfl | rfl
      · simp [Registry.Declares, dogSilent]
      · simp [Registry.Declares, rootSilent]
    · simp [Registry.Attaches, unattached]
  have blind : ¬(session.image 0).registry.Sees ⟨2, .inst⟩ ⟨0, .inst⟩ 2 := by
    rintro ⟨⟨below, above, way, silent⟩, -⟩
    rw [pupWay] at way
    cases below with
    | nil => simp at way
    | cons lower others =>
      rw [List.cons_append, List.cons.injEq] at way
      apply silent lower List.mem_cons_self
      rw [← way.1]
      exact ⟨⟨2, 3⟩, by simp [overrides], rfl⟩
  have previous : Method.lastFor (((session.image 0).registry.entry 0).methods.get .inst) 2 =
      some 1 := by
    rw [BySide.get, declared]
    rfl
  obtain ⟨seenMeaning, seenEntry⟩ := (meanings ⟨1, .metaclass⟩ dogSetUp 2).1 ⟨rfl, sees⟩
  obtain ⟨kept, -⟩ := (meanings ⟨2, .inst⟩ pupSetUp 2).2 fun both => blind both.2
  obtain ⟨restored, again, -, -, same⟩ := undone 1 previous
  refine ⟨session, changed, restored, reachable, ?_, seenMeaning, ?_, kept.trans resolved, again,
    ?_⟩
  · rw [answers, previous]
  · rw [seenEntry, published]
    rfl
  · rw [(same ⟨1, .metaclass⟩ 2).2, published]

end LateBinding
