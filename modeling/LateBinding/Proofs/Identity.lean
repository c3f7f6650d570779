import LateBinding.Proofs.Enrolment
import LateBinding.Proofs.Recovery

/-!
# Classes keep their identity

A class is known by its number and by its name, and what it declared about its superclass goes
with them. The numbers of an image are those below the number of its classes, the index leads
from each name to the number of the one class that has it, and every list of classes that was
ever seen is a first part of the list there is now. So a name that was once found leads to the
same class for good.

A second class under a name that is taken is refused before anything is done. A module registers
the first class it declares under each name that is not taken, and nothing of the others leaves
a trace.

All of this is kept by every single step, finished or not, and so it holds wherever a program can
come, also after panics.
-/

namespace LateBinding

/-- What of a dump tells which class it is: its two labels and the declared superclass name. -/
def ClassDump.identity (dump : ClassDump) : ClassLabel × ClassLabel × Option String :=
  (dump.inst.label, dump.metaclass.label, dump.inst.superName)

/-- The classes of a dump are the first ones of a later dump. -/
def ImageDump.Begins (earlier later : ImageDump) : Prop :=
  earlier.classes.map ClassDump.identity <+: later.classes.map ClassDump.identity

/-- A dump that begins one that begins a third begins the third. -/
theorem ImageDump.Begins.trans (first second third : ImageDump) (lower : first.Begins second)
    (upper : second.Begins third) : first.Begins third :=
  List.IsPrefix.trans lower upper

namespace Registry

variable {registry : Registry}

/-- Names that can be found are different. -/
theorem Indexed.names_nodup (indexed : registry.Indexed) : registry.names.Nodup := by
  refine List.nodup_range.map_on fun id inside other otherInside same => ?_
  rw [List.mem_range] at inside otherInside
  have found := (indexed _ id).mpr ⟨inside, rfl⟩
  rw [show (registry.entry id).name = (registry.entry other).name from same,
    (indexed _ other).mpr ⟨otherInside, rfl⟩] at found
  exact (Option.some.inj found).symm

/-- A class whose card is known can be found by its name. -/
theorem Indexed.find?_of_card (indexed : registry.Indexed) {id : ClassId}
    {card : String × Option String × Nat} (listed : registry.cards[id]? = some card) :
    registry.find? card.1 = some id ∧ (registry.entry id).card = card := by
  have inside : id < registry.size := by
    rw [← length_cards]
    exact (List.getElem?_eq_some_iff.mp listed).1
  rw [cards, registry.getElem?_column _ inside, Option.some.injEq] at listed
  subst listed
  exact ⟨(indexed _ id).mpr ⟨inside, rfl⟩, rfl⟩

end Registry

/-- What a dump shows of the identity of classes is on their cards. -/
theorem Image.identities_dump [NameHash] (image : Image) :
    image.dump.classes.map ClassDump.identity =
      image.registry.cards.map fun card =>
        (⟨card.1, .inst⟩, ⟨card.1, .metaclass⟩, card.2.1) := by
  rw [dump, Registry.cards, Registry.column, List.map_map, List.map_map]
  rfl

namespace ClassDecl

/-- The class that a module registers under a name is the first one it declares under it, if the
    name is not taken. -/
theorem find?_fresh (names : List String) (classes : List ClassDecl) {name : String}
    (free : name ∉ names) :
    (fresh names classes).find? (·.name == name) = classes.find? (·.name == name) := by
  induction classes generalizing names with
  | nil => rfl
  | cons decl rest inductionHypothesis =>
    rw [fresh]
    by_cases same : decl.name = name
    · rw [if_neg (by rwa [same])]
      simp only [List.find?_cons, same, beq_self_eq_true]
    · have other : (decl.name == name) = false := beq_eq_false_iff_ne.mpr same
      simp only [List.find?_cons, other]
      split
      · exact inductionHypothesis names free
      · simp only [List.find?_cons, other]
        refine inductionHypothesis _ fun member => ?_
        rcases List.mem_append.mp member with older | last
        · exact free older
        · exact same (List.mem_singleton.mp last).symm

end ClassDecl

/-- What a module adds to an image: the classes that were there stay, under every other name
    there is the first class that the module declares under it, and signatures are interned for
    what is registered only. -/
structure Image.Admits [NameHash] (before : Image) (decl : ModuleDecl) (after : Image) : Prop where
  kept : ∀ name id, before.registry.find? name = some id →
    after.registry.find? name = some id ∧
      (after.registry.entry id).card = (before.registry.entry id).card
  first : ∀ name given, before.registry.find? name = none →
    decl.classes.find? (·.name == name) = some given →
      ∃ id, after.registry.find? name = some id ∧ (after.registry.entry id).card = given.card
  others : ∀ name, before.registry.find? name = none →
    decl.classes.find? (·.name == name) = none → after.registry.find? name = none
  selectors : after.selectors =
    (decl.arrivals before.registry.names).foldl Arrival.enter before.selectors

namespace Draft

open Registry

variable [NameHash] {before after : Draft} {arrivals : List Arrival}

/-- Classes that were there are found as before. -/
theorem Enrols.kept (enrols : before.Enrols arrivals after)
    (indexed : before.image.registry.Indexed) {name : String} {id : ClassId}
    (found : before.image.registry.find? name = some id) :
    after.image.registry.find? name = some id ∧
      (after.image.registry.entry id).card = (before.image.registry.entry id).card := by
  obtain ⟨inside, named⟩ := (indexed name id).mp found
  obtain ⟨within, same⟩ := card_of_extends enrols.extends inside
  refine ⟨(enrols.indexed indexed name id).mpr ⟨within, ?_⟩, same⟩
  rw [← named]
  exact congrArg Prod.fst same

/-- A module that has been taken in has added its first class under each free name. -/
theorem Enrols.admits {decl : ModuleDecl}
    (enrols : before.Enrols (decl.arrivals before.image.registry.names) after)
    (indexed : before.image.registry.Indexed) : before.image.Admits decl after.image where
  kept _ _ found := enrols.kept indexed found
  first name given absent declared := by
    have free := (indexed.find?_eq_none_iff name).mp absent
    rw [← ClassDecl.find?_fresh _ _ free] at declared
    have member := List.mem_of_find?_eq_some declared
    have named : given.name = name := by
      simpa using List.find?_some declared
    have carded : given.card ∈ after.image.registry.cards := by
      rw [enrols.cards, decl.class?_arrivals]
      exact List.mem_append_right _ (List.mem_map_of_mem member)
    obtain ⟨id, listed⟩ := List.mem_iff_getElem?.mp carded
    have found := (enrols.indexed indexed).find?_of_card listed
    exact ⟨id, named ▸ found.1, found.2⟩
  others name absent undeclared := by
    have free := (indexed.find?_eq_none_iff name).mp absent
    rw [← ClassDecl.find?_fresh _ _ free] at undeclared
    rw [(enrols.indexed indexed).find?_eq_none_iff, enrols.names, decl.class?_arrivals,
      List.mem_append, not_or]
    refine ⟨free, fun member => ?_⟩
    obtain ⟨given, among, named⟩ := List.mem_map.mp member
    exact List.find?_eq_none.mp undeclared given among (beq_iff_eq.mpr named)
  selectors := enrols.selectors

end Draft

/-- Every change takes in something, or nothing, however it ends. -/
theorem Change.enrols [NameHash] (change : Change) {draft : Draft}
    (indexed : draft.image.registry.Indexed) :
    Outcome (change.edit draft) (fun _ after => ∃ arrivals, draft.Enrols arrivals after)
      (fun _ after => ∃ arrivals, draft.Enrols arrivals after) := by
  have some : ∀ {α : Type} {edits : Edit α} {arrivals : List Arrival} {fails : Failure → Prop},
      draft.Enrolled arrivals fails (edits draft) →
      Outcome ((do let _ ← edits : Edit Unit) draft)
        (fun _ after => ∃ arrivals, draft.Enrols arrivals after)
        (fun _ after => ∃ arrivals, draft.Enrols arrivals after) := by
    intro α edits arrivals fails enrolled
    rw [outcome_bind]
    apply Outcome.mono enrolled
    · exact fun _ after enrols => ⟨arrivals, enrols⟩
    · rintro failure after ⟨-, part, -, enrols⟩
      exact ⟨part, enrols⟩
  cases change with
  | registerClass decl =>
    by_cases fresh : decl.name ∈ draft.image.registry.names
    · have taken : draft.image.registry.find? decl.name ≠ none := fun absent =>
        (indexed.find?_eq_none_iff decl.name).mp absent fresh
      simp only [Change.edit, outcome_bind, Edit.registerClass_taken taken, outcome_error]
      exact ⟨[], .of_preserves rfl (.refl _)⟩
    · exact some (Edit.registerClass_enrols indexed fresh)
  | registerCategory decl => exact some (Edit.insertCategory_enrols decl draft)
  | loadModule decl => exact some (Edit.loadModule_enrols indexed decl)
  | intern signature => exact some (Edit.intern_enrols signature draft)
  | replaceMethod ref selector imp => exact some (Edit.replaceMethod_stays ref selector imp draft)
  | readyTables target =>
    apply Outcome.mono (Edit.readyTables_stays target draft)
    · exact fun _ after enrols => ⟨[], enrols⟩
    · rintro failure after ⟨-, part, -, enrols⟩
      exact ⟨part, enrols⟩

namespace Session

variable [NameHash] {session between before after : Session}

/-- Every class of every image can be found by its name. -/
def Indexed (session : Session) : Prop := ∀ id, (session.image id).registry.Indexed

/-- The images of a session are as many as before, and their classes are the first ones of those
    there are now. -/
structure Lasts (before after : Session) : Prop where
  count : after.images.size = before.images.size
  cards : ∀ id, (before.image id).registry.cards <+: (after.image id).registry.cards

/-- What a session has identified lasts in it. -/
theorem Lasts.refl (session : Session) : session.Lasts session := ⟨rfl, fun _ => List.prefix_rfl⟩

/-- What lasts twice in a row lasts. -/
theorem Lasts.trans (first : before.Lasts between) (second : between.Lasts after) :
    before.Lasts after :=
  ⟨second.count.trans first.count, fun id => (first.cards id).trans (second.cards id)⟩

/-- Classes that last are seen to last. -/
theorem Lasts.dumps (lasts : before.Lasts after) :
    Outlasts ImageDump.Begins before.dumps after.dumps := by
  intro id dump found
  have inside : id < before.images.size := by
    simpa [Session.dumps] using (List.getElem?_eq_some_iff.mp found).1
  rw [getElem?_dumps before id inside, Option.some.injEq] at found
  refine ⟨_, getElem?_dumps after id (lasts.count ▸ inside), ?_⟩
  rw [← found, ImageDump.Begins, Image.identities_dump, Image.identities_dump]
  exact (lasts.cards id).map _

/-- An image may be replaced by one with the same classes and more. -/
theorem Lasts.setImage (indexed : session.Indexed) (id : ImageId) {new : Image}
    (newIndexed : new.registry.Indexed)
    (cards : (session.image id).registry.cards <+: new.registry.cards) :
    (session.setImage id new).Indexed ∧ session.Lasts (session.setImage id new) := by
  refine ⟨fun other => ?_, by simp [Session.setImage], fun other => ?_⟩
  · rw [image_setImage]
    split
    · exact newIndexed
    · exact indexed other
  · rw [image_setImage]
    split
    · rename_i same
      exact same.1 ▸ cards
    · exact List.prefix_rfl

/-- Marking a class keeps all classes. -/
theorem Lasts.mark (indexed : session.Indexed) (id : ImageId) {change : Registry → Registry}
    (preserves : ∀ registry : Registry, registry.Preserves (change registry)) :
    (session.mark id change).Indexed ∧ session.Lasts (session.mark id change) := by
  have same := preserves (session.image id).registry
  refine Lasts.setImage indexed id (same.indexed (indexed id)) ?_
  rw [same.cards]

/-- No step loses a class or moves it, and all can still be found. -/
theorem Steps.lasts (step : before.Steps after) (indexed : before.Indexed) :
    after.Indexed ∧ before.Lasts after := by
  cases step with
  | @edited id change draft ended =>
    have enrols : ∃ arrivals, Draft.Enrols { image := before.image id } arrivals draft := by
      have both := ended.and (change.enrols (indexed id))
      cases result : change.edit { image := before.image id } with
      | ok value left =>
        rw [result] at both
        exact both.1 ▸ both.2
      | error failure left =>
        rw [result] at both
        exact both.1 ▸ both.2
    obtain ⟨arrivals, enrols⟩ := enrols
    obtain ⟨placed, lasts⟩ :=
      Lasts.setImage indexed id (enrols.indexed (indexed id)) enrols.extends
    exact ⟨placed, lasts.count, lasts.cards⟩
  | began id target thread => exact Lasts.mark indexed id fun _ => .modify target fun _ => rfl
  | finished id target => exact Lasts.mark indexed id fun _ => .modify target fun _ => rfl
  | noted => exact ⟨indexed, rfl, fun _ => List.prefix_rfl⟩
  | passed count images _ =>
    refine ⟨fun id => ?_, count, fun id => ?_⟩
    · rw [(images id).registry]
      exact indexed id
    · rw [(images id).registry]

/-- What a step notes is how the images are. -/
theorem Steps.notes (step : before.Steps after) :
    ∃ more : List Note, after.notes = before.notes ++ more ∧ more.length ≤ 1 ∧
      ∀ note ∈ more, note.dumps = before.dumps := by
  have silent : ∀ {notes : List Note}, notes = before.notes → ∃ more : List Note,
      notes = before.notes ++ more ∧ more.length ≤ 1 ∧
        ∀ note ∈ more, note.dumps = before.dumps := fun same =>
    ⟨[], same.trans (List.append_nil _).symm, by simp, fun _ impossible => by cases impossible⟩
  cases step with
  | edited ended => exact silent rfl
  | began => exact silent rfl
  | finished => exact silent rfl
  | noted remark => exact ⟨[⟨before.images, remark⟩], rfl, by simp, by simp [Note.dumps, dumps]⟩
  | passed _ _ notes => exact silent notes

/-- All classes can be found, and all that was noted of them is still so. -/
structure Identified (session : Session) : Prop where
  indexed : session.Indexed
  noted : ∀ note ∈ session.notes, Outlasts ImageDump.Begins note.dumps session.dumps
  ordered : session.notes.Pairwise fun earlier later =>
    Outlasts ImageDump.Begins earlier.dumps later.dumps

/-- A step identifies no class a second time. -/
theorem Identified.step (identified : before.Identified) (step : before.Steps after) :
    after.Identified := by
  obtain ⟨indexed, lasts⟩ := step.lasts identified.indexed
  obtain ⟨more, notes, alone, now⟩ := step.notes
  refine ⟨indexed, fun note member => ?_, ?_⟩
  · rw [notes] at member
    rcases List.mem_append.mp member with older | newer
    · exact (identified.noted note older).trans ImageDump.Begins.trans lasts.dumps
    · rw [now note newer]
      exact lasts.dumps
  · rw [notes, List.pairwise_append]
    refine ⟨identified.ordered, ?_, fun earlier older later newer => ?_⟩
    · cases more with
      | nil => exact .nil
      | cons note rest =>
        obtain rfl : rest = [] := List.eq_nil_of_length_eq_zero (by simpa using alone)
        exact List.pairwise_singleton _ _
    · rw [now later newer]
      exact identified.noted earlier older

/-- New images have no classes, and nothing has been noted. -/
theorem start_identified {threshold : Log.Level} {configs : List Config} {first : Session}
    (started : start threshold configs = .ok first) : first.Identified := by
  obtain ⟨-, silent⟩ := start_induction (@fresh_idle _ false)
    (fun added fresh => fresh.addImage added) started
  refine ⟨fun id => ?_, fun note member => ?_, ?_⟩
  · rw [start_registry started]
    exact Registry.indexed_empty
  · rw [silent] at member
    cases member
  · rw [silent]
    exact .nil

/-- Wherever a program can come, classes can be found and are those that were seen before. -/
theorem Visited.identified (visited : session.Visited) : session.Identified :=
  visited.invariant Identified (fun _ _ _ => start_identified) fun _ _ step identified =>
    identified.step step

/-- However far steps lead, no class is lost or moved, and all can still be found. -/
theorem Leads.lasts (leads : session.Leads after) (indexed : session.Indexed) :
    after.Indexed ∧ session.Lasts after := by
  refine leads.invariant (fun later => later.Indexed ∧ session.Lasts later) ?_ ⟨indexed, .refl _⟩
  rintro before later step ⟨indexedBefore, lasts⟩
  obtain ⟨indexedLater, further⟩ := step.lasts indexedBefore
  exact ⟨indexedLater, lasts.trans further⟩

/-- A class that was found once is found under its name for good. -/
theorem Lasts.kept (lasts : session.Lasts after) (indexed : session.Indexed)
    (indexedAfter : after.Indexed) {id : ImageId} {name : String} {target : ClassId}
    (found : (session.image id).registry.find? name = some target) :
    (after.image id).registry.find? name = some target ∧
      ((after.image id).registry.entry target).card =
        ((session.image id).registry.entry target).card := by
  obtain ⟨inside, named⟩ := (indexed id name target).mp found
  obtain ⟨within, same⟩ := Registry.card_of_extends (lasts.cards id) inside
  refine ⟨(indexedAfter id name target).mpr ⟨within, ?_⟩, same⟩
  rw [← named]
  exact congrArg Prod.fst same

/-- A class that was noted can be found under its name and number. -/
theorem Identified.found (identified : session.Identified) {note : Note}
    (noted : note ∈ session.notes) {id : ImageId} {dump : ImageDump}
    {target : ClassId} {seen : ClassDump} (shown : note.dumps[id]? = some dump)
    (listed : dump.classes[target]? = some seen) :
    (session.image id).registry.find? seen.inst.label.name = some target := by
  obtain ⟨now, found, begins⟩ := identified.noted note noted id dump shown
  have inside : id < session.images.size := by
    simpa [Session.dumps] using (List.getElem?_eq_some_iff.mp found).1
  rw [getElem?_dumps session id inside, Option.some.injEq] at found
  have early : (dump.classes.map ClassDump.identity)[target]? = some seen.identity := by
    rw [List.getElem?_map, listed, Option.map_some]
  have late := List.prefix_iff_getElem?.mp begins target (List.getElem?_eq_some_iff.mp early).1
  rw [← found, Image.identities_dump, List.getElem?_map, Option.map_eq_some_iff] at late
  obtain ⟨card, carded, same⟩ := late
  rw [(List.getElem?_eq_some_iff.mp early).2] at same
  have name : card.1 = seen.inst.label.name :=
    congrArg (fun identity : ClassLabel × ClassLabel × Option String => identity.1.name) same
  rw [← name]
  exact ((identified.indexed id).find?_of_card carded).1

end Session

namespace Request

open Act Session

variable [NameHash] {behaviour : Behaviour} {session : Session} {id : ImageId}

/-- What an edit with its hooks comes to, wherever the hooks lead. -/
theorem editAndRun_ends {α : Type} (leads : behaviour.Leads) (edits : Edit α) :
    Outcome (editAndRun behaviour id edits session)
      (fun result after => ∀ value, result = .ok value → ∃ draft,
        edits { image := session.image id } = .ok value draft ∧
          (session.adopt id draft).Leads after)
      (fun _ _ => True) := by
  have whole : Outcome (edits { image := session.image id })
      (fun value draft => edits { image := session.image id } = .ok value draft)
      (fun _ _ => True) := by
    cases edits { image := session.image id } with
    | ok value draft => rfl
    | error failure draft => trivial
  simp only [editAndRun, outcome_bind]
  apply (edit_outcome whole).mono
  · rintro result _ ⟨draft, rfl, given⟩
    cases result with
    | error error => exact fun _ impossible => by cases impossible
    | ok pair =>
      simp only [outcome_bind, outcome_pure]
      apply (runHooks_leads leads id pair.2 _).mono
      · intro _ after further value same
        cases same
        exact ⟨draft, given, further⟩
      · exact fun _ _ _ => trivial
  · exact fun _ _ _ => trivial

/-- An edit that is answered with an error was refused for it. -/
theorem editAndRun_refused {α : Type} (edits : Edit α) :
    Outcome (editAndRun behaviour id edits session)
      (fun result _ => ∀ error, result = .error error → ∃ draft,
        edits { image := session.image id } = .error (.refused error) draft)
      (fun _ _ => True) := by
  have whole : Outcome (edits { image := session.image id }) (fun _ _ => True)
      (fun failure draft => edits { image := session.image id } = .error failure draft) := by
    cases edits { image := session.image id } with
    | ok value draft => trivial
    | error failure draft => rfl
  simp only [editAndRun, outcome_bind]
  apply (edit_outcome whole).mono
  · rintro result _ ⟨draft, rfl, given⟩
    cases result with
    | error error =>
      intro other same
      cases same
      exact ⟨draft, given⟩
    | ok pair =>
      simp only [outcome_bind, outcome_pure]
      exact (outcome_any _).imp fun _ _ _ _ impossible => by cases impossible
  · exact fun _ _ _ => trivial

/-- A class whose name is taken is refused when the request has its turn, and the session stays as
    it is but for a report. -/
theorem registerClass_of_taken {decl : ClassDecl}
    (taken : (session.image id).registry.find? decl.name ≠ none) :
    (registerClass decl).run behaviour id session =
      if session.isShut id then .error .deadlocked session
      else .ok (.refused (.classAlreadyExists decl.name)) (session.log [decl.ignored]) := by
  have refused := @Edit.registerClass_taken _ { image := session.image id } decl taken
  have unchanged : session.setImage id (session.image id) = session := by
    unfold setImage Session.image
    congr 1
    apply Array.ext
    · simp
    · intro place inside within
      rw [Array.getElem_setIfInBounds]
      split
      · rename_i same
        subst same
        rw [Array.getD_eq_getD_getElem?, Array.getElem?_eq_getElem within, Option.getD_some]
      · rfl
  cases shut : session.isShut id with
  | true =>
    simp only [if_true, run, bind, EStateM.bind, inRegistry_of_shut _ shut]
  | false =>
    rw [if_neg Bool.false_ne_true, eq_ok_iff]
    simp only [run, outcome_bind, outcome_inRegistry, shut, Bool.false_eq_true, if_false,
      editAndRun]
    have inside : ({ session with entered := (id, session.thread) :: session.entered } :
        Session).image id = session.image id := rfl
    unfold edit
    rw [inside, refused]
    simp only [outcome_ok, outcome_pure, outcome_get, answering, true_and]
    change (session.setImage id (session.image id)).log [decl.ignored] = _
    rw [unchanged]

/-- A class whose name is not taken is not refused for its name. -/
theorem taken_of_registerClass (indexed : session.Indexed) {decl : ClassDecl} {name : String}
    {after : Session} (ran : (registerClass decl).run behaviour id session =
      .ok (.refused (.classAlreadyExists name)) after) :
    name = decl.name ∧ decl.name ∈ (session.image id).registry.names := by
  by_cases taken : decl.name ∈ (session.image id).registry.names
  · have found : (session.image id).registry.find? decl.name ≠ none := fun absent =>
      ((indexed id).find?_eq_none_iff decl.name).mp absent taken
    rw [registerClass_of_taken found] at ran
    split at ran
    · cases ran
    · cases ran
      exact ⟨rfl, taken⟩
  · have enrolled :=
      @Edit.registerClass_enrols _ { image := session.image id } (indexed id) decl taken
    have outcome : Outcome ((registerClass decl).run behaviour id session)
        (fun answer _ => answer ≠ .refused (.classAlreadyExists name)) (fun _ _ => True) := by
      simp only [run, outcome_bind, outcome_inRegistry]
      split
      · trivial
      simp only [outcome_get, outcome_pure]
      let inside : Session := { session with entered := (id, session.thread) :: session.entered }
      refine (@editAndRun_refused _ _ inside id _ (Edit.registerClass decl)).mono ?_
        fun halt between _ => passing_any _ halt between
      intro result after refused
      cases result with
      | ok target => exact fun impossible => by cases impossible
      | error error =>
        obtain ⟨draft, ended⟩ := refused error rfl
        change Edit.registerClass decl { image := session.image id } = _ at ended
        rw [ended] at enrolled
        rintro ⟨rfl⟩
        obtain ⟨(impossible | impossible) | ⟨key, impossible⟩ | impossible, -⟩ := enrolled
        all_goals cases impossible
    rw [ran] at outcome
    exact absurd rfl outcome

/-- What a module registers is there when its hooks have run. -/
theorem loadModule_admits (leads : behaviour.Leads) (indexed : session.Indexed)
    (inside : id < session.images.size) (decl : ModuleDecl) :
    Outcome ((loadModule decl).run behaviour id session)
      (fun answer after => (∃ error, answer = .refused error) ∨
        (∀ name target, (session.image id).registry.find? name = some target →
          (after.image id).registry.find? name = some target ∧
            ((after.image id).registry.entry target).card =
              ((session.image id).registry.entry target).card) ∧
        ∀ name given, (session.image id).registry.find? name = none →
          decl.classes.find? (·.name == name) = some given →
            ∃ target, (after.image id).registry.find? name = some target ∧
              ((after.image id).registry.entry target).card = given.card)
      (fun _ _ => True) := by
  simp only [run, outcome_bind, outcome_inRegistry]
  split
  · trivial
  simp only [outcome_get, outcome_pure]
  let entering : Session := { session with entered := (id, session.thread) :: session.entered }
  refine (@editAndRun_ends _ _ entering id _ leads (Edit.loadModule decl)).mono ?_
    fun halt between _ => passing_any _ halt between
  intro result between ended
  let after : Session := { between with entered := session.entered }
  cases result with
  | error error => exact .inl ⟨error, rfl⟩
  | ok classes =>
    obtain ⟨draft, returned, made⟩ := ended classes rfl
    change Edit.loadModule decl { image := session.image id } = _ at returned
    have enters : (session.adopt id draft).Leads (entering.adopt id draft) := .of_same rfl rfl
    have leaves : between.Leads after := .of_same rfl rfl
    have further := (enters.trans made).trans leaves
    have enrolled := @Edit.loadModule_enrols _ { image := session.image id } (indexed id) decl
    rw [returned] at enrolled
    have admits := Draft.Enrols.admits enrolled (indexed id)
    have adopted : (session.adopt id draft).image id = draft.image := by
      change (session.setImage id draft.image).image id = draft.image
      rw [image_setImage, if_pos ⟨rfl, inside⟩]
    have placed : (session.adopt id draft).Indexed := by
      obtain ⟨placed, -⟩ :=
        Lasts.setImage indexed id (enrolled.indexed (indexed id)) enrolled.extends
      exact placed
    obtain ⟨indexedAfter, lasts⟩ := further.lasts placed
    have kept := fun name target => @Lasts.kept _ _ _ lasts placed indexedAfter id name target
    rw [adopted] at kept
    refine .inr ⟨fun name target found => ?_, fun name given absent declared => ?_⟩
    · obtain ⟨still, same⟩ := admits.kept name target found
      obtain ⟨last, sameAgain⟩ := kept name target still
      exact ⟨last, sameAgain.trans same⟩
    · obtain ⟨target, found, same⟩ := admits.first name given absent declared
      obtain ⟨last, sameAgain⟩ := kept name target found
      exact ⟨target, last, sameAgain.trans same⟩

end Request

/-- Wherever a program can come: numbers and names lead to the same classes, all classes that
    were ever noted are there under their numbers and names, a class is refused for its name
    exactly if it is taken, without any effect, and a module registers the first class it declares
    under each name that is not taken and interns nothing for the others. -/
theorem Session.Visited.identity_permanent [NameHash] {session : Session}
    (visited : session.Visited) :
    (∀ id, (session.image id).registry.Indexed ∧ (session.image id).registry.names.Nodup ∧
      (session.image id).registry.names.length = (session.image id).registry.size) ∧
    (session.notes.Pairwise fun earlier later =>
      Outlasts ImageDump.Begins earlier.dumps later.dumps) ∧
    (∀ note ∈ session.notes, Outlasts ImageDump.Begins note.dumps session.dumps ∧
      ∀ (id : ImageId) (target : ClassId) dump seen, note.dumps[id]? = some dump →
        dump.classes[target]? = some seen →
          (session.image id).registry.find? seen.inst.label.name = some target) ∧
    (∀ behaviour id (decl : ClassDecl),
      (decl.name ∈ (session.image id).registry.names →
        (Request.registerClass decl).run behaviour id session =
          if session.isShut id then .error .deadlocked session
          else .ok (.refused (.classAlreadyExists decl.name)) (session.log [decl.ignored])) ∧
      ∀ name after, (Request.registerClass decl).run behaviour id session =
          .ok (.refused (.classAlreadyExists name)) after →
        name = decl.name ∧ decl.name ∈ (session.image id).registry.names) ∧
    (∀ id (decl : ModuleDecl), Outcome (Edit.loadModule decl { image := session.image id })
      (fun _ loaded => (session.image id).Admits decl loaded.image)
      (fun _ loaded => ∃ part, part <+: decl.arrivals (session.image id).registry.names ∧
        Draft.Enrols { image := session.image id } part loaded)) ∧
    ∀ (behaviour : Behaviour),
      (∀ call, (behaviour.body call).Resilient (fun _ => True) fun _ => True) →
      (∀ id handle selector,
        (behaviour.handler id handle selector).Resilient (fun _ => True) fun _ => True) →
      ∀ id, id < session.images.size → ∀ decl,
        Outcome ((Request.loadModule decl).run behaviour id session)
          (fun answer after => (∃ error, answer = .refused error) ∨
            (∀ name target, (session.image id).registry.find? name = some target →
              (after.image id).registry.find? name = some target ∧
                ((after.image id).registry.entry target).card =
                  ((session.image id).registry.entry target).card) ∧
            ∀ name given, (session.image id).registry.find? name = none →
              decl.classes.find? (·.name == name) = some given →
                ∃ target, (after.image id).registry.find? name = some target ∧
                  ((after.image id).registry.entry target).card = given.card)
          (fun _ _ => True) := by
  have identified := visited.identified
  have indexed := identified.indexed
  refine ⟨fun id => ?_, identified.ordered, fun note noted => ?_, fun behaviour id decl => ?_,
    fun id decl => ?_, fun behaviour bodies handlers id inside decl => ?_⟩
  · exact ⟨indexed id, (indexed id).names_nodup, Registry.length_names _⟩
  · exact ⟨identified.noted note noted, fun _ _ _ _ shown listed =>
      identified.found noted shown listed⟩
  · refine ⟨fun taken => ?_, fun name after ran => Request.taken_of_registerClass indexed ran⟩
    exact Request.registerClass_of_taken fun absent =>
      ((indexed id).find?_eq_none_iff decl.name).mp absent taken
  · apply Outcome.mono (@Edit.loadModule_enrols _ { image := session.image id } (indexed id) decl)
    · exact fun _ loaded enrols => Draft.Enrols.admits enrols (indexed id)
    · exact fun _ _ stopped => stopped.2
  · exact Request.loadModule_admits ⟨fun call => (bodies call).leads,
      fun id handle selector => (handlers id handle selector).leads⟩ indexed inside decl

/-- A module that declares a class twice, and one whose name is taken, registers one class and
    interns one signature. Both names are taken from then on. -/
theorem Session.Visited.identity_permanent_of_duplicates : ∃ session : Session, session.Visited ∧
    (session.image 0).registry.names = ["Animal", "Dog"] ∧
    (session.image 0).registry.find? "Dog" = some 1 ∧ (session.image 0).selectors.size = 3 ∧
    ∀ behaviour, (Request.registerClass ⟨"Dog", none, 0, [], []⟩).run behaviour 0 session =
      if session.isShut 0 then .error .deadlocked session
      else .ok (.refused (.classAlreadyExists "Dog"))
        (session.log [ClassDecl.ignored ⟨"Dog", none, 0, [], []⟩]) := by
  let classes : List ClassDecl :=
    [⟨"Dog", some "Animal", 4, [⟨⟨"bark", none⟩, 1⟩], []⟩,
     ⟨"Animal", none, 8, [⟨⟨"growl", none⟩, 2⟩], []⟩,
     ⟨"Dog", none, 16, [⟨⟨"howl", none⟩, 3⟩], []⟩]
  let requests : List Request :=
    [.registerClass ⟨"Animal", none, 8, [], []⟩, .loadModule ⟨"Zoo", [], classes, []⟩]
  have isPublic : (Act.inTurn true .idle 0 requests).Public true :=
    Act.inTurn_public (fun _ => .done ()) (fun _ _ _ => .done 0) 0
      (by simp [requests, Request.Issued])
  obtain ⟨session, observed, checked⟩ := isPublic.exists_observed .info [.standard]
    (fun session => (session.image 0).registry.names == ["Animal", "Dog"] &&
      (session.image 0).selectors.size == 3) (by decide +kernel)
  rw [Bool.and_eq_true, beq_iff_eq, beq_iff_eq] at checked
  obtain ⟨names, size⟩ := checked
  have visited := observed.reachable.visited
  obtain ⟨found, -, -, refused, -⟩ := Session.Visited.identity_permanent visited
  refine ⟨session, visited, names, ?_, size, fun behaviour => ?_⟩
  · have inside : 1 < (session.image 0).registry.size := by
      rw [← Registry.length_names, names]
      decide
    have listed := (session.image 0).registry.getElem?_column ClassEntry.name inside
    rw [← Registry.names, names] at listed
    exact ((found 0).1 "Dog" 1).mpr ⟨inside, (Option.some.inj listed).symm⟩
  · exact (refused behaviour 0 ⟨"Dog", none, 0, [], []⟩).1 (by rw [names]; decide)

end LateBinding
