import LateBinding.Proofs.Histories

/-!
# Categories are kept in order

Every deed enters the categories that it registers at the end of the ledger of its image, and
no other deed touches a ledger. A program notes its requests down as it makes them, and the
answers that it gets, so the notes of a session tell which categories it has registered: those
of the requests that have not been refused. At any moment of a strict run the categories that
an image holds for a class name are those that were registered for the name, in the order of
registration. They are all attached if the class of that name is loaded, and all wait
otherwise.
-/

namespace LateBinding

/-- The categories that a remark asks an image to register. -/
def Remark.categories (id : ImageId) : Remark → List CategoryDecl
  | .asked other request => if other = id then request.newCategories else []
  | _ => []

/-- Whether a note is that the request in a place has been refused. -/
def Note.refuses [NameHash] (place : Nat) (note : Note) : Bool :=
  match note.remark with
  | .answered other (.refused _) => other == place
  | _ => false

namespace Session

variable [NameHash]

/-- Whether the request that is noted down in a place has been refused. -/
def isRefused (session : Session) (place : Nat) : Bool :=
  (session.notes.drop place).any (·.refuses place)

/-- The categories that programs have registered with an image, in order: those of the requests
    that have been made and not been refused. -/
def registered (session : Session) (id : ImageId) : List CategoryDecl :=
  session.notes.zipIdx.flatMap fun entry =>
    if session.isRefused entry.2 then [] else entry.1.remark.categories id

/-- No request that registers categories has been refused. -/
def Heeded (session : Session) : Prop :=
  ∀ place asked, session.requested? place = some asked → asked.newCategories ≠ [] →
    session.isRefused place = false

end Session

/-- The categories of a class are those attached to its name. -/
theorem Act.categories_of_find? [NameHash] {session : Session} {id : ImageId} {name : String}
    {target : ClassId} (formed : (session.image id).registry.Formed)
    (found : (session.image id).registry.find? name = some target) (side : Side) :
    Act.categories session id ⟨id, ⟨target, side⟩⟩ =
      (session.image id).registry.attachedTo name := by
  rw [Act.categories, Act.owns, Registry.attachedTo_of_find? found]
  simp [formed.lt_of_find? name target found]

namespace Image

variable [NameHash] {id : ImageId} {before after : Image} {deed : Deed}
  {registered : List CategoryDecl}

/-- Marking a class that is being prepared as initialized leaves it loaded. -/
theorem Ledger.endInit {target : ClassId} (ledger : before.Ledger registered)
    (loaded : before.registry.reached target .loaded = true) :
    Image.Ledger { before with registry := before.registry.endInit target } registered := by
  refine Registry.Ledger.modify ledger target _ rfl rfl ?_
  rw [loaded]
  obtain ⟨continues, -⟩ := ClassEntry.continues_initialized (before.registry.entry target) loaded
  exact continues.loaded loaded

/-- A deed of a strict run enters what it registers with an image. -/
theorem Lives.ledger (lives : before.Lives true id deed after) (sound : before.registry.Sound)
    (ledger : before.Ledger registered) :
    after.Ledger (registered ++ deed.categories id) := by
  cases lives with
  | changed amends categories =>
    rw [Deed.categories, if_pos rfl, ← categories]
    exact amends.ledger sound ledger
  | refused _ quiet =>
    obtain ⟨signatures, taken⟩ := quiet rfl
    have entered := taken.ledger sound.formed ledger
    rwa [Arrival.filterMap_signature fun _ => rfl] at entered
  | began _ _ =>
    simp only [Deed.categories, List.append_nil]
    exact Registry.Ledger.modify ledger _ _ rfl rfl rfl
  | @finished target marked =>
    simp only [Deed.categories, List.append_nil]
    exact ledger.endInit (sound.loaded_of_marked marked)
  | apart other alike =>
    have nothing : deed.categories id = [] := by
      cases deed with
      | changed named change hooks =>
        rw [Deed.categories, if_neg fun same => other (congrArg some same)]
      | refused | began | finished | called | noted | rested => rfl
    rw [nothing, List.append_nil, Image.Ledger, alike.registry, alike.selectors]
    exact ledger

end Image

namespace Session

variable [NameHash] {first last : Session} {course : List Moment}

/-- The ledger of an image says what was registered along a course. -/
theorem Course.ledger (run : first.Course true course last)
    (sound : ∀ id, (first.image id).Sound true) {id : ImageId} (inside : id < first.images.size)
    {registered : List CategoryDecl} (ledger : (first.image id).Ledger registered) :
    (last.image id).Ledger (registered ++ Course.categories id course) := by
  induction run generalizing registered with
  | done session =>
    rw [Course.categories, List.flatMap_nil, List.append_nil]
    exact ledger
  | next does _ inductionHypothesis =>
    obtain ⟨regular, soundAfter⟩ := does.regular sound
    have entered := (regular.lives id inside).ledger (sound id).registry ledger
    have all := inductionHypothesis soundAfter (regular.count.symm ▸ inside) entered
    rwa [List.append_assoc] at all

/-- A note that is added refuses nothing that registers categories. -/
theorem Heeded.add (heeded : first.Heeded) {note : Note}
    (notes : last.notes = first.notes ++ [note])
    (goesOn : ¬ first.RefusesCategories note.remark) : last.Heeded := by
  intro place asked requested some
  have dropped : last.isRefused place =
      (first.isRefused place ||
        ([note].drop (place - first.notes.length)).any (·.refuses place)) := by
    rw [isRefused, notes, List.drop_append, List.any_append, isRefused]
  rw [requested?, notes] at requested
  by_cases old : place < first.notes.length
  · rw [List.getElem?_append_left old] at requested
    rw [dropped, heeded place asked requested some, Bool.false_or,
      Nat.sub_eq_zero_of_le old.le, List.drop_zero, List.any_cons, List.any_nil, Bool.or_false]
    refine Bool.eq_false_iff.mpr fun refuses => goesOn ?_
    unfold Note.refuses at refuses
    split at refuses
    · rename_i other error remark
      exact ⟨place, error, asked, by rw [remark, eq_of_beq refuses], requested, some⟩
    · cases refuses
  · have nothing : first.isRefused place = false := by
      rw [isRefused, List.drop_eq_nil_of_le (Nat.le_of_not_lt old), List.any_nil]
    rw [dropped, nothing, Bool.false_or]
    rw [List.getElem?_append_right (Nat.le_of_not_lt old)] at requested
    cases distance : place - first.notes.length with
    | succ further =>
      rw [distance] at requested
      cases requested
    | zero =>
      rw [distance, List.getElem?_cons_zero, Option.bind_some] at requested
      rw [List.drop_zero, List.any_cons, List.any_nil, Bool.or_false, Note.refuses]
      split at requested
      · rename_i remark
        rw [remark]
      · cases requested

/-- A strict program does not go on from a refusal of categories. -/
theorem Does.heeded {before after : Session} {deed : Deed} (does : before.Does true deed after)
    (heeded : before.Heeded) : after.Heeded := by
  have same : ∀ {session : Session}, session.notes = before.notes → session.Heeded := by
    intro session notes place asked
    rw [requested?, notes, isRefused, notes]
    exact heeded place asked
  have announced : ∀ id change, (before.announce id change).Heeded := by
    intro id change
    unfold announce
    split
    · refine @Heeded.add _ before _ heeded ⟨before.images, .asked id _⟩ rfl ?_
      rintro ⟨_, _, _, impossible, -⟩
      cases impossible
    · exact heeded
  cases does with
  | changed _ _ => exact announced _ _
  | refused _ _ _ => exact announced _ _
  | began _ becomes => exact same becomes.notes
  | finished _ becomes => exact same becomes.notes
  | called _ becomes => exact same becomes.notes
  | noted _ goesOn => exact @Heeded.add _ before _ heeded ⟨before.images, _⟩ rfl (goesOn rfl)
  | rested rests => exact same rests.notes

omit [NameHash] in
/-- What a change registers is what its request is noted down for. -/
theorem categories_request (id other : ImageId) (change : Change) :
    (change.request?.map (Remark.asked other)).toList.flatMap (·.categories id) =
      if other = id then change.categories else [] := by
  cases change with
  | registerClass | intern | replaceMethod | readyTables =>
    simp [Change.request?, Remark.categories, Request.newCategories, Change.categories]
  | registerCategory decl => exact List.append_nil _
  | loadModule decl => exact List.append_nil _

/-- A deed of a strict run registers what is noted down with it. -/
theorem Does.categories_eq {before after : Session} {deed : Deed}
    (does : before.Does true deed after) (id : ImageId) :
    deed.categories id = deed.remarks.flatMap (·.categories id) := by
  cases does with
  | changed _ _ => exact (categories_request id _ _).symm
  | refused _ goesOn _ =>
    refine Eq.trans ?_ (categories_request id _ _).symm
    rw [Change.categories_eq_nil (goesOn rfl), ite_self]
    rfl
  | began _ _ => rfl
  | finished _ _ => rfl
  | called _ _ => rfl
  | @noted remark plain _ =>
    cases remark with
    | asked other request =>
      have none : request.newCategories = [] :=
        Request.newCategories_eq_nil (plain other request rfl)
      rw [Deed.remarks, List.flatMap_singleton, Remark.categories, none, ite_self]
      rfl
    | looked | answered | called | returned => rfl
  | rested _ => rfl

/-- Where no request that registers categories has been refused, all that is noted down counts. -/
theorem Heeded.registered (heeded : last.Heeded) (id : ImageId) :
    last.registered id = last.notes.flatMap (·.remark.categories id) := by
  have counted : ∀ entry ∈ last.notes.zipIdx,
      (if last.isRefused entry.2 then [] else entry.1.remark.categories id) =
        entry.1.remark.categories id := by
    intro entry member
    have found := List.mem_zipIdx_iff_getElem?.mp member
    split
    · rename_i refused
      cases remark : entry.1.remark with
      | asked owner request =>
        have requested : last.requested? entry.2 = some request := by
          rw [requested?, found, Option.bind_some, remark]
        have none : request.newCategories = [] := by
          by_contra new
          rw [heeded entry.2 request requested new] at refused
          cases refused
        rw [Remark.categories, none, ite_self]
      | looked | answered | called | returned => rfl
    · rfl
  -- The numbers of the notes were needed to tell refusals only.
  have first : last.notes.zipIdx.flatMap (·.1.remark.categories id) =
      (last.notes.zipIdx.map Prod.fst).flatMap (·.remark.categories id) := by
    rw [List.flatMap_map]
  rw [Session.registered, List.flatMap_congr counted, first, List.zipIdx_map_fst]

/-- What was registered along a course from nothing is what the session has noted down. -/
theorem Course.registered (run : first.Course true course last) (silent : first.notes = [])
    (id : ImageId) : last.registered id = Course.categories id course := by
  have deeds := run.invariant Heeded (fun does before => does.heeded before) fun place asked => by
    rw [requested?, silent]
    exact fun impossible => by cases impossible
  rw [deeds.2.registered, run.noted, silent, List.nil_append, Course.notes, Course.categories,
    List.flatMap_assoc]
  refine List.flatMap_congr fun moment member => ?_
  rw [(deeds.1 moment member).1.categories_eq, Moment.notes, List.flatMap_map]

/-- In every session that can be observed in a strict run the categories of every class name are
    those that were registered for it, in the order of registration: all attached to the class
    of that name if it is loaded, and all waiting otherwise. -/
theorem Observed.categories {session : Session} (observed : session.Observed true) (id : ImageId)
    (inside : id < session.images.size) (name : String) :
    let image := session.image id
    let registered := CategoryDecl.forName (session.registered id) name
    (∀ target, image.registry.find? name = some target →
      image.registry.reached target .loaded = true →
        (∀ side, Category.Recorded image.selectors
          (Act.categories session id ⟨id, ⟨target, side⟩⟩) registered) ∧
        image.registry.parkedFor name = []) ∧
    ((∀ target, image.registry.find? name = some target →
      image.registry.reached target .loaded = false) →
        Category.Recorded image.selectors (image.registry.parkedFor name) registered ∧
        ∀ target side, image.registry.find? name = some target →
          Act.categories session id ⟨id, ⟨target, side⟩⟩ = []) := by
  intro image registered
  obtain ⟨threshold, configs, first, course, started, sound, run⟩ := observed.course
  have blank := start_blank started
  have start : (first.image id).Ledger [] := by
    rw [Image.Ledger, blank.registry id]
    exact Registry.ledger_empty _
  have ledger := run.ledger sound (run.count sound ▸ inside) start
  rw [List.nil_append, ← run.registered blank.notes] at ledger
  have formed : image.registry.Formed := ((run.regular sound).2 id).registry.formed
  have held := ledger.held name
  constructor
  · intro target found loaded
    have nothing := ledger.parked_of_loaded formed found loaded
    rw [nothing, List.append_nil] at held
    refine ⟨fun side => ?_, nothing⟩
    rw [Act.categories_of_find? formed found side]
    exact held
  · intro early
    have nothing := ledger.attached_of_early early
    rw [nothing, List.nil_append] at held
    refine ⟨held, fun target side found => ?_⟩
    rw [Act.categories_of_find? formed found side, nothing]

end Session

namespace Session

/-- A category that came before its class and one that came after it are both attached, in
    this order. -/
theorem Observed.categories_of_early_category : ∃ session : Session, session.Observed true ∧
    (Act.categories session 0 ⟨0, ⟨0, .inst⟩⟩).map Category.name = ["Early", "Late"] ∧
    Category.Recorded (session.image 0).selectors (Act.categories session 0 ⟨0, ⟨0, .inst⟩⟩)
      (CategoryDecl.forName (session.registered 0) "Animal") := by
  let requests : List Request :=
    [.registerCategory ⟨"Early", "Animal", [⟨⟨"speak", none⟩, 1⟩], []⟩,
     .registerCategory ⟨"Other", "Plant", [], []⟩,
     .registerClass ⟨"Animal", none, 8, [], []⟩,
     .registerCategory ⟨"Late", "Animal", [⟨⟨"speak", none⟩, 2⟩], []⟩]
  have isPublic : (Act.inTurn true .idle 0 requests).Public true :=
    Act.inTurn_public (fun _ => .done ()) (fun _ _ _ => .done 0) 0
      (by simp [requests, Request.Issued])
  obtain ⟨session, observed, checked⟩ := isPublic.exists_observed .info [.standard]
    (fun session => decide (0 < session.images.size) &&
      (session.image 0).registry.find? "Animal" == some 0 &&
      (session.image 0).registry.reached 0 .loaded &&
      (Act.categories session 0 ⟨0, ⟨0, .inst⟩⟩).map Category.name == ["Early", "Late"])
    (by decide +kernel)
  simp only [Bool.and_eq_true, decide_eq_true_eq, beq_iff_eq] at checked
  obtain ⟨⟨⟨inside, found⟩, loaded⟩, names⟩ := checked
  obtain ⟨recorded, -⟩ := (Session.Observed.categories observed 0 inside "Animal").1 0 found loaded
  exact ⟨session, observed, names, recorded .inst⟩

end Session

end LateBinding
