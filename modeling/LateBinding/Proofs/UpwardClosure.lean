import LateBinding.Proofs.Messaging
import LateBinding.Proofs.Unfailing

/-!
# Tables are closed upwards

Wherever a program can come, also after panics: a side that has a table is of a loaded class, the
other side of the class has one, and so has the side that it inherits from. Where tables are built
late, a class that has tables is one that a message was for, or is above one, since a class is
prepared together with those above it.

Rebuilding never makes a table where there is none, so it leaves classes alone that have not been
messaged. It is done when a category is attached or a method replaced, before anything else
happens, so what is shown of it is shown of an image as it is and of one that has just changed in
this way.
-/

namespace LateBinding

open Registry

/-- A class declares what it did, or a category has been attached to it, or a method of it has been
    replaced. Its tables are as they were. -/
inductive Registry.Redeclared (registry : Registry) (id : ClassId) : Registry → Prop
  | same : Redeclared registry id registry
  | attached {category : Category} (issued : category.Issued) :
      Redeclared registry id (registry.attach id category)
  | replaced (side : Side) {selector : Selector} (imp : Imp)
      (fits : selector < SparseMap.capacity) :
      Redeclared registry id (registry.replaceMethod ⟨id, side⟩ selector imp)

/-- What a class declares has no part in how links and tables hang together, only in which tables
    are current. -/
theorem Registry.Redeclared.inOrder {registry after : Registry} {id : ClassId}
    (redeclared : registry.Redeclared id after) (sound : registry.Sound) :
    after.Formed ∧ after.Tabled fun ref => ref.id ∉ after.descendants id := by
  cases redeclared with
  | same => exact ⟨sound.formed, sound.tabled.weaken fun _ _ => trivial⟩
  | @attached category issued =>
    let change := fun entry : ClassEntry =>
      { entry with categories := entry.categories ++ [category] }
    have extended : (change (registry.entry id)).Issued := (sound.formed.issued id).extend
      (fun other member => List.mem_singleton.mp member ▸ issued) rfl rfl
    obtain ⟨formed, tabled, -⟩ := sound.redeclare id change rfl extended
    exact ⟨formed, tabled⟩
  | @replaced side selector imp fits =>
    let change := fun entry : ClassEntry => { entry with
      methods := entry.methods.set side
        (Method.replaceLast selector imp (entry.methods.get side)) }
    have replaced : (change (registry.entry id)).Issued :=
      (sound.formed.issued id).replaceMethod side imp fits
    obtain ⟨formed, tabled, -⟩ := sound.redeclare id change rfl replaced
    exact ⟨formed, tabled⟩

/-- Wherever a program can come, also after panics: a side that has a table is of a class that is
    loaded on both sides and has tables on both, and inherits from a side that has one. Where tables
    are built late, its class is on the chain of one that messages were sent to. Every class can be
    rebuilt, also when a category was attached to it or a method replaced: exactly the sides that
    had tables have some, and each was built on the table that was there for the side above, which
    had been renewed in the same pass. -/
theorem Session.Messaging.closed_upwards [NameHash] {messaged : ImageId → String → Prop}
    {session : Session} (messaging : session.Messaging messaged) (id : ImageId) :
    (∀ ref, ((session.image id).registry.table? ref).isSome = true →
      (∀ side, (((session.image id).registry.entry ref.id).stage.get side).reached .loaded = true ∧
        ((session.image id).registry.table? ⟨ref.id, side⟩).isSome = true) ∧
      ∀ above, (session.image id).registry.parent? ref = some above →
        ((session.image id).registry.table? above).isSome = true) ∧
    ((session.image id).config.eager = false →
      ∀ ref, ((session.image id).registry.table? ref).isSome = true →
        ∃ name target chain, messaged id name ∧
          (session.image id).registry.find? name = some target ∧
          (session.image id).registry.chain target = .ok chain ∧ ref.id ∈ chain) ∧
    ∀ target (draft : Draft), (session.image id).registry.Redeclared target draft.image.registry →
      draft.Rebuilds target := by
  have upright := messaging.upright id
  obtain ⟨formed, tabled⟩ := upright.sound.registry
  refine ⟨fun ref present => ⟨fun side => ⟨?_, ?_⟩, fun above leads => ?_⟩,
    fun late ref present => ?_, fun target draft redeclared => ?_⟩
  · have loaded := tabled.loaded ref present
    cases side with
    | inst => exact loaded
    | metaclass =>
      have level := formed.level ref.id
      rw [BySide.get, level]
      exact loaded
  · cases early : (session.image id).config.eager with
    | true => exact upright.furnished early ref.id (tabled.loaded ref present) side
    | false => exact upright.paired early ref.id ref.side side present
  · exact tabled.closed ref above leads present
  · obtain ⟨name, target, path, isMessaged, found, ascent, member⟩ :=
      upright.within late ref present
    have inside := formed.lt_of_find? name target found
    exact ⟨name, target, path, isMessaged, found,
      (chain_eq_ok_iff formed.lt_of_find? inside).mpr ascent, member⟩
  · obtain ⟨redeclaredFormed, redeclaredTabled⟩ := redeclared.inOrder upright.sound.registry
    exact draft.rebuilds redeclaredFormed redeclaredTabled target

/-- A class overflowed and the panic was caught, and then one class was messaged. It and the class
    above have tables, its sister has none. A category that is attached above renews the table of
    the class that was messaged after the one that it inherits from, and the sister still has
    none. -/
theorem Session.Messaging.closed_upwards_of_sisters :
    let messaged := fun (id : ImageId) (name : String) => id = 0 ∧ name = "Dog"
    let category : Category := ⟨0, "Loud", "Animal", ⟨[⟨2, 9⟩], []⟩⟩
    ∃ session : Session, session.Messaging messaged ∧
      (session.image 0).registry.reached 3 .loaded = false ∧
      ((session.image 0).registry.table? ⟨0, .metaclass⟩).isSome = true ∧
      (session.image 0).registry.reached 2 .loaded = true ∧
      (∀ side, ((session.image 0).registry.table? ⟨2, side⟩).isSome = false) ∧
      ∀ draft : Draft, draft.image.registry = (session.image 0).registry.attach 0 category →
        (∃ after, Edit.rebuild 0 draft = .ok () after ∧
          (after.image.registry.table? ⟨1, .inst⟩).isSome = true ∧
          (after.image.registry.table? ⟨2, .inst⟩).isSome = false) ∧
        ∃ earlier later, draft.image.registry.turns 0 =
          earlier ++ .renewed ⟨1, .inst⟩ :: later ∧ .renewed ⟨0, .inst⟩ ∈ earlier := by
  intro messaged category
  let requests : List Request :=
    [.registerClass ⟨"Animal", none, 8, [⟨⟨"speak", none⟩, 1⟩], []⟩,
     .registerClass ⟨"Dog", some "Animal", 4, [], []⟩,
     .registerClass ⟨"Cat", some "Animal", 4, [], []⟩,
     .registerClass ⟨"Whale", some "Animal", Word.largest, [], []⟩,
     .send ⟨0, "Dog", .inst⟩ (.intern 0 ⟨"speak", none⟩)]
  have isMessaging :
      (Act.trying .idle 0 requests).Resilient (Act.Sparing messaged) fun _ => True := by
    refine Act.Resilient.trying (fun _ => .done ()) (fun _ _ _ => .done 0) 0 fun asked member => ?_
    have issued : ∀ asked ∈ requests, asked.Issued := by simp [requests, Request.Issued]
    refine ⟨issued asked member, ?_⟩
    intro target recipient
    simp only [requests, List.mem_cons, List.not_mem_nil, or_false] at member
    rcases member with rfl | rfl | rfl | rfl | rfl
    all_goals cases recipient
    exact ⟨rfl, rfl⟩
  obtain ⟨session, messaging, checked⟩ := isMessaging.exists_session .info [.standard]
    (fun session => !(session.image 0).config.eager &&
      !(session.image 0).registry.reached 3 .loaded &&
      (session.image 0).registry.reached 2 .loaded &&
      (session.image 0).registry.find? "Dog" == some 1 &&
      ((session.image 0).registry.chain 1).toOption == some [1, 0] &&
      (((session.image 0).registry.attach 0 category).entry 1).superclass == some 0 &&
      (((session.image 0).registry.attach 0 category).table? ⟨1, .inst⟩).isSome &&
      !(((session.image 0).registry.attach 0 category).table? ⟨2, .inst⟩).isSome &&
      (session.image 0).registry.parent? ⟨1, .inst⟩ == some ⟨0, .inst⟩ &&
      ((session.image 0).registry.table? ⟨1, .inst⟩).isSome)
    (by decide +kernel)
  simp only [Bool.and_eq_true, Bool.not_eq_true', beq_iff_eq] at checked
  obtain ⟨⟨⟨⟨⟨⟨⟨⟨⟨late, waits⟩, loaded⟩, found⟩, chained⟩, link⟩, tabled⟩, untabled⟩, leads⟩,
    present⟩ := checked
  obtain ⟨closed, messages, rebuilds⟩ := Session.Messaging.closed_upwards messaging 0
  have issued : category.Issued := by
    intro side
    cases side <;> simp [category, BySide.get, Method.Issued, SparseMap.capacity]
  have above := (closed ⟨1, .inst⟩ present).2 _ leads
  refine ⟨session, messaging, waits, ((closed _ above).1 .metaclass).2, loaded, fun side => ?_,
    fun draft attached => ?_⟩
  · refine Bool.eq_false_iff.mpr fun sister => ?_
    obtain ⟨_, target, chain, ⟨-, rfl⟩, named, walked, member⟩ := messages late _ sister
    rw [found, Option.some.injEq] at named
    subst named
    rw [walked] at chained
    cases chained
    have apart : (2 : ClassId) ∉ ([1, 0] : List ClassId) := by decide
    exact apart member
  · have rebuilt := rebuilds 0 draft (attached ▸ .attached issued)
    rw [← attached] at link tabled untabled
    obtain ⟨after, ended, same⟩ := rebuilt.ends
    refine ⟨⟨after, ended, (same _).trans tabled, (same _).trans untabled⟩, ?_⟩
    have due := (rebuilt.renews ⟨1, .inst⟩).mpr ⟨.single link, tabled⟩
    obtain ⟨earlier, later, split⟩ := List.append_of_mem due
    have inherits : draft.image.registry.parent? ⟨1, .inst⟩ = some ⟨0, .inst⟩ := by
      rw [parent?, link]
    exact ⟨earlier, later, split,
      (rebuilt.ordered earlier ⟨1, .inst⟩ later split).2 _ inherits .refl⟩

end LateBinding
