import LateBinding.Proofs.SparseContents
import Mathlib.Algebra.BigOperators.Fin

/-!
# The shape of a sparse map

A sparse map has no choice in how it holds its keys. There is a branch where some key needs one
and a leaf where some key needs one, and nowhere else, and the counts are those of what is there.
So what a map reads as determines it: two maps that read the same are the same tree, whatever was
done to get there. A key that is written and removed again leaves no trace, and changes of
different keys may be exchanged.

All of it rests on removal. A leaf whose last value goes must go as well, and then the branch
above it if the leaf was its last; both are seen from the counts alone.
-/

namespace LateBinding

/-- Two optional containers are the same if they read the same everywhere, neither of them is
    there without anything in it, and what a container reads as determines it. -/
theorem eq_of_reads {β γ α : Type} {first second : Option β} (read : β → γ → Option α)
    (same : ∀ place, first.bind (read · place) = second.bind (read · place))
    (firstHolds : ∀ container, first = some container → ∃ place, (read container place).isSome)
    (secondHolds : ∀ container, second = some container → ∃ place, (read container place).isSome)
    (determined : ∀ one two, first = some one → second = some two →
      (∀ place, read one place = read two place) → one = two) : first = second := by
  cases first with
  | none =>
    cases second with
    | none => rfl
    | some two =>
      obtain ⟨place, found⟩ := secondHolds two rfl
      have absent : none = read two place := same place
      simp [← absent] at found
  | some one =>
    cases second with
    | none =>
      obtain ⟨place, found⟩ := firstHolds one rfl
      have absent : read one place = none := same place
      simp [absent] at found
    | some two => exact congrArg some (determined one two rfl rfl same)

namespace Node

variable {α : Type} {node other : Node α}

/-- A node with a right count and something in it. -/
def Populated (node : Node α) : Prop := node.Counted ∧ node.filled.Nonempty

/-- A node that is counted right and not empty holds something. -/
theorem Counted.populated (counted : node.Counted) (occupied : node.count ≠ 0) :
    node.Populated := by
  refine ⟨counted, Finset.card_pos.mp ?_⟩
  rw [← counted]
  exact Nat.pos_of_ne_zero occupied

/-- A node that a value is put into holds something. -/
theorem Counted.populated_put (counted : node.Counted) (slot : Fin 256) (value : α) :
    (node.put slot value).Populated := by
  refine ⟨counted.put slot value, slot, ?_⟩
  rw [filled_put]
  exact Finset.mem_insert_self slot _

/-- A populated node has a value somewhere. -/
theorem Populated.exists_value (populated : node.Populated) :
    ∃ slot value, node.get? slot = some value := by
  obtain ⟨slot, member⟩ := populated.2
  exact ⟨slot, Option.isSome_iff_exists.mp (mem_filled.mp member)⟩

/-- A node with a right count is determined by what is in its slots. -/
theorem Counted.ext (counted : node.Counted) (otherCounted : other.Counted)
    (same : ∀ slot, node.get? slot = other.get? slot) : node = other := by
  have slots : node.slots = other.slots := by
    apply Vector.ext
    intro slot inside
    exact same ⟨slot, inside⟩
  have filled : node.filled = other.filled := by
    ext slot
    rw [mem_filled, mem_filled, same]
  have count : node.count = other.count := by rw [counted, otherCounted, filled]
  cases node
  cases other
  simp_all

end Node

namespace SparseMap

variable {α : Type} {map other : SparseMap α} {key : Nat}

/-- The keys at which there is a value. -/
def populated (map : SparseMap α) : Finset Nat :=
  (Finset.range capacity).filter fun key => (map.get? key).isSome

/-- No level stands empty, and all counts are right: those of branches and leaves, and the number
    of keys. -/
structure Canonical (map : SparseMap α) : Prop where
  branch : ∀ i branch, map.branches.get i = some branch → branch.Populated
  leaf : ∀ i branch, map.branches.get i = some branch →
    ∀ j leaf, branch.get? j = some leaf → leaf.Populated
  size : map.size = map.populated.card

/-- A key with a value is no larger than keys can be. -/
theorem lt_capacity_of_get? {value : α} (found : map.get? key = some value) : key < capacity := by
  by_contra outside
  rw [map.get?_of_not_lt outside] at found
  cases found

/-- A slot is populated if there is a value at it. -/
@[simp] theorem mem_populated : key ∈ map.populated ↔ (map.get? key).isSome := by
  rw [populated, Finset.mem_filter, Finset.mem_range]
  constructor
  · exact fun both => both.2
  · intro found
    obtain ⟨value, read⟩ := Option.isSome_iff_exists.mp found
    exact ⟨lt_capacity_of_get? read, found⟩

/-- A key made of three bytes has these bytes. -/
theorem split_join (i j k : Fin 256) : split (join i j k) = some (i, j, k) := by
  have inside : join i j k < capacity := by
    simp only [join, capacity]
    omega
  rw [split_of_lt inside]
  simp only [Option.some.injEq, Prod.mk.injEq, Fin.ext_iff, Fin.ofNat, join]
  omega

/-- A key put together from three bytes is read at these bytes. -/
theorem get?_join (map : SparseMap α) (i j k : Fin 256) :
    map.get? (join i j k) = map.slot (i, j, k) := by
  rw [get?_eq_slot, split_join]
  rfl

/-- A key of 24 bits is made of its bytes. -/
theorem eq_join_of_split {i j k : Fin 256} (bytes : split key = some (i, j, k)) :
    key = join i j k :=
  (eq_iff_of_split bytes (split_join i j k)).mpr rfl

/-- A value is at a key made of three bytes exactly if the first two lead to a leaf that has the
    value under the third. -/
theorem get?_eq_some_iff {value : α} : map.get? key = some value ↔
    ∃ i j k leaf, key = join i j k ∧ (map.branches.get i).bind (·.get? j) = some leaf ∧
      leaf.get? k = some value := by
  constructor
  · intro found
    obtain ⟨⟨i, j, k⟩, bytes⟩ : ∃ bytes, split key = some bytes :=
      ⟨_, split_of_lt (lt_capacity_of_get? found)⟩
    rw [get?_eq_slot, bytes, Option.bind_some, slot, ← Option.bind_assoc] at found
    obtain ⟨leaf, atLeaf, atSlot⟩ := Option.bind_eq_some_iff.mp found
    exact ⟨i, j, k, leaf, eq_join_of_split bytes, atLeaf, atSlot⟩
  · rintro ⟨i, j, k, leaf, rfl, atLeaf, atSlot⟩
    rw [get?_join, slot, ← Option.bind_assoc, atLeaf, Option.bind_some, atSlot]

/-- A map in canonical shape is counted right. -/
theorem Canonical.counted (canonical : map.Canonical) : map.Counted where
  branch i branch found := (canonical.branch i branch found).1
  leaf i branch found j leaf below := (canonical.leaf i branch found j leaf below).1

/-- An empty map has no branches. -/
theorem branches_get_empty (i : Fin 256) : (empty : SparseMap α).branches.get i = none := by
  simp [empty, Vector.get]

/-- Below a branch of a canonical map there is a value. -/
theorem Canonical.exists_below (canonical : map.Canonical) {i : Fin 256} {branch : Node (Node α)}
    (found : map.branches.get i = some branch) :
    ∃ place : Fin 256 × Fin 256, ((branch.get? place.1).bind (·.get? place.2)).isSome := by
  obtain ⟨j, leaf, held⟩ := (canonical.branch i branch found).exists_value
  obtain ⟨k, value, read⟩ := (canonical.leaf i branch found j leaf held).exists_value
  exact ⟨(j, k), by simp [held, read]⟩

/-- An empty map is in canonical shape. -/
theorem canonical_empty : (empty : SparseMap α).Canonical where
  branch i branch found := by
    rw [branches_get_empty] at found
    cases found
  leaf i branch found := by
    rw [branches_get_empty] at found
    cases found
  size := by
    have nothing : (empty : SparseMap α).populated = ∅ := by
      ext key
      simp [get?_empty]
    rw [nothing]
    rfl

section

variable {value : α} {previous : Option α} {after : SparseMap α}

/-- The keys after a write are those before and the one written. -/
theorem populated_set (written : map.set key value = .ok (previous, after)) :
    previous = map.get? key ∧ after.populated = insert key map.populated ∧
      ∀ asked, after.get? asked = if key = asked then some value else map.get? asked := by
  obtain ⟨i, j, k, bytes, -, -⟩ := set_eq_ok written
  have inside : key < capacity := by
    by_contra outside
    rw [split_of_not_lt outside] at bytes
    cases bytes
  obtain ⟨same, result, reads⟩ := map.set_spec value inside
  rw [written] at result
  cases result
  refine ⟨rfl, ?_, reads⟩
  ext asked
  rw [Finset.mem_insert, mem_populated, mem_populated, reads]
  by_cases atKey : key = asked
  · simp [atKey]
  · simp [atKey, Ne.symm atKey]

/-- Writing keeps a map canonical: each level that is made gets something to hold. -/
theorem Canonical.set (canonical : map.Canonical)
    (written : map.set key value = .ok (previous, after)) : after.Canonical := by
  have counted := canonical.counted.set written
  obtain ⟨i, j, k, -, branches, size⟩ := set_eq_ok written
  obtain ⟨rfl, populated, -⟩ := populated_set written
  -- Branches and leaves off the way to the key are as before, the others have just got one more.
  refine ⟨fun place branch found => ⟨counted.branch place branch found, ?_⟩,
    fun place branch found below leaf held =>
      ⟨counted.leaf place branch found below leaf held, ?_⟩, ?_⟩
  · rw [branches, branches_get] at found
    split at found
    · cases found
      rw [Node.filled_put]
      exact Finset.insert_nonempty j _
    · exact (canonical.branch place branch found).2
  · rw [branches, branches_get] at found
    split at found
    · cases found
      rw [Node.get?_put] at held
      split at held
      · cases held
        rw [Node.filled_put]
        exact Finset.insert_nonempty k _
      · cases before : map.branches.get i with
        | none =>
          rw [before, Option.getD_none, Node.get?_empty] at held
          cases held
        | some old =>
          rw [before, Option.getD_some] at held
          exact (canonical.leaf i old before below leaf held).2
    · exact (canonical.leaf place branch found below leaf held).2
  · rw [size, populated, canonical.size]
    split
    · rename_i present
      rw [Finset.insert_eq_of_mem (mem_populated.mpr present)]
    · rename_i absent
      rw [Finset.card_insert_of_notMem fun member => absent (mem_populated.mp member)]

end

/-- A branch that is kept after one of its leaves was replaced has something in it, and so have
    all of its leaves. -/
theorem populated_of_release {branch kept : Node (Node α)} {leaf : Node α} {replaced : Fin 256}
    (branchCounted : branch.Counted) (leafCounted : leaf.Counted)
    (leaves : ∀ j leaf, branch.get? j = some leaf → leaf.Populated)
    (released : release branch replaced leaf = some kept) :
    kept.Populated ∧ ∀ j leaf, kept.get? j = some leaf → leaf.Populated := by
  unfold release at released
  by_cases emptied : leaf.count = 0
  · by_cases bare : (branch.clear replaced).count = 0
    · simp [emptied, bare] at released
    · simp only [emptied, beq_self_eq_true, if_true, beq_iff_eq, bare, if_false,
        Option.some.injEq] at released
      subst released
      refine ⟨(branchCounted.clear replaced).populated bare, fun j below found => ?_⟩
      rw [Node.get?_clear] at found
      split at found
      · cases found
      · exact leaves j below found
  · simp only [beq_iff_eq, emptied, if_false, Option.some.injEq] at released
    subst released
    refine ⟨branchCounted.populated_put replaced leaf, fun j below found => ?_⟩
    rw [Node.get?_put] at found
    split at found
    · cases found
      exact leafCounted.populated emptied
    · exact leaves j below found

/-- Removing keeps a map canonical: whatever has become empty is gone. -/
theorem Canonical.remove (canonical : map.Canonical) (key : Nat) :
    (map.remove key).2.Canonical ∧ (map.remove key).1 = map.get? key ∧
      ∀ asked, (map.remove key).2.get? asked = if key = asked then none else map.get? asked := by
  obtain ⟨after, removed, -, size, reads⟩ := canonical.counted.remove_spec key
  have keys : after.populated = map.populated.erase key := by
    ext asked
    rw [Finset.mem_erase, mem_populated, mem_populated, reads]
    by_cases atKey : key = asked
    · simp [atKey]
    · simp [atKey, Ne.symm atKey]
  have card : after.size = after.populated.card := by
    rw [size, keys, canonical.size]
    split
    · rename_i present
      rw [Finset.card_erase_of_mem (mem_populated.mpr present)]
    · rename_i absent
      rw [Finset.erase_eq_of_notMem fun member => absent (mem_populated.mp member)]
  rw [removed]
  refine ⟨?_, rfl, reads⟩
  -- The count of an array is that of its keys, and removal takes away one key at most.
  obtain ⟨-, unchanged⟩ |
    ⟨i, j, k, branch, leaf, value, -, atBranch, atLeaf, -, -, changed⟩ := remove_cases map key
  · have same : map = after := (Prod.mk.inj (unchanged.symm.trans removed)).2
    exact same ▸ canonical
  · have same := (Prod.mk.inj (changed.symm.trans removed)).2
    subst same
    have kept := fun new => @populated_of_release α branch new (leaf.clear k) j
      (canonical.branch i branch atBranch).1
      ((canonical.leaf i branch atBranch j leaf atLeaf).1.clear k)
      (canonical.leaf i branch atBranch)
    refine ⟨fun place new found => ?_, fun place new found => ?_, card⟩
    · rw [branches_get] at found
      split at found
      · exact (kept new found).1
      · exact canonical.branch place new found
    · rw [branches_get] at found
      split at found
      · exact (kept new found).2
      · exact canonical.leaf place new found

/-- What a canonical map reads as determines it, node for node. -/
theorem Canonical.ext (canonical : map.Canonical) (otherCanonical : other.Canonical)
    (same : ∀ key, map.get? key = other.get? key) : map = other := by
  have slots : ∀ i j k, map.slot (i, j, k) = other.slot (i, j, k) := by
    intro i j k
    rw [← get?_join, ← get?_join, same]
  have branches : map.branches = other.branches := by
    apply Vector.ext
    intro place inside
    let i : Fin 256 := ⟨place, inside⟩
    change map.branches.get i = other.branches.get i
    -- A branch is read by leaf and slot, and a leaf by slot.
    refine eq_of_reads (fun branch (place : Fin 256 × Fin 256) =>
      (branch.get? place.1).bind (·.get? place.2)) (fun place => slots i place.1 place.2) ?_ ?_ ?_
    · exact fun _ found => canonical.exists_below found
    · exact fun _ found => otherCanonical.exists_below found
    · intro one two foundOne foundTwo reads
      apply (canonical.branch i one foundOne).1.ext (otherCanonical.branch i two foundTwo).1
      intro j
      refine eq_of_reads Node.get? (fun k => reads (j, k)) ?_ ?_ ?_
      · intro leaf held
        obtain ⟨k, value, read⟩ := (canonical.leaf i one foundOne j leaf held).exists_value
        exact ⟨k, by simp [read]⟩
      · intro leaf held
        obtain ⟨k, value, read⟩ := (otherCanonical.leaf i two foundTwo j leaf held).exists_value
        exact ⟨k, by simp [read]⟩
      · intro leaf second held heldSecond
        exact (canonical.leaf i one foundOne j leaf held).1.ext
          (otherCanonical.leaf i two foundTwo j second heldSecond).1
  have populated : map.populated = other.populated := by
    ext key
    rw [mem_populated, mem_populated, same]
  have size : map.size = other.size := by rw [canonical.size, otherCanonical.size, populated]
  cases map
  cases other
  simp_all

/-- A key that was not there and is removed after it was written leaves the map as it was. -/
theorem Canonical.remove_set (canonical : map.Canonical) (value : α) (inside : key < capacity)
    (fresh : map.get? key = none) :
    ∃ written, map.set key value = .ok (none, written) ∧
      written.remove key = (some value, map) := by
  obtain ⟨written, result, reads⟩ := map.set_spec value inside
  obtain ⟨removedCanonical, removed, removedReads⟩ := (canonical.set result).remove key
  refine ⟨written, by rw [result, fresh], Prod.ext ?_ ?_⟩
  · rw [removed, reads, if_pos rfl]
  · refine removedCanonical.ext canonical fun asked => ?_
    rw [removedReads, reads]
    split
    · rename_i same
      rw [← same, fresh]
    · rfl

/-- The leaves of a map, by the two bytes that lead to them. -/
def leaves (map : SparseMap α) : Finset (Fin 256 × Fin 256) :=
  Finset.univ.filter fun place => ((map.branches.get place.1).bind (·.get? place.2)).isSome

/-- The counts of the branches add up to the number of leaves. -/
theorem Counted.leafCount_eq (counted : map.Counted) : map.leafCount = map.leaves.card := by
  have tabulated : map.branches = Vector.ofFn map.branches.get := by
    apply Vector.ext
    intro place inside
    rw [Vector.getElem_ofFn]
    rfl
  have listed : map.branches.toList = List.ofFn map.branches.get :=
    (congrArg Vector.toList tabulated).trans Vector.toList_ofFn
  have summed : map.leafCount = ∑ i, ((map.branches.get i).map Node.count).getD 0 := by
    rw [leafCount, ← List.foldl_map, ← List.sum_eq_foldl, listed, List.map_ofFn, List.sum_ofFn]
    rfl
  have branch : ∀ i, ((map.branches.get i).map Node.count).getD 0 =
      ∑ j, if ((map.branches.get i).bind (·.get? j)).isSome then 1 else 0 := by
    intro i
    cases found : map.branches.get i with
    | none => exact (Finset.sum_eq_zero fun j _ => rfl).symm
    | some branch => exact (counted.branch i branch found).trans (Finset.card_filter _ _)
  rw [summed, leaves, Finset.card_filter, Fintype.sum_prod_type]
  exact Finset.sum_congr rfl fun i _ => branch i

/-- What is left of a key without its last byte, from the two bytes that lead to its leaf. -/
def heading (place : Fin 256 × Fin 256) : Nat := place.1 * 256 + place.2

/-- The two upper bytes of a key are known from their number. -/
theorem heading_injective : Function.Injective heading := by
  intro first second same
  simp only [heading] at same
  rw [Prod.ext_iff, Fin.ext_iff, Fin.ext_iff]
  omega

/-- That number is the key without its last byte. -/
theorem shiftRight_join (i j k : Fin 256) : join i j k >>> 8 = heading (i, j) := by
  simp only [join, heading, Nat.shiftRight_eq_div_pow]
  omega

/-- The keys of a canonical map lead to all of its leaves. -/
theorem Canonical.image_populated (canonical : map.Canonical) :
    map.populated.image (· >>> 8) = map.leaves.image heading := by
  ext number
  simp only [Finset.mem_image, mem_populated, leaves, Finset.mem_filter, Finset.mem_univ,
    true_and, Prod.exists]
  constructor
  · rintro ⟨key, present, rfl⟩
    obtain ⟨value, found⟩ := Option.isSome_iff_exists.mp present
    obtain ⟨i, j, k, leaf, rfl, atLeaf, -⟩ := get?_eq_some_iff.mp found
    exact ⟨i, j, Option.isSome_iff_exists.mpr ⟨leaf, atLeaf⟩, (shiftRight_join i j k).symm⟩
  · rintro ⟨i, j, present, rfl⟩
    obtain ⟨leaf, held⟩ := Option.isSome_iff_exists.mp present
    obtain ⟨branch, atBranch, atLeaf⟩ := Option.bind_eq_some_iff.mp held
    obtain ⟨k, value, read⟩ := (canonical.leaf i branch atBranch j leaf atLeaf).exists_value
    have found : map.get? (join i j k) = some value :=
      get?_eq_some_iff.mpr ⟨i, j, k, leaf, rfl, held, read⟩
    exact ⟨join i j k, Option.isSome_iff_exists.mpr ⟨value, found⟩, shiftRight_join i j k⟩

/-- There are as many leaves as there are different keys once their last byte is cut off. -/
theorem Canonical.leafCount_eq (canonical : map.Canonical) :
    map.leafCount = (map.populated.image (· >>> 8)).card := by
  rw [canonical.counted.leafCount_eq, canonical.image_populated,
    Finset.card_image_of_injective _ heading_injective]

namespace Operation

variable {ι : Type} [DecidableEq ι] {maps : ι → SparseMap α}

/-- An operation that writes or removes a key of a map. -/
def Changes (name : ι) (key : Nat) : Operation ι α → Prop
  | .set target written _ => target = name ∧ written = key
  | .remove target removed => target = name ∧ removed = key
  | .copy _ _ => False

/-- An operation leaves maps canonical. -/
theorem perform_canonical (canonical : ∀ name, (maps name).Canonical) (operation : Operation ι α)
    (name : ι) : ((operation.perform maps).2 name).Canonical := by
  have updated : ∀ {target changed}, changed.Canonical →
      (Function.update maps target changed name).Canonical := by
    intro target changed given
    by_cases same : name = target
    · subst same
      simpa using given
    · simpa [same] using canonical name
  cases operation with
  | set target key value =>
    rw [perform]
    cases written : (maps target).set key value with
    | ok result => exact updated ((canonical target).set written)
    | error error => exact canonical name
  | remove target key => exact updated ((canonical target).remove key).1
  | copy source target => exact updated (canonical source)

/-- Operations leave maps canonical, however many there are. -/
theorem inTurn_canonical (canonical : ∀ name, (maps name).Canonical)
    (operations : List (Operation ι α)) (name : ι) :
    ((inTurn perform maps operations).2 name).Canonical := by
  induction operations generalizing maps with
  | nil => exact canonical name
  | cons operation rest inductionHypothesis =>
    exact inductionHypothesis (perform_canonical canonical operation)

/-- A change of a key leaves other maps as they are, and other keys of its map. -/
theorem Changes.frame {operation : Operation ι α} {name : ι} {key : Nat}
    (changes : operation.Changes name key) (canonical : ∀ name, (maps name).Canonical) :
    (∀ other, other ≠ name → (operation.perform maps).2 other = maps other) ∧
      ∀ asked, asked ≠ key →
        ((operation.perform maps).2 name).get? asked = (maps name).get? asked := by
  cases operation with
  | set target written value =>
    obtain ⟨rfl, rfl⟩ := changes
    rw [perform]
    cases result : (maps target).set written value with
    | ok pair =>
      obtain ⟨previous, after⟩ := pair
      obtain ⟨-, -, reads⟩ := populated_set result
      refine ⟨fun other different => Function.update_of_ne different _ _, fun asked different => ?_⟩
      dsimp only
      rw [Function.update_self, reads, if_neg (Ne.symm different)]
    | error error => exact ⟨fun _ _ => rfl, fun _ _ => rfl⟩
  | remove target removed =>
    obtain ⟨rfl, rfl⟩ := changes
    obtain ⟨-, -, reads⟩ := (canonical target).remove removed
    refine ⟨fun other different => Function.update_of_ne different _ _, fun asked different => ?_⟩
    dsimp only [perform]
    rw [Function.update_self, reads, if_neg (Ne.symm different)]
  | copy source target => exact changes.elim

/-- What a change of a key answers, and what it makes of the value there, depends on that value
    alone. -/
theorem Changes.congr {operation : Operation ι α} {name : ι} {key : Nat}
    (changes : operation.Changes name key) {others : ι → SparseMap α}
    (canonical : ∀ name, (maps name).Canonical) (otherCanonical : ∀ name, (others name).Canonical)
    (same : (maps name).get? key = (others name).get? key) :
    (operation.perform maps).1 = (operation.perform others).1 ∧
      ((operation.perform maps).2 name).get? key =
        ((operation.perform others).2 name).get? key := by
  cases operation with
  | set target written value =>
    obtain ⟨rfl, rfl⟩ := changes
    by_cases inside : written < capacity
    · obtain ⟨one, result, reads⟩ := (maps target).set_spec value inside
      obtain ⟨two, otherResult, otherReads⟩ := (others target).set_spec value inside
      simp only [perform, result, otherResult, same, Function.update_self, reads, otherReads,
        if_true, and_self]
    · have refused : ∀ map : SparseMap α,
          map.set written value = .error (.keyOutOfRange written) := by
        intro map
        rw [SparseMap.set, split_of_not_lt inside]
      simp only [perform, refused, same, and_self]
  | remove target removed =>
    obtain ⟨rfl, rfl⟩ := changes
    obtain ⟨-, answer, reads⟩ := (canonical target).remove removed
    obtain ⟨-, otherAnswer, otherReads⟩ := (otherCanonical target).remove removed
    simp only [perform, answer, otherAnswer, same, Function.update_self, reads, otherReads,
      if_true, and_self]
  | copy source target => exact changes.elim

/-- Changes of different keys of a map may be exchanged: the maps come out the same, and both
    changes answer the same in either order. -/
theorem Changes.commute {first second : Operation ι α} {name : ι} {key other : Nat}
    (changes : first.Changes name key) (otherChanges : second.Changes name other)
    (different : key ≠ other) (canonical : ∀ name, (maps name).Canonical) :
    (second.perform (first.perform maps).2).2 = (first.perform (second.perform maps).2).2 ∧
      (second.perform (first.perform maps).2).1 = (second.perform maps).1 ∧
      (first.perform (second.perform maps).2).1 = (first.perform maps).1 := by
  have firstCanonical := perform_canonical canonical first
  have secondCanonical := perform_canonical canonical second
  obtain ⟨firstElsewhere, firstApart⟩ := changes.frame canonical
  obtain ⟨secondElsewhere, secondApart⟩ := otherChanges.frame canonical
  obtain ⟨firstAgainElsewhere, firstAgainApart⟩ := changes.frame secondCanonical
  obtain ⟨secondAgainElsewhere, secondAgainApart⟩ := otherChanges.frame firstCanonical
  -- Each change finds its key as if the other one had not been made.
  obtain ⟨firstAnswer, atKey⟩ :=
    changes.congr secondCanonical canonical (secondApart key different)
  obtain ⟨secondAnswer, atOther⟩ :=
    otherChanges.congr firstCanonical canonical (firstApart other (Ne.symm different))
  refine ⟨funext fun asked => ?_, secondAnswer, firstAnswer⟩
  by_cases atName : asked = name
  · subst atName
    refine (perform_canonical firstCanonical second asked).ext
      (perform_canonical secondCanonical first asked) fun read => ?_
    by_cases readKey : read = key
    · subst readKey
      rw [secondAgainApart read different, atKey]
    · by_cases readOther : read = other
      · subst readOther
        rw [firstAgainApart read readKey, atOther]
      · rw [secondAgainApart read readOther, firstApart read readKey, firstAgainApart read readKey,
          secondApart read readOther]
  · rw [secondAgainElsewhere asked atName, firstElsewhere asked atName,
      firstAgainElsewhere asked atName, secondElsewhere asked atName]

/-- Whatever is done with any number of sparse maps that are empty at first, no level of them
    stands empty and all counts are right, so there are as many leaves as different keys without
    their last byte. Maps that read the same are the same tree, whatever was done to get there. A
    new key that is written and removed again leaves no trace, and changes of different keys may
    be exchanged. -/
theorem shape_of_contents (operations others : List (Operation ι α)) :
    let maps := (inTurn perform (fun _ => SparseMap.empty) operations).2
    let rivals := (inTurn perform (fun _ => SparseMap.empty) others).2
    (∀ name,
      (∀ i branch, (maps name).branches.get i = some branch →
        (0 < branch.filled.card ∧ branch.count = branch.filled.card) ∧
        ∀ j leaf, branch.get? j = some leaf →
          0 < leaf.filled.card ∧ leaf.count = leaf.filled.card) ∧
      (maps name).size = (maps name).populated.card ∧
      (maps name).leafCount = ((maps name).populated.image (· >>> 8)).card) ∧
    (∀ name rival, (∀ key, (maps name).get? key = (rivals rival).get? key) →
      maps name = rivals rival) ∧
    (∀ name key value, key < capacity → (maps name).get? key = none →
      ∃ written, (maps name).set key value = .ok (none, written) ∧
        written.remove key = (some value, maps name)) ∧
    ∀ (first second : Operation ι α) name key other, first.Changes name key →
      second.Changes name other → key ≠ other →
      (second.perform (first.perform maps).2).2 = (first.perform (second.perform maps).2).2 ∧
      (second.perform (first.perform maps).2).1 = (second.perform maps).1 ∧
      (first.perform (second.perform maps).2).1 = (first.perform maps).1 := by
  intro maps rivals
  have canonical : ∀ name, (maps name).Canonical :=
    inTurn_canonical (fun _ => canonical_empty) operations
  have rivalCanonical : ∀ name, (rivals name).Canonical :=
    inTurn_canonical (fun _ => canonical_empty) others
  have full : ∀ {β : Type} {node : Node β}, node.Populated →
      0 < node.filled.card ∧ node.count = node.filled.card :=
    fun populated => ⟨Finset.card_pos.mpr populated.2, populated.1⟩
  refine ⟨fun name => ⟨fun i branch found => ⟨?_, fun j leaf held => ?_⟩, ?_, ?_⟩, ?_, ?_, ?_⟩
  · exact full ((canonical name).branch i branch found)
  · exact full ((canonical name).leaf i branch found j leaf held)
  · exact (canonical name).size
  · exact (canonical name).leafCount_eq
  · exact fun name rival same => (canonical name).ext (rivalCanonical rival) same
  · exact fun name key value inside fresh => (canonical name).remove_set value inside fresh
  · intro first second name key other changes otherChanges different
    exact changes.commute otherChanges different canonical

end Operation

end SparseMap

end LateBinding
