import LateBinding.Proofs.SparseShape

/-!
# The list of a sparse map

Listing a sparse map goes through branches, leaves and slots in turn and skips what is absent, and
makes each key again from the three places it was found at. Each step down stays below the next
place of the level above, so the keys ascend. What is listed is what the map reads as, and it is
enough to make the map again: the entries can be written into an empty map in any order.
-/

namespace LateBinding

namespace Node

variable {α : Type} {node : Node α}

/-- A node lists the slots that are filled. -/
@[simp] theorem mem_toList {slot : Fin 256} {value : α} :
    (slot, value) ∈ node.toList ↔ node.get? slot = some value := by
  simp only [toList, List.mem_filterMap, List.mem_finRange, true_and, Option.map_eq_some_iff,
    Prod.mk.injEq]
  constructor
  · rintro ⟨_, _, found, rfl, rfl⟩
    exact found
  · intro found
    exact ⟨slot, value, found, rfl, rfl⟩

/-- A node lists its slots in ascending order. -/
theorem pairwise_toList (node : Node α) :
    node.toList.Pairwise fun first second => first.1 < second.1 := by
  rw [toList, List.pairwise_filterMap]
  apply (List.pairwise_lt_finRange 256).imp
  intro first second below one atFirst two atSecond
  obtain ⟨_, -, rfl⟩ := Option.map_eq_some_iff.mp atFirst
  obtain ⟨_, -, rfl⟩ := Option.map_eq_some_iff.mp atSecond
  exact below

end Node

namespace SparseMap

variable {α : Type} {map : SparseMap α} {key : Nat} {value : α}

/-- The leaves below a branch with their places, in ascending order. -/
def leavesBelow (map : SparseMap α) (i : Fin 256) : List (Fin 256 × Node α) :=
  ((map.branches.get i).map Node.toList).getD []

/-- The leaves below a branch are those that can be read there. -/
theorem mem_leavesBelow {i j : Fin 256} {leaf : Node α} :
    (j, leaf) ∈ map.leavesBelow i ↔ (map.branches.get i).bind (·.get? j) = some leaf := by
  cases found : map.branches.get i <;> simp [leavesBelow, found]

/-- They are in order. -/
theorem pairwise_leavesBelow (map : SparseMap α) (i : Fin 256) :
    (map.leavesBelow i).Pairwise fun first second => first.1 < second.1 := by
  cases found : map.branches.get i with
  | none => simp [leavesBelow, found]
  | some branch => simpa [leavesBelow, found] using branch.pairwise_toList

/-- The listing goes through branches, leaves and slots in order. -/
theorem toList_eq (map : SparseMap α) :
    map.toList = (List.finRange 256).flatMap fun i => (map.leavesBelow i).flatMap fun below =>
      below.2.toList.map fun held => (join i below.1 held.1, held.2) := rfl

/-- A map lists the keys that are there, with their values. -/
theorem mem_toList : (key, value) ∈ map.toList ↔ map.get? key = some value := by
  simp only [toList_eq, List.mem_flatMap, List.mem_finRange, true_and, List.mem_map,
    Prod.exists, Prod.mk.injEq, mem_leavesBelow, Node.mem_toList, get?_eq_some_iff]
  constructor
  · rintro ⟨i, j, leaf, atLeaf, k, _, found, rfl, rfl⟩
    exact ⟨i, j, k, leaf, rfl, atLeaf, found⟩
  · rintro ⟨i, j, k, leaf, rfl, atLeaf, found⟩
    exact ⟨i, j, leaf, atLeaf, k, value, found, rfl, rfl⟩

/-- A map lists its keys in ascending order. -/
theorem pairwise_toList (map : SparseMap α) :
    map.toList.Pairwise fun first second => first.1 < second.1 := by
  rw [toList_eq, List.pairwise_flatMap]
  constructor
  · intro i _
    rw [List.pairwise_flatMap]
    constructor
    · rintro ⟨j, leaf⟩ -
      rw [List.pairwise_map]
      apply leaf.pairwise_toList.imp
      intro first second below
      simp only [join]
      omega
    · apply (map.pairwise_leavesBelow i).imp
      rintro ⟨j, leaf⟩ ⟨other, second⟩ below entry listed later listedLater
      obtain ⟨⟨k, _⟩, -, rfl⟩ := List.mem_map.mp listed
      obtain ⟨⟨l, _⟩, -, rfl⟩ := List.mem_map.mp listedLater
      simp only [join]
      dsimp only at below
      omega
  · apply (List.pairwise_lt_finRange 256).imp
    intro first second below entry listed later listedLater
    obtain ⟨⟨j, _⟩, -, found⟩ := List.mem_flatMap.mp listed
    obtain ⟨⟨k, _⟩, -, rfl⟩ := List.mem_map.mp found
    obtain ⟨⟨l, _⟩, -, foundLater⟩ := List.mem_flatMap.mp listedLater
    obtain ⟨⟨m, _⟩, -, rfl⟩ := List.mem_map.mp foundLater
    simp only [join]
    omega

/-- The keys that a map lists are different. -/
theorem nodup_keys (map : SparseMap α) : (map.toList.map Prod.fst).Nodup :=
  (List.pairwise_map.mpr map.pairwise_toList).imp Nat.ne_of_lt

/-- A map lists as many keys as it counts. -/
theorem Canonical.length_toList (canonical : map.Canonical) : map.toList.length = map.size := by
  have keys : (map.toList.map Prod.fst).toFinset = map.populated := by
    ext key
    simp only [List.mem_toFinset, List.mem_map, Prod.exists, exists_and_right, exists_eq_right,
      mem_toList, mem_populated, Option.isSome_iff_exists]
  rw [canonical.size, ← keys, List.toFinset_card_of_nodup map.nodup_keys, List.length_map]

/-- The map with an entry written into it. -/
def write (map : SparseMap α) (entry : Nat × α) : Except Error (SparseMap α) :=
  (map.set entry.1 entry.2).map Prod.snd

/-- The map that comes of writing entries into an empty one, in order. -/
def ofList (entries : List (Nat × α)) : Except Error (SparseMap α) :=
  entries.foldlM write empty

/-- Entries with different keys can be written into a canonical map one after the other. The map
    has them afterwards, and what it had at other keys. -/
theorem Canonical.foldlM_write (canonical : map.Canonical) (entries : List (Nat × α))
    (distinct : (entries.map Prod.fst).Nodup) (inside : ∀ entry ∈ entries, entry.1 < capacity) :
    ∃ written, entries.foldlM write map = .ok written ∧ written.Canonical ∧
      ∀ key value, written.get? key = some value ↔
        (key, value) ∈ entries ∨ key ∉ entries.map Prod.fst ∧ map.get? key = some value := by
  induction entries generalizing map with
  | nil => exact ⟨map, rfl, canonical, by simp⟩
  | cons entry rest inductionHypothesis =>
    obtain ⟨place, held⟩ := entry
    rw [List.map_cons, List.nodup_cons] at distinct
    obtain ⟨next, result, reads⟩ := map.set_spec held (inside _ List.mem_cons_self)
    obtain ⟨written, rest_eq, writtenCanonical, answers⟩ :=
      inductionHypothesis (canonical.set result) distinct.2 fun other member =>
        inside other (List.mem_cons_of_mem _ member)
    refine ⟨written, ?_, writtenCanonical, fun key value => ?_⟩
    · rw [List.foldlM_cons, write, result]
      exact rest_eq
    · rw [answers, reads]
      by_cases same : place = key
      · subst same
        have later : (place, value) ∉ rest := fun member =>
          distinct.1 (List.mem_map.mpr ⟨_, member, rfl⟩)
        simp [distinct.1, later, eq_comm]
      · simp [same, Ne.symm same]

/-- The entries of a canonical map make the map again, in whatever order they are written. -/
theorem Canonical.ofList_eq (canonical : map.Canonical) {entries : List (Nat × α)}
    (listed : entries.Perm map.toList) : ofList entries = .ok map := by
  have distinct : (entries.map Prod.fst).Nodup :=
    (listed.map Prod.fst).nodup_iff.mpr map.nodup_keys
  have inside : ∀ entry ∈ entries, entry.1 < capacity := fun entry member =>
    lt_capacity_of_get? (mem_toList.mp (listed.mem_iff.mp member))
  obtain ⟨written, result, writtenCanonical, answers⟩ :=
    canonical_empty.foldlM_write entries distinct inside
  have same : ∀ key, written.get? key = map.get? key := by
    intro key
    apply Option.ext
    intro value
    rw [answers, listed.mem_iff, mem_toList]
    simp [get?_empty]
  rw [ofList, result, writtenCanonical.ext canonical same]

namespace Operation

variable {ι : Type} [DecidableEq ι]

/-- Whatever is done with any number of sparse maps that are empty at first, each of them lists
    the keys at which it has a value, with that value, in strictly ascending order, so that there
    are as many entries as it counts keys; and its entries make it again when they are written
    into an empty map in any order. -/
theorem sorted_contents (operations : List (Operation ι α)) (name : ι) :
    let map := (inTurn perform (fun _ => SparseMap.empty) operations).2 name
    (∀ key value, (key, value) ∈ map.toList ↔ map.get? key = some value) ∧
      map.toList.Pairwise (fun first second => first.1 < second.1) ∧
      map.toList.length = map.size ∧
      ∀ entries : List (Nat × α), entries.Perm map.toList → ofList entries = .ok map := by
  intro map
  have canonical : map.Canonical := inTurn_canonical (fun _ => canonical_empty) operations name
  refine ⟨fun key value => mem_toList, map.pairwise_toList, canonical.length_toList, ?_⟩
  exact fun entries listed => canonical.ofList_eq listed

end Operation

end SparseMap

end LateBinding
