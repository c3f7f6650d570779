import LateBinding.Proofs.SparseMap
import Mathlib.Data.Finmap
import Mathlib.Data.Fintype.Card

/-!
# Sparse maps are finite maps

A sparse map stands for the finite map of its populated keys. Writing a key is inserting it,
removing it is erasing it, and copying a map is copying the finite map, in any number of maps
at once. What each operation answers is what the finite map answers.

The counts decide which levels are released, so removing is right only while every count is
the number of filled slots: a leaf whose count has come to nothing has nothing in it. The
same fact keeps the counts from running below nothing, since a slot that is cleared was
counted.
-/

namespace LateBinding

namespace Node

variable {α : Type} {node : Node α} {slot : Fin 256}

/-- The filled slots of a node. -/
def filled (node : Node α) : Finset (Fin 256) :=
  Finset.univ.filter fun slot => (node.get? slot).isSome

/-- The count of a node is the number of its filled slots. -/
def Counted (node : Node α) : Prop := node.count = node.filled.card

/-- A slot is filled if something can be read there. -/
@[simp] theorem mem_filled : slot ∈ node.filled ↔ (node.get? slot).isSome := by
  simp [filled]

/-- A slot that has been cleared is empty. -/
theorem get?_clear (node : Node α) (cleared read : Fin 256) :
    (node.clear cleared).get? read = if cleared = read then none else node.get? read := by
  simp only [get?, clear, Fin.getElem_fin, Vector.getElem_set, Fin.val_inj]

/-- Putting a value fills one slot. -/
theorem filled_put (node : Node α) (slot : Fin 256) (value : α) :
    (node.put slot value).filled = insert slot node.filled := by
  ext other
  rw [Finset.mem_insert, mem_filled, mem_filled, get?_put]
  by_cases same : slot = other
  · simp [same]
  · simp [same, Ne.symm same]

/-- Clearing empties one. -/
theorem filled_clear (node : Node α) (slot : Fin 256) :
    (node.clear slot).filled = node.filled.erase slot := by
  ext other
  rw [Finset.mem_erase, mem_filled, mem_filled, get?_clear]
  by_cases same : slot = other
  · simp [same]
  · simp [same, Ne.symm same]

/-- An empty node counts nothing. -/
theorem counted_empty : (empty : Node α).Counted := by
  have nothing : (empty : Node α).filled = ∅ := by
    ext slot
    simp [get?_empty]
  rw [Counted, nothing]
  rfl

/-- The count of a node goes up when an empty slot is filled. -/
theorem Counted.put (counted : node.Counted) (slot : Fin 256) (value : α) :
    (node.put slot value).Counted := by
  rw [Counted, filled_put, Node.put]
  dsimp only
  split
  · rename_i there
    rw [Finset.insert_eq_of_mem (mem_filled.mpr there), counted]
  · rename_i vacant
    rw [Finset.card_insert_of_notMem (fun member => vacant (mem_filled.mp member)), counted]

/-- It goes down when a filled one is cleared. -/
theorem Counted.clear (counted : node.Counted) (slot : Fin 256) : (node.clear slot).Counted := by
  rw [Counted, filled_clear, Node.clear]
  dsimp only
  split
  · rename_i there
    rw [Finset.card_erase_of_mem (mem_filled.mpr there), counted]
  · rename_i vacant
    rw [Finset.erase_eq_of_notMem (fun member => vacant (mem_filled.mp member)), counted]

/-- A node with a value in it has a count. -/
theorem Counted.pos (counted : node.Counted) {value : α} (found : node.get? slot = some value) :
    0 < node.count := by
  rw [counted]
  exact Finset.card_pos.mpr ⟨slot, mem_filled.mpr (by rw [found]; rfl)⟩

/-- A node without a count has nothing in it. -/
theorem Counted.get?_of_zero (counted : node.Counted) (zero : node.count = 0) (slot : Fin 256) :
    node.get? slot = none := by
  cases found : node.get? slot with
  | none => rfl
  | some value => exact absurd zero (Nat.ne_of_gt (counted.pos found))

end Node

namespace SparseMap

variable {α : Type} {map : SparseMap α} {key : Nat}

/-- The counts of all levels are right. -/
structure Counted (map : SparseMap α) : Prop where
  branch : ∀ i branch, map.branches.get i = some branch → branch.Counted
  leaf : ∀ i branch, map.branches.get i = some branch →
    ∀ j leaf, branch.get? j = some leaf → leaf.Counted

/-- An empty map counts nothing. -/
theorem counted_empty : (empty : SparseMap α).Counted := by
  have vacant : ∀ i, (empty : SparseMap α).branches.get i = none := by
    intro i
    simp [empty, Vector.get]
  constructor
  · intro i branch found
    rw [vacant] at found
    cases found
  · intro i branch found
    rw [vacant] at found
    cases found

/-- A branch with right counts can take the place of another. -/
theorem Counted.replace (counted : map.Counted) {i : Fin 256} {branch : Option (Node (Node α))}
    {size : Nat} (ownCount : ∀ new, branch = some new → new.Counted)
    (leafCount : ∀ new, branch = some new → ∀ j leaf, new.get? j = some leaf → leaf.Counted) :
    (⟨map.branches.setIfInBounds i branch, size⟩ : SparseMap α).Counted := by
  constructor
  · intro other new found
    rw [branches_get] at found
    split at found
    · exact ownCount new found
    · exact counted.branch other new found
  · intro other new found
    rw [branches_get] at found
    split at found
    · exact leafCount new found
    · exact counted.leaf other new found

/-- What writing a key makes of a map. -/
theorem set_eq_ok {value : α} {previous : Option α} {after : SparseMap α}
    (written : map.set key value = .ok (previous, after)) :
    ∃ i j k, split key = some (i, j, k) ∧
      (let branch := (map.branches.get i).getD .empty
       let leaf := (branch.get? j).getD .empty
       after.branches = map.branches.setIfInBounds i (some (branch.put j (leaf.put k value)))) ∧
      after.size = if previous.isSome then map.size else map.size + 1 := by
  unfold set at written
  cases bytes : split key with
  | none =>
    rw [bytes] at written
    cases written
  | some found =>
    obtain ⟨i, j, k⟩ := found
    rw [bytes] at written
    cases written
    exact ⟨i, j, k, rfl, rfl, rfl⟩

/-- Writing keeps the counts right: the levels that are missing are made empty, and counted as
    such. -/
theorem Counted.set (counted : map.Counted) {value : α} {previous : Option α}
    {after : SparseMap α} (written : map.set key value = .ok (previous, after)) :
    after.Counted := by
  obtain ⟨i, j, k, -, branches, -⟩ := set_eq_ok written
  let branch := (map.branches.get i).getD .empty
  let leaf := (branch.get? j).getD .empty
  have branchCounted : branch.Counted := by
    cases found : map.branches.get i with
    | none => simpa [branch, found] using Node.counted_empty
    | some old => simpa [branch, found] using counted.branch i old found
  have leavesCounted : ∀ slot below, branch.get? slot = some below → below.Counted := by
    intro slot below
    cases found : map.branches.get i with
    | none => simp [branch, found, Node.get?_empty]
    | some old => simpa [branch, found] using counted.leaf i old found slot below
  have leafCounted : leaf.Counted := by
    cases found : branch.get? j with
    | none => simpa [leaf, found] using Node.counted_empty
    | some old => simpa [leaf, found] using leavesCounted j old found
  have shape : after =
      ⟨map.branches.setIfInBounds i (some (branch.put j (leaf.put k value))), after.size⟩ := by
    rw [← branches]
  rw [shape]
  refine counted.replace ?_ ?_
  · intro new same
    cases same
    exact branchCounted.put j _
  · intro new same slot below found
    cases same
    rw [Node.get?_put] at found
    split at found
    · cases found
      exact leafCounted.put k value
    · exact leavesCounted slot below found

/-- A branch with a leaf replaced reads as the new leaf there and as before elsewhere, also
    if the leaf, or the branch with it, is released. -/
theorem release_get? {branch : Node (Node α)} {leaf : Node α} (branchCounted : branch.Counted)
    (leafCounted : leaf.Counted) (replaced read slot : Fin 256) :
    ((release branch replaced leaf).bind fun kept => (kept.get? read).bind (·.get? slot)) =
      if replaced = read then leaf.get? slot else (branch.get? read).bind (·.get? slot) := by
  unfold release
  by_cases emptied : leaf.count = 0
  · have nothing := leafCounted.get?_of_zero emptied slot
    have rest := Node.get?_clear branch replaced read
    simp only [emptied, beq_self_eq_true, if_true]
    by_cases bare : (branch.clear replaced).count = 0
    · -- No other leaf is left, so whatever is read below the branch is missing.
      have gone := (branchCounted.clear replaced).get?_of_zero bare read
      rw [gone] at rest
      simp only [bare, beq_self_eq_true, if_true, Option.bind_none]
      by_cases same : replaced = read
      · rw [if_pos same, nothing]
      · rw [if_neg same] at rest
        rw [if_neg same, ← rest, Option.bind_none]
    · simp only [beq_iff_eq, bare, if_false, Option.bind_some, rest]
      by_cases same : replaced = read
      · rw [if_pos same, if_pos same, nothing, Option.bind_none]
      · rw [if_neg same, if_neg same]
  · simp only [beq_iff_eq, emptied, if_false, Option.bind_some, Node.get?_put]
    by_cases same : replaced = read
    · rw [if_pos same, if_pos same, Option.bind_some]
    · rw [if_neg same, if_neg same]

/-- What is kept of a branch is the branch without the leaf or with the leaf replaced. -/
theorem release_eq_some {branch kept : Node (Node α)} {leaf : Node α} {replaced : Fin 256}
    (released : release branch replaced leaf = some kept) :
    kept = branch.clear replaced ∨ kept = branch.put replaced leaf := by
  unfold release at released
  split at released
  · dsimp only at released
    split at released
    · cases released
    · exact .inl (Option.some.inj released).symm
  · exact .inr (Option.some.inj released).symm

/-- Removing a key finds nothing and does nothing, or it finds the value on the way through a
    branch and a leaf and clears its slot. -/
theorem remove_cases (map : SparseMap α) (key : Nat) :
    (map.get? key = none ∧ map.remove key = (none, map)) ∨
    ∃ i j k branch leaf value, split key = some (i, j, k) ∧
      map.branches.get i = some branch ∧ branch.get? j = some leaf ∧ leaf.get? k = some value ∧
      map.get? key = some value ∧
      map.remove key = (some value,
        ⟨map.branches.setIfInBounds i (release branch j (leaf.clear k)), map.size - 1⟩) := by
  unfold remove
  rw [get?_eq_slot]
  cases split key with
  | none => exact .inl ⟨rfl, rfl⟩
  | some bytes =>
    obtain ⟨i, j, k⟩ := bytes
    simp only [Option.bind_some, slot]
    cases atBranch : map.branches.get i with
    | none => exact .inl ⟨rfl, rfl⟩
    | some branch =>
      simp only [Option.bind_some]
      cases atLeaf : branch.get? j with
      | none => exact .inl ⟨rfl, rfl⟩
      | some leaf =>
        simp only [Option.bind_some]
        cases atSlot : leaf.get? k with
        | none => exact .inl ⟨rfl, rfl⟩
        | some value =>
          exact .inr ⟨i, j, k, branch, leaf, value, rfl, atBranch, atLeaf, atSlot, rfl, rfl⟩

section

variable {i j k : Fin 256} {branch : Node (Node α)} {leaf : Node α} {size : Nat}

/-- Clearing a slot keeps the counts right, whatever levels are released. -/
theorem Counted.release (counted : map.Counted) (atBranch : map.branches.get i = some branch)
    (atLeaf : branch.get? j = some leaf) :
    (⟨map.branches.setIfInBounds i (SparseMap.release branch j (leaf.clear k)), size⟩ :
      SparseMap α).Counted := by
  have branchCounted := counted.branch i branch atBranch
  have leavesCounted := counted.leaf i branch atBranch
  refine counted.replace ?_ ?_
  · intro kept released
    rcases release_eq_some released with rfl | rfl
    · exact branchCounted.clear j
    · exact branchCounted.put j _
  · intro kept released read below found
    rcases release_eq_some released with rfl | rfl
    · rw [Node.get?_clear] at found
      split at found
      · cases found
      · exact leavesCounted read below found
    · rw [Node.get?_put] at found
      split at found
      · cases found
        exact (leavesCounted j leaf atLeaf).clear k
      · exact leavesCounted read below found

/-- Clearing a slot changes that slot and no other, whatever levels are released. -/
theorem Counted.slot_release (counted : map.Counted) (atBranch : map.branches.get i = some branch)
    (atLeaf : branch.get? j = some leaf) (bytes : Fin 256 × Fin 256 × Fin 256) :
    slot ⟨map.branches.setIfInBounds i (SparseMap.release branch j (leaf.clear k)), size⟩ bytes =
      if (i, j, k) = bytes then none else map.slot bytes := by
  obtain ⟨i', j', k'⟩ := bytes
  have branchCounted := counted.branch i branch atBranch
  have leafCounted := (counted.leaf i branch atBranch j leaf atLeaf).clear k
  simp only [slot, branches_get]
  by_cases sameBranch : i = i'
  · subst sameBranch
    rw [if_pos rfl, release_get? branchCounted leafCounted, atBranch]
    by_cases sameLeaf : j = j'
    · subst sameLeaf
      simp [Node.get?_clear, atLeaf]
    · simp [sameLeaf]
  · simp [sameBranch]

end

/-- Two keys are the same exactly if their bytes are. -/
theorem eq_iff_of_split {other : Nat} {bytes others : Fin 256 × Fin 256 × Fin 256}
    (keyBytes : split key = some bytes) (otherBytes : split other = some others) :
    key = other ↔ bytes = others := by
  constructor
  · rintro rfl
    exact Option.some.inj (keyBytes.symm.trans otherBytes)
  · rintro rfl
    refine split_injective ?_ (keyBytes.trans otherBytes.symm)
    by_contra outside
    cases keyBytes.symm.trans (split_of_not_lt outside)

/-- Removing a key gives back what it read as. Afterwards it is not populated, every other key
    reads as before, and the counts are right. -/
theorem Counted.remove_spec (counted : map.Counted) (key : Nat) :
    ∃ after, map.remove key = (map.get? key, after) ∧ after.Counted ∧
      after.size = (if (map.get? key).isSome then map.size - 1 else map.size) ∧
      ∀ other, after.get? other = if key = other then none else map.get? other := by
  obtain ⟨absent, removed⟩ |
    ⟨i, j, k, branch, leaf, value, bytes, atBranch, atLeaf, -, found, removed⟩ :=
    remove_cases map key
  · refine ⟨map, by rw [removed, absent], counted, by simp [absent], fun other => ?_⟩
    by_cases same : key = other
    · rw [if_pos same, ← same, absent]
    · rw [if_neg same]
  · refine ⟨_, by rw [removed, found], counted.release atBranch atLeaf, by simp [found], ?_⟩
    intro other
    rw [get?_eq_slot, get?_eq_slot map other]
    cases otherBytes : split other with
    | none => simp
    | some others =>
      rw [Option.bind_some, Option.bind_some, counted.slot_release atBranch atLeaf]
      simp only [eq_iff_of_split bytes otherBytes]

/-- A finite map, by its keys. -/
abbrev Contents (α : Type) := Finmap fun _ : Nat => α

/-- A sparse map stands for a finite map: it reads the same at every key, has as many keys,
    and keeps its counts right. -/
structure Represents (map : SparseMap α) (contents : Contents α) : Prop where
  counted : map.Counted
  reads : ∀ key, map.get? key = contents.lookup key
  size : map.size = contents.keys.card

variable {contents : Contents α}

/-- An empty map represents an empty one. -/
theorem represents_empty : (empty : SparseMap α).Represents ∅ where
  counted := counted_empty
  reads key := by rw [get?_empty, Finmap.lookup_empty]
  size := rfl

namespace Represents

/-- Populated keys have 24 bits. -/
theorem lt_capacity (represents : map.Represents contents) (member : key ∈ contents) :
    key < capacity := by
  by_contra outside
  have absent := map.get?_of_not_lt outside
  rw [represents.reads] at absent
  exact Finmap.lookup_eq_none.mp absent member

/-- A key is contained if it is a key of what is represented. -/
theorem contains_iff (represents : map.Represents contents) :
    map.contains key = true ↔ key ∈ contents := by
  rw [contains, represents.reads, Finmap.lookup_isSome]

/-- A map is empty if what it represents is. -/
theorem isEmpty_iff (represents : map.Represents contents) :
    map.isEmpty = true ↔ contents = ∅ := by
  rw [isEmpty, beq_iff_eq, represents.size, Finset.card_eq_zero]
  constructor
  · intro keyless
    refine Finmap.ext_lookup fun key => ?_
    rw [Finmap.lookup_empty, Finmap.lookup_eq_none, ← Finmap.mem_keys, keyless]
    exact Finset.notMem_empty key
  · rintro rfl
    rfl

/-- Writing a key of 24 bits inserts it. -/
theorem set (represents : map.Represents contents) (value : α) (inside : key < capacity) :
    ∃ written, map.set key value = .ok (contents.lookup key, written) ∧
      written.Represents (contents.insert key value) := by
  obtain ⟨written, result, reads⟩ := map.set_spec value inside
  obtain ⟨-, -, -, -, -, size⟩ := set_eq_ok result
  refine ⟨written, by rw [result, represents.reads], represents.counted.set result, ?_, ?_⟩
  · intro other
    rw [reads, represents.reads]
    by_cases same : key = other
    · subst same
      rw [if_pos rfl, Finmap.lookup_insert]
    · rw [if_neg same, Finmap.lookup_insert_of_ne _ (Ne.symm same)]
  · have keys : (contents.insert key value).keys = insert key contents.keys := by
      ext other
      simp only [Finmap.mem_keys, Finmap.mem_insert, Finset.mem_insert]
    rw [size, represents.reads, represents.size, keys]
    by_cases member : key ∈ contents
    · rw [if_pos (Finmap.lookup_isSome.mpr member),
        Finset.insert_eq_of_mem (Finmap.mem_keys.mpr member)]
    · rw [if_neg fun there => member (Finmap.lookup_isSome.mp there),
        Finset.card_insert_of_notMem fun there => member (Finmap.mem_keys.mp there)]

/-- Removing a key erases it. -/
theorem remove (represents : map.Represents contents) (key : Nat) :
    ∃ rest, map.remove key = (contents.lookup key, rest) ∧
      rest.Represents (contents.erase key) := by
  obtain ⟨rest, removed, counted, size, reads⟩ := represents.counted.remove_spec key
  refine ⟨rest, by rw [removed, represents.reads], counted, ?_, ?_⟩
  · intro other
    rw [reads, represents.reads]
    by_cases same : key = other
    · subst same
      rw [if_pos rfl, Finmap.lookup_erase]
    · rw [if_neg same, Finmap.lookup_erase_ne (Ne.symm same)]
  · rw [size, represents.reads, represents.size, Finmap.keys_erase]
    by_cases member : key ∈ contents
    · rw [if_pos (Finmap.lookup_isSome.mpr member),
        Finset.card_erase_of_mem (Finmap.mem_keys.mpr member)]
    · rw [if_neg fun there => member (Finmap.lookup_isSome.mp there),
        Finset.erase_eq_of_notMem fun there => member (Finmap.mem_keys.mp there)]

/-- While a key is populated, every count that its removal lowers is positive. -/
theorem counts_pos (represents : map.Represents contents) {i j k : Fin 256}
    {branch : Node (Node α)} {leaf : Node α} {value : α} (bytes : split key = some (i, j, k))
    (atBranch : map.branches.get i = some branch) (atLeaf : branch.get? j = some leaf)
    (atSlot : leaf.get? k = some value) :
    0 < leaf.count ∧ 0 < branch.count ∧ 0 < map.size := by
  have read : map.get? key = some value := by
    simp [get?_eq_slot, bytes, slot, atBranch, atLeaf, atSlot]
  rw [represents.reads] at read
  refine ⟨(represents.counted.leaf i branch atBranch j leaf atLeaf).pos atSlot,
    (represents.counted.branch i branch atBranch).pos atLeaf, ?_⟩
  rw [represents.size]
  exact Finset.card_pos.mpr ⟨key, Finmap.mem_keys.mpr (Finmap.mem_of_lookup_eq_some read)⟩

end Represents

/-- An operation on one of several maps, which are known by names. -/
inductive Operation (ι α : Type) where
  | set (name : ι) (key : Nat) (value : α)
  | remove (name : ι) (key : Nat)
  /-- Makes one map an independent copy of another. -/
  | copy (source target : ι)

/-- What an operation answers. -/
inductive Reply (α : Type) where
  | set (previous : Except Error (Option α))
  | remove (previous : Option α)
  | copy

namespace Operation

variable {ι : Type} [DecidableEq ι]

/-- Performs an operation on sparse maps. -/
def perform (maps : ι → SparseMap α) : Operation ι α → Reply α × (ι → SparseMap α)
  | .set name key value =>
    match (maps name).set key value with
    | .ok (previous, written) => (.set (.ok previous), Function.update maps name written)
    | .error error => (.set (.error error), maps)
  | .remove name key =>
    (.remove ((maps name).remove key).1, Function.update maps name ((maps name).remove key).2)
  | .copy source target => (.copy, Function.update maps target (maps source))

/-- Performs an operation on finite maps whose keys are those of 24 bits. -/
def performPlainly (plain : ι → Contents α) : Operation ι α → Reply α × (ι → Contents α)
  | .set name key value =>
    if key < capacity then
      (.set (.ok ((plain name).lookup key)),
        Function.update plain name ((plain name).insert key value))
    else (.set (.error (.keyOutOfRange key)), plain)
  | .remove name key =>
    (.remove ((plain name).lookup key), Function.update plain name ((plain name).erase key))
  | .copy source target => (.copy, Function.update plain target (plain source))

/-- Performs operations in order and gathers what they answer. -/
def inTurn {σ : Type} (act : σ → Operation ι α → Reply α × σ) (state : σ) :
    List (Operation ι α) → List (Reply α) × σ
  | [] => ([], state)
  | operation :: rest =>
    let (reply, next) := act state operation
    let (replies, last) := inTurn act next rest
    (reply :: replies, last)

variable {maps : ι → SparseMap α} {plain : ι → Contents α}

/-- A map that changes along with the finite map it stands for leaves the others as they are. -/
theorem represents_update (represents : ∀ name, (maps name).Represents (plain name)) {name : ι}
    (changed : map.Represents contents) (asked : ι) :
    (Function.update maps name map asked).Represents
      (Function.update plain name contents asked) := by
  by_cases same : asked = name
  · subst same
    simpa using changed
  · simpa [same] using represents asked

/-- One operation gives the same answer on sparse maps and on finite maps, and the sparse maps
    stand for the finite ones afterwards. -/
theorem perform_refines (represents : ∀ name, (maps name).Represents (plain name))
    (operation : Operation ι α) :
    (operation.perform maps).1 = (operation.performPlainly plain).1 ∧
      ∀ name, ((operation.perform maps).2 name).Represents
        ((operation.performPlainly plain).2 name) := by
  cases operation with
  | set name key value =>
    by_cases inside : key < capacity
    · obtain ⟨written, result, after⟩ := (represents name).set value inside
      simp only [perform, performPlainly, result, inside, if_true, true_and]
      exact represents_update represents after
    · have refused : (maps name).set key value = .error (.keyOutOfRange key) := by
        rw [SparseMap.set, split_of_not_lt inside]
      simp only [perform, performPlainly, refused, inside, if_false, true_and]
      exact represents
  | remove name key =>
    obtain ⟨rest, result, after⟩ := (represents name).remove key
    simp only [perform, performPlainly, result, true_and]
    exact represents_update represents after
  | copy source target => exact ⟨rfl, represents_update represents (represents source)⟩

/-- Any number of operations give the same answers on sparse maps and on finite maps. -/
theorem inTurn_refines (represents : ∀ name, (maps name).Represents (plain name))
    (operations : List (Operation ι α)) :
    (inTurn perform maps operations).1 = (inTurn performPlainly plain operations).1 ∧
      ∀ name, ((inTurn perform maps operations).2 name).Represents
        ((inTurn performPlainly plain operations).2 name) := by
  induction operations generalizing maps plain with
  | nil => exact ⟨rfl, represents⟩
  | cons operation rest inductionHypothesis =>
    obtain ⟨sameReply, after⟩ := perform_refines represents operation
    obtain ⟨sameReplies, last⟩ := inductionHypothesis after
    exact ⟨congrArg₂ List.cons sameReply sameReplies, last⟩

/-- Whatever is done with any number of sparse maps that are empty at first, the answers are
    those of finite maps, and each sparse map stands for its finite map: it reads the same and
    has nothing at wider keys, contains the same keys and as many, is empty together with it,
    and no count is at nothing when the removal of a key lowers it. -/
theorem sparse_refines_finite (operations : List (Operation ι α)) :
    let sparse := inTurn perform (fun _ => SparseMap.empty) operations
    let plain := inTurn performPlainly (fun _ => (∅ : Contents α)) operations
    sparse.1 = plain.1 ∧ ∀ name,
      (∀ key, (sparse.2 name).get? key =
        if key < capacity then (plain.2 name).lookup key else none) ∧
      (∀ key ∈ (plain.2 name).keys, key < capacity) ∧
      (∀ key, (sparse.2 name).contains key = true ↔ key ∈ plain.2 name) ∧
      (sparse.2 name).size = (plain.2 name).keys.card ∧
      ((sparse.2 name).isEmpty = true ↔ plain.2 name = ∅) ∧
      ∀ key i j k branch leaf value, split key = some (i, j, k) →
        (sparse.2 name).branches.get i = some branch → branch.get? j = some leaf →
        leaf.get? k = some value →
        0 < leaf.count ∧ 0 < branch.count ∧ 0 < (sparse.2 name).size := by
  intro sparse plain
  obtain ⟨replies, represents⟩ :=
    inTurn_refines (fun _ : ι => @represents_empty α) operations
  refine ⟨replies, fun name => ?_⟩
  have stands : (sparse.2 name).Represents (plain.2 name) := represents name
  refine ⟨?_, ?_, fun _ => stands.contains_iff, stands.size, stands.isEmpty_iff, ?_⟩
  · intro key
    split
    · exact stands.reads key
    · rename_i outside
      exact get?_of_not_lt _ outside
  · exact fun key member => stands.lt_capacity (Finmap.mem_keys.mp member)
  · exact fun _ _ _ _ _ _ _ => stands.counts_pos

end Operation

end SparseMap

end LateBinding
