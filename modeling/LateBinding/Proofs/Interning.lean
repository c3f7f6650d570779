import LateBinding.Selector.Table

/-!
# Interned signatures

A selector stands for its signature for good: a table only ever adds signatures at the end.
A table is lawful if no signature has two selectors and every selector is in the bucket of
its name. Then searching the one bucket of a signature finds its selector exactly if the
signature was interned. Adding a signature keeps a table lawful, and so does moving all
selectors to twice as many buckets.
-/

namespace LateBinding.SelectorTable

variable {hash : String → Nat} {table : SelectorTable hash}

/-- What selectors stand for stays when a table grows into another. -/
def Extends (before after : SelectorTable hash) : Prop :=
  ∀ selector signature, before.resolve? selector = some signature →
    after.resolve? selector = some signature

/-- A table extends itself. -/
theorem Extends.refl (table : SelectorTable hash) : table.Extends table :=
  fun _ _ resolved => resolved

/-- One that extends one that extends a third extends the third. -/
theorem Extends.trans {before between after : SelectorTable hash} (first : before.Extends between)
    (second : between.Extends after) : before.Extends after :=
  fun selector signature resolved =>
    second selector signature (first selector signature resolved)

/-- The selector that is found for a signature resolves to it. -/
theorem resolve?_of_find? {signature : Signature} {selector : Selector}
    (found : table.find? signature = some selector) : table.resolve? selector = some signature := by
  have stored := List.find?_some found
  rwa [beq_iff_eq] at stored

/-- A signature that is added resolves under the next selector. -/
theorem resolve?_append (signature : Signature) (selector : Selector) :
    (table.append signature).resolve? selector =
      if selector = table.size then some signature else table.resolve? selector := by
  rw [resolve?, append, Array.getElem?_push]
  rfl

/-- Adding a signature extends a table. -/
theorem extends_append (signature : Signature) : table.Extends (table.append signature) := by
  intro selector known resolved
  have inside : selector < table.size := (Array.getElem?_eq_some_iff.mp resolved).1
  rw [resolve?_append, if_neg (Nat.ne_of_lt inside), resolved]

/-- Growing changes no selector. -/
@[simp] theorem resolve?_grow (selector : Selector) :
    table.grow.resolve? selector = table.resolve? selector := rfl

/-- What interning can do: find the signature, add it, with or without growing, or refuse it
    for want of selectors. -/
theorem intern_cases (table : SelectorTable hash) (signature : Signature) :
    (∃ selector, table.find? signature = some selector ∧
      (table.intern signature).result = .ok selector ∧ (table.intern signature).table = table) ∨
    (table.find? signature = none ∧
      ((table.intern signature).table = table.append signature ∨
        (table.intern signature).table = (table.append signature).grow) ∧
      ∀ selector, (table.intern signature).result = .ok selector → selector = table.size) ∨
    (table.find? signature = none ∧ (table.intern signature).table = table ∧
      (table.intern signature).result = .error (.refused .outOfSelectors)) := by
  unfold intern claim
  cases found : table.find? signature with
  | some selector => exact .inl ⟨selector, rfl, rfl, rfl⟩
  | none =>
    right
    dsimp only
    split
    · left
      split
      · exact ⟨rfl, .inl rfl, fun selector impossible => by cases impossible⟩
      · exact ⟨rfl, .inr rfl, fun selector same => (Except.ok.inj same).symm⟩
      · exact ⟨rfl, .inl rfl, fun selector same => (Except.ok.inj same).symm⟩
    · exact .inr ⟨rfl, rfl, rfl⟩

/-- Interning extends a table. -/
theorem extends_intern (signature : Signature) : table.Extends (table.intern signature).table := by
  obtain ⟨_, -, -, same⟩ | ⟨-, added | grown, -⟩ | ⟨-, same, -⟩ := table.intern_cases signature
  · rw [same]
    exact .refl table
  · rw [added]
    exact extends_append signature
  · rw [grown]
    exact extends_append signature
  · rw [same]
    exact .refl table

/-- The selector that interning gives stands for the signature. -/
theorem resolve?_intern {signature : Signature} {selector : Selector}
    (given : (table.intern signature).result = .ok selector) :
    (table.intern signature).table.resolve? selector = some signature := by
  obtain ⟨known, found, result, same⟩ | ⟨-, added, fresh⟩ | ⟨-, -, refused⟩ :=
    table.intern_cases signature
  · rw [result, Except.ok.injEq] at given
    rw [same, ← given]
    exact resolve?_of_find? found
  · have last : (table.append signature).resolve? selector = some signature := by
      rw [resolve?_append, if_pos (fresh selector given)]
    rcases added with same | same
    · rw [same, last]
    · rw [same, resolve?_grow, last]
  · rw [refused] at given
    cases given

/-- The selectors in the bucket of a name. -/
def bucket (buckets : Array (List Selector)) (hash : String → Nat) (name : String) :
    List Selector :=
  buckets.getD (bucketOf hash buckets.size name) []

/-- No signature has two selectors, and every selector is in the bucket of its name. -/
structure Lawful (table : SelectorTable hash) : Prop where
  roomy : 0 < table.bucketCount
  distinct : ∀ selector other signature, table.resolve? selector = some signature →
    table.resolve? other = some signature → selector = other
  placed : ∀ selector signature, table.resolve? selector = some signature →
    selector ∈ bucket table.buckets hash signature.name

/-- Every name hashes into a bucket, if there is one. -/
theorem bucketOf_lt {count : Nat} (roomy : 0 < count) (name : String) :
    bucketOf hash count name < count :=
  Nat.lt_of_le_of_lt Nat.and_le_right (Nat.sub_lt roomy Nat.one_pos)

/-- Placing a selector adds no bucket. -/
@[simp] theorem size_place (buckets : Array (List Selector)) (selector : Selector) (name : String) :
    (place hash buckets selector name).size = buckets.size := by
  simp [place]

/-- Placing a selector leaves the others where they are. -/
theorem mem_place (buckets : Array (List Selector)) {selector : Selector} {name : String}
    {other : Selector} {otherName : String} (member : other ∈ bucket buckets hash otherName) :
    other ∈ bucket (place hash buckets selector name) hash otherName := by
  simp only [bucket, Array.getD_eq_getD_getElem?, size_place] at member ⊢
  rw [place, Array.getElem?_modify]
  split
  · cases found : buckets[bucketOf hash buckets.size otherName]? with
    | none =>
      rw [found] at member
      cases member
    | some there =>
      rw [found] at member
      exact List.mem_cons_of_mem _ member
  · exact member

/-- A selector that has been placed is in the bucket of its name. -/
theorem mem_place_self {buckets : Array (List Selector)} (roomy : 0 < buckets.size)
    (selector : Selector) (name : String) :
    selector ∈ bucket (place hash buckets selector name) hash name := by
  have inside : bucketOf hash buckets.size name < buckets.size := bucketOf_lt roomy name
  simp only [bucket, Array.getD_eq_getD_getElem?, size_place]
  rw [place, Array.getElem?_modify, if_pos rfl, Array.getElem?_eq_getElem inside]
  exact List.mem_cons_self

/-- The selector of an interned signature is found, and no other. -/
theorem Lawful.find?_eq_some_iff (lawful : table.Lawful) {signature : Signature}
    {selector : Selector} :
    table.find? signature = some selector ↔ table.resolve? selector = some signature := by
  refine ⟨resolve?_of_find?, fun resolved => ?_⟩
  cases found : table.find? signature with
  | some other => rw [lawful.distinct _ _ _ (resolve?_of_find? found) resolved]
  | none =>
    have absent := List.find?_eq_none.mp found selector (lawful.placed selector signature resolved)
    rw [beq_iff_eq] at absent
    exact absurd resolved absent

/-- A new table has a bucket, and neither selectors nor signatures. -/
theorem create_cases {buckets limit : Nat} {load : LoadFactor}
    (created : create buckets load limit = .ok table) :
    ∃ count, 0 < count ∧ table = empty count load limit := by
  unfold create at created
  cases rounded : Word.roundUp buckets with
  | error panic =>
    rw [rounded] at created
    cases created
  | ok count =>
    have exact := ((Word.sum_eq_ok_iff _ _ _).mp rounded).1
    simp only [rounded] at created
    split at created
    · cases created
      exact ⟨count, by omega, rfl⟩
    · cases created

/-- An empty table with buckets is lawful. -/
theorem lawful_empty {buckets : Nat} (roomy : 0 < buckets) (load : LoadFactor) (limit : Nat) :
    (empty buckets load limit : SelectorTable hash).Lawful where
  roomy := by simpa [bucketCount, empty] using roomy
  distinct selector other signature resolved := by simp [resolve?, empty] at resolved
  placed selector signature resolved := by simp [resolve?, empty] at resolved

/-- A signature that was not interned can be added. -/
theorem Lawful.append (lawful : table.Lawful) {signature : Signature}
    (absent : table.find? signature = none) : (table.append signature).Lawful where
  roomy := by
    have roomy := lawful.roomy
    simpa [bucketCount, SelectorTable.append] using roomy
  distinct selector other known resolved otherResolved := by
    have unknown : ∀ selector, table.resolve? selector ≠ some signature := by
      intro selector resolved
      rw [lawful.find?_eq_some_iff.mpr resolved] at absent
      cases absent
    rw [resolve?_append] at resolved otherResolved
    split at resolved <;> split at otherResolved
    · rename_i same otherSame
      rw [same, otherSame]
    · rw [← resolved] at otherResolved
      exact absurd otherResolved (unknown other)
    · rw [← otherResolved] at resolved
      exact absurd resolved (unknown selector)
    · exact lawful.distinct selector other known resolved otherResolved
  placed selector known resolved := by
    rw [resolve?_append] at resolved
    split at resolved
    · rename_i same
      rw [Option.some.injEq] at resolved
      subst resolved same
      exact mem_place_self lawful.roomy _ _
    · exact mem_place _ (lawful.placed selector known resolved)

/-- Placing a list of selectors puts each into the bucket of its name. -/
theorem mem_foldl_place {entries : List (Signature × Selector)} {buckets : Array (List Selector)}
    (roomy : 0 < buckets.size) {selector : Selector} {signature : Signature}
    (member : (signature, selector) ∈ entries ∨ selector ∈ bucket buckets hash signature.name) :
    selector ∈ bucket
      (entries.foldl (fun buckets entry => place hash buckets entry.2 entry.1.name) buckets)
      hash signature.name := by
  induction entries generalizing buckets with
  | nil => exact member.resolve_left List.not_mem_nil
  | cons entry rest inductionHypothesis =>
    rw [List.foldl_cons]
    refine inductionHypothesis (by rwa [size_place]) ?_
    rcases member with listed | already
    · rcases List.mem_cons.mp listed with rfl | later
      · exact .inr (mem_place_self roomy _ _)
      · exact .inl later
    · exact .inr (mem_place _ already)

/-- Placing many adds no bucket. -/
theorem size_foldl_place (entries : List (Signature × Selector)) (buckets : Array (List Selector)) :
    (entries.foldl (fun buckets entry => place hash buckets entry.2 entry.1.name) buckets).size =
      buckets.size := by
  induction entries generalizing buckets with
  | nil => rfl
  | cons entry rest inductionHypothesis => rw [List.foldl_cons, inductionHypothesis, size_place]

/-- Twice as many buckets hold the same selectors. -/
theorem Lawful.grow (lawful : table.Lawful) : table.grow.Lawful where
  roomy := by
    have roomy := lawful.roomy
    have size := @size_foldl_place hash table.signatures.toList.zipIdx
      (Array.replicate (table.bucketCount * 2) [])
    rw [Array.size_replicate] at size
    change 0 < (table.grow.buckets).size
    rw [SelectorTable.grow, size]
    omega
  distinct := lawful.distinct
  placed selector signature resolved := by
    rw [resolve?_grow, resolve?, ← Array.getElem?_toList] at resolved
    have roomy := lawful.roomy
    refine mem_foldl_place ?_ (.inl (List.mem_zipIdx_iff_getElem?.mpr resolved))
    rw [Array.size_replicate]
    omega

/-- A lawful table stays lawful when a signature is interned. -/
theorem Lawful.intern (lawful : table.Lawful) (signature : Signature) :
    (table.intern signature).table.Lawful := by
  obtain ⟨_, -, -, same⟩ | ⟨absent, added | grown, -⟩ | ⟨-, same, -⟩ :=
    table.intern_cases signature
  · rwa [same]
  · rw [added]
    exact lawful.append absent
  · rw [grown]
    exact (lawful.append absent).grow
  · rwa [same]

end LateBinding.SelectorTable
