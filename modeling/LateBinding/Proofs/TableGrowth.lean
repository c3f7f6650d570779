import LateBinding.Proofs.SelectorService
import Mathlib.Algebra.Group.Nat.Defs

/-!
# How a selector table grows

A table doubles its buckets at most once for each new signature. For a small load factor one
doubling does not make up for the first signature, so the load may stay exceeded for a while.
Growing then has two phases. In the first the table doubles with every new signature, and its
buckets outgrow the signatures. Once there is a signature and the load is kept, the second phase
has begun: one more signature at most doubles what is filled, so one doubling is enough for it,
and the load is kept for good.

A table never doubles without need. With half of its buckets the load would be exceeded, unless it
has not grown at all.
-/

namespace LateBinding

namespace Word

/-- Rounding up gives a power of two. -/
theorem powerOfTwoAbove_eq (n : Nat) : ∃ exponent, powerOfTwoAbove n = 2 ^ exponent := by
  unfold powerOfTwoAbove
  split
  · exact ⟨0, rfl⟩
  · exact ⟨Nat.log2 (n - 1) + 1, Nat.one_shiftLeft _⟩

/-- A power of two is not zero. -/
theorem powerOfTwoAbove_pos (n : Nat) : 0 < powerOfTwoAbove n := by
  obtain ⟨exponent, same⟩ := powerOfTwoAbove_eq n
  rw [same]
  exact Nat.two_pow_pos exponent

/-- Rounding up does not go below a number. -/
theorem le_powerOfTwoAbove (n : Nat) : n ≤ powerOfTwoAbove n := by
  unfold powerOfTwoAbove
  split
  · assumption
  · have above : n - 1 < 2 ^ ((n - 1).log2 + 1) := Nat.lt_log2_self
    rw [Nat.one_shiftLeft]
    omega

/-- The product of two words is a panic exactly if it is no word. -/
theorem product_eq_error_iff (a b : Nat) :
    (∃ panic, product a b = .error panic) ↔ largest < a * b := by
  unfold product
  split
  · simp only [reduceCtorEq, exists_false, false_iff]
    omega
  · simp only [Except.error.injEq, exists_eq', true_iff]
    omega

end Word

namespace SelectorTable

variable {hash : String → Nat} {table : SelectorTable hash} {signature : Signature}

/-- A table is not filled beyond its load factor. -/
def WithinLoad (table : SelectorTable hash) : Prop :=
  table.size * table.load.den ≤ table.bucketCount * table.load.num

/-- A table is overloaded exactly if it is filled beyond its load factor. -/
theorem withinLoad_of_overloaded {exceeded : Bool} (decided : table.overloaded = .ok exceeded) :
    table.WithinLoad ↔ exceeded = false := by
  unfold overloaded at decided
  split at decided
  · rename_i filled allowed first second
    cases decided
    rw [((Word.product_eq_ok_iff _ _ _).mp first).1, ((Word.product_eq_ok_iff _ _ _).mp second).1]
    simp [WithinLoad]
  · cases decided
  · cases decided

/-- A table cannot decide whether it is overloaded exactly if a product is no word. -/
theorem overloaded_eq_error_iff : (∃ panic, table.overloaded = .error panic) ↔
    Word.largest < table.size * table.load.den ∨
      Word.largest < table.bucketCount * table.load.num := by
  rw [← Word.product_eq_error_iff, ← Word.product_eq_error_iff]
  unfold overloaded
  split
  · rename_i filled allowed first second
    simp [first, second]
  · rename_i panic first
    simp [first]
  · rename_i panic second _
    simp [second]

/-- Interning without a panic adds a signature at most, and doubles the buckets exactly if the
    table is then filled beyond its load factor. -/
theorem intern_of_calm
    (calm : ∀ panic, (table.intern signature).result ≠ .error (.panicked panic)) :
    (table.intern signature).table = table ∨
    ((table.intern signature).table = table.append signature ∧
      (table.append signature).WithinLoad) ∨
    ((table.intern signature).table = (table.append signature).grow ∧
      ¬(table.append signature).WithinLoad) := by
  unfold SelectorTable.intern claim at calm ⊢
  cases found : table.find? signature with
  | some selector => exact .inl rfl
  | none =>
    simp only [found] at calm ⊢
    split
    · rename_i room
      simp only [room, if_true] at calm
      cases decided : (table.append signature).overloaded with
      | error panic =>
        simp only [decided] at calm
        exact absurd rfl (calm panic)
      | ok exceeded =>
        have within := withinLoad_of_overloaded decided
        cases exceeded with
        | true => exact .inr (.inr ⟨rfl, fun kept => by cases within.mp kept⟩)
        | false => exact .inr (.inl ⟨rfl, within.mpr rfl⟩)
    · exact .inl rfl

/-- Interning panics exactly where a new signature, for which there is room, takes a product
    beyond the machine words. -/
theorem intern_panics_iff :
    (∃ panic, (table.intern signature).result = .error (.panicked panic)) ↔
      table.find? signature = none ∧ table.size < table.limit ∧
        (Word.largest < (table.size + 1) * table.load.den ∨
          Word.largest < table.bucketCount * table.load.num) := by
  have undecided := @overloaded_eq_error_iff hash (table.append signature)
  rw [size_append, bucketCount_append] at undecided
  change _ ↔ Word.largest < (table.size + 1) * table.load.den ∨
    Word.largest < table.bucketCount * table.load.num at undecided
  rw [← undecided]
  unfold SelectorTable.intern claim
  cases found : table.find? signature with
  | some selector => simp
  | none =>
    simp only [true_and]
    split
    · rename_i room
      simp only [room, true_and]
      cases decided : (table.append signature).overloaded with
      | error panic => simp
      | ok exceeded => cases exceeded <;> simp
    · rename_i full
      simp [full]

/-- Growing doubles the buckets. -/
theorem bucketCount_grow (table : SelectorTable hash) :
    table.grow.bucketCount = table.bucketCount * 2 := by
  rw [bucketCount, grow, size_foldl_place, Array.size_replicate]

/-- Whether a table is within its load with one signature more. -/
theorem withinLoad_append_iff : (table.append signature).WithinLoad ↔
    (table.size + 1) * table.load.den ≤ table.bucketCount * table.load.num := by
  rw [WithinLoad, size_append, bucketCount_append]
  rfl

/-- And when it has grown, too. -/
theorem withinLoad_grow_iff : (table.append signature).grow.WithinLoad ↔
    (table.size + 1) * table.load.den ≤ table.bucketCount * 2 * table.load.num := by
  rw [WithinLoad, bucketCount_grow, bucketCount_append]
  change (table.append signature).size * _ ≤ _ ↔ _
  rw [size_append]
  rfl

/-- One more signature at most doubles what is filled, if there was one before, so doubling the
    buckets keeps the load. -/
theorem WithinLoad.grow (within : table.WithinLoad) (populated : 0 < table.size) :
    (table.append signature).grow.WithinLoad := by
  rw [withinLoad_grow_iff]
  calc (table.size + 1) * table.load.den
      ≤ table.size * 2 * table.load.den := Nat.mul_le_mul_right _ (by omega)
    _ = table.size * table.load.den * 2 := Nat.mul_right_comm _ _ _
    _ ≤ table.bucketCount * table.load.num * 2 := Nat.mul_le_mul_right _ within
    _ = table.bucketCount * 2 * table.load.num := Nat.mul_right_comm _ _ _

/-- Once there is a signature and the load is kept, it is kept for good. -/
theorem WithinLoad.intern (within : table.WithinLoad) (populated : 0 < table.size)
    (calm : ∀ panic, (table.intern signature).result ≠ .error (.panicked panic)) :
    (table.intern signature).table.WithinLoad ∧ 0 < (table.intern signature).table.size := by
  obtain same | ⟨same, kept⟩ | ⟨same, -⟩ := intern_of_calm calm
  · rw [same]
    exact ⟨within, populated⟩
  · rw [same, size_append]
    exact ⟨kept, Nat.succ_pos _⟩
  · rw [same]
    refine ⟨within.grow populated, ?_⟩
    change 0 < (table.append signature).size
    rw [size_append]
    exact Nat.succ_pos _

/-- A new table has as many buckets as it was asked for, rounded up. -/
theorem bucketCount_create {buckets limit : Nat} {load : LoadFactor}
    (created : create buckets load limit = .ok table) :
    table.bucketCount = Word.powerOfTwoAbove buckets ∧
      table = empty (Word.powerOfTwoAbove buckets) load limit := by
  unfold create at created
  cases rounded : Word.roundUp buckets with
  | error panic =>
    rw [rounded] at created
    cases created
  | ok count =>
    have exact := ((Word.sum_eq_ok_iff _ _ _).mp rounded).1
    rw [Nat.sub_add_cancel (Word.powerOfTwoAbove_pos buckets)] at exact
    subst exact
    simp only [rounded] at created
    split at created
    · cases created
      exact ⟨Array.size_replicate, rfl⟩
    · cases created

/-- How far a table has grown from so many buckets. -/
structure Grown (start : Nat) (table : SelectorTable hash) : Prop where
  doubled : ∃ times, table.bucketCount = start * 2 ^ times
  /-- The load is kept, or the table has doubled with every signature so far. -/
  phases : table.WithinLoad ∨ table.bucketCount = start * 2 ^ table.size
  /-- With half of its buckets a table that has grown would be filled beyond its load factor. -/
  needed : start < table.bucketCount →
    table.bucketCount / 2 * table.load.num < table.size * table.load.den

namespace Grown

variable {start : Nat}

/-- An empty table has the buckets it starts with. -/
theorem empty (buckets : Nat) (load : LoadFactor) (limit : Nat) :
    (empty buckets load limit : SelectorTable hash).Grown buckets := by
  have count :
      (SelectorTable.empty buckets load limit : SelectorTable hash).bucketCount = buckets :=
    Array.size_replicate
  refine ⟨⟨0, ?_⟩, .inr ?_, fun grown => ?_⟩
  · rw [count, Nat.pow_zero, Nat.mul_one]
  · rw [count]
    exact (Nat.mul_one _).symm
  · omega

/-- A table without signatures has not grown. -/
theorem bucketCount_of_vacant (grown : table.Grown start) (vacant : table.size = 0) :
    table.bucketCount = start := by
  obtain ⟨times, doubled⟩ := grown.doubled
  have least : start ≤ start * 2 ^ times := Nat.le_mul_of_pos_right _ (Nat.two_pow_pos times)
  have idle : ¬start < table.bucketCount := by
    intro larger
    have needed := grown.needed larger
    rw [vacant, Nat.zero_mul] at needed
    exact Nat.not_lt_zero _ needed
  omega

/-- Adding a signature within the load leaves the buckets as they are. -/
theorem append (grown : table.Grown start) (within : (table.append signature).WithinLoad) :
    (table.append signature).Grown start := by
  refine ⟨?_, .inl within, ?_⟩
  · rw [bucketCount_append]
    exact grown.doubled
  · rw [bucketCount_append, size_append]
    intro larger
    exact Nat.lt_of_lt_of_le (grown.needed larger) (Nat.mul_le_mul_right _ (Nat.le_succ _))

/-- Adding a signature beyond the load doubles the buckets, which keeps the load if it was kept
    before and is one more doubling of the first phase otherwise. -/
theorem grow (grown : table.Grown start) (beyond : ¬(table.append signature).WithinLoad) :
    (table.append signature).grow.Grown start := by
  have count : (table.append signature).grow.bucketCount = table.bucketCount * 2 := by
    rw [bucketCount_grow, bucketCount_append]
  have size : (table.append signature).grow.size = table.size + 1 := size_append signature
  have next : table.bucketCount = start * 2 ^ table.size →
      (table.append signature).grow.bucketCount =
        start * 2 ^ (table.append signature).grow.size := by
    intro doubled
    rw [count, size, doubled, Nat.pow_succ, Nat.mul_assoc]
  refine ⟨?_, ?_, ?_⟩
  · obtain ⟨times, doubled⟩ := grown.doubled
    exact ⟨times + 1, by rw [count, doubled, Nat.pow_succ, Nat.mul_assoc]⟩
  · rcases grown.phases with within | doubled
    · rcases Nat.eq_zero_or_pos table.size with vacant | populated
      · refine .inr (next ?_)
        rw [grown.bucketCount_of_vacant vacant, vacant, Nat.pow_zero, Nat.mul_one]
      · exact .inl (within.grow populated)
    · exact .inr (next doubled)
  · intro _
    rw [withinLoad_append_iff, Nat.not_le] at beyond
    rw [count, size, Nat.mul_div_cancel _ Nat.two_pos]
    exact beyond

/-- A table has grown as it should when a signature is interned without a panic. -/
theorem intern (grown : table.Grown start)
    (calm : ∀ panic, (table.intern signature).result ≠ .error (.panicked panic)) :
    (table.intern signature).table.Grown start := by
  obtain same | ⟨same, within⟩ | ⟨same, beyond⟩ := intern_of_calm calm
  · rwa [same]
  · rw [same]
    exact grown.append within
  · rw [same]
    exact grown.grow beyond

end Grown

namespace Service

variable {service next : Service hash} {load : LoadFactor} {limit : Nat}

/-- What interning without a panic keeps of a table is kept by all answers. -/
theorem table_invariant {holds : SelectorTable hash → Prop}
    (interned : ∀ {table : SelectorTable hash} {signature : Signature}, holds table →
      (∀ panic, (table.intern signature).result ≠ .error (.panicked panic)) →
      holds (table.intern signature).table)
    {queries : List Query} (ran : service.run? queries = some next) (start : holds service.table) :
    holds next.table := by
  induction queries generalizing service with
  | nil =>
    cases ran
    exact start
  | cons query rest inductionHypothesis =>
    obtain ⟨between, asked, further⟩ := Option.bind_eq_some_iff.mp ran
    obtain ⟨_, -, ⟨signature, -, table, -, calm⟩ | ⟨signature, -, table, -⟩⟩ := ask?_cases asked
    · exact inductionHypothesis further (table ▸ interned start calm)
    · exact inductionHypothesis further (table ▸ start)

/-- There is no answer exactly to a new signature, for which there is room, that takes a product
    beyond the machine words. -/
theorem Faithful.ask?_eq_none_iff (faithful : service.Faithful load limit) {query : Query} :
    service.ask? query = none ↔ ∃ signature, query = .intern signature ∧
      (∀ selector, service.table.resolve? selector ≠ some signature) ∧
      service.table.size < limit ∧
      (Word.largest < (service.table.size + 1) * load.den ∨
        Word.largest < service.table.bucketCount * load.num) := by
  cases query with
  | lookup signature => simp [ask?]
  | intern signature =>
    have panics := @intern_panics_iff hash service.table signature
    rw [faithful.serviceable.find?_eq_none_iff, faithful.serviceable.load,
      faithful.serviceable.limit] at panics
    simp only [Query.intern.injEq, exists_eq_left', ← panics, ask?]
    split
    · rename_i panic stopped
      simp [stopped]
    · rename_i calm
      simpa using calm

/-- After any history without panics, of a table that was created with any number of buckets and
    any load factor: the number of buckets is the initial one, a power of two, doubled some times;
    the load is kept or the table has doubled with every signature so far; once there is a
    signature and the load is kept, it is kept after every later history; a table that has grown
    is no larger than one doubling past need; and what ends a history in a panic is nothing but a
    product that is no word. -/
theorem growth_bounded {buckets : Nat} {first : SelectorTable hash}
    (created : create buckets load limit = .ok first) {queries : List Query}
    (ran : (start first).run? queries = some service) :
    ((∃ exponent, first.bucketCount = 2 ^ exponent) ∧ buckets ≤ first.bucketCount) ∧
    (∃ times, service.table.bucketCount = first.bucketCount * 2 ^ times) ∧
    (service.table.size * load.den ≤ service.table.bucketCount * load.num ∨
      service.table.bucketCount = first.bucketCount * 2 ^ service.table.size) ∧
    (1 ≤ service.table.size →
      service.table.size * load.den ≤ service.table.bucketCount * load.num →
      ∀ further next, service.run? further = some next →
        next.table.size * load.den ≤ next.table.bucketCount * load.num) ∧
    (first.bucketCount < service.table.bucketCount →
      service.table.bucketCount / 2 * load.num < service.table.size * load.den) ∧
    ∀ query, service.ask? query = none ↔ ∃ signature, query = .intern signature ∧
      (∀ selector, service.table.resolve? selector ≠ some signature) ∧
      service.table.size < min limit SparseMap.capacity ∧
      (Word.largest < (service.table.size + 1) * load.den ∨
        Word.largest < service.table.bucketCount * load.num) := by
  have faithful := ((faithful_start created).run ran).1
  have sameLoad := faithful.serviceable.load
  have grown : service.table.Grown first.bucketCount := by
    refine table_invariant (fun grown calm => grown.intern calm) ran ?_
    obtain ⟨count, same⟩ := bucketCount_create created
    rw [count, same]
    exact .empty _ load limit
  obtain ⟨doubled, phases, needed⟩ := grown
  rw [WithinLoad, sameLoad] at phases
  rw [sameLoad] at needed
  refine ⟨?_, doubled, phases, ?_, needed, fun query => faithful.ask?_eq_none_iff⟩
  · rw [(bucketCount_create created).1]
    exact ⟨Word.powerOfTwoAbove_eq buckets, Word.le_powerOfTwoAbove buckets⟩
  · intro populated within further next later
    rw [← sameLoad] at within
    have kept := @table_invariant hash service next
      (fun table => table.WithinLoad ∧ 0 < table.size)
      (fun given calm => given.1.intern given.2 calm) further later ⟨within, populated⟩
    have nextLoad := (faithful.run later).1.serviceable.load
    rw [← nextLoad]
    exact kept.1

/-- Five signatures for a table that is to have four buckets for each of them. -/
def fiveNames : List Query :=
  [.intern ⟨"a", none⟩, .intern ⟨"b", none⟩, .intern ⟨"c", none⟩, .intern ⟨"d", none⟩,
    .intern ⟨"e", none⟩]

/-- A table that starts with one bucket doubles with each of the five signatures, the load being
    exceeded until the last, and from then on the load is kept. -/
theorem growth_bounded_of_small_load :
    ∃ (first : SelectorTable fun _ => 7) (service : Service fun _ => 7),
      create 0 ⟨1, 4⟩ 16 = .ok first ∧ (start first).run? fiveNames = some service ∧
        service.table.bucketCount = first.bucketCount * 2 ^ 5 ∧
        ∀ further next, service.run? further = some next →
          next.table.size * 4 ≤ next.table.bucketCount := by
  let first : SelectorTable fun _ => 7 := SelectorTable.empty 1 ⟨1, 4⟩ 16
  have created : create 0 ⟨1, 4⟩ 16 = .ok first := rfl
  have checked : ((start first).run? fiveNames).map
      (fun service => (service.table.size, service.table.bucketCount)) = some (5, 32) := by
    decide +kernel
  obtain ⟨service, ran, same⟩ := Option.map_eq_some_iff.mp checked
  obtain ⟨size, count⟩ := Prod.mk.inj same
  obtain ⟨-, -, -, stays, -⟩ := growth_bounded created ran
  refine ⟨first, service, created, ran, by rw [count]; rfl, fun further next later => ?_⟩
  have kept := stays (by rw [size]; decide) (by rw [size, count]; decide) further next later
  rwa [Nat.mul_one] at kept

end Service

end SelectorTable

end LateBinding
