import LateBinding.Proofs.Interning

/-!
# A selector table in service

Callers intern signatures and look them up, in any order. A history records what was asked
and what was answered. After any history in which no product left the machine words, the
table holds exactly the signatures that were interned with success, in the order in which
that happened first, and the selector of each is its place in this order. Nothing that the
table once answered with a selector changes later, however often its buckets double.

The table compares signatures in one bucket only. That is enough because it stays lawful,
and the indices are good because there is always a bucket and every selector in a bucket has
a signature.
-/

namespace LateBinding.SelectorTable

variable {hash : String → Nat} {table : SelectorTable hash} {signature : Signature}

/-- Every selector in a bucket is one that the table has given. -/
def Stocked (table : SelectorTable hash) : Prop :=
  ∀ index, ∀ selector ∈ table.buckets.getD index [], selector < table.size

/-- A bucket gets the selector that is placed, or nothing. -/
theorem mem_of_mem_place {buckets : Array (List Selector)} {placed selector : Selector}
    {name : String} {index : Nat}
    (member : selector ∈ (place hash buckets placed name).getD index []) :
    selector = placed ∨ selector ∈ buckets.getD index [] := by
  rw [place, Array.getD_eq_getD_getElem?, Array.getElem?_modify] at member
  rw [Array.getD_eq_getD_getElem?]
  split at member
  · cases found : buckets[index]? with
    | none =>
      rw [found] at member
      cases member
    | some bucket =>
      rw [found] at member
      exact List.mem_cons.mp member
  · exact .inr member

/-- Buckets get the selectors of a list that are placed, and nothing else. -/
theorem mem_of_mem_foldl_place {entries : List (Signature × Selector)}
    {buckets : Array (List Selector)} {selector : Selector} {index : Nat}
    (member : selector ∈ (entries.foldl
      (fun buckets entry => place hash buckets entry.2 entry.1.name) buckets).getD index []) :
    (∃ signature, (signature, selector) ∈ entries) ∨ selector ∈ buckets.getD index [] := by
  induction entries generalizing buckets with
  | nil => exact .inr member
  | cons entry rest inductionHypothesis =>
    rcases inductionHypothesis member with ⟨signature, listed⟩ | before
    · exact .inl ⟨signature, List.mem_cons_of_mem _ listed⟩
    · rcases mem_of_mem_place before with rfl | older
      · exact .inl ⟨entry.1, List.mem_cons_self⟩
      · exact .inr older

/-- In an empty table there is nothing to be found. -/
theorem stocked_empty (buckets : Nat) (load : LoadFactor) (limit : Nat) :
    (empty buckets load limit : SelectorTable hash).Stocked := by
  intro index selector member
  rw [empty, Array.getD_eq_getD_getElem?, Array.getElem?_replicate] at member
  split at member <;> cases member

/-- A signature that is added is one more. -/
theorem size_append (signature : Signature) : (table.append signature).size = table.size + 1 :=
  Array.size_push _

/-- It needs no further bucket. -/
theorem bucketCount_append (signature : Signature) :
    (table.append signature).bucketCount = table.bucketCount :=
  size_place _ _ _

/-- It is found when it has been added. -/
theorem Stocked.append (stocked : table.Stocked) (signature : Signature) :
    (table.append signature).Stocked := by
  intro index selector member
  rw [size_append]
  rcases mem_of_mem_place member with rfl | older
  · exact Nat.lt_succ_self _
  · exact Nat.lt_succ_of_lt (stocked index selector older)

/-- Everything is found after growing. -/
theorem stocked_grow (table : SelectorTable hash) : table.grow.Stocked := by
  intro index selector member
  rcases mem_of_mem_foldl_place member with ⟨signature, listed⟩ | impossible
  · have found := List.mem_zipIdx_iff_getElem?.mp listed
    rw [Array.getElem?_toList] at found
    exact (Array.getElem?_eq_some_iff.mp found).1
  · rw [Array.getD_eq_getD_getElem?, Array.getElem?_replicate] at impossible
    split at impossible <;> cases impossible

/-- A table decides whether it is overloaded if both products are words. -/
theorem overloaded_of_fits (filled : table.size * table.load.den ≤ Word.largest)
    (allowed : table.bucketCount * table.load.num ≤ Word.largest) :
    table.overloaded = .ok (table.size * table.load.den > table.bucketCount * table.load.num) := by
  have first := (Word.product_eq_ok_iff table.size table.load.den _).mpr ⟨rfl, filled⟩
  have second := (Word.product_eq_ok_iff table.bucketCount table.load.num _).mpr ⟨rfl, allowed⟩
  simp only [overloaded, first, second]

/-- A signature that is found is not added. -/
theorem intern_of_find? {selector : Selector} (found : table.find? signature = some selector) :
    table.intern signature = ⟨.ok selector, table, none⟩ := by
  simp only [intern, found]

/-- A signature that is not found is refused where no selector is left. -/
theorem intern_of_full (absent : table.find? signature = none)
    (full : ¬table.size < table.limit) :
    table.intern signature = ⟨.error (.refused .outOfSelectors), table, none⟩ := by
  simp only [intern, claim, absent, full, if_false]

/-- While there is room, a new signature gets the next selector and is added at the end; only
    a product that is no word keeps the caller from learning so. -/
theorem intern_of_room (absent : table.find? signature = none) (room : table.size < table.limit) :
    ((table.intern signature).table = table.append signature ∨
      (table.intern signature).table = (table.append signature).grow) ∧
    ((table.intern signature).result = .ok table.size ∨
      (∃ panic, (table.intern signature).result = .error (.panicked panic)) ∧
        ¬((table.size + 1) * table.load.den ≤ Word.largest ∧
          table.bucketCount * table.load.num ≤ Word.largest)) := by
  have fits := @overloaded_of_fits hash (table.append signature)
  rw [size_append, bucketCount_append] at fits
  simp only [intern, claim, absent, room, if_true]
  split
  · rename_i panic stopped
    refine ⟨.inl rfl, .inr ⟨⟨panic, rfl⟩, ?_⟩⟩
    rintro ⟨filled, allowed⟩
    cases stopped.symm.trans (fits filled allowed)
  · exact ⟨.inr rfl, .inl rfl⟩
  · exact ⟨.inl rfl, .inl rfl⟩

/-- What a table guarantees to those who use it. -/
structure Serviceable (load : LoadFactor) (limit : Nat) (table : SelectorTable hash) : Prop where
  lawful : table.Lawful
  stocked : table.Stocked
  load : table.load = load
  limit : table.limit = limit

namespace Serviceable

variable {load : LoadFactor} {limit : Nat}

/-- A table goes on serving when a signature is added. -/
theorem append (serviceable : table.Serviceable load limit)
    (absent : table.find? signature = none) : (table.append signature).Serviceable load limit :=
  ⟨serviceable.lawful.append absent, serviceable.stocked.append signature, serviceable.load,
    serviceable.limit⟩

/-- And when it has grown. -/
theorem grow (serviceable : table.Serviceable load limit) : table.grow.Serviceable load limit :=
  ⟨serviceable.lawful.grow, stocked_grow table, serviceable.load, serviceable.limit⟩

/-- And when a signature is interned. -/
theorem intern (serviceable : table.Serviceable load limit) (signature : Signature) :
    (table.intern signature).table.Serviceable load limit := by
  obtain ⟨_, -, -, same⟩ | ⟨absent, added | grown, -⟩ | ⟨-, same, -⟩ :=
    table.intern_cases signature
  · rwa [same]
  · rw [added]
    exact serviceable.append absent
  · rw [grown]
    exact (serviceable.append absent).grow
  · rwa [same]

/-- A signature is not found exactly if no selector stands for it. -/
theorem find?_eq_none_iff (serviceable : table.Serviceable load limit) :
    table.find? signature = none ↔ ∀ selector, table.resolve? selector ≠ some signature := by
  rw [Option.eq_none_iff_forall_ne_some]
  exact forall_congr' fun selector => not_congr serviceable.lawful.find?_eq_some_iff

end Serviceable

/-- Naming something once more does not change the order of first times. -/
theorem eraseDups_concat {α : Type} [DecidableEq α] (items : List α) (item : α) :
    (items ++ [item]).eraseDups =
      if item ∈ items then items.eraseDups else items.eraseDups ++ [item] := by
  rw [List.eraseDups_append]
  by_cases member : item ∈ items
  · simp [List.removeAll, member]
  · simp [List.removeAll, member, List.eraseDups_cons]

/-- What is asked of a table. -/
inductive Query where
  | intern (signature : Signature)
  | lookup (signature : Signature)

/-- What was asked, and what was answered. -/
inductive Exchange where
  | interned (signature : Signature) (result : Except Failure Selector)
  | lookedUp (signature : Signature) (found : Option Selector)

/-- The signature that an exchange interned with success, or found interned. -/
def Exchange.given : Exchange → Option Signature
  | .interned signature (.ok _) => some signature
  | _ => none

/-- An exchange told a caller that a selector stands for a signature. -/
def Exchange.Tells (signature : Signature) (selector : Selector) (exchange : Exchange) : Prop :=
  exchange = .interned signature (.ok selector) ∨ exchange = .lookedUp signature (some selector)

/-- A table and its history, the latest exchange last. -/
structure Service (hash : String → Nat) where
  table : SelectorTable hash
  history : List Exchange

namespace Service

variable {service next : Service hash}

/-- A table that nothing has been asked of. -/
def start (table : SelectorTable hash) : Service hash := ⟨table, []⟩

/-- Answers a query. There is no answer, and no service afterwards, in a panic. -/
def ask? (service : Service hash) : Query → Option (Service hash)
  | .intern signature =>
    match (service.table.intern signature).result with
    | .error (.panicked _) => none
    | result =>
      some ⟨(service.table.intern signature).table,
        service.history ++ [.interned signature result]⟩
  | .lookup signature =>
    some ⟨service.table, service.history ++ [.lookedUp signature (service.table.find? signature)]⟩

/-- Answers queries in the given order. -/
def run? (service : Service hash) (queries : List Query) : Option (Service hash) :=
  queries.foldlM ask? service

/-- What answering does: a signature that was found or refused leaves the table alone, and
    one that is new is added. -/
theorem ask?_cases {query : Query} (asked : service.ask? query = some next) :
    ∃ exchange, next.history = service.history ++ [exchange] ∧
      ((∃ signature, query = .intern signature ∧
          next.table = (service.table.intern signature).table ∧
          exchange = .interned signature (service.table.intern signature).result ∧
          ∀ panic, (service.table.intern signature).result ≠ .error (.panicked panic)) ∨
        ∃ signature, query = .lookup signature ∧ next.table = service.table ∧
          exchange = .lookedUp signature (service.table.find? signature)) := by
  cases query with
  | intern signature =>
    refine ⟨.interned signature (service.table.intern signature).result, ?_⟩
    simp only [ask?] at asked
    split at asked
    · cases asked
    · rename_i calm
      cases asked
      exact ⟨rfl, .inl ⟨signature, rfl, rfl, rfl, calm⟩⟩
  | lookup signature =>
    cases asked
    exact ⟨_, rfl, .inr ⟨signature, rfl, rfl, rfl⟩⟩

/-- The table agrees with its history. -/
structure Faithful (load : LoadFactor) (limit : Nat) (service : Service hash) : Prop where
  serviceable : service.table.Serviceable load limit
  /-- The signatures are those that were given a selector, in the order of the first time. -/
  ordered : service.table.signatures.toList =
    (service.history.filterMap Exchange.given).eraseDups
  /-- Every selector that was told still stands for its signature. -/
  kept : ∀ exchange ∈ service.history, ∀ signature selector,
    exchange.Tells signature selector → service.table.resolve? selector = some signature

variable {load : LoadFactor} {limit : Nat}

/-- A service starts without having given anything out. -/
theorem faithful_start {buckets : Nat}
    (created : create buckets load limit = .ok table) :
    (start table).Faithful load (min limit SparseMap.capacity) := by
  obtain ⟨count, roomy, rfl⟩ := create_cases created
  refine ⟨⟨lawful_empty roomy load limit, stocked_empty count load limit, rfl, rfl⟩, rfl, ?_⟩
  intro exchange member
  cases member

/-- A signature that was given a selector is in the table, and no other is. -/
theorem Faithful.mem_given_iff (faithful : service.Faithful load limit) :
    signature ∈ service.history.filterMap Exchange.given ↔
      ∃ selector, service.table.resolve? selector = some signature := by
  rw [← List.mem_eraseDups, ← faithful.ordered, Array.mem_toList_iff, Array.mem_iff_getElem?]
  rfl

/-- Interning without a panic puts a signature at the end of the order, unless it has its
    place already or there is no room. -/
theorem Faithful.ordered_intern (faithful : service.Faithful load limit)
    (calm : ∀ panic, (service.table.intern signature).result ≠ .error (.panicked panic)) :
    (service.table.intern signature).table.signatures.toList =
      (List.filterMap Exchange.given (service.history ++
        [.interned signature (service.table.intern signature).result])).eraseDups := by
  rw [List.filterMap_append]
  cases found : service.table.find? signature with
  | some selector =>
    have earlier := faithful.mem_given_iff.mpr ⟨selector, resolve?_of_find? found⟩
    rw [intern_of_find? found]
    change _ = (_ ++ [signature]).eraseDups
    rw [eraseDups_concat, if_pos earlier, faithful.ordered]
  | none =>
    by_cases room : service.table.size < service.table.limit
    · obtain ⟨added, given | ⟨⟨panic, stopped⟩, -⟩⟩ := intern_of_room found room
      · have unknown : signature ∉ service.history.filterMap Exchange.given := by
          rw [faithful.mem_given_iff, not_exists]
          exact faithful.serviceable.find?_eq_none_iff.mp found
        have last : (service.table.intern signature).table.signatures =
            service.table.signatures.push signature := by
          rcases added with same | same
          · rw [same]
            rfl
          · rw [same]
            rfl
        rw [last, given, Array.toList_push, faithful.ordered]
        change _ = (_ ++ [signature]).eraseDups
        rw [eraseDups_concat, if_neg unknown]
      · exact absurd stopped (calm panic)
    · rw [intern_of_full found room]
      change _ = (_ ++ []).eraseDups
      rw [List.append_nil, faithful.ordered]

/-- One answer keeps a table faithful to its history. -/
theorem Faithful.ask (faithful : service.Faithful load limit) {query : Query}
    (asked : service.ask? query = some next) : next.Faithful load limit := by
  obtain ⟨exchange, history, ⟨signature, -, table, rfl, calm⟩ | ⟨signature, -, table, rfl⟩⟩ :=
    ask?_cases asked
  · refine ⟨table ▸ faithful.serviceable.intern signature, ?_, ?_⟩
    · rw [history, table]
      exact faithful.ordered_intern calm
    · intro exchange member known selector tells
      rw [history, List.mem_append, List.mem_singleton] at member
      rw [table]
      rcases member with older | rfl
      · exact extends_intern signature _ _ (faithful.kept exchange older known selector tells)
      · rcases tells with same | impossible
        · obtain ⟨rfl, given⟩ := Exchange.interned.inj same
          exact resolve?_intern given
        · cases impossible
  · refine ⟨table ▸ faithful.serviceable, ?_, ?_⟩
    · rw [history, table, List.filterMap_append]
      change _ = (_ ++ []).eraseDups
      rw [List.append_nil, faithful.ordered]
    · intro exchange member known selector tells
      rw [history, List.mem_append, List.mem_singleton] at member
      rw [table]
      rcases member with older | rfl
      · exact faithful.kept exchange older known selector tells
      · rcases tells with impossible | same
        · cases impossible
        · obtain ⟨rfl, found⟩ := Exchange.lookedUp.inj same
          exact resolve?_of_find? found

/-- One answer keeps the meaning of all selectors. -/
theorem extends_ask {query : Query} (asked : service.ask? query = some next) :
    service.table.Extends next.table := by
  obtain ⟨_, -, ⟨signature, -, table, -, -⟩ | ⟨signature, -, table, -⟩⟩ := ask?_cases asked
  · rw [table]
    exact extends_intern signature
  · rw [table]
    exact .refl _

/-- Any number of answers keep a table faithful to its history and the meaning of all
    selectors. -/
theorem Faithful.run (faithful : service.Faithful load limit) {queries : List Query}
    (ran : service.run? queries = some next) :
    next.Faithful load limit ∧ service.table.Extends next.table := by
  induction queries generalizing service with
  | nil =>
    cases ran
    exact ⟨faithful, .refl _⟩
  | cons query rest inductionHypothesis =>
    obtain ⟨between, asked, further⟩ := Option.bind_eq_some_iff.mp ran
    obtain ⟨last, extended⟩ := inductionHypothesis (faithful.ask asked) further
    exact ⟨last, (extends_ask asked).trans extended⟩

/-- Whatever has been asked of a table, in a history without panics: its signatures are those
    that were given a selector, in the order of the first time, so that selectors are the
    places in this order; a known signature is given its selector again; a new one is given
    the next selector while there is room, and is refused otherwise; signatures share a
    selector exactly if they are equal; looking up is the inverse of resolving; no selector
    ever changes its meaning; and every index into the buckets, and of a selector found
    there, is within its bounds. -/
theorem interning {buckets : Nat} {first : SelectorTable hash}
    (created : create buckets load limit = .ok first) {queries : List Query}
    (ran : (start first).run? queries = some service) :
    service.table.signatures.toList =
      (service.history.filterMap Exchange.given).eraseDups ∧
    (∀ signature selector, service.table.resolve? selector = some signature →
      service.table.intern signature = ⟨.ok selector, service.table, none⟩) ∧
    (∀ signature, (∀ selector, service.table.resolve? selector ≠ some signature) →
      if service.table.size < min limit SparseMap.capacity then
        (service.table.size + 1) * load.den ≤ Word.largest →
        service.table.bucketCount * load.num ≤ Word.largest →
          (service.table.intern signature).result = .ok service.table.size ∧
          (service.table.intern signature).table.signatures =
            service.table.signatures.push signature
      else service.table.intern signature =
        ⟨.error (.refused .outOfSelectors), service.table, none⟩) ∧
    (∀ one two signature other, service.table.resolve? one = some signature →
      service.table.resolve? two = some other → (one = two ↔ signature = other)) ∧
    (∀ signature selector, service.table.find? signature = some selector ↔
      selector < service.table.size ∧ service.table.resolve? selector = some signature) ∧
    (∀ exchange ∈ service.history, ∀ signature selector, exchange.Tells signature selector →
      service.table.find? signature = some selector) ∧
    (∀ further next, service.run? further = some next → ∀ signature selector,
      (service.table.resolve? selector = some signature →
        next.table.resolve? selector = some signature) ∧
      (service.table.find? signature = some selector →
        next.table.find? signature = some selector)) ∧
    ∀ name, bucketOf hash service.table.bucketCount name < service.table.bucketCount ∧
      bucketOf hash (service.table.bucketCount * 2) name < service.table.bucketCount * 2 ∧
      ∀ selector ∈ bucket service.table.buckets hash name, selector < service.table.size := by
  have faithful := ((faithful_start created).run ran).1
  have serviceable := faithful.serviceable
  have lawful := serviceable.lawful
  refine ⟨faithful.ordered, ?_, ?_, ?_, ?_, ?_, ?_, ?_⟩
  · intro signature selector resolved
    exact intern_of_find? (lawful.find?_eq_some_iff.mpr resolved)
  · intro signature unknown
    have absent := serviceable.find?_eq_none_iff.mpr unknown
    split
    -- Where there is room the only way to fail is a load that is no word.
    · rename_i room
      intro filled allowed
      rw [← serviceable.limit] at room
      rw [← serviceable.load] at filled allowed
      obtain ⟨added, given | ⟨-, unfit⟩⟩ := intern_of_room absent room
      · refine ⟨given, ?_⟩
        rcases added with same | same
        · rw [same]
          rfl
        · rw [same]
          rfl
      · exact absurd ⟨filled, allowed⟩ unfit
    · rename_i full
      rw [← serviceable.limit] at full
      exact intern_of_full absent full
  · intro one two signature other resolved otherResolved
    constructor
    · rintro rfl
      exact Option.some.inj (resolved.symm.trans otherResolved)
    · rintro rfl
      exact lawful.distinct one two signature resolved otherResolved
  · intro signature selector
    rw [lawful.find?_eq_some_iff]
    exact ⟨fun resolved => ⟨(Array.getElem?_eq_some_iff.mp resolved).1, resolved⟩, And.right⟩
  · intro exchange member signature selector tells
    exact lawful.find?_eq_some_iff.mpr (faithful.kept exchange member signature selector tells)
  · intro further next later signature selector
    obtain ⟨faithfulNext, extended⟩ := faithful.run later
    refine ⟨extended selector signature, fun found => ?_⟩
    exact faithfulNext.serviceable.lawful.find?_eq_some_iff.mpr
      (extended selector signature (lawful.find?_eq_some_iff.mp found))
  · intro name
    have roomy := lawful.roomy
    exact ⟨bucketOf_lt roomy name, bucketOf_lt (by omega) name,
      fun selector => serviceable.stocked _ selector⟩

/-- Two signatures of one name, of which one is asked for twice, and a third for which there is
    no room. -/
def homonyms : List Query :=
  [.intern ⟨"count", none⟩, .intern ⟨"count", some "i@:"⟩, .lookup ⟨"count", none⟩,
    .intern ⟨"count", some "q@:"⟩, .intern ⟨"count", none⟩]

/-- A table with a hash that puts everything into one bucket doubles its buckets twice, tells
    the signatures apart, and refuses the third. -/
theorem interning_of_homonyms : ∃ (first : SelectorTable fun _ => 7) (service : Service fun _ => 7),
    create 1 ⟨3, 4⟩ 2 = .ok first ∧ (start first).run? homonyms = some service ∧
      service.table.bucketCount = 4 ∧ service.table.find? ⟨"count", some "i@:"⟩ = some 1 ∧
      (service.table.intern ⟨"count", some "q@:"⟩).result = .error (.refused .outOfSelectors) := by
  let first : SelectorTable fun _ => 7 := empty 1 ⟨3, 4⟩ 2
  have created : create 1 ⟨3, 4⟩ 2 = .ok first := rfl
  have checked : ((start first).run? homonyms).map
      (fun service => (service.table.signatures, service.table.bucketCount)) =
      some (#[⟨"count", none⟩, ⟨"count", some "i@:"⟩], 4) := by decide +kernel
  obtain ⟨service, ran, same⟩ := Option.map_eq_some_iff.mp checked
  obtain ⟨stored, doubled⟩ := Prod.mk.inj same
  obtain ⟨-, -, new, -, found, -⟩ := interning created ran
  have unknown : ∀ selector, service.table.resolve? selector ≠ some ⟨"count", some "q@:"⟩ := by
    intro selector
    rw [resolve?, stored]
    rcases selector with _ | _ | selector
    · decide
    · decide
    · simp
  have refused := new ⟨"count", some "q@:"⟩ unknown
  rw [size, stored, if_neg (by decide)] at refused
  refine ⟨first, service, created, ran, doubled, (found _ 1).mpr ?_, by rw [refused]⟩
  rw [size, resolve?, stored]
  decide

end Service

end LateBinding.SelectorTable
