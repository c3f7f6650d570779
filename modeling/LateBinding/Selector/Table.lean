import LateBinding.SparseMap.Basic
import LateBinding.Word

/-!
# Selector interning

A message is named by a signature: a name and, optionally, a type encoding. Interning
gives each signature a small number, the selector, in the order of first use and never
again to another signature. The number is the key of every dispatch table, so there are
no more of them than a sparse map has keys.

The table finds a signature by the hash of its name alone. Signatures of one name share
a bucket and are told apart by comparing them whole. The hash is a parameter, because
nothing that the table answers depends on it. The number of buckets is a power of two;
it doubles, at most once per new signature, when the load factor is exceeded. Whether it
is exceeded is decided by comparing two products of words, and a product that is no word
is a panic. The new signature has its selector by then.

Interning is two phases. The first only reads; a miss goes on to the second, which
looks again before it adds, since another caller may have added the signature between
the two.
-/

namespace LateBinding

/-- The number of an interned signature. -/
abbrev Selector := Nat

/-- What a message is called: a name and an optional type encoding. -/
structure Signature where
  name : String
  types : Option String
deriving DecidableEq, Inhabited

/-- The structured description of a signature. -/
def Signature.form (signature : Signature) : Text.Form :=
  .record "SelectorInfo"
    [("name", .text signature.name), ("types", .textOption signature.types)] true

/-- The structured description of a selector. -/
def Selector.form (selector : Selector) : Text.Form :=
  .word ("Sel(" ++ toString selector ++ ")")

/-- The fill at which a table grows, as a ratio of signatures to buckets. -/
structure LoadFactor where
  num : Nat
  den : Nat
deriving DecidableEq, Inhabited

/-- Interned signatures in the order of their selectors, and for each bucket the
    selectors whose names hash into it. -/
structure SelectorTable (hash : String → Nat) where
  signatures : Array Signature
  buckets : Array (List Selector)
  load : LoadFactor
  /-- The number of selectors this table may hand out. -/
  limit : Nat

namespace SelectorTable

variable {hash : String → Nat}

/-- An empty table with so many buckets. The limit never exceeds the number of keys of a
    dispatch table. -/
def empty (buckets : Nat) (load : LoadFactor) (limit : Nat) : SelectorTable hash where
  signatures := #[]
  buckets := Array.replicate buckets []
  load := load
  limit := min limit SparseMap.capacity

/-- The room a bucket takes, in bytes. -/
def bucketBytes : Nat := 24

/-- The largest room that anything can take, in bytes. -/
def largestRoom : Nat := 0x7FFFFFFFFFFFFFFF

/-- A new table. The number of buckets is rounded up to a power of two. -/
def create (buckets : Nat) (load : LoadFactor) (limit : Nat) :
    Except Panic (SelectorTable hash) :=
  match Word.roundUp buckets with
  | .error panic => .error panic
  | .ok count =>
    if count * bucketBytes ≤ largestRoom then .ok (empty count load limit)
    else .error .capacityOverflow

instance : Inhabited (SelectorTable hash) := ⟨empty 1 ⟨1, 1⟩ 0⟩

/-- The number of interned signatures. -/
def size (table : SelectorTable hash) : Nat := table.signatures.size

/-- The number of buckets. -/
def bucketCount (table : SelectorTable hash) : Nat := table.buckets.size

/-- The bucket of a name among `count` buckets: the low bits of its hash. -/
def bucketOf (hash : String → Nat) (count : Nat) (name : String) : Nat :=
  hash name &&& (count - 1)

/-- The selector of a signature, if it was interned. Only one bucket is searched. -/
def find? (table : SelectorTable hash) (signature : Signature) : Option Selector :=
  (table.buckets.getD (bucketOf hash table.bucketCount signature.name) []).find? fun selector =>
    table.signatures[selector]? == some signature

/-- The signature of a selector, if the selector came from this table. -/
def resolve? (table : SelectorTable hash) (selector : Selector) : Option Signature :=
  table.signatures[selector]?

/-- The name of a selector for diagnostics. A selector of another table has none here. -/
def nameOf (table : SelectorTable hash) (selector : Selector) : String :=
  ((table.resolve? selector).map Signature.name).getD "<unknown>"

/-- Adds a selector to the bucket of its name. -/
def place (hash : String → Nat) (buckets : Array (List Selector)) (selector : Selector)
    (name : String) : Array (List Selector) :=
  buckets.modify (bucketOf hash buckets.size name) (selector :: ·)

/-- Adds a signature that is not yet interned, under the next selector. -/
def append (table : SelectorTable hash) (signature : Signature) : SelectorTable hash :=
  let selector := table.size
  { table with
    signatures := table.signatures.push signature
    buckets := place hash table.buckets selector signature.name }

/-- Whether there are more signatures than the load factor allows. -/
def overloaded (table : SelectorTable hash) : Except Panic Bool :=
  match Word.product table.size table.load.den, Word.product table.bucketCount table.load.num with
  | .ok filled, .ok allowed => .ok (filled > allowed)
  | .error panic, _ => .error panic
  | _, .error panic => .error panic

/-- Doubles the buckets and places every selector again. -/
def grow (table : SelectorTable hash) : SelectorTable hash :=
  { table with
    buckets := (table.signatures.toList.zipIdx).foldl
      (fun buckets (signature, selector) => place hash buckets selector signature.name)
      (Array.replicate (table.bucketCount * 2) []) }

/-- What interning gives: a selector or a failure, the table afterwards, and the new
    number of buckets if the table grew. -/
structure Interned (hash : String → Nat) where
  result : Except Failure Selector
  table : SelectorTable hash
  grown : Option Nat := none

/-- The second phase: looks again, and adds the signature if it is still missing. -/
def claim (table : SelectorTable hash) (signature : Signature) : Interned hash :=
  match table.find? signature with
  | some selector => { result := .ok selector, table }
  | none =>
    if table.size < table.limit then
      let selector := table.size
      let added := table.append signature
      match added.overloaded with
      | .error panic => { result := .error (.panicked panic), table := added }
      | .ok true =>
        let grown := added.grow
        { result := .ok selector, table := grown, grown := some grown.bucketCount }
      | .ok false => { result := .ok selector, table := added }
    else { result := .error (.refused .outOfSelectors), table }

/-- The selector of a signature, interned on first use. -/
def intern (table : SelectorTable hash) (signature : Signature) : Interned hash :=
  match table.find? signature with
  | some selector => { result := .ok selector, table }
  | none => table.claim signature

/-- The structured description: how many signatures and how many buckets. -/
def form (table : SelectorTable hash) : Text.Form :=
  .record "SelectorTable" [("len", .number table.size), ("buckets", .number table.bucketCount)] true

/-- What a table reports when it has grown. -/
def growthReport (buckets : Nat) : String :=
  "selector table grew to " ++ toString buckets ++ " buckets"

end SelectorTable

/-- The hash by which images find signatures. It is the same for all of them, and nothing that is
    said of them depends on which one it is. -/
class NameHash where
  hash : String → Nat

/-- The characters of a name as digits in base 31. -/
def nameHash (name : String) : Nat :=
  name.toList.foldl (fun sum c => (sum * 31 + c.toNat) % 0x100000000) 0

/-- The hash to run with. -/
instance : NameHash where
  hash := nameHash

end LateBinding
