import Mathlib.Data.List.TakeWhile
import LateBinding.Log.Logger

/-!
# Reading levels by name

A level is read from a text that is one of its names, in letters of either case, with white
space around it. The white space is that of Unicode and the letters are those of ASCII. Both
are written out here as lists of characters, apart from the ranges and offsets that the
reader computes with, so what is accepted can be checked against the lists: a no-break space
is dropped and a zero-width space is not, and the Kelvin sign and the long s stand for no
letter.

Trimming takes a text apart into white space, a middle part that neither begins nor ends
with it, and white space, and does not depend on how much of it there is. So the text of a
level is known by the names, whatever stands around them, and any other text is refused with
a message that shows it.
-/

namespace LateBinding

namespace Text

/-- The characters with the White_Space property, in the order of their code points. -/
def whiteSpace : List Char :=
  ['\t', '\n', '\u000b', '\u000c', '\r', ' ', '\u0085', '\u00a0', '\u1680', '\u2000', '\u2001',
   '\u2002', '\u2003', '\u2004', '\u2005', '\u2006', '\u2007', '\u2008', '\u2009', '\u200a',
   '\u2028', '\u2029', '\u202f', '\u205f', '\u3000']

/-- The capital letters of ASCII, each with the small letter it becomes. -/
def capitals : List (Char × Char) :=
  "ABCDEFGHIJKLMNOPQRSTUVWXYZ".toList.zip "abcdefghijklmnopqrstuvwxyz".toList

/-- A character with its case folded: only the capitals of ASCII change. -/
def folded (c : Char) : Char :=
  (capitals.lookup c).getD c

/-- Blanks are those of the list. -/
theorem isBlank_iff_mem_whiteSpace (c : Char) : isBlank c = true ↔ c ∈ whiteSpace := by
  simp only [isBlank, blankRanges, whiteSpace, List.any_cons, List.any_nil, Bool.or_eq_true,
    Bool.and_eq_true, decide_eq_true_eq, List.mem_cons, Char.ext_iff, ← UInt32.toNat_inj,
    Char.toNat]
  simp
  omega

/-- The capitals are the twenty-six of ASCII. -/
theorem mem_capitals_iff (c : Char) :
    c ∈ capitals.map Prod.fst ↔ 'A'.toNat ≤ c.toNat ∧ c.toNat ≤ 'Z'.toNat := by
  simp [capitals, Char.ext_iff, ← UInt32.toNat_inj]
  omega

/-- Anything else is folded to itself. -/
theorem folded_of_not_mem {c : Char} (small : c ∉ capitals.map Prod.fst) : folded c = c := by
  have missing : capitals.lookup c = none := by
    rw [List.lookup_eq_none_iff]
    rintro ⟨capital, letter⟩ member
    have apart : c ≠ capital := fun same => small (same ▸ List.mem_map_of_mem member)
    simpa using apart
  rw [folded, missing, Option.getD_none]

/-- This is how a character is put in lower case. -/
theorem toLower_eq_folded (c : Char) : c.toLower = folded c := by
  by_cases capital : c ∈ capitals.map Prod.fst
  · have listed : ((capitals.map Prod.fst).all fun c => c.toLower == folded c) = true := by decide
    exact beq_iff_eq.mp (List.all_eq_true.mp listed c capital)
  · rw [folded_of_not_mem capital]
    rw [mem_capitals_iff] at capital
    exact dif_neg capital

/-- No letter is white space, whatever its case. -/
theorem isBlank_folded (c : Char) : isBlank (folded c) = isBlank c := by
  by_cases capital : c ∈ capitals.map Prod.fst
  · have listed : ((capitals.map Prod.fst).all fun c =>
        isBlank (folded c) == isBlank c) = true := by decide
    exact beq_iff_eq.mp (List.all_eq_true.mp listed c capital)
  · rw [folded_of_not_mem capital]

variable {before text after : List Char}

/-- Blanks around a text are trimmed away. -/
theorem trim_append (blankBefore : ∀ c ∈ before, isBlank c = true)
    (blankAfter : ∀ c ∈ after, isBlank c = true) :
    trim (before ++ text ++ after) = trim text := by
  have noneAfter : after.dropWhile isBlank = [] := List.dropWhile_eq_nil_iff.mpr blankAfter
  have reversed : ∀ c ∈ after.reverse, isBlank c = true := by simpa using blankAfter
  rw [trim, trim, List.append_assoc, List.dropWhile_append_of_pos blankBefore,
    List.dropWhile_append]
  split
  · rename_i all
    rw [noneAfter, List.isEmpty_iff.mp all]
  · rw [List.reverse_append, List.dropWhile_append_of_pos reversed]

/-- Trimming only takes white space away, and only at the ends. -/
theorem trim_split (text : List Char) :
    ∃ before after, text = before ++ trim text ++ after ∧
      (∀ c ∈ before, isBlank c = true) ∧ ∀ c ∈ after, isBlank c = true := by
  refine ⟨text.takeWhile isBlank, ((text.dropWhile isBlank).reverse.takeWhile isBlank).reverse,
    ?_, fun c taken => List.mem_takeWhile_imp taken, fun c taken => ?_⟩
  · rw [trim, List.append_assoc, ← List.reverse_append, List.takeWhile_append_dropWhile,
      List.reverse_reverse, List.takeWhile_append_dropWhile]
  · exact List.mem_takeWhile_imp (List.mem_reverse.mp taken)

/-- A text without blanks is its own core. -/
theorem trim_of_no_blank (solid : ∀ c ∈ text, isBlank c = false) : trim text = text := by
  have kept : ∀ {part : List Char}, (∀ c ∈ part, isBlank c = false) →
      part.dropWhile isBlank = part := fun {part} solid => by
    cases part with
    | nil => rfl
    | cons first rest => rw [List.dropWhile_cons_of_neg (by simp [solid first])]
  rw [trim, kept solid, kept (by simpa using solid), List.reverse_reverse]

/-- Folding and trimming can be done in either order. -/
theorem trim_map_folded (text : List Char) : trim (text.map folded) = (trim text).map folded := by
  have same : isBlank ∘ folded = isBlank := funext isBlank_folded
  rw [trim, trim, List.dropWhile_map, ← List.map_reverse, List.dropWhile_map, ← List.map_reverse,
    same]

end Text

namespace Log.Level

open Text

/-- The names of the levels. -/
inductive Named : Level → String → Prop
  | error : Named .error "error"
  | warn : Named .warn "warn"
  | warning : Named .warn "warning"
  | info : Named .info "info"
  | debug : Named .debug "debug"
  | trace : Named .trace "trace"

/-- A text spells a level when it is one of its names, in letters of either case, with white
    space around it. -/
def Spelled (level : Level) (text : String) : Prop :=
  ∃ before word after : List Char, text.toList = before ++ word ++ after ∧
    (∀ c ∈ before, c ∈ whiteSpace) ∧ (∀ c ∈ after, c ∈ whiteSpace) ∧
      ∃ name, level.Named name ∧ word.map folded = name.toList

/-- The text without the white space around it, its case folded. -/
def core (text : String) : List Char :=
  (trim text.toList).map folded

/-- A level is read from its names. -/
theorem mem_names_iff {level : Level} {name : String} : name ∈ level.names ↔ level.Named name := by
  constructor
  · intro listed
    cases level <;> simp only [names, List.mem_cons, List.not_mem_nil, or_false] at listed
    case warn =>
      rcases listed with rfl | rfl
      · exact .warn
      · exact .warning
    all_goals subst listed; constructor
  · intro named
    cases named <;> decide

/-- A text is read as a level if its core is a name of the level. -/
theorem parse?_eq_some_iff {text : String} {level : Level} :
    parse? text = some level ↔ ∃ name, level.Named name ∧ core text = name.toList := by
  have word : (trim text.toList).map Char.toLower = core text := by
    rw [core, funext toLower_eq_folded]
  rw [parse?, word]
  constructor
  · intro found
    have spelled := List.find?_some found
    rw [List.any_eq_true] at spelled
    obtain ⟨name, listed, same⟩ := spelled
    exact ⟨name, mem_names_iff.mp listed, (beq_iff_eq.mp same).symm⟩
  · rintro ⟨name, named, same⟩
    rw [same]
    cases named <;> rfl

/-- The middle of a text is a name exactly if the text spells it out. -/
theorem spelled_iff_core {text : String} {level : Level} :
    level.Spelled text ↔ ∃ name, level.Named name ∧ core text = name.toList := by
  simp only [Spelled, ← isBlank_iff_mem_whiteSpace]
  constructor
  · rintro ⟨before, word, after, parts, blankBefore, blankAfter, name, named, spelled⟩
    have listed : (name.toList.all fun c => !isBlank c) = true := by cases named <;> decide
    have solid : ∀ c ∈ name.toList, isBlank c = false := by simpa using listed
    refine ⟨name, named, ?_⟩
    rw [core, parts, trim_append blankBefore blankAfter, ← trim_map_folded, spelled,
      trim_of_no_blank solid]
  · rintro ⟨name, named, same⟩
    obtain ⟨before, after, parts, blankBefore, blankAfter⟩ := trim_split text.toList
    exact ⟨before, trim text.toList, after, parts, blankBefore, blankAfter, name, named, same⟩

/-- That is, if it spells the level. -/
theorem parse?_eq_some_iff_spelled {text : String} {level : Level} :
    parse? text = some level ↔ level.Spelled text :=
  parse?_eq_some_iff.trans spelled_iff_core.symm

/-- Reading with a rejection reads the same levels. -/
theorem toOption_read (text : String) : (read text).toOption = parse? text := by
  rw [read]
  split <;> simp_all [Except.toOption]

/-- What is not rejected spells the level it is read as. -/
theorem read_eq_ok_iff {text : String} {level : Level} :
    read text = .ok level ↔ level.Spelled text := by
  rw [← parse?_eq_some_iff_spelled, ← toOption_read]
  cases read text <;> simp [Except.toOption]

/-- What is read depends on the middle of a text only, and on that without its case. -/
theorem parse?_congr {text other : String} (same : core text = core other) :
    parse? text = parse? other := by
  ext level
  rw [parse?_eq_some_iff, parse?_eq_some_iff, same]

/-- What spells no level is rejected. -/
theorem read_of_no_level {text : String} (none : ∀ level : Level, ¬ level.Spelled text) :
    read text = .error (rejection text) := by
  have missing : parse? text = Option.none :=
    Option.eq_none_iff_forall_ne_some.mpr fun level found =>
      none level (parse?_eq_some_iff_spelled.mp found)
  rw [read, missing]

/-- A rejection quotes the text as it was given. -/
theorem toList_infix_rejection (text : String) : text.toList <:+: (rejection text).toList := by
  have shown : ∀ start : String, text.toList <:+: (start ++ text).toList := fun start => by
    rw [String.toList_append]
    exact (List.suffix_append start.toList text.toList).isInfix
  exact shown _

/-- A level is read from exactly the texts that spell it, any other text is refused with a
    message that holds it unchanged, and neither white space around a text nor the case of
    its letters makes a difference. The threshold a process starts with is what its setting
    spells, or `warn`. -/
theorem read_exactly (text : String) :
    (∀ level : Level, read text = .ok level ↔ level.Spelled text) ∧
    ((∀ level : Level, ¬ level.Spelled text) →
      ∃ message, read text = .error message ∧ text.toList <:+: message.toList) ∧
    (∀ before after : List Char, (∀ c ∈ before, c ∈ whiteSpace) → (∀ c ∈ after, c ∈ whiteSpace) →
      (read (String.ofList (before ++ text.toList ++ after))).toOption = (read text).toOption) ∧
    (∀ other : String, other.toList.map folded = text.toList.map folded →
      (read other).toOption = (read text).toOption) ∧
    ofSetting none = .warn ∧
    (∀ level : Level, read text = .ok level → ofSetting (some text) = level) ∧
    (∀ message, read text = .error message → ofSetting (some text) = .warn) := by
  have setting : ofSetting (some text) = ((read text).toOption).getD .warn := by
    rw [toOption_read]
    rfl
  refine ⟨fun level => read_eq_ok_iff, fun none => ?_, fun before after white whiteAfter => ?_,
    fun other same => ?_, rfl, fun level found => ?_, fun message refused => ?_⟩
  · exact ⟨_, read_of_no_level none, toList_infix_rejection text⟩
  · simp only [← isBlank_iff_mem_whiteSpace] at white whiteAfter
    rw [toOption_read, toOption_read]
    apply parse?_congr
    rw [core, String.toList_ofList, trim_append white whiteAfter, core]
  · rw [toOption_read, toOption_read]
    apply parse?_congr
    rw [core, core, ← trim_map_folded, same, trim_map_folded]
  · rw [setting, found]
    rfl
  · rw [setting, refused]
    rfl

/-- A name between a no-break space and a tab, in letters of both cases. -/
theorem read_between_blanks :
    Level.Spelled .warn "\u00a0WaRning\t" ∧ read "\u00a0WaRning\t" = .ok .warn := by
  have spelled : Level.Spelled .warn "\u00a0WaRning\t" := by
    refine ⟨['\u00a0'], "WaRning".toList, ['\t'], rfl, ?_, ?_, "warning", .warning, ?_⟩
    · exact List.forall_mem_singleton.mpr (by decide)
    · exact List.forall_mem_singleton.mpr (by decide)
    · decide +kernel
  exact ⟨spelled, ((read_exactly _).1 .warn).mpr spelled⟩

end Log.Level

end LateBinding
