import StarlarkMacro.Identifier
import StarlarkMacro.Source.Lexeme

/-!
# Names as words of a source text

The name that a value is used under is a word of ASCII characters, and never one of the words reserved for
it. The grammar of source texts has five keywords that are not reserved; any other name is a name there too.
-/

namespace StarlarkMacro.Identifier

open Source

section Valid

variable {name : List Char} (h : isValid name = true)
include h

theorem isNameChar_of_isValid : ∀ c ∈ name, isNameChar c = true := by
  cases name with
  | nil => cases h
  | cons first rest =>
    simp only [isValid, Bool.and_eq_true, List.all_eq_true] at h
    intro c hc
    rcases List.mem_cons.1 hc with rfl | hrest
    · simp [isNameChar, h.1]
    · exact h.2 c hrest

/-- A valid name is a letter or an underscore with letters, digits and underscores behind it. -/
theorem exists_eq_cons_of_isValid :
    ∃ c cs, name = c :: cs ∧ isLetter c = true ∧ ∀ d ∈ cs, isNameChar d = true := by
  cases name with
  | nil => cases h
  | cons c cs =>
    simp only [isValid, Bool.and_eq_true, List.all_eq_true] at h
    exact ⟨c, cs, rfl, h⟩

end Valid

theorem toNat_lt_of_isLetter {c : Char} (h : isLetter c = true) : c.toNat < 0x80 := by
  simp only [isLetter, Bool.or_eq_true, Bool.and_eq_true, decide_eq_true_eq] at h
  rcases h with (⟨-, hz⟩ | ⟨-, hZ⟩) | rfl
  · exact Nat.lt_of_le_of_lt (show c.toNat ≤ 'z'.toNat from hz) (by decide)
  · exact Nat.lt_of_le_of_lt (show c.toNat ≤ 'Z'.toNat from hZ) (by decide)
  · decide

theorem startsIdentifier_of_isLetter {c : Char} (h : isLetter c = true) :
    Lexeme.startsIdentifier c = true := by
  rw [Lexeme.startsIdentifier, if_pos (toNat_lt_of_isLetter h)]
  exact h

theorem isWordStart_of_isLetter {c : Char} (h : isLetter c = true) : Lexeme.isWordStart c = true := by
  simp only [isLetter] at h
  rw [Lexeme.isWordStart, Lexeme.isAsciiLetter, h, Bool.true_or]

/-- The scanner's words may have other characters as well; those of a valid name it always takes. -/
theorem isWordChar_of_isNameChar {c : Char} (h : isNameChar c = true) : Lexeme.isWordChar c = true := by
  rw [isNameChar, Bool.or_eq_true] at h
  rcases h with hletter | hdigit
  · rw [Lexeme.isWordChar, isWordStart_of_isLetter hletter, Bool.true_or]
  · rw [Lexeme.isWordChar, show Lexeme.isDigit c = true from hdigit, Bool.or_true]

theorem continuesIdentifier_of_isNameChar {c : Char} (h : isNameChar c = true) :
    Lexeme.continuesIdentifier c = true := by
  rw [isNameChar, Bool.or_eq_true] at h
  rcases h with hletter | hdigit
  · rw [Lexeme.continuesIdentifier, startsIdentifier_of_isLetter hletter, Bool.true_or, Bool.true_or]
  · rw [Lexeme.continuesIdentifier, show Lexeme.isDigit c = true from hdigit, Bool.or_true,
      Bool.true_or]

/-! ## Names that are no keywords -/

/-- A valid name that is no keyword of the grammar. -/
structure IsUsable (name : List Char) : Prop where
  isValid : isValid name = true
  not_keyword : Keyword.ofChars? name = none

namespace IsUsable

variable {name : List Char} (h : IsUsable name)
include h

theorem exists_eq_cons :
    ∃ c cs, name = c :: cs ∧ Lexeme.isWordStart c = true ∧ ∀ d ∈ cs, Lexeme.isWordChar d = true := by
  obtain ⟨c, cs, rfl, hc, hcs⟩ := exists_eq_cons_of_isValid h.isValid
  exact ⟨c, cs, rfl, isWordStart_of_isLetter hc, fun d hd ↦ isWordChar_of_isNameChar (hcs d hd)⟩

/-- The parser asks for more than the scanner, but not of an ASCII name. -/
theorem isIdentifier : Lexeme.isIdentifier name = true := by
  obtain ⟨c, cs, rfl, hc, hcs⟩ := exists_eq_cons_of_isValid h.isValid
  rw [Lexeme.isIdentifier, startsIdentifier_of_isLetter hc, Bool.true_and, List.all_eq_true]
  exact fun d hd ↦ continuesIdentifier_of_isNameChar (hcs d hd)

/-- A usable name is looked up as a name and not as a keyword. -/
theorem wordKind? : Lexeme.wordKind? name = some (.name name) := by
  have hname : Lexeme.isName name = true := by
    obtain ⟨c, cs, rfl, hc, hcs⟩ := exists_eq_cons_of_isValid h.isValid
    rw [Lexeme.isName, Lexeme.startsName, startsIdentifier_of_isLetter hc, Bool.true_or, Bool.true_and,
      List.all_eq_true]
    intro d hd
    rw [Lexeme.continuesName, continuesIdentifier_of_isNameChar (hcs d hd), Bool.or_true, Bool.true_or]
  simp only [Lexeme.wordKind?, h.not_keyword, hname, if_true]

end IsUsable

/-- The keywords of the grammar that are not reserved as names. -/
def unreservedKeywords : List (List Char) :=
  ["None".toList, "True".toList, "False".toList, "async".toList, "await".toList]

/-- The keywords of the grammar are reserved but for a few, which are listed. -/
theorem isReserved_or_unreserved (k : Keyword) :
    isReserved k.spelling.toList = true ∨ k.spelling.toList ∈ unreservedKeywords := by
  cases k <;> decide

theorem exists_keyword_of_mem_unreservedKeywords {word : List Char} (h : word ∈ unreservedKeywords) :
    ∃ k : Keyword, k.spelling.toList = word := by
  have hall : ∀ word ∈ unreservedKeywords, ∃ k ∈ Keyword.all, k.spelling.toList = word := by decide
  obtain ⟨k, -, hk⟩ := hall word h
  exact ⟨k, hk⟩

/-- No reserved word ends in an underscore, so no word that was escaped is escaped again. -/
theorem getLast?_ne_of_isReserved {name : List Char} (h : isReserved name = true) :
    name.getLast? ≠ some '_' := by
  have hall : ∀ word ∈ reserved.map String.toList, word.getLast? ≠ some '_' := by decide
  exact hall name (by simpa only [isReserved, List.contains_iff_mem] using h)

theorem isValid_append_underscore {name : List Char} (h : isValid name = true) :
    isValid (name ++ ['_']) = true := by
  have hunderscore : isNameChar '_' = true := rfl
  cases name with
  | nil => cases h
  | cons c cs =>
    simp only [isValid, Bool.and_eq_true] at h
    simp only [List.cons_append, isValid, List.all_append, List.all_cons, List.all_nil, h.1, h.2,
      hunderscore, Bool.and_true]

/-- A name in use is valid and not reserved. -/
theorem isValid_of_sanitize? {name used : List Char} (h : sanitize? name = some used) :
    isValid used = true ∧ isReserved used = false := by
  unfold sanitize? at h
  split at h
  · cases h
  · have hvalid : isValid name = true := by simpa using ‹¬(!isValid name) = true›
    split at h
    · cases h
      refine ⟨isValid_append_underscore hvalid, Bool.eq_false_iff.2 fun hreserved ↦ ?_⟩
      exact getLast?_ne_of_isReserved hreserved (by simp)
    · cases h
      exact ⟨hvalid, Bool.eq_false_iff.2 ‹_›⟩

/-- The valid values are those with a name to be used under. -/
theorem isValidValue_eq_isSome (v : Value) : isValidValue v = (ofValue? v).isSome := by
  rw [isValidValue, ofValue?]
  cases v.text? >>= Text.chars? with
  | none => rfl
  | some name =>
    change isValid name = (sanitize? name).isSome
    unfold sanitize?
    cases isValid name with
    | false => rfl
    | true => cases isReserved name <;> rfl

theorem isValidValue_eq_true_iff {v : Value} :
    isValidValue v = true ↔ ∃ used, ofValue? v = some used := by
  rw [isValidValue_eq_isSome, Option.isSome_iff_exists]

theorem isValidValue_eq_false_iff {v : Value} : isValidValue v = false ↔ ofValue? v = none := by
  rw [isValidValue_eq_isSome, Option.isSome_eq_false_iff, Option.isNone_iff_eq_none]

theorem isNameChar_of_ofValue? {v : Value} {used : List Char} (h : ofValue? v = some used) :
    ∀ c ∈ used, isNameChar c = true := by
  obtain ⟨name, -, hname⟩ := Option.bind_eq_some_iff.1 h
  exact isNameChar_of_isValid (isValid_of_sanitize? hname).1

/-- A name in use is no keyword of the grammar but for the five that are not reserved. -/
theorem isUsable_of_ofValue? {v : Value} {used : List Char} (h : ofValue? v = some used)
    (hkeyword : used ∉ unreservedKeywords) : IsUsable used := by
  obtain ⟨name, -, hname⟩ := Option.bind_eq_some_iff.1 h
  obtain ⟨hvalid, hreserved⟩ := isValid_of_sanitize? hname
  refine ⟨hvalid, List.find?_eq_none.2 fun k _ hk ↦ ?_⟩
  have hspelling : k.spelling.toList = used := by simpa using hk
  rcases isReserved_or_unreserved k with hword | hword
  · rw [hspelling, hreserved] at hword
    cases hword
  · exact hkeyword (hspelling ▸ hword)

end StarlarkMacro.Identifier
