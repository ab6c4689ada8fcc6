import StarlarkMacro.Proofs.Identifier
import Mathlib.Computability.RegularExpressions

/-!
# Names that collide

The form of a name as a regular expression, and which names are used alike. A value is used under a name
exactly if it is a text of the form. The name in use has the form itself, is not reserved, and is used
unchanged from then on. Two texts that are used under one name are the same text, or one of them is a
reserved word and the other is that word with an underscore behind it.
-/

namespace StarlarkMacro.Identifier

/-! ## The form of a name -/

/-- The words of one of the characters. -/
def oneOf (cs : List Char) : RegularExpression Char := (cs.map .char).sum

def letters : List Char := "ABCDEFGHIJKLMNOPQRSTUVWXYZabcdefghijklmnopqrstuvwxyz_".toList

def digits : List Char := "0123456789".toList

/-- `[A-Za-z_][A-Za-z0-9_]*` -/
def pattern : RegularExpression Char := oneOf letters * (oneOf (letters ++ digits)).star

theorem mem_matches'_oneOf {cs name : List Char} :
    name ∈ (oneOf cs).matches' ↔ ∃ c ∈ cs, name = [c] := by
  induction cs with
  | nil => simp [oneOf]
  | cons c cs ih =>
    have hcons : (oneOf (c :: cs)).matches' = {[c]} + (oneOf cs).matches' := rfl
    have hsingleton : name ∈ ({[c]} : Language Char) ↔ name = [c] := Iff.rfl
    rw [hcons, Language.mem_add, hsingleton, ih]
    simp

theorem mem_matches'_star_oneOf {cs name : List Char} :
    name ∈ (oneOf cs).star.matches' ↔ ∀ c ∈ name, c ∈ cs := by
  rw [RegularExpression.matches'_star, Language.mem_kstar]
  simp only [mem_matches'_oneOf]
  constructor
  · rintro ⟨words, rfl, hwords⟩ c hc
    obtain ⟨word, hword, hmem⟩ := List.mem_flatten.1 hc
    obtain ⟨d, hd, rfl⟩ := hwords word hword
    rwa [List.mem_singleton.1 hmem]
  · intro h
    refine ⟨name.map ([·]), ?_, fun word hword ↦ ?_⟩
    · rw [← List.flatMap_def, List.flatMap_singleton']
    · obtain ⟨c, hc, rfl⟩ := List.mem_map.1 hword
      exact ⟨c, h c hc, rfl⟩

/-- A list of ASCII characters holds those of a class if it does so for the first 128. -/
theorem mem_iff_of_ascii {cs : List Char} {p : Char → Bool} (hlt : ∀ c, p c = true → c.toNat < 128)
    (hmem : cs.all p = true) (h : ∀ n : Fin 128, p (Char.ofNat n) = true → Char.ofNat n ∈ cs)
    (c : Char) : c ∈ cs ↔ p c = true := by
  refine ⟨List.all_eq_true.1 hmem c, fun hp ↦ ?_⟩
  have hc := h ⟨c.toNat, hlt c hp⟩
  rw [Char.ofNat_toNat] at hc
  exact hc hp

theorem mem_letters_iff (c : Char) : c ∈ letters ↔ isLetter c = true :=
  mem_iff_of_ascii (fun _ ↦ toNat_lt_of_isLetter) (by decide) (by decide) c

theorem mem_digits_iff (c : Char) : c ∈ digits ↔ isDigit c = true := by
  refine mem_iff_of_ascii (fun c hc ↦ ?_) (by decide) (by decide) c
  simp only [isDigit, Bool.and_eq_true, decide_eq_true_eq] at hc
  exact Nat.lt_of_le_of_lt (show c.toNat ≤ '9'.toNat from hc.2) (by decide)

/-- The regular expression and the check by characters accept the same names. -/
theorem mem_matches'_pattern_iff {name : List Char} :
    name ∈ pattern.matches' ↔ isValid name = true := by
  have hnameChar (c : Char) : c ∈ letters ++ digits ↔ isNameChar c = true := by
    rw [List.mem_append, mem_letters_iff, mem_digits_iff, isNameChar, Bool.or_eq_true]
  rw [pattern, RegularExpression.matches'_mul, Language.mem_mul]
  simp only [mem_matches'_oneOf, mem_matches'_star_oneOf, hnameChar, mem_letters_iff]
  constructor
  · rintro ⟨-, ⟨c, hc, rfl⟩, cs, hcs, rfl⟩
    simpa [isValid, hc] using hcs
  · intro h
    obtain ⟨c, cs, rfl, hc, hcs⟩ := exists_eq_cons_of_isValid h
    exact ⟨[c], ⟨c, hc, rfl⟩, cs, hcs, rfl⟩

/-! ## Names in use -/

section Sanitize

variable {name other used : List Char}

theorem exists_sanitize?_iff : (∃ used, sanitize? name = some used) ↔ isValid name = true := by
  unfold sanitize?
  cases isValid name <;> cases isReserved name <;> simp

theorem sanitize?_of_not_isReserved (hvalid : isValid name = true) (hfree : isReserved name = false) :
    sanitize? name = some name := by
  simp [sanitize?, hvalid, hfree]

/-- A name is used unchanged, or it is reserved and used with an underscore behind it. -/
theorem eq_or_isReserved_of_sanitize? (h : sanitize? name = some used) :
    (isReserved name = false ∧ used = name) ∨ (isReserved name = true ∧ used = name ++ ['_']) := by
  unfold sanitize? at h
  split at h
  · cases h
  · split at h
    · exact .inr ⟨‹_›, (Option.some.inj h).symm⟩
    · exact .inl ⟨Bool.eq_false_iff.2 ‹_›, (Option.some.inj h).symm⟩

theorem sanitize?_used (h : sanitize? name = some used) : sanitize? used = some used := by
  obtain ⟨hvalid, hfree⟩ := isValid_of_sanitize? h
  exact sanitize?_of_not_isReserved hvalid hfree

/-- One of two names is a reserved word, and the other is that word with an underscore behind it. -/
def CollideByEscape (name other : List Char) : Prop :=
  (isReserved name = true ∧ other = name ++ ['_']) ∨ (isReserved other = true ∧ name = other ++ ['_'])

/-- Two names are used as one only if one of them is reserved and the other is its escape. -/
theorem eq_or_collideByEscape (h : sanitize? name = some used) (h' : sanitize? other = some used) :
    name = other ∨ CollideByEscape name other := by
  obtain ⟨-, rfl⟩ | ⟨hreserved, rfl⟩ := eq_or_isReserved_of_sanitize? h
  · obtain ⟨-, rfl⟩ | ⟨hreserved, rfl⟩ := eq_or_isReserved_of_sanitize? h'
    · exact .inl rfl
    · exact .inr (.inr ⟨hreserved, rfl⟩)
  · obtain ⟨-, rfl⟩ | ⟨-, heq⟩ := eq_or_isReserved_of_sanitize? h'
    · exact .inr (.inl ⟨hreserved, rfl⟩)
    · exact .inl (List.append_cancel_right heq)

end Sanitize

theorem ofValue?_eq_some_iff {v : Value} {used : List Char} :
    ofValue? v = some used ↔
      ∃ name, v.text? = some (Text.ofChars name) ∧ sanitize? name = some used := by
  constructor
  · intro h
    obtain ⟨name, hname, hused⟩ := Option.bind_eq_some_iff.1 h
    obtain ⟨t, ht, hchars⟩ := Option.bind_eq_some_iff.1 hname
    rw [Text.eq_ofChars_of_chars? hchars] at ht
    exact ⟨name, ht, hused⟩
  · rintro ⟨name, ht, hused⟩
    refine Option.bind_eq_some_iff.2 ⟨name, Option.bind_eq_some_iff.2 ⟨_, ht, ?_⟩, hused⟩
    exact Text.chars?_ofChars name

/-- What is known of the name in use for a text. -/
structure IsUsedAs (name used : List Char) : Prop where
  form : used ∈ pattern.matches'
  not_reserved : isReserved used = false
  unchanged : isReserved name = false → used = name
  /-- To use the name in use changes nothing. -/
  fixed : ∀ v : Value, v.text? = some (Text.ofChars used) → ofValue? v = some used
  collision : ∀ (v : Value) (other : List Char), v.text? = some (Text.ofChars other) →
    ofValue? v = some used → name = other ∨ CollideByEscape name other

theorem isUsedAs_of_sanitize? {name used : List Char} (h : sanitize? name = some used) :
    IsUsedAs name used := by
  obtain ⟨hvalid, hfree⟩ := isValid_of_sanitize? h
  refine ⟨mem_matches'_pattern_iff.2 hvalid, hfree, fun hname ↦ ?_, fun v hv ↦ ?_, ?_⟩
  · obtain ⟨-, hused⟩ | ⟨hreserved, -⟩ := eq_or_isReserved_of_sanitize? h
    · exact hused
    · cases hname.symm.trans hreserved
  · exact ofValue?_eq_some_iff.2 ⟨used, hv, sanitize?_used h⟩
  · intro v other hv hother
    obtain ⟨text, ht, hused⟩ := ofValue?_eq_some_iff.1 hother
    obtain rfl := Text.ofChars_injective (Option.some.inj (hv.symm.trans ht))
    exact eq_or_collideByEscape h hused

/-- A value is valid, and has a name to be used under, exactly if it is a text of the form. The name in use
collides only where a reserved word meets the word with an underscore behind it. -/
theorem exists_used_iff_and_isUsedAs (v : Value) :
    (isValidValue v = true ↔ ∃ used, ofValue? v = some used) ∧
    ((∃ used, ofValue? v = some used) ↔
      ∃ name ∈ pattern.matches', v.text? = some (Text.ofChars name)) ∧
    ∀ name used, v.text? = some (Text.ofChars name) → ofValue? v = some used → IsUsedAs name used := by
  refine ⟨isValidValue_eq_true_iff, ?_, fun name used hname hused ↦ ?_⟩
  · simp only [ofValue?_eq_some_iff, mem_matches'_pattern_iff, ← exists_sanitize?_iff]
    constructor
    · rintro ⟨used, name, htext, hused⟩
      exact ⟨name, ⟨used, hused⟩, htext⟩
    · rintro ⟨name, ⟨used, hused⟩, htext⟩
      exact ⟨used, name, htext, hused⟩
  · obtain ⟨text, htext, hsanitize⟩ := ofValue?_eq_some_iff.1 hused
    obtain rfl := Text.ofChars_injective (Option.some.inj (hname.symm.trans htext))
    exact isUsedAs_of_sanitize? hsanitize

/-- A reserved word and the name that it is used under. -/
theorem exists_used_iff_and_isUsedAs_if :
    IsUsedAs "if".toList "if_".toList ∧ ofValue? (.text "if_" true) = some "if_".toList ∧
      CollideByEscape "if".toList "if_".toList := by
  obtain ⟨-, -, hused⟩ := exists_used_iff_and_isUsedAs (.text "if" false)
  have hif : IsUsedAs "if".toList "if_".toList := hused _ _ (by decide) (by decide)
  have hfixed : ofValue? (.text "if_" true) = some "if_".toList := hif.fixed _ (by decide)
  obtain heq | hcollide := hif.collision (.text "if_" true) "if_".toList (by decide) hfixed
  · cases heq
  · exact ⟨hif, hfixed, hcollide⟩

end StarlarkMacro.Identifier
