/-!
# Text that may hold lone surrogates

A value's text is a list of code points, and a code point is a character or a lone surrogate. What is
written to a sink, and what is read back as source, is a list of characters; `chars?` is the only way
from the one to the other, and it fails exactly on a lone surrogate.
-/

namespace StarlarkMacro

inductive CodePoint where
  | char (c : Char)
  /-- The surrogate `U+D800 + offset`. -/
  | surrogate (offset : Fin 0x800)
  deriving DecidableEq, Repr, Inhabited

namespace CodePoint

def val : CodePoint → Nat
  | char c => c.toNat
  | surrogate offset => 0xD800 + offset.val

/-- The code point of a number; a number above `U+10FFFF` has none. -/
def ofNat? (n : Nat) : Option CodePoint :=
  if n.isValidChar then some (char (Char.ofNat n))
  else if h : 0xD800 ≤ n ∧ n < 0xE000 then some (surrogate ⟨n - 0xD800, by omega⟩)
  else none

def char? : CodePoint → Option Char
  | char c => some c
  | surrogate _ => none

end CodePoint

abbrev Text := List CodePoint

namespace Text

def ofChars (cs : List Char) : Text := cs.map .char

def ofString (s : String) : Text := ofChars s.toList

instance : Coe String Text := ⟨ofString⟩

/-- The characters of a text without lone surrogates. -/
def chars? (t : Text) : Option (List Char) := t.mapM CodePoint.char?

def join (separator : Text) (parts : List Text) : Text := separator.intercalate parts

@[simp] theorem ofChars_nil : ofChars [] = [] := rfl

@[simp] theorem ofChars_cons (c : Char) (cs : List Char) :
    ofChars (c :: cs) = .char c :: ofChars cs := rfl

@[simp] theorem ofChars_append (a b : List Char) : ofChars (a ++ b) = ofChars a ++ ofChars b :=
  List.map_append

@[simp] theorem chars?_ofChars (cs : List Char) : chars? (ofChars cs) = some cs := by
  induction cs with
  | nil => rfl
  | cons c cs ih => simp_all [chars?, CodePoint.char?]

theorem eq_ofChars_of_chars? {t : Text} {cs : List Char} (h : t.chars? = some cs) :
    t = ofChars cs := by
  induction t generalizing cs with
  | nil => simp_all [chars?]
  | cons c t ih =>
    cases c with
    | surrogate => simp [chars?, CodePoint.char?] at h
    | char c =>
      simp only [chars?, List.mapM_cons, CodePoint.char?, Option.pure_def, Option.bind_eq_bind,
        Option.bind_some, Option.bind_eq_some_iff] at h
      obtain ⟨ds, hd, h⟩ := h
      cases h
      rw [ih hd, ofChars_cons]

theorem ofChars_injective {a b : List Char} (h : ofChars a = ofChars b) : a = b := by
  simpa only [chars?_ofChars, Option.some.injEq] using congrArg chars? h

end Text

end StarlarkMacro
