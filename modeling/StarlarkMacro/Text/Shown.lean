import StarlarkMacro.Text.Basic
import StarlarkMacro.CharacterTable

/-!
# Text as messages show it

A message shows a text between quotes, with everything that does not print escaped, so what is shown
holds no lone surrogate and no line end. The single quote is preferred; the double one is taken for a
text that has a single quote and no double one. Byte strings are shown by the same rule with ASCII as
the only printing characters, but in those that can change a single quote is always escaped.
-/

namespace StarlarkMacro.Text

/-- Letters, marks, numbers, punctuation, symbols and the plain space. -/
def isPrintable (c : Char) : Bool :=
  if c.toNat < 0x80 then ' ' ≤ c && c ≤ '~'
  else !CharacterTable.holds CharacterTable.separatorOrOther c.toNat

def isPrintableAscii (c : Char) : Bool := ' ' ≤ c && c ≤ '~'

def hexDigits (width n : Nat) : List Char :=
  let digits := Nat.toDigits 16 n
  List.replicate (width - digits.length) '0' ++ digits

/-- The shortest of the three hexadecimal escapes that has room for `n`. -/
def hexEscape (n : Nat) : List Char :=
  if n ≤ 0xFF then '\\' :: 'x' :: hexDigits 2 n
  else if n ≤ 0xFFFF then '\\' :: 'u' :: hexDigits 4 n
  else '\\' :: 'U' :: hexDigits 8 n

def delimiter (t : Text) : Char :=
  if t.contains (.char '\x27') && !t.contains (.char '"') then '"' else '\x27'

def shownUnit (printable : Char → Bool) (quote : Char) : CodePoint → List Char
  | .surrogate offset => hexEscape (0xD800 + offset.val)
  | .char c =>
    if c = quote || c = '\\' then ['\\', c]
    else if c = '\n' then ['\\', 'n']
    else if c = '\r' then ['\\', 'r']
    else if c = '\t' then ['\\', 't']
    else if printable c then [c]
    else hexEscape c.toNat

def shownWith (printable : Char → Bool) (t : Text) : List Char :=
  let quote := t.delimiter
  quote :: t.flatMap (shownUnit printable quote) ++ [quote]

def shown (t : Text) : List Char := t.shownWith isPrintable

/-- The bytes as the characters of their numbers. -/
def ofBytes (bytes : List UInt8) : Text := bytes.map fun b ↦ .char (Char.ofNat b.toNat)

def shownBytes (bytes : List UInt8) : List Char :=
  'b' :: shownWith isPrintableAscii (ofBytes bytes)

def shownByteArray (bytes : List UInt8) : List Char :=
  let t := ofBytes bytes
  let unit (u : CodePoint) :=
    if u = .char '\x27' then ['\\', '\x27'] else shownUnit isPrintableAscii '\x27' u
  'b' :: t.delimiter :: t.flatMap unit ++ [t.delimiter]

end StarlarkMacro.Text
