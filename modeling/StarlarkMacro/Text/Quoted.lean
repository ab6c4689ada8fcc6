import StarlarkMacro.Text.Basic

/-!
# Quoted strings

The double-quoted form of a text in a literal. The backslash, the quote, line feed, carriage return
and tab have short escapes; every other ASCII control character is written with three octal digits,
so a digit that follows it cannot be read as part of it. All else stands for itself, lone surrogates
included.
-/

namespace StarlarkMacro.Text

namespace Quoted

def octalDigit (n : Nat) : Char := Char.ofNat ('0'.toNat + n % 8)

def octal (n : Nat) : List Char := [octalDigit (n / 64), octalDigit (n / 8), octalDigit n]

def isControl (c : Char) : Bool := c < ' ' || c = '\x7f'

def escape (c : Char) : List Char :=
  if c = '\\' then ['\\', '\\']
  else if c = '"' then ['\\', '"']
  else if c = '\n' then ['\\', 'n']
  else if c = '\r' then ['\\', 'r']
  else if c = '\t' then ['\\', 't']
  else if isControl c then '\\' :: octal c.toNat
  else [c]

def encode (cs : List Char) : List Char := '"' :: cs.flatMap escape ++ ['"']

end Quoted

def quotedUnit : CodePoint → Text
  | .char c => ofChars (Quoted.escape c)
  | unit@(.surrogate _) => [unit]

def quoted (t : Text) : Text := .char '"' :: t.flatMap quotedUnit ++ [.char '"']

theorem quoted_ofChars (cs : List Char) : quoted (ofChars cs) = ofChars (Quoted.encode cs) := by
  have flat : (ofChars cs).flatMap quotedUnit = ofChars (cs.flatMap Quoted.escape) := by
    induction cs with
    | nil => rfl
    | cons c cs ih => simp [quotedUnit, ih]
  simp [quoted, Quoted.encode, flat]

end StarlarkMacro.Text
