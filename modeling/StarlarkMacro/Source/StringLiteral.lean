import StarlarkMacro.Source.Lexeme
import StarlarkMacro.CharacterName.Basic
import StarlarkMacro.Text.Shown

/-!
# What a string literal stands for

The value of a literal as it is written, with its letters and quotes. Line ends inside it count as line
feeds. A backslash before a line end joins the lines, and one before a character that it does not escape
stands for itself. A malformed escape, a character above ASCII in a byte string, or a null character has
no value. A byte string is taken in the form in which messages show it.
-/

namespace StarlarkMacro.Source.StringLiteral

open Lexeme

structure Parts where
  isBytes : Bool
  isRaw : Bool
  body : List Char
  deriving DecidableEq, Repr

/-- Line ends as line feeds. -/
def unifyLineEnds : List Char → List Char
  | '\r' :: '\n' :: cs => '\n' :: unifyLineEnds cs
  | '\r' :: cs => '\n' :: unifyLineEnds cs
  | c :: cs => c :: unifyLineEnds cs
  | [] => []

def parts (literal : List Char) : Parts :=
  let mark := (literal.takeWhile isAsciiLetter).map lower
  let quoted := literal.drop mark.length
  let width := if opensLong (quoted.headD '"') quoted && 6 ≤ quoted.length then 3 else 1
  let body := (quoted.drop width).take (quoted.length - 2 * width)
  ⟨mark.contains 'b', mark.contains 'r', unifyLineEnds body⟩

def digitValue (c : Char) : Nat :=
  if isDigit c then c.toNat - '0'.toNat else (lower c).toNat - 'a'.toNat + 10

/-- The number that exactly `count` hexadecimal digits stand for. -/
def hexNumber : Nat → Nat → List Char → Option (Nat × List Char)
  | 0, n, cs => some (n, cs)
  | count + 1, n, c :: cs =>
    if isHexDigit c then hexNumber count (16 * n + digitValue c) cs else none
  | _ + 1, _, [] => none

/-- The number that at most `count` octal digits stand for. -/
def octalNumber : Nat → Nat → List Char → Nat × List Char
  | count + 1, n, c :: cs =>
    if isOctalDigit c then octalNumber count (8 * n + digitValue c) cs else (n, c :: cs)
  | _, n, cs => (n, cs)

def codePoint? (number : Option (Nat × List Char)) : Option (Text × List Char) := do
  let (n, rest) ← number
  let c ← CodePoint.ofNat? n
  return ([c], rest)

/-- The number of the character whose name stands between braces, and what follows them. -/
def namedCharacter : List Char → Option (Nat × List Char)
  | '\x7b' :: cs => do
    let name := cs.takeWhile (· != '\x7d')
    let rest := cs.drop name.length
    if rest.isEmpty then failure
    return (← CharacterName.lookup? name, rest.drop 1)
  | _ => none

def char (c : Char) (rest : List Char) : Option (Text × List Char) := some ([.char c], rest)

/-- What stands behind a backslash: the text it makes, and what follows. -/
def escape (isBytes : Bool) : List Char → Option (Text × List Char)
  | [] => none
  | c :: cs =>
    if c = '\n' then some ([], cs)
    else if c = '\\' || isQuote c then char c cs
    else if c = 'a' then char '\x07' cs
    else if c = 'b' then char '\x08' cs
    else if c = 'f' then char '\x0c' cs
    else if c = 'n' then char '\n' cs
    else if c = 'r' then char '\r' cs
    else if c = 't' then char '\t' cs
    else if c = 'v' then char '\x0b' cs
    else if isOctalDigit c then
      let (n, rest) := octalNumber 3 0 (c :: cs)
      codePoint? (some (if isBytes then n % 256 else n, rest))
    else if c = 'x' then codePoint? (hexNumber 2 0 cs)
    else if c = 'u' && !isBytes then codePoint? (hexNumber 4 0 cs)
    else if c = 'U' && !isBytes then codePoint? (hexNumber 8 0 cs)
    else if c = 'N' && !isBytes then codePoint? (namedCharacter cs)
    else some ([.char '\\', .char c], cs)

/-- The text of a body that is not raw, in at most `fuel` characters and escapes. -/
def decode (isBytes : Bool) : Nat → List Char → Option Text
  | 0, _ => none
  | _ + 1, [] => some []
  | fuel + 1, c :: cs =>
    if c = '\\' then do
      let (unit, rest) ← escape isBytes cs
      return unit ++ (← decode isBytes fuel rest)
    else do
      return .char c :: (← decode isBytes fuel cs)

def contents (p : Parts) : Option Text :=
  if p.isRaw then some (Text.ofChars p.body) else decode p.isBytes (p.body.length + 1) p.body

def bytes (t : Text) : List UInt8 := t.map fun c ↦ UInt8.ofNat c.val

/-- The text that a literal stands for. -/
def value? (literal : List Char) : Option Text :=
  let p := parts literal
  if literal.contains '\x00' then none
  else if p.isBytes then
    if p.body.all (fun c ↦ c.toNat < 0x80) then
      (contents p).map fun t ↦ Text.ofChars (Text.shownBytes (bytes t))
    else none
  else contents p

end StarlarkMacro.Source.StringLiteral
