import StarlarkMacro.Source.Token
import StarlarkMacro.CharacterTable

/-!
# Words, numbers and strings

The longest word, number, string literal or symbol at the start of a text. Each is given by the length of
what it takes, or there is none. A line ends with a line feed, a carriage return, or the two together.
-/

namespace StarlarkMacro.Source.Lexeme

def isAsciiLetter (c : Char) : Bool := ('a' ≤ c && c ≤ 'z') || ('A' ≤ c && c ≤ 'Z')

def isDigit (c : Char) : Bool := '0' ≤ c && c ≤ '9'

def isOctalDigit (c : Char) : Bool := '0' ≤ c && c ≤ '7'

def isBinaryDigit (c : Char) : Bool := c = '0' || c = '1'

def isHexDigit (c : Char) : Bool :=
  isDigit c || ('a' ≤ c && c ≤ 'f') || ('A' ≤ c && c ≤ 'F')

def isLineEnd (c : Char) : Bool := c = '\n' || c = '\r'

/-- A space, a tab or a form feed. -/
def isBlank (c : Char) : Bool := c = ' ' || c = '\t' || c = '\x0c'

/-- The length of the blanks at the start of a text, joined lines among them. -/
def blankLength : List Char → Nat
  | '\\' :: '\r' :: '\n' :: cs => blankLength cs + 3
  | '\\' :: '\n' :: cs | '\\' :: '\r' :: cs => blankLength cs + 2
  | c :: cs => if isBlank c then blankLength cs + 1 else 0
  | [] => 0

def isWordStart (c : Char) : Bool := isAsciiLetter c || c = '_' || 0x80 ≤ c.toNat

def isWordChar (c : Char) : Bool := isWordStart c || isDigit c

def lineEndLength : List Char → Nat
  | '\r' :: '\n' :: _ => 2
  | '\n' :: _ | '\r' :: _ => 1
  | _ => 0

/-! ## Words -/

def startsIdentifier (c : Char) : Bool :=
  if c.toNat < 0x80 then isAsciiLetter c || c = '_'
  else CharacterTable.holds CharacterTable.identifierStart c.toNat

def continuesIdentifier (c : Char) : Bool :=
  startsIdentifier c || isDigit c ||
    (0x80 ≤ c.toNat && CharacterTable.holds CharacterTable.identifierOnlyContinue c.toNat)

/-- A word may hold any character above ASCII, an identifier only some. -/
def isIdentifier : List Char → Bool
  | [] => false
  | c :: cs => startsIdentifier c && cs.all continuesIdentifier

def startsName (c : Char) : Bool :=
  startsIdentifier c || CharacterTable.holds CharacterTable.laterIdentifierStart c.toNat

def continuesName (c : Char) : Bool :=
  startsName c || continuesIdentifier c ||
    CharacterTable.holds CharacterTable.laterIdentifierOnlyContinue c.toNat

/-- An identifier, or a word that a later version of the character classes makes one. -/
def isName : List Char → Bool
  | [] => false
  | c :: cs => startsName c && cs.all continuesName

/-- The keyword or name that a whole word is. -/
def wordKind? (word : List Char) : Option TokenKind :=
  match Keyword.ofChars? word with
  | some k => some (.keyword k)
  | none => if isName word then some (.name word) else none

/-! ## Numbers -/

/-- Digits that follow a digit, single underscores between them; an underscore that no digit follows
spoils the number. -/
def digitTail (digit : Char → Bool) : List Char → Option Nat
  | [] => some 0
  | ['_'] => none
  | '_' :: c :: cs => if digit c then (digitTail digit cs).map (· + 2) else none
  | c :: cs => if digit c then (digitTail digit cs).map (· + 1) else some 0

/-- At least one digit after the two characters that name the base. -/
def basedNumber (digit : Char → Bool) (digits : List Char) : Option Nat :=
  match digitTail digit digits with
  | some (n + 1) => some (n + 3)
  | _ => none

/-- An exponent, if the letter is followed by one. -/
def exponentLength : List Char → Option Nat
  | e :: sign :: c :: cs =>
    if e != 'e' && e != 'E' then some 0
    else if (sign = '+' || sign = '-') && isDigit c then (digitTail isDigit cs).map (· + 3)
    else if isDigit sign then (digitTail isDigit (c :: cs)).map (· + 2)
    else some 0
  | [e, c] => some (if (e = 'e' || e = 'E') && isDigit c then 2 else 0)
  | _ => some 0

def fractionLength : List Char → Option Nat
  | '.' :: c :: cs => if isDigit c then (digitTail isDigit cs).map (· + 2) else some 1
  | ['.'] => some 1
  | _ => some 0

def imaginaryLength : List Char → Nat
  | c :: _ => if c = 'j' || c = 'J' then 1 else 0
  | [] => 0

/-- A leading zero is allowed only before further zeros, unless the number has a fraction, an exponent or
the imaginary mark. -/
def decimalNumber (cs : List Char) : Option Nat := do
  let whole ← match cs with
    | '.' :: _ => some 0
    | _ => digitTail isDigit cs
  let fraction ← fractionLength (cs.drop whole)
  let exponent ← exponentLength (cs.drop (whole + fraction))
  let mark := imaginaryLength (cs.drop (whole + fraction + exponent))
  let digits := cs.take whole
  if digits.head? = some '0' && digits.any (fun c ↦ c != '0' && c != '_')
      && fraction + exponent + mark = 0 then none
  else some (whole + fraction + exponent + mark)

def isImaginary (number : List Char) : Bool :=
  match number.getLast? with
  | some c => imaginaryLength [c] = 1
  | none => false

def startsNumber : List Char → Bool
  | '.' :: c :: _ => isDigit c
  | c :: _ => isDigit c
  | [] => false

def number : List Char → Option Nat
  | '0' :: 'x' :: cs | '0' :: 'X' :: cs => basedNumber isHexDigit cs
  | '0' :: 'o' :: cs | '0' :: 'O' :: cs => basedNumber isOctalDigit cs
  | '0' :: 'b' :: cs | '0' :: 'B' :: cs => basedNumber isBinaryDigit cs
  | cs => decimalNumber cs

/-! ## Strings -/

def isQuote (c : Char) : Bool := c = '"' || c = '\x27'

/-- What follows the opening quote of a string on one line, the closing quote included. -/
def shortString (quote : Char) : List Char → Option Nat
  | [] => none
  | ['\\'] => none
  | '\\' :: '\r' :: '\n' :: cs => (shortString quote cs).map (· + 3)
  | '\\' :: _ :: cs => (shortString quote cs).map (· + 2)
  | c :: cs =>
    if c = quote then some 1
    else if isLineEnd c then none
    else (shortString quote cs).map (· + 1)

/-- What follows the three opening quotes of a string, the closing quotes included. -/
def longString (quote : Char) : List Char → Option Nat
  | [] => none
  | ['\\'] => none
  | '\\' :: _ :: cs => (longString quote cs).map (· + 2)
  | c :: cs =>
    if c = quote && cs.take 2 = [quote, quote] then some 3
    else (longString quote cs).map (· + 1)

def opensLong (quote : Char) (cs : List Char) : Bool := cs.take 3 = [quote, quote, quote]

/-- A literal from its opening quotes to its closing ones. -/
def quotedString : List Char → Option Nat
  | [] => none
  | quote :: cs =>
    if opensLong quote (quote :: cs) then (longString quote (cs.drop 2)).map (· + 3)
    else (shortString quote cs).map (· + 1)

def lower (c : Char) : Char :=
  if 'A' ≤ c && c ≤ 'Z' then Char.ofNat (c.toNat + 32) else c

/-- The letters that may stand before a string literal. -/
def isStringMark (word : List Char) : Bool :=
  [[], ['u'], ['b'], ['r'], ['b', 'r'], ['r', 'b']].contains (word.map lower)

/-- The letters that may stand before a formatted string. A template is marked raw only in front. -/
def isFormattedMark (word : List Char) : Bool :=
  [['f'], ['f', 'r'], ['r', 'f'], ['t'], ['r', 't']].contains (word.map lower)

def isTemplateMark (word : List Char) : Bool := (word.map lower).contains 't'

end StarlarkMacro.Source.Lexeme
