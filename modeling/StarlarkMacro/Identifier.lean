import StarlarkMacro.Value.Basic

/-!
# Names of macros and commands

A name is an ASCII letter or underscore followed by ASCII letters, digits and underscores. A reserved
word is used as a name with an underscore behind it, and no other name is changed. A value stands for
a name if it is a text that is one.
-/

namespace StarlarkMacro.Identifier

def isLetter (c : Char) : Bool := ('a' ≤ c && c ≤ 'z') || ('A' ≤ c && c ≤ 'Z') || c = '_'

def isDigit (c : Char) : Bool := '0' ≤ c && c ≤ '9'

def isNameChar (c : Char) : Bool := isLetter c || isDigit c

/-- A letter, then any number of letters and digits; the underscore counts as a letter. -/
def isValid : List Char → Bool
  | [] => false
  | c :: cs => isLetter c && cs.all isNameChar

/-- The words that the grammar keeps for itself, those it holds back for later use included. -/
def reserved : List String :=
  ["and", "as", "assert", "break", "class", "continue", "def", "del", "elif", "else", "except",
    "finally", "for", "from", "global", "if", "import", "in", "is", "lambda", "load", "nonlocal",
    "not", "or", "pass", "raise", "return", "try", "while", "with", "yield"]

def isReserved (name : List Char) : Bool := (reserved.map String.toList).contains name

/-- A valid name that is not reserved: `if` becomes `if_`. -/
def sanitize? (name : List Char) : Option (List Char) :=
  if !isValid name then none
  else if isReserved name then some (name ++ ['_'])
  else some name

def isValidValue (v : Value) : Bool :=
  match v.text? >>= Text.chars? with
  | some name => isValid name
  | none => false

/-- The name that a value is used as. -/
def ofValue? (v : Value) : Option (List Char) := v.text? >>= Text.chars? >>= sanitize?

end StarlarkMacro.Identifier
