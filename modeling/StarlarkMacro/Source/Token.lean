/-!
# Tokens of a source text

Words that the grammar reserves, operators and punctuation, and the tokens made of them. Operators whose
identity no later stage asks for share a symbol: all comparison signs are one, and so are all signs of
augmented assignment and those binary operators that are nothing else. A token knows where it starts and
stops in the source, counted in characters.
-/

namespace StarlarkMacro.Source

inductive Keyword where
  | andWord | asWord | assertWord | asyncWord | awaitWord | breakWord | classWord | continueWord
  | defWord | delWord | elifWord | elseWord | exceptWord | falseWord | finallyWord | forWord
  | fromWord | globalWord | ifWord | importWord | inWord | isWord | lambdaWord | noneWord
  | nonlocalWord | notWord | orWord | passWord | raiseWord | returnWord | trueWord | tryWord
  | whileWord | withWord | yieldWord
  deriving DecidableEq, Repr

namespace Keyword

def spelling : Keyword → String
  | andWord => "and"
  | asWord => "as"
  | assertWord => "assert"
  | asyncWord => "async"
  | awaitWord => "await"
  | breakWord => "break"
  | classWord => "class"
  | continueWord => "continue"
  | defWord => "def"
  | delWord => "del"
  | elifWord => "elif"
  | elseWord => "else"
  | exceptWord => "except"
  | falseWord => "False"
  | finallyWord => "finally"
  | forWord => "for"
  | fromWord => "from"
  | globalWord => "global"
  | ifWord => "if"
  | importWord => "import"
  | inWord => "in"
  | isWord => "is"
  | lambdaWord => "lambda"
  | noneWord => "None"
  | nonlocalWord => "nonlocal"
  | notWord => "not"
  | orWord => "or"
  | passWord => "pass"
  | raiseWord => "raise"
  | returnWord => "return"
  | trueWord => "True"
  | tryWord => "try"
  | whileWord => "while"
  | withWord => "with"
  | yieldWord => "yield"

def all : List Keyword :=
  [andWord, asWord, assertWord, asyncWord, awaitWord, breakWord, classWord, continueWord, defWord,
    delWord, elifWord, elseWord, exceptWord, falseWord, finallyWord, forWord, fromWord, globalWord,
    ifWord, importWord, inWord, isWord, lambdaWord, noneWord, nonlocalWord, notWord, orWord,
    passWord, raiseWord, returnWord, trueWord, tryWord, whileWord, withWord, yieldWord]

def ofChars? (cs : List Char) : Option Keyword := all.find? fun k ↦ k.spelling.toList = cs

end Keyword

inductive Symbol where
  | leftParen | rightParen | leftBracket | rightBracket | leftBrace | rightBrace
  | comma | colon | semicolon | dot | equal | arrow | walrus | ellipsis
  | star | doubleStar | slash | atSign | plus | minus | tilde | bar | bang
  /-- A binary operator that is nothing else. -/
  | binary
  | comparison
  /-- An augmented assignment. -/
  | augmented
  deriving DecidableEq, Repr

namespace Symbol

/-- The longest symbol at the start of a text, and how long it is. -/
def longest? : List Char → Option (Symbol × Nat)
  | '*' :: '*' :: '=' :: _ | '/' :: '/' :: '=' :: _ | '>' :: '>' :: '=' :: _
  | '<' :: '<' :: '=' :: _ => some (augmented, 3)
  | '.' :: '.' :: '.' :: _ => some (ellipsis, 3)
  | '+' :: '=' :: _ | '-' :: '=' :: _ | '*' :: '=' :: _ | '/' :: '=' :: _ | '%' :: '=' :: _
  | '&' :: '=' :: _ | '|' :: '=' :: _ | '^' :: '=' :: _ | '@' :: '=' :: _ => some (augmented, 2)
  | '*' :: '*' :: _ => some (doubleStar, 2)
  | '/' :: '/' :: _ | '>' :: '>' :: _ | '<' :: '<' :: _ => some (binary, 2)
  | '<' :: '=' :: _ | '>' :: '=' :: _ | '=' :: '=' :: _ | '!' :: '=' :: _ => some (comparison, 2)
  | '-' :: '>' :: _ => some (arrow, 2)
  | ':' :: '=' :: _ => some (walrus, 2)
  | '(' :: _ => some (leftParen, 1)
  | ')' :: _ => some (rightParen, 1)
  | '[' :: _ => some (leftBracket, 1)
  | ']' :: _ => some (rightBracket, 1)
  | '\x7b' :: _ => some (leftBrace, 1)
  | '\x7d' :: _ => some (rightBrace, 1)
  | ',' :: _ => some (comma, 1)
  | ':' :: _ => some (colon, 1)
  | ';' :: _ => some (semicolon, 1)
  | '.' :: _ => some (dot, 1)
  | '=' :: _ => some (equal, 1)
  | '*' :: _ => some (star, 1)
  | '/' :: _ => some (slash, 1)
  | '@' :: _ => some (atSign, 1)
  | '+' :: _ => some (plus, 1)
  | '-' :: _ => some (minus, 1)
  | '~' :: _ => some (tilde, 1)
  | '|' :: _ => some (bar, 1)
  | '!' :: _ => some (bang, 1)
  | '%' :: _ | '&' :: _ | '^' :: _ => some (binary, 1)
  | '<' :: _ | '>' :: _ => some (comparison, 1)
  | _ => none

end Symbol

inductive TokenKind where
  | keyword (k : Keyword)
  | name (text : List Char)
  /-- A number, with or without the imaginary mark. -/
  | number (imaginary : Bool)
  /-- A string literal with its letters in front and its quotes. -/
  | string (text : List Char)
  /-- The letters and the opening quotes of a formatted string, which may be a template. -/
  | formattedStart (template : Bool)
  /-- Text of a formatted string between its fields. -/
  | formattedText
  | formattedEnd
  | symbol (s : Symbol)
  | newline
  /-- The start of a block whose lines start with that white space. -/
  | indent (indentation : List Char)
  /-- The end of such a block. -/
  | dedent (indentation : List Char)
  deriving DecidableEq, Repr

structure Token where
  kind : TokenKind
  start : Nat
  stop : Nat
  deriving DecidableEq, Repr

end StarlarkMacro.Source
