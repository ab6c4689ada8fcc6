import StarlarkMacro.Source.Flaw
import StarlarkMacro.Source.Operand
import StarlarkMacro.Source.Revision

/-!
# Reading tokens

A reader takes tokens from the front of a list or fails. Repetition stops at the first failure of what is
repeated and is bounded by the number of tokens left. On the way a reader notes flaws and revisions; what
it noted is forgotten when it fails.
-/

namespace StarlarkMacro.Source

structure Reading where
  tokens : List Token
  /-- Where the last token that was taken stops. -/
  last : Nat
  flaw : Option Flaw
  /-- The newest first. -/
  revisions : List Revision

abbrev Reader := StateT Reading Option

namespace Reader

variable {α β : Type}

/-- The number of tokens left. -/
def remaining : Reader Nat := do
  return (← get).tokens.length

def peek : Reader (Option TokenKind) := do
  return (← get).tokens.head?.map Token.kind

/-- The kind of the token behind the next one. -/
def peekSecond : Reader (Option TokenKind) := do
  return ((← get).tokens.drop 1).head?.map Token.kind

/-- Where the next token starts. -/
def position : Reader Nat := do
  return ((← get).tokens.head?.map Token.start).getD 0

def next : Reader TokenKind := fun s ↦
  match s.tokens with
  | [] => none
  | t :: rest => some (t.kind, { s with tokens := rest, last := t.stop })

/-! ## Notes -/

/-- Only the first flaw counts. -/
def note (f : Flaw) : Reader Unit :=
  modify fun s ↦ { s with flaw := s.flaw <|> some f }

def revise (r : Revision) : Reader Unit :=
  modify fun s ↦ { s with revisions := r :: s.revisions }

/-- Nothing stands between the last token and the next one. -/
def touching : Reader Bool := do
  return (← position) = (← get).last

def dropGap : Reader Unit := do
  unless ← touching do
    revise (.gap (← get).last (← position))

/-- The gap is kept only up to its first comment or line end. -/
def breakGap : Reader Unit := do
  unless ← touching do
    revise (.brokenGap (← get).last (← position))

/-- A word stands in front of an expression, and perhaps they touch. -/
def wordBefore (touches : Bool) (e : Operand) : Reader Unit :=
  match touches, e.edges.front with
  | false, _ | true, .free => return
  | true, .crowded => note .crowded
  | true, .unknown => note .anonymous

/-- A word stands behind an expression, and perhaps they touch. -/
def wordBehind (touches : Bool) (e : Operand) : Reader Unit :=
  if touches && !e.edges.back then note .crowded else return

/-! ## Tokens and lists of phrases -/

def token (kind : TokenKind) : Reader Unit := do
  let k ← next
  if k = kind then return else failure

def symbol (s : Symbol) : Reader Unit := token (.symbol s)

def keyword (k : Keyword) : Reader Unit := token (.keyword k)

def name : Reader (List Char) := do
  match ← next with
  | .name text =>
    unless Lexeme.isIdentifier text do note .unknownName
    return text
  | _ => failure

/-- A name that is a keyword in this place only. -/
def softKeyword (word : String) : Reader Unit := token (.name word.toList)

def nextIs (kind : TokenKind) : Reader Bool := do
  return (← peek) = some kind

def nextIsSymbol (s : Symbol) : Reader Bool := nextIs (.symbol s)

def nextIsKeyword (k : Keyword) : Reader Bool := nextIs (.keyword k)

def nextIsName : Reader Bool := do
  match ← peek with
  | some (.name _) => return true
  | _ => return false

/-- Takes the symbol if it is next, and says whether it was. -/
def acceptSymbol (s : Symbol) : Reader Bool := do
  if ← nextIsSymbol s then
    symbol s
    return true
  else return false

def acceptKeyword (k : Keyword) : Reader Bool := do
  if ← nextIsKeyword k then
    keyword k
    return true
  else return false

def manyUpTo (p : Reader α) : Nat → Reader (List α)
  | 0 => return []
  | n + 1 =>
    (do
      let a ← p
      return a :: (← manyUpTo p n)) <|> return []

def many (p : Reader α) : Reader (List α) := do
  manyUpTo p (← remaining)

def many1 (p : Reader α) : Reader (List α) := do
  let a ← p
  return a :: (← many p)

/-- Items with commas between them. The list goes on behind a comma only if an item can start there, so
a last comma is allowed; the flag says whether there was one. -/
def commaListUpTo (item : Reader α) (starts : TokenKind → Bool) : Nat → Reader (List α × Bool)
  | 0 => failure
  | n + 1 => do
    let a ← item
    if ← acceptSymbol .comma then
      if ((← peek).map starts).getD false then
        let (rest, last) ← commaListUpTo item starts n
        return (a :: rest, last)
      else return ([a], true)
    else return ([a], false)

/-- At least one item. -/
def commaList (item : Reader α) (starts : TokenKind → Bool) : Reader (List α × Bool) := do
  commaListUpTo item starts (← remaining)

/-- A list of items and the symbol that closes it; the list may be empty. -/
def commaListBefore (closing : Symbol) (item : Reader α) : Reader (List α × Bool) := do
  if ← acceptSymbol closing then return ([], false)
  let list ← commaList item (· != .symbol closing)
  symbol closing
  return list

/-- At least one item, and no last comma. -/
def separated (item : Reader α) : Reader (List α) := do
  let a ← item
  return a :: (← many do symbol .comma; item)

/-- Succeeds without taking anything if `p` succeeds here. -/
def ahead (p : Reader α) : Reader Bool := fun s ↦ some ((p.run s).isSome, s)

end Reader

end StarlarkMacro.Source
