import StarlarkMacro.Source.Reader.Parameters

/-!
# Expressions and targets

Expressions are read by precedence, each level from the next tighter one; operators of one level, and all
binary operators but comparisons, are read as a flat chain, since only the lack of an operator matters for
the tree, and only the ends of a chain for its edges. What stands inside brackets, behind a lambda or behind an else is read by `Inner`, so the levels
do not call themselves: the knot is tied once, in `phrase`, by the number of tokens left. Targets are what
may stand to the left of an assignment, in a loop head or in a deletion.
-/

namespace StarlarkMacro.Source

/-- What may stand inside another phrase. -/
inductive Phrase where
  | expression
  /-- One target, perhaps with a star. -/
  | target
  | deletion
  /-- A name, an attribute or a subscript, perhaps in parentheses. -/
  | single
  /-- An expression without comparisons, as a star may stand before. -/
  | arithmetic
  /-- An expression without a conditional. -/
  | disjunction
  /-- A field of a formatted string. -/
  | field
  deriving DecidableEq, Repr

abbrev Inner := Phrase → Reader Operand

def startsExpression : TokenKind → Bool
  | .name _ | .number _ | .string _ | .formattedStart _ => true
  | .keyword k =>
    [Keyword.lambdaWord, .awaitWord, .notWord, .noneWord, .trueWord, .falseWord].contains k
  | .symbol s =>
    [Symbol.leftParen, .leftBracket, .leftBrace, .plus, .minus, .tilde, .ellipsis, .star].contains s
  | _ => false

/-- How a primary expression ends. -/
inductive Ending where
  | atom
  /-- With an attribute or a subscript. -/
  | selection
  | call
  deriving DecidableEq, Repr

/-- Plain arguments come first, and a star may stand before any double star. -/
def orderedMarks : Nat → List ArgumentMark → Bool
  | _, [] => true
  | phase, .plain :: rest => phase = 0 && orderedMarks phase rest
  | phase, .star :: rest => phase ≤ 1 && orderedMarks phase rest
  | phase, .keyword _ :: rest => orderedMarks (max phase 1) rest
  | _, .doubleStar :: rest => orderedMarks 2 rest

def isPlainOrStar : ArgumentMark → Bool
  | .plain | .star => true
  | _ => false

/-- In the head of a class no star may stand behind a name either. -/
def orderedBases (marks : List ArgumentMark) : Bool :=
  (marks.dropWhile isPlainOrStar).all (!isPlainOrStar ·)

/-- A part of a run of strings. -/
inductive StringPart where
  | literal (text : List Char)
  | formatted (template : Bool)
  deriving DecidableEq, Repr

namespace StringPart

def isBytes : StringPart → Bool
  | literal text => (text.takeWhile (!Lexeme.isQuote ·)).map Lexeme.lower |>.contains 'b'
  | formatted _ => false

/-- The flaw of a run of strings. It is put together from its end, so flaws there come first. -/
def flaw? : List StringPart → Option Flaw
  | [] | [_] => none
  | first :: second :: rest =>
    flaw? (second :: rest) <|>
      if rest.isEmpty && second = formatted true then some .templateLast
      else if first.isBytes != second.isBytes then some .mixedStrings
      else none

def operand : List StringPart → Operand
  | [literal text] => ⟨.string text, .closed⟩
  | _ => .other .closed

end StringPart

namespace Reader

/-- What a list without brackets is: its only item, or a tuple. -/
def listed (list : List Operand × Bool) : Operand :=
  match list with
  | ([o], false) => o
  | (os, last) => .other (.tuple (os.head?.getD default).edges (os.getLast?.getD default).edges last)

def nextIsClause : Reader Bool := do
  return (← nextIsKeyword .forWord) || (← nextIsKeyword .asyncWord)

/-- A name with a walrus behind it is next. -/
def nextIsNaming : Reader Bool := do
  return (← nextIsName) && (← peekSecond) = some (.symbol .walrus)

variable {α : Type} (g : Inner)

def namedExpression : Reader Operand := do
  if ← nextIsNaming then
    let _ ← name
    symbol .walrus
    let _ ← g .expression
    return .other .word
  else g .expression

/-! ## Strings -/

def formattedPart : Reader Unit := do
  match ← peek with
  | some .formattedText => token .formattedText
  | _ =>
    let _ ← g .field
    return

def stringPart : Reader StringPart := do
  match ← next with
  | .string text => return .literal text
  | .formattedStart template =>
    let _ ← many (formattedPart g)
    token .formattedEnd
    return .formatted template
  | _ => failure

/-- A string literal, or several side by side. -/
def strings : Reader Operand := do
  let parts ← many1 (stringPart g)
  if let some flaw := StringPart.flaw? parts then note flaw
  return StringPart.operand parts

/-! ## Atoms and their trailers -/

def starOr (p : Reader Operand) : Reader Operand := do
  if ← acceptSymbol .star then
    return .other (.starred (← g .arithmetic).edges)
  else p

def starExpressions : Reader Operand := do
  return listed (← commaList (starOr g (g .expression)) startsExpression)

/-- A word has been read; what follows it is read by `p` and may touch it only if it sets itself apart. -/
def behindWord (p : Reader Operand) : Reader Operand := do
  let touches ← touching
  let o ← p
  wordBefore touches o
  return o

def yieldExpression : Reader Operand := do
  keyword .yieldWord
  if ← nextIsKeyword .fromWord then
    keyword .fromWord
    let _ ← behindWord (g .expression)
    return .other .word
  else if ((← peek).map startsExpression).getD false then
    let _ ← behindWord (starExpressions g)
    return .other .word
  else return .other .word

def yieldOrStarExpressions : Reader Operand := do
  if ← nextIsKeyword .yieldWord then yieldExpression g
  else starExpressions g

def startsTarget : TokenKind → Bool
  | .symbol .star => true
  | kind => startsExpression kind

def targets : Reader Operand := do
  return listed (← commaList (g .target) startsTarget)

/-- The head of a loop behind its first word: the targets, and what the loop goes through. -/
def loopHead (source : Reader Operand) : Reader Operand := do
  let first ← touching
  let target ← targets g
  let second ← touching
  keyword .inWord
  let third ← touching
  let source ← source
  wordBefore first target
  wordBehind second target
  wordBefore third source
  return source

/-- The conditions behind an expression, and the last expression of all. -/
def conditionsUpTo : Nat → Operand → Reader Operand
  | 0, before => return before
  | n + 1, before => do
    let touches ← touching
    if ← acceptKeyword .ifWord then
      let condition ← behindWord (g .disjunction)
      wordBehind touches before
      conditionsUpTo n condition
    else return before

/-- The clauses behind an expression, of which there must be one, and the last expression of all. -/
def clausesUpTo : Nat → Operand → Reader Operand
  | 0, _ => failure
  | n + 1, before => do
    let touches ← touching
    let _ ← acceptKeyword .asyncWord
    keyword .forWord
    let source ← loopHead g (g .disjunction)
    wordBehind touches before
    let last ← conditionsUpTo g n source
    if ← nextIsClause then clausesUpTo n last else return last

/-- The clauses of a comprehension and the bracket that closes it. -/
def clausesBefore (closing : Symbol) (member : Operand) : Reader Operand := do
  let _ ← clausesUpTo g (← remaining) member
  symbol closing
  return .other .closed

/-- What follows the first item of a bracketed list up to the closing bracket. -/
def restOfList (closing : Symbol) : Reader Operand := do
  if ← acceptSymbol .comma then
    let _ ← commaListBefore closing (starOr g (namedExpression g))
    return .other .closed
  else
    symbol closing
    return .other .closed

/-- What follows an opening parenthesis. -/
def parenthesized : Reader Operand := do
  if ← acceptSymbol .rightParen then return .other .closed
  if ← nextIsKeyword .yieldWord then
    let e ← yieldExpression g
    symbol .rightParen
    return e.parenthesized
  let starred ← nextIsSymbol .star
  let e ← starOr g (namedExpression g)
  if ← nextIsClause then clausesBefore g .rightParen e
  else if !starred && (← acceptSymbol .rightParen) then return e.parenthesized
  else
    if ← nextIsSymbol .comma then restOfList g .rightParen
    else failure

/-- What follows an opening bracket. -/
def listDisplay : Reader Operand := do
  if ← acceptSymbol .rightBracket then return .other .closed
  let e ← starOr g (namedExpression g)
  if ← nextIsClause then clausesBefore g .rightBracket e
  else restOfList g .rightBracket

def entry : Reader Unit := do
  if ← acceptSymbol .doubleStar then
    let _ ← g .arithmetic
    return
  else
    let _ ← g .expression
    symbol .colon
    let _ ← g .expression
    return

/-- What follows the first entry of a dictionary up to the closing brace. -/
def restOfEntries : Reader Operand := do
  if ← acceptSymbol .comma then
    let _ ← commaListBefore .rightBrace (entry g)
    return .other .closed
  else
    symbol .rightBrace
    return .other .closed

/-- What follows an opening brace. -/
def braceDisplay : Reader Operand := do
  if ← acceptSymbol .rightBrace then return .other .closed
  if ← nextIsSymbol .doubleStar then
    entry g
    return ← restOfEntries g
  let inSet ← (do return (← nextIsSymbol .star) || (← nextIsNaming) : Reader Bool)
  let e ← starOr g (namedExpression g)
  if !inSet && (← acceptSymbol .colon) then
    let value ← g .expression
    if ← nextIsClause then clausesBefore g .rightBrace value
    else restOfEntries g
  else if ← nextIsClause then clausesBefore g .rightBrace e
  else restOfList g .rightBrace

def optionalExpression : Reader Unit := do
  if ((← peek).map startsExpression).getD false then
    let _ ← g .expression
    return

def slice : Reader Unit := do
  if ← acceptSymbol .star then
    let _ ← g .expression
    return
  else if ← nextIsNaming then
    let _ ← namedExpression g
    return
  else
    unless ← nextIsSymbol .colon do
      let _ ← g .expression
    if ← acceptSymbol .colon then
      optionalExpression g
      if ← acceptSymbol .colon then
        optionalExpression g

def startsSlice : TokenKind → Bool
  | .symbol .colon => true
  | kind => startsExpression kind

def subscript : Reader Unit := do
  let _ ← commaList (slice g) startsSlice
  symbol .rightBracket

def argument : Reader (ArgumentMark × Operand) := do
  if ← acceptSymbol .star then return (.star, ← g .expression)
  else if ← acceptSymbol .doubleStar then return (.doubleStar, ← g .expression)
  else if (← nextIsName) && (← peekSecond) = some (.symbol .equal) then
    let name ← name
    symbol .equal
    return (.keyword name, ← g .expression)
  else return (.plain, ← namedExpression g)

abbrev Arguments := List (ArgumentMark × Operand)

/-- The arguments of a class head behind its opening parenthesis. -/
def bases : Reader Unit := do
  let (list, _) ← commaListBefore .rightParen (argument g)
  let marks := list.map Prod.fst
  if orderedMarks 0 marks && orderedBases marks then return else failure

/-- Clauses behind the first argument make it a generator without parentheses of its own. -/
def generatorArgument (e : Operand) : Reader Arguments := do
  return [(.plain, ← clausesBefore g .rightParen e)]

/-- What follows the first argument of a call. -/
def restOfArguments (first : ArgumentMark × Operand) : Reader Arguments := do
  if ← acceptSymbol .comma then
    let (rest, _) ← commaListBefore .rightParen (argument g)
    let list := first :: rest
    if orderedMarks 0 (list.map Prod.fst) then return list else failure
  else
    symbol .rightParen
    return [first]

/-- A starred first argument without operators looser than a star. -/
def tightStarred : Reader Operand := do
  symbol .star
  let e ← g .arithmetic
  if (← nextIsClause) || (← nextIsSymbol .comma) || (← nextIsSymbol .rightParen) then return e
  else failure

/-- What follows the opening parenthesis of a call. -/
def callArguments : Reader Arguments := do
  if ← acceptSymbol .rightParen then return []
  let starred ← some <$> tightStarred g <|> return none
  match starred with
  | some e =>
    if ← nextIsClause then generatorArgument g (.other (.starred e.edges))
    else restOfArguments g (.star, e)
  | none =>
    let first ← argument g
    if first.1 = .plain && (← nextIsClause) then generatorArgument g first.2
    else restOfArguments g first

/-- Trailers keep how their expression begins. -/
def trailersUpTo : Nat → Operand → Ending → Reader (Operand × Ending)
  | 0, e, ending => return (e, ending)
  | n + 1, e, ending => do
    if ← acceptSymbol .dot then
      let name ← name
      trailersUpTo n ⟨.attribute e.tree name, .joined e.edges .word⟩ .selection
    else if ← acceptSymbol .leftParen then
      let list ← callArguments g
      let tree := .call e.tree (list.map fun (mark, o) ↦ (mark, o.tree))
      trailersUpTo n ⟨tree, .joined e.edges .closed⟩ .call
    else if ← acceptSymbol .leftBracket then
      subscript g
      trailersUpTo n (.other (.joined e.edges .closed)) .selection
    else return (e, ending)

def atom : Reader Operand := do
  match ← peek with
  | some (.name _) => return ⟨.name (← name), .word⟩
  | some (.string _) | some (.formattedStart _) => strings g
  | some (.number _) =>
    let _ ← next
    return .other .number
  | some (.symbol .ellipsis) =>
    let _ ← next
    return .other .closed
  | some (.keyword .noneWord) | some (.keyword .trueWord) | some (.keyword .falseWord) =>
    let _ ← next
    return .other .word
  | some (.symbol .leftParen) =>
    symbol .leftParen
    parenthesized g
  | some (.symbol .leftBracket) =>
    symbol .leftBracket
    listDisplay g
  | some (.symbol .leftBrace) =>
    symbol .leftBrace
    braceDisplay g
  | _ => failure

def primary : Reader (Operand × Ending) := do
  let e ← atom g
  trailersUpTo g (← remaining) e .atom

/-! ## Operators -/

def sign : Reader Unit := do
  match ← next with
  | .symbol .plus | .symbol .minus | .symbol .tilde => return
  | _ => failure

/-- Awaiting an expression never sets it apart. -/
def awaited : Reader Operand := do
  if ← acceptKeyword .awaitWord then
    let _ ← behindWord (do return (← primary g).1)
    return .other .word
  else return (← primary g).1

def operand : Reader Operand := do
  let signs ← many sign
  let e ← awaited g
  return if signs.isEmpty then e else .other (.joined .closed e.edges)

/-- Items with operators between them, behind a first one. The operator says whether it is a word. -/
def chainUpTo (operator : Reader Bool) (item : Reader Operand) : Nat → Operand → Reader Operand
  | 0, e => return e
  | n + 1, e =>
    (do
      let first ← touching
      let isWord ← operator
      let second ← touching
      let right ← item
      wordBehind (isWord && first) e
      wordBefore (isWord && second) right
      chainUpTo operator item n (.other (.joined e.edges right.edges))) <|> return e

def chain (operator : Reader Bool) (item : Reader Operand) : Reader Operand := do
  let e ← item
  chainUpTo operator item (← remaining) e

def binaryOperator : Reader Bool := do
  match ← next with
  | .symbol .star | .symbol .doubleStar | .symbol .slash | .symbol .atSign | .symbol .plus
  | .symbol .minus | .symbol .bar | .symbol .binary => return false
  | _ => failure

def arithmetic : Reader Operand := chain binaryOperator (operand g)

def comparisonOperator : Reader Bool := do
  match ← next with
  | .symbol .comparison => return false
  | .keyword .inWord => return true
  | .keyword .notWord =>
    keyword .inWord
    return true
  | .keyword .isWord =>
    let _ ← acceptKeyword .notWord
    return true
  | _ => failure

def negationUpTo : Nat → Reader Operand
  | 0 => failure
  | n + 1 => do
    if ← acceptKeyword .notWord then
      let e ← behindWord (negationUpTo n)
      return .other (.joined .word e.edges)
    else chain comparisonOperator (arithmetic g)

def negation : Reader Operand := do
  negationUpTo g (← remaining)

def booleanOperator : Reader Bool := do
  match ← next with
  | .keyword .andWord | .keyword .orWord => return true
  | _ => failure

def disjunction : Reader Operand := chain booleanOperator (negation g)

def lambda : Reader Operand := do
  keyword .lambdaWord
  let _ ← parameters false (g .expression) (g .expression)
  symbol .colon
  let value ← g .expression
  return .other ⟨.unknown, value.edges.back, .anonymous⟩

/-- What follows the first part of a conditional. -/
def conditional (value : Operand) : Reader Operand := do
  let first ← touching
  keyword .ifWord
  let second ← touching
  let condition ← disjunction g
  let third ← touching
  keyword .elseWord
  let fourth ← touching
  let other ← g .expression
  wordBehind first value
  wordBefore second condition
  wordBehind third condition
  wordBefore fourth other
  return .other ⟨value.edges.front, other.edges.back, .conditional⟩

def expression : Reader Operand := do
  if ← nextIsKeyword .lambdaWord then lambda g
  else
    let e ← disjunction g
    if ← nextIsKeyword .ifWord then conditional g e else return e

/-! ## Formatted fields -/

/-- The letter that says how the value of a field is converted. No gap around it is kept. -/
def conversion : Reader Unit := do
  dropGap
  if [['r'], ['s'], ['a']].contains (← name) then dropGap else failure

def field : Reader Operand := do
  symbol .leftBrace
  let _ ← yieldOrStarExpressions g
  let _ ← acceptSymbol .equal
  if ← acceptSymbol .bang then conversion
  if ← acceptSymbol .colon then
    let _ ← many (formattedPart g)
  symbol .rightBrace
  return .other .closed

/-! ## Targets -/

/-- An attribute, a subscript or a name. -/
def plainTarget : Reader Operand := do
  let named ← nextIsName
  let (e, ending) ← primary g
  match ending with
  | .selection => return e
  | .atom => if named then return e else failure
  | .call => failure

/-- Targets in parentheses. One without a comma stands for itself, but one with a star is a tuple. -/
def parenthesizedTargets (inner : Phrase) : Reader Operand := do
  symbol .leftParen
  if ← acceptSymbol .rightParen then return .other .closed
  let starred ← nextIsSymbol .star
  let (list, last) ← commaList (g inner) (· != .symbol .rightParen)
  let place := (← get).last
  symbol .rightParen
  match list, last with
  | [e], false =>
    if starred then
      revise (.comma place)
      return .other .closed
    else return e.parenthesized
  | _, _ => return .other .closed

def bracketedTargets (inner : Phrase) : Reader Operand := do
  if ← nextIsSymbol .leftParen then parenthesizedTargets g inner
  else
    symbol .leftBracket
    let _ ← commaListBefore .rightBracket (g inner)
    return .other .closed

def target : Reader Operand := do
  let starred ← acceptSymbol .star
  let e ← plainTarget g <|> bracketedTargets g .target
  return if starred then .other (.starred e.edges) else e

def deletion : Reader Operand := plainTarget g <|> bracketedTargets g .deletion

def single : Reader Operand :=
  plainTarget g <|> do
    symbol .leftParen
    let e ← g .single
    symbol .rightParen
    return e.parenthesized

/-! ## The knot -/

def phrase : Nat → Phrase → Reader Operand
  | 0, _ => failure
  | n + 1, .expression => expression (phrase n)
  | n + 1, .target => target (phrase n)
  | n + 1, .deletion => deletion (phrase n)
  | n + 1, .single => single (phrase n)
  | n + 1, .arithmetic => arithmetic (phrase n)
  | n + 1, .disjunction => disjunction (phrase n)
  | n + 1, .field => field (phrase n)

/-- A phrase inside another one starts behind the first token of it, so it is never deeper than the number
of tokens. -/
def whole (p : Inner → Reader α) : Reader α := do
  p (phrase ((← remaining) + 1))

end Reader

end StarlarkMacro.Source
