import StarlarkMacro.Source.Reader.Expression

/-!
# Patterns of a match statement

Patterns leave nothing in the tree, so reading one says only whether it is well formed. A pattern inside
another one is read by the reader that is passed in, and the knot is tied by the number of tokens left.
-/

namespace StarlarkMacro.Source.Reader

def startsPattern : TokenKind → Bool
  | .name _ | .number _ | .string _ | .formattedStart _ => true
  | .keyword k => [Keyword.noneWord, .trueWord, .falseWord].contains k
  | .symbol s => [Symbol.plus, .minus, .star, .leftParen, .leftBracket, .leftBrace].contains s
  | _ => false

def wildcard : List Char := ['_']

def number (imaginary : Bool) : Reader Unit := token (.number imaginary)

/-- A number with its sign; a real number may have an imaginary one added or subtracted. -/
def numberPattern : Reader Unit := do
  unless ← acceptSymbol .plus do
    let _ ← acceptSymbol .minus
  if ← nextIs (.number true) then number true
  else
    number false
    if (← nextIsSymbol .plus) || (← nextIsSymbol .minus) then
      let _ ← next
      number true

def literalPattern : Reader Unit := do
  match ← peek with
  | some (.number _) | some (.symbol .plus) | some (.symbol .minus) => numberPattern
  | some (.keyword .noneWord) | some (.keyword .trueWord) | some (.keyword .falseWord) =>
    let _ ← next
    return
  | _ =>
    let _ ← whole strings
    return

/-- A name that is bound, which the wildcard is not. -/
def boundName : Reader Unit := do
  if (← name) = wildcard then failure

/-- The names behind the dots, and how many there are. -/
def attributes : Reader Nat := do
  return (← many do symbol .dot; name).length

def starPattern : Reader Unit := do
  symbol .star
  let _ ← name
  return

variable (pattern : Reader Unit)

/-- A pattern or a star pattern, and whether it was the latter. -/
def maybeStarPattern : Reader Bool := do
  if ← nextIsSymbol .star then
    starPattern
    return true
  else
    pattern
    return false

/-- One pattern, or several with commas between them; a star needs a comma. -/
def openSequence : Reader Unit := do
  let (stars, last) ← commaList (maybeStarPattern pattern) startsPattern
  if stars = [true] && !last then failure

def classArgument : Reader Bool := do
  if (← nextIsName) && (← peekSecond) = some (.symbol .equal) then
    let _ ← name
    symbol .equal
    pattern
    return true
  else
    pattern
    return false

/-- Arguments without a name come before those with one. -/
def classArguments : Reader Unit := do
  let (named, _) ← commaListBefore .rightParen (classArgument pattern)
  if (named.dropWhile (!·)).all id then return else failure

def mappingKey : Reader Unit := do
  if ← nextIsName then
    let _ ← name
    if (← attributes) = 0 then failure
  else literalPattern

def mappingItem : Reader Bool := do
  if ← acceptSymbol .doubleStar then
    breakGap
    boundName
    return true
  else
    mappingKey
    symbol .colon
    pattern
    return false

/-- The rest of the mapping can be named at the end only. -/
def mappingItems : Reader Unit := do
  let (rests, _) ← commaListBefore .rightBrace (mappingItem pattern)
  if rests.dropLast.any id then failure

/-- A name that is bound, a value given by its path, or a class with arguments. -/
def namePattern : Reader Unit := do
  let first ← name
  if first = wildcard then return
  let dots ← attributes
  if ← acceptSymbol .leftParen then classArguments pattern
  else if dots = 0 && (← nextIsSymbol .equal) then failure

def closedPattern : Reader Unit := do
  match ← peek with
  | some (.name _) => namePattern pattern
  | some (.symbol .leftParen) =>
    symbol .leftParen
    unless ← nextIsSymbol .rightParen do
      openSequence pattern
    symbol .rightParen
  | some (.symbol .leftBracket) =>
    symbol .leftBracket
    let _ ← commaListBefore .rightBracket (maybeStarPattern pattern)
    return
  | some (.symbol .leftBrace) =>
    symbol .leftBrace
    mappingItems pattern
  | _ => literalPattern

/-- Closed patterns with bars between them, perhaps with a name for what they match. -/
def fullPattern : Reader Unit := do
  closedPattern pattern
  let _ ← many do
    symbol .bar
    closedPattern pattern
  if ← acceptKeyword .asWord then boundName

def patternUpTo : Nat → Reader Unit
  | 0 => failure
  | n + 1 => fullPattern (patternUpTo n)

/-- The patterns of a case. -/
def casePatterns : Reader Unit := do
  openSequence (patternUpTo ((← remaining) + 1))

end StarlarkMacro.Source.Reader
