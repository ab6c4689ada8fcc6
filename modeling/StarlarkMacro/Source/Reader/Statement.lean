import StarlarkMacro.Source.Reader.Pattern

/-!
# Statements

Which statement begins is told by its first token, and for the words that are keywords in some places
only, by the tokens behind it. A statement inside a block is read by the reader that is passed in, and the
knot is tied by the number of tokens left.
-/

namespace StarlarkMacro.Source.Reader

def oneExpression : Reader Operand := whole fun g ↦ g .expression

def wholeExpressions : Reader Operand := whole starExpressions

def wholeNamed : Reader Operand := whole namedExpression

def wholeTargets : Reader Operand := whole targets

def nextStarts (starts : TokenKind → Bool) : Reader Bool := do
  return ((← peek).map starts).getD false

/-! ## Simple statements -/

def rightHandSide : Reader Operand := whole yieldOrStarExpressions

/-- Targets, each followed by an equals sign. -/
def assignment : Reader SmallStatement := do
  let targets ← many1 do
    let t ← wholeTargets
    symbol .equal
    return t.tree
  let value ← rightHandSide
  if ← nextIsSymbol .equal then failure
  return .assign targets value.tree

/-- A target with an annotation. The target has no parentheses. -/
def annotatedTarget : Reader SmallStatement := do
  let _ ← whole plainTarget
  symbol .colon
  let _ ← oneExpression
  if ← acceptSymbol .equal then
    let _ ← rightHandSide
    return .other
  else return .other

def augmentedAssignment : Reader SmallStatement := do
  let _ ← whole fun g ↦ g .single
  symbol .augmented
  let _ ← rightHandSide
  return .other

def expressionStatement : Reader SmallStatement := do
  return .expression (← wholeExpressions).tree

def assignmentOrExpression : Reader SmallStatement :=
  assignment <|> annotatedTarget <|> augmentedAssignment <|> expressionStatement

def returnStatement : Reader SmallStatement := do
  keyword .returnWord
  if ← nextStarts startsExpression then return .ret (some (← behindWord wholeExpressions).tree)
  else return .ret none

def dottedName : Reader Unit := do
  let _ ← name
  let _ ← attributes
  return

def optionalAlias : Reader Unit := do
  if ← acceptKeyword .asWord then
    let _ ← name
    return

def importStatement : Reader Unit := do
  keyword .importWord
  let _ ← separated do
    dottedName
    optionalAlias
  return

def importedName : Reader Unit := do
  let _ ← name
  optionalAlias

def relativeDot : Reader Unit := do
  match ← next with
  | .symbol .dot | .symbol .ellipsis => return
  | _ => failure

def fromStatement : Reader Unit := do
  keyword .fromWord
  let dots ← many relativeDot
  if dots.isEmpty || (← nextIsName) then dottedName
  keyword .importWord
  if ← acceptSymbol .star then return
  if ← acceptSymbol .leftParen then
    let (names, _) ← commaListBefore .rightParen importedName
    if names.isEmpty then failure
  else
    let _ ← separated importedName
    return

def raiseStatement : Reader Unit := do
  keyword .raiseWord
  if ← nextStarts startsExpression then
    let first ← touching
    let raised ← oneExpression
    let second ← touching
    if ← acceptKeyword .fromWord then
      let _ ← behindWord oneExpression
      wordBefore first raised
      wordBehind second raised
    else wordBefore first raised

def deletions : Reader Operand := do
  return listed (← whole fun g ↦ commaList (g .deletion) startsExpression)

def deleteStatement : Reader Unit := do
  keyword .delWord
  let _ ← behindWord deletions
  unless (← nextIsSymbol .semicolon) || (← nextIs .newline) do failure

def assertStatement : Reader Unit := do
  keyword .assertWord
  let touches ← touching
  let condition ← oneExpression
  if ← acceptSymbol .comma then
    let _ ← oneExpression
    wordBefore touches condition
  else wordBefore touches condition

def scopeStatement (k : Keyword) : Reader Unit := do
  keyword k
  let _ ← separated name
  return

/-! ## Type parameters and aliases -/

/-- A default that may be unpacked. -/
def starDefault : Reader Operand := do
  if ← acceptSymbol .star then breakGap
  oneExpression

def typeParameter : Reader Unit := do
  if ← acceptSymbol .doubleStar then
    breakGap
    let _ ← name
    let _ ← acceptWith .equal oneExpression
    return
  else if ← acceptSymbol .star then
    breakGap
    let _ ← name
    let _ ← acceptWith .equal starDefault
    return
  else
    let _ ← name
    let _ ← acceptWith .colon oneExpression
    let _ ← acceptWith .equal oneExpression
    return

/-- Whether there are type parameters. -/
def typeParameters : Reader Bool := do
  if ← acceptSymbol .leftBracket then
    let (list, _) ← commaListBefore .rightBracket typeParameter
    if list.isEmpty then failure
    return true
  else return false

def typeAlias : Reader Unit := do
  softKeyword "type"
  let _ ← name
  let _ ← typeParameters
  symbol .equal
  let _ ← oneExpression
  return

/-- The word `type` with a name behind it is next. -/
def nextIsTypeAlias : Reader Bool := do
  let second ← peekSecond
  return (← nextIs (.name "type".toList)) &&
    match second with
    | some (.name _) => true
    | _ => false

/-- The word `lazy` in front of an import is next. -/
def nextIsLazyImport : Reader Bool := do
  let second ← peekSecond
  return (← nextIs (.name "lazy".toList)) &&
    (second = some (.keyword .importWord) || second = some (.keyword .fromWord))

def lazyImport : Reader Unit := do
  softKeyword "lazy"
  if ← nextIsKeyword .importWord then importStatement else fromStatement

def asOther (p : Reader Unit) : Reader SmallStatement := do
  p
  return .other

def smallStatement : Reader SmallStatement := do
  match ← peek with
  | some (.keyword .returnWord) => returnStatement
  | some (.keyword .importWord) => asOther importStatement
  | some (.keyword .fromWord) => asOther fromStatement
  | some (.keyword .raiseWord) => asOther raiseStatement
  | some (.keyword .passWord) => asOther (keyword .passWord)
  | some (.keyword .delWord) => asOther deleteStatement
  | some (.keyword .yieldWord) => return .expression (← whole yieldExpression).tree
  | some (.keyword .assertWord) => asOther assertStatement
  | some (.keyword .breakWord) => asOther (keyword .breakWord)
  | some (.keyword .continueWord) => asOther (keyword .continueWord)
  | some (.keyword .globalWord) => asOther (scopeStatement .globalWord)
  | some (.keyword .nonlocalWord) => asOther (scopeStatement .nonlocalWord)
  | _ =>
    if ← nextIsTypeAlias then asOther typeAlias
    else if ← nextIsLazyImport then asOther lazyImport
    else assignmentOrExpression

/-- Simple statements behind the first one of a line. -/
def moreSmallStatements : Nat → Reader (List SmallStatement)
  | 0 => failure
  | n + 1 => do
    if ← acceptSymbol .semicolon then
      if ← nextIs .newline then return []
      let part ← smallStatement
      return part :: (← moreSmallStatements n)
    else return []

/-- Simple statements with semicolons between them, up to the end of the line. -/
def smallStatements : Reader (List SmallStatement) := do
  let first ← smallStatement
  let rest ← moreSmallStatements (← remaining)
  token .newline
  return first :: rest

/-! ## Compound statements -/

variable (statement : Reader Statement)

def openBlock : Reader Unit := do
  match ← next with
  | .indent _ => return
  | _ => failure

/-- A block behind a colon, and whether it is indented. -/
def block : Reader (Bool × List Statement) := do
  symbol .colon
  if ← nextIs .newline then
    token .newline
    openBlock
    let body ← many1 statement
    match ← next with
    | .dedent _ => return (true, body)
    | _ => failure
  else
    let start ← position
    return (false, [.line start (← smallStatements)])

def body : Reader (List Statement) := do
  return (← block statement).2

def elseBody : Reader (List Statement) := do
  if ← acceptKeyword .elseWord then body statement else return []

def functionDefinition (start decorators : Nat) (isAsync : Bool) : Reader Statement := do
  keyword .defWord
  let name ← name
  let hasTypeParameters ← typeParameters
  symbol .leftParen
  let parameters ← whole fun g ↦ parameters true (g .expression) (starOr g (g .expression))
  symbol .rightParen
  let hasReturns ← acceptWith .arrow oneExpression
  let (indented, body) ← block statement
  return .function start ⟨name, isAsync, decorators, hasTypeParameters, parameters, hasReturns⟩
    indented body

def classDefinition (start : Nat) : Reader Statement := do
  keyword .classWord
  let _ ← name
  let _ ← typeParameters
  if ← acceptSymbol .leftParen then whole bases
  return .compound start (← body statement)

def ifStatement (start : Nat) : Reader Statement := do
  keyword .ifWord
  let _ ← behindWord wholeNamed
  let first ← body statement
  let others ← many do
    keyword .elifWord
    let _ ← behindWord wholeNamed
    body statement
  let last ← elseBody statement
  return .compound start (first ++ others.flatten ++ last)

def whileStatement (start : Nat) : Reader Statement := do
  keyword .whileWord
  let _ ← behindWord wholeNamed
  let first ← body statement
  return .compound start (first ++ (← elseBody statement))

def forStatement (start : Nat) : Reader Statement := do
  keyword .forWord
  let _ ← whole fun g ↦ loopHead g wholeExpressions
  let first ← body statement
  return .compound start (first ++ (← elseBody statement))

/-- An expression and perhaps a target for it; the result is the expression. -/
def withItem : Reader Operand := do
  let e ← oneExpression
  let touches ← touching
  if ← acceptKeyword .asWord then
    let _ ← behindWord (whole fun g ↦ g .target)
    wordBehind touches e
    return e
  else return e

/-- The items of a with statement in parentheses, with the colon behind them. -/
def parenthesizedItems : Reader Unit := do
  symbol .leftParen
  let (items, _) ← commaListBefore .rightParen withItem
  if items.isEmpty || !(← nextIsSymbol .colon) then failure

def withItems : Reader Unit :=
  parenthesizedItems <|> do
    let touches ← touching
    let items ← separated withItem
    if let some first := items.head? then wordBefore touches first

def withStatement (start : Nat) : Reader Statement := do
  keyword .withWord
  withItems
  return .compound start (← body statement)

/-- One exception with a name, or several without. No gap is kept between an exception and the colon. -/
def exceptions (grouped : Bool) : Reader Unit := do
  let first ← oneExpression
  let touches ← touching
  if ← acceptKeyword .asWord then
    let _ ← name
    unless grouped do wordBehind touches first
  else
    if ← acceptSymbol .comma then
      let _ ← commaList oneExpression startsExpression
    dropGap

/-- The body of a handler, and whether it handles every exception. -/
def handler (grouped : Bool) : Reader (Bool × List Statement) := do
  keyword .exceptWord
  if grouped then symbol .star
  if !grouped && (← nextIsSymbol .colon) then return (true, ← body statement)
  else
    exceptions grouped
    return (false, ← body statement)

def finallyBody : Reader (List Statement) := do
  keyword .finallyWord
  body statement

/-- Handlers are either all grouped or none is. -/
def tryStatement (start : Nat) : Reader Statement := do
  keyword .tryWord
  let first ← body statement
  if ← nextIsKeyword .finallyWord then
    return .compound start (first ++ (← finallyBody statement))
  let grouped ← (do return (← peekSecond) = some (.symbol .star) : Reader Bool)
  let handlers ← many1 (handler statement grouped)
  let last ← elseBody statement
  let final ← if ← nextIsKeyword .finallyWord then finallyBody statement else pure []
  if (handlers.dropLast).any Prod.fst then note .unreachableHandler
  return .compound start (first ++ handlers.flatMap Prod.snd ++ last ++ final)

/-- What is matched: one expression, or several with a comma. -/
def subject : Reader Unit := do
  let starred ← nextIsSymbol .star
  let (list, last) ← whole fun g ↦ commaList (starOr g (namedExpression g)) startsExpression
  if starred && list.length = 1 && !last then failure

/-- A match statement up to the first case. -/
def matchHead : Reader Unit := do
  softKeyword "match"
  subject
  symbol .colon
  token .newline
  openBlock

def nextIsMatch : Reader Bool :=
  ahead do
    matchHead
    softKeyword "case"

def caseBlock : Reader (List Statement) := do
  softKeyword "case"
  casePatterns
  if ← acceptKeyword .ifWord then
    let _ ← wholeNamed
  body statement

def matchStatement (start : Nat) : Reader Statement := do
  matchHead
  let cases ← many1 (caseBlock statement)
  match ← next with
  | .dedent _ => return .compound start cases.flatten
  | _ => failure

def decorator : Reader Unit := do
  symbol .atSign
  let _ ← wholeNamed
  token .newline

def asyncStatement (start decorators : Nat) : Reader Statement := do
  keyword .asyncWord
  match ← peek with
  | some (.keyword .defWord) => functionDefinition statement start decorators true
  | some (.keyword .withWord) => if decorators = 0 then withStatement statement start else failure
  | some (.keyword .forWord) => if decorators = 0 then forStatement statement start else failure
  | _ => failure

def decorated : Reader Statement := do
  let decorators := (← many1 decorator).length
  let start ← position
  match ← peek with
  | some (.keyword .defWord) => functionDefinition statement start decorators false
  | some (.keyword .asyncWord) => asyncStatement statement start decorators
  | some (.keyword .classWord) => classDefinition statement start
  | _ => failure

def anyStatement : Reader Statement := do
  let start ← position
  match ← peek with
  | some (.symbol .atSign) => decorated statement
  | some (.keyword .defWord) => functionDefinition statement start 0 false
  | some (.keyword .asyncWord) => asyncStatement statement start 0
  | some (.keyword .classWord) => classDefinition statement start
  | some (.keyword .ifWord) => ifStatement statement start
  | some (.keyword .whileWord) => whileStatement statement start
  | some (.keyword .forWord) => forStatement statement start
  | some (.keyword .withWord) => withStatement statement start
  | some (.keyword .tryWord) => tryStatement statement start
  | _ =>
    if (← nextIs (.name "match".toList)) && (← nextIsMatch) then matchStatement statement start
    else return .line start (← smallStatements)

def statementUpTo : Nat → Reader Statement
  | 0 => failure
  | n + 1 => anyStatement (statementUpTo n)

/-- The next statement, and the tokens it is made of. -/
def statementWithTokens : Reader (Statement × List Token) := do
  let before := (← get).tokens
  let s ← statementUpTo (before.length + 1)
  return (s, before.take (before.length - (← remaining)))

def statementsUpTo : Nat → Reader (List (Statement × List Token))
  | 0 => failure
  | n + 1 => do
    if (← get).tokens.isEmpty then return []
    let s ← statementWithTokens
    return s :: (← statementsUpTo n)

/-- All statements of a text, up to its last token. -/
def statements : Reader (List (Statement × List Token)) := do
  statementsUpTo ((← remaining) + 1)

end StarlarkMacro.Source.Reader
