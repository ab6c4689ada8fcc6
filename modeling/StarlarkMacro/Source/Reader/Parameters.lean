import StarlarkMacro.Source.Reader.Basic

/-!
# Parameter lists

The parameters of a function are read as a list of items first; which lists of items are parameters is a
question of their order alone. A function and an anonymous function differ in that only the first may
annotate its parameters.
-/

namespace StarlarkMacro.Source

inductive ParameterItem where
  | plain (p : Parameter)
  | slash
  | star
  | starNamed (p : Parameter)
  | doubleStarNamed (p : Parameter)
  deriving DecidableEq, Repr

namespace ParameterItem

def plain? : ParameterItem → Option Parameter
  | plain p => some p
  | _ => none

/-- The plain items in front, and what follows them. -/
def spanPlain : List ParameterItem → List Parameter × List ParameterItem
  | plain p :: rest =>
    let (ps, after) := spanPlain rest
    (p :: ps, after)
  | items => ([], items)

end ParameterItem

namespace Parameters

/-- No parameter without a default behind one that has it. -/
def defaultsLast (ps : List Parameter) : Bool :=
  (ps.dropWhile fun p ↦ !p.hasDefault).all Parameter.hasDefault

/-- Nothing, or the parameter that takes the remaining keywords. -/
def doubleStarOnly? : List ParameterItem → Option (Option Parameter)
  | [] => some none
  | [.doubleStarNamed p] => some (some p)
  | _ => none

/-- The items behind the ordinary parameters. A bare star needs a parameter behind it. -/
def withTail? (positionalOnly ordinary : List Parameter) (tail : List ParameterItem) :
    Option Parameters :=
  if !defaultsLast (positionalOnly ++ ordinary) then none
  else
    match tail with
    | .star :: rest => do
      let (keywordOnly, rest) := ParameterItem.spanPlain rest
      if keywordOnly.isEmpty then failure
      return ⟨positionalOnly, ordinary, .bare, keywordOnly, ← doubleStarOnly? rest⟩
    | .starNamed p :: rest => do
      let (keywordOnly, rest) := ParameterItem.spanPlain rest
      return ⟨positionalOnly, ordinary, .named p, keywordOnly, ← doubleStarOnly? rest⟩
    | rest => do
      return ⟨positionalOnly, ordinary, .absent, [], ← doubleStarOnly? rest⟩

/-- The slash ends the parameters that cannot be named, of which there must be one. -/
def ofItems? (items : List ParameterItem) : Option Parameters :=
  match ParameterItem.spanPlain items with
  | (first, .slash :: rest) =>
    if first.isEmpty then none
    else
      let (ordinary, tail) := ParameterItem.spanPlain rest
      withTail? first ordinary tail
  | (first, rest) => withTail? [] first rest

end Parameters

namespace Reader

/-- Reads what follows a symbol, if the symbol is next, and says whether it was. -/
def acceptWith {α : Type} (s : Symbol) (p : Reader α) : Reader Bool := do
  if ← acceptSymbol s then
    let _ ← p
    return true
  else return false

variable (annotations : Bool) (expression starExpression : Reader Operand)

def annotation (p : Reader Operand) : Reader Bool :=
  if annotations then acceptWith .colon p else return false

def parameterItem : Reader ParameterItem := do
  if ← acceptSymbol .slash then return .slash
  else if ← acceptSymbol .doubleStar then
    let name ← name
    return .doubleStarNamed ⟨name, ← annotation annotations expression, false⟩
  else if ← acceptSymbol .star then
    if ← nextIsName then
      let name ← name
      return .starNamed ⟨name, ← annotation annotations starExpression, false⟩
    else return .star
  else
    let name ← name
    let annotated ← annotation annotations expression
    return .plain ⟨name, annotated, ← acceptWith .equal expression⟩

def startsParameter : TokenKind → Bool
  | .name _ | .symbol .slash | .symbol .star | .symbol .doubleStar => true
  | _ => false

/-- Parameters, which may be none. A bare star cannot end them, with or without a comma. -/
def parameters : Reader Parameters := do
  if ((← peek).map startsParameter).getD false then
    let (items, _) ← commaList (parameterItem annotations expression starExpression) startsParameter
    match Parameters.ofItems? items with
    | some ps => return ps
    | none => failure
  else return ⟨[], [], .absent, [], none⟩

end Reader

end StarlarkMacro.Source
