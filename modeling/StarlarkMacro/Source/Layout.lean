import StarlarkMacro.Source.Lexeme

/-!
# From text to tokens

A text becomes a list of tokens line by line. Inside brackets line ends and indentation mean nothing;
outside them a line that holds more than white space and a comment ends with a newline token, and a change
of its indentation opens a block or closes some. Columns are counted with tabs to multiples of eight and
again with tabs as single columns, and the two counts must agree on every comparison; the white space of a
block must begin with that of the block around it. A line that begins with a joined line has no
indentation of its own and goes on with the block before it. A formatted string is split at its fields,
which hold ordinary tokens. A text that cannot be split has no tokens at all.
-/

namespace StarlarkMacro.Source.Layout

open Lexeme

/-- The closing quotes that a formatted string waits for. -/
structure Quotes where
  char : Char
  long : Bool
  raw : Bool
  deriving DecidableEq, Repr

/-- What is open around a position, apart from blocks. -/
inductive Frame where
  | bracket (closing : Symbol)
  /-- The text of a formatted string. -/
  | formatted (q : Quotes)
  /-- The expression of a field. -/
  | field (q : Quotes)
  /-- The format specification of a field. -/
  | specification (q : Quotes)
  deriving DecidableEq, Repr

structure Indentation where
  column : Nat
  /-- The column with tabs counted as one. -/
  narrow : Nat
  text : List Char
  deriving DecidableEq, Repr

def Indentation.ofBlanks (blanks : List Char) : Indentation :=
  let (column, narrow) := blanks.foldl (fun (column, narrow) c ↦
    if c = '\t' then ((column / 8 + 1) * 8, narrow + 1)
    else if c = '\x0c' then (0, 0)
    else (column + 1, narrow + 1)) (0, 0)
  ⟨column, narrow, blanks⟩

def Indentation.none : Indentation := ⟨0, 0, []⟩

structure State where
  rest : List Char
  offset : Nat
  /-- The open blocks, innermost first. -/
  blocks : List Indentation
  /-- The open brackets and formatted strings, innermost first. -/
  frames : List Frame
  lineStart : Bool
  /-- The line already has a token. -/
  lineOpen : Bool

namespace State

def skip (s : State) (n : Nat) : State :=
  { s with rest := s.rest.drop n, offset := s.offset + n }

def token (s : State) (kind : TokenKind) (n : Nat) : Token := ⟨kind, s.offset, s.offset + n⟩

/-- A token of the next `n` characters, and the state behind it. -/
def take (s : State) (kind : TokenKind) (n : Nat) : List Token × State :=
  ([s.token kind n], { s.skip n with lineOpen := true })

end State

/-- Tokens, and the state to go on with unless the text is at its end. -/
abbrev Advance := List Token × Option State

def goOn (step : List Token × State) : Advance := (step.1, some step.2)

/-- The blocks that a line of that indentation leaves open, and those it closes, innermost first. -/
def closedBlocks (line : Indentation) (blocks : List Indentation) :
    List Indentation × List Indentation :=
  blocks.span fun block ↦ line.column < block.column

/-- Closes and opens blocks before the first token of a line. -/
def indentLine (s : State) (line : Indentation) : Option Advance :=
  let (closed, kept) := closedBlocks line s.blocks
  let inner := kept.headD .none
  let s := { s with lineStart := false }
  if line.column = inner.column then
    if line.narrow = inner.narrow then
      some (closed.map (fun block ↦ s.token (.dedent block.text) 0), some { s with blocks := kept })
    else none
  else if closed.isEmpty && inner.narrow < line.narrow && inner.text.isPrefixOf line.text then
    some ([s.token (.indent line.text) 0], some { s with blocks := line :: s.blocks })
  else none

def commentLength (cs : List Char) : Nat := (cs.takeWhile fun c ↦ !isLineEnd c).length

/-- The start of a line. Only a line that holds something before its first line end is indented. -/
def startLine (s : State) : Option Advance :=
  let blanks := s.rest.takeWhile isBlank
  let s := s.skip blanks.length
  match s.rest with
  | [] => some ([], some { s with lineStart := false })
  | '#' :: cs =>
    let s := s.skip (commentLength cs + 1)
    some ([], some (s.skip (lineEndLength s.rest)))
  | '\\' :: _ => some ([], some { s with lineStart := false })
  | c :: _ =>
    if isLineEnd c then some ([], some (s.skip (lineEndLength s.rest)))
    else indentLine s (.ofBlanks blanks)

def finish (s : State) : Option Advance :=
  if s.frames.isEmpty then
    let newline := if s.lineOpen then [s.token .newline 0] else []
    some (newline ++ s.blocks.map (fun block ↦ s.token (.dedent block.text) 0), none)
  else none

/-- The end of a line, which is a token only if the line has another. -/
def endLine (s : State) : Advance :=
  let n := lineEndLength s.rest
  if s.frames.isEmpty then
    let newline := if s.lineOpen then [s.token .newline n] else []
    (newline, some { s.skip n with lineStart := true, lineOpen := false })
  else ([], some (s.skip n))

/-- A joined line must be followed by something. -/
def joinLine (s : State) : Option Advance :=
  match lineEndLength (s.rest.drop 1) with
  | 0 => none
  | n =>
    let s := s.skip (n + 1)
    if s.rest.isEmpty then none else some ([], some s)

/-! ## Formatted strings -/

def closesFormatted (q : Quotes) (cs : List Char) : Bool :=
  if q.long then opensLong q.char cs else cs.head? = some q.char

/-- The length of the next unit of the text of a formatted string, nothing before a field, the end of a
specification or the closing quotes. A backslash does not keep a brace from opening a field. The flag
holds after the opening brace of a character's name. -/
def textUnit (q : Quotes) (inSpecification named : Bool) : List Char → Option (Nat × Bool)
  | [] => none
  | c :: cs =>
    if isLineEnd c && !q.long then none
    else if closesFormatted q (c :: cs) then some (0, named)
    else if c = '\\' then
      match q.raw, inSpecification, cs with
      | _, _, [] => none
      | true, _, d :: _ => some (if isQuote d || d = '\\' then 2 else 1, named)
      | false, false, 'N' :: '\x7b' :: _ => some (3, true)
      | false, false, '\r' :: '\n' :: _ => some (3, named)
      | false, _, d :: _ => some (if d = '\x7b' || d = '\x7d' then 1 else 2, named)
    else if c = '\x7b' then some (if !inSpecification && cs.head? = some c then 2 else 0, named)
    else if c = '\x7d' then
      if named then some (1, false)
      else if inSpecification then some (0, named)
      else if cs.head? = some c then some (2, named)
      else none
    else some (1, named)

/-- How far the text of a formatted string runs, in at most `fuel` units. -/
def textLength (q : Quotes) (inSpecification : Bool) : Nat → Bool → List Char → Option Nat
  | 0, _, _ => none
  | fuel + 1, named, cs =>
    match textUnit q inSpecification named cs with
    | none => none
    | some (0, _) => some 0
    | some (n, named) => (textLength q inSpecification fuel named (cs.drop n)).map (· + n)

def formattedStep (q : Quotes) (inSpecification : Bool) (outer : List Frame) (s : State) :
    Option Advance :=
  match textLength q inSpecification (s.rest.length + 1) false s.rest with
  | none => none
  | some (n + 1) => some (goOn (s.take .formattedText (n + 1)))
  | some 0 =>
    match s.rest with
    | '\x7b' :: _ =>
      some (goOn ((s.take (.symbol .leftBrace) 1).map id
        fun s ↦ { s with frames := .field q :: s.frames }))
    | '\x7d' :: _ =>
      some (goOn ((s.take (.symbol .rightBrace) 1).map id
        fun s ↦ { s with frames := outer.drop 1 }))
    | _ =>
      if inSpecification then none
      else
        some (goOn ((s.take .formattedEnd (if q.long then 3 else 1)).map id
          fun s ↦ { s with frames := outer }))

/-! ## Code -/

/-- A string literal, or the opening of a formatted string, behind its letters. -/
def stringStep (s : State) (word after : List Char) : Option Advance :=
  if isStringMark word then do
    let n ← quotedString after
    let n := word.length + n
    some (goOn (s.take (.string (s.rest.take n)) n))
  else if isFormattedMark word then
    let quote := after.headD '"'
    let q : Quotes := ⟨quote, opensLong quote after, (word.map lower).contains 'r'⟩
    let n := word.length + if q.long then 3 else 1
    some (goOn ((s.take (.formattedStart (isTemplateMark word)) n).map id
      fun s ↦ { s with frames := .formatted q :: s.frames }))
  else none

def wordStep (s : State) : Option Advance :=
  let word := s.rest.takeWhile isWordChar
  let after := s.rest.drop word.length
  let isMark := isStringMark word || isFormattedMark word
  if isMark && (after.headD ' ' |> isQuote) then stringStep s word after
  else (wordKind? word).map fun kind ↦ goOn (s.take kind word.length)

def opening? : Symbol → Option Symbol
  | .leftParen => some .rightParen
  | .leftBracket => some .rightBracket
  | .leftBrace => some .rightBrace
  | _ => none

def isClosing : Symbol → Bool
  | .rightParen | .rightBracket | .rightBrace => true
  | _ => false

/-- The frames behind a symbol; a closing bracket must close the innermost frame. -/
def framesBehind (symbol : Symbol) (frames : List Frame) : Option (List Frame) :=
  match opening? symbol with
  | some closing => some (.bracket closing :: frames)
  | none =>
    if isClosing symbol then
      match symbol, frames with
      | .rightBrace, .field _ :: outer => some outer
      | _, .bracket closing :: outer => if closing = symbol then some outer else none
      | _, _ => none
    else some frames

def symbolStep (s : State) : Option Advance :=
  match s.frames, s.rest with
  | .field q :: _, ':' :: _ =>
    some (goOn ((s.take (.symbol .colon) 1).map id
      fun s ↦ { s with frames := .specification q :: s.frames }))
  | _, _ => do
    let (symbol, n) ← Symbol.longest? s.rest
    let frames ← framesBehind symbol s.frames
    some (goOn ((s.take (.symbol symbol) n).map id fun s ↦ { s with frames }))

def codeStep (s : State) : Option Advance :=
  match s.rest with
  | [] => finish s
  | c :: cs =>
    if isBlank c then some ([], some (s.skip 1))
    else if isLineEnd c then some (endLine s)
    else if c = '\\' then joinLine s
    else if c = '#' then some ([], some (s.skip (commentLength cs + 1)))
    else if isWordStart c then wordStep s
    else if isQuote c then stringStep s [] s.rest
    else if startsNumber s.rest then do
      let n ← number s.rest
      some (goOn (s.take (.number (isImaginary (s.rest.take n))) n))
    else symbolStep s

def step (s : State) : Option Advance :=
  if s.lineStart then startLine s
  else
    match s.frames with
    | .formatted q :: outer => formattedStep q false outer s
    | .specification q :: outer => formattedStep q true outer s
    | _ => codeStep s

/-- At most `fuel` steps. -/
def run : Nat → State → Option (List Token)
  | 0, _ => none
  | fuel + 1, s => do
    match ← step s with
    | (tokens, none) => some tokens
    | (tokens, some s) => return tokens ++ (← run fuel s)

def byteOrderMark : Char := '\ufeff'

def markLength (source : List Char) : Nat := if source.head? = some byteOrderMark then 1 else 0

/-- The tokens of a source text. A byte order mark may stand before it. -/
def tokens? (source : List Char) : Option (List Token) :=
  let mark := markLength source
  run (2 * source.length + 2) ⟨source.drop mark, mark, [], [], true, false⟩

end StarlarkMacro.Source.Layout
