import StarlarkMacro.Check.Shape
import StarlarkMacro.Proofs.Identifier
import StarlarkMacro.Proofs.Literal.Reading
import StarlarkMacro.Proofs.Source.Lines
import StarlarkMacro.Proofs.Source.Statement
import StarlarkMacro.Proofs.Writer.Operation

/-!
# The lines of a macro as data

A line of a macro is given by what it says: the path that is pushed, or the method that is called and the
data it is called with. The text of such a line is scanned and read as one statement, and the shape of that
statement is again what the line says.
-/

namespace StarlarkMacro

open Source
open Source.Layout (EndsWord Scans Closed)
open Writer (contextName)

inductive MacroLine where
  | push (path : List Char)
  | pop
  | command (method : List Char) (arguments : List Datum)
  | returnContext

namespace MacroLine

def statement : MacroLine → List Char
  | push path => Writer.pushStatement (Text.Quoted.encode path)
  | pop => Writer.popStatement
  | command method ds => Writer.callStatement method (ds.map Datum.text)
  | returnContext => Writer.returnStatement

def shape : MacroLine → Check.Shape
  | push path => .push (Text.Quoted.encode path)
  | pop => .pop
  | command method _ => .command method
  | returnContext => .returnContext

/-- A command must have a name that is no keyword. -/
def IsGood : MacroLine → Prop
  | command method _ => Identifier.IsUsable method
  | _ => True

/-! ## Pieces -/

def namePiece (spaced : Bool) (name : List Char) : Piece := ⟨spaced, .name name, name⟩

def callPieces (spaced : Bool) (method : List Char) (ds : List Datum) : List Piece :=
  namePiece spaced contextName :: .symbol .dot '.' :: namePiece false method ::
    .symbol .leftParen '(' :: namePiece false contextName ::
      (Datum.morePieces ds ++ [.symbol .rightParen ')'])

def assignedPieces (method : List Char) (ds : List Datum) : List Piece :=
  namePiece false contextName :: ⟨true, .symbol .equal, ['=']⟩ :: callPieces true method ds

def pieces : MacroLine → List Piece
  | push path => assignedPieces "push_directory".toList [.string path]
  | pop => assignedPieces "pop_directory".toList []
  | command method ds => callPieces false method ds
  | returnContext => [⟨false, .keyword .returnWord, "return".toList⟩, namePiece true contextName]

def callText (method : List Char) (ds : List Datum) : List Char :=
  Writer.callStatement method (ds.map Datum.text)

theorem sourceOf_callPieces (spaced : Bool) (method : List Char) (ds : List Datum) :
    Piece.sourceOf (callPieces spaced method ds) = Datum.gapText spaced ++ callText method ds := by
  cases spaced <;>
    simp [callPieces, Piece.source, Piece.gap, namePiece, Piece.symbol, Datum.gapText,
      Datum.sourceOf_morePieces, callText, Writer.callStatement, Datum.intercalate_cons,
      Datum.moreText_eq]

theorem sourceOf_assignedPieces (method : List Char) (ds : List Datum) :
    Piece.sourceOf (assignedPieces method ds) =
      Writer.transitionStatement method (ds.map Datum.text) := by
  rw [assignedPieces, Piece.sourceOf_cons, Piece.sourceOf_cons, sourceOf_callPieces]
  rfl

/-- The pieces of a line make up the statement that the writer writes. -/
theorem sourceOf_pieces (l : MacroLine) : Piece.sourceOf l.pieces = l.statement := by
  cases l with
  | push path => exact sourceOf_assignedPieces _ _
  | pop => exact sourceOf_assignedPieces _ _
  | command method ds => exact sourceOf_callPieces false method ds
  | returnContext => rfl

/-! ## Scanning -/

section Scans

variable {after : List Char} {waiting : List Symbol}

/-- The names that the writer uses by itself are usable ones. -/
theorem isUsable_contextName : Identifier.IsUsable contextName := ⟨rfl, by decide⟩

theorem isUsable_push : Identifier.IsUsable "push_directory".toList := ⟨rfl, by decide⟩

theorem isUsable_pop : Identifier.IsUsable "pop_directory".toList := ⟨rfl, by decide⟩

/-- A usable name is no keyword, so it is taken as a name. -/
theorem isTaken_name {name : List Char} (hname : Identifier.IsUsable name) (hafter : EndsWord after) :
    Layout.IsTaken (.name name) name after waiting waiting := by
  obtain ⟨c, cs, rfl, hc, hcs⟩ := hname.exists_eq_cons
  exact Layout.isTaken_word hc hcs hname.wordKind? hafter

theorem endsWord_cons {c : Char} {rest : List Char}
    (h : Lexeme.isWordChar c = false ∧ Lexeme.isQuote c = false) : EndsWord (c :: rest) := by
  rintro d rest' heq
  obtain ⟨rfl, -⟩ := List.cons.inj heq
  exact h

/-- No name begins with a digit or a dot, so the dot before it is a symbol of its own. -/
theorem isTaken_dot_name {name : List Char} (hname : Identifier.IsUsable name) :
    Layout.IsTaken (.symbol .dot) ['.'] (name ++ after) waiting waiting := by
  obtain ⟨c, cs, rfl, hc, -⟩ := hname.exists_eq_cons
  refine Layout.isTaken_dot waiting _ ?_ ?_
  · rintro rfl
    cases hc
  · by_contra hdigit
    rw [Layout.isWordStart_of_isDigit (by simpa using hdigit)] at hc
    cases hc

/-- A call is scanned piece by piece. The space before its first piece is there if it is assigned. -/
theorem scans_callPieces (spaced : Bool) {method : List Char} (hmethod : Identifier.IsUsable method)
    (ds : List Datum) : Scans (callPieces spaced method ds) after waiting waiting := by
  have hends : Datum.Ends (Piece.sourceOf [Piece.symbol .rightParen ')'] ++ after) :=
    ⟨')', _, rfl, .inr (.inr (.inl rfl))⟩
  have hcontext : EndsWord (Piece.sourceOf
      (Datum.morePieces ds ++ [Piece.symbol .rightParen ')']) ++ after) := by
    rw [Piece.sourceOf_append, List.append_assoc]
    exact (Datum.ends_morePieces hends ds).endsWord
  have hdot : Layout.IsTaken (.symbol .dot) ['.'] (Piece.sourceOf (namePiece false method ::
      Piece.symbol .leftParen '(' :: namePiece false contextName ::
        (Datum.morePieces ds ++ [.symbol .rightParen ')'])) ++ after) waiting waiting := by
    rw [Piece.sourceOf_cons, List.append_assoc]
    exact isTaken_dot_name hmethod
  refine .cons (isTaken_name isUsable_contextName (endsWord_cons (by decide))) (.cons hdot ?_)
  refine .cons (isTaken_name hmethod (endsWord_cons (by decide))) ?_
  refine .cons (Layout.isTaken_leftParen _ _) (.cons (isTaken_name isUsable_contextName hcontext) ?_)
  exact (Datum.scans_morePieces ds hends).append (.cons (Layout.isTaken_rightParen _ _) .nil)

theorem scans_assignedPieces {method : List Char} (hmethod : Identifier.IsUsable method)
    (ds : List Datum) : Scans (assignedPieces method ds) after waiting waiting := by
  refine .cons (isTaken_name isUsable_contextName (endsWord_cons (by decide))) (.cons ?_
    (scans_callPieces true hmethod ds))
  exact Layout.isTaken_equal_space _ _

/-- A line is scanned piece by piece up to its end. -/
theorem scans_pieces {l : MacroLine} (hl : l.IsGood) (more : List Char) :
    Scans l.pieces ('\n' :: more) waiting waiting := by
  cases l with
  | push path => exact scans_assignedPieces isUsable_push _
  | pop => exact scans_assignedPieces isUsable_pop _
  | command method ds => exact scans_callPieces false hl ds
  | returnContext =>
    refine .cons (Layout.isTaken_word rfl (List.all_eq_true.1 rfl) (by decide)
      (endsWord_cons (by decide))) ?_
    exact .cons (isTaken_name isUsable_contextName (endsWord_cons (by decide))) .nil

end Scans

/-! ## Nothing touches the word that returns it -/

/-- No line of a macro but the last one has the word that returns. -/
theorem returnFree_callPieces (spaced : Bool) (method : List Char) (ds : List Datum) :
    Piece.ReturnFree (callPieces spaced method ds) := by
  have hname (spaced : Bool) (name : List Char) :
      (namePiece spaced name).kind ≠ .keyword .returnWord := by simp [namePiece]
  have hsymbol (s : Symbol) (c : Char) : (Piece.symbol s c).kind ≠ .keyword .returnWord := by
    simp [Piece.symbol]
  exact .cons (hname _ _) (.cons (hsymbol _ _) (.cons (hname _ _) (.cons (hsymbol _ _)
    (.cons (hname _ _) ((Datum.returnFree_morePieces ds).append (Datum.returnFree_symbol _ _))))))

theorem returnFree_assignedPieces (method : List Char) (ds : List Datum) :
    Piece.ReturnFree (assignedPieces method ds) :=
  .cons (by simp [namePiece]) (.cons (by simp) (returnFree_callPieces true method ds))

/-- A line with the word that returns holds nothing but the word and the context, with a space between them.
-/
theorem closed_pieces (l : MacroLine) (offset : Nat) : Closed (Piece.tokensFrom offset l.pieces) := by
  cases l with
  | returnContext =>
    intro us hus
    refine List.IsChain.cons_cons ?_ (Closed.cons (by simp [namePiece]) .nil us hus)
    simp [Piece.startFrom, Piece.gap, namePiece]
  | push path => exact .tokensFrom (returnFree_assignedPieces _ _) offset
  | pop => exact .tokensFrom (returnFree_assignedPieces _ _) offset
  | command method ds => exact .tokensFrom (returnFree_callPieces _ _ _) offset

def line (l : MacroLine) : Layout.Line := ⟨true, l.pieces⟩

/-- The text of a line is what the buffer renders for its statement. -/
theorem text_line (l : MacroLine) : l.line.text = Writer.statementLine l.statement := by
  rw [Layout.Line.text, line, sourceOf_pieces]
  rfl

/-- Every good line is laid out as the scanner of lines needs it. -/
theorem isLaid_line {l : MacroLine} (hl : l.IsGood) : l.line.IsLaid where
  startsWord := by
    rw [line, sourceOf_pieces]
    cases l <;> exact ⟨_, _, rfl, rfl⟩
  scans := scans_pieces hl
  closed := closed_pieces l

/-! ## Reading -/

open Source.Reader

/-- The kinds of the tokens of a call of the context. -/
def contextCallKinds (method : List Char) (ds : List Datum) : List TokenKind :=
  callKinds contextName method (.name contextName :: moreKinds Datum.kinds ds)

/-- Everything that a call is called with is passed in its place. -/
def callTree (method : List Char) (ds : List Datum) : Expression :=
  .call (.attribute (.name contextName) method)
    ((.plain, .name contextName) :: ds.map fun d ↦ (.plain, d.tree))

/-- The data behind the context are further arguments, each with its comma. -/
theorem map_kind_callPieces (spaced : Bool) (method : List Char) (ds : List Datum) :
    (callPieces spaced method ds).map Piece.kind = contextCallKinds method ds := by
  simp [callPieces, contextCallKinds, callKinds, namePiece, Piece.symbol, Datum.map_kind_morePieces]

theorem map_kind_assignedPieces (method : List Char) (ds : List Datum) :
    (assignedPieces method ds).map Piece.kind =
      .name contextName :: .symbol .equal :: contextCallKinds method ds := by
  rw [assignedPieces, List.map_cons, List.map_cons, map_kind_callPieces]
  rfl

/-- A datum has fewer tokens than the call, so phrases that are deep enough for the call are deep enough for
each datum. -/
theorem length_lt_contextCallKinds {method : List Char} {ds : List Datum} {d : Datum} (hd : d ∈ ds) :
    d.kinds.length < (contextCallKinds method ds).length := by
  have hlength : d.kinds.length ≤ (moreKinds Datum.kinds ds).length := Datum.length_le_moreKinds hd
  simp only [contextCallKinds, callKinds, List.length_cons, List.length_append]
  omega

section Call

variable {n : Nat} {method : List Char} {ds : List Datum} {rest : List TokenKind}

theorem stops_of_follows {after : List TokenKind}
    (h : Follows (TokenKind.symbol .rightParen :: rest) after) : Stops after :=
  Stops.of_follows ⟨_, _, rfl, rfl⟩ h

/-- The context comes first and the data follow, all of them plain arguments. -/
theorem reads_contextArguments (hds : ∀ d ∈ ds, d.kinds.length < n + 1) :
    Reads (callArguments (phrase (n + 1)))
      ((.name contextName :: moreKinds Datum.kinds ds) ++ [.symbol .rightParen]) rest
      (argumentTrees · = (.plain, .name contextName) :: ds.map fun d ↦ (.plain, d.tree)) := by
  have hcontext : Begins opensAtom [.name contextName] := ⟨_, _, rfl, rfl⟩
  refine reads_callArguments hcontext.opensOperand (fun after hafter ↦ ?_)
    (fun d hd after hafter ↦ ?_) fun d _ ↦ d.begins_kinds
  · have hunnamed : Unnamed ([.name contextName] ++ after) := by
      rintro text ⟨⟩
      obtain rfl | ⟨more, rfl⟩ := hafter <;> simp
    have hname : Reads (phrase (n + 1) .expression) [.name contextName] after
        (·.tree = .name contextName) :=
      (reads_expression_of_atom (stops_of_follows hafter)
        (reads_atom_name isUsable_contextName.isIdentifier) hcontext).mono fun e he ↦ by rw [he]
    exact reads_argument hunnamed hname hcontext.opensOperand
  · have hunnamed : Unnamed (d.kinds ++ after) := fun text htext ↦
      absurd htext (d.head?_kinds_ne_name after text)
    exact reads_argument hunnamed (d.isRead (hds d hd) after (stops_of_follows hafter)) d.begins_kinds

section Method

variable (hmethod : Identifier.IsUsable method) (hrest : Stops rest)
include hmethod hrest

/-- A call of the context with data is read as an expression that keeps the method and the trees. -/
theorem reads_contextCall (hn : (contextCallKinds method ds).length ≤ n) :
    Reads (expression (phrase n)) (contextCallKinds method ds) rest (·.tree = callTree method ds) := by
  obtain ⟨n, rfl⟩ : ∃ k, n = k + 1 := ⟨n - 1, by
    simp only [contextCallKinds, callKinds, List.length_cons] at hn
    omega⟩
  exact reads_expression_call isUsable_contextName.isIdentifier hmethod.isIdentifier hrest
    (reads_contextArguments fun d hd ↦ (length_lt_contextCallKinds hd).trans_le hn)

/-- A line that begins with a call is no assignment. -/
theorem untargeted_contextCall : Untargeted (contextCallKinds method ds ++ rest) where
  unbracketed := by simp [Unbracketed, contextCallKinds, callKinds]
  fails_plainTarget n hn := by
    rw [List.length_append] at hn
    obtain ⟨n, rfl⟩ : ∃ k, n = k + 1 := ⟨n - 1, by
      simp only [contextCallKinds, callKinds, List.length_cons] at hn
      omega⟩
    exact fails_plainTarget_call isUsable_contextName.isIdentifier hmethod.isIdentifier hrest
      (reads_contextArguments fun d hd ↦ by
        have hlength : d.kinds.length < (contextCallKinds method ds).length :=
          length_lt_contextCallKinds hd
        omega)

end Method

end Call

/-- The kinds of the tokens of a line, its end included. -/
def kinds (l : MacroLine) : List TokenKind := l.pieces.map Piece.kind ++ [.newline]

theorem isPlainName_contextName : IsPlainName contextName := by simp [IsPlainName, contextName]

section SmallStatement

variable {method : List Char} (hmethod : Identifier.IsUsable method) (ds : List Datum)
  (rest : List TokenKind)

section Call

include hmethod

/-- A call by itself is an expression statement. -/
theorem reads_command :
    Reads smallStatement (contextCallKinds method ds) (.newline :: rest)
      (· = .expression (callTree method ds)) := by
  have hrest : Stops (.newline :: rest) := ⟨_, _, rfl, rfl⟩
  have hcall : Reads (expression (phrase (contextCallKinds method ds ++ .newline :: rest).length))
      (contextCallKinds method ds) (.newline :: rest) (·.tree = callTree method ds) :=
    reads_contextCall hmethod hrest (by simp)
  have hexpressions := reads_wholeExpressions ⟨_, _, rfl, rfl⟩ (by simp) hcall
  refine (reads_smallStatement_name isPlainName_contextName
    (reads_expressionStatement (untargeted_contextCall hmethod hrest) hexpressions)).mono fun s hs ↦ ?_
  obtain ⟨e, he, rfl⟩ := hs
  rw [he]

/-- Pushes and pops are assignments of the context to itself. -/
theorem reads_transition :
    Reads smallStatement (.name contextName :: .symbol .equal :: contextCallKinds method ds)
      (.newline :: rest) (· = .assign [.name contextName] (callTree method ds)) := by
  have hrest : Stops (.newline :: rest) := ⟨_, _, rfl, rfl⟩
  have hcall : Reads (expression (phrase (contextCallKinds method ds ++ .newline :: rest).length))
      (contextCallKinds method ds) (.newline :: rest) (·.tree = callTree method ds) :=
    reads_contextCall hmethod hrest (by simp)
  have hvalue := reads_rightHandSide ⟨_, _, rfl, rfl⟩ (by simp) hcall
  refine (reads_smallStatement_name isPlainName_contextName
    (reads_assignment isUsable_contextName.isIdentifier (untargeted_contextCall hmethod hrest) hvalue
      (by simp))).mono fun s hs ↦ ?_
  obtain ⟨e, he, rfl⟩ := hs
  rw [he]

end Call

theorem reads_returnContext :
    Reads smallStatement [.keyword .returnWord, .name contextName] (.newline :: rest)
      (· = .ret (some (.name contextName))) := by
  have hrest : Stops (.newline :: rest) := ⟨_, _, rfl, rfl⟩
  have hbegins : Begins opensAtom [.name contextName] := ⟨_, _, rfl, rfl⟩
  have hname := reads_wholeExpressions hbegins.opensOperand (by simp) (reads_expression_of_atom hrest
    (reads_atom_name isUsable_contextName.isIdentifier) hbegins)
  refine (reads_smallStatement_return (reads_returnStatement ⟨_, _, rfl, rfl⟩ hname)).mono
    fun s hs ↦ ?_
  obtain ⟨e, rfl, rfl⟩ := hs
  rfl

end SmallStatement

/-! ## Shapes -/

/-- The check finds the method and the data again in the tree of a call. -/
theorem contextCall?_callTree (method : List Char) (ds : List Datum) :
    Check.Shape.contextCall? (callTree method ds) =
      some (method, ds.map fun d ↦ (.plain, d.tree)) := by
  have hcontext : Check.isContext (.name contextName) = true := rfl
  have hall : ((.plain, .name contextName) :: ds.map fun d ↦ (ArgumentMark.plain, d.tree)).all
      Check.Shape.isPositional = true := by
    simp [Check.Shape.isPositional]
  simp only [callTree, Check.Shape.contextCall?, hcontext, hall, Bool.and_true, if_true]

/-- A line is read as one statement of its shape. -/
theorem reads_line {l : MacroLine} (hl : l.IsGood) (statement : Reader Statement)
    (rest : List TokenKind) :
    Reads (anyStatement statement) l.kinds rest fun s ↦
      Check.Shape.ofStatement? s = some l.shape := by
  have hcontext : (∃ name, TokenKind.name contextName = .name name ∧ IsPlainName name) ∨
      TokenKind.name contextName = .keyword .returnWord := .inl ⟨_, rfl, isPlainName_contextName⟩
  have hshape {s : Statement} {part : SmallStatement}
      (h : ∃ start part', s = .line start [part'] ∧ part' = part) :
      Check.Shape.ofStatement? s = some (Check.Shape.ofSmallStatement part) := by
    obtain ⟨start, _, rfl, rfl⟩ := h
    rfl
  cases l with
  | push path =>
    rw [kinds, pieces, map_kind_assignedPieces]
    exact (reads_anyStatement_line hcontext (reads_transition isUsable_push _ rest)).mono
      fun s hs ↦ hshape hs
  | pop =>
    rw [kinds, pieces, map_kind_assignedPieces]
    exact (reads_anyStatement_line hcontext (reads_transition isUsable_pop _ rest)).mono
      fun s hs ↦ hshape hs
  | command method ds =>
    rw [kinds, pieces, map_kind_callPieces]
    refine (reads_anyStatement_line hcontext (reads_command hl ds rest)).mono
      fun s hs ↦ (hshape hs).trans ?_
    simp only [Check.Shape.ofSmallStatement, contextCall?_callTree, shape]
  | returnContext =>
    exact (reads_anyStatement_line (.inr rfl) (reads_returnContext rest)).mono fun s hs ↦ hshape hs

end MacroLine

end StarlarkMacro
