import StarlarkMacro.Check.Macro
import StarlarkMacro.Proofs.Document.Line
import StarlarkMacro.Verdict

/-!
# Texts of macros

A macro by its name and its lines, and the text of some macros one after the other. If the names are no
keywords and every pop has a directory to close, the text is accepted without a fault, and its summaries are
those of the macros.
-/

namespace StarlarkMacro

open Source

/-- A macro by its name and its lines up to the final return. -/
structure MacroText where
  name : List Char
  body : List MacroLine

namespace MacroLine

/-- The number of directories that are open behind lines, unless one of them closes a directory that is not
open or returns. -/
def depthBehind? : Nat → List MacroLine → Option Nat
  | depth, [] => some depth
  | depth, push _ :: ls => depthBehind? (depth + 1) ls
  | 0, pop :: _ => none
  | depth + 1, pop :: ls => depthBehind? depth ls
  | depth, command .. :: ls => depthBehind? depth ls
  | _, returnContext :: _ => none

def command? : MacroLine → Option (List Char)
  | command method _ => some method
  | _ => none

def path? : MacroLine → Option Text
  | push path => some (Text.ofChars path)
  | _ => none

/-- A statement of the shape of a line. -/
def Shapes (l : MacroLine) (s : Statement) : Prop := Check.Shape.ofStatement? s = some l.shape

/-- What a line adds that closes only what is open. -/
theorem lineFindings_of_shapes {l : MacroLine} {ls : List MacroLine} {depth : Nat} {s : Statement}
    (h : l.Shapes s) (hdepth : (depthBehind? depth (l :: ls)).isSome) (isLast : Bool) :
    ∃ depth', Check.lineFindings depth isLast s =
        (⟨[], l.command?.toList, l.path?.toList⟩, depth') ∧ (depthBehind? depth' ls).isSome := by
  have hshape : Check.Shape.ofStatement? s = some l.shape := h
  cases l with
  | push path =>
    refine ⟨depth + 1, ?_, hdepth⟩
    simp only [Check.lineFindings, hshape, shape, Text.Quoted.value?_encode]
    rfl
  | pop =>
    cases depth with
    | zero => cases hdepth
    | succ depth =>
      refine ⟨depth, ?_, hdepth⟩
      simp only [Check.lineFindings, hshape, shape]
      rfl
  | command method ds =>
    refine ⟨depth, ?_, by simpa only [depthBehind?] using hdepth⟩
    simp only [Check.lineFindings, hshape, shape]
    rfl
  | returnContext => cases depth <;> cases hdepth

/-- Lines that close only what is open, and a final return, have no fault. -/
theorem bodyFindings_of_shapes {ls : List MacroLine} {depth : Nat}
    (hdepth : (depthBehind? depth ls).isSome) {body : List Statement}
    (h : List.Forall₂ Shapes (ls ++ [returnContext]) body) :
    Check.bodyFindings depth body = ⟨[], ls.filterMap command?, ls.filterMap path?⟩ := by
  induction ls generalizing depth body with
  | nil =>
    obtain ⟨s, _, hs, hnil, rfl⟩ := List.forall₂_cons_left_iff.1 h
    obtain rfl := List.forall₂_nil_left_iff.1 hnil
    have hshape : Check.Shape.ofStatement? s = some .returnContext := hs
    simp only [Check.bodyFindings, Check.lineFindings, hshape]
    rfl
  | cons l ls ih =>
    obtain ⟨s, body, hs, hbody, rfl⟩ := List.forall₂_cons_left_iff.1 h
    obtain ⟨depth', hline, hdepth'⟩ := lineFindings_of_shapes hs hdepth body.isEmpty
    simp only [Check.bodyFindings, hline, ih hdepth' hbody]
    cases l <;> rfl

/-- The return line stands behind all others, whatever they are. -/
theorem endsWithReturn_of_shapes {ls : List MacroLine} {body : List Statement}
    (h : List.Forall₂ Shapes (ls ++ [returnContext]) body) : Check.endsWithReturn body = true := by
  induction ls generalizing body with
  | nil =>
    obtain ⟨s, _, hs, hnil, rfl⟩ := List.forall₂_cons_left_iff.1 h
    obtain rfl := List.forall₂_nil_left_iff.1 hnil
    exact decide_eq_true hs
  | cons l ls ih =>
    obtain ⟨s, body, -, hbody, rfl⟩ := List.forall₂_cons_left_iff.1 h
    have hrest := ih hbody
    cases body with
    | nil => cases hrest
    | cons s' body => exact hrest

end MacroLine

namespace MacroText

open Source.Reader
open Writer (contextName)

def lines (m : MacroText) : List MacroLine := m.body ++ [.returnContext]

def text (m : MacroText) : List Char :=
  Writer.header m.name ++ m.lines.flatMap fun l ↦ Writer.statementLine l.statement

def summary (m : MacroText) : MacroSummary :=
  ⟨m.name, m.body.filterMap MacroLine.command?, m.body.filterMap MacroLine.path?⟩

/-- No name is a keyword, and the lines close only what is open. -/
structure IsGood (m : MacroText) : Prop where
  name : Identifier.IsUsable m.name
  body : ∀ l ∈ m.body, l.IsGood
  depth : (MacroLine.depthBehind? 0 m.body).isSome

/-! ## Scanning -/

def headerPieces (name : List Char) : List Piece :=
  [⟨false, .keyword .defWord, "def".toList⟩, MacroLine.namePiece true name, .symbol .leftParen '(',
    MacroLine.namePiece false contextName, .symbol .rightParen ')', .colon]

def headerLine (m : MacroText) : Layout.Line := ⟨false, headerPieces m.name⟩

def layoutLines (m : MacroText) : List Layout.Line := m.headerLine :: m.lines.map MacroLine.line

theorem text_headerLine (m : MacroText) : m.headerLine.text = Writer.header m.name := by
  simp [headerLine, Layout.Line.text, Layout.Line.margin, headerPieces, Piece.source, Piece.gap,
    MacroLine.namePiece, Piece.symbol, Piece.colon, Writer.header, contextName]

theorem text_layoutLines (m : MacroText) : m.layoutLines.flatMap Layout.Line.text = m.text := by
  simp only [layoutLines, List.flatMap_cons, text_headerLine, List.flatMap_map, text,
    MacroLine.text_line]

theorem isLaid_headerLine {m : MacroText} (hname : Identifier.IsUsable m.name) :
    m.headerLine.IsLaid where
  startsWord := ⟨_, _, rfl, rfl⟩
  scans more := by
    have hends (c : Char) (rest : List Char)
        (h : Lexeme.isWordChar c = false ∧ Lexeme.isQuote c = false) : Layout.EndsWord (c :: rest) :=
      MacroLine.endsWord_cons h
    refine .cons (Layout.isTaken_word rfl (List.all_eq_true.1 rfl) (by decide)
      (hends _ _ (by decide))) ?_
    refine .cons (MacroLine.isTaken_name hname (hends _ _ (by decide))) ?_
    refine .cons (Layout.isTaken_leftParen _ _) ?_
    refine .cons (MacroLine.isTaken_name MacroLine.isUsable_contextName (hends _ _ (by decide))) ?_
    exact .cons (Layout.isTaken_rightParen _ _) (.cons (Layout.isTaken_colon_lineFeed _ _) .nil)
  closed offset := by
    refine .tokensFrom (fun p hp ↦ ?_) offset
    simp only [headerLine, headerPieces, List.mem_cons, List.not_mem_nil, or_false] at hp
    rcases hp with rfl | rfl | rfl | rfl | rfl | rfl <;>
      simp [MacroLine.namePiece, Piece.symbol, Piece.colon]

theorem IsGood.lines {m : MacroText} (hm : m.IsGood) : ∀ l ∈ m.lines, l.IsGood := by
  intro l hl
  rcases List.mem_append.1 hl with hbody | hlast
  · exact hm.body l hbody
  · obtain rfl := List.mem_singleton.1 hlast
    trivial

theorem isLaid_of_mem_layoutLines {m : MacroText} (hm : m.IsGood) :
    ∀ l ∈ m.layoutLines, l.IsLaid := by
  intro l hl
  rcases List.mem_cons.1 hl with rfl | hmem
  · exact isLaid_headerLine hm.name
  · obtain ⟨line, hline, rfl⟩ := List.mem_map.1 hmem
    exact MacroLine.isLaid_line (hm.lines line hline)

/-! ## Reading -/

/-- The kinds of the tokens of a macro, the end of its block included. -/
def kinds (m : MacroText) : List TokenKind :=
  .keyword .defWord :: .name m.name :: .symbol .leftParen :: .name contextName ::
    .symbol .rightParen :: blockKinds Layout.Line.indentation MacroLine.kinds m.lines

theorem kindsOf_map_line (ls : List MacroLine) (more : List Layout.Line) :
    Layout.Line.kindsOf true (ls.map MacroLine.line ++ more) =
      ls.flatMap MacroLine.kinds ++ Layout.Line.kindsOf true more := by
  induction ls with
  | nil => rfl
  | cons l ls ih =>
    rw [List.map_cons, List.cons_append, Layout.Line.kindsOf]
    simp [MacroLine.line, Layout.Line.changeKinds, ih, MacroLine.kinds]

/-- The tokens of a text are those of its macros, behind what closes the block before them. -/
theorem kindsOf_layoutLines (inside : Bool) (ms : List MacroText) :
    Layout.Line.kindsOf inside (ms.flatMap layoutLines) =
      Layout.Line.changeKinds inside false ++ ms.flatMap kinds := by
  induction ms generalizing inside with
  | nil => simp [Layout.Line.kindsOf]
  | cons m ms ih =>
    obtain ⟨l, ls, hlines⟩ : ∃ l ls, m.lines = l :: ls :=
      List.exists_cons_of_ne_nil (by simp [lines])
    have hbody := kindsOf_map_line ls (ms.flatMap layoutLines)
    rw [ih] at hbody
    rw [List.flatMap_cons, List.flatMap_cons, layoutLines, hlines, List.map_cons]
    simpa [Layout.Line.kindsOf, headerLine, headerPieces, MacroLine.namePiece, Piece.symbol,
      Piece.colon, kinds, blockKinds, hlines, MacroLine.line, Layout.Line.changeKinds,
      MacroLine.kinds] using hbody

/-- A function of the name of the macro whose statements have the shapes of its lines. -/
def Defines (m : MacroText) (s : Statement) : Prop :=
  ∃ start body, s = .function start (functionHead m.name contextName) true body ∧
    List.Forall₂ MacroLine.Shapes m.lines body

/-- A good macro is read as one function whose lines have the shapes of its body. -/
theorem reads_macro {m : MacroText} (hm : m.IsGood) (n : Nat) (rest : List TokenKind) :
    Reads (statementUpTo (n + 2)) m.kinds rest m.Defines := by
  have hblock : Reads (block (statementUpTo (n + 1)))
      (blockKinds Layout.Line.indentation MacroLine.kinds m.lines) rest
      fun b ↦ b.1 = true ∧ List.Forall₂ MacroLine.Shapes m.lines b.2 :=
    reads_block _ (by simp [lines])
      (fun l hl rest ↦ MacroLine.reads_line (hm.lines l hl) (statementUpTo n) rest)
      (fun l _ ↦ by simp [MacroLine.kinds]) (fails_anyStatement_dedent _ _ _)
  refine reads_anyStatement_function fun start ↦ ?_
  refine (reads_functionDefinition hm.name.isIdentifier
    MacroLine.isUsable_contextName.isIdentifier start _ hblock).mono fun s hs ↦ ?_
  obtain ⟨body, rfl, hbody⟩ := hs
  exact ⟨start, body, rfl, hbody⟩

/-! ## The verdict on a text of macros -/

theorem findings_append (a b : Check.Findings) : a ++ b =
    ⟨a.faults ++ b.faults, a.commands ++ b.commands, a.directories ++ b.directories⟩ := rfl

/-- The check finds no fault in a good macro, and tells its commands and paths in order. -/
theorem findings_of_defines {m : MacroText} (hm : m.IsGood) {s : Statement} (h : m.Defines s) :
    Verdict.isFunction s = true ∧
      Check.macros s = [(m.name, ⟨[], m.summary.commands, m.summary.directories⟩)] := by
  obtain ⟨start, body, rfl, hbody⟩ := h
  refine ⟨rfl, ?_⟩
  have hparameters : Check.takesOnlyContext
      ⟨[], [⟨contextName, false, false⟩], .absent, [], none⟩ = true := by decide
  have hfindings := MacroLine.bodyFindings_of_shapes hm.depth hbody
  have hreturn := MacroLine.endsWithReturn_of_shapes hbody
  simp only [Check.macros, Check.functionFindings, hfindings, hreturn, functionHead, hparameters,
    if_true, findings_append, Check.Findings.none, List.nil_append, List.append_nil]
  rfl

theorem findings_of_forall₂ {ms : List MacroText} (h : ∀ m ∈ ms, m.IsGood)
    {statements : List Statement} (hdefines : List.Forall₂ Defines ms statements) :
    Check.macrosOf statements =
        ms.map (fun m ↦ (m.name, ⟨[], m.summary.commands, m.summary.directories⟩)) ∧
      ∀ s ∈ statements, Verdict.isFunction s = true := by
  induction hdefines with
  | nil => exact ⟨rfl, by simp⟩
  | cons hs _ ih =>
    obtain ⟨hfunction, hmacro⟩ := findings_of_defines (h _ (by simp)) hs
    obtain ⟨hmacros, hfunctions⟩ := ih fun m hm ↦ h m (by simp [hm])
    exact ⟨by rw [Check.macrosOf, hmacro, hmacros]; rfl, List.forall_mem_cons.2 ⟨hfunction, hfunctions⟩⟩

theorem statements_withTexts (source : List Char) (revisions : List Revision) (start : Nat)
    (list : List (Statement × List Token)) :
    (File.withTexts source revisions start list).map TopLevel.statement = list.map Prod.fst := by
  induction list generalizing start with
  | nil => rfl
  | cons s list ih => rw [File.withTexts, List.map_cons, ih]; rfl

theorem flatMap_text (ms : List MacroText) :
    (ms.flatMap layoutLines).flatMap Layout.Line.text = ms.flatMap text := by
  rw [List.flatMap_assoc]
  exact List.flatMap_congr fun m _ ↦ text_layoutLines m

theorem head?_flatMap_text_ne (ms : List MacroText) :
    (ms.flatMap text).head? ≠ some Layout.byteOrderMark := by
  cases ms with
  | nil => simp
  | cons m ms => simp [text, Writer.header, Layout.byteOrderMark]

/-- A text of good macros is one function definition after the other. -/
theorem exists_parse_eq {ms : List MacroText} (h : ∀ m ∈ ms, m.IsGood) :
    ∃ file, File.parse (ms.flatMap text) = .ok file ∧
      List.Forall₂ Defines ms (file.statements.map TopLevel.statement) := by
  have hlaid : ∀ l ∈ ms.flatMap layoutLines, l.IsLaid := by
    intro l hl
    obtain ⟨m, hm, hmem⟩ := List.mem_flatMap.1 hl
    exact isLaid_of_mem_layoutLines (h m hm) l hmem
  obtain ⟨ts, htokens, hkinds, hapart⟩ := Layout.exists_tokens?_eq hlaid
    (flatMap_text ms ▸ head?_flatMap_text_ne ms)
  rw [kindsOf_layoutLines] at hkinds
  rw [flatMap_text] at htokens
  have hmacro (m : MacroText) (hm : m ∈ ms) (rest : List TokenKind) :
      Reads (statementUpTo ((m.kinds ++ rest).length + 1)) m.kinds rest m.Defines := by
    obtain ⟨n, hn⟩ : ∃ n, (m.kinds ++ rest).length = n + 1 := ⟨_, by rw [kinds]; rfl⟩
    rw [hn]
    exact reads_macro (h m hm) n rest
  have hreads := reads_statements ms (fun m _ ↦ by simp [kinds]) hmacro
  obtain ⟨list, last, hlist, hrun⟩ := hreads ts [] hkinds rfl (by simpa using hapart)
    ((ts.head?.map Token.start).getD 0) none []
  rw [List.append_nil] at hrun
  have hparse : ∃ revisions start, File.parse (ms.flatMap text) =
      .ok ⟨ms.flatMap text, revisions, File.withTexts (ms.flatMap text) revisions start list⟩ :=
    ⟨_, _, by rw [File.parse, htokens]; dsimp only; rw [hrun]⟩
  obtain ⟨revisions, start, hparse⟩ := hparse
  refine ⟨_, hparse, ?_⟩
  rw [statements_withTexts]
  exact hlist

/-- A text of good macros is accepted, and its summaries are those of the macros. -/
theorem verdict_eq {ms : List MacroText} (h : ∀ m ∈ ms, m.IsGood) :
    Verdict.ofSource (ms.flatMap text) = .ok (.checked []) ∧
      summarize (ms.flatMap text) = .ok (ms.map summary) := by
  obtain ⟨file, hparse, hdefines⟩ := exists_parse_eq h
  obtain ⟨hmacros, hfunctions⟩ := findings_of_forall₂ h hdefines
  have hstatements : Verdict.statementViolations file = [] := by
    have hfilter : file.statements.filter (fun top ↦ !Verdict.isFunction top.statement) = [] := by
      refine List.filter_eq_nil_iff.2 fun top htop ↦ ?_
      simp [hfunctions _ (List.mem_map_of_mem htop)]
    rw [Verdict.statementViolations, hfilter, List.map_nil]
  have hviolations : Verdict.macroViolations file = [] := by
    rw [Verdict.macroViolations, Verdict.macrosOf, hmacros]
    simp
  constructor
  · simp only [Verdict.ofSource, hparse, hstatements, hviolations, List.append_nil]
  · have hsummaries : summarize (ms.flatMap text) = .ok ((Verdict.macrosOf file).map fun r ↦
        ⟨r.1, r.2.commands, r.2.directories⟩) := by rw [summarize, hparse]; rfl
    rw [hsummaries, Verdict.macrosOf, hmacros, List.map_map]
    rfl

end MacroText

end StarlarkMacro
