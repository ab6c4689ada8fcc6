import StarlarkMacro.Source.Reader.Statement
import StarlarkMacro.Source.Layout
import StarlarkMacro.Text.Trim

/-!
# Source files

A source file is a list of statements, each with the text that belongs to it. That text goes from the end
of the statement before, so it has the comments that lead the statement, up to the end of the statement
itself; for the first statement it begins with the first token. A statement that ends with a block keeps
the blank and comment lines behind the block down to the last one that is indented like the block. Texts
and line numbers are those of the revised source. In it a line begins with the indentation of its block,
whatever stands in the source between the empty lines above it and its first token.
-/

namespace StarlarkMacro.Source

structure TopLevel where
  statement : Statement
  /-- The text of the statement, without white space at its ends. -/
  text : List Char

structure File where
  source : List Char
  /-- In the order of the source. -/
  revisions : List Revision
  statements : List TopLevel

namespace File

open Lexeme

/-- A line of white space and perhaps a comment, its line end included. -/
def emptyLine? (cs : List Char) : Option (List Char) :=
  let blank := blankLength cs
  let rest := cs.drop blank
  let comment := if rest.head? = some '#' then rest.takeWhile (fun c ↦ !isLineEnd c) else []
  let n := blank + comment.length
  let m := lineEndLength (cs.drop n)
  if m = 0 && (n < cs.length || n = 0) then none else some (cs.take (n + m))

/-- The empty lines at the start of a text, at most `fuel` of them. -/
def emptyLines : Nat → List Char → List (List Char)
  | 0, _ => []
  | fuel + 1, cs =>
    match emptyLine? cs with
    | none => []
    | some line => line :: emptyLines fuel (cs.drop line.length)

/-- The lines that belong to blocks with those indentations, when the blocks end before the lines. -/
def footer (indentations : List (List Char)) (lines : List (List Char)) : List (List Char) :=
  (lines.reverse.dropWhile fun line ↦ !indentations.any (·.isPrefixOf line)).reverse

/-- The indentations of the blocks that end with the statement of these tokens. -/
def closedIndentations (tokens : List Token) : List (List Char) :=
  tokens.reverse.map Token.kind |>.map (fun
    | .dedent indentation => some indentation
    | _ => none) |>.takeWhile Option.isSome |>.filterMap id

/-- Where the last line of these tokens stops. -/
def lastStop (tokens : List Token) : Nat :=
  ((tokens.reverse.dropWhile fun t ↦ t.kind != .newline).head?.map Token.stop).getD 0

def stop (source : List Char) (tokens : List Token) : Nat :=
  let stop := lastStop tokens
  let after := source.drop stop
  let lines := footer (closedIndentations tokens) (emptyLines (after.length + 1) after)
  stop + lines.flatten.length

/-! ## Indentation -/

/-- The indentation of a line of the innermost block, in the place of the white space before a token. -/
def indentation? (source : List Char) (blocks : List (List Char)) (lineStart token : Nat) :
    Option Revision :=
  let above := emptyLines (source.length + 1) (source.drop lineStart)
  let start := lineStart + above.flatten.length
  let text := blocks.headD []
  if slice source start token = text then none else some (.indentation start token text)

/-- The indentations that differ from the source. The start of a line is known until its first token, and
so are the indentations of the open blocks, innermost first. -/
def indentations (source : List Char) : Option Nat → List (List Char) → List Token → List Revision
  | _, _, [] => []
  | lineStart, blocks, t :: rest =>
    match t.kind with
    | .indent text => indentations source lineStart (text :: blocks) rest
    | .dedent _ => indentations source lineStart (blocks.drop 1) rest
    | .newline => indentations source (some t.stop) blocks rest
    | _ =>
      (lineStart.bind fun lineStart ↦ indentation? source blocks lineStart t.start).toList ++
        indentations source none blocks rest

/-! ## Statements with their texts -/

/-- Statements with their texts, where the one before the first stops at `start`. -/
def withTexts (source : List Char) (revisions : List Revision) :
    Nat → List (Statement × List Token) → List TopLevel
  | _, [] => []
  | start, (s, tokens) :: rest =>
    let stop := stop source tokens
    ⟨s, Text.trim (revisedSlice source start stop revisions)⟩ ::
      withTexts source revisions stop rest

/-- The file of a source text. -/
def parse (source : List Char) : Except Unreadable File :=
  match Layout.tokens? source with
  | none => .error .malformed
  | some tokens =>
    let start := (tokens.head?.map Token.start).getD 0
    match Reader.statements.run ⟨tokens, start, none, []⟩ with
    | none => .error .malformed
    | some (_, ⟨_, _, some flaw, _⟩) => .error (.flawed flaw)
    | some (statements, ⟨_, _, none, noted⟩) =>
      let lines := indentations source (some (Layout.markLength source)) [] tokens
      let revisions := lines.merge noted.reverse fun a b ↦ a.start ≤ b.start
      .ok ⟨source, revisions, withTexts source revisions start statements⟩

def lineEnds : List Char → Nat
  | '\r' :: '\n' :: cs => lineEnds cs + 1
  | c :: cs => lineEnds cs + if isLineEnd c then 1 else 0
  | [] => 0

/-- The number of the line that a place of the source is on. -/
def lineAt (f : File) (place : Nat) : Nat :=
  lineEnds (revisedSlice f.source 0 place f.revisions) + 1

end File

end StarlarkMacro.Source
