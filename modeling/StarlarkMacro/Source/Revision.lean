import StarlarkMacro.Source.Lexeme

/-!
# Texts put together again

The text of a tree is its source but for a few places: the white space in front of a statement is always
the indentation of its block, some gaps between tokens are not kept, and a starred target alone in
parentheses gets the comma that makes it a tuple. Each such place is a revision of the source, and line
numbers count the lines of the revised text.
-/

namespace StarlarkMacro.Source

inductive Revision where
  /-- White space that is left out. -/
  | gap (start stop : Nat)
  /-- White space that is left out from its first comment or line end on. -/
  | brokenGap (start stop : Nat)
  /-- White space that becomes an indentation. -/
  | indentation (start stop : Nat) (text : List Char)
  | comma (place : Nat)
  deriving DecidableEq, Repr

def slice (source : List Char) (start stop : Nat) : List Char :=
  (source.drop start).take (stop - start)

namespace Revision

def start : Revision → Nat
  | gap start _ | brokenGap start _ | indentation start _ _ | comma start => start

def stop : Revision → Nat
  | gap _ stop | brokenGap _ stop | indentation _ stop _ | comma stop => stop

/-- What the place holds in the revised text. -/
def text (source : List Char) : Revision → List Char
  | gap .. => []
  | brokenGap start stop =>
    let gap := slice source start stop
    gap.take (Lexeme.blankLength gap)
  | indentation _ _ text => text
  | comma _ => [',']

def isWithin (start stop : Nat) (r : Revision) : Bool := start ≤ r.start && r.stop ≤ stop

end Revision

/-- The part of a source from one place to another, with revisions of it in order. -/
def revisedSlice (source : List Char) (start stop : Nat) : List Revision → List Char
  | [] => slice source start stop
  | r :: rest =>
    if r.isWithin start stop then
      slice source start r.start ++ r.text source ++ revisedSlice source r.stop stop rest
    else revisedSlice source start stop rest

end StarlarkMacro.Source
