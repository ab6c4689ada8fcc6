import StarlarkMacro.Source.Tree

/-!
# Expressions next to words

Between a word of the grammar and an expression there must be white space, unless the expression sets
itself apart by how it begins or ends. The edges of an expression say whether it does. They go by the kind
of the expression and not by its characters: a number may stand directly in front of a word, a number
behind one may not, even if it begins with a point.
-/

namespace StarlarkMacro.Source

/-- Whether a word may stand directly in front of an expression. -/
inductive Front where
  | free
  | crowded
  /-- It cannot be told. -/
  | unknown
  deriving DecidableEq, Repr, Inhabited

inductive ExpressionKind where
  | plain
  | conditional
  | anonymous
  /-- A star and a value, behind which a word may stand or not. -/
  | starred (valueBack : Bool)
  deriving DecidableEq, Repr, Inhabited

structure Edges where
  front : Front
  /-- Whether a word may stand directly behind the expression. -/
  back : Bool
  kind : ExpressionKind
  deriving DecidableEq, Repr, Inhabited

namespace Edges

def word : Edges := ⟨.crowded, false, .plain⟩

def number : Edges := ⟨.crowded, true, .plain⟩

/-- The edges of what begins and ends with brackets or quotes. -/
def closed : Edges := ⟨.free, true, .plain⟩

/-- Parentheses set an expression apart, but a conditional is judged by its parts, and an anonymous
function not at all in front. -/
def parenthesized (e : Edges) : Edges :=
  match e.kind with
  | .conditional => e
  | .anonymous => { e with back := true }
  | _ => closed

/-- An expression from a first part to a last one. -/
def joined (first last : Edges) : Edges := ⟨first.front, last.back, .plain⟩

def starred (value : Edges) : Edges := ⟨.crowded, false, .starred value.back⟩

/-- A tuple without parentheses, by its first and its last member. -/
def tuple (first last : Edges) (lastComma : Bool) : Edges :=
  let front := match first.kind with
    | .starred _ => Front.free
    | _ => first.front
  let back := match last.kind with
    | .starred valueBack => valueBack
    | _ => last.back
  ⟨front, lastComma || back, .plain⟩

end Edges

/-- An expression with its edges. -/
structure Operand where
  tree : Expression
  edges : Edges
  deriving Inhabited

namespace Operand

/-- Something that is not told from other expressions. -/
def other (edges : Edges) : Operand := ⟨.other, edges⟩

def parenthesized (o : Operand) : Operand := { o with edges := o.edges.parenthesized }

end Operand

end StarlarkMacro.Source
