/-!
# Trees of a source text

As much of a text's structure as the shapes of macros are made of. An expression is a name, an attribute,
a call, a string literal standing alone, or something else; parentheses around an expression leave no
trace. A statement is a line of simple statements, a function definition or another compound statement,
and a compound statement keeps the statements of all its blocks in order.
-/

namespace StarlarkMacro.Source

/-- How an argument is passed: in its place, unpacked by one of the stars, or under a name. -/
inductive ArgumentMark where
  | plain
  | star
  | doubleStar
  | keyword (name : List Char)
  deriving DecidableEq, Repr

inductive Expression where
  | name (id : List Char)
  | attribute (object : Expression) (name : List Char)
  | call (function : Expression) (arguments : List (ArgumentMark × Expression))
  /-- A string literal as it is written, with its letters and quotes. -/
  | string (text : List Char)
  | other
  deriving Inhabited

inductive SmallStatement where
  | ret (value : Option Expression)
  | assign (targets : List Expression) (value : Expression)
  | expression (e : Expression)
  | other
  deriving Inhabited

structure Parameter where
  name : List Char
  annotated : Bool
  hasDefault : Bool
  deriving DecidableEq, Repr, Inhabited

/-- What stands between the ordinary and the keyword-only parameters. -/
inductive StarParameter where
  | absent
  | bare
  | named (p : Parameter)
  deriving DecidableEq, Repr, Inhabited

structure Parameters where
  positionalOnly : List Parameter
  ordinary : List Parameter
  star : StarParameter
  keywordOnly : List Parameter
  doubleStar : Option Parameter
  deriving DecidableEq, Repr, Inhabited

structure FunctionHead where
  name : List Char
  isAsync : Bool
  decorators : Nat
  hasTypeParameters : Bool
  parameters : Parameters
  hasReturns : Bool
  deriving DecidableEq, Repr, Inhabited

/-- A statement and the place of its first token, which for a definition is the one behind its decorators.
The body of a function that is not indented is the single line behind the colon. -/
inductive Statement where
  | line (start : Nat) (parts : List SmallStatement)
  | function (start : Nat) (head : FunctionHead) (indented : Bool) (body : List Statement)
  | compound (start : Nat) (inner : List Statement)
  deriving Inhabited

namespace Statement

def start : Statement → Nat
  | line start _ => start
  | function start _ _ _ => start
  | compound start _ => start

end Statement

end StarlarkMacro.Source
