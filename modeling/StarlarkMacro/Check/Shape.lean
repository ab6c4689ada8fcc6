import StarlarkMacro.Source.Tree
import StarlarkMacro.Source.StringLiteral

/-!
# The shapes of a macro's lines

The simple statements that a macro is made of: pushing and popping a directory, a command, and the final
return. Everything that a shape does not name is free: parentheses, a star before a positional argument,
the letters before a path, and what a command is called with behind the context. Only an argument passed
under a name spoils a shape.
-/

namespace StarlarkMacro.Check

open Source

def contextName : List Char := ['c', 't', 'x']

def isContext : Expression → Bool
  | .name id => id = contextName
  | _ => false

inductive Shape where
  | returnContext
  /-- The path is a string literal as it is written. -/
  | push (literal : List Char)
  | pop
  | command (method : List Char)
  | other
  deriving DecidableEq, Repr

namespace Shape

def isPositional (argument : ArgumentMark × Expression) : Bool :=
  match argument.1 with
  | .keyword _ => false
  | _ => true

/-- The name of a method of the context that is called with the context first, and the arguments behind
the context. -/
def contextCall? : Expression → Option (List Char × List (ArgumentMark × Expression))
  | .call (.attribute object method) (first :: rest) =>
    if isContext object && isContext first.2 && (first :: rest).all isPositional then
      some (method, rest)
    else none
  | _ => none

def ofTransition (value : Expression) : Shape :=
  match contextCall? value with
  | some (method, [(_, .string literal)]) =>
    if method = "push_directory".toList then push literal else other
  | some (method, []) => if method = "pop_directory".toList then pop else other
  | _ => other

def ofSmallStatement : SmallStatement → Shape
  | .ret (some e) => if isContext e then returnContext else other
  | .assign [target] value => if isContext target then ofTransition value else other
  | .expression e =>
    match contextCall? e with
    | some (method, _) => command method
    | none => other
  | _ => other

/-- The shape of a line of a block, if the line is one simple statement. -/
def ofStatement? : Statement → Option Shape
  | .line _ [part] => some (ofSmallStatement part)
  | _ => none

end Shape

end StarlarkMacro.Check
