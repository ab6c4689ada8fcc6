/-!
# Statements rendered but not yet written

Lines wait in a buffer, oldest first. The newest can still be withdrawn by naming it; draining hands out
all of them and leaves none.
-/

namespace StarlarkMacro

structure StatementBuffer where
  indent : List Char
  lines : List (List Char)
  deriving DecidableEq, Repr

namespace StatementBuffer

/-- Four spaces. -/
def standardIndent : List Char := [' ', ' ', ' ', ' ']

def empty : StatementBuffer := ⟨standardIndent, []⟩

/-- A statement as an indented line. -/
def render (b : StatementBuffer) (statement : List Char) : List Char :=
  b.indent ++ statement ++ ['\n']

def defer (b : StatementBuffer) (line : List Char) : StatementBuffer :=
  { b with lines := b.lines ++ [line] }

/-- Withdraws the newest line if it is `line`, and says whether it was. -/
def cancelLast (b : StatementBuffer) (line : List Char) : Bool × StatementBuffer :=
  if b.lines.getLast? = some line then (true, { b with lines := b.lines.dropLast }) else (false, b)

def drain (b : StatementBuffer) : List (List Char) × StatementBuffer :=
  (b.lines, { b with lines := [] })

variable (b : StatementBuffer) (line : List Char)

@[simp] theorem lines_defer : (b.defer line).lines = b.lines ++ [line] := rfl

theorem cancelLast_of_getLast?_ne (h : b.lines.getLast? ≠ some line) :
    b.cancelLast line = (false, b) := by
  simp [cancelLast, h]

end StatementBuffer

end StarlarkMacro
