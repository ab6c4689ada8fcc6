/-!
# Sinks

A sink stores lines and may refuse any write or flush. Calls are counted from one, refused ones
included, and which calls are refused depends on their number alone. A refused write stores nothing.
-/

namespace StarlarkMacro

structure Sink where
  refusesWrite : Nat → Bool
  refusesFlush : Nat → Bool
  /-- What was stored, oldest first. -/
  stored : List (List Char)
  writes : Nat
  flushes : Nat

namespace Sink

def empty (refusesWrite refusesFlush : Nat → Bool) : Sink := ⟨refusesWrite, refusesFlush, [], 0, 0⟩

/-- A sink that takes everything. -/
def willing : Sink := empty (fun _ ↦ false) (fun _ ↦ false)

/-- Whether the line was stored, and the sink afterwards. -/
def write (s : Sink) (line : List Char) : Bool × Sink :=
  let counted := { s with writes := s.writes + 1 }
  if s.refusesWrite (s.writes + 1) then (false, counted)
  else (true, { counted with stored := s.stored ++ [line] })

def flush (s : Sink) : Bool × Sink :=
  (!s.refusesFlush (s.flushes + 1), { s with flushes := s.flushes + 1 })

def text (s : Sink) : List Char := s.stored.flatten

variable (s : Sink) (line : List Char)

@[simp] theorem stored_flush : s.flush.2.stored = s.stored := rfl

end Sink

end StarlarkMacro
