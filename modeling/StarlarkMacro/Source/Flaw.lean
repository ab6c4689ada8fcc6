/-!
# Well-formed texts without a tree

Some texts follow the grammar and are refused all the same, for what stands side by side in them. A text
has the first flaw that is met when its parts are put together, inner parts before the ones they are in.
-/

namespace StarlarkMacro.Source

inductive Flaw where
  /-- A word touches an expression that begins or ends like a word. -/
  | crowded
  /-- A word touches an anonymous function behind it. Parentheses would set the function apart, but that is
  not found out. -/
  | anonymous
  /-- A string of bytes next to a string of text. -/
  | mixedStrings
  /-- A template at the end of several strings. -/
  | templateLast
  /-- A handler of every exception in front of another handler. -/
  | unreachableHandler
  /-- A name that only later versions of the character classes allow. -/
  | unknownName
  deriving DecidableEq, Repr

/-- Why a text has no tree. -/
inductive Unreadable where
  /-- The text does not follow the grammar. -/
  | malformed
  | flawed (f : Flaw)
  deriving DecidableEq, Repr

end StarlarkMacro.Source
