import StarlarkMacro.Text.Basic

/-!
# Log records

What is logged, as events; the text of an event is a function of it.
-/

namespace StarlarkMacro

inductive LogLevel where
  | debug | warning
  deriving DecidableEq, Repr

inductive LogRecord where
  | began (name : List Char)
  | ended (name : List Char)
  /-- A push was withdrawn by the pop that followed it. -/
  | elided (path : Text) (name : List Char)
  /-- A macro ended inside these directories, outermost first. -/
  | leftOpen (name : List Char) (paths : List Text)
  /-- A checked text was refused, for the errors in the text. -/
  | refused (errors : List Char)
  deriving DecidableEq, Repr

namespace LogRecord

def level : LogRecord → LogLevel
  | leftOpen .. => .warning
  | _ => .debug

def message : LogRecord → Text
  | began name => Text.ofString "begin macro " ++ Text.ofChars name
  | ended name => Text.ofString "end macro " ++ Text.ofChars name
  | elided path name =>
    Text.ofString "elided empty directory " ++ path ++ Text.ofString " in macro " ++
      Text.ofChars name
  | leftOpen name paths =>
    Text.ofString "macro " ++ Text.ofChars name ++
      Text.ofString " ended with open directories: " ++ Text.join ", " paths
  | refused errors => Text.ofString "generated Starlark failed validation: " ++ Text.ofChars errors

end LogRecord

end StarlarkMacro
