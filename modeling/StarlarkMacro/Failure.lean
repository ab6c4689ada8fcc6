import StarlarkMacro.EncodingError

/-!
# What can go wrong while writing

A call on a writer is refused for what the caller did, or fails because the sink refuses; a script may
also raise an error of its own.
-/

namespace StarlarkMacro

inductive WriterError where
  /-- An error in the words of whoever raised it. -/
  | stated (message : Text)
  | invalidIdentifier (name : Value)
  | nestedMacro (current requested : Value)
  | noActiveMacro (operation : Text)
  | emptyDirectoryStack
  | encoding (e : EncodingError)

inductive Refusal where
  | write | flush
  deriving DecidableEq, Repr

inductive Failure where
  | contract (e : WriterError)
  | sink (refusal : Refusal)
  | script (message : Text)

namespace WriterError

def message (g : Graph) : WriterError → Text
  | stated message => message
  | invalidIdentifier name => invalidIdentifierMessage (name.shown g)
  | nestedMacro current requested =>
    Text.ofString "nested macros are not allowed: cannot begin " ++
      Text.ofChars (requested.shown g) ++ Text.ofString " inside " ++
      Text.ofChars (current.shown g)
  | noActiveMacro operation =>
    Text.ofString "no current macro: " ++ operation ++
      Text.ofString " requires begin_macro() first"
  | emptyDirectoryStack => "no current directory to pop"
  | encoding e => e.message g

end WriterError

namespace Failure

def message (g : Graph) : Failure → Text
  | contract e => e.message g
  | sink .write => "write refused"
  | sink .flush => "flush refused"
  | script message => message

end Failure

end StarlarkMacro
