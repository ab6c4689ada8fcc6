import StarlarkMacro.Value.Shown
import StarlarkMacro.Value.Identity

/-!
# Why a value has no literal

An encoding error names the value it is about, the place where that value was found, and the reason. A
place is a list of child numbers from the value that was to be encoded: the members of a sequence in
order, the key and then the value of each entry of a mapping, and number zero for what a marshaler
encodes on the way, which for spliced arguments is the plain list of its members.
-/

namespace StarlarkMacro

inductive Reason where
  | loneSurrogate
  | notFinite
  | byteString
  | selfReference
  | unsupported
  /-- The method of a marshaler raised an error other than an encoding error. -/
  | raised (error : Raised) (argument : Text)
  /-- The method of a marshaler returned something that is not bytes. -/
  | returned (typeName : Text)
  | invalidUtf8
  | memberNotText
  | pathNotText
  /-- A reason in the words of whoever raised the error. -/
  | stated (reason : Text)
  deriving DecidableEq, Repr

/-- The error that an encoding error was raised from. -/
inductive Cause where
  | encodingText
  | decodingText
  | raised (error : Raised)
  deriving DecidableEq, Repr

structure EncodingError where
  value : Value
  path : List Nat
  reason : Reason

/-- The text of the error about a name that is none. -/
def invalidIdentifierMessage (shown : List Char) : Text :=
  Text.ofString "invalid Starlark identifier: " ++ Text.ofChars shown

/-- The text of an error raised with one argument. -/
def Raised.message (argument : Text) : Raised → Text
  | .keyError => Text.ofChars argument.shown
  | .invalidIdentifier => invalidIdentifierMessage argument.shown
  | _ => argument

namespace Reason

def cause? : Reason → Option Cause
  | loneSurrogate => some .encodingText
  | invalidUtf8 => some .decodingText
  | raised error _ => some (.raised error)
  | _ => none

def message : Reason → Text
  | loneSurrogate => "text is not valid UTF-8 (lone surrogate)"
  | notFinite => "non-finite floats have no literal form"
  | byteString => "byte strings are not supported"
  | selfReference => "container refers to itself"
  | unsupported => "unsupported type"
  | raised error argument => Text.ofString "marshal_starlark failed: " ++ error.message argument
  | returned typeName =>
    Text.ofString "marshal_starlark returned " ++ typeName ++ Text.ofString ", expected bytes"
  | invalidUtf8 => "marshal_starlark returned invalid UTF-8"
  | memberNotText => "argument literals must be strings"
  | pathNotText => "directory paths must be strings"
  | stated reason => reason

end Reason

namespace EncodingError

/-- The error about an element, as an error about what holds it. -/
def under (child : Nat) (e : EncodingError) : EncodingError := { e with path := child :: e.path }

def message (g : Graph) (e : EncodingError) : Text :=
  Text.ofString "cannot encode " ++ e.value.typeName g ++
    Text.ofString " as a Starlark literal: " ++ e.reason.message

/-- The first of a call's arguments that is the very value the error is about. The first number of the
place is that of the argument if `own`, and otherwise the error comes from another call. -/
def argument? (arguments : List Value) (own : Bool) (e : EncodingError) : Option Nat :=
  let found := arguments.findIdx? e.value.sameObject
  match own, e.path with
  | true, [i] => some ((found.map (min i)).getD i)
  | _, _ => found

end EncodingError

end StarlarkMacro
