import StarlarkMacro.EncodingError
import StarlarkMacro.Text.Quoted

/-!
# Values as literals

The literal of a value is built from left to right, a key before its value, and the first value without
a literal ends it. Sharing a container is invisible in the result; a container met while it is being
encoded itself is an error. A lone surrogate is noticed only once a whole literal is built, so any other
fault wins over it. What a marshaler encodes for itself is a literal of its own, with its own check for
containers inside themselves.
-/

namespace StarlarkMacro.Literal

def commaSeparated (parts : List Text) : Text := Text.join ", " parts

def listText (parts : List Text) : Text :=
  Text.ofChars ['['] ++ commaSeparated parts ++ Text.ofChars [']']

/-- A tuple of one member keeps its comma. -/
def tupleText (parts : List Text) : Text :=
  Text.ofChars ['('] ++ commaSeparated parts ++
    Text.ofChars (if parts.length = 1 then [',', ')'] else [')'])

def sequenceText : SequenceKind → List Text → Text
  | .tuple, parts | .namedTuple, parts => tupleText parts
  | _, parts => listText parts

def entryText (entry : Text × Text) : Text := entry.1 ++ Text.ofString ": " ++ entry.2

def mappingText (entries : List (Text × Text)) : Text :=
  Text.ofChars ['\x7b'] ++ commaSeparated (entries.map entryText) ++ Text.ofChars ['\x7d']

def intText (n : Int) : Text := Text.ofChars (Value.intText n)

def decodeUtf8? (bytes : List UInt8) : Option (List Char) :=
  (String.fromUTF8? ⟨bytes.toArray⟩).map String.toList

/-- The literal that an object brings with it. -/
def ownLiteral (v : Value) (bytes : List UInt8) : Except EncodingError Text :=
  match decodeUtf8? bytes with
  | some cs => .ok (Text.ofChars cs)
  | none => .error ⟨v, [], .invalidUtf8⟩

/-- A finished literal of `v`, which must hold no lone surrogate. -/
def finish (v : Value) (literal : Text) : Except EncodingError (List Char) :=
  match literal.chars? with
  | some cs => .ok cs
  | none => .error ⟨v, [], .loneSurrogate⟩

/-- The first member that is not a text, with its number. -/
def firstNotText? (items : List Value) : Option (Value × Nat) :=
  items.zipIdx.find? fun (v, _) ↦ v.text?.isNone

mutual

/-- The literal of a value inside the nodes of `active`, given that of the nodes in it. -/
def encodeTree (g : Graph) (node : List Nat → Nat → Except EncodingError Text) (active : List Nat) :
    Value → Except EncodingError Text
  | .none => .ok "None"
  | .bool b => .ok (if b then "True" else "False")
  | .int n _ => .ok (intText n)
  | v@(.float x _) => if x.isFinite then .ok (Text.ofChars x.text) else .error ⟨v, [], .notFinite⟩
  | .text t _ => .ok t.quoted
  | v@(.binary ..) => .error ⟨v, [], .byteString⟩
  | .sequence kind items => (encodeItems g node active 0 items).map (sequenceText kind)
  | .range start stop step => .ok (listText ((Value.rangeItems start stop step).map intText))
  | .mapping _ entries => (encodeEntries g node active 0 entries).map mappingText
  | .arguments items =>
    match firstNotText? items with
    | some (v, i) => .error ⟨v, [0, i], .memberNotText⟩
    | none =>
      Except.mapError (EncodingError.under 0) do
        let literal := commaSeparated (← encodeItems g node [] 0 items)
        return Text.ofChars (← finish (.sequence .list items) literal)
  | v@(.labelled _ bytes) => ownLiteral v bytes
  | v@(.returning result) =>
    match result.resolve g with
    | .binary .bytes bytes | .binary .bytearray bytes => ownLiteral v bytes
    | other => .error ⟨v, [], .returned (other.typeName g)⟩
  | .wrapping before inner after =>
    Except.mapError (EncodingError.under 0) do
      let literal ← encodeTree g node [] inner
      return Text.ofChars (before ++ (← finish inner literal) ++ after)
  | v@(.raising error argument) => .error ⟨v, [], .raised error argument⟩
  | .refusing blamed reason => .error ⟨blamed, [0], .stated reason⟩
  | .node id => node active id
  | v@(.set ..) | v@(.complex ..) | v@(.object _) | v@.marshalerClass =>
    .error ⟨v, [], .unsupported⟩

/-- The literals of the members from number `i` on. -/
def encodeItems (g : Graph) (node : List Nat → Nat → Except EncodingError Text)
    (active : List Nat) (i : Nat) : List Value → Except EncodingError (List Text)
  | [] => .ok []
  | v :: vs => do
    let literal ← (encodeTree g node active v).mapError (EncodingError.under i)
    return literal :: (← encodeItems g node active (i + 1) vs)

/-- The literals of the entries from number `i` on. -/
def encodeEntries (g : Graph) (node : List Nat → Nat → Except EncodingError Text)
    (active : List Nat) (i : Nat) :
    List (Value × Value) → Except EncodingError (List (Text × Text))
  | [] => .ok []
  | (k, v) :: rest => do
    let key ← (encodeTree g node active k).mapError (EncodingError.under (2 * i))
    let value ← (encodeTree g node active v).mapError (EncodingError.under (2 * i + 1))
    return (key, value) :: (← encodeEntries g node active (i + 1) rest)

end

/-- The literal of a node inside the nodes of `active`, at most `depth` levels deep. Only a marshaler that
asks for its own literal goes deeper than there are nodes. -/
def encodeNode (g : Graph) : Nat → List Nat → Nat → Except EncodingError Text
  | depth, active, id =>
    if active.contains id then .error ⟨.node id, [], .selfReference⟩
    else
      match depth with
      | 0 => .error ⟨.node id, [], .raised .recursionError "maximum recursion depth exceeded"⟩
      | depth + 1 => encodeTree g (encodeNode g depth) (id :: active) (g.node id)

def encode (g : Graph) (v : Value) : Except EncodingError Text :=
  encodeTree g (encodeNode g g.depth) [] v

/-- The literal of a value, ready to be written. -/
def marshal (g : Graph) (v : Value) : Except EncodingError (List Char) := do
  finish v (← encode g v)

end StarlarkMacro.Literal
