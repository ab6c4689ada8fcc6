import StarlarkMacro.Double
import StarlarkMacro.Text.Basic

/-!
# Values

What a caller may hand to a writer: scalars, texts, byte strings, containers, objects that bring their
own literal, and objects that have none. A container that occurs in several places, or inside itself,
is a node of a `Graph` and is named by its number; a container written out in place occurs there only.
So two nodes are the same object exactly when they have the same number.
-/

namespace StarlarkMacro

inductive BinaryKind where
  | bytes | bytearray | memoryview
  deriving DecidableEq, Repr

inductive SequenceKind where
  | list | tuple | namedTuple | deque | userList | other
  deriving DecidableEq, Repr

inductive MappingKind where
  | dict | ordered | other
  deriving DecidableEq, Repr

def BinaryKind.name : BinaryKind → String
  | .bytes => "bytes"
  | .bytearray => "bytearray"
  | .memoryview => "memoryview"

def SequenceKind.name : SequenceKind → String
  | .list => "list"
  | .tuple => "tuple"
  | .namedTuple => "Point"
  | .deque => "deque"
  | .userList => "UserList"
  | .other => "ListSequence"

def MappingKind.name : MappingKind → String
  | .dict => "dict"
  | .ordered => "OrderedDict"
  | .other => "PairMapping"

/-- The exceptions that a marshaler's method is known to raise. -/
inductive Raised where
  | valueError | runtimeError | typeError | keyError | writerError | invalidIdentifier
  /-- A method that asks for its own object's literal never returns. -/
  | recursionError
  deriving DecidableEq, Repr

/-- The flag of a scalar says whether it belongs to a subclass of the type. The subclasses meant have a name of
their own and change neither how a member is printed nor how it is put into another text. -/
inductive Value where
  | none
  | bool (b : Bool)
  | int (n : Int) (derived : Bool)
  | float (x : Double) (derived : Bool)
  | text (t : Text) (derived : Bool)
  | binary (kind : BinaryKind) (bytes : List UInt8)
  | sequence (kind : SequenceKind) (items : List Value)
  /-- The integers from `start` towards `stop` in steps of `step`. -/
  | range (start stop step : Int)
  | mapping (kind : MappingKind) (entries : List (Value × Value))
  /-- Text literals to be spliced into a call as positional arguments. -/
  | arguments (items : List Value)
  | set (frozen : Bool) (items : List Value)
  | complex (re im : Double)
  /-- An instance of an empty class of that name. -/
  | object (className : List Char)
  /-- The class of the marshalers, which is no marshaler itself. -/
  | marshalerClass
  /-- A text that brings the bytes of its own literal. -/
  | labelled (t : Text) (bytes : List UInt8)
  /-- A marshaler whose method returns the value as it is. -/
  | returning (result : Value)
  /-- A marshaler whose method returns the literal of the value between two texts. -/
  | wrapping (before : List Char) (inner : Value) (after : List Char)
  | raising (error : Raised) (argument : Text)
  /-- A marshaler whose method raises an encoding error about the value. -/
  | refusing (blamed : Value) (reason : Text)
  | node (id : Nat)
  deriving Inhabited

/-- The shared containers, by number. -/
structure Graph where
  nodes : List Value

namespace Graph

def empty : Graph := ⟨[]⟩

def node (g : Graph) (id : Nat) : Value := g.nodes.getD id .none

/-- More levels than there are nodes on any path that meets no node twice. -/
def depth (g : Graph) : Nat := g.nodes.length + 1

end Graph

namespace Value

/-- The members of a range. -/
def rangeItems (start stop step : Int) : List Int :=
  let count :=
    if 0 < step then (stop - start + step - 1) / step
    else if step < 0 then (start - stop - step - 1) / (-step)
    else 0
  (List.range count.toNat).map fun (i : Nat) ↦ start + (i : Int) * step

/-- The name of the type of a value that is not a node. -/
def ownTypeName : Value → Text
  | .none => "NoneType"
  | .bool _ => "bool"
  | .int _ derived => if derived then "IntSub" else "int"
  | .float _ derived => if derived then "FloatSub" else "float"
  | .text _ derived => if derived then "StrSub" else "str"
  | .binary kind _ => kind.name
  | .sequence kind _ => kind.name
  | .range .. => "range"
  | .mapping kind _ => kind.name
  | .arguments _ => "ArgumentLiterals"
  | .set frozen _ => if frozen then "frozenset" else "set"
  | .complex .. => "complex"
  | .object className => Text.ofChars className
  | .marshalerClass => "type"
  | .labelled .. => "StrCustom"
  | .returning _ | .wrapping .. | .raising .. | .refusing .. => "Custom"
  | .node _ => ""

/-- The value that a node stands for; any other value stands for itself. -/
def resolve (g : Graph) : Value → Value
  | .node id => g.node id
  | v => v

def typeName (g : Graph) (v : Value) : Text := (v.resolve g).ownTypeName

/-- The text of a value that is a text, whatever its class. -/
def text? : Value → Option Text
  | .text t _ => some t
  | .labelled t _ => some t
  | _ => Option.none

/-- Whether a value has the method of a marshaler; the class of the marshalers has it too. -/
def hasMarshalMethod (g : Graph) (v : Value) : Bool :=
  match v.resolve g with
  | .arguments _ | .labelled .. | .returning _ | .wrapping .. | .raising .. | .refusing ..
  | .marshalerClass => true
  | _ => false

end Value

end StarlarkMacro
