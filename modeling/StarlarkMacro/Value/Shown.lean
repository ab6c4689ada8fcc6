import StarlarkMacro.Text.Shown
import StarlarkMacro.Value.Basic

/-!
# Values as messages show them

The form in which a message names a value: texts between quotes, numbers as in a literal, containers
with their brackets. A container met again while it is being shown is an ellipsis between its brackets,
so what is shown is finite for every graph. What is shown never holds a lone surrogate; it may hold a line
end, but only in the name of a class.
-/

namespace StarlarkMacro.Value

def intText (n : Int) : List Char :=
  (if n < 0 then ['-'] else []) ++ Nat.toDigits 10 n.natAbs

def commaSeparated (parts : List (List Char)) : List Char := [',', ' '].intercalate parts

/-- A number inside a complex number drops an empty fraction. -/
def complexPart (x : Double) : List Char :=
  let t := x.text
  if t.reverse.take 2 = ['0', '.'] then t.take (t.length - 2) else t

def shownComplex (re im : Double) : List Char :=
  if re.bits = 0 then complexPart im ++ ['j']
  else
    let joint := if im.isNegative && !im.isNaN then [] else ['+']
    '(' :: complexPart re ++ joint ++ complexPart im ++ ['j', ')']

def shownRange (start stop step : Int) : List Char :=
  let parts := if step = 1 then [start, stop] else [start, stop, step]
  "range(".toList ++ commaSeparated (parts.map intText) ++ [')']

def shownSequence (kind : SequenceKind) (parts : List (List Char)) : List Char :=
  let inner := commaSeparated parts
  match kind with
  | .list | .userList => '[' :: inner ++ [']']
  | .tuple | .namedTuple => '(' :: inner ++ (if parts.length = 1 then [',', ')'] else [')'])
  | .deque => "deque([".toList ++ inner ++ "])".toList
  | .other => "<ListSequence>".toList

def shownMapping (kind : MappingKind) (entries : List (List Char × List Char)) : List Char :=
  match kind with
  | .dict =>
    '\x7b' :: commaSeparated (entries.map fun (k, v) ↦ k ++ ':' :: ' ' :: v) ++ ['\x7d']
  | .ordered =>
    let pairs := entries.map fun (k, v) ↦ '(' :: k ++ ',' :: ' ' :: v ++ [')']
    "OrderedDict(".toList ++
      (if entries.isEmpty then [] else '[' :: commaSeparated pairs ++ [']']) ++ [')']
  | .other => "<PairMapping>".toList

def shownSet (frozen : Bool) (parts : List (List Char)) : List Char :=
  let members :=
    if parts.isEmpty then [] else '\x7b' :: commaSeparated parts ++ ['\x7d']
  match frozen, parts.isEmpty with
  | true, _ => "frozenset(".toList ++ members ++ [')']
  | false, true => "set()".toList
  | false, false => members

def shownBinary (kind : BinaryKind) (bytes : List UInt8) : List Char :=
  match kind with
  | .bytes => Text.shownBytes bytes
  | .bytearray => "bytearray(".toList ++ Text.shownByteArray bytes ++ [')']
  | .memoryview => "<memory>".toList

/-- What stands for a container inside itself. -/
def ellipsis : Value → List Char
  | .mapping .dict _ => ['\x7b', '.', '.', '.', '\x7d']
  | .mapping .. => ['.', '.', '.']
  | _ => ['[', '.', '.', '.', ']']

mutual

/-- The form of a value, given that of the nodes in it. -/
def shownTree (node : Nat → List Char) : Value → List Char
  | .none => "None".toList
  | .bool b => if b then "True".toList else "False".toList
  | .int n derived => if derived then "IntSub!".toList else intText n
  | .float x derived => if derived then "FloatSub!".toList else x.text
  | .text t _ => t.shown
  | .labelled t _ => t.shown
  | .binary kind bytes => shownBinary kind bytes
  | .sequence kind items => shownSequence kind (shownItems node items)
  | .range start stop step => shownRange start stop step
  | .mapping kind entries => shownMapping kind (shownEntries node entries)
  | .arguments items => shownSequence .list (shownItems node items)
  | .set frozen items => shownSet frozen (shownItems node items)
  | .complex re im => shownComplex re im
  | .object className => '<' :: className ++ ['>']
  | .marshalerClass => "<class Custom>".toList
  | .returning _ | .wrapping .. | .raising .. | .refusing .. => "<Custom>".toList
  | .node id => node id

def shownItems (node : Nat → List Char) : List Value → List (List Char)
  | [] => []
  | v :: vs => shownTree node v :: shownItems node vs

def shownEntries (node : Nat → List Char) : List (Value × Value) → List (List Char × List Char)
  | [] => []
  | (k, v) :: rest => (shownTree node k, shownTree node v) :: shownEntries node rest

end

/-- The form of a node inside the nodes of `active`. -/
def shownNode (g : Graph) : Nat → List Nat → Nat → List Char
  | 0, _, id => ellipsis (g.node id)
  | depth + 1, active, id =>
    if active.contains id then ellipsis (g.node id)
    else shownTree (shownNode g depth (id :: active)) (g.node id)

def shown (g : Graph) (v : Value) : List Char := shownTree (shownNode g g.depth []) v

/-- The value inside running text: a text as it is, anything else as it is shown. -/
def inline (g : Graph) (v : Value) : Text := (v.resolve g).text?.getD (Text.ofChars (v.shown g))

end StarlarkMacro.Value
