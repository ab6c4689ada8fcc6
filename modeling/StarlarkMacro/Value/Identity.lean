import StarlarkMacro.Value.Basic

/-!
# Values that are one object wherever they occur

Equal small values are one and the same object: the constants, the integers from -5 to 256, the empty
text and the texts of one character up to `U+00FF`, the empty tuple, byte strings of at most one byte,
and the class of the marshalers. A node is the same object as a node of its number. Two other values
are different objects even if they are equal.
-/

namespace StarlarkMacro.Value

def sameObject : Value → Value → Bool
  | .none, .none => true
  | .bool a, .bool b => a == b
  | .int a false, .int b false => a == b && -5 ≤ a && a ≤ 256
  | .text [] false, .text [] false => true
  | .text [a] false, .text [b] false => a == b && a.val ≤ 0xFF
  | .sequence .tuple [], .sequence .tuple [] => true
  | .binary .bytes a, .binary .bytes b => a == b && a.length ≤ 1
  | .marshalerClass, .marshalerClass => true
  | .node a, .node b => a == b
  | _, _ => false

end StarlarkMacro.Value
