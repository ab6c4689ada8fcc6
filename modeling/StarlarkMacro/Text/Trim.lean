import StarlarkMacro.CharacterTable

/-!
# White space at the ends of a text

White space is every character with the property White_Space and the four separators from `U+001C` on.
-/

namespace StarlarkMacro.Text

def isWhiteSpace (c : Char) : Bool :=
  let n := c.toNat
  if n < 0x80 then (9 ≤ n && n ≤ 13) || (28 ≤ n && n ≤ 32)
  else CharacterTable.holds CharacterTable.whiteSpace n

def trim (cs : List Char) : List Char :=
  ((cs.dropWhile isWhiteSpace).reverse.dropWhile isWhiteSpace).reverse

end StarlarkMacro.Text
