import StarlarkMacro.CharacterName.Table

/-!
# Characters by name

A character is found by its name or by one of its formal aliases, whatever the case of the letters, except
that the names of Hangul syllables and unified ideographs must be in capitals. The names of character
sequences are not covered.
-/

namespace StarlarkMacro.CharacterName

def upper (c : Char) : Char :=
  if 'a' ≤ c && c ≤ 'z' then Char.ofNat (c.toNat - 32) else c

def hexValue? (c : Char) : Option Nat :=
  if '0' ≤ c && c ≤ '9' then some (c.toNat - '0'.toNat)
  else if 'A' ≤ c && c ≤ 'F' then some (c.toNat - 'A'.toNat + 10)
  else none

def hexNumber? (digits : List Char) : Option Nat :=
  digits.foldlM (fun n c ↦ (hexValue? c).map (16 * n + ·)) 0

/-! ## Names that end with a number -/

def unifiedIdeographs : List (Nat × Nat) :=
  [(0x3400, 0x4DBF), (0x4E00, 0x9FFF), (0x20000, 0x2A6DF), (0x2A700, 0x2B738), (0x2B740, 0x2B81D),
    (0x2B820, 0x2CEA1), (0x2CEB0, 0x2EBE0), (0x30000, 0x3134A)]

/-- Families of names with the ranges of their numbers. -/
def families : List (String × List (Nat × Nat)) :=
  [("CJK COMPATIBILITY IDEOGRAPH-", [(0xF900, 0xFA6D), (0xFA70, 0xFAD9), (0x2F800, 0x2FA1D)]),
    ("KHITAN SMALL SCRIPT CHARACTER-", [(0x18B00, 0x18CD5)]),
    ("NUSHU CHARACTER-", [(0x1B170, 0x1B2FB)])]

def isWithin (ranges : List (Nat × Nat)) (n : Nat) : Bool :=
  ranges.any fun (low, high) ↦ low ≤ n && n ≤ high

/-- The number behind a family's name, which has four digits or five; `padded` says whether it may begin
with zero. -/
def numbered? (padded : Bool) (family : String) (ranges : List (Nat × Nat)) (name : List Char) :
    Option Nat := do
  let stem := family.toList
  if !stem.isPrefixOf name then failure
  let digits := name.drop stem.length
  if digits.length != 4 && digits.length != 5 then failure
  if !padded && digits.head? = some '0' then failure
  let n ← hexNumber? digits
  if isWithin ranges n then return n else failure

/-! ## Hangul syllables -/

def leadingSounds : List String :=
  ["G", "GG", "N", "D", "DD", "R", "M", "B", "BB", "S", "SS", "", "J", "JJ", "C", "K", "T", "P", "H"]

def vowels : List String :=
  ["A", "AE", "YA", "YAE", "EO", "E", "YEO", "YE", "O", "WA", "WAE", "OE", "YO", "U", "WEO", "WE",
    "WI", "YU", "EU", "YI", "I"]

def trailingSounds : List String :=
  ["", "G", "GG", "GS", "N", "NJ", "NH", "D", "L", "LG", "LM", "LB", "LS", "LT", "LP", "LH", "M",
    "B", "BS", "S", "SS", "NG", "J", "C", "K", "T", "P", "H"]

/-- The number of the longest spelling in front of a name, and the rest of the name. -/
def longestSound? (sounds : List String) (name : List Char) : Option (Nat × List Char) :=
  let found := sounds.zipIdx.filter fun (s, _) ↦ s.toList.isPrefixOf name
  let best := found.foldl (fun best (s, i) ↦
    match best with
    | some (t, j) => if t.length < s.length then some (s, i) else some (t, j)
    | none => some (s, i)) (none : Option (String × Nat))
  best.map fun (s, i) ↦ (i, name.drop s.length)

def syllable? (name : List Char) : Option Nat := do
  let stem := "HANGUL SYLLABLE ".toList
  if !stem.isPrefixOf name then failure
  let (l, rest) ← longestSound? leadingSounds (name.drop stem.length)
  let (v, rest) ← longestSound? vowels rest
  let (t, rest) ← longestSound? trailingSounds rest
  if rest.isEmpty then return 0xAC00 + (l * 21 + v) * 28 + t else failure

/-! ## Names of the table -/

def splitWords : List Char → List (List Char)
  | [] => [[]]
  | c :: cs =>
    match c, splitWords cs with
    | ' ', words => [] :: words
    | c, word :: words => (c :: word) :: words
    | c, [] => [[c]]

/-- An entry of the table with its number and all its words. -/
structure Entry where
  number : Nat
  words : List (List Char)

/-- The entry of that text behind another one. -/
def Entry.next (e : Entry) (text : List Char) : Entry :=
  let (number, rest) :=
    match text.dropWhile (· = '\n') with
    | '@' :: cs =>
      ((hexNumber? (cs.takeWhile (· != ' '))).getD 0, (cs.dropWhile (· != ' ')).drop 1)
    | cs => (e.number + 1, cs)
  match rest with
  | [] => ⟨number, []⟩
  | shared :: cs => ⟨number, e.words.take ((hexValue? shared).getD 0) ++ splitWords cs⟩

def search (words : List (List Char)) : Entry → List String → Option Nat
  | _, [] => none
  | e, text :: rest =>
    let e := e.next text.toList
    if e.words = words then some e.number else search words e rest

/-- The number of the character of that name. -/
def lookup? (name : List Char) : Option Nat :=
  let capitals := name.map upper
  syllable? name <|> numbered? true "CJK UNIFIED IDEOGRAPH-" unifiedIdeographs name <|>
    families.findSome? (fun (family, ranges) ↦ numbered? false family ranges capitals) <|>
    search (splitWords capitals) ⟨0, []⟩ (table.splitOn ";")

end StarlarkMacro.CharacterName
