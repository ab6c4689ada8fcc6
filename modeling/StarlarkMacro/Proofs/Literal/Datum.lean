import StarlarkMacro.Literal
import StarlarkMacro.Proofs.Double.Text

/-!
# What a literal is the literal of

A datum is a value without what its literal does not show: the subclass of a scalar, the kind of a
sequence that is no tuple, the kind of a mapping, and which containers are shared. A datum is finite and
has no node, a float in it is finite, and a text in it has no lone surrogate, so every datum has a text.
-/

namespace StarlarkMacro

inductive Datum where
  | none
  | bool (b : Bool)
  | int (n : Int)
  | float (x : Double) (finite : x.isFinite = true)
  | string (cs : List Char)
  | list (members : List Datum)
  | tuple (members : List Datum)
  | mapping (entries : List (Datum × Datum))
  deriving Inhabited

namespace Datum

/-- A tuple of one member keeps its comma. -/
def tupleClosing (members : List Datum) : List Char :=
  if members.length = 1 then [',', ')'] else [')']

mutual

def text : Datum → List Char
  | none => "None".toList
  | bool b => if b then "True".toList else "False".toList
  | int n => Value.intText n
  | float x _ => x.text
  | string cs => Text.Quoted.encode cs
  | list members => '[' :: membersText members ++ [']']
  | tuple members => '(' :: membersText members ++ tupleClosing members
  | mapping entries => '\x7b' :: entriesText entries ++ ['\x7d']

def membersText : List Datum → List Char
  | [] => []
  | d :: ds => d.text ++ moreText ds

/-- The members behind another one. -/
def moreText : List Datum → List Char
  | [] => []
  | d :: ds => ',' :: ' ' :: d.text ++ moreText ds

def entriesText : List (Datum × Datum) → List Char
  | [] => []
  | (k, v) :: es => k.text ++ ':' :: ' ' :: v.text ++ moreEntriesText es

/-- The entries behind another one. -/
def moreEntriesText : List (Datum × Datum) → List Char
  | [] => []
  | (k, v) :: es => ',' :: ' ' :: k.text ++ ':' :: ' ' :: v.text ++ moreEntriesText es

end

/-- Separators are put before every part but the first. -/
theorem intercalate_cons {α : Type} (separator part : List α) (parts : List (List α)) :
    separator.intercalate (part :: parts) = part ++ parts.flatMap (separator ++ ·) := by
  induction parts generalizing part with
  | nil => simp [List.intercalate]
  | cons next parts ih =>
    rw [List.intercalate_cons_cons, ih, List.flatMap_cons, List.append_assoc, List.append_assoc]

theorem moreText_eq (ds : List Datum) : moreText ds = (ds.map text).flatMap ([',', ' '] ++ ·) := by
  induction ds with
  | nil => rfl
  | cons d ds ih => simp [moreText, ih]

/-- Further members of two lists in a row are further members of both. -/
theorem moreText_append (ds es : List Datum) : moreText (ds ++ es) = moreText ds ++ moreText es := by
  simp [moreText_eq]

theorem moreText_of_ne_nil {ds : List Datum} (h : ds ≠ []) :
    moreText ds = ',' :: ' ' :: membersText ds := by
  obtain ⟨d, ds, rfl⟩ := List.exists_cons_of_ne_nil h
  rfl

/-- Several lists of members with separators between them are one list of members. -/
theorem intercalate_map_membersText (first : List Char) {dss : List (List Datum)}
    (h : ∀ ds ∈ dss, ds ≠ []) :
    [',', ' '].intercalate (first :: dss.map membersText) = first ++ moreText dss.flatten := by
  rw [intercalate_cons]
  congr 1
  induction dss with
  | nil => rfl
  | cons ds dss ih =>
    rw [List.map_cons, List.flatMap_cons, ih fun es hes ↦ h es (by simp [hes]), List.flatten_cons,
      moreText_append, moreText_of_ne_nil (h ds (by simp))]
    rfl

/-- Members with separators between them, as the encoder joins their texts. -/
theorem membersText_eq (ds : List Datum) :
    membersText ds = [',', ' '].intercalate (ds.map text) := by
  cases ds with
  | nil => rfl
  | cons d ds => rw [membersText, List.map_cons, intercalate_cons, moreText_eq]

def entryText (entry : Datum × Datum) : List Char := entry.1.text ++ ':' :: ' ' :: entry.2.text

theorem moreEntriesText_eq (es : List (Datum × Datum)) :
    moreEntriesText es = (es.map entryText).flatMap ([',', ' '] ++ ·) := by
  induction es with
  | nil => rfl
  | cons e es ih => simp [moreEntriesText, entryText, ih]

theorem entriesText_eq (es : List (Datum × Datum)) :
    entriesText es = [',', ' '].intercalate (es.map entryText) := by
  cases es with
  | nil => rfl
  | cons e es =>
    rw [entriesText, List.map_cons, intercalate_cons, moreEntriesText_eq, entryText]

end Datum

/-! ## The datum of a value -/

mutual

/-- A value has a datum. A value with a marshaler of its own has none, nor has one without a literal. -/
inductive Denotes (g : Graph) : Value → Datum → Prop
  | none : Denotes g .none .none
  | bool (b : Bool) : Denotes g (.bool b) (.bool b)
  | int (n : Int) (derived : Bool) : Denotes g (.int n derived) (.int n)
  | float (x : Double) (derived : Bool) (finite : x.isFinite = true) :
    Denotes g (.float x derived) (.float x finite)
  | text (cs : List Char) (derived : Bool) : Denotes g (.text (Text.ofChars cs) derived) (.string cs)
  | list {kind : SequenceKind} {items : List Value} {ds : List Datum}
    (hkind : kind ≠ .tuple ∧ kind ≠ .namedTuple) (h : DenotesAll g items ds) :
    Denotes g (.sequence kind items) (.list ds)
  | tuple {kind : SequenceKind} {items : List Value} {ds : List Datum}
    (hkind : kind = .tuple ∨ kind = .namedTuple) (h : DenotesAll g items ds) :
    Denotes g (.sequence kind items) (.tuple ds)
  | range (start stop step : Int) :
    Denotes g (.range start stop step) (.list ((Value.rangeItems start stop step).map .int))
  | mapping {kind : MappingKind} {entries : List (Value × Value)} {es : List (Datum × Datum)}
    (h : DenotesEntries g entries es) : Denotes g (.mapping kind entries) (.mapping es)
  | node {id : Nat} {d : Datum} (h : Denotes g (g.node id) d) : Denotes g (.node id) d

inductive DenotesAll (g : Graph) : List Value → List Datum → Prop
  | nil : DenotesAll g [] []
  | cons {v : Value} {vs : List Value} {d : Datum} {ds : List Datum} (head : Denotes g v d)
    (tail : DenotesAll g vs ds) : DenotesAll g (v :: vs) (d :: ds)

inductive DenotesEntries (g : Graph) : List (Value × Value) → List (Datum × Datum) → Prop
  | nil : DenotesEntries g [] []
  | cons {k v : Value} {rest : List (Value × Value)} {a b : Datum} {es : List (Datum × Datum)}
    (key : Denotes g k a) (value : Denotes g v b) (tail : DenotesEntries g rest es) :
    DenotesEntries g ((k, v) :: rest) ((a, b) :: es)

end

section Inversion

variable {g : Graph}

/-- Named tuples are tuples, and every other sequence is a list to the reader. -/
theorem Denotes.of_sequence {kind : SequenceKind} {items : List Value} {d : Datum}
    (h : Denotes g (.sequence kind items) d) :
    ∃ ds, DenotesAll g items ds ∧
      d = if kind = .tuple ∨ kind = .namedTuple then .tuple ds else .list ds := by
  cases h with
  | list hkind h => exact ⟨_, h, by rw [if_neg (not_or.2 hkind)]⟩
  | tuple hkind h => exact ⟨_, h, by rw [if_pos hkind]⟩

theorem Denotes.of_text {t : Text} {derived : Bool} {d : Datum}
    (h : Denotes g (.text t derived) d) : ∃ cs, t = Text.ofChars cs ∧ d = .string cs := by
  cases h with
  | text cs => exact ⟨cs, rfl, rfl⟩

theorem Denotes.of_mapping {kind : MappingKind} {entries : List (Value × Value)} {d : Datum}
    (h : Denotes g (.mapping kind entries) d) :
    ∃ es, DenotesEntries g entries es ∧ d = .mapping es := by
  cases h with
  | mapping h => exact ⟨_, h, rfl⟩

/-- A node stands for what its value stands for. -/
theorem Denotes.of_node {id : Nat} {d : Datum} (h : Denotes g (.node id) d) :
    Denotes g (g.node id) d := by
  cases h with
  | node h => exact h

theorem DenotesAll.of_cons {v : Value} {vs : List Value} {ds : List Datum}
    (h : DenotesAll g (v :: vs) ds) : ∃ e es, ds = e :: es ∧ Denotes g v e ∧ DenotesAll g vs es := by
  cases h with
  | cons head tail => exact ⟨_, _, rfl, head, tail⟩

theorem DenotesEntries.of_cons {k v : Value} {rest : List (Value × Value)}
    {ds : List (Datum × Datum)} (h : DenotesEntries g ((k, v) :: rest) ds) :
    ∃ a b es, ds = (a, b) :: es ∧ Denotes g k a ∧ Denotes g v b ∧ DenotesEntries g rest es := by
  cases h with
  | cons key value tail => exact ⟨_, _, _, rfl, key, value, tail⟩

/-- Values and their data are as many. -/
theorem DenotesAll.length_eq {vs : List Value} {ds : List Datum} (h : DenotesAll g vs ds) :
    vs.length = ds.length := by
  induction vs generalizing ds with
  | nil =>
    cases h
    rfl
  | cons v vs ih =>
    obtain ⟨e, es, rfl, -, htail⟩ := h.of_cons
    exact congrArg (· + 1) (ih htail)

end Inversion

mutual

/-- A value has at most one datum. -/
theorem Denotes.functional {g : Graph} {v : Value} {d e : Datum} :
    Denotes g v d → Denotes g v e → d = e
  | .none, he => by cases he; rfl
  | .bool _, he => by cases he; rfl
  | .int .., he => by cases he; rfl
  | .float .., he => by cases he; rfl
  | .range .., he => by cases he; rfl
  | .text cs _, he => by
    obtain ⟨ds, htext, rfl⟩ := he.of_text
    rw [Text.ofChars_injective htext]
  | .list hkind h, he => by
    obtain ⟨es, h', rfl⟩ := he.of_sequence
    rw [if_neg (not_or.2 hkind), h.functional h']
  | .tuple hkind h, he => by
    obtain ⟨es, h', rfl⟩ := he.of_sequence
    rw [if_pos hkind, h.functional h']
  | .mapping h, he => by
    obtain ⟨es, h', rfl⟩ := he.of_mapping
    rw [h.functional h']
  | .node h, he => h.functional he.of_node

theorem DenotesAll.functional {g : Graph} {vs : List Value} {ds es : List Datum} :
    DenotesAll g vs ds → DenotesAll g vs es → ds = es
  | .nil, he => by cases he; rfl
  | .cons head tail, he => by
    obtain ⟨e, es, rfl, head', tail'⟩ := he.of_cons
    rw [head.functional head', tail.functional tail']

theorem DenotesEntries.functional {g : Graph} {entries : List (Value × Value)}
    {ds es : List (Datum × Datum)} : DenotesEntries g entries ds → DenotesEntries g entries es → ds = es
  | .nil, he => by cases he; rfl
  | .cons key value tail, he => by
    obtain ⟨a, b, es, rfl, key', value', tail'⟩ := he.of_cons
    rw [key.functional key', value.functional value', tail.functional tail']

end

end StarlarkMacro
