import StarlarkMacro.Proofs.Literal.Datum

/-!
# A literal is the text of a datum

A value that holds no marshaler has a literal only if it has a datum, and then the literal is the text of
the datum. Nothing is said about which values have a literal: a value may be a container inside itself, or
hold something that has none.
-/

namespace StarlarkMacro

/-- A value occurs in another one, the members of nodes included. -/
inductive Occurs (g : Graph) (w : Value) : Value → Prop
  | here : Occurs g w w
  | member {kind : SequenceKind} {items : List Value} {v : Value} (hv : v ∈ items)
    (h : Occurs g w v) : Occurs g w (.sequence kind items)
  | key {kind : MappingKind} {entries : List (Value × Value)} {entry : Value × Value}
    (he : entry ∈ entries) (h : Occurs g w entry.1) : Occurs g w (.mapping kind entries)
  | value {kind : MappingKind} {entries : List (Value × Value)} {entry : Value × Value}
    (he : entry ∈ entries) (h : Occurs g w entry.2) : Occurs g w (.mapping kind entries)
  | node {id : Nat} (h : Occurs g w (g.node id)) : Occurs g w (.node id)

/-- Nothing in a value has a literal of its own making. -/
def Value.Plain (g : Graph) (v : Value) : Prop := ∀ w, Occurs g w v → w.hasMarshalMethod g = false

namespace Value.Plain

variable {g : Graph}

/-- What occurs in a member occurs in the sequence. -/
theorem member {kind : SequenceKind} {items : List Value} (h : Plain g (.sequence kind items)) :
    ∀ v ∈ items, Plain g v := fun _ hv w hw ↦ h w (.member hv hw)

theorem entries {kind : MappingKind} {entries : List (Value × Value)}
    (h : Plain g (.mapping kind entries)) : ∀ e ∈ entries, Plain g e.1 ∧ Plain g e.2 :=
  fun _ he ↦ ⟨fun w hw ↦ h w (.key he hw), fun w hw ↦ h w (.value he hw)⟩

/-- A node holds what its value holds. -/
theorem of_node {id : Nat} (h : Plain g (.node id)) : Plain g (g.node id) :=
  fun w hw ↦ h w (.node hw)

theorem sequence {kind : SequenceKind} {items : List Value} (h : ∀ v ∈ items, Plain g v) :
    Plain g (.sequence kind items) := by
  intro w hw
  cases hw with
  | here => rfl
  | member hv hw => exact h _ hv w hw

/-- A node has a marshal method only if its value has one. -/
theorem node {id : Nat} (h : Plain g (g.node id)) : Plain g (.node id) := by
  intro w hw
  cases hw with
  | here =>
    have hown := h _ .here
    cases hnode : g.node id <;> simp_all [Value.hasMarshalMethod, resolve]
  | node hw => exact h w hw

theorem int (n : Int) (derived : Bool) : Plain g (.int n derived) := by
  intro w hw
  cases hw
  rfl

theorem text (t : Text) (derived : Bool) : Plain g (.text t derived) := by
  intro w hw
  cases hw
  rfl

theorem hasMarshalMethod {v : Value} (h : Plain g v) : v.hasMarshalMethod g = false := h v .here

end Value.Plain

/-- Texts to be spliced into a call, at least one of them and none with a literal of its own making. -/
def Value.IsSplice (g : Graph) (v : Value) : Prop :=
  ∃ items, v.resolve g = .arguments items ∧ items ≠ [] ∧ ∀ w ∈ items, w.Plain g

namespace Text

/-- A text without lone surrogates. -/
def IsClean (t : Text) : Prop := ∀ c ∈ t, ∃ x, c = .char x

theorem isClean_ofChars (cs : List Char) : IsClean (ofChars cs) := by
  intro c hc
  obtain ⟨x, -, rfl⟩ := List.mem_map.1 hc
  exact ⟨x, rfl⟩

/-- A text without surrogates is a list of characters. -/
theorem IsClean.exists_eq_ofChars {t : Text} (h : IsClean t) : ∃ cs, t = ofChars cs := by
  induction t with
  | nil => exact ⟨[], rfl⟩
  | cons c t ih =>
    obtain ⟨x, rfl⟩ := h c (by simp)
    obtain ⟨cs, rfl⟩ := ih fun d hd ↦ h d (by simp [hd])
    exact ⟨x :: cs, rfl⟩

theorem IsClean.of_append {s t : Text} (h : IsClean (s ++ t)) : IsClean s ∧ IsClean t :=
  ⟨fun c hc ↦ h c (List.mem_append_left _ hc), fun c hc ↦ h c (List.mem_append_right _ hc)⟩

theorem join_cons (separator part : Text) (parts : List Text) :
    join separator (part :: parts) = part ++ parts.flatMap (separator ++ ·) :=
  Datum.intercalate_cons separator part parts

/-- The parts of a joined text, so a surrogate in any of them is one in the whole. -/
theorem IsClean.of_join {separator : Text} {parts : List Text} (h : IsClean (join separator parts)) :
    ∀ part ∈ parts, IsClean part := by
  cases parts with
  | nil => simp
  | cons first parts =>
    rw [join_cons] at h
    obtain ⟨hfirst, hrest⟩ := h.of_append
    intro part hpart c hc
    rcases List.mem_cons.1 hpart with rfl | hmem
    · exact hfirst c hc
    · exact hrest c (List.mem_flatMap.2 ⟨part, hmem, List.mem_append_right _ hc⟩)

theorem join_map_ofChars (separator : List Char) (parts : List (List Char)) :
    join (ofChars separator) (parts.map ofChars) = ofChars (separator.intercalate parts) := by
  cases parts with
  | nil => rfl
  | cons first parts =>
    rw [List.map_cons, join_cons, Datum.intercalate_cons, ofChars_append]
    congr 1
    induction parts with
    | nil => rfl
    | cons part parts ih => simp [ih]

end Text

namespace Literal

open Text (IsClean ofChars)

/-! ## Containers of texts -/

/-- The encoder joins texts, and the text of data puts a separator before every member but the first; both
come to the same. -/
theorem commaSeparated_texts (ds : List Datum) :
    commaSeparated (ds.map fun d ↦ ofChars d.text) = ofChars (Datum.membersText ds) := by
  rw [Datum.membersText_eq, ← Text.join_map_ofChars, List.map_map]
  rfl

theorem listText_texts (ds : List Datum) :
    listText (ds.map fun d ↦ ofChars d.text) = ofChars (Datum.list ds).text := by
  simp only [listText, commaSeparated_texts, ← Text.ofChars_append]
  rfl

theorem tupleText_texts (ds : List Datum) :
    tupleText (ds.map fun d ↦ ofChars d.text) = ofChars (Datum.tuple ds).text := by
  simp only [tupleText, commaSeparated_texts, ← Text.ofChars_append, List.length_map]
  rfl

/-- Tuples keep their brackets, and every other kind of sequence is written as a list. -/
theorem sequenceText_texts (kind : SequenceKind) (ds : List Datum) :
    sequenceText kind (ds.map fun d ↦ ofChars d.text) =
      ofChars (if kind = .tuple ∨ kind = .namedTuple then Datum.tuple ds else .list ds).text := by
  cases kind
  · exact listText_texts ds
  · exact tupleText_texts ds
  · exact tupleText_texts ds
  all_goals exact listText_texts ds

/-- The text of a mapping whose keys and values have the texts of data. -/
theorem mappingText_texts (es : List (Datum × Datum)) :
    mappingText (es.map fun e ↦ (ofChars e.1.text, ofChars e.2.text)) =
      ofChars (Datum.mapping es).text := by
  have hentries : (es.map fun e ↦ (ofChars e.1.text, ofChars e.2.text)).map entryText =
      (es.map Datum.entryText).map ofChars := by
    rw [List.map_map, List.map_map]
    refine List.map_congr_left fun e _ ↦ ?_
    simp only [Function.comp, entryText, Text.ofString, ← Text.ofChars_append, Datum.entryText,
      List.append_assoc]
    rfl
  have hcomma : commaSeparated ((es.map Datum.entryText).map ofChars) =
      ofChars (Datum.entriesText es) := by
    rw [Datum.entriesText_eq, ← Text.join_map_ofChars]
    rfl
  simp only [mappingText, hentries, hcomma, ← Text.ofChars_append]
  rfl

theorem isClean_of_sequenceText {kind : SequenceKind} {parts : List Text}
    (h : IsClean (sequenceText kind parts)) : ∀ part ∈ parts, IsClean part := by
  have hjoin : IsClean (commaSeparated parts) := by
    cases kind <;> exact h.of_append.1.of_append.2
  exact hjoin.of_join

theorem isClean_of_mappingText {entries : List (Text × Text)} (h : IsClean (mappingText entries)) :
    ∀ e ∈ entries, IsClean e.1 ∧ IsClean e.2 := by
  intro e he
  have hentry := h.of_append.1.of_append.2.of_join (entryText e) (List.mem_map_of_mem he)
  exact ⟨hentry.of_append.1.of_append.1, hentry.of_append.2⟩

/-! ## Literals of values -/

/-- How a computation that succeeds is taken apart, step by step. -/
theorem exists_of_bind_eq_ok {ε α β : Type} {x : Except ε α} {f : α → Except ε β} {b : β}
    (h : x >>= f = .ok b) : ∃ a, x = .ok a ∧ f a = .ok b := by
  cases x with
  | error e => cases h
  | ok a => exact ⟨a, rfl, h⟩

theorem eq_ok_of_mapError_eq_ok {ε ε' α : Type} {f : ε → ε'} {x : Except ε α} {a : α}
    (h : x.mapError f = .ok a) : x = .ok a := by
  cases x with
  | error e => cases h
  | ok b =>
    cases h
    rfl

theorem exists_of_map_eq_ok {ε α β : Type} {f : α → β} {x : Except ε α} {b : β}
    (h : x.map f = .ok b) : ∃ a, x = .ok a ∧ b = f a := by
  cases x with
  | error e => cases h
  | ok a =>
    cases h
    exact ⟨a, rfl, rfl⟩

section Tree

variable {g : Graph} {node : List Nat → Nat → Except EncodingError Text}

/-- What is given for a node is the text of its datum. -/
def NodesDenote (g : Graph) (node : List Nat → Nat → Except EncodingError Text) : Prop :=
  ∀ active id t, node active id = .ok t → (Value.node id).Plain g → IsClean t →
    ∃ d, Denotes g (.node id) d ∧ t = ofChars d.text

mutual

/-- By cases on the value. A surrogate is found in the text of the literal itself, so a clean literal stands
for a text of characters; a value with a marshal method is not plain. -/
theorem denotes_of_encodeTree (hnode : NodesDenote g node) (active : List Nat) :
    ∀ (v : Value) {t : Text}, encodeTree g node active v = .ok t → v.Plain g → IsClean t →
      ∃ d, Denotes g v d ∧ t = ofChars d.text
  | .none, _, h, _, _ => by
    cases h
    exact ⟨_, .none, rfl⟩
  | .bool b, _, h, _, _ => by
    cases h
    exact ⟨_, .bool b, by cases b <;> rfl⟩
  | .int n derived, _, h, _, _ => by
    cases h
    exact ⟨_, .int n derived, rfl⟩
  | .float x derived, _, h, _, _ => by
    simp only [encodeTree] at h
    split at h
    · cases h
      exact ⟨_, .float x derived ‹_›, rfl⟩
    · cases h
  | .text t derived, _, h, _, hclean => by
    cases h
    obtain ⟨cs, rfl⟩ : ∃ cs, t = ofChars cs := by
      refine IsClean.exists_eq_ofChars fun c hc ↦ ?_
      cases c with
      | char x => exact ⟨x, rfl⟩
      | surrogate offset =>
        have hmem : CodePoint.surrogate offset ∈ t.quoted :=
          List.mem_append_left _ (List.mem_cons_of_mem _
            (List.mem_flatMap.2 ⟨_, hc, by simp [Text.quotedUnit]⟩))
        obtain ⟨x, hx⟩ := hclean _ hmem
        cases hx
    exact ⟨_, .text cs derived, Text.quoted_ofChars cs⟩
  | .binary .., _, h, _, _ => by cases h
  | .sequence kind items, _, h, hplain, hclean => by
    obtain ⟨parts, hparts, rfl⟩ := exists_of_map_eq_ok h
    obtain ⟨ds, hds, rfl⟩ := denotesAll_of_encodeItems hnode active 0 items hparts hplain.member
      (isClean_of_sequenceText hclean)
    refine ⟨_, ?_, sequenceText_texts kind ds⟩
    split
    · exact .tuple ‹_› hds
    · exact .list (not_or.1 ‹_›) hds
  | .range start stop step, _, h, _, _ => by
    cases h
    refine ⟨_, .range start stop step, ?_⟩
    rw [← listText_texts, List.map_map]
    rfl
  | .mapping kind entries, _, h, hplain, hclean => by
    obtain ⟨parts, hparts, rfl⟩ := exists_of_map_eq_ok h
    obtain ⟨es, hes, rfl⟩ := denotesEntries_of_encodeEntries hnode active 0 entries hparts
      hplain.entries (isClean_of_mappingText hclean)
    exact ⟨_, .mapping hes, mappingText_texts es⟩
  | .node id, t, h, hplain, hclean => hnode active id t h hplain hclean
  | .arguments _, _, _, hplain, _ | .labelled .., _, _, hplain, _ | .returning _, _, _, hplain, _
  | .wrapping .., _, _, hplain, _ | .raising .., _, _, hplain, _ | .refusing .., _, _, hplain, _
  | .marshalerClass, _, _, hplain, _ => by cases hplain.hasMarshalMethod
  | .set .., _, h, _, _ | .complex .., _, h, _, _ | .object _, _, h, _, _ => by cases h

theorem denotesAll_of_encodeItems (hnode : NodesDenote g node) (active : List Nat) (i : Nat) :
    ∀ (items : List Value) {parts : List Text}, encodeItems g node active i items = .ok parts →
      (∀ v ∈ items, v.Plain g) → (∀ part ∈ parts, IsClean part) →
      ∃ ds, DenotesAll g items ds ∧ parts = ds.map fun d ↦ ofChars d.text
  | [], _, h, _, _ => by
    cases h
    exact ⟨[], .nil, rfl⟩
  | v :: vs, _, h, hplain, hclean => by
    obtain ⟨literal, hliteral, h⟩ := exists_of_bind_eq_ok h
    obtain ⟨rest, hrest, h⟩ := exists_of_bind_eq_ok h
    cases h
    obtain ⟨d, hd, rfl⟩ := denotes_of_encodeTree hnode active v (eq_ok_of_mapError_eq_ok hliteral)
      (hplain v (by simp)) (hclean literal (by simp))
    obtain ⟨ds, hds, rfl⟩ := denotesAll_of_encodeItems hnode active (i + 1) vs hrest
      (fun w hw ↦ hplain w (by simp [hw])) (fun part hpart ↦ hclean part (by simp [hpart]))
    exact ⟨d :: ds, .cons hd hds, rfl⟩

theorem denotesEntries_of_encodeEntries (hnode : NodesDenote g node) (active : List Nat) (i : Nat) :
    ∀ (entries : List (Value × Value)) {parts : List (Text × Text)},
      encodeEntries g node active i entries = .ok parts →
      (∀ e ∈ entries, e.1.Plain g ∧ e.2.Plain g) → (∀ p ∈ parts, IsClean p.1 ∧ IsClean p.2) →
      ∃ es, DenotesEntries g entries es ∧
        parts = es.map fun e ↦ (ofChars e.1.text, ofChars e.2.text)
  | [], _, h, _, _ => by
    cases h
    exact ⟨[], .nil, rfl⟩
  | (k, v) :: entries, _, h, hplain, hclean => by
    obtain ⟨key, hkey, h⟩ := exists_of_bind_eq_ok h
    obtain ⟨value, hvalue, h⟩ := exists_of_bind_eq_ok h
    obtain ⟨rest, hrest, h⟩ := exists_of_bind_eq_ok h
    cases h
    obtain ⟨hkeyPlain, hvaluePlain⟩ := hplain (k, v) (by simp)
    obtain ⟨hkeyClean, hvalueClean⟩ := hclean (key, value) (by simp)
    obtain ⟨a, ha, rfl⟩ := denotes_of_encodeTree hnode active k (eq_ok_of_mapError_eq_ok hkey)
      hkeyPlain hkeyClean
    obtain ⟨b, hb, rfl⟩ := denotes_of_encodeTree hnode active v (eq_ok_of_mapError_eq_ok hvalue)
      hvaluePlain hvalueClean
    obtain ⟨es, hes, rfl⟩ := denotesEntries_of_encodeEntries hnode active (i + 1) entries hrest
      (fun e he ↦ hplain e (by simp [he])) (fun p hp ↦ hclean p (by simp [hp]))
    exact ⟨(a, b) :: es, .cons ha hb hes, rfl⟩

end

/-- By induction on the depth. The value of a node is encoded one level deeper, where its own nodes denote.
-/
theorem nodesDenote_encodeNode (depth : Nat) : NodesDenote g (encodeNode g depth) := by
  induction depth with
  | zero =>
    intro active id t h
    rw [encodeNode] at h
    split at h <;> cases h
  | succ depth ih =>
    intro active id t h hplain hclean
    rw [encodeNode] at h
    split at h
    · cases h
    · obtain ⟨d, hd, htext⟩ := denotes_of_encodeTree ih _ _ h hplain.of_node hclean
      exact ⟨d, .node hd, htext⟩

end Tree

/-- The last check of a marshalled text passes it on as it is. -/
theorem eq_ofChars_of_finish {v : Value} {t : Text} {cs : List Char} (h : finish v t = .ok cs) :
    t = ofChars cs := by
  unfold finish at h
  split at h
  · cases h
    exact Text.eq_ofChars_of_chars? ‹_›
  · cases h

/-- The literal of a value without marshalers is the text of its datum. -/
theorem denotes_of_marshal {g : Graph} {v : Value} {cs : List Char} (h : marshal g v = .ok cs)
    (hplain : v.Plain g) : ∃ d, Denotes g v d ∧ cs = d.text := by
  obtain ⟨t, ht, hfinish⟩ := exists_of_bind_eq_ok h
  obtain rfl := eq_ofChars_of_finish hfinish
  obtain ⟨d, hd, htext⟩ := denotes_of_encodeTree (nodesDenote_encodeNode g.depth) [] v ht hplain
    (Text.isClean_ofChars cs)
  exact ⟨d, hd, Text.ofChars_injective htext⟩

/-! ## Spliced arguments -/

/-- Spliced arguments are joined as the members of a list are, without its brackets. -/
theorem exists_membersText_of_encodeTree {g : Graph}
    {node : List Nat → Nat → Except EncodingError Text} (hnode : NodesDenote g node)
    (active : List Nat) {items : List Value} {t : Text}
    (h : encodeTree g node active (.arguments items) = .ok t) (hplain : ∀ v ∈ items, v.Plain g) :
    ∃ ds, DenotesAll g items ds ∧ t = ofChars (Datum.membersText ds) := by
  rw [encodeTree] at h
  split at h
  · cases h
  · obtain ⟨parts, hparts, h⟩ := exists_of_bind_eq_ok (eq_ok_of_mapError_eq_ok h)
    obtain ⟨cs, hfinish, h⟩ := exists_of_bind_eq_ok h
    cases h
    have hliteral := eq_ofChars_of_finish hfinish
    obtain ⟨ds, hds, rfl⟩ := denotesAll_of_encodeItems hnode [] 0 items hparts hplain
      (hliteral ▸ Text.isClean_ofChars cs).of_join
    rw [commaSeparated_texts] at hliteral
    exact ⟨ds, hds, hliteral.symm⟩

/-- A node that is not being encoded already is encoded by its value. -/
theorem encodeNode_of_not_mem (g : Graph) (depth : Nat) {active : List Nat} {id : Nat}
    (h : id ∉ active) : encodeNode g (depth + 1) active id =
      encodeTree g (encodeNode g depth) (id :: active) (g.node id) := by
  conv_lhs => rw [encodeNode, if_neg (by simpa using h)]

/-- Whether it is shared or not, a splice is encoded from its members. -/
theorem exists_encode_eq {g : Graph} {v : Value} {items : List Value}
    (h : v.resolve g = .arguments items) :
    ∃ depth active, encode g v = encodeTree g (encodeNode g depth) active (.arguments items) := by
  cases v with
  | arguments items' =>
    obtain rfl : items' = items := by simpa [Value.resolve] using h
    exact ⟨_, _, rfl⟩
  | node id =>
    have hnode : g.node id = .arguments items := h
    rw [encode, encodeTree, Graph.depth, encodeNode_of_not_mem g _ List.not_mem_nil, hnode]
    exact ⟨_, _, rfl⟩
  | _ => cases h

/-- Spliced texts give the texts of their data, of which there is one at least. -/
theorem exists_membersText_of_marshal {g : Graph} {v : Value} {cs : List Char}
    (h : marshal g v = .ok cs) (hsplice : v.IsSplice g) :
    ∃ ds, ds ≠ [] ∧ cs = Datum.membersText ds := by
  obtain ⟨items, hitems, hne, hplain⟩ := hsplice
  obtain ⟨t, ht, hfinish⟩ := exists_of_bind_eq_ok h
  obtain rfl := eq_ofChars_of_finish hfinish
  obtain ⟨depth, active, hencode⟩ := exists_encode_eq hitems
  rw [hencode] at ht
  obtain ⟨ds, hds, htext⟩ := exists_membersText_of_encodeTree (nodesDenote_encodeNode depth) active ht
    hplain
  refine ⟨ds, ?_, Text.ofChars_injective htext⟩
  rintro rfl
  exact hne (List.eq_nil_of_length_eq_zero hds.length_eq)

end Literal

end StarlarkMacro
