import StarlarkMacro.Proofs.Literal.Parts
import StarlarkMacro.Proofs.Literal.Readable
import StarlarkMacro.Proofs.Literal.Sharing

/-!
# Literals on one line

Quoting leaves no line end in a text, and nothing else brings one into a literal but a marshaler that makes a
text of its own. Without such a marshaler a literal stands on one line, whatever the texts in it hold.
-/

namespace StarlarkMacro

open Source

namespace Value

/-- The value brings a text of its own into a literal. -/
def makesText : Value → Bool
  | labelled .. | returning _ | wrapping .. => true
  | _ => false

/-- Nothing that the literal of a value asks for makes a text of its own. Texts may be spliced, and a
marshaler may fail. -/
def IsBare (g : Graph) (v : Value) : Prop := ∀ w, Involves g w v → w.makesText = false

section

variable {g : Graph} {v w : Value}

theorem IsBare.makesText_eq (h : v.IsBare g) : v.makesText = false := h v .refl

theorem IsBare.of_part (h : v.IsBare g) (hw : Part g w v) : w.IsBare g :=
  fun u hu ↦ h u (hu.tail hw)

/-- A value is bare if it makes no text itself and its parts are bare. -/
theorem IsBare.of_parts (hown : v.makesText = false) (h : ∀ w, Part g w v → w.IsBare g) : v.IsBare g := by
  intro u hu
  cases hu with
  | refl => exact hown
  | tail hu hw => exact h _ hw u hu

end

end Value

/-- The code point ends no line. -/
def CodePoint.IsInLine : CodePoint → Prop
  | char c => Lexeme.isLineEnd c = false
  | surrogate _ => True

namespace Text

/-- A text that ends no line. -/
def IsOneLine (t : Text) : Prop := ∀ u ∈ t, u.IsInLine

/-- Each of some given characters is looked at. -/
theorem isLineEnd_of_all {cs : List Char} (h : cs.all (fun c ↦ !Lexeme.isLineEnd c) = true) :
    ∀ c ∈ cs, Lexeme.isLineEnd c = false := by
  intro c hc
  simpa only [Bool.not_eq_true'] using List.all_eq_true.1 h c hc

theorem isOneLine_ofChars_iff {cs : List Char} :
    IsOneLine (ofChars cs) ↔ ∀ c ∈ cs, Lexeme.isLineEnd c = false := List.forall_mem_map

theorem isLineEnd_of_mem_escape {c d : Char} (h : d ∈ Quoted.escape c) :
    Lexeme.isLineEnd d = false := by
  obtain ⟨hescape, hplain⟩ | ⟨start, digits, hescape, hstart, hdigits, -⟩ := Quoted.escape_cases c
  · rw [hescape, List.mem_singleton] at h
    exact h ▸ hplain.2.2.1
  · have hstarts : ∀ s ∈ Quoted.escapeStarts, Lexeme.isLineEnd s = false :=
      isLineEnd_of_all (by decide)
    rw [hescape, List.mem_cons, List.mem_cons] at h
    obtain rfl | rfl | hmem := h
    · decide
    · exact hstarts d hstart
    · exact (hdigits d hmem).2.2.1

/-- Quoting leaves no line end. -/
theorem isOneLine_quoted (t : Text) : IsOneLine t.quoted := by
  have hunit : ∀ u : CodePoint, IsOneLine (quotedUnit u) := by
    intro u
    cases u with
    | surrogate offset => exact List.forall_mem_singleton.2 trivial
    | char c => exact isOneLine_ofChars_iff.2 fun d hd ↦ isLineEnd_of_mem_escape hd
  intro u hu
  rw [quoted, List.cons_append, List.mem_cons, List.mem_append, List.mem_singleton] at hu
  obtain rfl | hmem | rfl := hu
  · rfl
  · obtain ⟨v, -, hv⟩ := List.mem_flatMap.1 hmem
    exact hunit v u hv
  · rfl

end Text

namespace Literal

open Text (IsOneLine)

/-- A character of a class that has neither line end. -/
theorem isLineEnd_of_holds {p : Char → Bool} (hp : p '\n' = false ∧ p '\r' = false) {c : Char}
    (h : p c = true) : Lexeme.isLineEnd c = false := by
  apply Bool.eq_false_iff.2
  intro hend
  rw [Lexeme.isLineEnd, Bool.or_eq_true, decide_eq_true_eq, decide_eq_true_eq] at hend
  obtain rfl | rfl := hend
  · exact absurd (hp.1.symm.trans h) Bool.false_ne_true
  · exact absurd (hp.2.symm.trans h) Bool.false_ne_true

theorem isLineEnd_of_isScalarChar {c : Char} (h : Datum.isScalarChar c = true) :
    Lexeme.isLineEnd c = false := isLineEnd_of_holds ⟨rfl, rfl⟩ h

theorem isOneLine_intText (n : Int) : IsOneLine (intText n) := by
  refine Text.isOneLine_ofChars_iff.2 fun c hc ↦ isLineEnd_of_isScalarChar ?_
  exact Datum.isScalarChar_of_mem_text (d := .int n) rfl hc

section Tree

variable {g : Graph} {node : List Nat → Nat → Except EncodingError Text}

/-- What is given for a node without texts of its own making is on one line. -/
def NodesOneLine (g : Graph) (node : List Nat → Nat → Except EncodingError Text) : Prop :=
  ∀ active id t, node active id = .ok t → (Value.node id).IsBare g → IsOneLine t

theorem isInLine_of_mem_punctuation : ∀ c ∈ punctuation, (CodePoint.char c).IsInLine :=
  Text.isLineEnd_of_all (by decide)

theorem isOneLine_of_encodeTree (hnode : NodesOneLine g node) (v : Value) (hbare : v.IsBare g)
    {active : List Nat} {t : Text} (h : encodeTree g node active v = .ok t) : IsOneLine t := by
  induction v using @Value.induction_on_parts g generalizing active t with
  | node id => exact hnode active id t h hbare
  | step v _ ih =>
    have hpart : ∀ w, Part g w v → ∀ {within : List Nat} {t : Text},
        encodeTree g node within w = .ok t → (IsOneLine t ↔ True) :=
      fun w hw _ _ ht ↦ iff_true_intro (ih w hw (hbare.of_part hw) ht)
    cases v with
    | none =>
      cases h
      exact Text.isOneLine_ofChars_iff.2 (Text.isLineEnd_of_all (by decide))
    | bool b =>
      cases h
      cases b with
      | false => exact Text.isOneLine_ofChars_iff.2 (Text.isLineEnd_of_all (by decide))
      | true => exact Text.isOneLine_ofChars_iff.2 (Text.isLineEnd_of_all (by decide))
    | int n derived =>
      cases h
      exact isOneLine_intText n
    | float x derived =>
      rw [encodeTree] at h
      split at h
      · cases h
        exact Text.isOneLine_ofChars_iff.2 fun c hc ↦
          isLineEnd_of_isScalarChar (Datum.isScalarChar_of_mem_floatText ‹_› hc)
      · cases h
    | text s derived =>
      cases h
      exact Text.isOneLine_quoted s
    | sequence kind items =>
      obtain ⟨parts, hparts, rfl⟩ := exists_of_map_eq_ok h
      apply forall_mem_sequenceText isInLine_of_mem_punctuation
      exact (forall_iff_of_encodeItems (fun w hw t ↦ hpart w (.member hw)) hparts).2 fun _ _ ↦ trivial
    | range start stop step =>
      cases h
      apply forall_mem_sequenceText isInLine_of_mem_punctuation .list
      intro part hpart
      obtain ⟨n, -, rfl⟩ := List.mem_map.1 hpart
      exact isOneLine_intText n
    | mapping kind entries =>
      obtain ⟨parts, hparts, rfl⟩ := exists_of_map_eq_ok h
      apply forall_mem_mappingText isInLine_of_mem_punctuation
      exact (forall_iff_of_encodeEntries (P := fun _ ↦ True)
        (fun e he ↦ ⟨fun t ↦ hpart e.1 (.key he), fun t ↦ hpart e.2 (.value he)⟩) hparts).2
        fun _ _ ↦ ⟨trivial, trivial⟩
    | arguments items =>
      rw [encodeTree] at h
      split at h
      · cases h
      · obtain ⟨parts, hparts, h⟩ := exists_of_bind_eq_ok (eq_ok_of_mapError_eq_ok h)
        obtain ⟨cs, hfinish, h⟩ := exists_of_bind_eq_ok h
        cases h
        rw [← eq_ofChars_of_finish hfinish]
        apply forall_mem_commaSeparated isInLine_of_mem_punctuation
        exact (forall_iff_of_encodeItems (fun w hw t ↦ hpart w (.argument hw)) hparts).2
          fun _ _ ↦ trivial
    | labelled | returning | wrapping => cases hbare.makesText_eq
    | node id => exact hnode active id t h hbare
    | _ => cases h

theorem nodesOneLine_encodeNode (depth : Nat) : NodesOneLine g (encodeNode g depth) := by
  induction depth with
  | zero =>
    intro active id t h
    rw [encodeNode] at h
    split at h <;> cases h
  | succ depth ih =>
    intro active id t h hbare
    rw [encodeNode] at h
    split at h
    · cases h
    · exact isOneLine_of_encodeTree ih _ (hbare.of_part (.content id)) h

end Tree

/-- The literal of a value that holds no text of its own making stands on one line. -/
theorem isLineEnd_of_mem_marshal {g : Graph} {v : Value} (hbare : v.IsBare g) {cs : List Char}
    (h : marshal g v = .ok cs) : ∀ c ∈ cs, Lexeme.isLineEnd c = false := by
  obtain ⟨t, hencode, hfinish⟩ := exists_of_bind_eq_ok h
  rw [← Text.isOneLine_ofChars_iff, ← eq_ofChars_of_finish hfinish]
  exact isOneLine_of_encodeTree (nodesOneLine_encodeNode g.depth) v hbare hencode

end Literal

end StarlarkMacro
