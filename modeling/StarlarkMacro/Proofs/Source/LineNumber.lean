import StarlarkMacro.Source.File

/-!
# Line numbers

Line numbers are those of the revised text. The line of a place has the same number in the source if all that
was revised in front of the place stood inside a line, and what became of it does too. A line that was
joined to the indentation of the next one is revised away together with its line end, and the numbers of the
lines behind it are too low.
-/

namespace StarlarkMacro.Source

open Lexeme (isLineEnd)
open File (lineEnds)

/-- The number of the line of a text that a place is on. -/
def lineIn (source : List Char) (place : Nat) : Nat := lineEnds (source.take place) + 1

/-- Characters none of which ends a line. -/
def EndsNoLine (cs : List Char) : Prop := ∀ c ∈ cs, isLineEnd c = false

/-- What is revised stands inside a line, and so does what becomes of it. -/
structure Revision.IsInline (source : List Char) (r : Revision) : Prop where
  start_le_stop : r.start ≤ r.stop
  endsNoLine_source : EndsNoLine (slice source r.start r.stop)
  endsNoLine_text : EndsNoLine (r.text source)
  behind : source[r.stop]? ≠ some '\n'

instance : DecidablePred EndsNoLine := fun cs ↦
  decidable_of_iff ((cs.all fun c ↦ !isLineEnd c) = true) <| by
    simp [EndsNoLine]

instance (source : List Char) : DecidablePred (Revision.IsInline source) := fun r ↦
  decidable_of_iff (r.start ≤ r.stop ∧ EndsNoLine (slice source r.start r.stop) ∧
      EndsNoLine (r.text source) ∧ source[r.stop]? ≠ some '\n')
    ⟨fun ⟨h₁, h₂, h₃, h₄⟩ ↦ ⟨h₁, h₂, h₃, h₄⟩, fun ⟨h₁, h₂, h₃, h₄⟩ ↦ ⟨h₁, h₂, h₃, h₄⟩⟩

/-! ## Line ends of joined texts -/

section LineEnds

variable {front gap tail : List Char}

/-- A carriage return in front of a line feed is the only line end that two texts can share. -/
theorem lineEnds_append (h : tail.head? ≠ some '\n') :
    lineEnds (front ++ tail) = lineEnds front + lineEnds tail := by
  induction front using File.lineEnds.induct with
  | case1 cs ih =>
    simp only [List.cons_append, lineEnds, ih]
    omega
  | case2 c cs hpair ih =>
    have hjoined : ∀ cs', c = '\r' → cs ++ tail = '\n' :: cs' → False := by
      intro cs' hc hcs
      obtain ⟨rfl, htail⟩ | ⟨cs'', rfl, -⟩ := List.append_eq_cons_iff.1 hcs
      · exact h (htail ▸ rfl)
      · exact hpair cs'' hc rfl
    rw [List.cons_append, File.lineEnds.eq_2 c (cs ++ tail) hjoined, File.lineEnds.eq_2 c cs hpair, ih]
    omega
  | case3 => simp [lineEnds]

theorem EndsNoLine.lineEnds_append (h : EndsNoLine gap) :
    lineEnds (gap ++ tail) = lineEnds tail := by
  induction gap with
  | nil => rfl
  | cons c gap ih =>
    obtain ⟨hc, hgap⟩ := List.forall_mem_cons.1 h
    have hne : ∀ cs, c = '\r' → gap ++ tail = '\n' :: cs → False := by
      rintro cs rfl -
      cases hc
    rw [List.cons_append, File.lineEnds.eq_2 c (gap ++ tail) hne, ih hgap, hc]
    rfl

theorem EndsNoLine.head?_append_ne (h : EndsNoLine gap) (htail : tail.head? ≠ some '\n') :
    (gap ++ tail).head? ≠ some '\n' := by
  cases gap with
  | nil => exact htail
  | cons c gap =>
    intro hhead
    obtain rfl : c = '\n' := Option.some.inj hhead
    cases h '\n' List.mem_cons_self

/-- What stands inside a line adds nothing to the line ends around it. -/
theorem EndsNoLine.lineEnds_between (h : EndsNoLine gap) (htail : tail.head? ≠ some '\n') :
    lineEnds (front ++ (gap ++ tail)) = lineEnds front + lineEnds tail := by
  rw [StarlarkMacro.Source.lineEnds_append (h.head?_append_ne htail), h.lineEnds_append]

end LineEnds

/-! ## Slices -/

/-- Slices that meet are one slice. -/
theorem slice_append_slice (source : List Char) {a b c : Nat} (h : a ≤ b) (h' : b ≤ c) :
    slice source a b ++ slice source b c = slice source a c := by
  have hdrop : source.drop b = (source.drop a).drop (b - a) := by
    rw [List.drop_drop, Nat.add_sub_cancel' h]
  have hlength : c - a = b - a + (c - b) := by omega
  rw [slice, slice, slice, hdrop, hlength, List.take_add]

theorem head?_slice_ne {source : List Char} {a : Nat} (h : source[a]? ≠ some '\n') (b : Nat) :
    (slice source a b).head? ≠ some '\n' := by
  rw [slice, List.head?_take]
  split
  · simp
  · rwa [List.head?_drop]

/-! ## Revised slices -/

section RevisedSlice

variable {source : List Char} {start stop : Nat} {revisions : List Revision}

theorem Revision.isWithin_iff {r : Revision} :
    r.isWithin start stop = true ↔ start ≤ r.start ∧ r.stop ≤ stop := by
  simp [Revision.isWithin]

/-- What is revised behind a revision of a part is revised in that part. -/
theorem Revision.IsInline.isWithin_of_behind {r r' : Revision} (h : r.IsInline source)
    (hr : r.isWithin start stop = true) (hr' : r'.isWithin r.stop stop = true) :
    r'.isWithin start stop = true := by
  have hle := h.start_le_stop
  rw [Revision.isWithin_iff] at *
  omega

theorem head?_revisedSlice_ne (hstart : source[start]? ≠ some '\n')
    (h : ∀ r ∈ revisions, r.isWithin start stop = true → r.IsInline source) :
    (revisedSlice source start stop revisions).head? ≠ some '\n' := by
  induction revisions generalizing start with
  | nil => exact head?_slice_ne hstart stop
  | cons r rest ih =>
    obtain ⟨hr, hrest⟩ := List.forall_mem_cons.1 h
    unfold revisedSlice
    split
    · rename_i hwithin
      have hinline := hr hwithin
      have htail := ih hinline.behind fun r' hr' hbehind ↦
        hrest r' hr' (hinline.isWithin_of_behind hwithin hbehind)
      rw [List.append_assoc, List.head?_append]
      cases hfront : (slice source start r.start).head? with
      | none => exact hinline.endsNoLine_text.head?_append_ne htail
      | some c => simpa [hfront] using head?_slice_ne hstart r.start
    · exact ih hstart hrest

theorem lineEnds_revisedSlice
    (h : ∀ r ∈ revisions, r.isWithin start stop = true → r.IsInline source) :
    lineEnds (revisedSlice source start stop revisions) = lineEnds (slice source start stop) := by
  induction revisions generalizing start with
  | nil => rfl
  | cons r rest ih =>
    obtain ⟨hr, hrest⟩ := List.forall_mem_cons.1 h
    unfold revisedSlice
    split
    · rename_i hwithin
      have hinline := hr hwithin
      obtain ⟨hstart, hstop⟩ := Revision.isWithin_iff.1 hwithin
      have hlater : ∀ r' ∈ rest, r'.isWithin r.stop stop = true → r'.IsInline source :=
        fun r' hr' hbehind ↦ hrest r' hr' (hinline.isWithin_of_behind hwithin hbehind)
      calc lineEnds (slice source start r.start ++ r.text source ++ revisedSlice source r.stop stop rest)
        _ = lineEnds (slice source start r.start) +
            lineEnds (revisedSlice source r.stop stop rest) := by
          rw [List.append_assoc]
          apply hinline.endsNoLine_text.lineEnds_between
          exact head?_revisedSlice_ne hinline.behind hlater
        _ = lineEnds (slice source start r.start) + lineEnds (slice source r.stop stop) := by
          rw [ih hlater]
        _ = lineEnds (slice source start r.start ++
            (slice source r.start r.stop ++ slice source r.stop stop)) := by
          rw [hinline.endsNoLine_source.lineEnds_between (head?_slice_ne hinline.behind stop)]
        _ = lineEnds (slice source start stop) := by
          rw [slice_append_slice source hinline.start_le_stop hstop, slice_append_slice source hstart]
          exact Nat.le_trans hinline.start_le_stop hstop
    · exact ih hrest

end RevisedSlice

namespace File

/-- The line of a place has the number that it has in the source if all that was revised in front of the
place stands inside a line. -/
theorem lineAt_eq_lineIn {file : File} {place : Nat}
    (h : ∀ r ∈ file.revisions, r.isWithin 0 place = true → r.IsInline file.source) :
    file.lineAt place = lineIn file.source place := by
  rw [lineAt, lineEnds_revisedSlice h]
  rfl

/-- The revisions of a source's lines, and those that are noted in reading it. -/
def revisionParts? (source : List Char) : Option (List Revision × List Revision) := do
  let tokens ← Layout.tokens? source
  let start := (tokens.head?.map Token.start).getD 0
  let (_, state) ← Reader.statements.run ⟨tokens, start, none, []⟩
  return (indentations source (some (Layout.markLength source)) [] tokens, state.revisions.reverse)

theorem revisions_of_parse {source : List Char} {file : File} {lines noted : List Revision}
    (h : parse source = .ok file) (hparts : revisionParts? source = some (lines, noted)) :
    file.revisions = lines.merge noted fun a b ↦ a.start ≤ b.start := by
  unfold parse at h
  unfold revisionParts? at hparts
  split at h
  · cases h
  · rename_i tokens htokens
    simp only [htokens, Option.bind_eq_bind, Option.bind_some] at h hparts
    split at h <;> cases h
    rename_i hread
    rw [hread] at hparts
    cases hparts
    rfl

theorem source_of_parse {source : List Char} {file : File} (h : parse source = .ok file) :
    file.source = source := by
  unfold parse at h
  split at h
  · cases h
  · simp only at h
    split at h <;> cases h
    rfl

end File

end StarlarkMacro.Source
