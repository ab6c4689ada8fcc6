import StarlarkMacro.Proofs.Document.Macro
import StarlarkMacro.Proofs.Writer.History

/-!
# Names in a text

A name gets into a text behind `def` and as the method of a call. In both places a word is read back if the
grammar of texts does not keep it for itself, and spoils the whole text if it does. The words that are
reserved as names are keywords of that grammar but for one, and five more keywords are not reserved: under
these a text is written that its own check takes for malformed.
-/

namespace StarlarkMacro

open Source

/-- The text is accepted without a fault and is the text of one macro. -/
structure IsTextOf (source : List Char) (s : MacroSummary) : Prop where
  verdict : Verdict.ofSource source = .ok (.checked [])
  summaries : summarize source = .ok [s]

/-- The text is no sequence of statements for the check, nor for the summaries. -/
structure IsMalformed (source : List Char) : Prop where
  verdict : Verdict.ofSource source = .ok .malformed
  summaries : summarize source = .error .malformed

/-- Verdict and summary parse the text first, and by the same parser. -/
theorem isMalformed_of_verdict {source : List Char}
    (h : Verdict.ofSource source = .ok .malformed) : IsMalformed source := by
  refine ⟨h, ?_⟩
  unfold Verdict.ofSource at h
  cases hparse : File.parse source with
  | ok file =>
    rw [hparse] at h
    cases h
  | error unreadable =>
    cases unreadable with
    | malformed =>
      rw [summarize, hparse]
      rfl
    | flawed flaw =>
      rw [hparse] at h
      cases h

theorem MacroText.isTextOf {m : MacroText} (h : m.IsGood) : IsTextOf m.text m.summary := by
  have hgood : ∀ m' ∈ [m], m'.IsGood := fun m' hm' ↦ List.mem_singleton.1 hm' ▸ h
  have htext : [m].flatMap text = m.text := List.flatMap_singleton text m
  obtain ⟨hverdict, hsummaries⟩ := verdict_eq hgood
  rw [htext] at hverdict hsummaries
  exact ⟨hverdict, hsummaries⟩

/-- The list of keywords is complete, which is what a search through it needs. -/
theorem Source.Keyword.mem_all (k : Keyword) : k ∈ Keyword.all := by
  cases k <;> decide

namespace MacroText

/-- A macro without lines. -/
def bare (name : List Char) : MacroText := ⟨name, []⟩

/-- A macro with one command and no arguments to it. -/
def calling (method : List Char) : MacroText := ⟨"gen".toList, [.command method []]⟩

theorem isTextOf_bare {name : List Char} (h : Identifier.IsUsable name) :
    IsTextOf (bare name).text ⟨name, [], []⟩ :=
  isTextOf ⟨h, fun _ hl ↦ absurd hl List.not_mem_nil, rfl⟩

theorem isTextOf_calling {method : List Char} (h : Identifier.IsUsable method) :
    IsTextOf (calling method).text ⟨"gen".toList, [method], []⟩ := by
  have hname : Identifier.IsUsable "gen".toList := ⟨rfl, by decide⟩
  exact isTextOf ⟨hname, fun l hl ↦ List.mem_singleton.1 hl ▸ h, rfl⟩

/-- A keyword where the name of a function stands, for each keyword of the grammar. -/
theorem isMalformed_bare (k : Keyword) : IsMalformed (bare k.spelling.toList).text := by
  have hall : ∀ k ∈ Keyword.all,
      Verdict.ofSource (bare k.spelling.toList).text = .ok .malformed := by decide +kernel
  exact isMalformed_of_verdict (hall k k.mem_all)

theorem isMalformed_calling (k : Keyword) : IsMalformed (calling k.spelling.toList).text := by
  have hall : ∀ k ∈ Keyword.all,
      Verdict.ofSource (calling k.spelling.toList).text = .ok .malformed := by decide +kernel
  exact isMalformed_of_verdict (hall k k.mem_all)

end MacroText

/-! ## Writing one name -/

namespace Operation

open Writer

variable {g : Graph} {w : Writer}

theorem run_begin_of_valid (hcurrent : w.current = none) {name : Value} {used : List Char}
    (hname : Identifier.ofValue? name = some used) :
    ((beginMacro name).run g).run w = (.ok .nothing, w.begun used) := by
  rw [Operation.run, run_bind_pure, Writer.run_beginMacro_of_valid w hcurrent hname]
  rfl

theorem text_run_endMacro {current : List Char} (hcurrent : w.current = some current)
    (hsink : w.sink.NeverRefuses) (hindent : w.pending.indent = StatementBuffer.standardIndent) :
    ((endMacro.run g).run w).2.sink.text = (w.text ++ [MacroHistory.returnLine]).flatten := by
  rw [Operation.run, run_bind_pure, run_endMacro_of_neverRefuses w hcurrent hsink hindent,
    run_flushSink]
  rfl

end Operation

namespace Script

open Writer

/-- The text that operations on a new writer leave in the sink. -/
def textOf (g : Graph) (refusesFlush : Nat → Bool) (ops : List Operation) : List Char :=
  (freshRun g refusesFlush ops).2.sink.text

/-- A macro of that name, without a line. -/
def naming (name : Value) : List Operation := [.beginMacro name, .endMacro]

/-- A macro with one command of that name, without arguments. -/
def commanding (name : Value) : List Operation :=
  [.beginMacro (.text "gen" false), .writeCommand name [], .endMacro]

variable (g : Graph) (refusesFlush : Nat → Bool) {v : Value} {used : List Char}

/-- What the writer writes for a name is the macro with nothing in it. -/
theorem textOf_naming (hname : Identifier.ofValue? v = some used) :
    textOf g refusesFlush (naming v) = (MacroText.bare used).text := by
  let w := Writer.new (.empty (fun _ ↦ false) refusesFlush)
  calc
    _ = ((Operation.endMacro.run g).run (((Operation.beginMacro v).run g).run w).2).2.sink.text := rfl
    _ = [header used, MacroHistory.returnLine].flatten := by
      rw [Operation.run_begin_of_valid rfl hname]
      exact Operation.text_run_endMacro (w := w.begun used) rfl (fun _ ↦ rfl) rfl
    _ = _ := rfl

/-- What it writes for a command is the macro with this command alone. -/
theorem textOf_commanding (hname : Identifier.ofValue? v = some used) :
    textOf g refusesFlush (commanding v) = (MacroText.calling used).text := by
  let w := Writer.new (.empty (fun _ ↦ false) refusesFlush)
  let gen : List Char := "gen".toList
  let line := statementLine (callStatement used [])
  have hgen : Identifier.ofValue? (.text "gen" false) = some gen := by decide
  have hwritten : ((Operation.writeCommand v []).run g).run (w.begun gen) =
      (.ok .nothing, (w.begun gen).drained.storing line) := by
    rw [Operation.run, run_bind_pure,
      run_writeCommand_of_ok (w.begun gen) rfl (fun _ ↦ rfl) rfl hname rfl]
    rfl
  calc
    _ = ((Operation.endMacro.run g).run (((Operation.writeCommand v []).run g).run
          (((Operation.beginMacro (.text "gen" false)).run g).run w).2).2).2.sink.text := rfl
    _ = [header gen, line, MacroHistory.returnLine].flatten := by
      rw [Operation.run_begin_of_valid rfl hgen, hwritten]
      exact Operation.text_run_endMacro (w := (w.begun gen).drained.storing line) rfl
        (fun _ ↦ rfl) rfl
    _ = _ := rfl

end Script

namespace Identifier

open Script

/-- A valid value gives two texts that are accepted and read back as what was written, or, if it is used
under one of the five keywords that are not reserved, two that are malformed. -/
theorem isTextOf_or_isMalformed (g : Graph) (refusesFlush : Nat → Bool) (v : Value)
    (h : isValidValue v = true) :
    ∃ used, ofValue? v = some used ∧
      (used ∉ unreservedKeywords →
        IsTextOf (textOf g refusesFlush (naming v)) ⟨used, [], []⟩ ∧
        IsTextOf (textOf g refusesFlush (commanding v)) ⟨"gen".toList, [used], []⟩) ∧
      (used ∈ unreservedKeywords →
        IsMalformed (textOf g refusesFlush (naming v)) ∧
        IsMalformed (textOf g refusesFlush (commanding v))) := by
  obtain ⟨used, hused⟩ := isValidValue_eq_true_iff.1 h
  rw [textOf_naming g refusesFlush hused, textOf_commanding g refusesFlush hused]
  refine ⟨used, hused, fun hkeyword ↦ ?_, fun hkeyword ↦ ?_⟩
  · have husable := isUsable_of_ofValue? hused hkeyword
    exact ⟨MacroText.isTextOf_bare husable, MacroText.isTextOf_calling husable⟩
  · obtain ⟨k, rfl⟩ := exists_keyword_of_mem_unreservedKeywords hkeyword
    exact ⟨MacroText.isMalformed_bare k, MacroText.isMalformed_calling k⟩

/-- A reserved word is used with an underscore behind it. -/
theorem isTextOf_or_isMalformed_if :
    isValidValue (.text "if" false) = true ∧
      IsTextOf (textOf .empty (fun _ ↦ false) (commanding (.text "if" false)))
        ⟨"gen".toList, ["if_".toList], []⟩ := by
  have hvalid : isValidValue (.text "if" false) = true := by decide
  obtain ⟨used, hused, haccepted, -⟩ :=
    isTextOf_or_isMalformed .empty (fun _ ↦ false) (.text "if" false) hvalid
  have hif : ofValue? (.text "if" false) = some "if_".toList := by decide
  obtain rfl := Option.some.inj (hif.symm.trans hused)
  exact ⟨hvalid, (haccepted (by decide)).2⟩

/-- The word for no value is valid and not reserved, and there is no text of a macro of that name. -/
theorem not_isTextOf_naming_none :
    isValidValue (.text "None" false) = true ∧
      ∀ s, ¬ IsTextOf (textOf .empty (fun _ ↦ false) (naming (.text "None" false))) s := by
  refine ⟨by decide, fun s hs ↦ ?_⟩
  have hname : ofValue? (.text "None" false) = some Keyword.noneWord.spelling.toList := by decide
  rw [textOf_naming .empty (fun _ ↦ false) hname] at hs
  cases (MacroText.isMalformed_bare .noneWord).verdict.symm.trans hs.verdict

end Identifier

end StarlarkMacro
