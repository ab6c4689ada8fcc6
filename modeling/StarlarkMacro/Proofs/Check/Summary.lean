import StarlarkMacro.Proofs.Check.Element
import StarlarkMacro.Proofs.Check.Outermost
import StarlarkMacro.Proofs.Source.LineNumber

/-!
# Complete summaries

Whatever is wrong with a well-formed text, each of its outermost functions has a summary, and nothing else
has. The summary of a function tells the commands and the paths of the function's own lines, and the
violations in it are those of its head, of its lines in their places, and of its end. They are given with the
numbers of lines of the revised text, which are those of the source where nothing was revised across lines.
-/

namespace StarlarkMacro

open Source

namespace Check

open Verdict (isFunction)

/-! ## Functions -/

def headFaults (start : Nat) (head : FunctionHead) : List (Nat × Fault) :=
  (if head.decorators = 0 then [] else [(start, .decorated)]) ++
    if takesOnlyContext head.parameters then [] else [(start, .parameters)]

def endFaults (start : Nat) (body : List Statement) : List (Nat × Fault) :=
  if endsWithReturn body then [] else [(start, .missingReturn)]

/-- What a function comes to: its summary, and its faults with their places. -/
inductive ComesTo : Statement → MacroSummary → List (Nat × Fault) → Prop
  | indented {start : Nat} {head : FunctionHead} {body : List Statement} {commands : List (List Char)}
    {directories : List Text} {reports : List (List (Nat × Fault))}
    (hcommands : Collects CallsCommand body commands)
    (hdirectories : Collects OpensPath body directories)
    (hreports : List.Forall₂ Contributes (places body) reports) :
    ComesTo (.function start head true body) ⟨head.name, commands, directories⟩
      (headFaults start head ++ reports.flatten ++ endFaults start body)
  | unindented {start : Nat} {head : FunctionHead} {body : List Statement} :
    ComesTo (.function start head false body) ⟨head.name, [], []⟩
      (headFaults start head ++ [(start, .notIndented)])

def summaryOf (m : List Char × Findings) : MacroSummary := ⟨m.1, m.2.commands, m.2.directories⟩

/-- The faults of a function in order: those of its head, those of its lines and that of its end. -/
theorem functionFindings_eq (start : Nat) (head : FunctionHead) (indented : Bool)
    (body : List Statement) :
    functionFindings start head indented body = ⟨headFaults start head, [], []⟩ ++
      if indented then bodyFindings 0 body ++ ⟨endFaults start body, [], []⟩
      else .fault start .notIndented := by
  have hunless (p : Prop) [Decidable p] (f : Fault) : (if p then Findings.none else .fault start f) =
      ⟨if p then [] else [(start, f)], [], []⟩ := by
    split <;> rfl
  unfold functionFindings headFaults endFaults
  simp only [hunless]
  rfl

/-- The findings of a function are its summary and its faults. -/
theorem comesTo_function (start : Nat) (head : FunctionHead) (indented : Bool)
    (body : List Statement) :
    ComesTo (.function start head indented body)
      (summaryOf (head.name, functionFindings start head indented body))
      (functionFindings start head indented body).faults := by
  rw [functionFindings_eq]
  cases indented with
  | false => exact .unindented
  | true =>
    obtain ⟨reports, hreports, hfaults⟩ := counts_nil.exists_reports body
    have hall : (⟨headFaults start head, [], []⟩ ++
        (bodyFindings 0 body ++ ⟨endFaults start body, [], []⟩) : Findings) =
        ⟨headFaults start head ++ reports.flatten ++ endFaults start body,
          (bodyFindings 0 body).commands, (bodyFindings 0 body).directories⟩ := by
      have happend (a b : Findings) : a ++ b =
        ⟨a.faults ++ b.faults, a.commands ++ b.commands, a.directories ++ b.directories⟩ := rfl
      simp only [happend, hfaults, List.nil_append, List.append_nil, List.append_assoc]
    rw [if_pos rfl, hall]
    exact .indented (collects_commands 0 body) (collects_directories 0 body) hreports

/-- What is found in functions, wherever they stand, is what they come to. -/
theorem forall₂_comesTo {functions : List (List Nat × Statement)}
    (h : ∀ f ∈ functions, isFunction f.2 = true) :
    List.Forall₂ (fun f a ↦ ComesTo f.2 a.1 a.2) functions
      ((functions.flatMap fun f ↦ macros f.2).map fun m ↦ (summaryOf m, m.2.faults)) := by
  induction functions with
  | nil => exact .nil
  | cons f rest ih =>
    obtain ⟨hf, hrest⟩ := List.forall_mem_cons.1 h
    obtain ⟨path, s⟩ := f
    cases s with
    | function start head indented body =>
      exact .cons (comesTo_function start head indented body) (ih hrest)
    | line => cases hf
    | compound => cases hf

/-! ## Trees -/

/-- The outermost functions of some statements in order, each once, and what each of them comes to. -/
structure AccountsFor (statements : List Statement) (functions : List (List Nat × Statement))
    (accounts : List (MacroSummary × List (Nat × Fault))) : Prop where
  sorted : functions.Pairwise fun f g ↦ f.1 < g.1
  mem_iff : ∀ path s, (path, s) ∈ functions ↔ IsOutermost statements path s
  comesTo : List.Forall₂ (fun f a ↦ ComesTo f.2 a.1 a.2) functions accounts

/-- One account for each outermost function, in the order of the text. -/
theorem accountsFor (statements : List Statement) :
    AccountsFor statements (outermostFrom 0 statements)
      ((macrosOf statements).map fun m ↦ (summaryOf m, m.2.faults)) where
  sorted := pairwise_outermostFrom 0 statements
  mem_iff path s := by
    rw [mem_outermostFrom_iff]
    constructor
    · rintro ⟨i, rest, rfl, h⟩
      rwa [Nat.zero_add]
    · intro h
      obtain ⟨i, rest, rfl⟩ := List.exists_cons_of_ne_nil h.standsAt.ne_nil
      exact ⟨i, rest, by rw [Nat.zero_add], h⟩
  comesTo := by
    rw [macrosOf_eq_flatMap_outermostFrom 0 statements]
    apply forall₂_comesTo
    rintro ⟨path, s⟩ hf
    obtain ⟨_, _, -, h⟩ := (mem_outermostFrom_iff ..).1 hf
    exact h.isFunction

end Check

/-! ## Texts -/

namespace Verdict

open Check

/-- The violations of a function with a summary, for faults at their places. -/
def violationsOf (file : File) (summary : MacroSummary) (faults : List (Nat × Fault)) :
    List Violation :=
  faults.map fun (place, fault) ↦ .inMacro (file.lineAt place) summary.name fault

/-- A well-formed text has the summaries and the violations that its outermost functions come to. The lines
of the violations have the numbers that they have in the source, unless something across lines was revised in
front of them. -/
theorem exists_accountsFor_of_parse {source : List Char} {file : File}
    (h : File.parse source = .ok file) :
    ∃ functions accounts, AccountsFor (file.statements.map TopLevel.statement) functions accounts ∧
      summarize source = .ok (accounts.map Prod.fst) ∧
      ofSource source = .ok (.checked (statementViolations file ++
        accounts.flatMap fun a ↦ violationsOf file a.1 a.2)) ∧
      ∀ place, (∀ r ∈ file.revisions, r.isWithin 0 place = true → r.IsInline source) →
        file.lineAt place = lineIn source place := by
  refine ⟨_, _, accountsFor _, ?_, ?_, ?_⟩
  · unfold summarize
    rw [h, List.map_map]
    rfl
  · unfold ofSource
    simp only [h, List.flatMap_map]
    rfl
  · intro place hinline
    have hsource := File.source_of_parse h
    rw [← hsource] at hinline ⊢
    exact File.lineAt_eq_lineIn hinline

/-- A function with lines of several kinds in the wrong places, and one that has no block. -/
def guardedMacros : List Char :=
  ("try:\n  def a(ctx):\n    if x: ctx.u(ctx)\n    ctx.v(ctx)\n    b; c\n" ++
    "    ctx = ctx.push_directory(ctx, \"p\")\nexcept E :\n  def b(ctx): pass\n").toList

theorem exists_accountsFor_of_parse_guardedMacros :
    ∃ file, File.parse guardedMacros = .ok file ∧ ∃ functions accounts,
      AccountsFor (file.statements.map TopLevel.statement) functions accounts ∧
      accounts.map Prod.fst = [⟨"a".toList, ["v".toList], [Text.ofChars "p".toList]⟩,
        ⟨"b".toList, [], []⟩] ∧
      ∀ place, file.lineAt place = lineIn guardedMacros place := by
  have hsummaries : summarize guardedMacros = .ok [⟨"a".toList, ["v".toList],
      [Text.ofChars "p".toList]⟩, ⟨"b".toList, [], []⟩] := by
    decide +kernel
  have hparts : File.revisionParts? guardedMacros = some ([], [.gap 111 112]) := by decide +kernel
  have hgap : (Revision.gap 111 112).IsInline guardedMacros := by decide +kernel
  cases hparse : File.parse guardedMacros with
  | error unreadable =>
    unfold summarize at hsummaries
    rw [hparse] at hsummaries
    cases hsummaries
  | ok file =>
    obtain ⟨functions, accounts, haccounts, hsummarize, -, hlines⟩ :=
      exists_accountsFor_of_parse hparse
    have hrevisions : file.revisions = [.gap 111 112] := by
      rw [File.revisions_of_parse hparse hparts, List.nil_merge]
    refine ⟨file, rfl, functions, accounts, haccounts, ?_, fun place ↦ hlines place ?_⟩
    · exact Except.ok.inj (hsummarize.symm.trans hsummaries)
    · rw [hrevisions]
      intro r hr _
      rwa [List.mem_singleton.1 hr]

/-! ### Lines that lose their number -/

/-- Every line that does not fit in its place is reported with the number that it has in the source. -/
def BlamesOwnLines (source : List Char) : Prop :=
  ∀ file, File.parse source = .ok file → ∀ path start head body,
    IsOutermost (file.statements.map TopLevel.statement) path (.function start head true body) →
    ∀ p ∈ places body, ¬ IsFitting p → ∃ fault violations,
      ofSource source = .ok (.checked violations) ∧
      .inMacro (lineIn source p.line.start) head.name fault ∈ violations

/-- The places of the lines of a function that are simple statements of no use. -/
def unexpectedLines : Statement → List Nat
  | .function _ _ true body =>
    (body.filter fun s ↦ Shape.ofStatement? s = some .other).map Statement.start
  | _ => []

theorem exists_misfit_of_mem_unexpectedLines {s : Statement} {place : Nat}
    (h : place ∈ unexpectedLines s) : ∃ start head body, s = .function start head true body ∧
      ∃ p ∈ places body, ¬ IsFitting p ∧ p.line.start = place := by
  unfold unexpectedLines at h
  split at h
  · rename_i start head body
    obtain ⟨line, hline, rfl⟩ := List.mem_map.1 h
    obtain ⟨hline, hshape⟩ := List.mem_filter.1 hline
    obtain ⟨before, after, hbody⟩ := List.append_of_mem hline
    refine ⟨start, head, body, rfl, ⟨before, line, after⟩, mem_places_iff.2 hbody, ?_, rfl⟩
    rw [isFitting_iff, of_decide_eq_true hshape]
    exact id
  · cases h

/-- A line is joined to the indentation of a command, and an unexpected statement follows on line 5. -/
def joinedLine : List Char :=
  ("def gen(ctx):\n    ctx.a(ctx)\n    \\\n    ctx.b(ctx)\n    bad\n    return ctx\n").toList

theorem exists_parse_joinedLine : ∃ file, File.parse joinedLine = .ok file ∧
    (file.statements.map TopLevel.statement).map unexpectedLines = [[54]] ∧
    macroViolations file = [.inMacro 4 "gen".toList .unexpected] := by
  have hread : (File.parse joinedLine).map (fun file ↦
      ((file.statements.map TopLevel.statement).map unexpectedLines, macrosOf file)) =
        .ok ([[54]], [("gen".toList, ⟨[(54, .unexpected)], ["a".toList, "b".toList], []⟩)]) := by
    decide +kernel
  have hparts : File.revisionParts? joinedLine =
      some ([.indentation 29 39 "    ".toList], []) := by decide +kernel
  cases hparse : File.parse joinedLine with
  | error unreadable =>
    rw [hparse] at hread
    cases hread
  | ok file =>
    rw [hparse] at hread
    obtain ⟨hlines, hmacros⟩ := Prod.mk.inj (Except.ok.inj hread)
    have hrevisions : file.revisions = [.indentation 29 39 "    ".toList] := by
      rw [File.revisions_of_parse hparse hparts, List.merge_right]
    have hlineAt : file.lineAt 54 = 4 := by
      rw [File.lineAt, hrevisions, File.source_of_parse hparse]
      decide +kernel
    refine ⟨file, rfl, hlines, ?_⟩
    rw [macroViolations, hmacros, ← hlineAt]
    rfl

theorem not_blamesOwnLines_joinedLine : ¬ BlamesOwnLines joinedLine := by
  intro hblames
  obtain ⟨file, hparse, htops, hviolations⟩ := exists_parse_joinedLine
  obtain ⟨s, hs, hlines⟩ := List.map_eq_singleton_iff.1 htops
  obtain ⟨start, head, body, rfl, p, hp, hmisfit, hplace⟩ :=
    exists_misfit_of_mem_unexpectedLines (hlines ▸ List.mem_singleton_self 54)
  have houtermost : IsOutermost (file.statements.map TopLevel.statement) [0]
      (.function start head true body) := by
    rw [hs]
    exact isOutermost_singleton_iff.2 ⟨rfl, rfl⟩
  obtain ⟨fault, violations, hchecked, hmem⟩ := hblames file hparse _ _ _ _ houtermost p hp hmisfit
  have hline : lineIn joinedLine 54 = 5 := by decide +kernel
  unfold ofSource at hchecked
  rw [hparse] at hchecked
  cases hchecked
  rw [hplace, hline, hviolations] at hmem
  obtain hstatement | hmacro := List.mem_append.1 hmem
  · obtain ⟨top, -, htop⟩ := List.mem_map.1 hstatement
    cases htop
  · cases List.mem_singleton.1 hmacro

end Verdict

end StarlarkMacro
