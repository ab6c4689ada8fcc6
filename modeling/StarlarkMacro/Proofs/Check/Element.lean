import StarlarkMacro.Proofs.Check.Depth
import Mathlib.Data.List.Forall2

/-!
# What each line adds

A line of a body, be it simple statements or a compound one, fits where it stands or has one fault at its
own place. A command fits everywhere, a push if its path can be read, a pop while a directory is open, and a
return at the end. What is found in a body are the commands and the paths of its lines in order, whatever
stands between them, and the fault of each line that does not fit.
-/

namespace StarlarkMacro.Check

open Source

/-! ## Open directories -/

/-- A push is still open: in no beginning of what follows it do the pops outnumber the pushes. -/
def HasOpen (lines : List Statement) : Prop :=
  ∃ outer push inner, lines = outer ++ push :: inner ∧ OpensDirectory push ∧
    ∀ before, before <+: inner → pops before ≤ pushes before

theorem HasOpen.cons {lines : List Statement} (h : HasOpen lines) (s : Statement) :
    HasOpen (s :: lines) := by
  obtain ⟨outer, push, inner, rfl, hpush, hinner⟩ := h
  exact ⟨s :: outer, push, inner, rfl, hpush, hinner⟩

theorem HasOpen.exists_suffix {lines : List Statement} (h : HasOpen lines) :
    ∃ tail, tail <:+ lines ∧ deficit tail < 0 := by
  obtain ⟨outer, push, inner, rfl, hpush, hinner⟩ := h
  refine ⟨push :: inner, List.suffix_append _ _, ?_⟩
  have hle := hinner inner (List.prefix_refl inner)
  have hone : pushes [push] = 1 := by simp [pushes, hpush]
  have hline := pushes_add_pops_singleton_le push
  rw [deficit, pushes_cons, pops_cons]
  omega

/-- A directory is open if the lines from some place on close less than they open. -/
theorem hasOpen_of_suffix {lines tail : List Statement} (htail : tail <:+ lines)
    (hdeficit : deficit tail < 0) : HasOpen lines := by
  -- The last place of the kind is that of an open push: from no later place on is less closed than opened.
  induction lines generalizing tail with
  | nil =>
    rw [List.suffix_nil.1 htail] at hdeficit
    exact absurd hdeficit (by decide)
  | cons s rest ih =>
    by_cases hlater : ∃ t, t <:+ rest ∧ deficit t < 0
    · obtain ⟨t, ht, hlt⟩ := hlater
      exact (ih ht hlt).cons s
    · have hnonneg : ∀ t, t <:+ rest → 0 ≤ deficit t := fun t ht ↦
        not_lt.1 fun hlt ↦ hlater ⟨t, ht, hlt⟩
      obtain rfl | htail := List.suffix_cons_iff.1 htail
      · have hsplit : deficit (s :: rest) = deficit [s] + deficit rest := deficit_append [s] rest
        have hrest := hnonneg rest (List.suffix_refl rest)
        have hline := pushes_add_pops_singleton_le s
        have hfirst : deficit [s] = (pops [s] : ℤ) - pushes [s] := rfl
        have hpushes : pushes [s] = 1 := by omega
        have hpush : OpensDirectory s := by simpa [pushes] using hpushes
        refine ⟨[], s, rest, rfl, hpush, ?_⟩
        rintro before ⟨after, rfl⟩
        have hafter := hnonneg after (List.suffix_append before after)
        rw [deficit_append] at hsplit
        have hbefore : deficit before = (pops before : ℤ) - pushes before := rfl
        omega
      · exact absurd hdeficit (not_lt.2 (hnonneg tail htail))

theorem Counts.hasOpen_iff {before : List Statement} {depth reported : Nat}
    (h : Counts before depth reported) : HasOpen before ↔ 0 < depth := by
  have hdepth := h.depth_eq
  obtain ⟨⟨top, ⟨tail, rfl⟩, htop⟩, hbound⟩ := h.isPeak
  rw [deficit_append] at hdepth
  constructor
  · intro hopen
    obtain ⟨last, ⟨first, hsplit⟩, hlast⟩ := hopen.exists_suffix
    have hle := hbound ⟨first, ⟨last, hsplit⟩, rfl⟩
    have hsum : deficit first + deficit last = deficit top + deficit tail := by
      rw [← deficit_append, ← deficit_append, hsplit]
    omega
  · intro hpositive
    apply hasOpen_of_suffix (List.suffix_append top tail)
    omega

/-! ## Lines in their places -/

/-- A line of one simple statement. -/
def IsSingle (s : Statement) : Prop := ∃ start part, s = .line start [part]

/-- What may stand at a place. -/
inductive IsFitting (p : Place) : Prop
  | command {method : List Char} (shape : CallsCommand method p.line)
  | push {literal : List Char} {path : Text} (shape : PushesDirectory literal p.line)
    (value : StringLiteral.value? literal = some path)
  | pop (shape : PopsDirectory p.line) (isOpen : HasOpen p.before)
  | final (shape : ReturnsContext p.line) (last : p.after = [])

/-- The fault of what may not stand at a place. -/
inductive Blames (p : Place) : Fault → Prop
  | notOneStatement (h : ¬ IsSingle p.line) : Blames p .notOneStatement
  | returnNotLast (shape : ReturnsContext p.line) (more : p.after ≠ []) : Blames p .returnNotLast
  | badLiteral {literal : List Char} (shape : PushesDirectory literal p.line)
    (value : StringLiteral.value? literal = none) : Blames p .badLiteral
  | unmatchedPop (shape : PopsDirectory p.line) (closed : ¬ HasOpen p.before) : Blames p .unmatchedPop
  | unexpected (single : IsSingle p.line) (noReturn : ¬ ReturnsContext p.line)
    (noPush : ¬ OpensDirectory p.line) (noPop : ¬ PopsDirectory p.line)
    (noCommand : ∀ method, ¬ CallsCommand method p.line) : Blames p .unexpected

/-- The faults that come from a place: none if the line fits, and otherwise one, at the line. -/
inductive Contributes (p : Place) : List (Nat × Fault) → Prop
  | nothing (fitting : IsFitting p) : Contributes p []
  | fault {f : Fault} (misfit : ¬ IsFitting p) (blame : Blames p f) :
    Contributes p [(p.line.start, f)]

theorem isSingle_iff {s : Statement} : IsSingle s ↔ ∃ shape, Shape.ofStatement? s = some shape := by
  constructor
  · rintro ⟨start, part, rfl⟩
    exact ⟨_, rfl⟩
  · rintro ⟨shape, h⟩
    unfold Shape.ofStatement? at h
    split at h
    · exact ⟨_, _, rfl⟩
    · cases h

/-- What fits, by the shape of the line. -/
theorem isFitting_iff {p : Place} : IsFitting p ↔
    match Shape.ofStatement? p.line with
    | some (.command _) => True
    | some (.push literal) => StringLiteral.value? literal ≠ none
    | some .pop => HasOpen p.before
    | some .returnContext => p.after = []
    | _ => False := by
  constructor
  · rintro (hshape | ⟨hshape, hvalue⟩ | ⟨hshape, hopen⟩ | ⟨hshape, hlast⟩)
    · rw [Shape.ofStatement?_eq_command_iff.2 hshape]
      trivial
    · rw [Shape.ofStatement?_eq_push_iff.2 hshape]
      simp [hvalue]
    · rw [Shape.ofStatement?_eq_pop_iff.2 hshape]
      exact hopen
    · rw [Shape.ofStatement?_eq_returnContext_iff.2 hshape]
      exact hlast
  · intro h
    split at h
    · exact .command (Shape.ofStatement?_eq_command_iff.1 ‹_›)
    · obtain ⟨path, hvalue⟩ := Option.ne_none_iff_exists'.1 h
      exact .push (Shape.ofStatement?_eq_push_iff.1 ‹_›) hvalue
    · exact .pop (Shape.ofStatement?_eq_pop_iff.1 ‹_›) h
    · exact .final (Shape.ofStatement?_eq_returnContext_iff.1 ‹_›) h
    · exact h.elim

section Line

variable {before : List Statement} {depth reported : Nat} (h : Counts before depth reported)
  (s : Statement) (after : List Statement)
include h

/-- What a line is found to add is what it contributes in its place. -/
theorem Counts.contributes :
    Contributes ⟨before, s, after⟩ (lineFindings depth after.isEmpty s).1.faults := by
  have hfits := isFitting_iff (p := ⟨before, s, after⟩)
  unfold lineFindings
  cases hshape : Shape.ofStatement? s with
  | none =>
    simp only [hshape] at hfits
    apply Contributes.fault hfits.1
    apply Blames.notOneStatement
    simp [isSingle_iff, hshape]
  | some shape =>
    simp only [hshape] at hfits
    cases shape with
    | returnContext =>
      by_cases hlast : after = []
      · subst hlast
        exact .nothing (hfits.2 rfl)
      · have hmore : after.isEmpty = false := by simpa using hlast
        simp only [hmore]
        apply Contributes.fault (fun hfitting ↦ hlast (hfits.1 hfitting))
        exact .returnNotLast (Shape.ofStatement?_eq_returnContext_iff.1 hshape) hlast
    | push literal =>
      have hpush := Shape.ofStatement?_eq_push_iff.1 hshape
      cases hvalue : StringLiteral.value? literal with
      | none =>
        simp only [hvalue]
        exact .fault (fun hfitting ↦ hfits.1 hfitting hvalue) (.badLiteral hpush hvalue)
      | some path =>
        simp only [hvalue]
        exact .nothing (.push hpush hvalue)
    | pop =>
      have hpop := Shape.ofStatement?_eq_pop_iff.1 hshape
      by_cases hdepth : depth = 0
      · have hclosed : ¬ HasOpen before := by
          rw [h.hasOpen_iff, hdepth]
          exact lt_irrefl 0
        simp only [hdepth, if_true]
        exact .fault (fun hfitting ↦ hclosed (hfits.1 hfitting)) (.unmatchedPop hpop hclosed)
      · simp only [hdepth, if_false]
        exact .nothing (.pop hpop (h.hasOpen_iff.2 (Nat.pos_of_ne_zero hdepth)))
    | command method => exact .nothing (.command (Shape.ofStatement?_eq_command_iff.1 hshape))
    | other =>
      apply Contributes.fault hfits.1
      apply Blames.unexpected (isSingle_iff.2 ⟨_, hshape⟩)
      · simp [← Shape.ofStatement?_eq_returnContext_iff, hshape]
      · simp [opensDirectory_iff, hshape]
      · simp [← Shape.ofStatement?_eq_pop_iff, hshape]
      · simp [← Shape.ofStatement?_eq_command_iff, hshape]

end Line

/-! ## Bodies -/

section Body

variable {α : Type} {gives : α → Statement → Prop}

/-- The things that lines give in order, where a line gives one thing or nothing. -/
inductive Collects (gives : α → Statement → Prop) : List Statement → List α → Prop
  | nil : Collects gives [] []
  | take {s : Statement} {rest : List Statement} {a : α} {as : List α} (h : gives a s)
    (others : Collects gives rest as) : Collects gives (s :: rest) (a :: as)
  | skip {s : Statement} {rest : List Statement} {as : List α} (h : ∀ a, ¬ gives a s)
    (others : Collects gives rest as) : Collects gives (s :: rest) as

theorem Collects.line {s : Statement} {rest : List Statement} {as : List α}
    (others : Collects gives rest as) {found : Option α} (h : ∀ a, gives a s ↔ found = some a) :
    Collects gives (s :: rest) (found.toList ++ as) := by
  cases found with
  | none =>
    apply Collects.skip _ others
    simp [h]
  | some a =>
    apply Collects.take _ others
    simp [h]

/-- A push whose path can be read. -/
def OpensPath (path : Text) (s : Statement) : Prop :=
  ∃ literal, PushesDirectory literal s ∧ StringLiteral.value? literal = some path

/-- What a line is found to give is one command if it is a command, and none otherwise. -/
theorem exists_commands_lineFindings (depth : Nat) (isLast : Bool) (s : Statement) :
    ∃ found : Option (List Char), (lineFindings depth isLast s).1.commands = found.toList ∧
      ∀ method, CallsCommand method s ↔ found = some method := by
  simp only [← Shape.ofStatement?_eq_command_iff]
  unfold lineFindings
  cases Shape.ofStatement? s with
  | none => exact ⟨none, rfl, by simp⟩
  | some shape =>
    cases shape with
    | command method => exact ⟨some method, rfl, by simp⟩
    | other => exact ⟨none, rfl, by simp⟩
    | returnContext | push | pop =>
      refine ⟨none, ?_, by simp⟩
      dsimp only
      split <;> rfl

/-- What a line is found to open is one path if it is a push of that path, and none otherwise. -/
theorem exists_directories_lineFindings (depth : Nat) (isLast : Bool) (s : Statement) :
    ∃ found : Option Text, (lineFindings depth isLast s).1.directories = found.toList ∧
      ∀ path, OpensPath path s ↔ found = some path := by
  simp only [OpensPath, ← Shape.ofStatement?_eq_push_iff]
  unfold lineFindings
  cases Shape.ofStatement? s with
  | none => exact ⟨none, rfl, by simp⟩
  | some shape =>
    cases shape with
    | push literal =>
      refine ⟨StringLiteral.value? literal, ?_, by simp⟩
      cases hvalue : StringLiteral.value? literal <;> simp [hvalue, Findings.fault]
    | command | other => exact ⟨none, rfl, by simp⟩
    | returnContext | pop =>
      refine ⟨none, ?_, by simp⟩
      dsimp only
      split <;> rfl

theorem collects_commands (depth : Nat) (body : List Statement) :
    Collects CallsCommand body (bodyFindings depth body).commands := by
  induction body generalizing depth with
  | nil => exact .nil
  | cons s rest ih =>
    obtain ⟨found, hfound, hgives⟩ := exists_commands_lineFindings depth rest.isEmpty s
    have happend (a b : Findings) : (a ++ b).commands = a.commands ++ b.commands := rfl
    rw [bodyFindings, happend, hfound]
    exact (ih _).line hgives

theorem collects_directories (depth : Nat) (body : List Statement) :
    Collects OpensPath body (bodyFindings depth body).directories := by
  induction body generalizing depth with
  | nil => exact .nil
  | cons s rest ih =>
    obtain ⟨found, hfound, hgives⟩ := exists_directories_lineFindings depth rest.isEmpty s
    have happend (a b : Findings) : (a ++ b).directories = a.directories ++ b.directories := rfl
    rw [bodyFindings, happend, hfound]
    exact (ih _).line hgives

/-- The faults of a body are what its lines contribute in their places, in order. -/
theorem Counts.exists_reports {before : List Statement} {depth reported : Nat}
    (h : Counts before depth reported) (body : List Statement) :
    ∃ reports, List.Forall₂ Contributes (placesBehind before body) reports ∧
      (bodyFindings depth body).faults = reports.flatten := by
  induction body generalizing before depth reported with
  | nil => exact ⟨[], .nil, rfl⟩
  | cons s rest ih =>
    obtain ⟨reports, hreports, hfaults⟩ := ih (h.step rest.isEmpty s)
    have happend (a b : Findings) : (a ++ b).faults = a.faults ++ b.faults := rfl
    refine ⟨_ :: reports, .cons (h.contributes s rest) hreports, ?_⟩
    rw [bodyFindings, happend, hfaults, List.flatten_cons]

end Body

end StarlarkMacro.Check
