import StarlarkMacro.Proofs.Check.Macro
import Mathlib.Data.List.Infix
import Mathlib.Order.Bounds.Basic

/-!
# Pops without a push

A body is checked with a count of open directories that never falls below zero, and each pop that would take
it there is reported. The deficit of some lines is the number of pops among them less the number of pushes.
As many pops are reported as the largest deficit of a beginning of the body, and a pop is reported exactly
if the deficit behind it is larger than at every earlier place.
-/

namespace StarlarkMacro.Check

open Source

/-! ## Places -/

/-- A line of a body, between those in front of it and those behind it. -/
structure Place where
  before : List Statement
  line : Statement
  after : List Statement

/-- The places of lines that stand behind some others. -/
def placesBehind : List Statement → List Statement → List Place
  | _, [] => []
  | before, s :: rest => ⟨before, s, rest⟩ :: placesBehind (before ++ [s]) rest

/-- The places of a body in order. -/
def places (body : List Statement) : List Place := placesBehind [] body

theorem mem_placesBehind_iff {before body : List Statement} {p : Place} :
    p ∈ placesBehind before body ↔
      ∃ passed, p.before = before ++ passed ∧ body = passed ++ p.line :: p.after := by
  induction body generalizing before with
  | nil => simp [placesBehind]
  | cons s rest ih =>
    rw [placesBehind, List.mem_cons, ih]
    constructor
    · rintro (rfl | ⟨passed, hbefore, rfl⟩)
      · exact ⟨[], (List.append_nil before).symm, rfl⟩
      · exact ⟨s :: passed, by rw [hbefore, List.append_assoc, List.singleton_append], rfl⟩
    · rintro ⟨passed, hbefore, hbody⟩
      obtain ⟨rfl, hbody⟩ | ⟨passed, rfl, rfl⟩ := List.cons_eq_append_iff.1 hbody
      · left
        obtain ⟨rfl, rfl⟩ := List.cons.inj hbody
        rw [← List.append_nil before, ← hbefore]
      · right
        exact ⟨passed, by rw [hbefore, List.append_assoc, List.singleton_append], rfl⟩

/-- The places of a body are the ways to part it at a line. -/
theorem mem_places_iff {body : List Statement} {p : Place} :
    p ∈ places body ↔ body = p.before ++ p.line :: p.after := by
  rw [places, mem_placesBehind_iff]
  simp

/-! ## Deficits -/

/-- How many more directories lines close than they open. -/
def deficit (lines : List Statement) : ℤ := pops lines - pushes lines

section Deficit

variable {before lines : List Statement} {s : Statement} {peak : ℤ}

/-- Lines in a row close what each of them closes. -/
theorem deficit_append (a b : List Statement) : deficit (a ++ b) = deficit a + deficit b := by
  simp only [deficit, pops, pushes, List.countP_append]
  omega

theorem pushes_add_pops_singleton_le (s : Statement) : pushes [s] + pops [s] ≤ 1 := by
  rw [pushes_singleton, pops_singleton]
  cases Shape.ofStatement? s with
  | none => decide
  | some shape => cases shape <;> simp

/-- The largest deficit of a beginning, the empty one included. -/
def IsPeak (lines : List Statement) (peak : ℤ) : Prop :=
  IsGreatest {d | ∃ before, before <+: lines ∧ deficit before = d} peak

theorem isPeak_nil : IsPeak [] 0 := by
  refine ⟨⟨[], List.prefix_refl [], rfl⟩, ?_⟩
  rintro _ ⟨before, hbefore, rfl⟩
  rw [List.prefix_nil.1 hbefore]
  exact le_refl 0

theorem IsPeak.append_singleton (h : IsPeak lines peak) (s : Statement) :
    IsPeak (lines ++ [s]) (max peak (deficit (lines ++ [s]))) := by
  have hset : {d | ∃ before, before <+: lines ++ [s] ∧ deficit before = d} =
      insert (deficit (lines ++ [s])) {d | ∃ before, before <+: lines ∧ deficit before = d} := by
    ext d
    simp only [List.prefix_concat_iff, Set.mem_ofPred_eq, Set.mem_insert_iff, or_and_right, exists_or,
      exists_eq_left, eq_comm]
  rw [IsPeak, hset, max_comm]
  exact h.insert _

end Deficit

/-- The deficit behind a line is larger than at every place before it. -/
def IsRecord (p : Place) : Prop :=
  ∀ before, before <+: p.before → deficit before < deficit (p.before ++ [p.line])

instance : DecidablePred IsRecord := fun p ↦
  decidable_of_iff (∀ before ∈ p.before.inits, deficit before < deficit (p.before ++ [p.line])) <| by
    simp only [List.mem_inits, IsRecord]

/-! ## Reports -/

/-- The pops that are reported to have no push, with their places. -/
def unmatchedPops (f : Findings) : List (Nat × Fault) :=
  f.faults.filter fun fault ↦ fault.2.message = "pop_directory without a matching push_directory"

theorem message_eq_unmatchedPop_iff {f : Fault} :
    f.message = "pop_directory without a matching push_directory" ↔ f = .unmatchedPop := by
  cases f <;> decide

theorem unmatchedPops_append (a b : Findings) :
    unmatchedPops (a ++ b) = unmatchedPops a ++ unmatchedPops b := List.filter_append ..

theorem unmatchedPops_fault {f : Fault} (h : f ≠ .unmatchedPop) (start : Nat) :
    unmatchedPops (.fault start f) = [] := by
  simp [unmatchedPops, Findings.fault, message_eq_unmatchedPop_iff, h]

/-- A line is reported if it closes a directory that is not open. -/
theorem unmatchedPops_lineFindings (depth : Nat) (isLast : Bool) (s : Statement) :
    unmatchedPops (lineFindings depth isLast s).1 =
      if pops [s] ≤ depth + pushes [s] then [] else [(s.start, .unmatchedPop)] := by
  rw [pushes_singleton, pops_singleton, lineFindings]
  cases Shape.ofStatement? s with
  | none => exact unmatchedPops_fault (by decide) _
  | some shape =>
    cases shape with
    | returnContext =>
      cases isLast
      · exact unmatchedPops_fault (by decide) _
      · rfl
    | push literal =>
      cases hvalue : StringLiteral.value? literal with
      | none => simpa [hvalue] using unmatchedPops_fault (by decide) s.start
      | some path => simp [hvalue, unmatchedPops]
    | pop =>
      by_cases hdepth : depth = 0
      · simp [hdepth, unmatchedPops, Findings.fault, message_eq_unmatchedPop_iff]
      · simp [hdepth, unmatchedPops, Findings.none, Nat.one_le_iff_ne_zero]
    | command method => rfl
    | other => exact unmatchedPops_fault (by decide) _

/-! ## Counting along a body -/

/-- What the count says behind lines of which some pops were reported: these are as many as the largest
deficit so far, and the depth is what lacks to it. -/
structure Counts (before : List Statement) (depth reported : Nat) : Prop where
  isPeak : IsPeak before reported
  depth_eq : (depth : ℤ) = reported - deficit before

theorem counts_nil : Counts [] 0 0 := ⟨isPeak_nil, rfl⟩

namespace Counts

variable {before : List Statement} {depth reported : Nat} (h : Counts before depth reported)
include h

/-- One line adds itself to the lines before it, its change to the depth and its report, if it makes one. -/
theorem step (isLast : Bool) (s : Statement) :
    Counts (before ++ [s]) (lineFindings depth isLast s).2
      (reported + (unmatchedPops (lineFindings depth isLast s).1).length) := by
  have hone := pushes_add_pops_singleton_le s
  have hdepth := h.depth_eq
  have hdeficit : deficit (before ++ [s]) = deficit before + (pops [s] - pushes [s]) :=
    deficit_append before [s]
  have hpeak := h.isPeak.append_singleton s
  rw [snd_lineFindings, unmatchedPops_lineFindings]
  split
  · have hmax : max (reported : ℤ) (deficit (before ++ [s])) = reported := max_eq_left (by omega)
    refine ⟨by simpa [hmax] using hpeak, ?_⟩
    rw [hdeficit]
    simp only [List.length_nil]
    omega
  · have hmax : max (reported : ℤ) (deficit (before ++ [s])) = reported + 1 := by
      rw [hdeficit, max_eq_right] <;> omega
    refine ⟨by simpa [hmax] using hpeak, ?_⟩
    rw [hdeficit]
    simp only [List.length_singleton]
    omega

theorem isRecord_iff (s : Statement) (after : List Statement) :
    IsRecord ⟨before, s, after⟩ ↔ depth + pushes [s] < pops [s] := by
  have hdepth := h.depth_eq
  have hdeficit : deficit (before ++ [s]) = deficit before + (pops [s] - pushes [s]) :=
    deficit_append before [s]
  obtain ⟨⟨top, htop, htopDeficit⟩, hbound⟩ := h.isPeak
  constructor
  · intro hrecord
    have hlt := hrecord top htop
    simp only [hdeficit, htopDeficit] at hlt
    omega
  · intro hlt other hother
    have hle := hbound ⟨other, hother, rfl⟩
    simp only [hdeficit]
    omega

end Counts

/-- Along the rest of a body the records are reported, and nothing else is. -/
theorem unmatchedPops_bodyFindings {before : List Statement} {depth reported : Nat}
    (h : Counts before depth reported) (body : List Statement) :
    unmatchedPops (bodyFindings depth body) =
        ((placesBehind before body).filter (IsRecord ·)).map
          (fun p ↦ (p.line.start, .unmatchedPop)) ∧
      IsPeak (before ++ body)
        ((reported + (unmatchedPops (bodyFindings depth body)).length : Nat) : ℤ) := by
  induction body generalizing before depth reported with
  | nil =>
    rw [List.append_nil]
    exact ⟨rfl, h.isPeak⟩
  | cons s rest ih =>
    obtain ⟨hreports, hpeak⟩ := ih (h.step rest.isEmpty s)
    have hline := unmatchedPops_lineFindings depth rest.isEmpty s
    rw [bodyFindings, unmatchedPops_append, List.length_append, ← Nat.add_assoc]
    rw [List.append_assoc, List.singleton_append] at hpeak
    refine ⟨?_, hpeak⟩
    rw [hreports, hline, placesBehind, List.filter_cons]
    simp only [h.isRecord_iff, decide_eq_true_eq]
    split
    · rw [if_neg (by omega), List.nil_append]
    · rw [if_pos (by omega), List.map_cons, List.singleton_append]

/-- A beginning can close more than all shorter ones only if its last line is a pop. -/
theorem IsRecord.popsDirectory {p : Place} (h : IsRecord p) : PopsDirectory p.line := by
  have hlt := h p.before (List.prefix_refl _)
  rw [deficit_append] at hlt
  by_contra hpops
  have hzero : pops [p.line] = 0 := by simp [pops, hpops]
  rw [deficit, deficit, hzero] at hlt
  omega

theorem unmatchedPops_functionFindings_eq (start : Nat) (head : FunctionHead) (body : List Statement) :
    unmatchedPops (functionFindings start head true body) = unmatchedPops (bodyFindings 0 body) := by
  have hunless (p : Prop) [Decidable p] {f : Fault} (hf : f ≠ .unmatchedPop) :
      unmatchedPops (if p then Findings.none else .fault start f) = [] := by
    split
    · rfl
    · exact unmatchedPops_fault hf start
  simp only [functionFindings, if_true, unmatchedPops_append]
  rw [hunless _ (by decide), hunless _ (by decide), hunless _ (by decide), List.append_nil,
    List.append_nil, List.nil_append]

/-- As many pops of a function are reported as its largest deficit, and those are the pops behind which the
deficit is larger than ever before. -/
theorem isPeak_length_unmatchedPops (start : Nat) (head : FunctionHead) (body : List Statement) :
    IsPeak body (unmatchedPops (functionFindings start head true body)).length ∧
      unmatchedPops (functionFindings start head true body) =
        ((places body).filter fun p ↦ PopsDirectory p.line ∧ IsRecord p).map
          (fun p ↦ (p.line.start, .unmatchedPop)) := by
  obtain ⟨hreports, hpeak⟩ := unmatchedPops_bodyFindings counts_nil body
  have hrecords : ∀ p : Place, (PopsDirectory p.line ∧ IsRecord p) = IsRecord p := fun p ↦
    propext ⟨And.right, fun h ↦ ⟨h.popsDirectory, h⟩⟩
  rw [unmatchedPops_functionFindings_eq]
  refine ⟨by simpa using hpeak, ?_⟩
  simp only [hrecords]
  exact hreports

end StarlarkMacro.Check
