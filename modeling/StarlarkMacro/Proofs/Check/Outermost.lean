import StarlarkMacro.Proofs.Check.Macro
import Mathlib.Data.List.Infix

/-!
# Outermost functions

A statement of a tree is found by its path: its number in the list, then its number in the blocks of that
statement, and so on. Paths in lexicographic order are in the order of the text. What is taken for a macro
are exactly the functions that stand in no other function, each once and in that order.
-/

namespace StarlarkMacro

open Source

namespace Source.Statement

/-- The statements of all blocks in order. -/
def inner : Statement → List Statement
  | line .. => []
  | function _ _ _ body => body
  | compound _ inner => inner

end Source.Statement

namespace Check

open Verdict (isFunction)

/-- A statement has that path among some statements. -/
inductive StandsAt : List Statement → List Nat → Statement → Prop
  | here {statements : List Statement} {i : Nat} {s : Statement} (h : statements[i]? = some s) :
    StandsAt statements [i] s
  | inside {statements : List Statement} {i : Nat} {s t : Statement} {path : List Nat}
    (h : statements[i]? = some s) (h' : StandsAt s.inner path t) : StandsAt statements (i :: path) t

/-- A function in no other function, by its path. -/
structure IsOutermost (statements : List Statement) (path : List Nat) (s : Statement) : Prop where
  standsAt : StandsAt statements path s
  isFunction : isFunction s = true
  outside : ∀ outer t, outer <+: path → outer ≠ path → StandsAt statements outer t →
    Verdict.isFunction t = false

section Path

variable {statements : List Statement} {path : List Nat} {s t : Statement} {i : Nat}

theorem StandsAt.ne_nil (h : StandsAt statements path s) : path ≠ [] := by
  cases h <;> simp

theorem standsAt_singleton_iff : StandsAt statements [i] s ↔ statements[i]? = some s := by
  refine ⟨fun h ↦ ?_, .here⟩
  cases h with
  | here h => exact h
  | inside _ h' => exact absurd rfl h'.ne_nil

/-- A path of more than one index leads through a statement to one of those inside it. -/
theorem standsAt_cons_iff (hpath : path ≠ []) :
    StandsAt statements (i :: path) t ↔
      ∃ s, statements[i]? = some s ∧ StandsAt s.inner path t := by
  constructor
  · intro h
    cases h with
    | here => exact absurd rfl hpath
    | inside h h' => exact ⟨_, h, h'⟩
  · rintro ⟨s, h, h'⟩
    exact .inside h h'

/-- At the top nothing surrounds a function. -/
theorem isOutermost_singleton_iff :
    IsOutermost statements [i] s ↔ statements[i]? = some s ∧ isFunction s = true := by
  constructor
  · rintro ⟨hstands, hfunction, -⟩
    exact ⟨standsAt_singleton_iff.1 hstands, hfunction⟩
  · rintro ⟨h, hfunction⟩
    refine ⟨.here h, hfunction, fun outer t hbefore hne hstands ↦ ?_⟩
    have hlength : outer.length < 1 :=
      lt_of_le_of_ne hbefore.length_le fun heq ↦ hne (hbefore.eq_of_length heq)
    exact absurd (List.length_eq_zero_iff.1 (Nat.lt_one_iff.1 hlength)) hstands.ne_nil

/-- A function inside a statement is outermost if the statement is no function and it is so inside. -/
theorem isOutermost_cons_iff (hpath : path ≠ []) :
    IsOutermost statements (i :: path) t ↔
      ∃ s, statements[i]? = some s ∧ isFunction s = false ∧ IsOutermost s.inner path t := by
  constructor
  · rintro ⟨hstands, hfunction, houtside⟩
    obtain ⟨s, hs, hinner⟩ := (standsAt_cons_iff hpath).1 hstands
    refine ⟨s, hs, houtside [i] s (by simp) (by simpa using hpath.symm) (.here hs), hinner, hfunction, ?_⟩
    intro outer u hbefore hne hu
    exact houtside (i :: outer) u ((List.prefix_cons_inj i).2 hbefore) (by simpa using hne)
      (.inside hs hu)
  · rintro ⟨s, hs, hnot, hinner, hfunction, houtside⟩
    refine ⟨.inside hs hinner, hfunction, fun outer u hbefore hne hu ↦ ?_⟩
    cases hu with
    | here h =>
      obtain ⟨rfl, -⟩ := List.cons_prefix_cons.1 hbefore
      rw [hs] at h
      exact Option.some.inj h ▸ hnot
    | inside h h' =>
      obtain ⟨rfl, hinside⟩ := List.cons_prefix_cons.1 hbefore
      rw [hs] at h
      obtain rfl := Option.some.inj h
      exact houtside _ u hinside (fun heq ↦ hne (heq ▸ rfl)) h'

theorem not_isOutermost_nil : ¬ IsOutermost [] path s := by
  rintro ⟨hstands, -, -⟩
  cases hstands with
  | here h => cases h
  | inside h _ => cases h

/-- A path through the first statement ends at it or goes on inside it, and then it is no function. -/
theorem isOutermost_zero_iff {rest : List Statement} :
    IsOutermost (s :: rest) (0 :: path) t ↔
      (path = [] ∧ t = s ∧ isFunction s = true) ∨
        (path ≠ [] ∧ isFunction s = false ∧ IsOutermost s.inner path t) := by
  by_cases hpath : path = []
  · subst hpath
    simp only [isOutermost_singleton_iff, List.getElem?_cons_zero, Option.some.injEq, true_and, ne_eq,
      not_true, false_and, or_false]
    constructor
    · rintro ⟨rfl, hfunction⟩
      exact ⟨rfl, hfunction⟩
    · rintro ⟨rfl, hfunction⟩
      exact ⟨rfl, hfunction⟩
  · simp [isOutermost_cons_iff hpath, hpath]

/-- Whether a function in the first statement is outermost is told by that statement alone. -/
theorem isOutermost_zero_iff_singleton {rest : List Statement} :
    IsOutermost (s :: rest) (0 :: path) t ↔ IsOutermost [s] (0 :: path) t := by
  rw [isOutermost_zero_iff, isOutermost_zero_iff]

/-- A path past the first statement is one among the others. -/
theorem isOutermost_succ_iff {rest : List Statement} :
    IsOutermost (s :: rest) ((i + 1) :: path) t ↔ IsOutermost rest (i :: path) t := by
  by_cases hpath : path = []
  · subst hpath
    simp only [isOutermost_singleton_iff, List.getElem?_cons_succ]
  · simp only [isOutermost_cons_iff hpath, List.getElem?_cons_succ]

end Path

/-! ## The list of them -/

mutual

/-- The outermost functions of the statement with number `i`, with their paths. -/
def outermostIn (i : Nat) : Statement → List (List Nat × Statement)
  | .line .. => []
  | .function start head indented body => [([i], .function start head indented body)]
  | .compound _ inner => (outermostFrom 0 inner).map fun f ↦ (i :: f.1, f.2)

/-- Those of statements that are numbered from `i` on. -/
def outermostFrom : Nat → List Statement → List (List Nat × Statement)
  | _, [] => []
  | i, s :: rest => outermostIn i s ++ outermostFrom (i + 1) rest

end

mutual

/-- By induction on the statement, together with the lists of statements inside it. -/
theorem mem_outermostIn_iff (i : Nat) (s : Statement) (path : List Nat) (t : Statement) :
    (path, t) ∈ outermostIn i s ↔
      ∃ rest, path = i :: rest ∧ IsOutermost [s] (0 :: rest) t := by
  match s with
  | .line start parts =>
    simp [outermostIn, isOutermost_zero_iff, isFunction, Statement.inner, not_isOutermost_nil]
  | .function start head indented body =>
    simp [outermostIn, isOutermost_zero_iff, isFunction]
  | .compound start inner =>
    have hinner := mem_outermostFrom_iff 0 inner
    simp only [outermostIn, List.mem_map, Prod.exists, Prod.mk.injEq, hinner, Nat.zero_add,
      isOutermost_zero_iff, isFunction, Statement.inner, true_and, Bool.false_eq_true, and_false,
      false_or]
    constructor
    · rintro ⟨_, _, ⟨j, rest, rfl, h⟩, rfl, rfl⟩
      exact ⟨j :: rest, rfl, by simp, h⟩
    · rintro ⟨rest, rfl, hrest, h⟩
      obtain ⟨j, rest, rfl⟩ := List.exists_cons_of_ne_nil hrest
      exact ⟨j :: rest, t, ⟨j, rest, rfl, h⟩, rfl, rfl⟩

theorem mem_outermostFrom_iff (i : Nat) (statements : List Statement) (path : List Nat)
    (t : Statement) :
    (path, t) ∈ outermostFrom i statements ↔
      ∃ j rest, path = (i + j) :: rest ∧ IsOutermost statements (j :: rest) t := by
  match statements with
  | [] => simp [outermostFrom, not_isOutermost_nil]
  | s :: others =>
    have hfirst := mem_outermostIn_iff i s path t
    have hothers := mem_outermostFrom_iff (i + 1) others path t
    rw [outermostFrom, List.mem_append, hfirst, hothers]
    constructor
    · rintro (⟨rest, rfl, h⟩ | ⟨j, rest, rfl, h⟩)
      · exact ⟨0, rest, rfl, isOutermost_zero_iff_singleton.2 h⟩
      · exact ⟨j + 1, rest, by rw [Nat.add_assoc, Nat.add_comm 1 j], isOutermost_succ_iff.2 h⟩
    · rintro ⟨j, rest, rfl, h⟩
      cases j with
      | zero => exact .inl ⟨rest, rfl, isOutermost_zero_iff_singleton.1 h⟩
      | succ j =>
        exact .inr ⟨j, rest, by rw [Nat.add_assoc, Nat.add_comm 1 j], isOutermost_succ_iff.1 h⟩

end

mutual

theorem pairwise_outermostIn (i : Nat) (s : Statement) :
    (outermostIn i s).Pairwise fun f g ↦ f.1 < g.1 := by
  match s with
  | .line .. => exact .nil
  | .function .. => exact List.pairwise_singleton _ _
  | .compound _ inner =>
    refine List.pairwise_map.2 ((pairwise_outermostFrom 0 inner).imp fun {f g} h ↦ ?_)
    exact List.cons_lt_cons_iff.2 (.inr ⟨rfl, h⟩)

/-- Outermost functions are listed in the order of the text, which is the order of their paths. -/
theorem pairwise_outermostFrom (i : Nat) (statements : List Statement) :
    (outermostFrom i statements).Pairwise fun f g ↦ f.1 < g.1 := by
  match statements with
  | [] => exact .nil
  | s :: rest =>
    refine List.pairwise_append.2 ⟨pairwise_outermostIn i s, pairwise_outermostFrom (i + 1) rest, ?_⟩
    rintro ⟨path, t⟩ hfirst ⟨path', t'⟩ hlater
    obtain ⟨_, rfl, -⟩ := (mem_outermostIn_iff ..).1 hfirst
    obtain ⟨j, _, rfl, -⟩ := (mem_outermostFrom_iff ..).1 hlater
    exact List.cons_lt_cons_iff.2 (.inl (by omega))

end

mutual

theorem macros_eq_flatMap (i : Nat) (s : Statement) :
    macros s = (outermostIn i s).flatMap fun f ↦ macros f.2 := by
  match s with
  | .line .. => rfl
  | .function .. => simp [macros, outermostIn]
  | .compound _ inner =>
    rw [macros, outermostIn, List.flatMap_map, macrosOf_eq_flatMap_outermostFrom 0 inner]

/-- The check descends as the listing does: it finds nothing that the outermost functions do not tell. -/
theorem macrosOf_eq_flatMap_outermostFrom (i : Nat) (statements : List Statement) :
    macrosOf statements = (outermostFrom i statements).flatMap fun f ↦ macros f.2 := by
  match statements with
  | [] => rfl
  | s :: rest =>
    rw [macrosOf, outermostFrom, List.flatMap_append, ← macros_eq_flatMap i s,
      ← macrosOf_eq_flatMap_outermostFrom (i + 1) rest]

end

end Check

end StarlarkMacro
