import StarlarkMacro.Proofs.Check.Shape
import StarlarkMacro.Verdict

/-!
# What is accepted

The form of an accepted text, said of its statements and without reference to faults, depths or places: every
statement defines a macro, and a macro is a list of inner lines and a final return in which no prefix closes
more directories than it opens. A text is accepted exactly if it has this form.
-/

namespace StarlarkMacro

open Source

namespace Check

/-- A line that may stand in front of the final return. -/
inductive IsInnerLine (s : Statement) : Prop
  | push {literal : List Char} {path : Text} (shape : PushesDirectory literal s)
    (value : StringLiteral.value? literal = some path)
  | pop (shape : PopsDirectory s)
  | command {method : List Char} (shape : CallsCommand method s)

/-- Inner lines and a final return. With `depth` directories open in front of it, no beginning of the body
closes a directory that is not open. -/
structure IsBody (depth : Nat) (body : List Statement) : Prop where
  lines : ∃ inner last, body = inner ++ [last] ∧ (∀ s ∈ inner, IsInnerLine s) ∧ ReturnsContext last
  nested : ∀ before, before <+: body → pops before ≤ depth + pushes before

/-- A function without decorators whose only parameter is the context, without a default and an annotation,
and whose body is indented. -/
inductive IsMacro : Statement → Prop
  | intro (start : Nat) {head : FunctionHead} {body : List Statement}
    (decorators : head.decorators = 0)
    (parameters : head.parameters = ⟨[], [⟨contextName, false, false⟩], .absent, [], none⟩)
    (isBody : IsBody 0 body) : IsMacro (.function start head true body)

/-! ## Lines -/

section Line

variable {depth : Nat} {s : Statement}

theorem opensDirectory_iff :
    OpensDirectory s ↔ ∃ literal, Shape.ofStatement? s = some (.push literal) := by
  simp only [OpensDirectory, Shape.ofStatement?_eq_push_iff]

/-- What a line counts as, by its shape. -/
theorem pushes_singleton :
    pushes [s] = match Shape.ofStatement? s with
      | some (.push _) => 1
      | _ => 0 := by
  rw [pushes, List.countP_singleton]
  cases hshape : Shape.ofStatement? s with
  | none => simp [opensDirectory_iff, hshape]
  | some shape => cases shape <;> simp [opensDirectory_iff, hshape]

theorem pops_singleton :
    pops [s] = match Shape.ofStatement? s with
      | some .pop => 1
      | _ => 0 := by
  rw [pops, List.countP_singleton]
  cases hshape : Shape.ofStatement? s with
  | none => simp [← Shape.ofStatement?_eq_pop_iff, hshape]
  | some shape => cases shape <;> simp [← Shape.ofStatement?_eq_pop_iff, hshape]

/-- A line that may stand inside, by its shape. -/
theorem isInnerLine_iff : IsInnerLine s ↔
    (∃ literal path, Shape.ofStatement? s = some (.push literal) ∧
      StringLiteral.value? literal = some path) ∨
    Shape.ofStatement? s = some .pop ∨ ∃ method, Shape.ofStatement? s = some (.command method) := by
  simp only [Shape.ofStatement?_eq_push_iff, Shape.ofStatement?_eq_pop_iff,
    Shape.ofStatement?_eq_command_iff]
  constructor
  · rintro (⟨hshape, hvalue⟩ | hshape | hshape)
    · exact .inl ⟨_, _, hshape, hvalue⟩
    · exact .inr (.inl hshape)
    · exact .inr (.inr ⟨_, hshape⟩)
  · rintro (⟨literal, path, hshape, hvalue⟩ | hshape | ⟨method, hshape⟩)
    · exact .push hshape hvalue
    · exact .pop hshape
    · exact .command hshape

/-- The depth behind a line, which a pop of nothing leaves at zero. -/
theorem snd_lineFindings (isLast : Bool) :
    (lineFindings depth isLast s).2 = depth + pushes [s] - pops [s] := by
  rw [pushes_singleton, pops_singleton, lineFindings]
  cases Shape.ofStatement? s with
  | none => rfl
  | some shape =>
    cases shape with
    | push literal => cases hvalue : StringLiteral.value? literal <;> simp [hvalue]
    | pop => by_cases hdepth : depth = 0 <;> simp [hdepth]
    | _ => rfl

/-- A line in front of another one has no fault exactly if it is an inner line and, as a pop, has a directory
to close. -/
theorem faults_lineFindings_eq_nil_iff :
    (lineFindings depth false s).1.faults = [] ↔
      IsInnerLine s ∧ pops [s] ≤ depth + pushes [s] := by
  rw [pushes_singleton, pops_singleton, isInnerLine_iff, lineFindings]
  cases Shape.ofStatement? s with
  | none => simp [Findings.fault]
  | some shape =>
    cases shape with
    | push literal =>
      cases hvalue : StringLiteral.value? literal <;> simp [Findings.fault, hvalue]
    | pop =>
      by_cases hdepth : depth = 0
      · simp [Findings.fault, hdepth]
      · simp [Findings.none, hdepth, Nat.one_le_iff_ne_zero]
    | _ => simp [Findings.fault]

end Line

/-! ## Bodies -/

section Body

variable {depth : Nat} {s : Statement} {rest : List Statement}

theorem pushes_cons : pushes (s :: rest) = pushes [s] + pushes rest := by
  rw [pushes, List.countP_cons, Nat.add_comm, pushes, pushes, List.countP_singleton]

theorem pops_cons : pops (s :: rest) = pops [s] + pops rest := by
  rw [pops, List.countP_cons, Nat.add_comm, pops, pops, List.countP_singleton]

/-- No beginning closes too much exactly if its first line does not, and none does from the depth behind it. -/
theorem forall_prefix_cons_iff :
    (∀ before, before <+: s :: rest → pops before ≤ depth + pushes before) ↔
      pops [s] ≤ depth + pushes [s] ∧ ∀ before, before <+: rest →
        pops before ≤ depth + pushes [s] - pops [s] + pushes before := by
  constructor
  · intro h
    refine ⟨h [s] (List.prefix_append [s] rest), fun before hbefore ↦ ?_⟩
    have hcons := h (s :: before) ((List.prefix_cons_inj s).2 hbefore)
    rw [pushes_cons, pops_cons] at hcons
    omega
  · rintro ⟨hfirst, hrest⟩ before hbefore
    cases before with
    | nil => simp [pops]
    | cons s' before =>
      obtain ⟨rfl, hprefix⟩ := List.cons_prefix_cons.1 hbefore
      have hlater := hrest before hprefix
      rw [pushes_cons, pops_cons]
      omega

theorem faults_bodyFindings_cons (isLast : rest.isEmpty = false) :
    (bodyFindings depth (s :: rest)).faults = [] ↔
      (IsInnerLine s ∧ pops [s] ≤ depth + pushes [s]) ∧
        (bodyFindings (depth + pushes [s] - pops [s]) rest).faults = [] := by
  have happend (a b : Findings) : (a ++ b).faults = a.faults ++ b.faults := rfl
  have hsnd : (lineFindings depth false s).2 = depth + pushes [s] - pops [s] :=
    snd_lineFindings false
  rw [bodyFindings, isLast]
  simp only [happend, List.append_eq_nil_iff, faults_lineFindings_eq_nil_iff, hsnd]

theorem isBody_singleton_iff : IsBody depth [s] ↔ ReturnsContext s := by
  constructor
  · rintro ⟨⟨inner, last, hbody, -, hlast⟩, -⟩
    obtain ⟨rfl, rfl⟩ : inner = [] ∧ last = s := by
      simpa [List.singleton_eq_append_iff, eq_comm] using hbody
    exact hlast
  · intro h
    have hpops : pops [s] = 0 := by
      rw [pops_singleton, Shape.ofStatement?_eq_returnContext_iff.2 h]
    refine ⟨⟨[], s, rfl, by simp, h⟩, forall_prefix_cons_iff.2 ⟨by omega, ?_⟩⟩
    intro before hbefore
    rw [List.prefix_nil.1 hbefore]
    exact Nat.zero_le _

theorem isBody_cons_iff (hrest : rest ≠ []) :
    IsBody depth (s :: rest) ↔ (IsInnerLine s ∧ pops [s] ≤ depth + pushes [s]) ∧
      IsBody (depth + pushes [s] - pops [s]) rest := by
  constructor
  · rintro ⟨⟨inner, last, hbody, hinner, hlast⟩, hnested⟩
    obtain ⟨hfirst, hlater⟩ := forall_prefix_cons_iff.1 hnested
    obtain ⟨hnil, -⟩ | ⟨inner, rfl, rfl⟩ := List.cons_eq_append_iff.1 hbody
    · simp [hnil] at hbody
      exact absurd hbody.2 hrest
    · obtain ⟨hs, hinner⟩ := List.forall_mem_cons.1 hinner
      exact ⟨⟨hs, hfirst⟩, ⟨inner, last, rfl, hinner, hlast⟩, hlater⟩
  · rintro ⟨⟨hs, hfirst⟩, ⟨inner, last, rfl, hinner, hlast⟩, hlater⟩
    exact ⟨⟨s :: inner, last, rfl, List.forall_mem_cons.2 ⟨hs, hinner⟩, hlast⟩,
      forall_prefix_cons_iff.2 ⟨hfirst, hlater⟩⟩

end Body

/-- A body has no fault and ends with a return exactly if it has the form of a body. -/
theorem faults_bodyFindings_eq_nil_iff {depth : Nat} {body : List Statement} :
    (bodyFindings depth body).faults = [] ∧ endsWithReturn body = true ↔ IsBody depth body := by
  induction body generalizing depth with
  | nil =>
    constructor
    · rintro ⟨-, h⟩
      cases h
    · rintro ⟨⟨inner, last, hbody, -⟩, -⟩
      simp at hbody
  | cons s rest ih =>
    cases rest with
    | nil =>
      have hreturn : endsWithReturn [s] = true ↔ ReturnsContext s := by
        rw [← Shape.ofStatement?_eq_returnContext_iff, endsWithReturn]
        exact decide_eq_true_iff
      rw [isBody_singleton_iff, hreturn]
      refine ⟨And.right, fun h ↦ ⟨?_, h⟩⟩
      rw [bodyFindings, lineFindings, Shape.ofStatement?_eq_returnContext_iff.2 h]
      rfl
    | cons s' rest =>
      have hends : endsWithReturn (s :: s' :: rest) = endsWithReturn (s' :: rest) := by
        simp [endsWithReturn]
      rw [faults_bodyFindings_cons rfl, isBody_cons_iff (List.cons_ne_nil s' rest), hends, and_assoc,
        ih]

/-! ## Functions -/

theorem takesOnlyContext_iff {ps : Parameters} :
    takesOnlyContext ps = true ↔
      ps = ⟨[], [⟨contextName, false, false⟩], .absent, [], none⟩ := by
  simp [takesOnlyContext]

theorem faults_functionFindings_eq_nil_iff {start : Nat} {head : FunctionHead} {indented : Bool}
    {body : List Statement} :
    (functionFindings start head indented body).faults = [] ↔
      IsMacro (.function start head indented body) := by
  have happend (a b : Findings) : (a ++ b).faults = a.faults ++ b.faults := rfl
  have hunless (p : Prop) [Decidable p] (f : Fault) :
      (if p then Findings.none else .fault start f).faults = [] ↔ p := by
    split <;> simp_all [Findings.none, Findings.fault]
  have hindented : (if indented = true then
      bodyFindings 0 body ++ if endsWithReturn body = true then .none else .fault start .missingReturn
      else Findings.fault start .notIndented).faults = [] ↔ indented = true ∧ IsBody 0 body := by
    cases indented
    · simp [Findings.fault]
    · rw [if_pos rfl, happend, List.append_eq_nil_iff, hunless, faults_bodyFindings_eq_nil_iff]
      simp
  rw [functionFindings, happend, happend, List.append_eq_nil_iff, List.append_eq_nil_iff, hunless,
    hunless, hindented, takesOnlyContext_iff]
  constructor
  · rintro ⟨⟨hdecorators, hparameters⟩, rfl, hbody⟩
    exact .intro start hdecorators hparameters hbody
  · rintro ⟨_, hdecorators, hparameters, hbody⟩
    exact ⟨⟨hdecorators, hparameters⟩, rfl, hbody⟩

theorem macrosOf_eq_flatMap (statements : List Statement) :
    macrosOf statements = statements.flatMap macros := by
  induction statements with
  | nil => rfl
  | cons s rest ih => rw [macrosOf, ih, List.flatMap_cons]

/-- A statement is a macro exactly if it is a function in which nothing is found to be wrong. -/
theorem isMacro_iff {s : Statement} :
    IsMacro s ↔ Verdict.isFunction s = true ∧ ∀ m ∈ macros s, m.2.faults = [] := by
  cases s with
  | function start head indented body =>
    simp [macros, Verdict.isFunction, faults_functionFindings_eq_nil_iff]
  | line | compound =>
    constructor
    · rintro ⟨⟩
    · rintro ⟨⟨⟩, -⟩

end Check

namespace Verdict

open Check

theorem statementViolations_eq_nil_iff {file : File} :
    statementViolations file = [] ↔ ∀ top ∈ file.statements, isFunction top.statement = true := by
  simp [statementViolations, List.filter_eq_nil_iff]

theorem macroViolations_eq_nil_iff {file : File} :
    macroViolations file = [] ↔
      ∀ top ∈ file.statements, ∀ m ∈ macros top.statement, m.2.faults = [] := by
  rw [macroViolations, macrosOf, macrosOf_eq_flatMap]
  constructor
  · intro h top htop m hm
    have hmem : m ∈ (file.statements.map TopLevel.statement).flatMap macros :=
      List.mem_flatMap.2 ⟨_, List.mem_map_of_mem htop, hm⟩
    simpa using List.flatMap_eq_nil_iff.1 h m hmem
  · intro h
    refine List.flatMap_eq_nil_iff.2 fun m hm ↦ ?_
    obtain ⟨s, hs, hm⟩ := List.mem_flatMap.1 hm
    obtain ⟨top, htop, rfl⟩ := List.mem_map.1 hs
    simp [h top htop m hm]

/-- Nothing is found to be wrong exactly if each statement is a macro. -/
theorem violations_eq_nil_iff {file : File} :
    statementViolations file = [] ∧ macroViolations file = [] ↔
      ∀ top ∈ file.statements, IsMacro top.statement := by
  rw [statementViolations_eq_nil_iff, macroViolations_eq_nil_iff]
  simp only [isMacro_iff, forall_and]

theorem ok_checked_iff {violations : List Violation} :
    (checked violations).ok = true ↔ violations = [] := by
  cases violations <;> simp [ok]

/-- A text is accepted exactly if it is well formed and each of its statements is a macro. -/
theorem ok_iff_forall_isMacro (source : List Char) :
    (∃ verdict, ofSource source = .ok verdict ∧ verdict.ok = true) ↔
      ∃ file, File.parse source = .ok file ∧ ∀ top ∈ file.statements, IsMacro top.statement := by
  unfold ofSource
  cases File.parse source with
  | error unreadable => cases unreadable <;> simp [ok]
  | ok file => simp [ok_checked_iff, violations_eq_nil_iff]

end Verdict

end StarlarkMacro
