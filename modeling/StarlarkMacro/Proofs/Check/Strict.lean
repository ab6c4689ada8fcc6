import StarlarkMacro.Proofs.Check.Macro
import Mathlib.Data.List.Basic

/-!
# What the check does not look at

In the form that macros are written in, a macro is a plain function without type parameters and without a
result type, every argument of a call stands in its place, and every path is a text. The check asks for
less: it passes over each of these five points. An accepted macro has the form exactly if it takes none of
the liberties.
-/

namespace StarlarkMacro

open Source

namespace Check

/-- `ctx.<method>(ctx, ...)` with every argument in its place. -/
inductive CallsStrictly (method : List Char) (arguments : List (ArgumentMark × Expression)) :
    Expression → Prop
  | intro (plain : ∀ a ∈ arguments, a.1 = .plain) :
    CallsStrictly method arguments
      (.call (.attribute (.name contextName) method) ((.plain, .name contextName) :: arguments))

/-- A line in front of the final return, as it is written. -/
inductive IsStrictLine : Statement → Prop
  | push (start : Nat) {literal : List Char} {value : Expression}
    (call : CallsStrictly "push_directory".toList [(.plain, .string literal)] value)
    (isText : (StringLiteral.parts literal).isBytes = false) :
    IsStrictLine (.line start [.assign [.name contextName] value])
  | pop (start : Nat) {value : Expression} (call : CallsStrictly "pop_directory".toList [] value) :
    IsStrictLine (.line start [.assign [.name contextName] value])
  | command (start : Nat) {method : List Char} {arguments : List (ArgumentMark × Expression)}
    {value : Expression} (call : CallsStrictly method arguments value) :
    IsStrictLine (.line start [.expression value])

/-- A macro as it is written. -/
inductive IsStrictMacro : Statement → Prop
  | intro (start : Nat) {head : FunctionHead} {inner : List Statement} {last : Statement}
    (synchronous : head.isAsync = false)
    (decorators : head.decorators = 0)
    (typeParameters : head.hasTypeParameters = false)
    (parameters : head.parameters = ⟨[], [⟨contextName, false, false⟩], .absent, [], none⟩)
    (returns : head.hasReturns = false)
    (lines : ∀ s ∈ inner, IsStrictLine s)
    (final : ReturnsContext last) :
    IsStrictMacro (.function start head true (inner ++ [last]))

/-! ## Liberties -/

inductive Liberty where
  | async | typeParameters | returns
  /-- An argument is unpacked by one of the stars. -/
  | starred
  /-- The path of a push is a byte string. -/
  | bytes
  deriving DecidableEq, Repr

def argumentsOf : Expression → List (ArgumentMark × Expression)
  | .call _ arguments => arguments
  | _ => []

/-- The arguments of the call that a line makes. -/
def calledWith : Statement → List (ArgumentMark × Expression)
  | .line _ [.assign _ value] => argumentsOf value
  | .line _ [.expression value] => argumentsOf value
  | _ => []

def pushesBytes (s : Statement) : Bool :=
  match Shape.ofStatement? s with
  | some (.push literal) => (StringLiteral.parts literal).isBytes
  | _ => false

def lineLiberties (s : Statement) : List Liberty :=
  (if (calledWith s).all (fun a ↦ a.1 = .plain) then [] else [.starred]) ++
  if pushesBytes s then [.bytes] else []

def headLiberties (head : FunctionHead) : List Liberty :=
  (if head.isAsync then [.async] else []) ++
  (if head.hasTypeParameters then [.typeParameters] else []) ++
  if head.hasReturns then [.returns] else []

/-- The liberties that a macro takes, in the order of the text. -/
def liberties : Statement → List Liberty
  | .function _ head _ body => headLiberties head ++ body.flatMap lineLiberties
  | _ => []

theorem headLiberties_eq_nil_iff {head : FunctionHead} :
    headLiberties head = [] ↔
      head.isAsync = false ∧ head.hasTypeParameters = false ∧ head.hasReturns = false := by
  simp [headLiberties]

theorem lineLiberties_eq_nil_iff {s : Statement} :
    lineLiberties s = [] ↔ (∀ a ∈ calledWith s, a.1 = .plain) ∧ pushesBytes s = false := by
  simp [lineLiberties]

section Call

variable {method : List Char} {arguments : List (ArgumentMark × Expression)} {value : Expression}

/-- A strict call is a call, with every mark plain. -/
theorem CallsStrictly.callsContext (h : CallsStrictly method arguments value) :
    CallsContext method arguments value := by
  obtain ⟨hplain⟩ := h
  refine .intro .plain (List.forall_mem_cons.2 ⟨fun name ↦ by simp, fun a ha name ↦ ?_⟩)
  rw [hplain a ha]
  simp

theorem CallsStrictly.forall_plain (h : CallsStrictly method arguments value) :
    ∀ a ∈ argumentsOf value, a.1 = .plain := by
  obtain ⟨hplain⟩ := h
  exact List.forall_mem_cons.2 ⟨rfl, hplain⟩

/-- What the stars leave open is all that a call leaves open. -/
theorem CallsContext.callsStrictly (h : CallsContext method arguments value)
    (hplain : ∀ a ∈ argumentsOf value, a.1 = .plain) : CallsStrictly method arguments value := by
  obtain ⟨mark, -⟩ := h
  obtain ⟨rfl, hrest⟩ := List.forall_mem_cons.1 hplain
  exact .intro hrest

end Call

theorem IsStrictLine.lineLiberties_eq_nil {s : Statement} (h : IsStrictLine s) :
    lineLiberties s = [] := by
  rw [lineLiberties_eq_nil_iff]
  obtain ⟨start, hcall, htext⟩ | ⟨start, hcall⟩ | ⟨start, hcall⟩ := h
  · refine ⟨hcall.forall_plain, ?_⟩
    rw [pushesBytes, Shape.ofStatement?_eq_push_iff.2 (.intro start .plain hcall.callsContext)]
    exact htext
  · refine ⟨hcall.forall_plain, ?_⟩
    rw [pushesBytes, Shape.ofStatement?_eq_pop_iff.2 (.intro start hcall.callsContext)]
  · refine ⟨hcall.forall_plain, ?_⟩
    rw [pushesBytes, Shape.ofStatement?_eq_command_iff.2 (.intro start _ hcall.callsContext)]

/-- An inner line that takes no liberty is as it is written. -/
theorem IsInnerLine.isStrictLine {s : Statement} (h : IsInnerLine s) (hnone : lineLiberties s = []) :
    IsStrictLine s := by
  obtain ⟨hplain, hbytes⟩ := lineLiberties_eq_nil_iff.1 hnone
  cases h with
  | push hshape _ =>
    rw [pushesBytes, Shape.ofStatement?_eq_push_iff.2 hshape] at hbytes
    obtain ⟨start, mark, hcall⟩ := hshape
    have hstrict := hcall.callsStrictly hplain
    obtain ⟨hmark⟩ := id hstrict
    obtain rfl : mark = .plain := hmark _ List.mem_cons_self
    exact .push start hstrict hbytes
  | pop hshape =>
    obtain ⟨start, hcall⟩ := hshape
    exact .pop start (hcall.callsStrictly hplain)
  | command hshape =>
    obtain ⟨start, arguments, hcall⟩ := hshape
    exact .command start (hcall.callsStrictly hplain)

theorem lineLiberties_of_returnsContext {s : Statement} (h : ReturnsContext s) :
    lineLiberties s = [] := by
  obtain ⟨start⟩ := h
  rfl

/-- A strict macro takes none of the liberties. -/
theorem IsStrictMacro.liberties_eq_nil {s : Statement} (h : IsStrictMacro s) : liberties s = [] := by
  obtain ⟨start, hasync, -, htype, -, hreturns, hlines, hlast⟩ := h
  rw [liberties, headLiberties_eq_nil_iff.2 ⟨hasync, htype, hreturns⟩, List.nil_append,
    List.flatMap_eq_nil_iff]
  intro s hs
  obtain hinner | hfinal := List.mem_append.1 hs
  · exact (hlines s hinner).lineLiberties_eq_nil
  · rw [List.mem_singleton.1 hfinal]
    exact lineLiberties_of_returnsContext hlast

/-- A macro that takes no liberty is as it is written. -/
theorem IsMacro.isStrictMacro {s : Statement} (h : IsMacro s) (hnone : liberties s = []) :
    IsStrictMacro s := by
  obtain ⟨start, hdecorators, hparameters, ⟨inner, last, rfl, hinner, hlast⟩, -⟩ := h
  obtain ⟨hhead, hlines⟩ := List.append_eq_nil_iff.1 hnone
  obtain ⟨hasync, htype, hreturns⟩ := headLiberties_eq_nil_iff.1 hhead
  refine .intro start hasync hdecorators htype hparameters hreturns (fun s hs ↦ ?_) hlast
  exact (hinner s hs).isStrictLine (List.flatMap_eq_nil_iff.1 hlines s (List.mem_append_left _ hs))

theorem isStrictMacro_iff {s : Statement} (h : IsMacro s) :
    IsStrictMacro s ↔ liberties s = [] :=
  ⟨IsStrictMacro.liberties_eq_nil, h.isStrictMacro⟩

end Check

namespace Verdict

open Check

/-- Every statement of an accepted text is a macro, and it has the form in which macros are written exactly
if it takes none of the liberties that the check passes over. -/
theorem isMacro_and_isStrictMacro_iff {source : List Char} {verdict : Verdict}
    (h : ofSource source = .ok verdict) (hok : verdict.ok = true) :
    ∃ file, File.parse source = .ok file ∧ ∀ top ∈ file.statements,
      IsMacro top.statement ∧ (IsStrictMacro top.statement ↔ liberties top.statement = []) := by
  unfold ofSource at h
  cases hparse : File.parse source with
  | error unreadable =>
    rw [hparse] at h
    cases unreadable with
    | malformed =>
      cases h
      cases hok
    | flawed flaw => cases h
  | ok file =>
    rw [hparse] at h
    cases h
    have hmacros := violations_eq_nil_iff.1 (List.append_eq_nil_iff.1 (ok_checked_iff.1 hok))
    exact ⟨file, rfl, fun top htop ↦ ⟨hmacros top htop, isStrictMacro_iff (hmacros top htop)⟩⟩

/-- A macro that takes all liberties at once. -/
def freeMacro : List Char :=
  ("async def gen[T](ctx) -> int:\n    ctx = ctx.push_directory(*ctx, b\"x\")\n" ++
    "    return ctx\n").toList

theorem exists_mem_of_liberties {source : List Char} {ls : List Liberty}
    (h : (File.parse source).map (fun file ↦ file.statements.map fun top ↦ liberties top.statement) =
      .ok [ls]) {file : File} (hparse : File.parse source = .ok file) :
    ∃ top ∈ file.statements, liberties top.statement = ls := by
  rw [hparse] at h
  have hlist : (file.statements.map fun top ↦ liberties top.statement) = [ls] := Except.ok.inj h
  exact List.mem_map.1 (hlist ▸ List.mem_cons_self)

theorem isMacro_and_isStrictMacro_iff_freeMacro :
    ∃ file, File.parse freeMacro = .ok file ∧ ∃ top ∈ file.statements, IsMacro top.statement ∧
      liberties top.statement = [.async, .typeParameters, .returns, .starred, .bytes] ∧
      ¬ IsStrictMacro top.statement := by
  have haccepted : ofSource freeMacro = .ok (.checked []) := by decide +kernel
  have hliberties : (File.parse freeMacro).map
      (fun file ↦ file.statements.map fun top ↦ liberties top.statement) =
        .ok [[.async, .typeParameters, .returns, .starred, .bytes]] := by decide +kernel
  obtain ⟨file, hparse, hall⟩ := isMacro_and_isStrictMacro_iff haccepted rfl
  obtain ⟨top, htop, htaken⟩ := exists_mem_of_liberties hliberties hparse
  obtain ⟨hisMacro, hstrict⟩ := hall top htop
  refine ⟨file, hparse, top, htop, hisMacro, htaken, fun h ↦ ?_⟩
  cases (hstrict.1 h).symm.trans htaken

/-- A command is called with the context behind a star. -/
def starredMacro : List Char := "def gen(ctx):\n    ctx.foo(*ctx)\n    return ctx\n".toList

theorem exists_not_isStrictMacro_starredMacro :
    ofSource starredMacro = .ok (.checked []) ∧ ∃ file, File.parse starredMacro = .ok file ∧
      ∃ top ∈ file.statements, ¬ IsStrictMacro top.statement := by
  have hliberties : (File.parse starredMacro).map
      (fun file ↦ file.statements.map fun top ↦ liberties top.statement) = .ok [[.starred]] := by
    decide +kernel
  refine ⟨by decide +kernel, ?_⟩
  cases hparse : File.parse starredMacro with
  | error unreadable =>
    rw [hparse] at hliberties
    cases hliberties
  | ok file =>
    obtain ⟨top, htop, htaken⟩ := exists_mem_of_liberties hliberties hparse
    refine ⟨file, rfl, top, htop, fun h ↦ ?_⟩
    cases h.liberties_eq_nil.symm.trans htaken

end Verdict

end StarlarkMacro
