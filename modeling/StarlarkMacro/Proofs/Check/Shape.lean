import StarlarkMacro.Check.Shape

/-!
# The shapes as trees

Each shape is the shape of the statements of one tree. What the tree leaves open is what a shape leaves
open: how the arguments are marked, as long as none is passed under a name, and the arguments of a command
behind the context.
-/

namespace StarlarkMacro.Check

open Source

/-- A method of the context is called with the context and the arguments behind it, none of them under a
name. -/
inductive CallsContext (method : List Char) (arguments : List (ArgumentMark × Expression)) :
    Expression → Prop
  | intro (mark : ArgumentMark)
    (positional : ∀ a ∈ (mark, Expression.name contextName) :: arguments, ∀ name,
      a.1 ≠ .keyword name) :
    CallsContext method arguments
      (.call (.attribute (.name contextName) method) ((mark, .name contextName) :: arguments))

/-- `ctx = ctx.push_directory(ctx, <literal>)` -/
inductive PushesDirectory (literal : List Char) : Statement → Prop
  | intro (start : Nat) (mark : ArgumentMark) {value : Expression}
    (call : CallsContext "push_directory".toList [(mark, .string literal)] value) :
    PushesDirectory literal (.line start [.assign [.name contextName] value])

/-- `ctx = ctx.pop_directory(ctx)` -/
inductive PopsDirectory : Statement → Prop
  | intro (start : Nat) {value : Expression}
    (call : CallsContext "pop_directory".toList [] value) :
    PopsDirectory (.line start [.assign [.name contextName] value])

/-- `ctx.<method>(ctx, ...)` -/
inductive CallsCommand (method : List Char) : Statement → Prop
  | intro (start : Nat) (arguments : List (ArgumentMark × Expression)) {value : Expression}
    (call : CallsContext method arguments value) :
    CallsCommand method (.line start [.expression value])

/-- `return ctx` -/
inductive ReturnsContext : Statement → Prop
  | intro (start : Nat) : ReturnsContext (.line start [.ret (some (.name contextName))])

namespace Shape

theorem isContext_iff {e : Expression} : isContext e = true ↔ e = .name contextName := by
  cases e <;> simp [isContext]

/-- A star does not keep an argument from being positional, only a name does. -/
theorem isPositional_iff {a : ArgumentMark × Expression} :
    isPositional a = true ↔ ∀ name, a.1 ≠ .keyword name := by
  obtain ⟨mark, e⟩ := a
  cases mark <;> simp [isPositional]

/-- The mark of the context itself is left open, and so is all that follows it but for names. -/
theorem contextCall?_eq_some_iff {e : Expression} {method : List Char}
    {arguments : List (ArgumentMark × Expression)} :
    contextCall? e = some (method, arguments) ↔ CallsContext method arguments e := by
  constructor
  · intro h
    unfold contextCall? at h
    split at h
    · rename_i object method' first rest
      obtain ⟨mark, value⟩ := first
      split at h
      · rename_i hcontext
        simp only [Bool.and_eq_true, isContext_iff, List.all_eq_true, isPositional_iff] at hcontext
        obtain ⟨⟨rfl, rfl⟩, hpositional⟩ := hcontext
        cases h
        exact .intro mark hpositional
      · cases h
    · cases h
  · rintro ⟨mark, hpositional⟩
    have hall : ((mark, .name contextName) :: arguments).all isPositional = true :=
      List.all_eq_true.2 fun a ha ↦ isPositional_iff.2 (hpositional a ha)
    rw [contextCall?, hall]
    rfl

/-- The trees of a shape; what has no other shape is anything. -/
def Describes : Shape → Statement → Prop
  | returnContext, s => ReturnsContext s
  | push literal, s => PushesDirectory literal s
  | pop, s => PopsDirectory s
  | command method, s => CallsCommand method s
  | other, _ => True

theorem describes_ofTransition (start : Nat) (value : Expression) :
    (ofTransition value).Describes (.line start [.assign [.name contextName] value]) := by
  unfold ofTransition
  split
  · rename_i method mark literal hcall
    split
    · rename_i hmethod
      exact .intro start mark (contextCall?_eq_some_iff.1 (hmethod ▸ hcall))
    · trivial
  · rename_i method hcall
    split
    · rename_i hmethod
      exact .intro start (contextCall?_eq_some_iff.1 (hmethod ▸ hcall))
    · trivial
  · trivial

/-- One direction of the four equivalences below; the other one evaluates the shape of the tree. -/
theorem describes_of_ofStatement? {s : Statement} {shape : Shape}
    (h : ofStatement? s = some shape) : shape.Describes s := by
  unfold ofStatement? at h
  split at h
  · rename_i start part
    cases h
    unfold ofSmallStatement
    split
    · rename_i e
      split
      · rename_i hcontext
        rw [isContext_iff.1 hcontext]
        exact .intro start
      · trivial
    · rename_i target value
      split
      · rename_i hcontext
        rw [isContext_iff.1 hcontext]
        exact describes_ofTransition start value
      · trivial
    · rename_i e
      split
      · rename_i method arguments hcall
        exact .intro start arguments (contextCall?_eq_some_iff.1 hcall)
      · trivial
    · trivial
  · cases h

section Iff

variable {s : Statement}

theorem ofStatement?_eq_returnContext_iff :
    ofStatement? s = some returnContext ↔ ReturnsContext s := by
  constructor
  · exact describes_of_ofStatement?
  · rintro ⟨start⟩
    rfl

/-- The literal of a push is the token as it stands, whether or not it can be decoded. -/
theorem ofStatement?_eq_push_iff {literal : List Char} :
    ofStatement? s = some (push literal) ↔ PushesDirectory literal s := by
  constructor
  · exact describes_of_ofStatement?
  · rintro ⟨start, mark, hcall⟩
    have htransition := contextCall?_eq_some_iff.2 hcall
    simp [ofStatement?, ofSmallStatement, isContext, ofTransition, htransition]

theorem ofStatement?_eq_pop_iff : ofStatement? s = some pop ↔ PopsDirectory s := by
  constructor
  · exact describes_of_ofStatement?
  · rintro ⟨start, hcall⟩
    have htransition := contextCall?_eq_some_iff.2 hcall
    simp [ofStatement?, ofSmallStatement, isContext, ofTransition, htransition]

theorem ofStatement?_eq_command_iff {method : List Char} :
    ofStatement? s = some (command method) ↔ CallsCommand method s := by
  constructor
  · exact describes_of_ofStatement?
  · rintro ⟨start, arguments, hcall⟩
    have hcommand := contextCall?_eq_some_iff.2 hcall
    simp [ofStatement?, ofSmallStatement, hcommand]

end Iff

end Shape

/-! ## Counting transitions -/

/-- A line that opens a directory, whether or not its path can be read. -/
def OpensDirectory (s : Statement) : Prop := ∃ literal, PushesDirectory literal s

instance : DecidablePred OpensDirectory := fun s ↦
  decidable_of_iff ((Shape.ofStatement? s).any fun | .push _ => true | _ => false) <| by
    simp only [OpensDirectory, ← Shape.ofStatement?_eq_push_iff, Option.any_eq_true]
    constructor
    · rintro ⟨shape, hshape, h⟩
      cases shape with
      | push literal => exact ⟨literal, hshape⟩
      | _ => cases h
    · rintro ⟨literal, hshape⟩
      exact ⟨_, hshape, rfl⟩

instance : DecidablePred PopsDirectory := fun _ ↦
  decidable_of_iff _ Shape.ofStatement?_eq_pop_iff

def pushes (lines : List Statement) : Nat := lines.countP (OpensDirectory ·)

def pops (lines : List Statement) : Nat := lines.countP (PopsDirectory ·)

end StarlarkMacro.Check
