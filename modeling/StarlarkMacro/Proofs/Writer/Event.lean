import StarlarkMacro.Proofs.Writer.Operation
import Mathlib.Data.List.Induction
import Mathlib.Logic.Relation

/-!
# Events of a macro and their normal form

What happens inside a macro is a list of events: directories opened and closed, commands, and commands that
failed after their name was accepted, which leave a mark. A push directly in front of a pop cancels with it.
Cancelling ends in exactly one list in which nothing cancels, in whatever order it is done; a fold over the
events computes it. Which push a pop matches is said by balanced lists, without reference to a stack.
-/

namespace StarlarkMacro

inductive Event where
  | push (d : Directory)
  | pop
  | command (method : List Char) (literals : List (List Char))
  /-- A command with a good name and an argument without a literal. -/
  | mark
  deriving DecidableEq

namespace Event

open Writer

/-- The line of an event, if it has one. -/
def line? : Event → Option (List Char)
  | push d => some d.line
  | pop => some (statementLine popStatement)
  | command method literals => some (statementLine (callStatement method literals))
  | mark => none

/-- The lines of events in order; a mark has none. -/
def lines (events : List Event) : List (List Char) := events.filterMap line?

/-- One adjacent pair is deleted. -/
inductive Cancels : List Event → List Event → Prop where
  | pair (before : List Event) (d : Directory) (after : List Event) :
      Cancels (before ++ push d :: pop :: after) (before ++ after)

def Irreducible (events : List Event) : Prop := ∀ fewer, ¬ Cancels events fewer

/-- What is left when pairs are deleted until there is none. -/
structure NormalForm (events left : List Event) : Prop where
  cancels : Relation.ReflTransGen Cancels events left
  irreducible : Irreducible left

/-! ## The normal form as a fold -/

def isPush : Event → Bool
  | push _ => true
  | _ => false

/-- An event behind events in normal form. -/
def reduceStep (events : List Event) : Event → List Event
  | pop => if (events.getLast?.map isPush).getD false then events.dropLast else events ++ [pop]
  | e => events ++ [e]

def reduce (events : List Event) : List Event := events.foldl reduceStep []

@[simp] theorem reduce_nil : reduce [] = [] := rfl

theorem lines_append (events more : List Event) :
    lines (events ++ more) = lines events ++ lines more := by
  simp [lines]

@[simp] theorem lines_singleton (e : Event) : lines [e] = e.line?.toList := by
  cases h : e.line? <;> simp [lines, h]

theorem lines_map_push (ds : List Directory) : lines (ds.map push) = ds.map Directory.line := by
  induction ds with
  | nil => rfl
  | cons d ds ih => simp_all [lines, line?]

/-- Events are reduced from the left, so one more event is one more step. -/
@[simp] theorem reduce_append_singleton (events : List Event) (e : Event) :
    reduce (events ++ [e]) = reduceStep (reduce events) e := by
  simp [reduce]

@[simp] theorem reduceStep_push (events : List Event) (d : Directory) :
    reduceStep events (push d) = events ++ [push d] := rfl

@[simp] theorem reduceStep_command (events : List Event) (method : List Char)
    (literals : List (List Char)) :
    reduceStep events (command method literals) = events ++ [command method literals] := rfl

@[simp] theorem reduceStep_mark (events : List Event) :
    reduceStep events mark = events ++ [mark] := rfl

theorem reduceStep_push_pop (events : List Event) (d : Directory) :
    reduceStep (events ++ [push d]) pop = events := by
  simp [reduceStep, isPush]

/-- A pop behind anything but a push stays, and so does what stands before it. -/
theorem reduceStep_pop_of_not_push {events : List Event}
    (h : ∀ e, events.getLast? = some e → isPush e = false) :
    reduceStep events pop = events ++ [pop] := by
  unfold reduceStep
  cases hlast : events.getLast? with
  | none => rfl
  | some e => simp [h e hlast]

/-- Events that end in a push, and all others. -/
theorem eq_append_push_or (events : List Event) :
    (∃ before d, events = before ++ [push d]) ∨
      ∀ e, events.getLast? = some e → isPush e = false := by
  induction events using List.reverseRecOn with
  | nil => exact .inr (by simp)
  | append_singleton before e _ =>
    cases e with
    | push d => exact .inl ⟨before, d, rfl⟩
    | _ => exact .inr (by simp [isPush])

/-- A push and the pop right behind it may be left out before reducing. -/
theorem reduce_cancel (before after : List Event) (d : Directory) :
    reduce (before ++ push d :: pop :: after) = reduce (before ++ after) := by
  simp only [reduce, List.foldl_append, List.foldl_cons, reduceStep_push, reduceStep_push_pop]

/-- Whatever pairs are left out, and in whatever order, the reduced list is the same. This is what makes the
normal form unique. -/
theorem reduce_eq_of_cancels {events left : List Event}
    (h : Relation.ReflTransGen Cancels events left) : reduce events = reduce left := by
  induction h with
  | refl => rfl
  | tail _ hstep ih =>
    obtain ⟨before, d, after⟩ := hstep
    rw [ih, reduce_cancel]

theorem Cancels.append {events fewer : List Event} (h : Cancels events fewer)
    (more : List Event) : Cancels (events ++ more) (fewer ++ more) := by
  obtain ⟨before, d, after⟩ := h
  simpa using Cancels.pair before d (after ++ more)

theorem cancels_reduceStep (events : List Event) (e : Event) :
    Relation.ReflTransGen Cancels (events ++ [e]) (reduceStep events e) := by
  cases e with
  | pop =>
    obtain ⟨before, d, rfl⟩ | hlast := eq_append_push_or events
    · rw [reduceStep_push_pop]
      simpa using Relation.ReflTransGen.single (Cancels.pair before d [])
    · rw [reduceStep_pop_of_not_push hlast]
  | _ => exact .refl

/-- The reduced list is reached by leaving out one pair after the other. -/
theorem cancels_reduce (events : List Event) :
    Relation.ReflTransGen Cancels events (reduce events) := by
  induction events using List.reverseRecOn with
  | nil => exact .refl
  | append_singleton events e ih =>
    rw [reduce_append_singleton]
    have hlift : Relation.ReflTransGen Cancels (events ++ [e]) (reduce events ++ [e]) :=
      ih.lift (· ++ [e]) fun _ _ hstep ↦ hstep.append [e]
    exact hlift.trans (cancels_reduceStep _ e)

theorem Cancels.exists_eq {events fewer : List Event} (h : Cancels events fewer) :
    ∃ before d after, events = before ++ push d :: pop :: after := by
  obtain ⟨before, d, after⟩ := h
  exact ⟨before, d, after, rfl⟩

theorem irreducible_nil : Irreducible [] := by
  intro fewer hstep
  obtain ⟨before, d, after, heq⟩ := hstep.exists_eq
  simp at heq

/-- Only a pop can make a new pair, and only with a push right before it. -/
theorem irreducible_append_singleton {events : List Event} {e : Event} (h : Irreducible events)
    (hpair : e = pop → ∀ e', events.getLast? = some e' → isPush e' = false) :
    Irreducible (events ++ [e]) := by
  intro fewer hstep
  obtain ⟨before, d, after, heq⟩ := hstep.exists_eq
  induction after using List.reverseRecOn with
  | nil =>
    obtain ⟨rfl, rfl⟩ : events = before ++ [push d] ∧ e = pop := by
      have hends : events ++ [e] = (before ++ [push d]) ++ [pop] := by simpa using heq
      simpa using List.append_inj' hends rfl
    simpa [isPush] using hpair rfl (push d) (by simp)
  | append_singleton after e' _ =>
    obtain ⟨rfl, -⟩ : events = before ++ push d :: pop :: after ∧ e = e' := by
      have hends : events ++ [e] = (before ++ push d :: pop :: after) ++ [e'] := by simpa using heq
      simpa using List.append_inj' hends rfl
    exact h _ (.pair before d after)

/-- Nothing cancels in a beginning of an irreducible list. -/
theorem Irreducible.of_append {events more : List Event} (h : Irreducible (events ++ more)) :
    Irreducible events :=
  fun fewer hstep ↦ h (fewer ++ more) (hstep.append more)

/-- By induction from the right: a pop takes the last push away or stands behind something else. -/
theorem irreducible_reduce (events : List Event) : Irreducible (reduce events) := by
  induction events using List.reverseRecOn with
  | nil => exact irreducible_nil
  | append_singleton events e ih =>
    rw [reduce_append_singleton]
    cases e with
    | pop =>
      obtain ⟨before, d, hpush⟩ | hlast := eq_append_push_or (reduce events)
      · rw [hpush] at ih ⊢
        rw [reduceStep_push_pop]
        exact ih.of_append
      · rw [reduceStep_pop_of_not_push hlast]
        exact irreducible_append_singleton ih fun _ ↦ hlast
    | _ => exact irreducible_append_singleton ih (by simp)

theorem reduce_of_irreducible {events : List Event} (h : Irreducible events) :
    reduce events = events := by
  rcases (cancels_reduce events).cases_head with heq | ⟨fewer, hstep, _⟩
  · exact heq.symm
  · exact absurd hstep (h fewer)

/-- Deleting pairs until there is none has one result, which the fold computes. -/
theorem normalForm_iff {events left : List Event} :
    NormalForm events left ↔ left = reduce events := by
  constructor
  · rintro ⟨hcancels, hirreducible⟩
    rw [reduce_eq_of_cancels hcancels, reduce_of_irreducible hirreducible]
  · rintro rfl
    exact ⟨cancels_reduce events, irreducible_reduce events⟩

/-! ## Matching -/

/-- Events that close all they open and nothing else. -/
inductive Balanced : List Event → Prop where
  | nil : Balanced []
  | command {events : List Event} (method : List Char) (literals : List (List Char)) :
      Balanced events → Balanced (events ++ [command method literals])
  | mark {events : List Event} : Balanced events → Balanced (events ++ [mark])
  | nest {events inner : List Event} (d : Directory) :
      Balanced events → Balanced inner → Balanced (events ++ push d :: inner ++ [pop])

/-- The pushes that no later pop matches, outermost first. -/
inductive Unmatched : List Event → List Directory → Prop where
  | none {events : List Event} : Balanced events → Unmatched events []
  | push {events inner : List Event} {ds : List Directory} (d : Directory) :
      Unmatched events ds → Balanced inner → Unmatched (events ++ push d :: inner) (ds ++ [d])

namespace Unmatched

variable {events : List Event} {ds : List Directory}

theorem append_push (h : Unmatched events ds) (d : Directory) :
    Unmatched (events ++ [Event.push d]) (ds ++ [d]) := h.push d .nil

theorem append_command (h : Unmatched events ds) (method : List Char)
    (literals : List (List Char)) : Unmatched (events ++ [command method literals]) ds := by
  cases h with
  | none hb => exact .none (hb.command method literals)
  | push d h hb => simpa using h.push d (hb.command method literals)

/-- Commands and marks are balanced by themselves. -/
theorem append_mark (h : Unmatched events ds) : Unmatched (events ++ [mark]) ds := by
  cases h with
  | none hb => exact .none hb.mark
  | push d h hb => simpa using h.push d hb.mark

/-- Where the last unmatched push stands. -/
theorem exists_eq_append {d : Directory} (h : Unmatched events (ds ++ [d])) :
    ∃ before inner, events = before ++ Event.push d :: inner ∧ Unmatched before ds ∧
      Balanced inner := by
  generalize hall : ds ++ [d] = all at h
  cases h with
  | none => simp at hall
  | @push before inner ds' d' h hb =>
    obtain ⟨rfl, rfl⟩ : ds = ds' ∧ d = d' := by
      simpa using List.append_inj' hall rfl
    exact ⟨before, inner, rfl, h, hb⟩

/-- A pop closes the last of them. -/
theorem append_pop {d : Directory} (h : Unmatched events (ds ++ [d])) :
    Unmatched (events ++ [pop]) ds := by
  obtain ⟨before, inner, rfl, hbefore, hinner⟩ := h.exists_eq_append
  cases hbefore with
  | none hb => exact .none (hb.nest d hinner)
  | push d' hbefore hb => simpa using hbefore.push d' (hb.nest d hinner)

end Unmatched

end Event

end StarlarkMacro
