import StarlarkMacro.Proofs.Writer.Event

/-!
# Matching by a stack

A stack that every push extends and every pop shortens holds the pushes that no later pop matches. So these
are the same when pairs have cancelled, and when nothing is kept of the events but pushes and pops.
-/

namespace StarlarkMacro.Event

/-- The open directories behind an event, unless it closes one where none is open. -/
def stackStep (ds : List Directory) : Event → Option (List Directory)
  | push d => some (ds ++ [d])
  | pop => if ds.isEmpty then none else some ds.dropLast
  | command .. | mark => some ds

/-- The open directories behind events that happen inside some. -/
def stack? (ds : List Directory) (events : List Event) : Option (List Directory) :=
  events.foldlM stackStep ds

/-- The event opens or closes a directory. -/
def isTransition : Event → Bool
  | push _ | pop => true
  | command .. | mark => false

@[simp] theorem stack?_nil (ds : List Directory) : stack? ds [] = some ds := rfl

theorem stack?_cons (ds : List Directory) (e : Event) (events : List Event) :
    stack? ds (e :: events) = (stackStep ds e).bind (stack? · events) := List.foldlM_cons

theorem stack?_append (ds : List Directory) (events more : List Event) :
    stack? ds (events ++ more) = (stack? ds events).bind (stack? · more) := List.foldlM_append

theorem stack?_append_singleton (ds : List Directory) (events : List Event) (e : Event) :
    stack? ds (events ++ [e]) = (stack? ds events).bind (stackStep · e) := by
  rw [stack?_append]
  simp only [stack?_cons, stack?_nil, Option.bind_fun_some]

theorem stackStep_append_pop (ds : List Directory) (d : Directory) :
    stackStep (ds ++ [d]) pop = some ds := by
  simp [stackStep]

section

variable {events : List Event} {ds : List Directory}

theorem Balanced.stack?_eq (h : Balanced events) (ds : List Directory) :
    stack? ds events = some ds := by
  induction h generalizing ds with
  | nil => rfl
  | command method literals _ ih => rw [stack?_append_singleton, ih ds, Option.bind_some, stackStep]
  | mark _ ih => rw [stack?_append_singleton, ih ds, Option.bind_some, stackStep]
  | nest d _ _ ih ihInner =>
    rw [stack?_append_singleton, stack?_append, ih ds, Option.bind_some, stack?_cons, stackStep,
      Option.bind_some, ihInner, Option.bind_some, stackStep_append_pop]

theorem Unmatched.stack?_eq (h : Unmatched events ds) : stack? [] events = some ds := by
  induction h with
  | none hb => exact hb.stack?_eq []
  | push d _ hb ih =>
    rw [stack?_append, ih, Option.bind_some, stack?_cons, stackStep, Option.bind_some, hb.stack?_eq]

/-- What the stack does with one more event is what matching does. -/
theorem Unmatched.of_stackStep {later : List Directory} {e : Event} (h : Unmatched events ds)
    (hstep : stackStep ds e = some later) : Unmatched (events ++ [e]) later := by
  cases e with
  | push d =>
    cases hstep
    exact h.append_push d
  | pop =>
    cases ds using List.reverseRecOn with
    | nil => cases hstep
    | append_singleton outer d _ =>
      rw [stackStep_append_pop] at hstep
      cases hstep
      exact h.append_pop
  | command method literals =>
    cases hstep
    exact h.append_command method literals
  | mark =>
    cases hstep
    exact h.append_mark

/-- The stack holds the pushes that no later pop matches. -/
theorem unmatched_iff : Unmatched events ds ↔ stack? [] events = some ds := by
  refine ⟨Unmatched.stack?_eq, fun h ↦ ?_⟩
  induction events using List.reverseRecOn generalizing ds with
  | nil =>
    cases h
    exact .none .nil
  | append_singleton events e ih =>
    rw [stack?_append_singleton] at h
    obtain ⟨before, hbefore, hstep⟩ := Option.bind_eq_some_iff.1 h
    exact (ih hbefore).of_stackStep hstep

/-- A pair that cancels leaves the stack as it was. -/
theorem stack?_of_cancels {left : List Event} (h : Relation.ReflTransGen Cancels events left)
    (ds : List Directory) : stack? ds left = stack? ds events := by
  induction h with
  | refl => rfl
  | tail _ hstep ih =>
    obtain ⟨before, d, after⟩ := hstep
    rw [← ih, stack?_append, stack?_append]
    congr 1
    funext inner
    rw [stack?_cons, stackStep, Option.bind_some, stack?_cons, stackStep_append_pop, Option.bind_some]

theorem stackStep_of_not_isTransition {e : Event} (h : e.isTransition = false) (ds : List Directory) :
    stackStep ds e = some ds := by
  cases e with
  | push d => cases h
  | pop => cases h
  | command method literals => rfl
  | mark => rfl

/-- Only pushes and pops move the stack. -/
theorem stack?_filter_isTransition (ds : List Directory) (events : List Event) :
    stack? ds (events.filter isTransition) = stack? ds events := by
  induction events generalizing ds with
  | nil => rfl
  | cons e events ih =>
    cases h : e.isTransition with
    | true =>
      rw [List.filter_cons_of_pos h, stack?_cons, stack?_cons]
      congr 1
      funext inner
      exact ih inner
    | false =>
      rw [List.filter_cons_of_neg (Bool.not_eq_true _ ▸ h), stack?_cons, stackStep_of_not_isTransition h,
        Option.bind_some, ih]

/-- The pushes and pops of the normal form have the unmatched pushes of the events. -/
theorem Unmatched.filter_reduce (h : Unmatched events ds) :
    Unmatched ((reduce events).filter isTransition) ds := by
  apply unmatched_iff.2
  calc
    stack? [] ((reduce events).filter isTransition) = stack? [] (reduce events) :=
      stack?_filter_isTransition [] (reduce events)
    _ = stack? [] events := stack?_of_cancels (cancels_reduce events) []
    _ = some ds := unmatched_iff.1 h

end

end StarlarkMacro.Event
