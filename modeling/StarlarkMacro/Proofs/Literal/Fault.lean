import StarlarkMacro.Proofs.Literal.Encoding
import Mathlib.Data.List.GetD

/-!
# Where a value has no literal

A place is a list of child numbers, and the order of lists is the order in which places are met from left to
right: a container before what it holds, a key before its value. A fault is a place at which a value stands
that has no literal, or a container stands that is one of its own ancestors. All this is said without an
encoder. An encoder finds the faults if it fails at the first of them and succeeds only if there is none.
-/

namespace StarlarkMacro

namespace Value

/-- What a container holds, in order. A range holds nothing but integers, which count as part of it. -/
def children (g : Graph) (v : Value) : List Value :=
  match v.resolve g with
  | .sequence _ items => items
  | .mapping _ entries => entries.flatMap fun e ↦ [e.1, e.2]
  | _ => []

/-- The value at a place. -/
def at? (g : Graph) : List Nat → Value → Option Value
  | [], v => some v
  | i :: p, v => (v.children g)[i]?.bind (at? g p)

def isContainer : Value → Bool
  | .sequence .. | .range .. | .mapping .. => true
  | _ => false

/-- Why a value that is no container has no literal, wherever it stands. -/
def ownFault? : Value → Option Reason
  | .float x _ => if x.isFinite then Option.none else some .notFinite
  | .binary .. => some .byteString
  | .set .. | .complex .. | .object _ | .marshalerClass => some .unsupported
  | _ => Option.none

theorem ownFault?_of_isContainer {v : Value} (h : v.isContainer = true) : v.ownFault? = Option.none := by
  cases v with
  | sequence | range | mapping => rfl
  | _ => cases h

/-- A container stands at a place and at a place above it. -/
def IsOwnAncestor (g : Graph) (v : Value) (p : List Nat) (id : Nat) : Prop :=
  v.at? g p = some (.node id) ∧ ∃ q, q <+: p ∧ q ≠ p ∧ v.at? g q = some (.node id)

end Value

namespace Graph

/-- The shared values are containers. -/
def IsOfContainers (g : Graph) : Prop := ∀ v ∈ g.nodes, v.isContainer = true

/-- A number beyond the nodes stands for no container. -/
theorem node_cases (g : Graph) (id : Nat) :
    g.node id ∈ g.nodes ∧ id < g.nodes.length ∨ g.node id = .none := by
  by_cases hid : id < g.nodes.length
  · rw [node, List.getD_eq_getElem _ _ hid]
    exact .inl ⟨List.getElem_mem hid, hid⟩
  · exact .inr (List.getD_eq_default _ _ (Nat.le_of_not_lt hid))

theorem IsOfContainers.node_cases {g : Graph} (hg : g.IsOfContainers) (id : Nat) :
    (g.node id).isContainer = true ∧ id < g.nodes.length ∨ g.node id = .none :=
  (g.node_cases id).imp_left fun h ↦ ⟨hg _ h.1, h.2⟩

theorem IsOfContainers.node_ne_node {g : Graph} (hg : g.IsOfContainers) (id j : Nat) :
    g.node id ≠ .node j := by
  intro hj
  obtain ⟨hcontainer, -⟩ | hnone := hg.node_cases id
  · rw [hj] at hcontainer
    cases hcontainer
  · rw [hj] at hnone
    cases hnone

theorem IsOfContainers.ownFault?_node {g : Graph} (hg : g.IsOfContainers) (id : Nat) :
    (g.node id).ownFault? = none := by
  obtain ⟨hcontainer, -⟩ | hnone := hg.node_cases id
  · exact Value.ownFault?_of_isContainer hcontainer
  · rw [hnone]
    rfl

end Graph

/-- Faults by their place, the value they are about and the reason. -/
abbrev Faults := List Nat → Value → Reason → Prop

namespace Faults

variable {α β : Type}

/-- Fails at the first of the faults, and succeeds only if there is none. -/
def Finds (F : Faults) : Except EncodingError α → Prop
  | .ok _ => ∀ p u r, ¬ F p u r
  | .error e => F e.path e.value e.reason ∧ ∀ p u r, F p u r → ¬ p < e.path

/-- The faults of a child, as faults of what holds it. -/
def under (i : Nat) (F : Faults) : Faults := fun p u r ↦ ∃ q, p = i :: q ∧ F q u r

theorem Finds.congr {F G : Faults} {x : Except EncodingError α} (h : ∀ p u r, F p u r ↔ G p u r)
    (hF : Finds F x) : Finds G x := by
  have hFG : F = G := by
    funext p u r
    exact propext (h p u r)
  exact hFG ▸ hF

theorem Finds.map {F : Faults} {x : Except EncodingError α} (h : Finds F x) (f : α → β) :
    Finds F (x.map f) := by
  cases x <;> exact h

theorem Finds.under {F : Faults} {x : Except EncodingError α} (h : Finds F x) (i : Nat) :
    Finds (F.under i) (x.mapError (EncodingError.under i)) := by
  cases x with
  | ok a =>
    rintro p u r ⟨q, -, hq⟩
    exact h q u r hq
  | error e =>
    obtain ⟨he, hfirst⟩ := h
    refine ⟨⟨e.path, rfl, he⟩, ?_⟩
    rintro p u r ⟨q, rfl, hq⟩ hlt
    obtain hlt | ⟨-, hlt⟩ := List.cons_lt_cons_iff.1 hlt
    · exact Nat.lt_irrefl i hlt
    · exact hfirst q u r hq hlt

/-- One part is encoded behind another one, and has its faults behind those of the other one. -/
theorem Finds.bind {F G : Faults} {x : Except EncodingError α} {f : α → Except EncodingError β}
    (hx : Finds F x) (hf : ∀ a, Finds G (f a))
    (hbefore : ∀ p u r q u' r', F p u r → G q u' r' → ¬ q < p) :
    Finds (fun p u r ↦ F p u r ∨ G p u r) (x >>= f) := by
  cases x with
  | error e =>
    obtain ⟨he, hfirst⟩ := hx
    refine ⟨.inl he, fun p u r hp ↦ ?_⟩
    obtain hp | hp := hp
    · exact hfirst p u r hp
    · exact hbefore _ _ _ p u r he hp
  | ok a =>
    have hnone : ∀ p u r, ¬ F p u r := hx
    have hG : (fun p u r ↦ F p u r ∨ G p u r) = G := by
      funext p u r
      exact propext (or_iff_right (hnone p u r))
    rw [hG]
    exact hf a

theorem finds_ok {F : Faults} (a : α) (h : ∀ p u r, ¬ F p u r) :
    Finds F (.ok a : Except EncodingError α) := h

theorem finds_error_nil {F : Faults} {u : Value} {r : Reason} (h : F [] u r) :
    Finds F (.error ⟨u, [], r⟩ : Except EncodingError α) :=
  ⟨h, fun p _ _ _ ↦ List.not_lt_nil p⟩

end Faults

/-! ## The faults of a value -/

/-- The faults of a value that stands inside the nodes of `above`. -/
inductive IsFault (g : Graph) (above : List Nat) (v : Value) (p : List Nat) : Value → Reason → Prop
  | own {u : Value} {r : Reason} (hu : v.at? g p = some u) (hr : u.ownFault? = some r) :
    IsFault g above v p u r
  | inside {id : Nat} (hu : v.at? g p = some (.node id)) (habove : id ∈ above) :
    IsFault g above v p (.node id) .selfReference
  | ancestor {id : Nat} (h : v.IsOwnAncestor g p id) : IsFault g above v p (.node id) .selfReference

/-- The nodes that what a value holds is inside of. -/
def Value.around (v : Value) (above : List Nat) : List Nat :=
  match v with
  | .node id => id :: above
  | _ => above

theorem Value.mem_around {v : Value} {above : List Nat} {id : Nat} :
    id ∈ v.around above ↔ v = .node id ∨ id ∈ above := by
  unfold around
  split
  · simp [eq_comm]
  · rename_i h
    exact ⟨.inr, fun hor ↦ hor.resolve_left (h id)⟩

/-- The faults of members from number `i` on. -/
def memberFaults (g : Graph) (above : List Nat) : Nat → List Value → Faults
  | _, [] => fun _ _ _ ↦ False
  | i, v :: vs => fun p u r ↦
    Faults.under i (IsFault g above v) p u r ∨ memberFaults g above (i + 1) vs p u r

section

variable {g : Graph} {above : List Nat} {v u : Value} {p : List Nat} {r : Reason}

theorem isFault_nil_iff :
    IsFault g above v [] u r ↔
      u = v ∧ (v.ownFault? = some r ∨ r = .selfReference ∧ ∃ id ∈ above, v = .node id) := by
  constructor
  · intro h
    cases h with
    | own hu hr =>
      obtain rfl : v = u := Option.some.inj hu
      exact ⟨rfl, .inl hr⟩
    | inside hu habove =>
      obtain rfl : v = _ := Option.some.inj hu
      exact ⟨rfl, .inr ⟨rfl, _, habove, rfl⟩⟩
    | ancestor h =>
      obtain ⟨-, q, hq, hne, -⟩ := h
      exact absurd (List.prefix_nil.1 hq) hne
  · rintro ⟨rfl, hr | ⟨rfl, id, habove, rfl⟩⟩
    · exact .own rfl hr
    · exact .inside rfl habove

/-- A fault below a value is a fault of one of its children, which the value itself is around. -/
theorem isFault_cons_iff {i : Nat} :
    IsFault g above v (i :: p) u r ↔
      ∃ w, (v.children g)[i]? = some w ∧ IsFault g (v.around above) w p u r := by
  constructor
  · intro h
    cases h with
    | own hu hr =>
      obtain ⟨w, hw, hu⟩ := Option.bind_eq_some_iff.1 hu
      exact ⟨w, hw, .own hu hr⟩
    | inside hu habove =>
      obtain ⟨w, hw, hu⟩ := Option.bind_eq_some_iff.1 hu
      exact ⟨w, hw, .inside hu (Value.mem_around.2 (.inr habove))⟩
    | ancestor h =>
      obtain ⟨hu, q, hq, hne, hv⟩ := h
      obtain ⟨w, hw, hu⟩ := Option.bind_eq_some_iff.1 hu
      refine ⟨w, hw, ?_⟩
      obtain rfl | ⟨q, rfl, hprefix⟩ := List.prefix_cons_iff.1 hq
      · exact .inside hu (Value.mem_around.2 (.inl (Option.some.inj hv)))
      · obtain ⟨w', hw', hv⟩ := Option.bind_eq_some_iff.1 hv
        obtain rfl : w' = w := Option.some.inj (hw'.symm.trans hw)
        exact .ancestor ⟨hu, q, hprefix, fun heq ↦ hne (heq ▸ rfl), hv⟩
  · rintro ⟨w, hw, h⟩
    have hat (q : List Nat) : v.at? g (i :: q) = w.at? g q := by
      rw [Value.at?, hw, Option.bind_some]
    cases h with
    | own hu hr => exact .own ((hat p).trans hu) hr
    | inside hu habove =>
      obtain rfl | habove := Value.mem_around.1 habove
      · exact .ancestor ⟨(hat p).trans hu, [], List.nil_prefix, List.cons_ne_nil _ _ |>.symm, rfl⟩
      · exact .inside ((hat p).trans hu) habove
    | ancestor h =>
      obtain ⟨hu, q, hq, hne, hv⟩ := h
      refine .ancestor ⟨(hat p).trans hu, i :: q, List.cons_prefix_cons.2 ⟨rfl, hq⟩, ?_, (hat q).trans hv⟩
      exact fun heq ↦ hne (List.cons.inj heq).2

theorem memberFaults_iff {i : Nat} {vs : List Value} :
    memberFaults g above i vs p u r ↔
      ∃ j w q, vs[j]? = some w ∧ p = (i + j) :: q ∧ IsFault g above w q u r := by
  induction vs generalizing i with
  | nil => simp [memberFaults]
  | cons v vs ih =>
    simp only [memberFaults, ih, Faults.under]
    constructor
    · rintro (⟨q, rfl, hq⟩ | ⟨j, w, q, hw, rfl, hq⟩)
      · exact ⟨0, v, q, rfl, rfl, hq⟩
      · exact ⟨j + 1, w, q, hw, by rw [Nat.add_right_comm, Nat.add_assoc], hq⟩
    · rintro ⟨j, w, q, hw, rfl, hq⟩
      cases j with
      | zero =>
        obtain rfl : v = w := Option.some.inj hw
        exact .inl ⟨q, rfl, hq⟩
      | succ j => exact .inr ⟨j, w, q, hw, by rw [Nat.add_right_comm, Nat.add_assoc], hq⟩

/-- The faults of a value are those of its children, unless it has one of its own. -/
theorem isFault_iff_memberFaults (hown : v.ownFault? = none) (habove : ∀ id ∈ above, v ≠ .node id) :
    IsFault g above v p u r ↔ memberFaults g (v.around above) 0 (v.children g) p u r := by
  rw [memberFaults_iff]
  cases p with
  | nil =>
    rw [isFault_nil_iff]
    constructor
    · rintro ⟨-, hr | ⟨-, id, hid, hv⟩⟩
      · rw [hown] at hr
        cases hr
      · exact absurd hv (habove id hid)
    · rintro ⟨j, w, q, -, hp, -⟩
      cases hp
  | cons i p =>
    rw [isFault_cons_iff]
    constructor
    · rintro ⟨w, hw, h⟩
      exact ⟨i, w, p, hw, by rw [Nat.zero_add], h⟩
    · rintro ⟨j, w, q, hw, hp, h⟩
      obtain ⟨rfl, rfl⟩ := List.cons.inj hp
      exact ⟨w, by rwa [Nat.zero_add], h⟩

/-- A place has one fault at most. -/
theorem IsFault.functional {u' : Value} {r' : Reason} (h : IsFault g above v p u r)
    (h' : IsFault g above v p u' r') : u = u' ∧ r = r' := by
  have hat : ∀ {u r}, IsFault g above v p u r → v.at? g p = some u ∧
      r = u.ownFault?.getD .selfReference := by
    intro u r h
    cases h with
    | own hu hr => exact ⟨hu, by rw [hr]; rfl⟩
    | inside hu => exact ⟨hu, rfl⟩
    | ancestor h => exact ⟨h.1, rfl⟩
  obtain ⟨hu, rfl⟩ := hat h
  obtain ⟨hu', rfl⟩ := hat h'
  obtain rfl : u = u' := Option.some.inj (hu.symm.trans hu')
  exact ⟨rfl, rfl⟩

/-- A container that stands inside itself, and nothing else, is a self-reference. -/
theorem isFault_selfReference_iff :
    IsFault g [] v p u .selfReference ↔ ∃ id, u = .node id ∧ v.IsOwnAncestor g p id := by
  constructor
  · intro h
    cases h with
    | own hu hr =>
      unfold Value.ownFault? at hr
      split at hr
      · split at hr <;> cases hr
      all_goals cases hr
    | inside hu habove => cases habove
    | ancestor h => exact ⟨_, rfl, h⟩
  · rintro ⟨id, rfl, h⟩
    exact .ancestor h

end

end StarlarkMacro
