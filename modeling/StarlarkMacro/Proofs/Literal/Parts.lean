import StarlarkMacro.Proofs.Literal.Search

/-!
# What the literal of a value is made from

A literal is made from those of the members of containers, and a marshaler may ask for more: spliced
arguments for their members, a wrapping for what it wraps. If no node is reached from itself this way, the
parts of a value can be gone through in a well-founded order, no node is met inside itself, and the literal
of a node is that of what it stands for, however many levels are left and wherever the node stands.
-/

namespace StarlarkMacro

/-- The literal of the second value asks for that of the first. -/
inductive Part (g : Graph) : Value → Value → Prop
  | member {kind : SequenceKind} {items : List Value} {v : Value} (hv : v ∈ items) :
      Part g v (.sequence kind items)
  | key {kind : MappingKind} {entries : List (Value × Value)} {entry : Value × Value}
      (he : entry ∈ entries) : Part g entry.1 (.mapping kind entries)
  | value {kind : MappingKind} {entries : List (Value × Value)} {entry : Value × Value}
      (he : entry ∈ entries) : Part g entry.2 (.mapping kind entries)
  | argument {items : List Value} {v : Value} (hv : v ∈ items) : Part g v (.arguments items)
  | inner (before : List Char) (v : Value) (after : List Char) :
      Part g v (.wrapping before v after)
  | content (id : Nat) : Part g (g.node id) (.node id)

/-- A value is reached from another one by going from values to their parts. -/
def Involves (g : Graph) : Value → Value → Prop := Relation.ReflTransGen (Part g)

namespace Value

/-- No node that the value involves is reached from itself. -/
def IsCircleFree (g : Graph) (v : Value) : Prop :=
  ∀ id, Involves g (.node id) v → ¬ Relation.TransGen (Part g) (.node id) (.node id)

/-- No node of some is involved in the value. -/
def Avoids (g : Graph) (trail : List Nat) (v : Value) : Prop :=
  ∀ id ∈ trail, ¬ Involves g (.node id) v

section

variable {g : Graph} {v w : Value} {trail : List Nat}

theorem IsCircleFree.of_part (h : v.IsCircleFree g) (hw : Part g w v) : w.IsCircleFree g :=
  fun id hid ↦ h id (hid.tail hw)

theorem Avoids.of_part (h : v.Avoids g trail) (hw : Part g w v) : w.Avoids g trail :=
  fun id hid hinvolves ↦ h id hid (hinvolves.tail hw)

theorem avoids_nil (v : Value) : v.Avoids g [] := fun _ hid ↦ absurd hid List.not_mem_nil

theorem Avoids.notMem {id : Nat} (h : (Value.node id).Avoids g trail) : id ∉ trail :=
  fun hid ↦ h id hid .refl

/-- What a node stands for avoids the node. -/
theorem Avoids.enter {id : Nat} (h : (Value.node id).Avoids g trail)
    (hfree : (Value.node id).IsCircleFree g) : (g.node id).Avoids g (id :: trail) := by
  intro j hj hinvolves
  cases List.mem_cons.1 hj with
  | inl heq =>
    subst heq
    exact hfree j .refl (Relation.TransGen.tail' hinvolves (.content j))
  | inr hj => exact h j hj (hinvolves.tail (.content id))

/-- A part of a value that is no node is smaller. -/
theorem sizeOf_lt_of_part (hw : Part g w v) : sizeOf w < sizeOf v ∨ ∃ id, v = .node id ∧ w = g.node id := by
  cases hw with
  | member hv | argument hv =>
    have hlt := List.sizeOf_lt_of_mem hv
    left
    simp only [sequence.sizeOf_spec, arguments.sizeOf_spec]
    omega
  | @key kind entries entry he =>
    have hlt := List.sizeOf_lt_of_mem he
    left
    rcases entry with ⟨key, value⟩
    simp only [mapping.sizeOf_spec, Prod.mk.sizeOf_spec] at hlt ⊢
    omega
  | @value kind entries entry he =>
    have hlt := List.sizeOf_lt_of_mem he
    left
    rcases entry with ⟨key, value⟩
    simp only [mapping.sizeOf_spec, Prod.mk.sizeOf_spec] at hlt ⊢
    omega
  | inner before _ after =>
    left
    simp only [wrapping.sizeOf_spec]
    omega
  | content id => exact .inr ⟨id, rfl, rfl⟩

/-- Induction on what a value is made from, as far as its nodes. -/
theorem induction_on_parts {motive : Value → Prop} (node : ∀ id, motive (.node id))
    (step : ∀ v : Value, (∀ id, v ≠ .node id) → (∀ w, Part g w v → motive w) → motive v) (v : Value) :
    motive v := by
  induction hsize : sizeOf v using Nat.strong_induction_on generalizing v with
  | _ size ih =>
    by_cases hnode : ∃ id, v = .node id
    · obtain ⟨id, rfl⟩ := hnode
      exact node id
    · rw [not_exists] at hnode
      refine step v hnode fun w hw ↦ ?_
      obtain hlt | ⟨id, hid, -⟩ := sizeOf_lt_of_part hw
      · exact ih _ (hsize ▸ hlt) w rfl
      · exact absurd hid (hnode id)

end

end Value

namespace Literal

section

variable {g : Graph}

/-- A number beyond the nodes stands for a value without parts. -/
theorem acc_none : Acc (Part g) .none := ⟨_, fun _ h ↦ nomatch h⟩

/-- A value that involves no node of those gone through and none inside itself can be gone through. -/
theorem acc_of_hasRoom (depth : Nat) : ∀ {trail : List Nat}, HasRoom g depth trail →
    ∀ v : Value, v.IsCircleFree g → v.Avoids g trail → Acc (Part g) v := by
  induction depth with
  | zero =>
    intro trail hroom
    exact absurd hroom.pos (Nat.lt_irrefl 0)
  | succ depth ih =>
    intro trail hroom v
    -- A part is smaller, or it is what a node stands for, which leaves one level less.
    induction v using @Value.induction_on_parts g with
    | node id =>
      intro hfree havoids
      refine ⟨_, fun w hw ↦ ?_⟩
      cases hw with
      | content =>
        obtain ⟨-, hid⟩ | hnone := g.node_cases id
        · exact ih (hroom.enter hid havoids.notMem) _ (hfree.of_part (.content id))
            (havoids.enter hfree)
        · rw [hnone]
          exact acc_none
    | step v hnode ihParts =>
      intro hfree havoids
      exact ⟨v, fun w hw ↦ ihParts w hw (hfree.of_part hw) (havoids.of_part hw)⟩

/-- The parts of a value without circles can be gone through. -/
theorem acc_of_isCircleFree {v : Value} (h : v.IsCircleFree g) : Acc (Part g) v :=
  acc_of_hasRoom g.depth (hasRoom_of_depth_le (Nat.le_refl _)) v h (Value.avoids_nil v)

/-! ## One encoder for all levels -/

variable {node node' : List Nat → Nat → Except EncodingError Text} {active active' : List Nat}

theorem encodeItems_congr_of_forall (i : Nat) {items : List Value}
    (h : ∀ v ∈ items, encodeTree g node active v = encodeTree g node' active' v) :
    encodeItems g node active i items = encodeItems g node' active' i items := by
  induction items generalizing i with
  | nil => rfl
  | cons v vs ih =>
    obtain ⟨hv, hvs⟩ := List.forall_mem_cons.1 h
    rw [encodeItems, encodeItems, hv, ih (i + 1) hvs]

theorem encodeEntries_congr_of_forall (i : Nat) {entries : List (Value × Value)}
    (h : ∀ e ∈ entries, encodeTree g node active e.1 = encodeTree g node' active' e.1 ∧
      encodeTree g node active e.2 = encodeTree g node' active' e.2) :
    encodeEntries g node active i entries = encodeEntries g node' active' i entries := by
  induction entries generalizing i with
  | nil => rfl
  | cons e rest ih =>
    rcases e with ⟨k, v⟩
    obtain ⟨⟨hk, hv⟩, hrest⟩ := List.forall_mem_cons.1 h
    rw [encodeEntries, encodeEntries, hk, hv, ih (i + 1) hrest]

/-- What the literals of members have in common, as it is for each. -/
theorem forall_iff_of_encodeItems {Q : Text → Prop} {P : Value → Prop} {items : List Value}
    (h : ∀ v ∈ items, ∀ t, encodeTree g node active v = .ok t → (Q t ↔ P v)) {i : Nat}
    {parts : List Text} (hparts : encodeItems g node active i items = .ok parts) :
    (∀ part ∈ parts, Q part) ↔ ∀ v ∈ items, P v := by
  induction items generalizing i parts with
  | nil =>
    cases hparts
    simp
  | cons v vs ih =>
    obtain ⟨hv, hvs⟩ := List.forall_mem_cons.1 h
    obtain ⟨literal, hliteral, hparts⟩ := exists_of_bind_eq_ok hparts
    obtain ⟨rest, hrest, hparts⟩ := exists_of_bind_eq_ok hparts
    cases hparts
    rw [List.forall_mem_cons, List.forall_mem_cons, hv literal (eq_ok_of_mapError_eq_ok hliteral),
      ih hvs hrest]

theorem forall_iff_of_encodeEntries {Q : Text → Prop} {P : Value → Prop}
    {entries : List (Value × Value)}
    (h : ∀ e ∈ entries, (∀ t, encodeTree g node active e.1 = .ok t → (Q t ↔ P e.1)) ∧
      ∀ t, encodeTree g node active e.2 = .ok t → (Q t ↔ P e.2)) {i : Nat}
    {parts : List (Text × Text)} (hparts : encodeEntries g node active i entries = .ok parts) :
    (∀ part ∈ parts, Q part.1 ∧ Q part.2) ↔ ∀ e ∈ entries, P e.1 ∧ P e.2 := by
  induction entries generalizing i parts with
  | nil =>
    cases hparts
    simp
  | cons e entries ih =>
    rcases e with ⟨k, v⟩
    obtain ⟨⟨hk, hv⟩, hentries⟩ := List.forall_mem_cons.1 h
    obtain ⟨key, hkey, hparts⟩ := exists_of_bind_eq_ok hparts
    obtain ⟨value, hvalue, hparts⟩ := exists_of_bind_eq_ok hparts
    obtain ⟨rest, hrest, hparts⟩ := exists_of_bind_eq_ok hparts
    cases hparts
    rw [List.forall_mem_cons, List.forall_mem_cons, hk key (eq_ok_of_mapError_eq_ok hkey),
      hv value (eq_ok_of_mapError_eq_ok hvalue), ih hentries hrest]

/-- The literal of a value is that of the value on its own, as long as there is room and no active node is
involved. -/
def EncodesAlone (g : Graph) (v : Value) : Prop :=
  ∀ (depth : Nat) (trail active : List Nat), HasRoom g depth trail → v.Avoids g trail →
    active ⊆ trail → encodeTree g (encodeNode g depth) active v = encode g v

/-- A node is entered, and has the literal of what it stands for. -/
theorem encodeTree_node {id : Nat} (hcontent : EncodesAlone g (g.node id))
    (hfree : (Value.node id).IsCircleFree g) {depth : Nat} {trail active : List Nat}
    (hroom : HasRoom g depth trail) (havoids : (Value.node id).Avoids g trail)
    (hactive : active ⊆ trail) :
    encodeTree g (encodeNode g depth) active (.node id) = encode g (g.node id) := by
  obtain ⟨depth, rfl⟩ := Nat.exists_eq_add_one_of_ne_zero hroom.pos.ne'
  rw [encodeTree, encodeNode_of_not_mem g depth fun h ↦ havoids.notMem (hactive h)]
  obtain ⟨-, hid⟩ | hnone := g.node_cases id
  · exact hcontent depth _ _ (hroom.enter hid havoids.notMem) (havoids.enter hfree)
      (List.cons_subset_cons id hactive)
  · rw [hnone]
    rfl

theorem encode_node_of_encodesAlone {id : Nat} (hcontent : EncodesAlone g (g.node id))
    (hfree : (Value.node id).IsCircleFree g) : encode g (.node id) = encode g (g.node id) :=
  encodeTree_node hcontent hfree (hasRoom_of_depth_le (Nat.le_refl _)) (Value.avoids_nil _)
    (List.Subset.refl _)

theorem encodesAlone {v : Value} (hfree : v.IsCircleFree g) : EncodesAlone g v := by
  induction acc_of_isCircleFree hfree with
  | intro v _ ih =>
    intro depth trail active hroom havoids hactive
    have hpart : ∀ w, Part g w v → ∀ {within : List Nat}, within ⊆ trail →
        encodeTree g (encodeNode g depth) within w = encode g w := fun w hw within hwithin ↦
      ih w hw (hfree.of_part hw) depth trail within hroom (havoids.of_part hw) hwithin
    cases v with
    | sequence kind items =>
      rw [encode, encodeTree, encodeTree,
        encodeItems_congr_of_forall 0 fun v hv ↦ hpart v (.member hv) hactive]
    | mapping kind entries =>
      rw [encode, encodeTree, encodeTree, encodeEntries_congr_of_forall 0 fun e he ↦
        ⟨hpart e.1 (.key he) hactive, hpart e.2 (.value he) hactive⟩]
    | arguments items =>
      rw [encode, encodeTree, encodeTree, encodeItems_congr_of_forall 0 fun v hv ↦
        hpart v (.argument hv) (List.nil_subset trail)]
    | wrapping before inner after =>
      rw [encode, encodeTree, encodeTree, hpart inner (.inner ..) (List.nil_subset trail)]
      rfl
    | node id =>
      have hcontent := ih _ (.content id) (hfree.of_part (.content id))
      rw [encodeTree_node hcontent hfree hroom havoids hactive,
        encode_node_of_encodesAlone hcontent hfree]
    | _ => rfl

/-- The literal of a node is that of what it stands for. -/
theorem encode_node {id : Nat} (hfree : (Value.node id).IsCircleFree g) :
    encode g (.node id) = encode g (g.node id) :=
  encode_node_of_encodesAlone (encodesAlone (hfree.of_part (.content id))) hfree

end

end Literal

end StarlarkMacro
