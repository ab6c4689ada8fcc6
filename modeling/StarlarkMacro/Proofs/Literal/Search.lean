import StarlarkMacro.Proofs.Literal.Fault

/-!
# The encoder finds the faults

Inside a tree the encoder goes from child to child, so that it finds the faults of a tree if it finds those of
nodes. It enters no node inside itself, so that no more levels are needed than there are nodes, and with as
many levels it finds the faults of nodes.
-/

namespace StarlarkMacro

namespace Literal

open Text (IsClean ofChars)

section Search

variable {g : Graph} {node : List Nat → Nat → Except EncodingError Text} {above : List Nat}

/-- Inside the nodes of `above`, what is given for a node finds its faults. -/
def NodesFind (g : Graph) (above : List Nat) (node : List Nat → Nat → Except EncodingError Text) : Prop :=
  ∀ id, (Value.node id).Plain g → Faults.Finds (IsFault g above (.node id)) (node above id)

/-- A value without children and without a fault of its own has no fault. -/
theorem not_isFault_of_leaf {v : Value} (hown : v.ownFault? = none) (hnode : ∀ id, v ≠ .node id)
    (hchildren : v.children g = []) (p : List Nat) (u : Value) (r : Reason) :
    ¬ IsFault g above v p u r := by
  rw [isFault_iff_memberFaults hown fun id _ ↦ hnode id, hchildren]
  exact id

theorem finds_of_ownFault {α : Type} {v : Value} {r : Reason} (hown : v.ownFault? = some r) :
    Faults.Finds (IsFault g above v) (.error ⟨v, [], r⟩ : Except EncodingError α) :=
  Faults.finds_error_nil (.own rfl hown)

/-- The faults of a member stand before those of the members behind it. -/
theorem not_lt_of_memberFaults {i : Nat} {F : Faults} {vs : List Value} {p q : List Nat}
    {u u' : Value} {r r' : Reason} (hp : F.under i p u r)
    (hq : memberFaults g above (i + 1) vs q u' r') : ¬ q < p := by
  obtain ⟨p, rfl, -⟩ := hp
  obtain ⟨j, w, q, -, rfl, -⟩ := memberFaults_iff.1 hq
  intro hlt
  obtain hlt | ⟨heq, -⟩ := List.cons_lt_cons_iff.1 hlt
  · omega
  · omega

mutual

theorem finds_encodeTree (hnode : NodesFind g above node) :
    ∀ v : Value, v.Plain g → Faults.Finds (IsFault g above v) (encodeTree g node above v)
  | .none, _ => Faults.finds_ok _ (not_isFault_of_leaf rfl (by simp) rfl)
  | .bool _, _ => Faults.finds_ok _ (not_isFault_of_leaf rfl (by simp) rfl)
  | .int .., _ => Faults.finds_ok _ (not_isFault_of_leaf rfl (by simp) rfl)
  | .text .., _ => Faults.finds_ok _ (not_isFault_of_leaf rfl (by simp) rfl)
  | .range .., _ => Faults.finds_ok _ (not_isFault_of_leaf rfl (by simp) rfl)
  | .float x _, _ => by
    rw [encodeTree]
    split
    · exact Faults.finds_ok _ (not_isFault_of_leaf (if_pos ‹_›) (by simp) rfl)
    · exact finds_of_ownFault (if_neg ‹_›)
  | .binary .., _ => finds_of_ownFault rfl
  | .set .., _ => finds_of_ownFault rfl
  | .complex .., _ => finds_of_ownFault rfl
  | .object _, _ => finds_of_ownFault rfl
  | .sequence kind items, hplain => by
    have hitems := finds_encodeItems hnode 0 items hplain.member
    rw [encodeTree]
    exact (hitems.congr fun p u r ↦ (isFault_iff_memberFaults rfl (by simp)).symm).map _
  | .mapping kind entries, hplain => by
    have hentries := finds_encodeEntries hnode 0 entries hplain.entries
    rw [encodeTree]
    exact (hentries.congr fun p u r ↦ (isFault_iff_memberFaults rfl (by simp)).symm).map _
  | .node id, hplain => hnode id hplain
  | .arguments _, hplain | .labelled .., hplain | .returning _, hplain | .wrapping .., hplain
  | .raising .., hplain | .refusing .., hplain | .marshalerClass, hplain => by
    cases hplain.hasMarshalMethod

theorem finds_encodeItems (hnode : NodesFind g above node) (i : Nat) :
    ∀ items : List Value, (∀ v ∈ items, v.Plain g) →
      Faults.Finds (memberFaults g above i items) (encodeItems g node above i items)
  | [], _ => Faults.finds_ok _ fun _ _ _ ↦ id
  | v :: vs, hplain => by
    have hv := finds_encodeTree hnode v (hplain v (by simp))
    have hvs := finds_encodeItems hnode (i + 1) vs fun w hw ↦ hplain w (by simp [hw])
    rw [encodeItems]
    refine (hv.under i).bind (fun literal ↦ ?_) fun _ _ _ _ _ _ ↦ not_lt_of_memberFaults
    exact hvs.map (literal :: ·)

theorem finds_encodeEntries (hnode : NodesFind g above node) (i : Nat) :
    ∀ entries : List (Value × Value), (∀ e ∈ entries, e.1.Plain g ∧ e.2.Plain g) →
      Faults.Finds (memberFaults g above (2 * i) (entries.flatMap fun e ↦ [e.1, e.2]))
        (encodeEntries g node above i entries)
  | [], _ => Faults.finds_ok _ fun _ _ _ ↦ id
  | (k, v) :: entries, hplain => by
    obtain ⟨hk, hv⟩ := hplain (k, v) (by simp)
    have hkey := finds_encodeTree hnode k hk
    have hvalue := finds_encodeTree hnode v hv
    have hrest := finds_encodeEntries hnode (i + 1) entries fun e he ↦ hplain e (by simp [he])
    rw [encodeEntries]
    refine (hkey.under (2 * i)).bind (fun key ↦ ?_) fun _ _ _ _ _ _ ↦ not_lt_of_memberFaults
    refine (hvalue.under (2 * i + 1)).bind (fun value ↦ ?_) fun _ _ _ _ _ _ ↦ not_lt_of_memberFaults
    exact hrest.map ((key, value) :: ·)

end

variable {node' : List Nat → Nat → Except EncodingError Text}

mutual

/-- Of what is given for nodes, only that inside the nodes of `above` counts. -/
theorem encodeTree_congr (h : ∀ id, (Value.node id).Plain g → node above id = node' above id) :
    ∀ v : Value, v.Plain g → encodeTree g node above v = encodeTree g node' above v
  | .sequence kind items, hplain => by
    rw [encodeTree, encodeTree, encodeItems_congr h 0 items hplain.member]
  | .mapping kind entries, hplain => by
    rw [encodeTree, encodeTree, encodeEntries_congr h 0 entries hplain.entries]
  | .node id, hplain => h id hplain
  | .none, _ | .bool _, _ | .int .., _ | .text .., _ | .range .., _ | .float .., _ | .binary .., _
  | .set .., _ | .complex .., _ | .object _, _ => by rw [encodeTree, encodeTree]
  | .arguments _, hplain | .labelled .., hplain | .returning _, hplain | .wrapping .., hplain
  | .raising .., hplain | .refusing .., hplain | .marshalerClass, hplain => by
    cases hplain.hasMarshalMethod

theorem encodeItems_congr (h : ∀ id, (Value.node id).Plain g → node above id = node' above id)
    (i : Nat) : ∀ items : List Value, (∀ v ∈ items, v.Plain g) →
      encodeItems g node above i items = encodeItems g node' above i items
  | [], _ => by rw [encodeItems, encodeItems]
  | v :: vs, hplain => by
    rw [encodeItems, encodeItems, encodeTree_congr h v (hplain v (by simp)),
      encodeItems_congr h (i + 1) vs fun w hw ↦ hplain w (by simp [hw])]

theorem encodeEntries_congr (h : ∀ id, (Value.node id).Plain g → node above id = node' above id)
    (i : Nat) : ∀ entries : List (Value × Value), (∀ e ∈ entries, e.1.Plain g ∧ e.2.Plain g) →
      encodeEntries g node above i entries = encodeEntries g node' above i entries
  | [], _ => by rw [encodeEntries, encodeEntries]
  | (k, v) :: entries, hplain => by
    obtain ⟨hk, hv⟩ := hplain (k, v) (by simp)
    rw [encodeEntries, encodeEntries, encodeTree_congr h k hk, encodeTree_congr h v hv,
      encodeEntries_congr h (i + 1) entries fun e he ↦ hplain e (by simp [he])]

end

end Search

/-! ## The levels of nodes -/

/-- The nodes that are being encoded are different ones, and there are more levels left than other nodes. -/
structure HasRoom (g : Graph) (depth : Nat) (above : List Nat) : Prop where
  nodup : above.Nodup
  exists_node : ∀ id ∈ above, id < g.nodes.length
  lt_levels : g.nodes.length < above.length + depth

section Levels

variable {g : Graph}

theorem hasRoom_of_depth_le {depth : Nat} (h : g.depth ≤ depth) : HasRoom g depth [] :=
  ⟨List.nodup_nil, by simp, by simpa [Graph.depth, Nat.succ_le_iff] using h⟩

/-- As long as a node is entered inside other ones, there is a level left. -/
theorem HasRoom.pos {depth : Nat} {above : List Nat} (h : HasRoom g depth above) : 0 < depth := by
  have hsubset : above ⊆ List.range g.nodes.length := fun id hid ↦
    List.mem_range.2 (h.exists_node id hid)
  have hlength := (List.subperm_of_subset h.nodup hsubset).length_le
  have hlevels := h.lt_levels
  rw [List.length_range] at hlength
  omega

theorem HasRoom.enter {depth : Nat} {above : List Nat} (h : HasRoom g (depth + 1) above) {id : Nat}
    (hid : id < g.nodes.length) (habove : id ∉ above) : HasRoom g depth (id :: above) := by
  refine ⟨List.nodup_cons.2 ⟨habove, h.nodup⟩, List.forall_mem_cons.2 ⟨hid, h.exists_node⟩, ?_⟩
  have hlevels := h.lt_levels
  rw [List.length_cons]
  omega

theorem encodeNode_of_mem (g : Graph) (depth : Nat) {above : List Nat} {id : Nat} (h : id ∈ above) :
    encodeNode g depth above id = .error ⟨.node id, [], .selfReference⟩ := by
  rw [encodeNode.eq_def]
  exact if_pos (by simpa using h)

/-- The faults of a node are those of what it stands for, inside the node. -/
theorem isFault_node_iff (hg : g.IsOfContainers) {above : List Nat} {id : Nat} (habove : id ∉ above)
    (p : List Nat) (u : Value) (r : Reason) :
    IsFault g (id :: above) (g.node id) p u r ↔ IsFault g above (.node id) p u r := by
  have hresolve : (g.node id).resolve g = g.node id := by
    cases hv : g.node id with
    | node j => exact absurd hv (hg.node_ne_node id j)
    | _ => rfl
  have hchildren : (g.node id).children g = (Value.node id).children g := by
    rw [Value.children, Value.children, hresolve]
    rfl
  have haround : (g.node id).around (id :: above) = id :: above := by
    unfold Value.around
    split
    · exact absurd ‹_› (hg.node_ne_node id _)
    · rfl
  have habove' : ∀ j ∈ above, Value.node id ≠ .node j := fun j hj heq ↦
    habove (Value.node.inj heq ▸ hj)
  calc IsFault g (id :: above) (g.node id) p u r
      ↔ memberFaults g (id :: above) 0 ((Value.node id).children g) p u r := by
        rw [isFault_iff_memberFaults (hg.ownFault?_node id) fun j _ ↦ hg.node_ne_node id j, haround,
          hchildren]
    _ ↔ IsFault g above (.node id) p u r := (isFault_iff_memberFaults (by rfl) habove').symm

/-- The faults of nodes are found as long as there are levels left. -/
theorem nodesFind_encodeNode (hg : g.IsOfContainers) :
    ∀ {depth : Nat} {above : List Nat}, HasRoom g depth above →
      NodesFind g above (encodeNode g depth)
  | 0, _, hroom => absurd hroom.pos (Nat.lt_irrefl 0)
  | depth + 1, above, hroom => by
    intro id hplain
    by_cases habove : id ∈ above
    · rw [encodeNode_of_mem g _ habove]
      exact Faults.finds_error_nil (.inside rfl habove)
    · rw [encodeNode_of_not_mem g depth habove]
      apply Faults.Finds.congr (isFault_node_iff hg habove)
      obtain ⟨-, hid⟩ | hnone := hg.node_cases id
      · have hfinds := nodesFind_encodeNode hg (hroom.enter hid habove)
        exact finds_encodeTree hfinds (g.node id) hplain.of_node
      · rw [hnone, encodeTree]
        exact Faults.finds_ok _ (not_isFault_of_leaf rfl (by simp) rfl)

/-- With levels enough, the literal of a node is the same however many there are. -/
theorem encodeNode_congr (hg : g.IsOfContainers) :
    ∀ {depth depth' : Nat} {above : List Nat}, HasRoom g depth above → HasRoom g depth' above →
      ∀ id, (Value.node id).Plain g → encodeNode g depth above id = encodeNode g depth' above id
  | 0, _, _, hroom, _ => absurd hroom.pos (Nat.lt_irrefl 0)
  | _ + 1, 0, _, _, hroom => absurd hroom.pos (Nat.lt_irrefl 0)
  | depth + 1, depth' + 1, above, hroom, hroom' => by
    intro id hplain
    by_cases habove : id ∈ above
    · rw [encodeNode_of_mem g _ habove, encodeNode_of_mem g _ habove]
    · rw [encodeNode_of_not_mem g depth habove, encodeNode_of_not_mem g depth' habove]
      obtain ⟨-, hid⟩ | hnone := hg.node_cases id
      · have hcongr := encodeNode_congr hg (hroom.enter hid habove) (hroom'.enter hid habove)
        exact encodeTree_congr hcongr (g.node id) hplain.of_node
      · rw [hnone, encodeTree, encodeTree]

end Levels

end Literal

end StarlarkMacro
