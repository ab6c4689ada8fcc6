import StarlarkMacro.Proofs.Literal.Bad

/-!
# The value that is to blame

Values are met from left to right, a container before what it holds and a key before its value. Of a
marshaler nothing is met but itself. The literal of a value without circles fails with the error of the
first bad value that is met, and without any it fails only at its end, for a surrogate in one of the texts.
-/

namespace StarlarkMacro

namespace Value

/-- The value that is met at a place. -/
def met? (g : Graph) (v : Value) (q : List Nat) : Option Value := (v.at? g q).map (resolve g)

section

variable {g : Graph} {v : Value}

theorem met?_nil : v.met? g [] = some (v.resolve g) := rfl

theorem met?_cons {i : Nat} {q : List Nat} :
    v.met? g (i :: q) = (v.children g)[i]?.bind fun w ↦ w.met? g q := by
  rw [met?, at?, Option.map_bind]
  rfl

/-- At a node the same is met as in what it stands for. -/
theorem met?_node (hg : g.IsDirect) (id : Nat) (q : List Nat) :
    (Value.node id).met? g q = (g.node id).met? g q := by
  have hresolve : (g.node id).resolve g = (Value.node id).resolve g := hg.resolve_node id
  cases q with
  | nil => rw [met?_nil, met?_nil, hresolve]
  | cons i q => rw [met?_cons, met?_cons, children, children, hresolve]

end

end Value

namespace Faults

/-- The faults of members from number `i` on. -/
def ofMembers (F : Value → Faults) : Nat → List Value → Faults
  | _, [] => fun _ _ _ ↦ False
  | i, v :: vs => fun p u r ↦ under i (F v) p u r ∨ ofMembers F (i + 1) vs p u r

variable {F : Value → Faults}

theorem ofMembers_iff {i : Nat} {vs : List Value} {p : List Nat} {u : Value} {r : Reason} :
    ofMembers F i vs p u r ↔ ∃ j w q, vs[j]? = some w ∧ p = (i + j) :: q ∧ F w q u r := by
  induction vs generalizing i with
  | nil => simp [ofMembers]
  | cons v vs ih =>
    simp only [ofMembers, ih, under]
    constructor
    · rintro (⟨q, rfl, hq⟩ | ⟨j, w, q, hw, rfl, hq⟩)
      · exact ⟨0, v, q, rfl, rfl, hq⟩
      · exact ⟨j + 1, w, q, hw, by rw [Nat.add_right_comm, Nat.add_assoc], hq⟩
    · rintro ⟨j, w, q, hw, rfl, hq⟩
      cases j with
      | zero =>
        obtain rfl : v = w := Option.some.inj hw
        exact .inl ⟨q, rfl, hq⟩
      | succ j => exact .inr ⟨j, w, q, hw, by rw [Nat.add_right_comm, Nat.add_assoc], hq⟩

/-- The faults of a member stand before those of the members behind it. -/
theorem not_lt_of_ofMembers {i : Nat} {G : Faults} {vs : List Value} {p q : List Nat}
    {u u' : Value} {r r' : Reason} (hp : under i G p u r) (hq : ofMembers F (i + 1) vs q u' r') :
    ¬ q < p := by
  obtain ⟨p, rfl, -⟩ := hp
  obtain ⟨j, w, q, -, rfl, -⟩ := ofMembers_iff.1 hq
  intro hlt
  obtain hlt | ⟨heq, -⟩ := List.cons_lt_cons_iff.1 hlt
  · omega
  · omega

end Faults

namespace Literal

open Text (IsClean)

/-! ## Members in order -/

section Members

variable {g : Graph} {node : List Nat → Nat → Except EncodingError Text} {active : List Nat}
  {F : Value → Faults}

/-- The literals of members fail at the first fault of a member. -/
theorem finds_encodeItems_of_forall (i : Nat) {items : List Value}
    (h : ∀ v ∈ items, Faults.Finds (F v) (encodeTree g node active v)) :
    Faults.Finds (Faults.ofMembers F i items) (encodeItems g node active i items) := by
  induction items generalizing i with
  | nil => exact Faults.finds_ok _ fun _ _ _ ↦ id
  | cons v vs ih =>
    obtain ⟨hv, hvs⟩ := List.forall_mem_cons.1 h
    rw [encodeItems]
    refine (hv.under i).bind (fun literal ↦ ?_) fun _ _ _ _ _ _ ↦ Faults.not_lt_of_ofMembers
    exact (ih (i + 1) hvs).map (literal :: ·)

/-- The same for entries, a key before its value. -/
theorem finds_encodeEntries_of_forall (i : Nat) {entries : List (Value × Value)}
    (h : ∀ e ∈ entries, Faults.Finds (F e.1) (encodeTree g node active e.1) ∧
      Faults.Finds (F e.2) (encodeTree g node active e.2)) :
    Faults.Finds (Faults.ofMembers F (2 * i) (entries.flatMap fun e ↦ [e.1, e.2]))
      (encodeEntries g node active i entries) := by
  induction entries generalizing i with
  | nil => exact Faults.finds_ok _ fun _ _ _ ↦ id
  | cons e entries ih =>
    rcases e with ⟨k, v⟩
    obtain ⟨⟨hk, hv⟩, hrest⟩ := List.forall_mem_cons.1 h
    rw [encodeEntries]
    refine (hk.under (2 * i)).bind (fun key ↦ ?_) fun _ _ _ _ _ _ ↦ Faults.not_lt_of_ofMembers
    refine (hv.under (2 * i + 1)).bind (fun value ↦ ?_) fun _ _ _ _ _ _ ↦ Faults.not_lt_of_ofMembers
    exact (ih (i + 1) hrest).map ((key, value) :: ·)

end Members

/-! ## Bad values at their places -/

/-- The errors about the bad values that are met in a value, the places of these values in front. -/
def Blamed (g : Graph) (v : Value) : Faults := fun p u r ↦
  ∃ q w e, v.met? g q = some w ∧ IsBad g w e ∧ p = q ++ e.path ∧ u = e.value ∧ r = e.reason

section Places

variable {g : Graph} {v : Value} {p : List Nat} {u : Value} {r : Reason}

/-- A container is not bad itself. -/
theorem not_isBad_of_isContainer (h : v.isContainer = true) (e : EncodingError) : ¬ IsBad g v e := by
  intro hbad
  cases hbad with
  | own hr =>
    rw [Value.ownFault?_of_isContainer h] at hr
    cases hr
  | _ => cases h

theorem not_isBad_node (id : Nat) (e : EncodingError) : ¬ IsBad g (.node id) e := by
  intro hbad
  cases hbad with
  | own hr => cases hr

theorem IsBad.encode_eq {e : EncodingError} (h : IsBad g v e) : encode g v = .error e := by
  apply (isBad_iff ?_ ?_).1 h
  · rintro id rfl
    exact not_isBad_node id e h
  · exact Bool.eq_false_iff.2 fun hcontainer ↦ not_isBad_of_isContainer hcontainer e h

/-- A bad value has one error. -/
theorem IsBad.functional {e e' : EncodingError} (h : IsBad g v e) (h' : IsBad g v e') : e = e' :=
  Except.error.inj (h.encode_eq.symm.trans h'.encode_eq)

/-- A bad value holds nothing. -/
theorem IsBad.children_eq_nil {e : EncodingError} (h : IsBad g (v.resolve g) e) :
    v.children g = [] := by
  unfold Value.children
  generalize v.resolve g = w at h
  cases w with
  | sequence | mapping => exact absurd h (not_isBad_of_isContainer rfl e)
  | _ => rfl

/-- What is bad about a container is bad about one of its children. -/
theorem blamed_iff_ofMembers (hnode : ∀ id, v ≠ .node id) (h : v.isContainer = true) :
    Blamed g v p u r ↔ Faults.ofMembers (Blamed g) 0 (v.children g) p u r := by
  rw [Faults.ofMembers_iff]
  constructor
  · rintro ⟨q, w, e, hw, hbad, rfl, rfl, rfl⟩
    cases q with
    | nil =>
      rw [Value.met?_nil, Value.resolve_of_ne_node hnode] at hw
      obtain rfl := Option.some.inj hw
      exact absurd hbad (not_isBad_of_isContainer h e)
    | cons i q =>
      rw [Value.met?_cons] at hw
      obtain ⟨child, hchild, hw⟩ := Option.bind_eq_some_iff.1 hw
      exact ⟨i, child, q ++ e.path, hchild, by rw [Nat.zero_add]; rfl, q, w, e, hw, hbad, rfl, rfl, rfl⟩
  · rintro ⟨i, child, q', hchild, rfl, q, w, e, hw, hbad, rfl, rfl, rfl⟩
    refine ⟨i :: q, w, e, ?_, hbad, by rw [Nat.zero_add]; rfl, rfl, rfl⟩
    rw [Value.met?_cons, hchild]
    exact hw

/-- What is bad about a value that holds nothing is the value itself. -/
theorem blamed_iff_isBad (hnode : ∀ id, v ≠ .node id) (hchildren : v.children g = []) :
    Blamed g v p u r ↔ IsBad g v ⟨u, p, r⟩ := by
  have hself : v.met? g [] = some v := by rw [Value.met?_nil, Value.resolve_of_ne_node hnode]
  constructor
  · rintro ⟨q, w, e, hw, hbad, rfl, rfl, rfl⟩
    cases q with
    | nil =>
      obtain rfl := Option.some.inj (hself.symm.trans hw)
      exact hbad
    | cons i q =>
      rw [Value.met?_cons, hchildren] at hw
      cases hw
  · intro hbad
    exact ⟨[], v, _, hself, hbad, rfl, rfl, rfl⟩

/-- The literal of a value that holds nothing fails for the value. -/
theorem finds_blamed_of_leaf (hnode : ∀ id, v ≠ .node id) (hcontainer : v.isContainer = false)
    (hchildren : v.children g = []) : Faults.Finds (Blamed g v) (encode g v) := by
  have hiff : ∀ p u r, Blamed g v p u r ↔ encode g v = .error ⟨u, p, r⟩ := fun p u r ↦
    (blamed_iff_isBad hnode hchildren).trans (isBad_iff hnode hcontainer)
  cases hencode : encode g v with
  | ok t =>
    intro p u r hblamed
    cases hencode.symm.trans ((hiff p u r).1 hblamed)
  | error e =>
    refine ⟨(hiff _ _ _).2 hencode, ?_⟩
    intro p u r hblamed
    obtain rfl := Except.error.inj (hencode.symm.trans ((hiff p u r).1 hblamed))
    exact lt_irrefl p

/-- The literal of a value without circles fails for the first bad value in it. -/
theorem finds_blamed (hg : g.IsDirect) (hfree : v.IsCircleFree g) :
    Faults.Finds (Blamed g v) (encode g v) := by
  induction acc_of_isCircleFree hfree with
  | intro v _ ih =>
    cases v with
    | node id =>
      have hcontent := ih _ (.content id) (hfree.of_part (.content id))
      rw [encode_node hfree]
      unfold Blamed at hcontent ⊢
      simp only [Value.met?_node hg]
      exact hcontent
    | sequence kind items =>
      have hitems := finds_encodeItems_of_forall 0 fun w hw ↦
        ih w (.member hw) (hfree.of_part (.member hw))
      rw [encode, encodeTree]
      exact (hitems.congr fun p u r ↦ (blamed_iff_ofMembers (by simp) rfl).symm).map _
    | mapping kind entries =>
      have hentries := finds_encodeEntries_of_forall 0 fun e he ↦
        ⟨ih e.1 (.key he) (hfree.of_part (.key he)), ih e.2 (.value he) (hfree.of_part (.value he))⟩
      rw [encode, encodeTree]
      exact (hentries.congr fun p u r ↦ (blamed_iff_ofMembers (by simp) rfl).symm).map _
    | range start stop step =>
      apply Faults.finds_ok
      intro p u r hblamed
      exact not_isBad_of_isContainer rfl _ ((blamed_iff_isBad (by simp) rfl).1 hblamed)
    | _ => exact finds_blamed_of_leaf (by simp) rfl rfl

end Places

/-! ## The first bad value -/

/-- A bad value is met at a place, and none before it. -/
structure FirstBad (g : Graph) (v : Value) (q : List Nat) (w : Value) (e : EncodingError) : Prop where
  met : v.met? g q = some w
  bad : IsBad g w e
  first : ∀ q' w' e', v.met? g q' = some w' → IsBad g w' e' → ¬ q' < q

section First

variable {g : Graph} {v w w' : Value} {q q' : List Nat} {e e' : EncodingError}

/-- There is one first bad value at most. -/
theorem FirstBad.unique (h : FirstBad g v q w e) (h' : FirstBad g v q' w' e') : q = q' ∧ e = e' := by
  obtain hlt | rfl | hlt := Std.lt_trichotomy q q'
  · exact absurd hlt (h'.first q w e h.met h.bad)
  · obtain rfl := Option.some.inj (h.met.symm.trans h'.met)
    exact ⟨rfl, h.bad.functional h'.bad⟩
  · exact absurd hlt (h.first q' w' e' h'.met h'.bad)

/-- What is inside of a place in front of another, and not around it, is in front of what is inside of it. -/
theorem append_lt_append_of_lt (hlt : q' < q) (hbegins : ¬ q' <+: q) (s t : List Nat) :
    q' ++ s < q ++ t := by
  induction q' generalizing q with
  | nil => exact absurd List.nil_prefix hbegins
  | cons i q' ih =>
    cases q with
    | nil => exact absurd hlt (List.not_lt_nil _)
    | cons j q =>
      rw [List.cons_append, List.cons_append, List.cons_lt_cons_iff]
      obtain hij | ⟨rfl, hrest⟩ := List.cons_lt_cons_iff.1 hlt
      · exact .inl hij
      · exact .inr ⟨rfl, ih hrest fun h ↦ hbegins (List.cons_prefix_cons.2 ⟨rfl, h⟩)⟩

/-- Nothing is met inside of a bad value. -/
theorem IsBad.eq_of_prefix (hbad : IsBad g w' e') (hw' : v.met? g q' = some w')
    (hw : v.met? g q = some w) (hbegins : q' <+: q) : q' = q := by
  obtain ⟨s, rfl⟩ := hbegins
  cases s with
  | nil => rw [List.append_nil]
  | cons i s =>
    obtain ⟨outer, houter, rfl⟩ := Option.map_eq_some_iff.1 hw'
    rw [Value.met?, Value.at?_append, houter, Option.bind_some, Value.at?, hbad.children_eq_nil] at hw
    cases hw

/-- The error about a literal is that of the first bad value. -/
theorem exists_firstBad (hg : g.IsDirect) (hfree : v.IsCircleFree g)
    (hencode : encode g v = .error e) :
    ∃ q w cause, FirstBad g v q w cause ∧ e = ⟨cause.value, q ++ cause.path, cause.reason⟩ := by
  have hfinds := finds_blamed hg hfree
  rw [hencode] at hfinds
  obtain ⟨⟨q, w, cause, hmet, hbad, hpath, hvalue, hreason⟩, hfirst⟩ := hfinds
  refine ⟨q, w, cause, ⟨hmet, hbad, ?_⟩, ?_⟩
  · intro q' w' e' hmet' hbad' hlt
    apply hfirst _ _ _ ⟨q', w', e', hmet', hbad', rfl, rfl, rfl⟩
    rw [hpath]
    apply append_lt_append_of_lt hlt
    intro hbegins
    rw [hbad'.eq_of_prefix hmet' hmet hbegins] at hlt
    exact lt_irrefl q hlt
  · rw [← hpath, ← hvalue, ← hreason]

theorem encode_eq_of_firstBad (hg : g.IsDirect) (hfree : v.IsCircleFree g)
    (h : FirstBad g v q w e) : encode g v = .error ⟨e.value, q ++ e.path, e.reason⟩ := by
  cases hencode : encode g v with
  | ok t =>
    have hfinds := finds_blamed hg hfree
    rw [hencode] at hfinds
    exact absurd ⟨q, w, e, h.met, h.bad, rfl, rfl, rfl⟩ (hfinds _ _ _)
  | error e' =>
    obtain ⟨q', w', cause, hfirst, rfl⟩ := exists_firstBad hg hfree hencode
    obtain ⟨rfl, rfl⟩ := hfirst.unique h
    rfl

/-- Without a bad value there is a text. -/
theorem exists_encode_eq_ok_iff (hg : g.IsDirect) (hfree : v.IsCircleFree g) :
    (∃ t, encode g v = .ok t) ↔ ∀ q w e, v.met? g q = some w → ¬ IsBad g w e := by
  constructor
  · rintro ⟨t, ht⟩ q w e hmet hbad
    have hfinds := finds_blamed hg hfree
    rw [ht] at hfinds
    exact hfinds _ _ _ ⟨q, w, e, hmet, hbad, rfl, rfl, rfl⟩
  · intro hnone
    cases hencode : encode g v with
    | ok t => exact ⟨t, rfl⟩
    | error e =>
      obtain ⟨q, w, cause, hfirst, -⟩ := exists_firstBad hg hfree hencode
      exact absurd hfirst.bad (hnone q w cause hfirst.met)

end First

/-! ## Surrogates -/

/-- No text that is met in the value holds a lone surrogate. -/
def TextsClean (g : Graph) (v : Value) : Prop :=
  ∀ q t derived, v.met? g q = some (.text t derived) → IsClean t

section Surrogates

variable {g : Graph} {v : Value}

theorem textsClean_iff_children (hnode : ∀ id, v ≠ .node id) (htext : ∀ t derived, v ≠ .text t derived) :
    TextsClean g v ↔ ∀ w ∈ v.children g, TextsClean g w := by
  constructor
  · intro h w hw q t derived hmet
    obtain ⟨i, hi⟩ := List.mem_iff_getElem?.1 hw
    apply h (i :: q) t derived
    rw [Value.met?_cons, hi]
    exact hmet
  · intro h q t derived hmet
    cases q with
    | nil =>
      rw [Value.met?_nil, Value.resolve_of_ne_node hnode] at hmet
      exact absurd (Option.some.inj hmet) (htext t derived)
    | cons i q =>
      rw [Value.met?_cons] at hmet
      obtain ⟨w, hw, hmet⟩ := Option.bind_eq_some_iff.1 hmet
      exact h w (List.mem_of_getElem? hw) q t derived hmet

theorem textsClean_text_iff {t : Text} {derived : Bool} :
    TextsClean g (.text t derived) ↔ IsClean t := by
  constructor
  · intro h
    exact h [] t derived rfl
  · intro h q t' derived' hmet
    cases q with
    | nil =>
      cases hmet
      exact h
    | cons i q => cases hmet

theorem isClean_of_ownLiteral {bytes : List UInt8} {t : Text} (h : ownLiteral v bytes = .ok t) :
    IsClean t := by
  unfold ownLiteral at h
  split at h
  · cases h
    exact Text.isClean_ofChars _
  · cases h

/-- The literal of a value that is neither a text nor a container holds no surrogate. -/
theorem isClean_of_leaf (hnode : ∀ id, v ≠ .node id) (hcontainer : v.isContainer = false)
    (htext : ∀ t derived, v ≠ .text t derived) {t : Text} (h : encode g v = .ok t) : IsClean t := by
  cases v with
  | node id => exact absurd rfl (hnode id)
  | text t derived => exact absurd rfl (htext t derived)
  | sequence | mapping | range => cases hcontainer
  | none | int =>
    cases h
    exact Text.isClean_ofChars _
  | bool b =>
    cases h
    cases b <;> exact Text.isClean_ofChars _
  | float x derived =>
    rw [encode, encodeTree] at h
    split at h
    · cases h
      exact Text.isClean_ofChars _
    · cases h
  | labelled t bytes => exact isClean_of_ownLiteral h
  | returning result =>
    rw [encode, encodeTree] at h
    split at h
    · exact isClean_of_ownLiteral h
    · exact isClean_of_ownLiteral h
    · cases h
  | wrapping before inner after =>
    rw [encode, encodeTree] at h
    obtain ⟨literal, -, h⟩ := exists_of_bind_eq_ok (eq_ok_of_mapError_eq_ok h)
    obtain ⟨cs, -, h⟩ := exists_of_bind_eq_ok h
    cases h
    exact Text.isClean_ofChars _
  | arguments items =>
    rw [encode, encodeTree] at h
    split at h
    · cases h
    · obtain ⟨parts, -, h⟩ := exists_of_bind_eq_ok (eq_ok_of_mapError_eq_ok h)
      obtain ⟨cs, -, h⟩ := exists_of_bind_eq_ok h
      cases h
      exact Text.isClean_ofChars _
  | _ => cases h

/-- The text of a value holds a surrogate only if a text that is met in the value does. -/
theorem isClean_iff_textsClean (hg : g.IsDirect) (hfree : v.IsCircleFree g) {t : Text}
    (h : encode g v = .ok t) : IsClean t ↔ TextsClean g v := by
  induction acc_of_isCircleFree hfree generalizing t with
  | intro v _ ih =>
    have hpart : ∀ w, Part g w v → ∀ t, encode g w = .ok t → (IsClean t ↔ TextsClean g w) :=
      fun w hw t ↦ ih w hw (hfree.of_part hw)
    cases v with
    | node id =>
      rw [encode_node hfree] at h
      rw [hpart _ (.content id) t h]
      simp only [TextsClean, Value.met?_node hg]
    | text s derived =>
      cases h
      rw [isClean_quoted_iff, textsClean_text_iff]
    | sequence kind items =>
      rw [encode, encodeTree] at h
      obtain ⟨parts, hparts, rfl⟩ := exists_of_map_eq_ok h
      have hiff := forall_iff_of_encodeItems (fun w hw ↦ hpart w (.member hw)) hparts
      rw [textsClean_iff_children (by simp) (by simp)]
      exact ⟨fun hclean ↦ hiff.1 (isClean_of_sequenceText hclean), fun hall ↦
        isClean_sequenceText kind (hiff.2 hall)⟩
    | mapping kind entries =>
      rw [encode, encodeTree] at h
      obtain ⟨parts, hparts, rfl⟩ := exists_of_map_eq_ok h
      have hiff := forall_iff_of_encodeEntries
        (fun e he ↦ ⟨hpart e.1 (.key he), hpart e.2 (.value he)⟩) hparts
      have hchildren : (∀ w ∈ (Value.mapping kind entries).children g, TextsClean g w) ↔
          ∀ e ∈ entries, TextsClean g e.1 ∧ TextsClean g e.2 := by
        constructor
        · intro hall e he
          exact ⟨hall _ (List.mem_flatMap.2 ⟨e, he, List.mem_cons_self⟩),
            hall _ (List.mem_flatMap.2 ⟨e, he, List.mem_cons_of_mem _ List.mem_cons_self⟩)⟩
        · intro hall w hw
          obtain ⟨e, he, hw⟩ := List.mem_flatMap.1 hw
          obtain rfl | rfl := List.mem_pair.1 hw
          · exact (hall e he).1
          · exact (hall e he).2
      rw [textsClean_iff_children (by simp) (by simp), hchildren]
      exact ⟨fun hclean ↦ hiff.1 (isClean_of_mappingText hclean), fun hall ↦
        isClean_mappingText (hiff.2 hall)⟩
    | range start stop step =>
      have hclean : IsClean t := by
        cases h
        apply isClean_sequenceText .list
        intro part hpart
        obtain ⟨n, -, rfl⟩ := List.mem_map.1 hpart
        exact Text.isClean_ofChars _
      rw [textsClean_iff_children (by simp) (by simp)]
      exact ⟨fun _ w hw ↦ absurd hw List.not_mem_nil, fun _ ↦ hclean⟩
    | _ =>
      have hclean := isClean_of_leaf (by simp) rfl (by simp) h
      rw [textsClean_iff_children (by simp) (by simp)]
      exact ⟨fun _ w hw ↦ absurd hw List.not_mem_nil, fun _ ↦ hclean⟩

end Surrogates

/-! ## Why there is no literal -/

/-- When the literal of a value fails, and for what. -/
structure BlamesFirst (g : Graph) (v : Value) : Prop where
  fails : (∃ e, marshal g v = .error e) ↔
    (∃ q w e, v.met? g q = some w ∧ IsBad g w e) ∨ ∃ t, encode g v = .ok t ∧ ¬ IsClean t
  /-- If there is a bad value, the error is that of the first. -/
  first : (∃ q w e, v.met? g q = some w ∧ IsBad g w e) → ∀ e, marshal g v = .error e ↔
    ∃ q w cause, FirstBad g v q w cause ∧ e = ⟨cause.value, q ++ cause.path, cause.reason⟩
  /-- Otherwise there is a text, and the error, if any, is about the whole value. -/
  surrogate : ∀ t, encode g v = .ok t →
    (∀ e, marshal g v = .error e ↔ ¬ IsClean t ∧ e = ⟨v, [], .loneSurrogate⟩) ∧
      (IsClean t ↔ TextsClean g v)

/-- The literal of a value without circles fails for the first bad value that is met, or else for a surrogate
in one of the texts that are. -/
theorem blamesFirst_of_isCircleFree {g : Graph} {v : Value} (hg : g.IsDirect)
    (hfree : v.IsCircleFree g) : BlamesFirst g v := by
  have hok := exists_encode_eq_ok_iff hg hfree
  have hmarshal : ∀ e, encode g v = .error e → marshal g v = .error e := fun e he ↦
    marshal_eq_error_iff.2 (.inl he)
  have hsurrogate : ∀ t, encode g v = .ok t →
      ∀ e, marshal g v = .error e ↔ ¬ IsClean t ∧ e = ⟨v, [], .loneSurrogate⟩ := by
    intro t ht e
    simp only [marshal_eq_error_iff, ht, finish_eq_error_iff, reduceCtorEq, false_or,
      Except.ok.injEq, exists_eq_left']
  refine ⟨?_, ?_, fun t ht ↦ ⟨hsurrogate t ht, isClean_iff_textsClean hg hfree ht⟩⟩
  · constructor
    · rintro ⟨e, he⟩
      cases hencode : encode g v with
      | error e' =>
        obtain ⟨q, w, cause, hfirst, -⟩ := exists_firstBad hg hfree hencode
        exact .inl ⟨q, w, cause, hfirst.met, hfirst.bad⟩
      | ok t => exact .inr ⟨t, rfl, ((hsurrogate t hencode e).1 he).1⟩
    · rintro (⟨q, w, e, hmet, hbad⟩ | ⟨t, ht, hclean⟩)
      · cases hencode : encode g v with
        | error e' => exact ⟨e', hmarshal e' hencode⟩
        | ok t => exact absurd hbad (hok.1 ⟨t, hencode⟩ q w e hmet)
      · exact ⟨_, (hsurrogate t ht _).2 ⟨hclean, rfl⟩⟩
  · rintro ⟨q, w, bad, hmet, hbad⟩ e
    cases hencode : encode g v with
    | ok t => exact absurd hbad (hok.1 ⟨t, hencode⟩ q w bad hmet)
    | error e' =>
      have he' : marshal g v = .error e ↔ e' = e := by
        rw [hmarshal e' hencode, Except.error.injEq]
      rw [he']
      constructor
      · rintro rfl
        exact exists_firstBad hg hfree hencode
      · rintro ⟨q, w, cause, hfirst, rfl⟩
        exact Except.error.inj (hencode.symm.trans (encode_eq_of_firstBad hg hfree hfirst))

/-- Spliced arguments that stand in two places, one of them no text. -/
def spliceTwice : Graph := ⟨[.arguments [.text "x" false, .int 1 false]]⟩

def spliceTwiceValue : Value :=
  .mapping .dict [(.text "a" false, .sequence .list [.text "b" false, .node 0]),
    (.raising .valueError "late", .node 0)]

theorem isCircleFree_spliceTwiceValue : spliceTwiceValue.IsCircleFree spliceTwice := by
  intro id _ hcircle
  obtain ⟨w, hinvolves, hpart⟩ := Relation.TransGen.tail'_iff.1 hcircle
  cases hpart with
  | content =>
    cases id with
    | succ id =>
      cases hinvolves with
      | tail _ hpart => cases hpart
    | zero =>
      cases hinvolves with
      | tail hinvolves hpart =>
        cases hpart with
        | argument hv =>
          obtain rfl | rfl := List.mem_pair.1 hv
          all_goals
            cases hinvolves with
            | tail _ hpart => cases hpart

/-- The first of the two is to blame, before the marshaler that raises. -/
theorem blamesFirst_of_isCircleFree_spliceTwice :
    spliceTwice.IsDirect ∧ spliceTwiceValue.IsCircleFree spliceTwice ∧
      ∃ q w cause, FirstBad spliceTwice spliceTwiceValue q w cause ∧
        cause.value = .int 1 false ∧ q ++ cause.path = [1, 1, 0, 1] := by
  have hg : spliceTwice.IsDirect := by
    intro v hv
    obtain rfl := List.mem_singleton.1 hv
    simp
  have hbad : IsBad spliceTwice (.arguments [.text "x" false, .int 1 false])
      ⟨.int 1 false, [0, 1], .memberNotText⟩ :=
    @IsBad.argument spliceTwice [.text "x" false] [] _ (by simp [Value.text?]) rfl
  have hblames := blamesFirst_of_isCircleFree hg isCircleFree_spliceTwiceValue
  have hmarshal : marshal spliceTwice spliceTwiceValue =
      .error ⟨.int 1 false, [1, 1, 0, 1], .memberNotText⟩ := rfl
  obtain ⟨q, w, cause, hfirst, he⟩ := (hblames.first ⟨[1, 1], _, _, rfl, hbad⟩ _).1 hmarshal
  obtain ⟨hvalue, hpath, -⟩ := EncodingError.mk.inj he
  exact ⟨hg, isCircleFree_spliceTwiceValue, q, w, cause, hfirst, hvalue.symm, hpath.symm⟩

end Literal

end StarlarkMacro
