import StarlarkMacro.Proofs.Literal.Search

/-!
# Shared containers and containers inside themselves

A graph of containers always has an answer, however it shares its containers and wherever it runs in a
circle. Without a circle the answer is the text of the unfolded value, so that sharing is invisible; and a
container is refused for referring to itself exactly if it stands inside itself before any other fault.
-/

namespace StarlarkMacro

namespace Value

variable {g : Graph} {v u w : Value}

/-- The value is a container, or a scalar or a text with a literal. -/
def IsEncodable : Value → Prop
  | .text t _ => t.IsClean
  | v => v.ownFault? = Option.none

/-- No node in the value can be reached from itself. A container that is no node stands in one place only, so
that no circle can close in it. -/
def IsAcyclic (g : Graph) (v : Value) : Prop :=
  ∀ id, Occurs g (.node id) v → ¬ Occurs g (.node id) (g.node id)

theorem IsEncodable.ownFault? (h : v.IsEncodable) : v.ownFault? = Option.none := by
  cases v with
  | text => rfl
  | _ => exact h

theorem isEncodable_of_isContainer (h : v.isContainer = true) : v.IsEncodable := by
  cases v with
  | text => cases h
  | _ => exact ownFault?_of_isContainer h

theorem occurs_of_resolve (h : Occurs g u (v.resolve g)) : Occurs g u v := by
  cases v with
  | node => exact .node h
  | _ => exact h

theorem occurs_of_mem_children (hw : w ∈ v.children g) (h : Occurs g u w) :
    Occurs g u (v.resolve g) := by
  unfold children at hw
  split at hw
  · rw [‹v.resolve g = _›]
    exact .member hw h
  · rw [‹v.resolve g = _›]
    obtain ⟨e, he, hw⟩ := List.mem_flatMap.1 hw
    simp only [List.mem_cons, List.not_mem_nil, or_false] at hw
    obtain rfl | rfl := hw
    · exact .key he h
    · exact .value he h
  · cases hw

mutual

/-- No marshaler is written in the value. What its nodes stand for is not looked at. -/
def isPlain : Value → Bool
  | .sequence _ items => arePlain items
  | .mapping _ entries => areEntriesPlain entries
  | .arguments _ | .labelled .. | .returning _ | .wrapping .. | .raising .. | .refusing ..
  | .marshalerClass => false
  | _ => true

def arePlain : List Value → Bool
  | [] => true
  | v :: vs => v.isPlain && arePlain vs

def areEntriesPlain : List (Value × Value) → Bool
  | [] => true
  | (k, v) :: rest => k.isPlain && v.isPlain && areEntriesPlain rest

end

theorem arePlain_iff {vs : List Value} : arePlain vs = true ↔ ∀ v ∈ vs, v.isPlain = true := by
  induction vs with
  | nil => simp [arePlain]
  | cons v vs ih => simp [arePlain, ih]

theorem areEntriesPlain_iff {entries : List (Value × Value)} :
    areEntriesPlain entries = true ↔ ∀ e ∈ entries, e.1.isPlain = true ∧ e.2.isPlain = true := by
  induction entries with
  | nil => simp [areEntriesPlain]
  | cons e entries ih => simp [areEntriesPlain, ih, and_assoc]

/-- A value is plain if no marshaler is written in it or in a node. -/
theorem plain_of_isPlain (hg : ∀ n ∈ g.nodes, n.isPlain = true) (hv : v.isPlain = true) :
    v.Plain g := by
  have hnode (id : Nat) : (g.node id).isPlain = true := by
    obtain ⟨hmem, -⟩ | hnone := g.node_cases id
    · exact hg _ hmem
    · rw [hnone]
      rfl
  intro w hw
  have hplain : w.isPlain = true := by
    induction hw with
    | here => exact hv
    | member hmem _ ih => exact ih (arePlain_iff.1 hv _ hmem)
    | key he _ ih => exact ih (areEntriesPlain_iff.1 hv _ he).1
    | value he _ ih => exact ih (areEntriesPlain_iff.1 hv _ he).2
    | node _ ih => exact ih (hnode _)
  have hresolve : (w.resolve g).isPlain = true := by
    cases w with
    | node id => exact hnode id
    | _ => exact hplain
  unfold hasMarshalMethod
  split <;> simp_all [isPlain]

/-- What stands below a value occurs in what the value stands for. -/
theorem occurs_of_at?_cons {i : Nat} {p : List Nat} (h : v.at? g (i :: p) = some u) :
    Occurs g u (v.resolve g) := by
  induction p generalizing v i with
  | nil =>
    obtain ⟨w, hw, h⟩ := Option.bind_eq_some_iff.1 h
    obtain rfl : w = u := Option.some.inj h
    exact occurs_of_mem_children (List.mem_of_getElem? hw) .here
  | cons j p ih =>
    obtain ⟨w, hw, h⟩ := Option.bind_eq_some_iff.1 h
    exact occurs_of_mem_children (List.mem_of_getElem? hw) (occurs_of_resolve (ih h))

theorem occurs_of_at? {p : List Nat} (h : v.at? g p = some u) : Occurs g u v := by
  cases p with
  | nil =>
    obtain rfl : v = u := Option.some.inj h
    exact .here
  | cons i p => exact occurs_of_resolve (occurs_of_at?_cons h)

/-- A path that goes on leads from where its beginning has led. -/
theorem at?_append (q p : List Nat) : v.at? g (q ++ p) = (v.at? g q).bind (at? g p) := by
  induction q generalizing v with
  | nil => rfl
  | cons i q ih =>
    simp only [List.cons_append, at?, Option.bind_assoc]
    congr 1
    funext w
    exact ih

/-- Where nothing can be reached from itself, nothing is its own ancestor. -/
theorem IsAcyclic.not_isOwnAncestor (h : v.IsAcyclic g) (p : List Nat) (id : Nat) :
    ¬ v.IsOwnAncestor g p id := by
  rintro ⟨hp, q, ⟨s, rfl⟩, hne, hq⟩
  rw [at?_append, hq, Option.bind_some] at hp
  cases s with
  | nil => exact hne (List.append_nil q).symm
  | cons i s => exact h id (occurs_of_at? hq) (occurs_of_at?_cons hp)

end Value

namespace Text

theorem IsClean.append {s t : Text} (hs : IsClean s) (ht : IsClean t) : IsClean (s ++ t) :=
  List.forall_mem_append.2 ⟨hs, ht⟩

/-- What holds of the characters of a separator and of some parts. -/
theorem forall_mem_intercalate {α : Type} {P : α → Prop} {separator : List α}
    (hseparator : ∀ c ∈ separator, P c) {parts : List (List α)} (h : ∀ part ∈ parts, ∀ c ∈ part, P c) :
    ∀ c ∈ separator.intercalate parts, P c := by
  cases parts with
  | nil => exact fun c hc ↦ absurd hc List.not_mem_nil
  | cons first parts =>
    rw [Datum.intercalate_cons, List.forall_mem_append]
    refine ⟨h first (by simp), fun c hc ↦ ?_⟩
    obtain ⟨part, hpart, hc⟩ := List.mem_flatMap.1 hc
    exact List.forall_mem_append.2 ⟨hseparator, h part (by simp [hpart])⟩ c hc

end Text

namespace Literal

open Text (IsClean isClean_ofChars)

/-! ## What the texts of containers are made from -/

section Characters

/-- The characters between and around the members of a container. -/
def punctuation : List Char := ['[', ']', '(', ')', '\x7b', '\x7d', ',', ':', ' ']

variable {P : CodePoint → Prop} (hpunctuation : ∀ c ∈ punctuation, P (.char c))
  {parts : List Text}

include hpunctuation

theorem forall_mem_ofChars_of_subset {cs : List Char} (hcs : cs ⊆ punctuation) :
    ∀ c ∈ Text.ofChars cs, P c := by
  intro c hc
  obtain ⟨x, hx, rfl⟩ := List.mem_map.1 hc
  exact hpunctuation x (hcs hx)

theorem forall_mem_commaSeparated (h : ∀ part ∈ parts, ∀ c ∈ part, P c) :
    ∀ c ∈ commaSeparated parts, P c :=
  Text.forall_mem_intercalate (forall_mem_ofChars_of_subset hpunctuation (by decide)) h

theorem forall_mem_sequenceText (kind : SequenceKind) (h : ∀ part ∈ parts, ∀ c ∈ part, P c) :
    ∀ c ∈ sequenceText kind parts, P c := by
  have hparts := forall_mem_commaSeparated hpunctuation h
  have hlist : ∀ c ∈ listText parts, P c := by
    rw [listText, List.forall_mem_append, List.forall_mem_append]
    exact ⟨⟨forall_mem_ofChars_of_subset hpunctuation (by decide), hparts⟩,
      forall_mem_ofChars_of_subset hpunctuation (by decide)⟩
  have htuple : ∀ c ∈ tupleText parts, P c := by
    rw [tupleText, List.forall_mem_append, List.forall_mem_append]
    refine ⟨⟨forall_mem_ofChars_of_subset hpunctuation (by decide), hparts⟩, ?_⟩
    split
    · exact forall_mem_ofChars_of_subset hpunctuation (by decide)
    · exact forall_mem_ofChars_of_subset hpunctuation (by decide)
  cases kind
  · exact hlist
  · exact htuple
  · exact htuple
  all_goals exact hlist

theorem forall_mem_mappingText {entries : List (Text × Text)}
    (h : ∀ e ∈ entries, (∀ c ∈ e.1, P c) ∧ ∀ c ∈ e.2, P c) : ∀ c ∈ mappingText entries, P c := by
  have hentries : ∀ part ∈ entries.map entryText, ∀ c ∈ part, P c := by
    intro part hpart
    obtain ⟨e, he, rfl⟩ := List.mem_map.1 hpart
    rw [entryText, List.forall_mem_append, List.forall_mem_append]
    exact ⟨⟨(h e he).1, forall_mem_ofChars_of_subset hpunctuation (by decide)⟩, (h e he).2⟩
  rw [mappingText, List.forall_mem_append, List.forall_mem_append]
  exact ⟨⟨forall_mem_ofChars_of_subset hpunctuation (by decide),
    forall_mem_commaSeparated hpunctuation hentries⟩,
    forall_mem_ofChars_of_subset hpunctuation (by decide)⟩

end Characters

section Clean

theorem isClean_sequenceText (kind : SequenceKind) {parts : List Text}
    (h : ∀ part ∈ parts, IsClean part) : IsClean (sequenceText kind parts) :=
  forall_mem_sequenceText (fun c _ ↦ ⟨c, rfl⟩) kind h

theorem isClean_mappingText {entries : List (Text × Text)}
    (h : ∀ e ∈ entries, IsClean e.1 ∧ IsClean e.2) : IsClean (mappingText entries) :=
  forall_mem_mappingText (fun c _ ↦ ⟨c, rfl⟩) h

/-- Quoting keeps lone surrogates and adds none. -/
theorem isClean_quoted_iff {t : Text} : IsClean t.quoted ↔ IsClean t := by
  constructor
  · intro h c hc
    cases c with
    | char x => exact ⟨x, rfl⟩
    | surrogate offset =>
      have hunit : CodePoint.surrogate offset ∈ Text.quotedUnit (.surrogate offset) := by
        simp [Text.quotedUnit]
      have hmem : CodePoint.surrogate offset ∈ t.quoted :=
        List.mem_append_left _ (List.mem_cons_of_mem _ (List.mem_flatMap.2 ⟨_, hc, hunit⟩))
      obtain ⟨x, hx⟩ := h _ hmem
      cases hx
  · intro h
    obtain ⟨cs, rfl⟩ := h.exists_eq_ofChars
    rw [Text.quoted_ofChars]
    exact isClean_ofChars _

end Clean

section Encodable

variable {g : Graph} {node : List Nat → Nat → Except EncodingError Text} {above : List Nat}

/-- What is given for a node of encodable values is clean. -/
def NodesClean (g : Graph) (node : List Nat → Nat → Except EncodingError Text) : Prop :=
  ∀ above id t, node above id = .ok t → (Value.node id).Plain g →
    (∀ w, Occurs g w (.node id) → w.IsEncodable) → IsClean t

mutual

/-- By cases on the value. Only texts can bring a surrogate, and a text that does is not encodable. -/
theorem isClean_of_encodeTree (hnode : NodesClean g node) :
    ∀ (v : Value) {t : Text}, encodeTree g node above v = .ok t → v.Plain g →
      (∀ w, Occurs g w v → w.IsEncodable) → IsClean t
  | .none, _, h, _, _ => by
    cases h
    exact isClean_ofChars _
  | .bool b, _, h, _, _ => by
    cases h
    cases b <;> exact isClean_ofChars _
  | .int .., _, h, _, _ => by
    cases h
    exact isClean_ofChars _
  | .float .., _, h, _, _ => by
    rw [encodeTree] at h
    split at h
    · cases h
      exact isClean_ofChars _
    · cases h
  | .text .., _, h, _, hall => by
    cases h
    exact isClean_quoted_iff.2 (hall _ .here)
  | .sequence kind items, _, h, hplain, hall => by
    obtain ⟨parts, hparts, rfl⟩ := exists_of_map_eq_ok h
    apply isClean_sequenceText
    exact isClean_of_encodeItems hnode 0 items hparts hplain.member
      fun v hv w hw ↦ hall w (.member hv hw)
  | .range .., _, h, _, _ => by
    cases h
    apply isClean_sequenceText .list
    intro part hpart
    obtain ⟨n, -, rfl⟩ := List.mem_map.1 hpart
    exact isClean_ofChars _
  | .mapping kind entries, _, h, hplain, hall => by
    obtain ⟨parts, hparts, rfl⟩ := exists_of_map_eq_ok h
    apply isClean_mappingText
    exact isClean_of_encodeEntries hnode 0 entries hparts hplain.entries
      fun e he ↦ ⟨fun w hw ↦ hall w (.key he hw), fun w hw ↦ hall w (.value he hw)⟩
  | .node id, t, h, hplain, hall => hnode above id t h hplain hall
  | .arguments _, _, _, hplain, _ | .labelled .., _, _, hplain, _ | .returning _, _, _, hplain, _
  | .wrapping .., _, _, hplain, _ | .raising .., _, _, hplain, _ | .refusing .., _, _, hplain, _
  | .marshalerClass, _, _, hplain, _ => by cases hplain.hasMarshalMethod
  | .binary .., _, h, _, _ | .set .., _, h, _, _ | .complex .., _, h, _, _ | .object _, _, h, _, _ => by
    cases h

theorem isClean_of_encodeItems (hnode : NodesClean g node) (i : Nat) :
    ∀ (items : List Value) {parts : List Text}, encodeItems g node above i items = .ok parts →
      (∀ v ∈ items, v.Plain g) → (∀ v ∈ items, ∀ w, Occurs g w v → w.IsEncodable) →
      ∀ part ∈ parts, IsClean part
  | [], _, h, _, _ => by
    cases h
    simp
  | v :: vs, _, h, hplain, hall => by
    obtain ⟨literal, hliteral, h⟩ := exists_of_bind_eq_ok h
    obtain ⟨rest, hrest, h⟩ := exists_of_bind_eq_ok h
    cases h
    refine List.forall_mem_cons.2 ⟨?_, ?_⟩
    · exact isClean_of_encodeTree hnode v (eq_ok_of_mapError_eq_ok hliteral) (hplain v (by simp))
        (hall v (by simp))
    · exact isClean_of_encodeItems hnode (i + 1) vs hrest (fun w hw ↦ hplain w (by simp [hw]))
        fun w hw ↦ hall w (by simp [hw])

theorem isClean_of_encodeEntries (hnode : NodesClean g node) (i : Nat) :
    ∀ (entries : List (Value × Value)) {parts : List (Text × Text)},
      encodeEntries g node above i entries = .ok parts →
      (∀ e ∈ entries, e.1.Plain g ∧ e.2.Plain g) →
      (∀ e ∈ entries, (∀ w, Occurs g w e.1 → w.IsEncodable) ∧ ∀ w, Occurs g w e.2 → w.IsEncodable) →
      ∀ p ∈ parts, IsClean p.1 ∧ IsClean p.2
  | [], _, h, _, _ => by
    cases h
    simp
  | (k, v) :: entries, _, h, hplain, hall => by
    obtain ⟨key, hkey, h⟩ := exists_of_bind_eq_ok h
    obtain ⟨value, hvalue, h⟩ := exists_of_bind_eq_ok h
    obtain ⟨rest, hrest, h⟩ := exists_of_bind_eq_ok h
    cases h
    obtain ⟨hkeyPlain, hvaluePlain⟩ := hplain (k, v) (by simp)
    obtain ⟨hkeyAll, hvalueAll⟩ := hall (k, v) (by simp)
    refine List.forall_mem_cons.2 ⟨⟨?_, ?_⟩, ?_⟩
    · exact isClean_of_encodeTree hnode k (eq_ok_of_mapError_eq_ok hkey) hkeyPlain hkeyAll
    · exact isClean_of_encodeTree hnode v (eq_ok_of_mapError_eq_ok hvalue) hvaluePlain hvalueAll
    · exact isClean_of_encodeEntries hnode (i + 1) entries hrest
        (fun e he ↦ hplain e (by simp [he])) fun e he ↦ hall e (by simp [he])

end

theorem nodesClean_encodeNode (depth : Nat) : NodesClean g (encodeNode g depth) := by
  induction depth with
  | zero =>
    intro above id t h
    rw [encodeNode] at h
    split at h <;> cases h
  | succ depth ih =>
    intro above id t h hplain hall
    rw [encodeNode] at h
    split at h
    · cases h
    · exact isClean_of_encodeTree ih _ h hplain.of_node fun w hw ↦ hall w (.node hw)

end Encodable

/-! ## The answer for a graph of containers -/

section Answer

variable {g : Graph} {v : Value}

theorem finds_encode (hg : g.IsOfContainers) (hv : v.Plain g) :
    Faults.Finds (IsFault g [] v) (encode g v) :=
  finds_encodeTree (nodesFind_encodeNode hg (hasRoom_of_depth_le (Nat.le_refl _))) v hv

theorem marshal_eq_error_iff {e : EncodingError} :
    marshal g v = .error e ↔
      encode g v = .error e ∨ ∃ t, encode g v = .ok t ∧ finish v t = .error e := by
  rw [marshal]
  cases encode g v with
  | error e' => simp [bind, Except.bind]
  | ok t => simp [bind, Except.bind]

theorem eq_loneSurrogate_of_finish {t : Text} {e : EncodingError} (h : finish v t = .error e) :
    e = ⟨v, [], .loneSurrogate⟩ := by
  unfold finish at h
  split at h
  · cases h
  · cases h
    rfl

/-- The error about a graph of containers is its first fault, or there is none and a text has a surrogate. -/
theorem isFault_of_marshal_eq_error (hg : g.IsOfContainers) (hv : v.Plain g) {e : EncodingError}
    (h : marshal g v = .error e) :
    (IsFault g [] v e.path e.value e.reason ∧ ∀ q u r, q < e.path → ¬ IsFault g [] v q u r) ∨
      e.reason = .loneSurrogate := by
  have hfinds := finds_encode hg hv
  obtain hencode | ⟨t, -, hfinish⟩ := marshal_eq_error_iff.1 h
  · rw [hencode] at hfinds
    exact .inl ⟨hfinds.1, fun q u r hlt hq ↦ hfinds.2 q u r hq hlt⟩
  · exact .inr (by rw [eq_loneSurrogate_of_finish hfinish])

/-- The first fault is the error, whatever texts there are. -/
theorem marshal_eq_error_of_isFault (hg : g.IsOfContainers) (hv : v.Plain g) {p : List Nat}
    {u : Value} {r : Reason} (h : IsFault g [] v p u r)
    (hfirst : ∀ q u r, q < p → ¬ IsFault g [] v q u r) : marshal g v = .error ⟨u, p, r⟩ := by
  have hfinds := finds_encode hg hv
  refine marshal_eq_error_iff.2 (.inl ?_)
  cases hencode : encode g v with
  | ok t =>
    rw [hencode] at hfinds
    exact absurd h (hfinds p u r)
  | error e =>
    rw [hencode] at hfinds
    obtain ⟨he, hnone⟩ := hfinds
    obtain hlt | heq | hlt := Std.lt_trichotomy e.path p
    · exact absurd he (hfirst _ _ _ hlt)
    · rw [heq] at he
      obtain ⟨hvalue, hreason⟩ := he.functional h
      rw [← heq, ← hvalue, ← hreason]
    · exact absurd hlt (hnone p u r h)

theorem exists_reason_of_isFault {p : List Nat} {u : Value} {r : Reason} (h : IsFault g [] v p u r) :
    r = .notFinite ∨ r = .byteString ∨ r = .unsupported ∨ r = .selfReference := by
  cases h with
  | own hu hr =>
    unfold Value.ownFault? at hr
    split at hr
    · split at hr <;> simp_all
    all_goals simp_all
  | inside => simp
  | ancestor => simp

/-- A value without faults whose texts are clean has the literal of its datum. -/
theorem exists_denotes_of_isAcyclic (hg : g.IsOfContainers) (hv : v.Plain g) (hacyclic : v.IsAcyclic g)
    (hall : ∀ w, Occurs g w v → w.IsEncodable) : ∃ d, Denotes g v d ∧ marshal g v = .ok d.text := by
  have hnone : ∀ p u r, ¬ IsFault g [] v p u r := by
    intro p u r h
    cases h with
    | own hu hr =>
      rw [(hall u (Value.occurs_of_at? hu)).ownFault?] at hr
      cases hr
    | inside _ habove => cases habove
    | ancestor h => exact hacyclic.not_isOwnAncestor p _ h
  have hfinds := finds_encode hg hv
  cases hencode : encode g v with
  | error e =>
    rw [hencode] at hfinds
    exact absurd hfinds.1 (hnone _ _ _)
  | ok t =>
    have hclean := isClean_of_encodeTree (nodesClean_encodeNode g.depth) v hencode hv hall
    obtain ⟨cs, rfl⟩ := hclean.exists_eq_ofChars
    have hmarshal : marshal g v = .ok cs := by
      rw [marshal, hencode]
      change finish v (Text.ofChars cs) = .ok cs
      rw [finish, Text.chars?_ofChars]
    obtain ⟨d, hd, rfl⟩ := denotes_of_marshal hmarshal hv
    exact ⟨d, hd, hmarshal⟩

/-- The only fault whose message is that of a self-reference is one. -/
theorem eq_selfReference_of_message {r : Reason} (h : r.message = Text.ofString "container refers to itself")
    (hr : (r = .notFinite ∨ r = .byteString ∨ r = .unsupported ∨ r = .selfReference) ∨
      r = .loneSurrogate) : r = .selfReference := by
  obtain (rfl | rfl | rfl | rfl) | rfl := hr
  · exact absurd h (by decide)
  · exact absurd h (by decide)
  · exact absurd h (by decide)
  · rfl
  · exact absurd h (by decide)

/-- The answer for a graph of containers, with no marshaler in it. -/
theorem marshal_of_isOfContainers (hg : g.IsOfContainers) (hv : v.Plain g) :
    -- More levels change nothing, and the last level is never reached.
    (∀ depth, g.depth ≤ depth → encodeTree g (encodeNode g depth) [] v = encode g v) ∧
    (∀ e, marshal g v = .error e → ∀ error argument, e.reason ≠ .raised error argument) ∧
    -- Without a circle, the literal is that of the unfolded value.
    (v.IsAcyclic g → (∀ w, Occurs g w v → w.IsEncodable) →
      ∃ d, Denotes g v d ∧ marshal g v = .ok d.text) ∧
    -- A container that is its own ancestor is the value of the error if nothing is at fault before it.
    (∀ p id, v.IsOwnAncestor g p id → (∀ q u r, q < p → ¬ IsFault g [] v q u r) →
      ∃ e, marshal g v = .error e ∧ e.value = .node id ∧ e.path = p ∧
        e.reason.message = Text.ofString "container refers to itself") ∧
    -- No other container is.
    ∀ e, marshal g v = .error e → e.reason.message = Text.ofString "container refers to itself" →
      ∃ id, e.value = .node id ∧ v.IsOwnAncestor g e.path id ∧
        ∀ q u r, q < e.path → ¬ IsFault g [] v q u r := by
  refine ⟨fun depth hdepth ↦ ?_, fun e he ↦ ?_, exists_denotes_of_isAcyclic hg hv,
    fun p id hown hfirst ↦ ?_, fun e he hmessage ↦ ?_⟩
  · apply encodeTree_congr _ v hv
    exact encodeNode_congr hg (hasRoom_of_depth_le hdepth) (hasRoom_of_depth_le (Nat.le_refl _))
  · rintro error argument hraised
    obtain ⟨hfault, -⟩ | hreason := isFault_of_marshal_eq_error hg hv he
    · obtain h | h | h | h := exists_reason_of_isFault hfault
      all_goals
        rw [h] at hraised
        cases hraised
    · rw [hreason] at hraised
      cases hraised
  · exact ⟨_, marshal_eq_error_of_isFault hg hv (.ancestor hown) hfirst, rfl, rfl, rfl⟩
  · have hcases := isFault_of_marshal_eq_error hg hv he
    have hreason := eq_selfReference_of_message hmessage
      (hcases.imp_left fun h ↦ exists_reason_of_isFault h.1)
    obtain ⟨hfault, hfirst⟩ | hsurrogate := hcases
    · rw [hreason] at hfault
      obtain ⟨id, hvalue, hown⟩ := isFault_selfReference_iff.1 hfault
      exact ⟨id, hvalue, hown, hfirst⟩
    · rw [hreason] at hsurrogate
      cases hsurrogate

/-- A queue that is key and value of one entry of a mapping, which holds itself in a tuple. -/
def sharedInCircle : Graph :=
  ⟨[.sequence .deque [.text "x" false],
    .mapping .other [(.node 0, .node 0), (.text "loop" false, .sequence .tuple [.node 1])]]⟩

/-- The mapping refers to itself. The queue is shared by two containers, one of them in the other, and has its
literal in both. -/
theorem marshal_of_isOfContainers_sharedInCircle :
    (∃ e, marshal sharedInCircle (.node 1) = .error e ∧ e.value = .node 1 ∧ e.path = [3, 0] ∧
      e.reason.message = Text.ofString "container refers to itself") ∧
    ∃ d, Denotes sharedInCircle (.sequence .list [.node 0, .sequence .tuple [.node 0]]) d ∧
      marshal sharedInCircle (.sequence .list [.node 0, .sequence .tuple [.node 0]]) = .ok d.text := by
  have hg : sharedInCircle.IsOfContainers := by
    unfold Graph.IsOfContainers
    decide
  constructor
  · have hv : (Value.node 1).Plain sharedInCircle := Value.plain_of_isPlain (by decide) rfl
    obtain ⟨-, -, -, hfound, hnone⟩ := marshal_of_isOfContainers hg hv
    obtain ⟨id, hid, hown, hfirst⟩ := hnone ⟨.node 1, [3, 0], .selfReference⟩ rfl rfl
    exact hfound [3, 0] 1 (Value.node.inj hid ▸ hown) hfirst
  · have hv : (Value.sequence .list [.node 0, .sequence .tuple [.node 0]]).Plain sharedInCircle :=
      Value.plain_of_isPlain (by decide) rfl
    have hqueue : ∀ w, Occurs sharedInCircle w (sharedInCircle.node 0) →
        w = sharedInCircle.node 0 ∨ w = .text "x" false := by
      intro w hw
      cases hw with
      | here => exact .inl rfl
      | member hmem hw =>
        obtain rfl := List.mem_singleton.1 hmem
        cases hw
        exact .inr rfl
    have hnode : ∀ w, Occurs sharedInCircle w (.node 0) →
        w.isContainer = true ∨ w = .node 0 ∨ w = .text "x" false := by
      intro w hw
      cases hw with
      | here => exact .inr (.inl rfl)
      | node hw =>
        obtain rfl | rfl := hqueue w hw
        · exact .inl rfl
        · exact .inr (.inr rfl)
    have hlist : ∀ w, Occurs sharedInCircle w (.sequence .list [.node 0, .sequence .tuple [.node 0]]) →
        w.isContainer = true ∨ w = .node 0 ∨ w = .text "x" false := by
      intro w hw
      cases hw with
      | here => exact .inl rfl
      | member hmem hw =>
        obtain rfl | hmem := List.mem_cons.1 hmem
        · exact hnode w hw
        · obtain rfl := List.mem_singleton.1 hmem
          cases hw with
          | here => exact .inl rfl
          | member hmem hw =>
            obtain rfl := List.mem_singleton.1 hmem
            exact hnode w hw
    refine (marshal_of_isOfContainers hg hv).2.2.1 (fun id hid hcircle ↦ ?_) fun w hw ↦ ?_
    · obtain h | h | h := hlist _ hid
      · cases h
      · rw [h, Value.node.inj h] at hcircle
        obtain h | h := hqueue _ hcircle <;> cases h
      · cases h
    · obtain h | rfl | rfl := hlist w hw
      · exact Value.isEncodable_of_isContainer h
      · rfl
      · exact isClean_ofChars _

end Answer

end Literal

end StarlarkMacro
