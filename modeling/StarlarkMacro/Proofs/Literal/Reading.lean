import StarlarkMacro.Proofs.Literal.Pieces
import StarlarkMacro.Proofs.Source.Expression

/-!
# Data as expressions

The tokens of a datum are one expression, whatever stop follows them. A text is told from other expressions
and keeps its literal; of all else the tree keeps only that it is there.
-/

namespace StarlarkMacro.Datum

open Source Source.Reader

/-- The kinds of the tokens of a datum. -/
def kinds (d : Datum) : List TokenKind := (d.pieces false).map Piece.kind

def tree : Datum → Expression
  | string cs => .string (Text.Quoted.encode cs)
  | _ => .other

def entryKinds (e : Datum × Datum) : List TokenKind := e.1.kinds ++ .symbol .colon :: e.2.kinds

/-- A space before the first piece changes no kind. -/
theorem map_kind_pieces (spaced : Bool) (d : Datum) : (d.pieces spaced).map Piece.kind = d.kinds := by
  unfold kinds
  cases d with
  | bool b => cases b <;> rfl
  | int n => simp only [pieces, signedPieces]; split <;> rfl
  | float x => simp only [pieces, signedPieces]; split <;> rfl
  | _ => rfl

theorem map_kind_morePieces (ds : List Datum) :
    (morePieces ds).map Piece.kind = moreKinds kinds ds := by
  induction ds with
  | nil => rfl
  | cons d ds ih => rw [morePieces, List.map_append, List.map_cons, map_kind_pieces, ih]; rfl

/-- The members of a list are laid out as the readers of lists expect them. -/
theorem map_kind_membersPieces (d : Datum) (ds : List Datum) :
    (membersPieces (d :: ds)).map Piece.kind = listedKinds kinds d ds := by
  rw [membersPieces, List.map_append, map_kind_pieces, map_kind_morePieces]
  rfl

theorem map_kind_moreEntriesPieces (es : List (Datum × Datum)) :
    (moreEntriesPieces es).map Piece.kind = moreKinds entryKinds es := by
  induction es with
  | nil => rfl
  | cons e es ih =>
    obtain ⟨k, v⟩ := e
    simp only [moreEntriesPieces, List.map_append, List.map_cons, map_kind_pieces, ih, moreKinds,
      List.flatMap_cons, entryKinds, List.cons_append, List.append_assoc]
    rfl

/-- Entries as well, each being a key and a value around a colon. -/
theorem map_kind_entriesPieces (e : Datum × Datum) (es : List (Datum × Datum)) :
    (entriesPieces (e :: es)).map Piece.kind = listedKinds entryKinds e es := by
  obtain ⟨k, v⟩ := e
  simp only [entriesPieces, List.map_append, List.map_cons, map_kind_pieces,
    map_kind_moreEntriesPieces, listedKinds, moreKinds, entryKinds, List.append_assoc,
    List.cons_append]
  rfl

/-- Every datum begins with an atom or a sign, which is what the levels of the grammar test for. -/
theorem begins_kinds (d : Datum) : Begins opensOperand d.kinds := by
  cases d with
  | bool b => cases b <;> exact ⟨_, _, rfl, rfl⟩
  | int n => simp only [kinds, pieces, signedPieces]; split <;> exact ⟨_, _, rfl, rfl⟩
  | float x => simp only [kinds, pieces, signedPieces]; split <;> exact ⟨_, _, rfl, rfl⟩
  | _ => exact ⟨_, _, rfl, rfl⟩

/-- A name at the start could be that of a parameter or of a walrus. -/
theorem head?_kinds_ne_name (d : Datum) (rest : List TokenKind) (text : List Char) :
    (d.kinds ++ rest).head? ≠ some (.name text) := by
  cases d with
  | bool b => cases b <;> simp [kinds, pieces]
  | int n => simp only [kinds, pieces, signedPieces]; split <;> simp [Layout.numberKind]
  | float x => simp only [kinds, pieces, signedPieces]; split <;> simp [Layout.numberKind]
  | _ => simp [kinds, pieces]

/-! ## Members -/

/-- A datum is read as one expression in front of any stop, inside phrases of that depth. -/
def IsRead (n : Nat) (d : Datum) : Prop :=
  ∀ rest, Stops rest → Reads (phrase n .expression) d.kinds rest (·.tree = d.tree)

section Member

variable {n : Nat} {rest : List TokenKind} {d : Datum}

theorem reads_nextIsNaming : Reads nextIsNaming [] (d.kinds ++ rest) (· = false) :=
  (reads_nextIsName_of_ne (d.head?_kinds_ne_name rest)).last fun _ hname ↦
    reads_peekSecond.last fun _ _ ↦ .pure (by rw [hname]; rfl)

/-- A member stands where a named expression may stand, and where a starred one may. -/
theorem reads_namedExpression (h : IsRead n d) (hrest : Stops rest) :
    Reads (namedExpression (phrase n)) d.kinds rest (·.tree = d.tree) :=
  .unless reads_nextIsNaming (h rest hrest)

theorem reads_starOr (h : IsRead n d) (hrest : Stops rest) :
    Reads (starOr (phrase n) (namedExpression (phrase n))) d.kinds rest (·.tree = d.tree) :=
  .unless (reads_acceptSymbol_of_ne (d.begins_kinds.head?_ne rfl)) (reads_namedExpression h hrest)

end Member

section Container

variable {n : Nat} {rest : List TokenKind}

/-- The symbols that close a display. -/
def closesDisplay (s : Symbol) : Bool := [Symbol.rightParen, .rightBracket, .rightBrace].contains s

/-- A datum does not begin with what closes a display, so a display that has members is not taken for empty.
-/
theorem ne_closing {closing : Symbol} (h : closesDisplay closing = true) (d : Datum) :
    ∃ k ks, d.kinds = k :: ks ∧ k ≠ .symbol closing := by
  obtain ⟨k, ks, hkinds, hk⟩ := d.begins_kinds
  refine ⟨k, ks, hkinds, ?_⟩
  rintro rfl
  cases closing <;> simp_all [closesDisplay, opensOperand, opensAtom]

theorem stops_closing {closing : Symbol} (h : closesDisplay closing = true) :
    Stops (.symbol closing :: rest) :=
  ⟨_, rest, rfl, by cases closing <;> simp_all [closesDisplay, isStop]⟩

theorem stops_moreKinds {ι : Type} (kinds : ι → List TokenKind) (xs : List ι) {closing : Symbol}
    (h : closesDisplay closing = true) :
    Stops (moreKinds kinds xs ++ .symbol closing :: rest) := by
  cases xs with
  | nil => exact stops_closing h
  | cons x xs => exact ⟨_, _, rfl, rfl⟩

/-- The members behind a comma, up to the closing symbol. -/
theorem reads_members {closing : Symbol} (hclosing : closesDisplay closing = true) (d : Datum)
    (ds : List Datum) (h : ∀ e ∈ d :: ds, IsRead n e) :
    Reads (commaListBefore closing (starOr (phrase n) (namedExpression (phrase n))))
      (listedKinds kinds d ds ++ [.symbol closing]) rest fun _ ↦ True := by
  have hcomma : closing ≠ .comma := by
    rintro rfl
    cases hclosing
  exact (reads_commaListBefore hcomma d ds
    (fun e he _ hafter ↦ reads_starOr (h e he) ((stops_closing hclosing).of_follows hafter))
    fun e _ ↦ ne_closing hclosing e).mono fun _ _ ↦ trivial

/-- Behind its first member a display goes on with commas and members up to the closing bracket. -/
theorem reads_restOfList {closing : Symbol} (hclosing : closesDisplay closing = true)
    (ds : List Datum) (h : ∀ e ∈ ds, IsRead n e) :
    Reads (restOfList (phrase n) closing) (moreKinds kinds ds ++ [.symbol closing]) rest
      (·.tree = .other) := by
  cases ds with
  | nil =>
    refine .unless (reads_acceptSymbol_of_ne ?_) ((reads_symbol closing).last fun _ _ ↦ .pure rfl)
    rintro ⟨⟩
    cases hclosing
  | cons d ds =>
    have hkinds : moreKinds kinds (d :: ds) ++ [.symbol closing] =
        .symbol .comma :: (listedKinds kinds d ds ++ [.symbol closing]) := by
      simp [moreKinds, listedKinds]
    rw [hkinds]
    exact .whenTaken (reads_acceptSymbol _) ((reads_members hclosing d ds h).last fun _ _ ↦ .pure rfl)

/-- A last comma in front of the closing symbol. -/
theorem reads_restOfList_comma (closing : Symbol) :
    Reads (restOfList (phrase n) closing) [.symbol .comma, .symbol closing] rest
      (·.tree = .other) :=
  .whenTaken (reads_acceptSymbol _)
    ((reads_commaListBefore_nil closing).last fun _ _ ↦ .pure rfl)

theorem reads_nextIsClause {after : List TokenKind} (h : Stops after) :
    Reads nextIsClause [] after (· = false) :=
  reads_nextIsClause_of_ne (h.head?_ne rfl) (h.head?_ne rfl)

/-- An empty display is read apart: there is no first member that a comprehension could follow. -/
theorem reads_listDisplay (ds : List Datum) (h : ∀ e ∈ ds, IsRead n e) :
    Reads (listDisplay (phrase n)) ((membersPieces ds).map Piece.kind ++ [.symbol .rightBracket]) rest
      (·.tree = .other) := by
  cases ds with
  | nil => exact .whenTaken (reads_acceptSymbol _) (.pure rfl)
  | cons d ds =>
    have hstop : Stops (moreKinds kinds ds ++ .symbol .rightBracket :: rest) := stops_moreKinds _ ds rfl
    rw [map_kind_membersPieces, listedKinds, List.append_assoc]
    refine .unless (reads_acceptSymbol_of_ne ?_) ?_
    · rw [List.append_assoc]
      exact d.begins_kinds.head?_ne rfl
    · refine (reads_starOr (h d (by simp)) (by simpa using hstop)).bind fun e _ ↦ ?_
      exact .unless (reads_nextIsClause (by simpa using hstop))
        (reads_restOfList rfl ds fun e he ↦ h e (by simp [he]))

/-- One member without a comma would be read as an expression in parentheses, so the closing comma decides.
-/
theorem reads_parenthesized (ds : List Datum) (h : ∀ e ∈ ds, IsRead n e) :
    Reads (parenthesized (phrase n))
      ((membersPieces ds).map Piece.kind ++ (tupleClosingPieces ds).map Piece.kind) rest
      (·.tree = .other) := by
  cases ds with
  | nil => exact .whenTaken (reads_acceptSymbol _) (.pure rfl)
  | cons d ds =>
    obtain ⟨more, hmore⟩ : ∃ more, moreKinds kinds ds ++
        (tupleClosingPieces (d :: ds)).map Piece.kind = .symbol .comma :: more := by
      cases ds <;> exact ⟨_, rfl⟩
    have hrest : Reads (restOfList (phrase n) .rightParen) (.symbol .comma :: more) rest
        (·.tree = .other) := by
      rw [← hmore]
      cases ds with
      | nil => exact reads_restOfList_comma .rightParen
      | cons d' ds => exact reads_restOfList rfl _ fun e he ↦ h e (by simp [List.mem_cons.1 he])
    have hstop : Stops (.symbol .comma :: (more ++ rest)) := ⟨_, _, rfl, rfl⟩
    rw [map_kind_membersPieces, listedKinds, List.append_assoc, hmore]
    have hbegins {k : TokenKind} (hk : opensOperand k = false) :
        ((d.kinds ++ .symbol .comma :: more) ++ rest).head? ≠ some k := by
      rw [List.append_assoc]
      exact d.begins_kinds.head?_ne hk
    refine .unless (reads_acceptSymbol_of_ne (hbegins rfl))
      (.unless (reads_nextIs_of_ne (hbegins rfl)) ?_)
    refine (reads_nextIs_of_ne (hbegins rfl)).peekThen fun starred hstarred ↦ ?_
    refine (reads_starOr (h d (by simp)) hstop).bind fun e _ ↦ ?_
    refine .unless (reads_nextIsClause hstop) ?_
    refine (reads_acceptSymbol_of_ne (by simp)).peekThen fun closed hclosed ↦ ?_
    rw [hclosed, Bool.and_false, if_neg Bool.false_ne_true]
    exact .when (reads_nextIs_of_eq rfl) hrest

theorem reads_entry {after : List TokenKind} (hafter : Stops after) {e : Datum × Datum}
    (h : IsRead n e.1 ∧ IsRead n e.2) :
    Reads (entry (phrase n)) (entryKinds e) after fun _ ↦ True := by
  rw [entryKinds]
  refine .unless (reads_acceptSymbol_of_ne ?_) ?_
  · rw [List.append_assoc]
    exact e.1.begins_kinds.head?_ne rfl
  · refine (h.1 _ ⟨_, _, rfl, rfl⟩).bind fun key _ ↦ (reads_symbol .colon).cons fun _ _ ↦ ?_
    exact (h.2 after hafter).last fun value _ ↦ .pure trivial

theorem reads_restOfEntries (es : List (Datum × Datum))
    (h : ∀ e ∈ es, IsRead n e.1 ∧ IsRead n e.2) :
    Reads (restOfEntries (phrase n)) (moreKinds entryKinds es ++ [.symbol .rightBrace]) rest
      (·.tree = .other) := by
  cases es with
  | nil =>
    exact .unless (reads_acceptSymbol_of_ne (by simp [moreKinds]))
      ((reads_symbol .rightBrace).last fun _ _ ↦ .pure rfl)
  | cons e es =>
    have hkinds : moreKinds entryKinds (e :: es) ++ [.symbol .rightBrace] =
        .symbol .comma :: (listedKinds entryKinds e es ++ [.symbol .rightBrace]) := by
      simp [moreKinds, listedKinds]
    rw [hkinds]
    refine .whenTaken (reads_acceptSymbol _) ?_
    refine (reads_commaListBefore (by decide) e es
      (fun x hx _ hafter ↦ reads_entry ((stops_closing rfl).of_follows hafter) (h x hx))
      fun x _ ↦ ?_).last fun _ _ ↦ .pure rfl
    have hclosing : closesDisplay .rightBrace = true := rfl
    obtain ⟨k, ks, hk, hne⟩ := ne_closing hclosing x.1
    exact ⟨k, _, by rw [entryKinds, hk]; rfl, hne⟩

/-- What tells a set from a mapping: a set may begin with a star or a name with a walrus. -/
theorem reads_inSet (d : Datum) (rest : List TokenKind) :
    Reads (do return (← nextIsSymbol .star) || (← nextIsNaming) : Reader Bool) []
      (d.kinds ++ rest) (· = false) := by
  have hstar : Reads (nextIsSymbol .star) [] (d.kinds ++ rest) (· = false) :=
    reads_nextIs_of_ne (d.begins_kinds.head?_ne rfl)
  have hnaming : Reads nextIsNaming [] (d.kinds ++ rest) (· = false) := reads_nextIsNaming
  refine hstar.last fun star hstar ↦ hnaming.last fun naming hnaming ↦ .pure ?_
  rw [hstar, hnaming]
  rfl

/-- Braces with entries are read as a mapping, as are empty ones. -/
theorem reads_braceDisplay (es : List (Datum × Datum))
    (h : ∀ e ∈ es, IsRead n e.1 ∧ IsRead n e.2) :
    Reads (braceDisplay (phrase n)) ((entriesPieces es).map Piece.kind ++ [.symbol .rightBrace]) rest
      (·.tree = .other) := by
  cases es with
  | nil => exact .whenTaken (reads_acceptSymbol _) (.pure rfl)
  | cons e es =>
    obtain ⟨hkey, hvalue⟩ := h e (by simp)
    have hkinds : (entriesPieces (e :: es)).map Piece.kind ++ [.symbol .rightBrace] = e.1.kinds ++
        .symbol .colon :: (e.2.kinds ++ (moreKinds entryKinds es ++ [.symbol .rightBrace])) := by
      rw [map_kind_entriesPieces, listedKinds, entryKinds]
      simp
    have hbegins {k : TokenKind} (hk : opensOperand k = false) (more : List TokenKind) :
        ((e.1.kinds ++ more) ++ rest).head? ≠ some k := by
      rw [List.append_assoc]
      exact e.1.begins_kinds.head?_ne hk
    have hstop : Stops ((moreKinds entryKinds es ++ [.symbol .rightBrace]) ++ rest) := by
      rw [List.append_assoc]
      exact stops_moreKinds _ es rfl
    rw [hkinds]
    refine .unless (reads_acceptSymbol_of_ne (hbegins rfl _))
      (.unless (reads_nextIs_of_ne (hbegins rfl _)) ?_)
    have hinSet := reads_inSet e.1 (.symbol .colon ::
      (e.2.kinds ++ (moreKinds entryKinds es ++ [.symbol .rightBrace])) ++ rest)
    rw [← List.append_assoc] at hinSet
    refine hinSet.peekThen fun inSet hinSet ↦ ?_
    refine (reads_starOr hkey ⟨_, _, rfl, rfl⟩).bind fun key _ ↦ ?_
    refine (reads_acceptSymbol .colon).cons fun colon hcolon ↦ ?_
    rw [hinSet, hcolon, if_pos (by rfl)]
    refine (hvalue _ hstop).bind fun value _ ↦ ?_
    exact .unless (reads_nextIsClause hstop) (reads_restOfEntries es fun x hx ↦ h x (by simp [hx]))

end Container

/-! ## All data -/

section Atom

variable {n : Nat} {rest : List TokenKind}

theorem reads_atom_list (ds : List Datum) (h : ∀ e ∈ ds, IsRead n e) :
    Reads (atom (phrase n)) (list ds).kinds rest (·.tree = .other) := by
  have hkinds : (list ds).kinds = .symbol .leftBracket ::
      ((membersPieces ds).map Piece.kind ++ [.symbol .rightBracket]) := by
    simp only [kinds, pieces, List.map_cons, List.map_append, List.cons_append]
    rfl
  rw [hkinds]
  exact reads_peek.peekThen fun k hk ↦ by
    subst hk
    exact (reads_symbol .leftBracket).cons fun _ _ ↦ reads_listDisplay ds h

theorem reads_atom_tuple (ds : List Datum) (h : ∀ e ∈ ds, IsRead n e) :
    Reads (atom (phrase n)) (tuple ds).kinds rest (·.tree = .other) := by
  have hkinds : (tuple ds).kinds = .symbol .leftParen ::
      ((membersPieces ds).map Piece.kind ++ (tupleClosingPieces ds).map Piece.kind) := by
    simp only [kinds, pieces, List.map_cons, List.map_append, List.cons_append]
  rw [hkinds]
  exact reads_peek.peekThen fun k hk ↦ by
    subst hk
    exact (reads_symbol .leftParen).cons fun _ _ ↦ reads_parenthesized ds h

theorem reads_atom_mapping (es : List (Datum × Datum)) (h : ∀ e ∈ es, IsRead n e.1 ∧ IsRead n e.2) :
    Reads (atom (phrase n)) (mapping es).kinds rest (·.tree = .other) := by
  have hkinds : (mapping es).kinds = .symbol .leftBrace ::
      ((entriesPieces es).map Piece.kind ++ [.symbol .rightBrace]) := by
    simp only [kinds, pieces, List.map_cons, List.map_append, List.cons_append]
    rfl
  rw [hkinds]
  exact reads_peek.peekThen fun k hk ↦ by
    subst hk
    exact (reads_symbol .leftBrace).cons fun _ _ ↦ reads_braceDisplay es h

/-- With its sign or without, a number is an operand, and the tree keeps no more of it. -/
theorem reads_signed (hrest : Stops rest) (spaced negative : Bool) (size : List Char) :
    Reads (expression (phrase n)) ((signedPieces spaced negative size).map Piece.kind) rest
      (·.tree = .other) := by
  have hsize : Reads (atom (phrase n)) [Layout.numberKind size] rest (·.tree = .other) :=
    reads_atom_number _
  have hbegins : Begins opensAtom [Layout.numberKind size] := ⟨_, _, rfl, rfl⟩
  unfold signedPieces
  split
  · exact reads_expression
      (reads_operand_minus ((reads_primary hrest hsize).mono fun _ _ ↦ trivial) hbegins)
      ⟨_, _, rfl, rfl⟩ hrest
  · exact reads_expression_of_atom hrest hsize hbegins

end Atom

theorem length_le_moreKinds {ι : Type} {kinds : ι → List TokenKind} {x : ι} {xs : List ι}
    (h : x ∈ xs) : (kinds x).length ≤ (moreKinds kinds xs).length := by
  induction xs with
  | nil => cases h
  | cons y ys ih =>
    simp only [moreKinds, List.flatMap_cons, List.length_append, List.length_cons] at ih ⊢
    rcases List.mem_cons.1 h with rfl | hmem
    · omega
    · have hlength := ih hmem
      omega

/-- An item has no more tokens than the list has, which bounds how deep its phrases go. -/
theorem length_le_listedKinds {ι : Type} {kinds : ι → List TokenKind} {x y : ι} {xs : List ι}
    (h : y ∈ x :: xs) : (kinds y).length ≤ (listedKinds kinds x xs).length := by
  rw [listedKinds, List.length_append]
  rcases List.mem_cons.1 h with rfl | hmem
  · omega
  · have hlength : (kinds y).length ≤ (moreKinds kinds xs).length := length_le_moreKinds hmem
    omega

theorem length_kinds_le_of_mem {d : Datum} {ds : List Datum} (h : d ∈ ds) :
    d.kinds.length ≤ ((membersPieces ds).map Piece.kind).length := by
  cases ds with
  | nil => cases h
  | cons e es =>
    rw [map_kind_membersPieces]
    exact length_le_listedKinds h

theorem length_entryKinds_le_of_mem {e : Datum × Datum} {es : List (Datum × Datum)} (h : e ∈ es) :
    (entryKinds e).length ≤ ((entriesPieces es).map Piece.kind).length := by
  cases es with
  | nil => cases h
  | cons e' es =>
    rw [map_kind_entriesPieces]
    exact length_le_listedKinds h

mutual

/-- Every datum is read as one expression. -/
theorem isRead : ∀ (d : Datum) {n : Nat}, d.kinds.length < n → IsRead n d
  | none, n + 1, _, rest, hrest =>
    reads_expression_of_atom hrest (reads_atom_constant (.inl rfl)) ⟨_, _, rfl, rfl⟩
  | bool true, n + 1, _, rest, hrest =>
    reads_expression_of_atom hrest (reads_atom_constant (.inr (.inl rfl))) ⟨_, _, rfl, rfl⟩
  | bool false, n + 1, _, rest, hrest =>
    reads_expression_of_atom hrest (reads_atom_constant (.inr (.inr rfl))) ⟨_, _, rfl, rfl⟩
  | int k, n + 1, _, rest, hrest => reads_signed hrest false (k < 0) (Nat.toDigits 10 k.natAbs)
  | float x _, n + 1, _, rest, hrest => reads_signed hrest false x.isNegative x.sizeText
  | string cs, n + 1, _, rest, hrest =>
    reads_expression_of_atom hrest (reads_atom_string hrest _) ⟨_, _, rfl, rfl⟩
  | list ds, n + 1, h, rest, hrest => by
    have hlength : ((membersPieces ds).map Piece.kind).length < n := by
      simp only [kinds, pieces, List.map_cons, List.map_append, List.length_cons,
        List.length_append] at h
      omega
    exact reads_expression_of_atom hrest
      (reads_atom_list ds (isRead_of_mem ds fun d hd ↦ (length_kinds_le_of_mem hd).trans_lt hlength))
      ⟨_, _, rfl, rfl⟩
  | tuple ds, n + 1, h, rest, hrest => by
    have hlength : ((membersPieces ds).map Piece.kind).length < n := by
      simp only [kinds, pieces, List.map_cons, List.map_append, List.length_cons,
        List.length_append] at h
      omega
    exact reads_expression_of_atom hrest
      (reads_atom_tuple ds (isRead_of_mem ds fun d hd ↦ (length_kinds_le_of_mem hd).trans_lt hlength))
      ⟨_, _, rfl, rfl⟩
  | mapping es, n + 1, h, rest, hrest => by
    have hlength : ((entriesPieces es).map Piece.kind).length < n := by
      simp only [kinds, pieces, List.map_cons, List.map_append, List.length_cons,
        List.length_append] at h
      omega
    exact reads_expression_of_atom hrest
      (reads_atom_mapping es (isRead_of_mem_entries es fun e he ↦
        (length_entryKinds_le_of_mem he).trans_lt hlength))
      ⟨_, _, rfl, rfl⟩

/-- The members of a container, each with fewer tokens than the container. -/
theorem isRead_of_mem : ∀ (ds : List Datum) {n : Nat}, (∀ d ∈ ds, d.kinds.length < n) →
    ∀ d ∈ ds, IsRead n d
  | [], _, _, d, hd => absurd hd List.not_mem_nil
  | e :: es, n, h, d, hd => by
    have he := isRead e (h e (by simp))
    have hes := isRead_of_mem es fun d hd ↦ h d (by simp [hd])
    rcases List.mem_cons.1 hd with rfl | hmem
    · exact he
    · exact hes d hmem

theorem isRead_of_mem_entries : ∀ (es : List (Datum × Datum)) {n : Nat},
    (∀ e ∈ es, (entryKinds e).length < n) → ∀ e ∈ es, IsRead n e.1 ∧ IsRead n e.2
  | [], _, _, e, he => absurd he List.not_mem_nil
  | (k, v) :: es, n, h, e, he => by
    have hlength : k.kinds.length + (v.kinds.length + 1) < n := by
      simpa [entryKinds] using h (k, v) (by simp)
    have hk := isRead k (show k.kinds.length < n by omega)
    have hv := isRead v (show v.kinds.length < n by omega)
    have hes := isRead_of_mem_entries es fun e he ↦ h e (by simp [he])
    rcases List.mem_cons.1 he with rfl | hmem
    · exact ⟨hk, hv⟩
    · exact hes e hmem

end

end StarlarkMacro.Datum
