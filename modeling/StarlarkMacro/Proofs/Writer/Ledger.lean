import StarlarkMacro.Proofs.Writer.History
import StarlarkMacro.Proofs.Writer.Refusal

/-!
# Which lines wait

A writer knows the lines that wait by their text, and pushes of one path have one text. The ledger of a run
knows each push by its number instead. It is told by the records of the run alone, and what it says about a
pop never looks at a text: the push that the pop matches is withdrawn if it still waits, and otherwise all
that waits leaves the buffer. A writer agrees with the ledger of its run on every sink.
-/

namespace StarlarkMacro

/-- A push that succeeded, by its number among the pushes of a run. -/
structure Push where
  number : Nat
  directory : Directory
  deriving DecidableEq

/-- What a line that waits is for. -/
inductive Waiting where
  | header (name : List Char)
  | push (p : Push)
  deriving DecidableEq

def Waiting.line : Waiting → List Char
  | header name => Writer.header name
  | push p => p.directory.line

/-- How many pushes there were, those that are open, outermost first, and the lines that wait. -/
structure Ledger where
  pushes : Nat
  opened : List Push
  waiting : List Waiting

namespace Ledger

def empty : Ledger := ⟨0, [], []⟩

def begun (l : Ledger) (name : List Char) : Ledger :=
  { l with waiting := l.waiting ++ [.header name] }

def pushed (l : Ledger) (d : Directory) : Ledger :=
  ⟨l.pushes + 1, l.opened ++ [⟨l.pushes, d⟩], l.waiting ++ [.push ⟨l.pushes, d⟩]⟩

/-- All that waits leaves the buffer, whether it is stored or lost. -/
def drained (l : Ledger) : Ledger := { l with waiting := [] }

/-- The innermost push is closed. -/
def popped (l : Ledger) : Ledger :=
  match l.opened.getLast? with
  | none => l
  | some p =>
    { l with
      opened := l.opened.dropLast
      waiting := if .push p ∈ l.waiting then l.waiting.erase (.push p) else [] }

def ended (l : Ledger) : Ledger := { l with opened := [], waiting := [] }

/-- The ledger after an operation, told by how the operation ended. A command whose arguments have no
literals has emptied the buffer all the same, and a refused pop has closed its directory. -/
def after (g : Graph) (l : Ledger) : Operation → Except Failure StepResult → Ledger
  | .beginMacro name, .ok _ => l.begun ((Identifier.ofValue? name).getD [])
  | .pushDirectory path, .ok _ => l.pushed (Writer.directoryAt g path)
  | .popDirectory, .ok _ | .popDirectory, .error (.sink _) => l.popped
  | .writeCommand .., .ok _ | .writeCommand .., .error (.sink _)
  | .writeCommand .., .error (.contract (.encoding _)) => l.drained
  | .endMacro, .ok _ | .endMacro, .error (.sink .flush) => l.ended
  | .endMacro, .error (.sink .write) => l.drained
  | _, _ => l

def afterRecord (g : Graph) (l : Ledger) (r : Record) : Ledger :=
  match r.action with
  | .operation op => l.after g op r.outcome
  | _ => l

def ofRecords (g : Graph) (records : List Record) : Ledger :=
  records.foldl (afterRecord g) empty

theorem ofRecords_append_singleton (g : Graph) (records : List Record) (r : Record) :
    ofRecords g (records ++ [r]) = (ofRecords g records).afterRecord g r := by
  simp [ofRecords]

/-- What the lines that wait are for, while a macro is being written and while none is. -/
inductive Keeps (l : Ledger) : Option (List Char) → Prop
  | idle (hopened : l.opened = []) (hwaiting : l.waiting = []) : Keeps l none
  | headed {name : List Char} (hwaiting : l.waiting = .header name :: l.opened.map .push) :
      Keeps l (some name)
  | innermost {name : List Char} (outer inner : List Push) (hopened : l.opened = outer ++ inner)
      (hwaiting : l.waiting = inner.map .push) : Keeps l (some name)

/-- The writer has the lines and the directories of the ledger: the paths it keeps are encoded to the pushes
that are open. -/
structure Agrees (g : Graph) (l : Ledger) (w : Writer) : Prop where
  sound : w.IsSound g
  opened : w.opened g = l.opened.map Push.directory
  lines : w.pending.lines = l.waiting.map Waiting.line
  nodup : l.opened.Nodup
  numbered : ∀ p ∈ l.opened, p.number < l.pushes
  keeps : l.Keeps w.current

section Keeps

variable {l : Ledger} {name : List Char}

/-- Of an open directory, the push waits last, or nothing waits. -/
theorem Keeps.exists_append_or_eq_nil (h : l.Keeps (some name)) {outer : List Push} {p : Push}
    (hopened : l.opened = outer ++ [p]) :
    (∃ others, l.waiting = others ++ [.push p] ∧ Keeps ⟨l.pushes, outer, others⟩ (some name)) ∨
      l.waiting = [] := by
  cases h with
  | headed hwaiting =>
    refine .inl ⟨.header name :: outer.map .push, ?_, .headed rfl⟩
    rw [hwaiting, hopened, List.map_append, List.map_singleton, List.cons_append]
  | innermost outermost inner hopened' hwaiting =>
    cases inner using List.reverseRecOn with
    | nil => exact .inr hwaiting
    | append_singleton inner q _ =>
      rw [hopened, ← List.append_assoc] at hopened'
      obtain ⟨houter, hp⟩ := List.append_inj' hopened' rfl
      obtain rfl := List.singleton_inj.1 hp
      refine .inl ⟨inner.map .push, ?_, .innermost outermost inner houter rfl⟩
      rw [hwaiting, List.map_append, List.map_singleton]

/-- Of the pushes, only open ones wait. -/
theorem Keeps.push_notMem (h : l.Keeps (some name)) {p : Push} (hp : p ∉ l.opened) :
    .push p ∉ l.waiting := by
  cases h with
  | headed hwaiting => simpa [hwaiting] using hp
  | innermost outer inner hopened hwaiting =>
    have hinner : p ∉ inner := fun hmem ↦ hp (hopened ▸ List.mem_append_right outer hmem)
    simpa [hwaiting] using hinner

theorem Keeps.of_waiting_eq_nil (hwaiting : l.waiting = []) : l.Keeps (some name) :=
  .innermost l.opened [] (List.append_nil _).symm hwaiting

end Keeps

namespace Agrees

variable {g : Graph} {l : Ledger} {w : Writer}

theorem indent (h : Agrees g l w) : w.pending.indent = StatementBuffer.standardIndent :=
  h.sound.indent

theorem directories_eq_nil_iff (h : Agrees g l w) : w.directories = [] ↔ l.opened = [] := by
  rw [← Writer.opened_eq_nil_iff (g := g), h.opened, List.map_eq_nil_iff]

/-- The push of the innermost directory. -/
theorem exists_push (h : Agrees g l w) {d : Directory} (hd : w.Innermost g d) :
    ∃ outer p, l.opened = outer ++ [p] ∧ p.directory = d := by
  have hlast := hd.getLast?_opened
  rw [h.opened, List.getLast?_map, Option.map_eq_some_iff] at hlast
  obtain ⟨p, hp, hd⟩ := hlast
  obtain ⟨outer, hopened⟩ := List.getLast?_eq_some_iff.1 hp
  exact ⟨outer, p, hopened, hd⟩

/-- The innermost push is none of those around it. -/
theorem push_notMem_outer (h : Agrees g l w) {outer : List Push} {p : Push}
    (hopened : l.opened = outer ++ [p]) : p ∉ outer := by
  have hnodup := h.nodup
  rw [hopened, List.nodup_append] at hnodup
  exact fun hmem ↦ hnodup.2.2 p hmem p (List.mem_singleton_self p) rfl

/-! ## States that operations leave -/

theorem begun (h : Agrees g l w) (hcurrent : w.current = none) (name : List Char) :
    Agrees g (l.begun name) (w.begun name) := by
  have hkeeps := h.keeps
  rw [hcurrent] at hkeeps
  cases hkeeps with
  | idle hopened hwaiting =>
    refine ⟨h.sound.congr rfl rfl, h.opened, ?_, h.nodup, h.numbered, .headed ?_⟩
    · simp [Writer.begun, Ledger.begun, h.lines, Waiting.line]
    · simp [Ledger.begun, hopened, hwaiting]

theorem pushed (h : Agrees g l w) {name : List Char} (hcurrent : w.current = some name)
    {path : Value} {literal : Text × List Char} (hpath : Writer.pathLiteral g path = .ok literal) :
    Agrees g (l.pushed (Writer.directoryAt g path)) (w.pushed g path) := by
  refine ⟨h.sound.pushed hpath, ?_, ?_, ?_, ?_, ?_⟩
  · simp [Ledger.pushed, h.opened]
  · simp [Writer.pushed, Ledger.pushed, h.lines, Waiting.line]
  · refine List.nodup_append.2 ⟨h.nodup, List.pairwise_singleton _ _, fun p hp q hq hpq ↦ ?_⟩
    obtain rfl := List.mem_singleton.1 hq
    exact absurd (h.numbered p hp) (by simp [hpq])
  · intro p hp
    obtain hp | hp := List.mem_append.1 hp
    · exact Nat.lt_succ_of_lt (h.numbered p hp)
    · rw [List.mem_singleton.1 hp]
      exact Nat.lt_succ_self l.pushes
  · have hkeeps := h.keeps
    rw [hcurrent] at hkeeps
    change Keeps _ w.current
    rw [hcurrent]
    cases hkeeps with
    | headed hwaiting => exact .headed (by simp [Ledger.pushed, hwaiting])
    | innermost outer inner hopened hwaiting =>
      refine .innermost outer (inner ++ [⟨l.pushes, Writer.directoryAt g path⟩]) ?_ ?_
      · simp [Ledger.pushed, hopened]
      · simp [Ledger.pushed, hwaiting]

/-- All that waits has left the buffer. -/
theorem emptied (h : Agrees g l w) {w' : Writer} {name : List Char}
    (hcurrent : w.current = some name)
    (hindent : w'.pending.indent = StatementBuffer.standardIndent)
    (hsame : w'.current = w.current) (hdirectories : w'.directories = w.directories)
    (hempty : w'.pending.lines = []) : Agrees g l.drained w' := by
  have hsound := h.sound.congr (hindent.trans h.indent.symm) hdirectories
  refine ⟨hsound, ?_, hempty, h.nodup, h.numbered, ?_⟩
  · rw [Writer.opened, hdirectories]
    exact h.opened
  · rw [hsame, hcurrent]
    exact .of_waiting_eq_nil rfl

theorem ended (g : Graph) (l : Ledger) {w' : Writer}
    (hindent : w'.pending.indent = StatementBuffer.standardIndent) (hcurrent : w'.current = none)
    (hdirectories : w'.directories = []) (hempty : w'.pending.lines = []) :
    Agrees g l.ended w' := by
  have hsound : w'.IsSound g := ⟨hindent, hdirectories ▸ List.forall_mem_nil _⟩
  refine ⟨hsound, Writer.opened_eq_nil_iff.2 hdirectories, hempty, List.nodup_nil, ?_, ?_⟩
  · exact fun p hp ↦ absurd hp List.not_mem_nil
  · rw [hcurrent]
    exact .idle rfl rfl

/-- The innermost directory was closed, and what waits is what the ledger says. -/
theorem popped (h : Agrees g l w) {w' : Writer} {outer : List Push} {p : Push}
    (hopened : l.opened = outer ++ [p]) {name : List Char} (hcurrent : w'.current = some name)
    (hindent : w'.pending.indent = StatementBuffer.standardIndent)
    (hdirectories : w'.directories = w.directories.dropLast) {others : List Waiting}
    (hpopped : l.popped = ⟨l.pushes, outer, others⟩) (hlines : w'.pending.lines = others.map Waiting.line)
    (hkeeps : Keeps ⟨l.pushes, outer, others⟩ (some name)) : Agrees g l.popped w' := by
  have hsub : ∀ q ∈ outer, q ∈ l.opened := fun q hq ↦ by simp [hopened, hq]
  have hnodup := h.nodup
  rw [hopened] at hnodup
  rw [hpopped]
  have hsound : w'.IsSound g := by
    refine h.sound.mono (hindent.trans h.indent.symm) ?_
    rw [hdirectories]
    exact List.dropLast_subset _
  refine ⟨hsound, ?_, hlines, (List.nodup_append.1 hnodup).1, fun q hq ↦ h.numbered q (hsub q hq),
    hcurrent ▸ hkeeps⟩
  rw [Writer.opened, hdirectories, List.map_dropLast, ← Writer.opened, h.opened, hopened]
  simp

end Agrees

theorem popped_of_mem {l : Ledger} {outer : List Push} {p : Push} (hopened : l.opened = outer ++ [p])
    {others : List Waiting} (hwaiting : l.waiting = others ++ [.push p]) (hp : .push p ∉ others) :
    l.popped = ⟨l.pushes, outer, others⟩ := by
  have hmem : .push p ∈ l.waiting := by simp [hwaiting]
  have herase : l.waiting.erase (.push p) = others := by
    rw [hwaiting, List.erase_append_right _ hp, List.erase_cons_head, List.append_nil]
  simp [popped, hopened, hmem, herase]

theorem popped_of_eq_nil {l : Ledger} {outer : List Push} {p : Push} (hopened : l.opened = outer ++ [p])
    (hwaiting : l.waiting = []) : l.popped = ⟨l.pushes, outer, []⟩ := by
  simp [popped, hopened, hwaiting]

end Ledger

end StarlarkMacro
