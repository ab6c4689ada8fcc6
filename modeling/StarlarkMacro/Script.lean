import StarlarkMacro.Writer.Basic

/-!
# Scripts of steps and blocks

A script drives a writer by single operations and by two kinds of blocks, which begin a macro or push a
directory when they are entered and end it or pop it when they are left. A failing step ends the body it
stands in, unless it is caught, and the failure leaves the enclosing blocks one by one; leaving a block
may replace the failure by one of its own. At the top level every failure is only recorded.
-/

namespace StarlarkMacro

inductive Operation where
  | beginMacro (name : Value)
  | endMacro
  | pushDirectory (path : Value)
  | popDirectory
  | writeCommand (name : Value) (arguments : List Value)
  | raise (message : Text)

inductive BlockKind where
  | ofMacro | ofDirectory
  deriving DecidableEq, Repr

inductive Step where
  | operation (op : Operation) (caught : Bool)
  | block (kind : BlockKind) (argument : Value) (body : List Step) (caught : Bool)

/-- What a step that succeeds gives back. -/
inductive StepResult where
  | nothing
  | path (t : Text)
  /-- The writer itself. -/
  | writer
  deriving DecidableEq, Repr

inductive Action where
  | operation (op : Operation)
  | enter (kind : BlockKind) (argument : Value)
  | exit (kind : BlockKind) (argument : Value)

/-- A finished step: what it was, how it ended, the state it left, and, for a failure about one of its own
arguments, the number of that argument. -/
structure Record where
  action : Action
  outcome : Except Failure StepResult
  blamed : Option Nat
  state : Writer

/-- The number of the argument that a failure is about. -/
def Failure.argument? (arguments : List Value) (own : Bool) : Failure → Option Nat
  | .contract (.encoding e) => e.argument? arguments own
  | _ => none

namespace Operation

def arguments : Operation → List Value
  | beginMacro name => [name]
  | pushDirectory path => [path]
  | writeCommand name arguments => name :: arguments
  | endMacro | popDirectory | raise _ => []

def run (g : Graph) : Operation → WriterM StepResult
  | beginMacro name => do Writer.beginMacro name; return .nothing
  | endMacro => do Writer.endMacro; return .nothing
  | pushDirectory path => do Writer.pushDirectory g path; return .nothing
  | popDirectory => do return .path (← Writer.popDirectory g)
  | writeCommand name arguments => do Writer.writeCommand g name arguments; return .nothing
  | raise message => throw (.script message)

end Operation

namespace BlockKind

def enter (g : Graph) (argument : Value) : BlockKind → WriterM StepResult
  | ofMacro => do Writer.beginMacro argument; return .writer
  | ofDirectory => do
    Writer.pushDirectory g argument
    return .path (argument.text?.getD [])

/-- A macro block ends the macro that is being written, if any. A directory block pops, but after a
failure only if there is a directory to pop. -/
def leave (g : Graph) (failed : Bool) : BlockKind → WriterM Unit
  | ofMacro => do
    if (← get).isWriting then Writer.endMacro
  | ofDirectory => do
    let w ← get
    unless failed && !(w.isWriting && w.depth != 0) do
      let _ ← Writer.popDirectory g

end BlockKind

def Step.caught : Step → Bool
  | .operation _ caught => caught
  | .block _ _ _ caught => caught

/-- The records of some steps, the failure that ended them, and the state afterwards. -/
abbrev Trace := List Record × Option Failure × Writer

namespace Script

def failure? {α : Type} : Except Failure α → Option Failure
  | .ok _ => none
  | .error e => some e

def record (action : Action) (arguments : List Value) (outcome : Except Failure StepResult)
    (own : Bool) (w : Writer) : Record :=
  ⟨action, outcome, (failure? outcome).bind (Failure.argument? arguments own), w⟩

/-- The failure that leaves a block, whether it is the exit's own, and the state afterwards. -/
def leaveBlock (g : Graph) (kind : BlockKind) (failure : Option Failure) (w : Writer) :
    Option Failure × Bool × Writer :=
  match (kind.leave g failure.isSome).run w with
  | (.ok (), w') => (failure, false, w')
  | (.error e, w') => (some e, true, w')

mutual

def runStep (g : Graph) : Step → Writer → Trace
  | .operation op _, w =>
    let (outcome, w') := (op.run g).run w
    ([record (.operation op) op.arguments outcome true w'], failure? outcome, w')
  | .block kind argument body _, w =>
    let (entered, w₁) := (kind.enter g argument).run w
    let first := record (.enter kind argument) [argument] entered true w₁
    match entered with
    | .error e => ([first], some e, w₁)
    | .ok _ =>
      let (records, failure, w₂) := runBody g body w₁
      let (leaving, own, w₃) := leaveBlock g kind failure w₂
      let outcome := match leaving with
        | some e => .error e
        | none => .ok .nothing
      let last := record (.exit kind argument) [argument] outcome own w₃
      (first :: records ++ [last], leaving, w₃)

/-- Steps up to the first failure that is not caught. -/
def runBody (g : Graph) : List Step → Writer → Trace
  | [], w => ([], none, w)
  | step :: rest, w =>
    let (records, failure, w₁) := runStep g step w
    match failure, step.caught with
    | some e, false => (records, some e, w₁)
    | _, _ =>
      let (later, failure', w₂) := runBody g rest w₁
      (records ++ later, failure', w₂)

end

/-- All steps, whatever becomes of each. -/
def run (g : Graph) : List Step → Writer → List Record × Writer
  | [], w => ([], w)
  | step :: rest, w =>
    let (records, _, w₁) := runStep g step w
    let (later, w₂) := run g rest w₁
    (records ++ later, w₂)

end Script

end StarlarkMacro
