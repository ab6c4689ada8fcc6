import StarlarkMacro.Failure
import StarlarkMacro.Identifier
import StarlarkMacro.Literal
import StarlarkMacro.Log
import StarlarkMacro.StatementBuffer
import StarlarkMacro.Writer.Sink

/-!
# The writer

A writer turns a stream of calls into macros of one shape: a header, commands between directory
transitions, and a final return. The header and each push wait in the buffer until a command, the pop of
a directory that has content, or the end of the macro asks for them; a pop whose push still waits
withdraws it instead. Nothing is looked ahead, so all that is known of a macro is its state here.
-/

namespace StarlarkMacro

structure Writer where
  pending : StatementBuffer
  /-- The macro being written, if any. -/
  current : Option (List Char)
  /-- The paths of the open directories as they were given, outermost first. -/
  directories : List Value
  sink : Sink
  log : List LogRecord

namespace Writer

def new (sink : Sink) : Writer := ⟨.empty, none, [], sink, []⟩

def isWriting (w : Writer) : Bool := w.current.isSome

/-- The text of a path; only a text can be pushed. -/
def pathText (path : Value) : Text := path.text?.getD []

def paths (w : Writer) : List Text := w.directories.map pathText

def depth (w : Writer) : Nat := w.directories.length

/-- What was stored and logged since an earlier state of the same writer. -/
def since (earlier now : Writer) : List (List Char) × List LogRecord :=
  (now.sink.stored.drop earlier.sink.stored.length, now.log.drop earlier.log.length)

end Writer

abbrev WriterM := ExceptT Failure (StateM Writer)

namespace Writer

def contextName : List Char := ['c', 't', 'x']

def header (name : List Char) : List Char :=
  "def ".toList ++ name ++ '(' :: contextName ++ [')', ':', '\n']

def returnStatement : List Char := "return ".toList ++ contextName

/-- A call of a method of the context with the context as first argument. -/
def callStatement (method : List Char) (arguments : List (List Char)) : List Char :=
  contextName ++ '.' :: method ++ '(' :: [',', ' '].intercalate (contextName :: arguments) ++ [')']

def transitionStatement (method : List Char) (arguments : List (List Char)) : List Char :=
  contextName ++ [' ', '=', ' '] ++ callStatement method arguments

def pushStatement (literal : List Char) : List Char :=
  transitionStatement "push_directory".toList [literal]

def popStatement : List Char := transitionStatement "pop_directory".toList []

def refuse {α : Type} (e : WriterError) : WriterM α := throw (.contract e)

def logRecord (record : LogRecord) : WriterM Unit :=
  modify fun w ↦ { w with log := w.log ++ [record] }

/-- The macro being written; without one, `operation` is refused. -/
def requireMacro (operation : String) : WriterM (List Char) := do
  match (← get).current with
  | some name => return name
  | none => refuse (.noActiveMacro operation)

def orRefuse {α : Type} : Except EncodingError α → WriterM α
  | .ok a => return a
  | .error e => refuse (.encoding e)

def identifier (v : Value) : WriterM (List Char) :=
  match Identifier.ofValue? v with
  | some name => return name
  | none => refuse (.invalidIdentifier v)

def writeLine (line : List Char) : WriterM Unit := do
  let w ← get
  let (stored, sink) := w.sink.write line
  set { w with sink }
  unless stored do throw (.sink .write)

def flushSink : WriterM Unit := do
  let w ← get
  let (done, sink) := w.sink.flush
  set { w with sink }
  unless done do throw (.sink .flush)

def writeStatement (statement : List Char) : WriterM Unit := do
  writeLine ((← get).pending.render statement)

def writeLines : List (List Char) → WriterM Unit
  | [] => return
  | line :: rest => do
    writeLine line
    writeLines rest

/-- Takes all lines out of the buffer and writes them. Lines behind a refused one are gone. -/
def writePending : WriterM Unit := do
  let w ← get
  let (lines, pending) := w.pending.drain
  set { w with pending }
  writeLines lines

def defer (line : List Char) : WriterM Unit :=
  modify fun w ↦ { w with pending := w.pending.defer line }

def beginMacro (name : Value) : WriterM Unit := do
  if let some current := (← get).current then
    refuse (.nestedMacro (.text (Text.ofChars current) false) name)
  let name ← identifier name
  defer (header name)
  modify fun w ↦ { w with current := some name }
  logRecord (.began name)

def endMacro : WriterM Unit := do
  let name ← requireMacro "end_macro"
  writePending
  writeStatement returnStatement
  let left := (← get).paths
  unless left.isEmpty do
    logRecord (.leftOpen name left)
    modify fun w ↦ { w with directories := [] }
  logRecord (.ended name)
  modify fun w ↦ { w with current := none }
  flushSink

/-- The literal of a directory path, which must be a text. -/
def pathLiteral (g : Graph) (path : Value) : Except EncodingError (Text × List Char) :=
  match path.text? with
  | some t => (Literal.marshal g path).map (t, ·)
  | none => .error ⟨path, [], .pathNotText⟩

def pushDirectory (g : Graph) (path : Value) : WriterM Unit := do
  let _ ← requireMacro "push_directory"
  let (_, literal) ← orRefuse ((pathLiteral g path).mapError (EncodingError.under 0))
  let line := (← get).pending.render (pushStatement literal)
  modify fun w ↦ { w with directories := w.directories ++ [path] }
  defer line

/-- Closes the innermost directory and returns its path. Its push is found by encoding the path again, when
the path is already off the stack: were it refused then, the directory would be closed all the same. -/
def popDirectory (g : Graph) : WriterM Text := do
  let name ← requireMacro "pop_directory"
  let w ← get
  match w.directories.getLast? with
  | none => refuse .emptyDirectoryStack
  | some path =>
    set { w with directories := w.directories.dropLast }
    let (path, literal) ← orRefuse (pathLiteral g path)
    let (elided, pending) := w.pending.cancelLast (w.pending.render (pushStatement literal))
    modify fun w ↦ { w with pending }
    if elided then
      logRecord (.elided path name)
    else
      writePending
      writeStatement popStatement
    return path

/-- The literals of a command's arguments, numbered from one behind its name. -/
def argumentLiterals (g : Graph) : Nat → List Value → Except EncodingError (List (List Char))
  | _, [] => .ok []
  | i, v :: vs => do
    let literal ← (Literal.marshal g v).mapError (EncodingError.under i)
    return literal :: (← argumentLiterals g (i + 1) vs)

/-- What waits is written before the arguments are encoded, so an argument without a literal leaves no
partial call, but the directories around it are no longer empty. -/
def writeCommand (g : Graph) (name : Value) (arguments : List Value) : WriterM Unit := do
  let _ ← requireMacro "write_command"
  let name ← identifier name
  writePending
  let literals ← orRefuse (argumentLiterals g 1 arguments)
  writeStatement (callStatement name literals)

end Writer

end StarlarkMacro
