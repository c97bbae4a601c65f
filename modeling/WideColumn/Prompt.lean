import WideColumn.Script
import WideColumn.Session.Reply

/-!
# Running statements

A shell is a session with its supply of fresh identifiers. It runs the statements of a script, or
takes lines at a prompt and runs what they add up to. What is to be shown is given back as a list of
texts, each for the output or for the error output.
-/

namespace WideColumn

/-- A text to be shown. -/
inductive Display where
  | output (text : String)
  | error (text : String)
  deriving DecidableEq, Repr

/-- A session that runs statements. -/
structure Shell where
  state : State := {}
  supply : Supply

namespace Shell

/-- What a prompt shows before a statement. -/
def promptText (shell : Shell) : String :=
  let keyspace := shell.state.session.keyspace.getD ""
  if keyspace.isEmpty then "[default@unknown] " else s!"[default@{keyspace}] "

/-- What a prompt shows before further lines of a statement. -/
def continuationText : String := "...\t"

/-- Answer a statement. -/
def answer (shell : Shell) (moment : Moment) (statement : String) : Reply × Shell :=
  let ((reply, state), supply) := shell.state.answer moment "\n" statement shell.supply
  (reply, { state, supply })

/-- A reply as a text to be shown. -/
def display : Reply → Display
  | .success _ text => .output text
  | .failure _ text => .error text

/-! ### Scripts -/

/-- A statement as it is shown before it is run, line by line after the prompts. -/
def echo (shell : Shell) (statement : String) : List Display :=
  match Text.lines statement.toList with
  | [] => []
  | first :: others =>
    .output (shell.promptText ++ String.ofList first ++ "\n") ::
      others.map fun line => .output (continuationText ++ String.ofList line ++ "\n")

/-- How a script is run: whether statements are shown, and whether the first failure ends it. -/
structure Manner where
  verbose : Bool := false
  batch : Bool := false

/-- Run statements up to one that ends the session; whether all succeeded. -/
def run (manner : Manner) (moment : Moment) (shell : Shell) :
    List String → List Display × Bool × Shell
  | [] => ([], true, shell)
  | statement :: rest =>
    let echoed := if manner.verbose then shell.echo statement else []
    let (reply, after) := shell.answer moment statement
    let shown := echoed ++ [display reply]
    if reply.endsSession || (manner.batch && !reply.isSuccess) then
      (shown, reply.isSuccess, after)
    else
      let (others, succeeded, last) := run manner moment after rest
      (shown ++ others, reply.isSuccess && succeeded, last)

end Shell

/-! ### The prompt -/

/-- A shell at a prompt, with the lines that are not a statement yet. -/
structure Prompt where
  shell : Shell
  buffer : String := ""

namespace Prompt

/-- What is shown before the next line. -/
def text (prompt : Prompt) : String :=
  if prompt.buffer.isEmpty then prompt.shell.promptText else Shell.continuationText

/-- The lines so far, with one more. -/
def extend (buffer line : String) : String :=
  if buffer.isEmpty then line else buffer ++ "\n" ++ line

/-- The statements that a line completes, and the lines that are kept for the next one. -/
def take (buffer line : String) : List String × String :=
  let typed := extend buffer line
  if (Text.trim typed.toList).isEmpty then ([], "")
  else if Script.isComplete typed then (Script.statements typed, "")
  else ([], typed)

/-- Run statements up to one that ends the session, and whether there was one. -/
def runAll (moment : Moment) (shell : Shell) : List String → List Display × Bool × Shell
  | [] => ([], false, shell)
  | statement :: rest =>
    let (reply, after) := shell.answer moment statement
    if reply.endsSession then ([Shell.display reply], true, after)
    else
      let (others, ended, last) := runAll moment after rest
      (Shell.display reply :: others, ended, last)

/-- Take a line: what is shown, whether the session ended, and the prompt afterwards. -/
def feed (prompt : Prompt) (moment : Moment) (line : String) : List Display × Bool × Prompt :=
  let (statements, buffer) := take prompt.buffer line
  let (shown, ended, shell) := runAll moment prompt.shell statements
  (shown, ended, { shell, buffer })

/-- What is shown before the first prompt. -/
def welcome : String :=
  "Welcome to the Cassandra CLI.\n\nType 'help;' or '?' for help.\n" ++
    "Type 'quit;' or 'exit;' to quit.\n\n"

/-- Take lines until the session or the input ends. -/
def converse (moment : Moment) (prompt : Prompt) : List String → List Display
  | [] => [.output prompt.text, .output "\n"]
  | line :: rest =>
    let (shown, ended, after) := prompt.feed moment line
    let shown := .output prompt.text :: shown
    if ended then shown else shown ++ converse moment after rest

end Prompt

end WideColumn
