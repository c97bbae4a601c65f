import WideColumn.CommandLine
import WideColumn.Prompt

/-!
# Running the program

The program connects, takes a keyspace into use if it is asked to, and runs a script: from a file,
from the command line, or from its input. Only if the input is a terminal it talks to the user
instead. `Run` is the part that needs no terminal: what is shown and the exit status, or a prompt to
go on with.
-/

namespace WideColumn.Invocation

/-- The input of the program. -/
inductive Input where
  | script (content : String)
  | terminal

/-- What the program does: show some texts and end, break off with a reason, or show some texts and
go on with a prompt. -/
inductive Run where
  | ended (shown : List Display) (status : Nat)
  | brokenOff (shown : List Display) (reason : String)
  | prompting (shown : List Display) (prompt : Prompt)

/-- The text of an input with line feeds for all line breaks. -/
def readable (content : String) : String :=
  String.ofList (Text.unifyBreaks content.toList)

/-- The line about a path without a file. -/
def missingFileLine (path : String) : String :=
  s!"Error: File not found: {path}\n"

/-- The line about a file that cannot be read. -/
def unreadableLine (reason : String) : String :=
  s!"Error reading file: {reason}\n"

/-- Why the path of a directory cannot be read. -/
def directoryReason (path : String) : String :=
  s!"[Errno 21] Is a directory: {Text.quoted path}"

/-- Why a path that is too long cannot be looked up. -/
def tooLongReason (path : String) : String :=
  s!"[Errno 36] File name too long: {Text.quoted path}"

/-- Run a script after what was shown so far. -/
def runScript (options : CommandLine.Options) (moment : Moment) (shell : Shell)
    (shown : List Display) (script : List String) : Run :=
  let manner : Shell.Manner := { verbose := options.verbose, batch := options.batch }
  let (others, succeeded, _) := shell.run manner moment script
  .ended (shown ++ others) (if succeeded then 0 else 1)

/-- Run the script of a file. A path that cannot even be looked up breaks the program off. -/
def runFile (options : CommandLine.Options) (moment : Moment) (shell : Shell)
    (shown : List Display) (path : String) : FileContent → Run
  | .missing => .ended (shown ++ [.error (missingFileLine path)]) 1
  | .directory => .ended (shown ++ [.error (unreadableLine (directoryReason path))]) 1
  | .tooLong => .brokenOff shown (tooLongReason path)
  | .unreadable reason => .ended (shown ++ [.error (unreadableLine reason)]) 1
  | .text content =>
    match Script.statements (readable content) with
    | [] => .ended (shown ++ [.error "No statements found in file\n"]) 1
    | script => runScript options moment shell shown script

/-- The statement that takes a keyspace into use, whatever its name is. -/
def useStatement (keyspace : String) : String :=
  s!"use '{Text.escaped keyspace}';"

/-- Take a keyspace into use, if one is named; whether that succeeded. -/
def useKeyspace (moment : Moment) (shell : Shell) (keyspace : String) :
    List Display × Bool × Shell :=
  if keyspace.isEmpty then ([], true, shell)
  else
    let (reply, after) := shell.answer moment (useStatement keyspace)
    ([Shell.display reply], reply.isSuccess, after)

/-- Run the program. -/
def run (options : CommandLine.Options) (moment : Moment) (supply : Supply) (file : FileContent)
    (input : Input) : Run :=
  let (connected, state) := State.connect {} moment options.host options.port
  match connected with
  | .error failure => .ended [.error s!"Error: {failure.message}\n"] 1
  | .ok () =>
    let (shown, selected, shell) :=
      useKeyspace moment { state, supply } (options.keyspace.getD "")
    if !selected then .ended shown 1
    else
      match options.file, options.command.getD "", input with
      | some path, _, _ => runFile options moment shell shown path file
      | none, "", .terminal => .prompting (shown ++ [.output Prompt.welcome]) { shell }
      | none, "", .script content =>
        runScript options moment shell shown (Script.statements (readable content))
      | none, command, _ => runScript options moment shell shown (Script.statements command)

end WideColumn.Invocation
