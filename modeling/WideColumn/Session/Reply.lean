import WideColumn.Command.Parser
import WideColumn.Outcome.Report
import WideColumn.Session.Execute

/-!
# Replies to statements

A statement is read, executed and answered. The answer is either an outcome or a failure, each with
the text to be shown: an outcome belongs on the output, a failure on the error output. The two
outputs keep what is written to them, text by text.
-/

namespace WideColumn

/-- The answer to a statement. -/
inductive Reply where
  | success (outcome : Outcome) (text : String)
  | failure (cause : Failure) (text : String)

namespace Reply

/-- Whether the statement succeeded. -/
def isSuccess : Reply → Bool
  | success _ _ => true
  | failure _ _ => false

/-- The text for the output. -/
def output : Reply → String
  | success _ text => text
  | failure _ _ => ""

/-- The text for the error output. -/
def errorOutput : Reply → String
  | success _ _ => ""
  | failure _ text => text

/-- Whether the session is to end. -/
def endsSession : Reply → Bool
  | success .ended _ => true
  | _ => false

/-- The reply to an outcome or a failure. An outcome that cannot be written fails. -/
def ofResult (newline : String) (result : Except Failure Outcome) : Reply :=
  match result with
  | .error cause => failure cause (Report.failure newline cause)
  | .ok outcome =>
    match Report.outcome newline outcome with
    | .ok text => success outcome text
    | .error cause => failure cause (Report.failure newline cause)

end Reply

/-- What was written so far to the output and to the error output. -/
structure Sinks where
  output : List String := []
  errorOutput : List String := []
  deriving DecidableEq, Repr

namespace Sinks

/-- Texts with one more written after them; an empty text is not written. -/
def append (texts : List String) (text : String) : List String :=
  if text.isEmpty then texts else texts ++ [text]

/-- Write the text of a reply where it belongs. -/
def write (sinks : Sinks) : Reply → Sinks
  | .success _ text => { sinks with output := append sinks.output text }
  | .failure _ text => { sinks with errorOutput := append sinks.errorOutput text }

end Sinks

namespace State

/-- Answer a statement. -/
def answer (state : State) (moment : Moment) (newline statement : String) :
    StateM Supply (Reply × State) := do
  match Command.parse statement with
  | .error cause => return (.ofResult newline (.error cause), state)
  | .ok command =>
    let (result, after) ← (Action.execute moment command).run state
    return (.ofResult newline result, after)

/-- Answer a statement and write the reply. -/
def process (state : State) (moment : Moment) (newline statement : String) (sinks : Sinks) :
    StateM Supply (Reply × State × Sinks) := do
  let (reply, after) ← state.answer moment newline statement
  return (reply, after, sinks.write reply)

end State

end WideColumn
