import Std.Time.DateTime.Timestamp
import WideColumn.Invocation

/-!
# The program

Reads the clock, the arguments, the input and a file, and shows what the library says.
-/

namespace WideColumn.Program

/-- The microsecond it is. -/
def now : IO Int := do
  let time ← Std.Time.Timestamp.now
  return time.toNanosecondsSinceUnixEpoch.val / 1000

/-- Identifiers made from the time and a seed. -/
def supplyFrom (micros : Int) (seed : Bytes) : Supply where
  timeId number := Uuid.timeBased (10 * micros.toNat + number) (Bytes.toNat (seed.take 8))
  randomId number := Uuid.random (Bytes.toNat (Digest.md5 (seed ++ Bytes.ofNat 8 number)))

/-- Show texts. -/
def present (texts : List Display) : IO Unit := do
  for text in texts do
    match text with
    | .output text => (← IO.getStdout).putStr text
    | .error text => (← IO.getStderr).putStr text
  (← IO.getStdout).flush

/-- What there is at a path. -/
def fileAt (path : String) : IO FileContent := do
  try
    return .text (← IO.FS.readFile path)
  catch
    | .noFileOrDirectory .. => return .missing
    | .inappropriateType .. => return .directory
    | .invalidArgument _ 36 _ => return .tooLong
    | error => return .unreadable error.toString

/-- Lines from a terminal, until the session or the input ends. -/
partial def converse (prompt : Prompt) : IO Unit := do
  present [.output prompt.text]
  let line ← (← IO.getStdin).getLine
  if line.isEmpty then present [.output "\n"]
  else
    let typed := String.ofList (Text.trimEndWhile (· == '\n') line.toList)
    let (shown, ended, after) := prompt.feed { now := ← now } typed
    present shown
    unless ended do converse after

/-- The whole input. -/
partial def readAll (sofar : String) : IO String := do
  let line ← (← IO.getStdin).getLine
  if line.isEmpty then return sofar else readAll (sofar ++ line)

/-- Run the program on its arguments; its exit status. -/
def run (arguments : List String) : IO UInt32 := do
  match CommandLine.parse arguments with
  | .error usage =>
    (← IO.getStderr).putStrLn ("usage: cassandra-cli [-H HOST] [-p PORT] [-k KEYSPACE] " ++
      "[-c COMMAND] [-f FILE] [-B] [-v]")
    return UInt32.ofNat usage.status
  | .ok options =>
    let micros ← now
    let seed ← IO.getRandomBytes 16
    let file ← match options.file with
      | some path => fileAt path
      | none => pure .missing
    let scripted := options.file.isSome || !(options.command.getD "").isEmpty
    let input ←
      if scripted then pure (.script "")
      else if ← (← IO.getStdin).isTty then pure .terminal
      else .script <$> readAll ""
    let supply := supplyFrom micros seed.toList
    match Invocation.run options { now := micros } supply file input with
    | .ended shown status =>
      present shown
      return UInt32.ofNat status
    | .brokenOff shown reason =>
      present (shown ++ [.error (reason ++ "\n")])
      return 1
    | .prompting shown prompt =>
      present shown
      converse prompt
      return 0

end WideColumn.Program

/-- The program. -/
def main (arguments : List String) : IO UInt32 :=
  WideColumn.Program.run arguments
