import WideColumn.Numeral
import WideColumn.Path

/-!
# Command line arguments

Options have a long name after two dashes, and most a short one after one dash. A long name may be
cut as long as it fits one option only. A value stands in the next argument or in the same one:
after an equals sign, or right after a short name. Short names without a value can be put together,
also after an equals sign; the last one of them may have a value, which then begins right after it.
Two dashes as a value in the same argument take the option back. After `--` as an argument nothing
is an option. The program takes no other arguments, so any is a mistake.

All arguments are looked at once before the first one takes effect: an ambiguous name is a mistake
even after a request for help.
-/

namespace WideColumn.CommandLine

/-- An option. -/
inductive Flag where
  | help | host | port | keyspace | command | file | batch | verbose | debug
  deriving DecidableEq, Repr

namespace Flag

/-- All options. -/
def all : List Flag :=
  [help, host, port, keyspace, command, file, batch, verbose, debug]

/-- The long name, after its two dashes. -/
def longName : Flag → String
  | help => "help"
  | host => "host"
  | port => "port"
  | keyspace => "keyspace"
  | command => "command"
  | file => "file"
  | batch => "batch"
  | verbose => "verbose"
  | debug => "debug"

/-- The short name, after its dash. -/
def shortName? : Flag → Option Char
  | help => some 'h'
  | host => some 'H'
  | port => some 'p'
  | keyspace => some 'k'
  | command => some 'c'
  | file => some 'f'
  | batch => some 'B'
  | verbose => some 'v'
  | debug => none

/-- Whether the option has a value. -/
def takesValue : Flag → Bool
  | host | port | keyspace | command | file => true
  | help | batch | verbose | debug => false

/-- The option with a short name. -/
def ofShort? (name : Char) : Option Flag :=
  all.find? fun flag => flag.shortName? == some name

/-- The options whose long name begins with a text; the one that it names in full, if there is
one. -/
def ofLong (name : List Char) : List Flag :=
  match all.find? fun flag => flag.longName.toList == name with
  | some flag => [flag]
  | none => all.filter fun flag => name.isPrefixOf flag.longName.toList

end Flag

/-- What an argument looks like. An option may have a text attached to it. -/
inductive Argument where
  | plain (text : List Char)
  | option (flag : Flag) (isShort : Bool) (attached : Option (List Char))
  | unknownOption

/-- How the program is to be used: a mistake, or a request for the instructions. -/
inductive Usage where
  | mistake
  | instructions
  deriving DecidableEq, Repr

/-- The exit status of a program that tells how it is to be used. -/
def Usage.status : Usage → Nat
  | mistake => 2
  | instructions => 0

/-! ### What arguments look like -/

/-- Whether a text is a minus sign and a decimal number, a final line break aside. -/
def isNegativeNumber (text : List Char) : Bool :=
  let isDigit := fun c => (Text.decimalDigit? c).isSome
  match (if text.getLast? = some '\n' then text.dropLast else text) with
  | '-' :: number =>
    let fraction := number.dropWhile isDigit
    match fraction with
    | [] => !number.isEmpty
    | '.' :: digits => !digits.isEmpty && digits.all isDigit
    | _ => false
  | _ => false

/-- A text with two dashes in front, up to an equals sign, and what stands after it. -/
def longOption (name : List Char) (attached : Option (List Char)) :
    Except Usage (Option Argument) :=
  match Flag.ofLong name with
  | [flag] => .ok (some (.option flag false attached))
  | [] => .ok none
  | _ => .error .mistake

/-- A text that begins with a dash but is no option. Negative numbers and texts with a space in them
are values. -/
def notAnOption (text : List Char) : Argument :=
  if isNegativeNumber text || text.contains ' ' then .plain text else .unknownOption

/-- What an argument looks like that is not `--` and has no `--` before it. -/
def classify (text : List Char) : Except Usage Argument := do
  match text with
  | '-' :: '-' :: rest =>
    let name := rest.takeWhile (· != '=')
    let attached := match rest.dropWhile (· != '=') with
      | '=' :: value => some value
      | _ => none
    return (← longOption name attached).getD (notAnOption text)
  | '-' :: short :: rest =>
    match Flag.ofShort? short, rest with
    | some flag, [] => return .option flag true none
    | some flag, '=' :: value => return .option flag true (some value)
    | some flag, value => return .option flag true (some value)
    | none, _ => return notAnOption text
  | _ => return .plain text

/-- What some arguments look like, up to `--`, and whether there was one. -/
def classifyAll : List (List Char) → Except Usage (List Argument × Bool)
  | [] => return ([], false)
  | ['-', '-'] :: _ => return ([], true)
  | text :: rest => do
    let argument ← classify text
    let (others, ended) ← classifyAll rest
    return (argument :: others, ended)

/-! ### What options ask for -/

/-- An option and its value, if it has one that counts. -/
structure Setting where
  flag : Flag
  value : Option (List Char) := none

/-- The options of one argument and the arguments that follow. -/
abbrev Taken := List Setting × List Argument

/-- The value that an attached text is. Two dashes alone are no value: they take the option back. -/
def attachedValue (text : List Char) : Option (List Char) :=
  if text = ['-', '-'] then none else some text

/-- Take an option that nothing is attached to. -/
def takeAlone (flag : Flag) (rest : List Argument) : Except Usage Taken :=
  if flag.takesValue then
    match rest with
    | .plain value :: rest => .ok ([{ flag, value := some value }], rest)
    | _ => .error .mistake
  else .ok ([{ flag }], rest)

/-- Take a short option with a text attached, which is its value, or which begins with the next
short option if it has none. -/
def takeBundle (rest : List Argument) (flag : Flag) (text : List Char) : Except Usage Taken :=
  if flag.takesValue then .ok ([{ flag, value := attachedValue text }], rest)
  else
    match text with
    | [] => .error .mistake
    | short :: more =>
      match Flag.ofShort? short with
      | none => .error .mistake
      | some next => do
        -- Nothing is attached to the last one of a bundle.
        let (others, rest) ←
          match more with
          | [] => takeAlone next rest
          | c :: text => takeBundle rest next (c :: text)
        return ({ flag } :: others, rest)

/-- Take an option. -/
def takeOption (flag : Flag) (isShort : Bool) (attached : Option (List Char))
    (rest : List Argument) : Except Usage Taken :=
  match attached with
  | none => takeAlone flag rest
  | some text =>
    if isShort then takeBundle rest flag text
    else if flag.takesValue then .ok ([{ flag, value := attachedValue text }], rest)
    else .error .mistake

/-! ### Options -/

/-- What the program is asked to do. -/
structure Options where
  host : String := "localhost"
  port : Int := 9160
  keyspace : Option String := none
  command : Option String := none
  /-- The path of a script. -/
  file : Option String := none
  batch : Bool := false
  verbose : Bool := false
  deriving DecidableEq, Repr

/-- The options with one more setting. An option without a value that counts goes back to what it
is without being given. -/
def Options.apply (options : Options) (setting : Setting) : Except Usage Options :=
  let unset : Options := {}
  let text := setting.value.map String.ofList
  match setting.flag with
  | .help => .error .instructions
  | .host => .ok { options with host := text.getD unset.host }
  | .port =>
    match setting.value with
    | none => .ok { options with port := unset.port }
    | some digits =>
      match Numeral.decimal? digits with
      | some port => .ok { options with port }
      | none => .error .mistake
  | .keyspace => .ok { options with keyspace := text }
  | .command => .ok { options with command := text }
  | .file => .ok { options with file := text.map Path.normal }
  | .batch => .ok { options with batch := true }
  | .verbose => .ok { options with verbose := true }
  | .debug => .ok options

/-- Options from arguments, at most `fuel` of them; whether something is left that is none. -/
def Options.ofArguments : (fuel : Nat) → List Argument → Options → Bool →
    Except Usage (Options × Bool)
  | 0, _, options, leftover => .ok (options, leftover)
  | _, [], options, leftover => .ok (options, leftover)
  | fuel + 1, argument :: rest, options, leftover =>
    match argument with
    | .plain _ | .unknownOption => ofArguments fuel rest options true
    | .option flag isShort attached => do
      let (settings, rest) ← takeOption flag isShort attached rest
      let options ← settings.foldlM Options.apply options
      ofArguments fuel rest options leftover

/-- The options that a command line asks for. -/
def parse (arguments : List String) : Except Usage Options := do
  let (arguments, ended) ← classifyAll (arguments.map String.toList)
  let (options, leftover) ← Options.ofArguments arguments.length arguments {} ended
  if leftover then throw .mistake
  return options

end WideColumn.CommandLine
