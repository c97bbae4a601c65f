import WideColumn.Outcome
import WideColumn.Order
import WideColumn.Resolver

/-!
# Reports

The text in which an outcome or a failure is shown to the user. An outcome takes any number of
lines, a failure just one, and every line ends with the line break of the session.
-/

namespace WideColumn.Report

/-! ### Columns and rows -/

/-- A number, or the word for there being none. -/
def numberText : Option Int → Except Failure String
  | some value => shownNumber value
  | none => .ok "None"

/-- A column in parentheses. A time to live is told if it is there and not zero. -/
def cellText : ShownCell → Except Failure String
  | .counter name value => .ok s!"(counter={name}, value={value})"
  | .column name value timestamp ttl => do
    let time ← numberText timestamp
    let text := s!"(column={name}, value={value}, timestamp={time}"
    match ttl with
    | none | some 0 => return text ++ ")"
    | some seconds =>
      let seconds ← shownNumber seconds
      return text ++ s!", ttl={seconds})"

/-- A column or a super column; the columns of a super column stand on lines of their own. -/
def entryText (newline : String) : ShownEntry → Except Failure String
  | .cell cell => return "=> " ++ (← cellText cell)
  | .superColumn name cells => do
    let lines ← cells.mapM fun cell => return newline ++ "     " ++ (← cellText cell)
    return s!"=> (super_column={name}," ++ String.join lines ++ ")"

/-- The lines of a row. -/
def rowLines (newline : String) (row : ShownRow) : Except Failure (List String) := do
  let entries ← row.entries.mapM (entryText newline)
  return "-------------------" :: s!"RowKey: {row.key}" :: entries

/-- The line that tells the number of rows. -/
def rowCount (count : Nat) : String :=
  if count = 1 then "1 Row Returned." else s!"{count} Rows Returned."

/-! ### Definitions -/

/-- The lines of a column definition; a name that cannot be shown is shown as plain bytes. -/
def columnLines (resolver : Resolver) (column : ColumnDefinition) :
    Except Failure (List String) := do
  let name ← match resolver.showColumn column.name with
    | .error (.literal _) => .ok column.name.hex
    | result => result
  let index := match column.indexType with
    | some indexType =>
      let indexName := column.indexName.getD ""
      [s!"          Index Name: {indexName}", s!"          Index Type: {indexType}"]
    | none => []
  return [s!"        Column Name: {name}",
    s!"          Validation Class: {column.validationClass}"] ++ index

/-- The lines of a column family definition. -/
def familyLines (family : ColumnFamily) : Except Failure (List String) := do
  let resolver : Resolver := { family }
  let comparator ← resolver.comparator
  let sortedBy ←
    if family.isSuper then do
      let subcomparator ← resolver.subcomparator
      pure s!"{comparator.className}/{subcomparator.className}"
    else pure comparator.className
  let mark := if family.isSuper then " (Super)" else ""
  let keys ← resolver.keyValidator
  let values ← resolver.valueValidator none
  let head := [
    s!"    ColumnFamily: {family.name}{mark}",
    s!"      Key Validation Class: {keys.className}",
    s!"      Default column value validator: {values.className}",
    s!"      Columns sorted by: {sortedBy}"]
  let comment := match family.comment with
    | none | some "" => []
    | some comment => [s!"      Comment: {comment}"]
  let options :=
    (Order.sort (fun first second => first.1 ≤ second.1) family.options.entries).map
      fun (name, value) => s!"      {name}: {value}"
  let columns ← family.columnMetadata.mapM (columnLines resolver)
  let metadata := if columns.isEmpty then [] else "      Column Metadata:" :: columns.flatten
  return head ++ comment ++ options ++ metadata

/-- The lines of a keyspace definition. -/
def keyspaceLines (keyspace : Keyspace) : Except Failure (List String) := do
  let options := keyspace.strategyOptions.entries.map fun (name, value) => s!"{name}:{value}"
  let listed := ", ".intercalate options
  let durable := if keyspace.durableWrites then "true" else "false"
  let head := [
    s!"Keyspace: {keyspace.name}:",
    s!"  Replication Strategy: {keyspace.strategyClass}",
    s!"  Durable Writes: {durable}",
    s!"    Options: [{listed}]",
    "  Column Families:"]
  let families ← keyspace.families.mapM familyLines
  return head ++ families.flatten

/-- The lines about the cluster. -/
def clusterLines (snitch partitioner : String) (versions : Table String (List String)) :
    List String :=
  ["Cluster Information:", s!"   Snitch: {snitch}", s!"   Partitioner: {partitioner}",
    "   Schema versions: "] ++
  versions.entries.map fun (version, hosts) =>
    let listed := ", ".intercalate hosts
    s!"\t{version}: [{listed}]"

/-! ### Outcomes and failures -/

/-- The lines of an outcome, without their line breaks. -/
def lines (newline : String) : Outcome → Except Failure (List String)
  | .keyspaceSelected keyspace => .ok [s!"Authenticated to keyspace: {keyspace}"]
  | .schemaChanged version => .ok [version]
  | .assumed family => .ok [s!"Assumption for column family '{family}' added successfully."]
  | .inserted => .ok ["Value inserted."]
  | .incremented => .ok ["Value incremented."]
  | .decremented => .ok ["Value decremented."]
  | .column cell => return ["=> " ++ (← cellText cell)]
  | .notFound => .ok ["Value was not found"]
  | .entries entries => do
    return (← entries.mapM (entryText newline)) ++ [s!"Returned {entries.length} results."]
  | .rows rows => do
    return (← rows.mapM (rowLines newline)).flatten ++ ["", rowCount rows.length]
  | .removed what => .ok [s!"{what} removed."]
  | .counted count => .ok [s!"{count} columns"]
  | .truncated family => .ok [s!"{family} truncated."]
  | .cluster snitch partitioner versions => .ok (clusterLines snitch partitioner versions)
  | .keyspaces keyspaces => do return (← keyspaces.mapM keyspaceLines).flatten
  | .text text => .ok (text.splitOn "\n")
  | .ended => .ok []

/-- The text of an outcome. -/
def outcome (newline : String) (outcome : Outcome) : Except Failure String := do
  return String.join ((← lines newline outcome).map (· ++ newline))

/-- A message on one line: its line breaks are written as escape sequences. -/
def oneLine (message : String) : String :=
  String.ofList <| message.toList.flatMap fun c =>
    if c = '\r' then ['\\', 'r'] else if c = '\n' then ['\\', 'n'] else [c]

/-- The line of a message under a label. -/
def labelled (newline label message : String) : String :=
  label ++ ": " ++ oneLine message ++ newline

/-- The text of a failure. -/
def failure (newline : String) (failure : Failure) : String :=
  labelled newline failure.label failure.message

end WideColumn.Report
