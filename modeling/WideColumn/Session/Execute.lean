import WideColumn.Help
import WideColumn.Outcome
import WideColumn.Schema.Attributes
import WideColumn.Session.Action
import WideColumn.Store.Read
import WideColumn.Store.Write

/-!
# Executing commands

Each command is an action with an outcome. Names of column families and literals are resolved by the
keyspace in use before the store is asked.
-/

namespace WideColumn.Action

/-! ### Showing what was read -/

/-- A column as text. -/
def showCell (resolver : Resolver) (validator : Option Validator) (cell : Cell) :
    Except Failure ShownCell := do
  let name ← resolver.showColumn cell.name
  match cell.record with
  | .counter total => return .counter name (← shownNumber total)
  | .value data timestamp ttl =>
    return .column name (← resolver.showValue data cell.name validator) (some timestamp) ttl

/-- A column or a super column as text. -/
def showEntry (resolver : Resolver) (validator : Option Validator) :
    Entry → Except Failure ShownEntry
  | .cell cell => .cell <$> showCell resolver validator cell
  | .superColumn name cells => do
    let name ← resolver.showSuperColumn name
    return .superColumn name (← cells.mapM (showCell resolver validator))
  | .misplaced => throw (.shape .superColumnFound)

/-- Columns and super columns as text. -/
def showEntries (resolver : Resolver) (validator : Option Validator) (entries : List Entry) :
    Except Failure (List ShownEntry) :=
  entries.mapM (showEntry resolver validator)

/-- A row as text. -/
def showRow (resolver : Resolver) (row : RowSlice) : Except Failure ShownRow := do
  let key ← resolver.showKey row.key
  return ⟨key, ← showEntries resolver none row.entries⟩

/-- The rows of a scan as an outcome. -/
def showRows (resolver : Resolver) (rows : List RowSlice) : Except Failure Outcome :=
  .rows <$> rows.mapM (showRow resolver)

/-! ### Addresses -/

/-- The place that an address stands for. A single column names a super column if rows hold super
columns. -/
def locate (resolver : Resolver) (address : Address) : Draw Location := do
  let family := resolver.family
  let key ← resolver.encodeKey address.key
  match family.isSuper, address.columns with
  | _, .none => return ⟨family.name, key, none, none⟩
  | true, .one outer =>
    return ⟨family.name, key, some (← resolver.encodeSuperColumn outer), none⟩
  | true, .two outer inner => do
    let superColumn ← resolver.encodeSuperColumn outer
    return ⟨family.name, key, some superColumn, some (← resolver.encodeColumn inner)⟩
  | false, .one column =>
    return ⟨family.name, key, none, some (← resolver.encodeColumn column)⟩
  | false, .two _ _ => throw (.schema (.onlyOneColumn family.name))

/-- The column of a location, which has to end in one. -/
def requireColumn (family : ColumnFamily) (location : Location) : Except Failure Bytes :=
  match location.column with
  | some column => .ok column
  | none =>
    if family.isSuper then .error (.schema (.subcolumnRequired family.name))
    else .error (.schema (.columnRequired family.name))

/-- How many entries of a row are read if no limit is given. -/
def rowLimit : Int := 1000000

/-- How many rows are read if no limit is given. -/
def scanLimit : Int := 100

/-! ### Commands on data -/

/-- Set a column. -/
def setColumn (moment : Moment) (address : Address) (value : Literal) (ttl : Option Int) :
    Action Outcome := do
  let resolver ← (← get).resolver address.family
  let location ← draw (locate resolver address)
  let column ← requireColumn resolver.family location
  let data ← draw (resolver.encodeValue value column)
  call (Store.insertColumn moment.now location data ttl)
  return .inserted

/-- Get a row, a super column or a column. -/
def getAddress (moment : Moment) (address : Address) (validator : Option String)
    (limit : Option Int) : Action Outcome := do
  let state ← get
  let resolver ← state.resolver address.family
  let asked ← declaredValidator validator
  let location ← draw (locate resolver address)
  -- Without a column, all that the row or the super column holds is wanted.
  if location.column.isNone then
    let entries ← state.store.getRow moment.now location.family location.key
      location.superColumn (limit.getD rowLimit)
    return .entries (← showEntries resolver asked entries)
  match ← state.store.getColumn moment.now location with
  | some (.cell cell) => return .column (← showCell resolver asked cell)
  | some .misplaced => throw (.shape .superColumnFound)
  | _ => return .notFound

/-- A condition with the bytes of its literals. -/
def encodeCondition (resolver : Resolver) (condition : Condition) : Draw IndexExpression := do
  let column ← resolver.encodeColumn condition.column
  let value ← Resolver.encodeWith (resolver.valueValidator (some column)) condition.value
  return ⟨column, condition.comparison, value⟩

/-- Get the rows that satisfy conditions. -/
def getMatching (moment : Moment) (familyName : String) (conditions : List Condition)
    (limit : Option Int) : Action Outcome := do
  let state ← get
  let resolver ← state.resolver familyName
  let expressions ← draw (conditions.mapM (encodeCondition resolver))
  let rows ← state.store.getIndexedSlices moment.now resolver.family.name
    expressions (limit.getD scanLimit)
  showRows resolver rows

/-- Delete a row, a super column or a column. -/
def delete (address : Address) : Action Outcome := do
  let resolver ← (← get).resolver address.family
  let location ← draw (locate resolver address)
  call (Store.removeColumn location)
  if location.column.isSome then return .removed "column"
  if location.superColumn.isSome then return .removed "super column"
  return .removed "row"

/-- Change a counter. -/
def addToCounter (address : Address) (delta : Int) (outcome : Outcome) : Action Outcome := do
  let resolver ← (← get).resolver address.family
  let location ← draw (locate resolver address)
  let _ ← requireColumn resolver.family location
  call (Store.addToCounter location delta)
  return outcome

/-- Count the entries of a row or the columns of a super column. -/
def countEntries (moment : Moment) (address : Address) : Action Outcome := do
  let state ← get
  let resolver ← state.resolver address.family
  let location ← draw (locate resolver address)
  if location.column.isSome then throw (.schema .countOfColumn)
  let entries ← state.store.getRow moment.now location.family location.key
    location.superColumn rowLimit
  return .counted entries.length

/-- List rows between two keys. -/
def listRows (moment : Moment) (familyName : String) (start stop : Option Literal)
    (limit : Option Int) : Action Outcome := do
  let state ← get
  let resolver ← state.resolver familyName
  let first ← draw (start.mapM resolver.encodeKey)
  let last ← draw (stop.mapM resolver.encodeKey)
  let rows ← state.store.getSlice moment.now resolver.family.name
    (first.getD []) (last.getD []) (limit.getD scanLimit)
  showRows resolver rows

/-- Remove all rows of a column family. -/
def truncateFamily (familyName : String) : Action Outcome := do
  let keyspace ← (← get).keyspace
  let family ← keyspace.family familyName
  call (Store.truncate family.name)
  return .truncated family.name

/-- Assume a validator for a part of a column family. -/
def assume (familyName kindName validatorName : String) : Action Outcome := do
  let keyspace ← (← get).keyspace
  let family ← keyspace.family familyName
  let kind ← AssumptionKind.ofName kindName
  let validator ← Validator.named validatorName
  modifySession fun session => session.assume family keyspace.name kind validator
  return .assumed family.name

/-! ### Commands on the schema -/

/-- The keyspace with a name among all, if there is one. -/
def findKeyspace (name : String) : Action (Option Keyspace) := do
  return Keyspace.find? (← (← get).store.describeSchema) name

/-- The keyspace with a name among all, which has to exist. -/
def existingKeyspace (name : String) : Action Keyspace := do
  match ← findKeyspace name with
  | some keyspace => return keyspace
  | none => throw (.schema (.keyspaceNotFound name))

/-- Take a keyspace into use. -/
def useKeyspace (name : String) : Action Outcome := do
  match ← findKeyspace name with
  | none => throw (.state (.keyspaceNotFound name))
  | some keyspace =>
    call (Store.selectKeyspace keyspace.name)
    modifySession fun session => { session with keyspace := some keyspace.name }
    return .keyspaceSelected keyspace.name

/-- Create a keyspace. -/
def createKeyspace (name : String) (attributes : Attributes) : Action Outcome := do
  if (← findKeyspace name).isSome then throw (.schema (.keyspaceExists name))
  let keyspace ← Keyspace.withAttributes { name } attributes
  return .schemaChanged (← call (Store.createKeyspace keyspace))

/-- Update a keyspace. -/
def updateKeyspace (name : String) (attributes : Attributes) : Action Outcome := do
  let keyspace ← (← existingKeyspace name).withAttributes attributes
  return .schemaChanged (← call (Store.updateKeyspace keyspace))

/-- Drop a keyspace, which is then no longer in use. -/
def dropKeyspace (name : String) : Action Outcome := do
  let keyspace ← existingKeyspace name
  let version ← call (Store.dropKeyspace keyspace.name)
  -- Another keyspace stays in use.
  modifySession fun session =>
    if session.keyspace = some keyspace.name then { session with keyspace := none } else session
  return .schemaChanged version

/-- Create a column family. -/
def createFamily (name : String) (attributes : Attributes) : Action Outcome := do
  let keyspace ← (← get).keyspace
  if (keyspace.family? name).isSome then
    throw (.schema (.columnFamilyExists name keyspace.name))
  let family ← draw (ColumnFamily.withAttributes { keyspace := keyspace.name, name } attributes)
  return .schemaChanged (← call (Store.createFamily family))

/-- Update a column family. -/
def updateFamily (name : String) (attributes : Attributes) : Action Outcome := do
  let family ← (← (← get).keyspace).family name
  let updated ← draw (family.withAttributes attributes)
  return .schemaChanged (← call (Store.updateFamily updated))

/-- Drop a column family. -/
def dropFamily (name : String) : Action Outcome := do
  let family ← (← (← get).keyspace).family name
  return .schemaChanged (← call (Store.dropFamily family.name))

/-- Drop the index on a column. -/
def dropIndex (familyName : String) (column : Literal) : Action Outcome := do
  let resolver ← (← get).resolver familyName
  let family := resolver.family
  let name ← draw (resolver.encodeColumn column)
  unless (family.column? name).any ColumnDefinition.isIndexed do
    throw (.schema (.noIndex family.name column.shown))
  return .schemaChanged (← call (Store.dropIndex family.name name))

/-! ### Commands that inform -/

/-- The name of the keyspace to describe: the one in use if none is given. -/
def wantedKeyspace (state : State) : Option String → Except Failure String
  | some name => .ok name
  | none => state.requireKeyspace

/-- Describe the cluster or a keyspace. -/
def describe : DescribeTarget → Action Outcome
  | .cluster => do
    let versions ← (← get).store.describeSchemaVersions
    return .cluster Store.snitch Store.partitioner versions
  | .keyspace name => do
    let state ← get
    let wanted ← wantedKeyspace state name
    match ← state.store.describeKeyspace wanted with
    | some keyspace => return .keyspaces [keyspace]
    | none => throw (.schema (.keyspaceNotFound wanted))

/-- Show the name of the cluster, the version of its interface, or all keyspaces. -/
def inform (target : ShowTarget) : Action Outcome := do
  let store := (← get).store
  match target with
  | .clusterName => return .text (← store.describeClusterName)
  | .apiVersion => return .text (← store.describeVersion)
  | .keyspaces => return .keyspaces (← store.describeSchema)

/-- The help on a topic. -/
def help (topic : List String) : Except Failure Outcome :=
  match Help.text? topic with
  | some text => .ok (.text text)
  | none => .error (.parse (.unknownHelpTopic (" ".intercalate topic)))

/-! ### All commands -/

/-- Connect to a host. The state changes even if the host refuses. -/
def connect (moment : Moment) (host : String) (port : Int) : Action Outcome := do
  let (result, after) := (← get).connect moment host port
  set after
  result
  let cluster ← after.store.describeClusterName
  return .text s!"Connected to: \"{cluster}\" on {host}/{port}"

/-- End the session. -/
def close : Action Outcome := do
  modify State.close
  return .ended

/-- Execute a command that needs a keyspace in use. -/
def executeInKeyspace (moment : Moment) (command : Command) : Action Outcome := do
  let _ ← (← get).requireKeyspace
  match command with
  | .createFamily name attributes => createFamily name attributes
  | .updateFamily name attributes => updateFamily name attributes
  | .dropFamily name => dropFamily name
  | .dropIndex family column => dropIndex family column
  | .assume family kind validator => assume family kind validator
  | .set address value ttl => setColumn moment address value ttl
  | .get address validator limit => getAddress moment address validator limit
  | .getWhere family conditions limit => getMatching moment family conditions limit
  | .del address => delete address
  | .incr address amount => addToCounter address amount .incremented
  | .decr address amount => addToCounter address (-amount) .decremented
  | .count address => countEntries moment address
  | .list family start stop limit => listRows moment family start stop limit
  | .truncate family => truncateFamily family
  | _ => throw (.state .noKeyspace)

/-- Execute a command. -/
def execute (moment : Moment) (command : Command) : Action Outcome := do
  match command with
  | .help topic => help topic
  | .connect host port => connect moment host port
  | .exit => close
  | _ =>
    (← get).requireConnected
    match command with
    | .use keyspace => useKeyspace keyspace
    | .createKeyspace name attributes => createKeyspace name attributes
    | .updateKeyspace name attributes => updateKeyspace name attributes
    | .dropKeyspace name => dropKeyspace name
    | .describe target => describe target
    | .show target => inform target
    | _ => executeInKeyspace moment command

end WideColumn.Action
