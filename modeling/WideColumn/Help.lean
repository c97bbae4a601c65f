import WideColumn.Text.Case

/-!
# Help

The pages that explain the statements. A page is found by the words of its topic in any letter case;
without a topic it is the general page.
-/

namespace WideColumn.Help

/-- The page that lists all commands. -/
def generalPage : List String := [
  "Getting around:",
  "?                       Display this help.",
  "help;                   Display this help.",
  "help <command>;         Display command-specific help.",
  "exit;                   Exit this utility.",
  "quit;                   Exit this utility.",
  "",
  "Commands:",
  "assume                  Apply client side validation.",
  "connect                 Connect to a Cassandra node.",
  "count                   Count columns or super columns.",
  "create column family    Add a column family to an existing keyspace.",
  "create keyspace         Add a keyspace to the cluster.",
  "decr                    Decrements a counter column.",
  "del                     Delete a column, super column or row.",
  "describe cluster        Describe the cluster configuration.",
  "describe keyspace       Describe a keyspace and its column families.",
  "drop column family      Remove a column family and its data.",
  "drop index              Remove an index from a column family.",
  "drop keyspace           Remove a keyspace and its data.",
  "get                     Get rows and columns.",
  "incr                    Increments a counter column.",
  "list                    List rows in a column family.",
  "set                     Set columns.",
  "show api version        Show the server API version.",
  "show cluster name       Show the cluster name.",
  "show keyspaces          Show all keyspaces and their column families.",
  "truncate                Drop the data in a column family.",
  "update column family    Update the settings for a column family.",
  "update keyspace         Update the settings for a keyspace.",
  "use                     Switch to a keyspace."]

/-- The attributes of a column family. -/
def familyAttributes : List String := [
  "Column family attributes:",
  "- column_type: Standard or Super.",
  "- comparator: validator for column names (super column names in a super CF).",
  "- subcomparator: validator for sub-column names in a super CF.",
  "- default_validation_class: validator for column values without metadata.",
  "- key_validation_class: validator for row keys.",
  "- comment: human readable description.",
  "- column_metadata: [\x7bcolumn_name:name, validation_class:type,",
  "    index_type:KEYS, index_name:name\x7d, ...]",
  "- rows_cached, keys_cached, read_repair_chance, gc_grace,",
  "  min_compaction_threshold, max_compaction_threshold,",
  "  replicate_on_write: passed through to the server.",
  "",
  "Supported types: bytes, integer, long, lexicaluuid, timeuuid, utf8,",
  "counter (values only)."]

/-- The attributes of a keyspace. -/
def keyspaceAttributes : List String := [
  "Keyspace attributes:",
  "- placement_strategy: replica placement strategy class,",
  "    default org.apache.cassandra.locator.SimpleStrategy.",
  "- strategy_options: [\x7bname:value, ...\x7d] options for the strategy.",
  "- replication_factor: shorthand for strategy_options replication_factor.",
  "- durable_writes: true or false, default true."]

/-- The pages by topic. -/
def pages : List (List String × List String) := [
  (["help"], [
    "help <command>;",
    "",
    "Display the general help page with a list of available commands, or",
    "specific help for a command."]),
  (["connect"], [
    "connect <hostname>/<port>;",
    "",
    "Connect to the specified Cassandra node on the RPC port.",
    "",
    "Example:",
    "connect localhost/9160;"]),
  (["use"], [
    "use <keyspace>;",
    "",
    "Switch to the given keyspace. All column family commands apply to the",
    "current keyspace. Keyspace names are matched ignoring case.",
    "",
    "Example:",
    "use Keyspace1;"]),
  (["describe", "keyspace"], [
    "describe keyspace [<keyspace>];",
    "",
    "Describe the keyspace settings and its column families. The current",
    "keyspace is described when no name is given.",
    "",
    "Example:",
    "describe keyspace Keyspace1;"]),
  (["describe", "cluster"], [
    "describe cluster;",
    "",
    "Describe the snitch, partitioner and schema versions of the cluster.",
    "Differing schema versions mean the nodes have not agreed on the schema."]),
  (["exit"], [
    "exit;",
    "",
    "Exit this utility."]),
  (["quit"], [
    "quit;",
    "",
    "Exit this utility."]),
  (["show", "cluster", "name"], [
    "show cluster name;",
    "",
    "Display the name of the cluster this client is connected to."]),
  (["show", "keyspaces"], [
    "show keyspaces;",
    "",
    "Describe every keyspace in the cluster and its column families."]),
  (["show", "api", "version"], [
    "show api version;",
    "",
    "Display the API version of the server this client is connected to."]),
  (["create", "keyspace"], [
    "create keyspace <keyspace>;",
    "create keyspace <keyspace> with <att1>=<value1>;",
    "create keyspace <keyspace> with <att1>=<value1> and <att2>=<value2> ...;",
    "",
    "Create a keyspace with the given attributes. The schema version is",
    "printed once the change is applied.",
    ""] ++ keyspaceAttributes ++ [
    "",
    "Example:",
    "create keyspace Keyspace2",
    "    with placement_strategy = 'org.apache.cassandra.locator.SimpleStrategy'",
    "    and strategy_options = [\x7breplication_factor:1\x7d];"]),
  (["update", "keyspace"], [
    "update keyspace <keyspace> with <att1>=<value1> and <att2>=<value2> ...;",
    "",
    "Update the settings of an existing keyspace. Attributes not given keep",
    "their current value.",
    ""] ++ keyspaceAttributes ++ [
    "",
    "Example:",
    "update keyspace Keyspace1 with durable_writes = false;"]),
  (["create", "column", "family"], [
    "create column family <name>;",
    "create column family <name> with <att1>=<value1> and <att2>=<value2> ...;",
    "",
    "Create a column family in the current keyspace.",
    ""] ++ familyAttributes ++ [
    "",
    "Example:",
    "create column family Users with comparator = UTF8Type",
    "    and column_metadata = [\x7bcolumn_name:age, validation_class:LongType,",
    "    index_type:KEYS\x7d];"]),
  (["update", "column", "family"], [
    "update column family <name> with <att1>=<value1> and <att2>=<value2> ...;",
    "",
    "Update the settings of an existing column family. column_type,",
    "comparator and subcomparator can not be changed.",
    ""] ++ familyAttributes ++ [
    "",
    "Example:",
    "update column family Users with comment = 'user profiles';"]),
  (["drop", "keyspace"], [
    "drop keyspace <keyspace>;",
    "",
    "Drop a keyspace and all of its column families and data. If it is the",
    "current keyspace no keyspace is selected afterwards.",
    "",
    "Example:",
    "drop keyspace Keyspace1;"]),
  (["drop", "column", "family"], [
    "drop column family <name>;",
    "",
    "Drop a column family from the current keyspace along with its data.",
    "",
    "Example:",
    "drop column family Standard2;"]),
  (["drop", "index"], [
    "drop index on <cf>.<column>;",
    "",
    "Remove the secondary index on a column, keeping its validation class.",
    "",
    "Example:",
    "drop index on Users.age;"]),
  (["get"], [
    "get <cf>['<key>'];",
    "get <cf>['<key>']['<col>'] [as <type>];",
    "get <cf>['<key>']['<super>'];",
    "get <cf>['<key>']['<super>']['<col>'] [as <type>];",
    "get <cf>['<key>'] limit <n>;",
    "get <cf> where <column> = <value> [and <column> > <value> and ...] [limit <n>];",
    "",
    "Get a single column, a super column, a row or rows matching an index",
    "expression. Keys, names and values are interpreted with the column",
    "family validators, or wrapped in a function such as long(10) or",
    "timeuuid(). \"as <type>\" displays the value with the given type.",
    "At least one expression of a where clause must use = on an indexed",
    "column.",
    "",
    "Examples:",
    "get Standard1[utf8('jsmith')];",
    "get Users['jsmith']['age'] as long;",
    "get Users where age = long(30) and name > 'j' limit 10;"]),
  (["set"], [
    "set <cf>['<key>']['<col>'] = <value>;",
    "set <cf>['<key>']['<super>']['<col>'] = <value>;",
    "set <cf>['<key>']['<col>'] = <function>(<argument>);",
    "set <cf>['<key>']['<col>'] = <value> with ttl = <secs>;",
    "",
    "Set a column value, optionally expiring after ttl seconds. Counter",
    "columns can only be changed with incr and decr.",
    "",
    "Examples:",
    "set Users[jsmith][first] = 'John';",
    "set Users[jsmith][age] = long(42);",
    "set Users[jsmith][session] = 'abc' with ttl = 3600;"]),
  (["del"], [
    "del <cf>['<key>'];",
    "del <cf>['<key>']['<col>'];",
    "del <cf>['<key>']['<super>'];",
    "del <cf>['<key>']['<super>']['<col>'];",
    "",
    "Delete a row, a column, a super column or a sub column.",
    "",
    "Example:",
    "del Users['jsmith']['age'];"]),
  (["count"], [
    "count <cf>['<key>'];",
    "count <cf>['<key>']['<super>'];",
    "",
    "Count the columns of a row, or the sub columns of a super column.",
    "",
    "Example:",
    "count Users['jsmith'];"]),
  (["list"], [
    "list <cf>;",
    "list <cf>[<startKey>:];",
    "list <cf>[<startKey>:<endKey>];",
    "list <cf> limit <n>;",
    "",
    "List a range of rows, 100 by default. Both bounds are inclusive and",
    "either may be left empty.",
    "",
    "Example:",
    "list Users[j:] limit 40;"]),
  (["truncate"], [
    "truncate <cf>;",
    "",
    "Remove all the data of a column family, keeping its definition.",
    "",
    "Example:",
    "truncate Users;"]),
  (["assume"], [
    "assume <cf> keys as <type>;",
    "assume <cf> comparator as <type>;",
    "assume <cf> sub_comparator as <type>;",
    "assume <cf> validator as <type>;",
    "",
    "Apply a client side validator for keys, column names, sub column names",
    "or values of a column family. Assumptions last for this session only and",
    "never override validators declared in the schema.",
    "",
    "Supported types: bytes, integer, long, lexicaluuid, timeuuid, utf8.",
    "",
    "Example:",
    "assume Users comparator as utf8;"]),
  (["incr"], [
    "incr <cf>['<key>']['<col>'] [by <value>];",
    "incr <cf>['<key>']['<super>']['<col>'] [by <value>];",
    "",
    "Increment a counter column by 1 or by the given signed value.",
    "",
    "Example:",
    "incr Counters['page']['hits'] by 10;"]),
  (["decr"], [
    "decr <cf>['<key>']['<col>'] [by <value>];",
    "decr <cf>['<key>']['<super>']['<col>'] [by <value>];",
    "",
    "Decrement a counter column by 1 or by the given signed value.",
    "",
    "Example:",
    "decr Counters['page']['hits'] by 10;"])]

/-- Shorter forms of some topics. -/
def aliases : List (List String × List String) := [
  (["describe"], ["describe", "keyspace"]),
  (["?"], ["help"])]

/-- The help on a topic, if there is any. -/
def text? (topic : List String) : Option String :=
  if topic.isEmpty then some ("\n".intercalate generalPage)
  else
    let words := topic.map Text.lowered
    let words := (aliases.lookup words).getD words
    (pages.lookup words).map fun page => "\n".intercalate page

end WideColumn.Help
