import WideColumn.Table

/-!
# Commands

What a statement asks for, with every literal still as it was written: what bytes it stands for
depends on the schema and on the assumptions of the session.
-/

namespace WideColumn

/-- A literal: plain text, or a cast of a text or of nothing. -/
inductive Literal where
  | plain (text : String)
  | cast (function : String) (argument : Option String)
  deriving DecidableEq, Repr

/-- A literal as a message shows it. -/
def Literal.shown : Literal → String
  | plain text => text
  | cast function argument => function ++ "(" ++ argument.getD "" ++ ")"

/-- The columns that an address gives after the key. -/
inductive Columns where
  | none
  | one (column : Literal)
  | two (outer inner : Literal)
  deriving DecidableEq, Repr

namespace Columns

/-- The columns in order. -/
def toList : Columns → List Literal
  | none => []
  | one column => [column]
  | two outer inner => [outer, inner]

/-- At most two columns. -/
def ofList? : List Literal → Option Columns
  | [] => some none
  | [column] => some (one column)
  | [outer, inner] => some (two outer inner)
  | _ => Option.none

end Columns

/-- A row, a super column or a column, named by literals. -/
structure Address where
  family : String
  key : Literal
  columns : Columns
  deriving DecidableEq, Repr

/-- How a condition compares a column with a value. -/
inductive Comparison where
  | equal
  | greater
  | greaterEqual
  | less
  | lessEqual
  deriving DecidableEq, Repr

/-- A condition on one column. -/
structure Condition where
  column : Literal
  comparison : Comparison
  value : Literal
  deriving DecidableEq, Repr

/-- An item of an attribute list. -/
inductive AttributeItem where
  | text (text : String)
  | hash (entries : Table String String)
  deriving DecidableEq

/-- The value of an attribute. A hash alone counts as a list of it. -/
inductive AttributeValue where
  | text (text : String)
  | list (items : List AttributeItem)
  deriving DecidableEq

/-- The attributes of a definition, by name. -/
abbrev Attributes := Table String AttributeValue

/-- What can be shown. -/
inductive ShowTarget where
  | clusterName
  | apiVersion
  | keyspaces
  deriving DecidableEq, Repr

/-- The words that name a target. -/
def ShowTarget.words : ShowTarget → String
  | clusterName => "cluster name"
  | apiVersion => "api version"
  | keyspaces => "keyspaces"

/-- The target that some words name. -/
def ShowTarget.ofWords? (words : String) : Option ShowTarget :=
  [clusterName, apiVersion, keyspaces].find? fun target => target.words == words

/-- What can be described. Without a name it is the current keyspace. -/
inductive DescribeTarget where
  | cluster
  | keyspace (name : Option String)
  deriving DecidableEq, Repr

/-- What a statement asks for. -/
inductive Command where
  | use (keyspace : String)
  | createKeyspace (name : String) (attributes : Attributes)
  | updateKeyspace (name : String) (attributes : Attributes)
  | dropKeyspace (name : String)
  | createFamily (name : String) (attributes : Attributes)
  | updateFamily (name : String) (attributes : Attributes)
  | dropFamily (name : String)
  | dropIndex (family : String) (column : Literal)
  | assume (family kind validator : String)
  | set (address : Address) (value : Literal) (ttl : Option Int)
  | get (address : Address) (validator : Option String) (limit : Option Int)
  | getWhere (family : String) (conditions : List Condition) (limit : Option Int)
  | del (address : Address)
  | incr (address : Address) (amount : Int)
  | decr (address : Address) (amount : Int)
  | count (address : Address)
  | list (family : String) (start stop : Option Literal) (limit : Option Int)
  | truncate (family : String)
  | describe (target : DescribeTarget)
  | «show» (target : ShowTarget)
  | help (topic : List String)
  | connect (host : String) (port : Int)
  | exit
  deriving DecidableEq

end WideColumn
