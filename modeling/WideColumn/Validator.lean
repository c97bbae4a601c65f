import WideColumn.Text.Blank
import WideColumn.Text.Case

/-!
# Validators

A validator says how stored bytes are to be read: as a text, a number, an identifier, a counter or
just as bytes. The set is closed. Each validator has a class name, which schema definitions hold,
and a function name, which statements use; both are recognised in any letter case, with or without
the package in front of the class name, and between blanks and quotes.
-/

namespace WideColumn

/-- How stored bytes are written, read and compared. -/
inductive Validator where
  | utf8
  | long
  | integer
  | lexicalUuid
  | timeUuid
  | counter
  | bytes
  deriving DecidableEq, Repr, Inhabited

namespace Validator

/-- All validators, in the order in which they are listed to the user. -/
def all : List Validator :=
  [utf8, long, integer, lexicalUuid, timeUuid, counter, bytes]

/-- The name in schema definitions. -/
def className : Validator → String
  | utf8 => "UTF8Type"
  | long => "LongType"
  | integer => "IntegerType"
  | lexicalUuid => "LexicalUUIDType"
  | timeUuid => "TimeUUIDType"
  | counter => "CounterColumnType"
  | bytes => "BytesType"

/-- The name in casts and assumptions. -/
def functionName : Validator → String
  | utf8 => "utf8"
  | long => "long"
  | integer => "integer"
  | lexicalUuid => "lexicaluuid"
  | timeUuid => "timeuuid"
  | counter => "counter"
  | bytes => "bytes"

/-- The package that a class name may be qualified with. -/
def package : String := "org.apache.cassandra.db.marshal."

/-- The three names of a validator, in small letters. -/
def names (validator : Validator) : List String :=
  [lowerAscii validator.className, validator.functionName,
    lowerAscii (package ++ validator.className)]
where
  /-- An ASCII name in small letters. -/
  lowerAscii (name : String) : String := String.ofList (name.toList.map Char.toLower)

/-- A name as it is looked up: without blanks and then quotes around it, in small letters. -/
def normalName (name : String) : String :=
  let bare := Text.trimWhile (fun c => c == '\'' || c == '"') (Text.trim name.toList)
  String.ofList (Text.lower bare)

/-- The validator that a name stands for. -/
def find? (name : String) : Option Validator :=
  let wanted := normalName name
  all.find? fun validator => validator.names.contains wanted

/-- The function names of all validators. -/
def functionNames : List String :=
  all.map functionName

/-- Every validator is listed. -/
theorem mem_all (validator : Validator) : validator ∈ all := by
  cases validator <;> decide

end Validator

end WideColumn
