import WideColumn.Order
import WideColumn.Uuid
import WideColumn.Validator

/-!
# Sort keys

A validator compares stored bytes by a sort key: by number if the bytes are a number for it, by
time and then bytes if they are a time-based identifier, else by the bytes themselves. Bytes that
have no meaning for the validator come after all that have one.
-/

namespace WideColumn

/-- What stored bytes are compared by. -/
inductive SortKey where
  | number (value : Int)
  | instant (time : Nat) (data : Bytes)
  | plain (data : Bytes)
  deriving DecidableEq, Repr

namespace SortKey

/-- The key as a triple that is compared from left to right. -/
def measure : SortKey → Nat × Int × Bytes
  | number value => (0, value, [])
  | instant time data => (0, time, data)
  | plain data => (1, 0, data)

/-- Whether one key comes before another. -/
def lt (first second : SortKey) : Bool :=
  let (rank, value, data) := first.measure
  let (rank', value', data') := second.measure
  rank < rank' || (rank == rank' && (value < value' || (value == value' && data < data')))

/-- Whether one key comes before another or is at the same place. -/
def le (first second : SortKey) : Bool :=
  !second.lt first

end SortKey

namespace Validator

/-- The sort key of stored bytes. -/
def sortKey (validator : Validator) (data : Bytes) : SortKey :=
  match validator with
  | long | counter => if data.length = 8 then .number data.toInt else .plain data
  | integer => if data.isEmpty then .plain data else .number data.toInt
  | timeUuid => if data.length = 16 then .instant (Uuid.time data.toNat) data else .plain data
  | _ => .plain data

/-- Whether one byte string comes before another or at the same place. -/
def precedes (validator : Validator) (first second : Bytes) : Bool :=
  (validator.sortKey first).le (validator.sortKey second)

/-- Items sorted by a byte string that each of them has. -/
def sortOn {α : Type} (validator : Validator) (bytesOf : α → Bytes) (items : List α) : List α :=
  Order.sort (fun first second => validator.precedes (bytesOf first) (bytesOf second)) items

end Validator

end WideColumn
