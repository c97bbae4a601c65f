import WideColumn.Failure

/-!
# Fresh identifiers

Some literals stand for an identifier that nobody has used yet. They come from a supply, which
numbers the identifiers of each sort from one on. A computation of type `Draw α` may draw from the
supply and may fail; what it drew stays drawn even then.
-/

namespace WideColumn

/-- Where fresh identifiers come from, and how many were taken. -/
structure Supply where
  /-- The time-based identifier with a number. -/
  timeId : Nat → Nat
  /-- The random identifier with a number. -/
  randomId : Nat → Nat
  timesDrawn : Nat := 0
  randomsDrawn : Nat := 0

/-- A computation that may take fresh identifiers and may fail. -/
abbrev Draw (α : Type) := ExceptT Failure (StateM Supply) α

namespace Draw

/-- The next time-based identifier. -/
def timeId : Draw Nat := do
  let supply ← get
  let number := supply.timesDrawn + 1
  set { supply with timesDrawn := number }
  return supply.timeId number

/-- The next random identifier. -/
def randomId : Draw Nat := do
  let supply ← get
  let number := supply.randomsDrawn + 1
  set { supply with randomsDrawn := number }
  return supply.randomId number

/-- A computation that draws nothing. -/
def ofExcept {α : Type} (result : Except Failure α) : Draw α :=
  fun supply => (result, supply)

end Draw

end WideColumn
