/-!
# Sorting by an order

A stable sort: elements that the order does not tell apart keep their places relative to each
other. It inserts one element after the other, so that it computes by structural recursion alone.
-/

namespace WideColumn.Order

/-- The list with `x` put before the first element that is not below it. -/
def insert {α : Type} (le : α → α → Bool) (x : α) : List α → List α
  | [] => [x]
  | y :: rest => if le x y then x :: y :: rest else y :: insert le x rest

/-- The list in ascending order. -/
def sort {α : Type} (le : α → α → Bool) (items : List α) : List α :=
  items.foldr (insert le) []

/-- Inserting rearranges. -/
theorem insert_perm {α : Type} (le : α → α → Bool) (x : α) (items : List α) :
    (insert le x items).Perm (x :: items) := by
  induction items with
  | nil => exact .refl _
  | cons y rest ih =>
    unfold insert
    split
    · exact .refl _
    · exact (ih.cons y).trans (.swap x y rest)

/-- Sorting rearranges. -/
theorem sort_perm {α : Type} (le : α → α → Bool) (items : List α) : (sort le items).Perm items := by
  induction items with
  | nil => exact .refl _
  | cons x rest ih => exact (insert_perm le x (sort le rest)).trans (ih.cons x)

/-- Strings in the order of their code points. -/
def sortStrings (items : List String) : List String :=
  sort (fun first second => first ≤ second) items

end WideColumn.Order
