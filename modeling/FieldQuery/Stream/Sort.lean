/-
Stable sorting. Short lists are sorted by insertion, longer ones by merging; elements that compare
as equal keep their order.
-/

namespace FieldQuery.Stream

variable {α : Type}

/-- Inserts into a list sorted downwards: past those that are greater, before those that are not. -/
def insertDown (order : α → α → Ordering) (a : α) : List α → List α
  | [] => [a]
  | b :: rest => if order a b = .lt then b :: insertDown order a rest else a :: b :: rest

/-- Sorts by insertion, element after element. -/
def insertionSort (order : α → α → Ordering) (items : List α) : List α :=
  (items.foldl (fun sorted a => insertDown order a sorted) []).reverse

/-- The length up to which insertion is used. -/
def insertionLimit : Nat := 20

/-- Sorts a list, keeping the order of elements that compare as equal. -/
def stableSort (order : α → α → Ordering) (items : List α) : List α :=
  if items.length ≤ insertionLimit then insertionSort order items
  else items.mergeSort fun a b => order a b != .gt

end FieldQuery.Stream
