/-!
Sorting by insertion. Of two items that may stand in either order, the earlier one stays first. The
recursion is on the items, so the order of given items is found by computation.
-/

namespace ReservedWords

variable {α : Type}

/-- Puts an item before the first one that may come after it. -/
def insertSorted (order : α → α → Bool) (item : α) : List α → List α
  | [] => [item]
  | next :: rest =>
    if order item next then item :: next :: rest else next :: insertSorted order item rest

/-- Items in an order. -/
def sorted (items : List α) (order : α → α → Bool) : List α :=
  items.foldr (insertSorted order) []

/-- Texts sorted by code point. -/
def sortTexts (texts : List String) : List String :=
  sorted texts fun first second => decide (first ≤ second)

end ReservedWords
