/-!
# Search by halving

The number of items at the start of an array that pass a test, when all items that pass come before
all that do not. The search looks at few items: it halves the stretch in which the first failing
item must be.
-/

namespace NotebookSlice

/-- Narrows a stretch of `size` items from `base` down to one item and counts it if it passes. -/
def halve {α : Type} (test : α → Bool) (items : Array α) (base size : Nat) : Nat :=
  if size ≤ 1 then
    if items[base]?.any test then base + 1 else base
  else
    let middle := base + size / 2
    if items[middle]?.any test then halve test items middle (size - size / 2)
    else halve test items base (size - size / 2)
termination_by size

/-- The number of passing items at the start of the array. -/
def countPassing {α : Type} (test : α → Bool) (items : Array α) : Nat :=
  halve test items 0 items.size

end NotebookSlice
