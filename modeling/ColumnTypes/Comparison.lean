/-!
# Comparing values

What comparing the values of a sequence shows: which are equal, which is the first equal one, and
in which order they stand. Values are referred to by their positions.
-/

namespace ColumnTypes

variable {α : Type}

/-- The pairs of positions, the lesser first, whose values are related. -/
def relatedPairs (related : α → α → Bool) (values : List α) : List (Nat × Nat) :=
  values.zipIdx.flatMap fun (a, i) =>
    (values.zipIdx.filter fun (b, j) => i < j && related a b).map fun (_, j) => (i, j)

/-- For each value, the position of the first value that it is related to. -/
def firstRelated (related : α → α → Bool) (values : List α) : List Nat :=
  values.map fun a => values.findIdx fun b => related b a

/-- The positions in ascending order of the values. Equal values keep their order. -/
def sortedPositions (le : α → α → Bool) (values : List α) : List Nat :=
  (values.zipIdx.mergeSort fun (a, _) (b, _) => le a b).map (·.2)

end ColumnTypes
