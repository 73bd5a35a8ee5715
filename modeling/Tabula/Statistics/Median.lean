import Tabula.Decimal.Order

/-!
# The median

The median of an odd number of values is the middle one in the total order, that of an even number
half the sum of the two in the middle.
-/

namespace Tabula

/-- The values in the total order. -/
def inOrder (values : List Float) : List Float :=
  values.mergeSort fun x y => Decimal.orderKey x ≤ Decimal.orderKey y

/-- The median, if there is any value. -/
def median? (values : List Float) : Option Float :=
  let sorted := (inOrder values).toArray
  let middle := sorted.size / 2
  if sorted.size % 2 = 0 then do
    return ((← sorted[middle - 1]?) + (← sorted[middle]?)) / 2.0
  else sorted[middle]?

end Tabula
