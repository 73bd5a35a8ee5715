import Tabula.Cell.Basic
import Tabula.Decimal.Order
import Tabula.Text.Lowercase

/-!
# The order of cells

A cell is compared through its `SortKey`. Cells that read as numbers come first, then dates, then
all other texts and truth values, then blank cells. Numbers are ordered by their total order, dates
by time, texts by their lower case, and blank cells are all equal.

Comparison through a key is a total preorder because each kind of key has a total order and the
kinds are ranked (`SortKey.compare_swap`, `SortKey.compare_trans`).
-/

namespace Tabula

/-- What a cell is compared by. -/
inductive SortKey where
  /-- The rank of a number in the total order. -/
  | number (rank : Int)
  /-- The rank of a moment. -/
  | date (rank : Int)
  /-- The lower case of the text shown. -/
  | text (folded : List Char)
  /-- A blank cell. -/
  | blank
deriving DecidableEq, Repr

namespace SortKey

/-- The place of a kind of key among the kinds. -/
def kind : SortKey → Nat
  | number _ => 0
  | date _ => 1
  | text _ => 2
  | blank => 3

/-- The order of keys: by kind, then within the kind. -/
def compare : SortKey → SortKey → Ordering
  | number x, number y => Ord.compare x y
  | date x, date y => Ord.compare x y
  | text s, text t => Ord.compare s t
  | k, l => Ord.compare k.kind l.kind

/-- The key of a cell. -/
def ofCell (c : Cell) : SortKey :=
  match c.number?, c.moment? with
  | some x, _ => number (Decimal.orderKey x)
  | none, some m => date m.rank
  | none, none => if c.isBlank then blank else text (Text.lowercase c.display.toList)

/-- Whether a key is that of a blank cell. -/
def isBlank : SortKey → Bool
  | blank => true
  | _ => false

/-! ### Laws of the order -/

theorem compare_swap (k l : SortKey) : compare k l = (compare l k).swap := by
  cases k <;> cases l <;> exact Std.OrientedOrd.eq_swap

/-- Keys in order are of kinds in order. -/
theorem kind_le_of_isLE {k l : SortKey} (h : (compare k l).isLE = true) : k.kind ≤ l.kind := by
  cases k <;> cases l <;> first
    | (simp [kind]; done)
    | (revert h; simp only [compare, kind]; decide)

theorem compare_trans {k l m : SortKey} (hkl : (compare k l).isLE = true)
    (hlm : (compare l m).isLE = true) : (compare k m).isLE = true := by
  have h₁ := kind_le_of_isLE hkl
  have h₂ := kind_le_of_isLE hlm
  -- a key of another kind stands strictly before; within a kind its own order decides
  cases k <;> cases m <;> first
    | rfl
    | (simp only [kind] at h₁ h₂; omega)
    | (cases l <;> first
        | (simp only [kind] at h₁ h₂; omega)
        | exact Std.TransOrd.isLE_trans hkl hlm)

instance : Std.TransCmp compare where
  eq_swap := compare_swap _ _
  isLE_trans := compare_trans

end SortKey

/-- The order of cells. -/
def Cell.compare (a b : Cell) : Ordering :=
  (SortKey.ofCell a).compare (SortKey.ofCell b)

end Tabula
