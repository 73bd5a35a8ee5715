import Tabula.Cell.Basic
import Tabula.Text.Ascii

/-!
# Missing values

A `MissingRule` says which cells count as missing. An empty cell always does, numbers and truth
values never do, and a text does when it is one of the rule's patterns. The rule says whether blanks
around the text are dropped first and whether the case of ASCII letters matters.
-/

namespace Tabula

/-- Which cells count as missing. -/
structure MissingRule where
  /-- The texts that stand for a missing value. -/
  patterns : List String := ["", "-", "N/A", "null", "None"]
  /-- Whether blanks around a text are dropped before it is compared. -/
  trimBlanks : Bool := true
  /-- Whether the case of ASCII letters matters. -/
  caseSensitive : Bool := false
deriving DecidableEq, Repr

namespace MissingRule

/-- The rule under which only empty and blank cells are missing. -/
def blankOnly : MissingRule where
  patterns := [""]
  caseSensitive := true

/-- Whether a text is the given pattern under the rule. -/
def matchesPattern (rule : MissingRule) (s : List Char) (pattern : String) : Bool :=
  if rule.caseSensitive then s == pattern.toList
  else Text.asciiLower s == Text.asciiLower pattern.toList

/-- Whether a text stands for a missing value. -/
def isMissingText (rule : MissingRule) (s : String) : Bool :=
  let compared := if rule.trimBlanks then Text.trimmed s else s.toList
  rule.patterns.any (rule.matchesPattern compared)

/-- Whether a cell counts as missing. -/
def isMissing (rule : MissingRule) : Cell → Bool
  | .null => true
  | .text s => rule.isMissingText s
  | .number _ | .bool _ => false

/-- The rule with one more pattern, unless it has that one already. -/
def withPattern (rule : MissingRule) (pattern : String) : MissingRule :=
  if rule.patterns.contains pattern then rule
  else { rule with patterns := rule.patterns ++ [pattern] }

end MissingRule

end Tabula
