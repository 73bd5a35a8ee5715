import Std.Data.HashMap

/-!
# How often texts occur

`Frequencies` counts texts and remembers the order in which they were first met. `mode?` is the text
that occurs most often, and of several the one met first.
-/

namespace Tabula

/-- Counts of texts, with the order of their first occurrence. -/
structure Frequencies where
  /-- The number of occurrences. -/
  counts : Std.HashMap String Nat := ∅
  /-- The distinct texts, latest first. -/
  latestFirst : List String := []

namespace Frequencies

/-- Counts one more occurrence. -/
def add (f : Frequencies) (text : String) : Frequencies :=
  match f with
  | { counts, latestFirst } =>
    match counts[text]? with
    | some n => { counts := counts.insert text (n + 1), latestFirst }
    | none => { counts := counts.insert text 1, latestFirst := text :: latestFirst }

/-- The number of occurrences of a text. -/
def count (f : Frequencies) (text : String) : Nat :=
  f.counts.getD text 0

/-- The number of distinct texts. -/
def distinct (f : Frequencies) : Nat :=
  f.latestFirst.length

/-- The better of a text met before and one met after it. -/
def better (f : Frequencies) (best : Option String) (text : String) : Option String :=
  match best with
  | some b => if f.count text ≤ f.count b then some b else some text
  | none => some text

/-- The most frequent text, the one met first among several. -/
def mode? (f : Frequencies) : Option String :=
  f.latestFirst.reverse.foldl f.better none

end Frequencies

end Tabula
