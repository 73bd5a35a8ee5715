import Tabula.Text.CaseTable
import Tabula.Text.Ranges

/-!
# Lower case

`lowercase` is the full lower-casing of Unicode. Each character has an image of its own, one
character long but for the capital I with a dot, and only the capital sigma looks around: it becomes
a final sigma where a word ends, and the ordinary one elsewhere. ASCII text takes the short way.
-/

namespace Tabula.Text

/-- The greatest code point of ASCII. -/
def lastAscii : Nat := 0x7F

/-- The image of a code point in a run of `lowerRuns`. -/
def imageIn? (n : Nat) : Nat × Nat × Nat × Nat → Option Nat
  | (first, last, step, image) =>
    if first ≤ n && n ≤ last && (n - first) % step == 0 then some (image + (n - first)) else none

/-- The lower-case image of a character that is looked at by itself. -/
def lowerChar (c : Char) : List Char :=
  if c.toNat ≤ lastAscii then [c.toLower]
  else if c = '\u0130' then ['i', '\u0307']
  else
    match lowerRuns.findSome? (imageIn? c.toNat) with
    | some n => [Char.ofNat n]
    | none => [c]

/-- Whether a character has case. -/
def isCased (c : Char) : Bool :=
  inRanges casedRanges c.toNat

/-- Whether a character is skipped when the letter next to a sigma is looked for. -/
def isCaseIgnorable (c : Char) : Bool :=
  inRanges caseIgnorableRanges c.toNat

/-- Whether the first character that is not skipped has case. -/
def letterFollows (s : List Char) : Bool :=
  (s.dropWhile isCaseIgnorable).head?.any isCased

/-- The lower case of a capital sigma between `before`, read backwards, and `after`: the final form
at the end of a word of at least two letters. -/
def sigmaLower (before after : List Char) : Char :=
  if letterFollows before && !letterFollows after then 'ς' else 'σ'

/-- The lower case of a text that stands behind `before`, which is given backwards. -/
def lowercaseAfter (before : List Char) : List Char → List Char
  | [] => []
  | c :: s =>
    (if c = 'Σ' then [sigmaLower before s] else lowerChar c) ++ lowercaseAfter (c :: before) s

/-- The lower case of a text. -/
def lowercase (s : List Char) : List Char :=
  lowercaseAfter [] s

example : lowercase "ΟΔΟΣ ΣΑΣ".toList = "οδος σας".toList := by decide +kernel

example : lowercase "İX-Éß".toList = "i\u0307x-éß".toList := by decide +kernel

/-- Letters of the newest scripts have their images too. -/
example : lowercase ['\u1C89', '\uA7D4', Char.ofNat 0x16EA0] =
    ['\u1C8A', '\uA7D5', Char.ofNat 0x16EBB] := by
  decide +kernel

end Tabula.Text
