import Tabula.Text.PrintTable
import Tabula.Text.Ranges

/-!
# Quoted texts

A quoted text stands between double quotes. A quote and a backslash get a backslash in front,
tab, line feed, carriage return and the null character have a letter, and every character that
leaves no mark of its own is written by its number in braces (`quotedChar`). All others stand for
themselves. A list of texts is written in brackets.
-/

namespace Tabula.Text

/-- Whether a quoted text shows a character by its number. -/
def isHidden (c : Char) : Bool :=
  inRanges attachingRanges c.toNat || inRanges unprintableRanges c.toNat

/-- A character by its hexadecimal number, in braces. -/
def escapedCode (c : Char) : List Char :=
  '\\' :: 'u' :: '\x7b' :: (Nat.toDigits 16 c.toNat ++ ['\x7d'])

/-- A character as it stands inside a quoted text. -/
def quotedChar (c : Char) : List Char :=
  match c with
  | '"' => ['\\', '"']
  | '\\' => ['\\', '\\']
  | '\t' => ['\\', 't']
  | '\n' => ['\\', 'n']
  | '\r' => ['\\', 'r']
  | '\x00' => ['\\', '0']
  | c => if isHidden c then escapedCode c else [c]

/-- A text between double quotes. -/
def quoted (s : List Char) : List Char :=
  '"' :: (s.flatMap quotedChar ++ ['"'])

/-- A list of texts in brackets, each one quoted. -/
def quotedList (texts : List String) : String :=
  "[" ++ ", ".intercalate (texts.map fun s => String.ofList (quoted s.toList)) ++ "]"

example : quotedList ["a\"b", "it's", "\x7f\x00"] =
    "[\"a\\\"b\", \"it's\", \"\\u\x7b7f\x7d\\0\"]" := by
  decide +kernel

/-- A filler is a letter and still shows nothing; a half-width sound mark has its own place. -/
example : quotedList ["\u3164", "\uFF9E"] = "[\"\\u\x7b3164\x7d\", \"\uFF9E\"]" := by
  decide +kernel

end Tabula.Text
