/-!
# Case within ASCII

`asciiLower` lowers the letters of ASCII and keeps every other character, so two texts with the
same image differ at most in the case of such letters.
-/

namespace Tabula.Text

/-- A text with its ASCII letters in lower case. -/
def asciiLower (s : List Char) : List Char :=
  s.map Char.toLower

end Tabula.Text
