import Tabula.Decimal.Plain

/-!
# JSON texts

`Value` is a JSON document and `Value.pretty` its text, two blanks of indentation to a level. A
string is escaped only where it must be: quotes, backslashes and control characters. A number that
need not be whole has the fewest digits that identify it, of two equally near ones the even one,
with an exponent when the number is very large or very small. It is empty when it is not finite.
-/

namespace Tabula.Json

/-- A JSON document. -/
inductive Value where
  /-- The empty value. -/
  | null
  /-- A truth value. -/
  | bool (b : Bool)
  /-- A whole number. -/
  | nat (n : Nat)
  /-- A number. -/
  | real (x : Float)
  /-- A string. -/
  | string (s : String)
  /-- A list. -/
  | array (items : List Value)
  /-- Named members, in order. -/
  | object (members : List (String × Value))
deriving Repr, Inhabited

namespace Value

/-- A value, or the empty value where there is none. -/
def ofOption {α : Type} (f : α → Value) : Option α → Value
  | some a => f a
  | none => null

/-! ### Strings -/

/-- The control characters that have a letter of their own. -/
def controlLetters : List (Char × Char) :=
  [('\x08', 'b'), ('\x0c', 'f'), ('\n', 'n'), ('\r', 'r'), ('\t', 't')]

/-- A character as it stands inside a string. -/
def escaped (c : Char) : List Char :=
  if c = '"' ∨ c = '\\' then ['\\', c]
  else if c.toNat ≤ 0x1F then
    match controlLetters.lookup c with
    | some letter => ['\\', letter]
    | none => "\\u00".toList ++ [Nat.digitChar (c.toNat / 16), Nat.digitChar (c.toNat % 16)]
  else [c]

/-- A string between quotes. -/
def stringText (s : String) : List Char :=
  '"' :: (s.toList.flatMap escaped ++ ['"'])

/-! ### Numbers -/

/-- Whole numbers of at most this many digits are written without an exponent. -/
def wholeDigits : Nat := 16

/-- Below this many zeros after the point no exponent is written. -/
def zeroLimit : Nat := 5

/-- A decimal with a point or an exponent. -/
def decimalText (d : Decimal.Scaled) : List Char :=
  let digits := Decimal.digitsOf d.digits
  -- the power of ten of the place before the first digit
  let point : Int := digits.length + d.exponent
  if d.digits = 0 then "0.0".toList
  else if 0 ≤ d.exponent ∧ point ≤ wholeDigits then d.plain ++ ".0".toList
  else if -(zeroLimit : Int) < point ∧ point ≤ wholeDigits then d.plain
  else
    let mantissa :=
      match digits with
      | [c] => [c]
      | c :: rest => c :: '.' :: rest
      | [] => []
    let e := point - 1
    mantissa ++ 'e' :: Decimal.signed (e < 0) (Decimal.digitsOf e.natAbs)

/-- A number that need not be whole. -/
def realText (x : Float) : List Char :=
  match Decimal.decode x with
  | .finite negative magnitude =>
    Decimal.signed negative (decimalText (Decimal.shortest .toEven magnitude))
  | _ => "null".toList

/-! ### Documents -/

/-- A new line, indented to a level. -/
def newLine (level : Nat) : List Char :=
  '\n' :: List.replicate (2 * level) ' '

mutual

/-- The text of a document at a level of indentation. -/
def text (level : Nat) : Value → List Char
  | null => "null".toList
  | bool true => "true".toList
  | bool false => "false".toList
  | nat n => Decimal.digitsOf n
  | real x => realText x
  | string s => stringText s
  | array [] => "[]".toList
  | array (item :: items) =>
    '[' :: (newLine (level + 1) ++ text (level + 1) item ++ itemsText (level + 1) items
      ++ newLine level ++ [']'])
  | object [] => ['\x7b', '\x7d']
  | object ((name, value) :: members) =>
    '\x7b' :: (newLine (level + 1) ++ stringText name ++ ": ".toList ++ text (level + 1) value
      ++ membersText (level + 1) members ++ newLine level ++ ['\x7d'])

/-- The text of the items after the first. -/
def itemsText (level : Nat) : List Value → List Char
  | [] => []
  | item :: items => ',' :: (newLine level ++ text level item ++ itemsText level items)

/-- The text of the members after the first. -/
def membersText (level : Nat) : List (String × Value) → List Char
  | [] => []
  | (name, value) :: members =>
    ',' :: (newLine level ++ stringText name ++ ": ".toList ++ text level value
      ++ membersText level members)

end

/-- The text of a document. -/
def pretty (v : Value) : String :=
  String.ofList (text 0 v)

/-! ### The text of each kind of document -/

section Text

variable (level : Nat) (items : List Value) (members : List (String × Value))

@[simp] theorem text_true : text level (bool true) = "true".toList := rfl

@[simp] theorem text_false : text level (bool false) = "false".toList := rfl

@[simp] theorem text_nat (n : Nat) : text level (nat n) = Decimal.digitsOf n := rfl

@[simp] theorem text_string (s : String) : text level (string s) = stringText s := rfl

@[simp] theorem text_array_nil : text level (array []) = "[]".toList := rfl

@[simp] theorem text_array_cons (item : Value) :
    text level (array (item :: items)) =
      '[' :: (newLine (level + 1) ++ text (level + 1) item ++ itemsText (level + 1) items
        ++ newLine level ++ [']']) := rfl

@[simp] theorem text_object_nil : text level (object []) = ['\x7b', '\x7d'] := rfl

@[simp] theorem text_object_cons (e : String × Value) :
    text level (object (e :: members)) =
      '\x7b' :: (newLine (level + 1) ++ stringText e.1 ++ ": ".toList ++ text (level + 1) e.2
        ++ membersText (level + 1) members ++ newLine level ++ ['\x7d']) := rfl

@[simp] theorem itemsText_nil : itemsText level [] = [] := rfl

@[simp] theorem itemsText_cons (item : Value) :
    itemsText level (item :: items) =
      ',' :: (newLine level ++ text level item ++ itemsText level items) := rfl

@[simp] theorem membersText_nil : membersText level [] = [] := rfl

@[simp] theorem membersText_cons (e : String × Value) :
    membersText level (e :: members) =
      ',' :: (newLine level ++ stringText e.1 ++ ": ".toList ++ text level e.2
        ++ membersText level members) := rfl

end Text

end Value

end Tabula.Json
