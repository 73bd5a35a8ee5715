/-!
# Records of separated values

A text is split into records at line ends and into fields at commas. A quote at the start of a field
opens a quoted part, in which commas and line ends are plain characters and two quotes mean one.
What follows the closing quote belongs to the field as it stands. Empty lines hold no record, and a
text that ends inside a record ends it.

The splitter reads one byte at a time. Its state is where it stands, the field and the record under
way, and the records that are complete; `splitRecords` folds it over the text.
-/

namespace Tabula.Csv

/-- The bytes of a field. -/
abbrev Field := List UInt8

/-- The fields between two line ends. -/
abbrev Record := List Field

/-- The byte of a comma. -/
def comma : UInt8 := 0x2C

/-- The byte of a quote. -/
def quote : UInt8 := 0x22

/-- Whether a byte ends a line. -/
def isLineEnd (b : UInt8) : Bool :=
  b == 0x0A || b == 0x0D

/-- Where the splitter stands. -/
inductive Place where
  /-- Before a record. -/
  | recordStart
  /-- Before a field of the record under way. -/
  | fieldStart
  /-- In a field, outside quotes. -/
  | plain
  /-- In a field, within quotes. -/
  | quoted
  /-- In a field, behind a quote within quotes. -/
  | quoteSeen
deriving DecidableEq, Repr

/-- The state of the splitter. What is under way is kept backwards. -/
structure Splitter where
  /-- Where it stands. -/
  place : Place := .recordStart
  /-- The bytes of the field under way. -/
  field : List UInt8 := []
  /-- The complete fields of the record under way. -/
  record : List Field := []
  /-- The complete records. -/
  records : List Record := []
deriving Repr

namespace Splitter

/-- Takes a byte into the field under way. -/
def keep (s : Splitter) (place : Place) (b : UInt8) : Splitter :=
  { s with place := place, field := b :: s.field }

/-- Ends the field under way and stands before the next. -/
def endField (s : Splitter) : Splitter :=
  { s with place := .fieldStart, field := [], record := s.field.reverse :: s.record }

/-- Ends the field and the record under way. -/
def endRecord (s : Splitter) : Splitter :=
  { records := (s.field.reverse :: s.record).reverse :: s.records }

/-- What a byte outside quotes does: a comma ends the field, a line end the record. -/
def stepPlain (s : Splitter) (b : UInt8) : Splitter :=
  if b = comma then s.endField
  else if isLineEnd b then s.endRecord
  else s.keep .plain b

/-- Reads one byte. -/
def step (s : Splitter) (b : UInt8) : Splitter :=
  match s.place with
  | .recordStart =>
    if isLineEnd b then s
    else if b = quote then { s with place := .quoted }
    else s.stepPlain b
  | .fieldStart => if b = quote then { s with place := .quoted } else s.stepPlain b
  | .plain => s.stepPlain b
  | .quoted => if b = quote then { s with place := .quoteSeen } else s.keep .quoted b
  | .quoteSeen => if b = quote then s.keep .quoted b else s.stepPlain b

/-- The records of a text that ends here. -/
def finish (s : Splitter) : List Record :=
  match s.place with
  | .recordStart => s.records.reverse
  | _ => s.endRecord.records.reverse

end Splitter

/-- The records of a text. -/
def splitRecords (bytes : List UInt8) : List Record :=
  (bytes.foldl Splitter.step {}).finish

example : splitRecords "a,\"b,\"\"c\"\"\"d\n\r\n1,".toUTF8.toList
    = [["a", "b,\"c\"d"], ["1", ""]].map (·.map fun s => s.toUTF8.toList) := by
  decide +kernel

end Tabula.Csv
