import Tabula.Csv.Records
import Tabula.Dataset
import Tabula.Fault

/-!
# Datasets from separated values

The first record names the columns and every later one is a row. A short record is filled up with
empty cells and a long one is cut. `Cell.ofField` decides what a field holds: nothing, a truth
value, a number, or the text as it stands, blanks included.
-/

namespace Tabula

/-- The cell that a field holds. -/
def Cell.ofField (raw : String) : Cell :=
  let trimmed := Text.trimmed raw
  if trimmed = [] then .null
  else if ["true", "TRUE", "True"].contains (String.ofList trimmed) then .bool true
  else if ["false", "FALSE", "False"].contains (String.ofList trimmed) then .bool false
  else
    match Decimal.readFinite? trimmed with
    | some x => .number x
    | none => .text raw

namespace Csv

/-- The mark that a text may open with to say how it is encoded. -/
def encodingMark : List UInt8 := [0xEF, 0xBB, 0xBF]

/-- The text without its mark. -/
def withoutMark (bytes : List UInt8) : List UInt8 :=
  if encodingMark.isPrefixOf bytes then bytes.drop encodingMark.length else bytes

/-- The row of a record under a header. -/
def row (header record : List String) : Row :=
  .ofList (header.zipIdx.map fun (name, i) => (name, Cell.ofField (record[i]?.getD "")))

/-- The dataset of a header and records. -/
def table (header : List String) (records : List (List String)) : Dataset where
  columns := header
  rows := records.map (row header)

/-- The text of a field, if its bytes are text. -/
def fieldText? (field : Field) : Option String :=
  String.fromUTF8? ⟨field.toArray⟩

/-- The dataset that the bytes of a file hold. -/
def read (bytes : List UInt8) : Except DataFault Dataset :=
  match (splitRecords (withoutMark bytes)).mapM fun record => record.mapM fieldText? with
  | some [] => .ok {}
  | some (header :: records) => .ok (table header records)
  | none => .error .table

/-- The dataset in a file, given by its bytes if it could be read. -/
def load : Option ByteArray → Except DataFault Dataset
  | none => .error (.unreadable "no such file")
  | some bytes => read bytes.toList

end Csv

end Tabula
