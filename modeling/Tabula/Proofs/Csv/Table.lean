import Tabula.Csv.Table
import Tabula.Proofs.OrderedMap

/-!
# Tables of files

`Csv.delivered?` is what a file delivers: the header, which is its first record, and the records
behind it. A table made of them has a row for each record and the header for its columns, whatever
there is in them. A row is a map, though, and takes in the cells of the header's positions one after
the other. So it holds the record, with a cell for each position, exactly if the names of the header
are distinct (`holds_row_iff`). Of several positions with one name, the cell of the last stands in
the place of the first, and the others are lost (`holds_iff_nodup`).
-/

namespace Tabula.Csv

/-! ### What a file delivers -/

/-- The header and the records of a file. A file without records has an empty header. -/
def delivered? (bytes : List UInt8) : Option (List String × List (List String)) :=
  ((splitRecords (withoutMark bytes)).mapM fun (record : Record) => record.mapM fieldText?).map
    fun all => (all.headD [], all.tail)

/-- What a file delivers is made a table. -/
theorem read_of_delivered? {bytes : List UInt8} {header : List String}
    {records : List (List String)} (h : delivered? bytes = some (header, records)) :
    read bytes = .ok (table header records) := by
  obtain ⟨all, hall, heq⟩ := Option.map_eq_some_iff.1 h
  obtain ⟨rfl, rfl⟩ := Prod.mk.inj heq
  rw [read, hall]
  cases all with
  | nil => rfl
  | cons header records => rfl

/-! ### Rows -/

variable (header record : List String)

/-- The cell for a position of the header: that of the record's field there, and none where the
record is shorter. -/
def cellAt (record : List String) (i : Nat) : Cell :=
  (record[i]?.map Cell.ofField).getD .null

theorem ofField_empty : Cell.ofField "" = .null := by decide

theorem ofField_getD (i : Nat) : Cell.ofField (record[i]?.getD "") = cellAt record i := by
  rw [cellAt]
  cases record[i]? with
  | none => exact ofField_empty
  | some raw => rfl

theorem row_eq :
    row header record = .ofList (header.zipIdx.map fun p => (p.1, cellAt record p.2)) := by
  simp only [row, ofField_getD]

/-- The last position of a name in a header. -/
def lastPosition? (name : String) : Option Nat :=
  header.zipIdx.reverse.lookup name

theorem get?_row (name : String) :
    (row header record).get? name = (lastPosition? header name).map (cellAt record) := by
  rw [row_eq, OrderedMap.get?_ofList, ← List.map_reverse, OrderedMap.lookup_map, lastPosition?]

/-- The field of a record under a name: of several positions with the name, that at the last one,
and an empty text where the record is shorter. -/
def fieldUnder? (name : String) : Option String :=
  (lastPosition? header name).map fun i => record[i]?.getD ""

theorem cell_row (name : String) :
    Row.cell (row header record) name =
      ((fieldUnder? header record name).map Cell.ofField).getD .null := by
  rw [Row.cell, get?_row, fieldUnder?, Option.map_map]
  congr 2
  funext i
  exact (ofField_getD record i).symm

theorem map_fst_entries :
    (header.zipIdx.map fun p => (p.1, cellAt record p.2)).map Prod.fst = header := by
  rw [List.map_map]
  exact List.zipIdx_map_fst _ _

/-- The names of a row are those of the header, each where it first stands. -/
theorem keys_row : (row header record).keys = header.eraseDups := by
  rw [row_eq, OrderedMap.keys_ofList, map_fst_entries]

theorem lastPosition?_eq_some {header : List String} {name : String} {i : Nat}
    (hi : header[i]? = some name) (hlast : name ∉ header.drop (i + 1)) :
    lastPosition? header name = some i := by
  obtain ⟨hlt, rfl⟩ := List.getElem?_eq_some_iff.1 hi
  have hsplit : header.zipIdx = (header.take i).zipIdx ++ (header[i], i) ::
      (header.drop (i + 1)).zipIdx (i + 1) := by
    conv => lhs; rw [← List.take_append_drop i header, List.drop_eq_getElem_cons hlt]
    rw [List.zipIdx_append, List.zipIdx_cons, List.length_take_of_le (Nat.le_of_lt hlt),
      Nat.zero_add]
  have hnone : ((header.drop (i + 1)).zipIdx (i + 1)).reverse.lookup header[i] = none := by
    rw [List.lookup_eq_none_iff]
    intro p hp
    have hmem : p.1 ∈ header.drop (i + 1) := by
      have hfst := List.mem_map_of_mem (f := Prod.fst) (List.mem_reverse.1 hp)
      rwa [List.zipIdx_map_fst] at hfst
    exact bne_iff_ne.2 fun heq => hlast (heq ▸ hmem)
  rw [lastPosition?, hsplit, List.reverse_append, List.reverse_cons, List.append_assoc,
    List.lookup_append, hnone]
  simp

/-! ### Rows that hold a record -/

/-- A row holds a record under a header: it has one cell for each position of the header, in their
order, under the name there and with the content of the record's field there. -/
structure Holds (row : Row) : Prop where
  /-- There are as many cells as positions. -/
  size_eq : row.size = header.length
  /-- A position has its cell. -/
  entry_eq : ∀ i name, header[i]? = some name → row.entries[i]? = some (name, cellAt record i)

/-- A row holds a record exactly if no name stands twice in the header. -/
theorem holds_row_iff : Holds header record (row header record) ↔ header.Nodup := by
  constructor
  · -- the entries of a map have different keys, and here these are the header
    intro h
    have hkeys : (row header record).keys = header := by
      apply List.ext_getElem?
      intro i
      cases hi : header[i]? with
      | none =>
        have hsize : (row header record).entries.length = header.length := h.size_eq
        rw [List.getElem?_eq_none_iff] at hi ⊢
        rw [OrderedMap.keys, List.length_map, hsize]
        exact hi
      | some name => rw [OrderedMap.keys, List.getElem?_map, h.entry_eq i name hi, Option.map_some]
    exact hkeys ▸ OrderedMap.nodup_keys _
  · -- different names overwrite nothing, so that the entries stand as they were put in
    intro h
    have hentries : (row header record).entries =
        header.zipIdx.map fun p => (p.1, cellAt record p.2) := by
      rw [row_eq, OrderedMap.entries_ofList]
      rwa [map_fst_entries]
    refine ⟨?_, ?_⟩
    · rw [OrderedMap.size, hentries, List.length_map, List.length_zipIdx]
    · intro i name hi
      rw [hentries, List.getElem?_map, List.getElem?_zipIdx, hi]
      simp

/-- **Rows of a file.** What a file delivers is made a table with the header for its columns and a
row for each record, in their order. A row holds its record, with one cell for each position of the
header, exactly if the names of the header are distinct. In any case it has one cell for each name,
where the name first stands in the header, and the cell is that for the last position of the
name. -/
theorem holds_iff_nodup (header : List String) (records : List (List String)) :
    (∀ bytes, delivered? bytes = some (header, records) →
      read bytes = .ok (table header records)) ∧
    (table header records).columns = header ∧
    (table header records).size = records.length ∧
    ∀ (k : Nat) record, records[k]? = some record →
      ∃ kept, (table header records).rows[k]? = some kept ∧
        (Holds header record kept ↔ header.Nodup) ∧
        kept.keys = header.eraseDups ∧
        ∀ (i : Nat) name, header[i]? = some name → name ∉ header.drop (i + 1) →
          kept.get? name = some (cellAt record i) := by
  refine ⟨fun bytes h => read_of_delivered? h, rfl, List.length_map _, ?_⟩
  intro k record hrecord
  refine ⟨row header record, ?_, holds_row_iff header record, keys_row header record, ?_⟩
  · rw [table, List.getElem?_map, hrecord, Option.map_some]
  · intro i name hi hlast
    rw [get?_row, lastPosition?_eq_some hi hlast, Option.map_some]

/-- A file with a record longer and a record shorter than the header. -/
def people : List UInt8 :=
  "name,age\nAda,36,x\nBo\n".toUTF8.toList

/-- Of the two records, the longer one is cut, and the shorter one filled up. -/
theorem holds_iff_nodup_people :
    let header := ["name", "age"]
    let records := [["Ada", "36", "x"], ["Bo"]]
    (delivered? people = some (header, records) ∧ header.Nodup ∧ "age" ∉ header.drop 2) ∧
      read people = .ok (table header records) ∧
      (∃ kept, (table header records).rows[0]? = some kept ∧
        Holds header ["Ada", "36", "x"] kept ∧ kept.get? "age" = some (.number 36)) ∧
      ∃ kept, (table header records).rows[1]? = some kept ∧
        Holds header ["Bo"] kept ∧ kept.get? "age" = some .null := by
  intro header records
  have hdelivered : delivered? people = some (header, records) := by decide +kernel
  have hnodup : header.Nodup := by decide
  have hlast : "age" ∉ header.drop 2 := by decide
  obtain ⟨hread, -, -, hrows⟩ := holds_iff_nodup header records
  obtain ⟨ada, hada, hholds, -, hcells⟩ := hrows 0 _ rfl
  obtain ⟨bo, hbo, hholds', -, hcells'⟩ := hrows 1 _ rfl
  refine ⟨⟨hdelivered, hnodup, hlast⟩, hread _ hdelivered, ⟨ada, hada, hholds.2 hnodup, ?_⟩,
    ⟨bo, hbo, hholds'.2 hnodup, ?_⟩⟩
  · rw [hcells 1 "age" rfl hlast]
    decide +kernel
  · rw [hcells' 1 "age" rfl hlast]
    rfl

/-- A file with two columns of one name. -/
def amounts : List UInt8 :=
  "amount,amount\n1,2\n".toUTF8.toList

/-- Of two amounts in a record the first is lost, and the row has one cell in the place of two. -/
theorem lost_amount :
    let header := ["amount", "amount"]
    delivered? amounts = some (header, [["1", "2"]]) ∧
      ∃ kept, read amounts = .ok ⟨header, [kept]⟩ ∧ ¬ Holds header ["1", "2"] kept ∧
        kept.entries = [("amount", .number 2)] := by
  intro header
  have hdelivered : delivered? amounts = some (header, [["1", "2"]]) := by decide +kernel
  have hdouble : ¬ header.Nodup := by decide
  refine ⟨hdelivered, row header ["1", "2"], read_of_delivered? hdelivered, ?_, by decide +kernel⟩
  rwa [holds_row_iff]

end Tabula.Csv
