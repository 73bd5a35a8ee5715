import Tabula.Column.Kind
import Tabula.Fault
import Tabula.Json.Printer
import Tabula.Missing

/-!
# Settings

The sizes that paging and statistics work with, the rule for missing values and the kinds that the
user has fixed for columns. Settings are kept in a JSON file in which every field may be left out.
Loading checks that no size is zero; `Settings.check` is that test.
-/

namespace Tabula

/-- What the user may choose. -/
structure Settings where
  /-- The number of rows on a page. -/
  pageSize : Nat := 100
  /-- The number of rows that statistics take at a time. -/
  batchSize : Nat := 1000
  /-- The greatest number of values whose median is taken exactly. -/
  exactMedianLimit : Nat := 10000
  /-- Which cells count as missing. -/
  missing : MissingRule := {}
  /-- The kinds that are fixed, by column. -/
  columnKinds : OrderedMap ColumnKind := ∅
deriving DecidableEq, Repr

namespace Settings

/-- The settings with the kind of one column fixed. -/
def fixKind (s : Settings) (column : String) (kind : ColumnKind) : Settings :=
  { s with columnKinds := s.columnKinds.insert column kind }

/-- The fault of the first size that is zero. -/
def fault? (s : Settings) : Option DataFault :=
  if s.pageSize = 0 then some (.setting "default_page_size must be at least 1")
  else if s.batchSize = 0 then some (.setting "stats_batch_size must be at least 1")
  else if s.exactMedianLimit = 0 then some (.setting "median_exact_threshold must be at least 1")
  else none

/-- Accepts settings without a size of zero. -/
def check (s : Settings) : Except DataFault Unit :=
  match s.fault? with
  | some fault => .error fault
  | none => .ok ()

theorem fault?_eq_none_iff {s : Settings} :
    s.fault? = none ↔ 1 ≤ s.pageSize ∧ 1 ≤ s.batchSize ∧ 1 ≤ s.exactMedianLimit := by
  simp only [fault?]
  split
  · simp; omega
  · split
    · simp; omega
    · split
      · simp; omega
      · simp; omega

/-! ### Reading -/

open Json

/-- The fields of a rule that were read so far. -/
structure MissingDraft where
  /-- The patterns. -/
  patterns : Option (List String) := none
  /-- Whether blanks are dropped. -/
  trimBlanks : Option Bool := none
  /-- Whether case matters. -/
  caseSensitive : Option Bool := none

/-- The rule that a draft amounts to. -/
def MissingDraft.rule (d : MissingDraft) : MissingRule :=
  let standard : MissingRule := {}
  { patterns := d.patterns.getD standard.patterns
    trimBlanks := d.trimBlanks.getD standard.trimBlanks
    caseSensitive := d.caseSensitive.getD standard.caseSensitive }

/-- A rule for missing values. -/
def missingDecoder : Decoder MissingRule :=
  record
    [.of "patterns" (·.patterns) (fun d v => { d with patterns := some v }) (array string),
     .of "trim_whitespace" (·.trimBlanks) (fun d v => { d with trimBlanks := some v }) Json.bool,
     .of "case_sensitive" (·.caseSensitive) (fun d v => { d with caseSensitive := some v })
       Json.bool]
    ({} : MissingDraft)
    fun d => some d.rule

/-- The fields of settings that were read so far. -/
structure Draft where
  /-- The page size. -/
  pageSize : Option Nat := none
  /-- The batch size. -/
  batchSize : Option Nat := none
  /-- The limit of the exact median. -/
  exactMedianLimit : Option Nat := none
  /-- The rule for missing values. -/
  missing : Option MissingRule := none
  /-- The fixed kinds. -/
  columnKinds : Option (OrderedMap ColumnKind) := none

/-- The settings that a draft amounts to. -/
def Draft.settings (d : Draft) : Settings :=
  let standard : Settings := {}
  { pageSize := d.pageSize.getD standard.pageSize
    batchSize := d.batchSize.getD standard.batchSize
    exactMedianLimit := d.exactMedianLimit.getD standard.exactMedianLimit
    missing := d.missing.getD standard.missing
    columnKinds := d.columnKinds.getD standard.columnKinds }

/-- Settings, not yet checked. -/
def decoder : Decoder Settings :=
  record
    [.of "default_page_size" (·.pageSize) (fun d v => { d with pageSize := some v }) nat64,
     .of "stats_batch_size" (·.batchSize) (fun d v => { d with batchSize := some v }) nat64,
     .of "median_exact_threshold" (·.exactMedianLimit)
       (fun d v => { d with exactMedianLimit := some v }) nat64,
     .of "null_config" (·.missing) (fun d v => { d with missing := some v }) missingDecoder,
     .of "column_kinds" (·.columnKinds) (fun d v => { d with columnKinds := some v })
       (object ColumnKind.decoder)]
    ({} : Draft)
    fun d => some d.settings

/-- The settings that a text holds. -/
def parse (text : String) : Except DataFault Settings := do
  match decode decoder text.toList with
  | .error fault => .error (.json fault)
  | .ok settings =>
    settings.check
    return settings

/-- The settings in a file, given by its bytes if it could be read. -/
def load : Option ByteArray → Except DataFault Settings
  | none => .error (.unreadable "no such file")
  | some bytes =>
    match String.fromUTF8? bytes with
    | none => .error (.unreadable "not a text")
    | some text => parse text

/-! ### Writing -/

/-- The document that holds settings. -/
def toJson (s : Settings) : Json.Value :=
  .object
    [("default_page_size", .nat s.pageSize),
     ("stats_batch_size", .nat s.batchSize),
     ("median_exact_threshold", .nat s.exactMedianLimit),
     ("null_config", .object
       [("patterns", .array (s.missing.patterns.map .string)),
        ("trim_whitespace", .bool s.missing.trimBlanks),
        ("case_sensitive", .bool s.missing.caseSensitive)]),
     ("column_kinds", .object (s.columnKinds.entries.map fun (column, kind) =>
       (column, .string kind.name)))]

/-- The text of a settings file. -/
def saved (s : Settings) : String :=
  s.toJson.pretty

end Settings

end Tabula
