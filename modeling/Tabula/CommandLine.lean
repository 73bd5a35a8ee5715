import Tabula.Csv.Table
import Tabula.Session.Json
import Tabula.Session.Run
import Tabula.Statistics.Json

/-!
# The command line

A run reads its settings and its table, keeps the table in a store, opens it in a session and works
through filters, a sort, a search and a deletion. On the way it prints two documents: the statistics
of the first page, and at the end a snapshot of the session.

Files are read by a function that is handed in, so that a run is a function of its arguments and of
what the files hold. A fault ends a run; what was printed before it stays printed.
-/

namespace Tabula.CommandLine

/-! ### Arguments -/

/-- What a run is asked to do. -/
structure Arguments where
  /-- The path of the table, which is made up if there is none. -/
  table : Option String := none
  /-- The path of the settings. -/
  settings : Option String := none
  /-- The filters, in order. -/
  filters : List String := []
  /-- What to search for. -/
  search : Option String := none
deriving DecidableEq, Repr

/-- Why a run failed. -/
inductive Fault where
  /-- An option lacks what must follow it. -/
  | missing (option what : String)
  /-- There is no such option. -/
  | unknownOption (option : String)
  /-- There is more than one table. -/
  | unexpected (argument : String)
  /-- The settings could not be loaded. -/
  | settings (path : String) (cause : DataFault)
  /-- The table could not be loaded. -/
  | table (path : String) (cause : DataFault)
  /-- The session did not do it. -/
  | session (cause : SessionFault)
deriving DecidableEq, Repr

/-- The text of a fault. -/
def Fault.message : Fault → String
  | missing option what => option ++ " needs a " ++ what
  | unknownOption option => "Unknown option " ++ option
  | unexpected argument => "Unexpected argument " ++ argument
  | settings path _ => "Failed to load config " ++ path
  | table path _ => "Failed to read " ++ path
  | session cause => cause.message

/-- What the arguments ask for, on top of what earlier ones did. An option that stands twice counts
as it stands last, except that filters add up. -/
def Arguments.addAll (a : Arguments) : List String → Except Fault Arguments
  | [] => .ok a
  | "--config" :: path :: rest => { a with settings := some path }.addAll rest
  | "--filter" :: query :: rest => { a with filters := a.filters ++ [query] }.addAll rest
  | "--search" :: term :: rest => { a with search := some term }.addAll rest
  | ["--config"] => .error (.missing "--config" "path")
  | ["--filter"] => .error (.missing "--filter" "query")
  | ["--search"] => .error (.missing "--search" "term")
  | argument :: rest =>
    if "--".toList.isPrefixOf argument.toList then .error (.unknownOption argument)
    else if a.table.isSome then .error (.unexpected argument)
    else { a with table := some argument }.addAll rest

/-- What the arguments ask for. -/
def Arguments.parse (args : List String) : Except Fault Arguments :=
  Arguments.addAll {} args

/-! ### The sample -/

/-- The number of rows of the sample. -/
def sampleSize : Nat := 1237

/-- The cities of the sample. -/
def cities : List String := ["Oslo", "Lima", "Pune", "Accra"]

/-- A number with two digits at least. -/
def twoDigits (n : Nat) : String :=
  if n < 10 then "0" ++ toString n else toString n

/-- A row of the sample. -/
def sampleRow (i : Nat) : Row :=
  .ofList
    [("id", .number (Float.ofNat i)),
     ("age", .number (Float.ofNat (18 + i * 37 % 60))),
     ("city", .text (cities[i % cities.length]?.getD "")),
     ("joined", .text ("2024-" ++ twoDigits (i % 12 + 1) ++ "-" ++ twoDigits (i % 28 + 1)))]

/-- The table of a run that is given none. -/
def sample : Dataset :=
  .ofRows ((List.range sampleSize).map sampleRow)

/-- The filters of a run that is given neither a table nor filters. -/
def sampleFilters : List String := ["age > 30", "city = Oslo"]

/-- The filters that a run applies. -/
def Arguments.effectiveFilters (a : Arguments) : List String :=
  if a.filters.isEmpty && a.table.isNone then sampleFilters else a.filters

/-! ### Steps of a run -/

/-- What a run works on. -/
structure Desk where
  /-- The table service. -/
  store : Store
  /-- The session. -/
  session : Session
  /-- The documents printed so far, latest first. -/
  printed : List Json.Value := []

/-- A part of a run. -/
abbrev Script := ExceptT Fault (StateM Desk)

/-- Makes a call of the session that may ask the service. -/
def call (begin : Session → Session.Step) : Script Unit := do
  let desk ← get
  let ended := Session.runToEnd desk.store (begin desk.session)
  set { desk with store := ended.store, session := ended.session }
  match ended.result with
  | .ok _ => return
  | .error fault => throw (.session fault)

/-- Makes a change of the session that may be refused. -/
def change {α : Type} (step : Session → Except SessionFault (Session × α)) : Script Unit := do
  let desk ← get
  match step desk.session with
  | .ok (session, _) => set { desk with session }
  | .error fault => throw (.session fault)

/-- Tries a filter. One that fails is passed over. -/
def tryFilter (query : String) : Script Unit :=
  tryCatch (call (·.filter query)) fun _ => pure ()

/-- Prints a document. -/
def print (document : Session → Json.Value) : Script Unit :=
  modify fun desk => { desk with printed := document desk.session :: desk.printed }

/-- Steps back to the version before and forward again, if there is one. -/
def stepBackAndForth : Script Unit :=
  modify fun desk =>
    match desk.session.undo with
    | (session, _, true) => { desk with session := session.redo.1 }
    | (_, _, false) => desk

/-- Sorts by the first column that has an order and shows the first page again. -/
def sortFirst : Script Unit := do
  match (← get).session.table.profiles.find? fun p => p.kind.hasOrder with
  | some profile =>
    change (·.clickHeader profile.column)
    call (·.showPage 1)
  | none => return

/-- Deletes the newest version, unless it is the upload. -/
def deleteNewest : Script Unit := do
  match (← get).session.table.history.versions.getLast? with
  | some newest => if newest.isUpload then return else call (·.remove newest.number)
  | none => return

/-- The run for a file of the store. -/
def script (file : FileNumber) (a : Arguments) : Script Unit := do
  call (·.connect file)
  a.effectiveFilters.forM tryFilter
  call (·.showPage 1)
  print fun s => .array (s.allStatistics.map ColumnStatistics.toJson)
  stepBackAndForth
  sortFirst
  if let some term := a.search then change (·.search term)
  deleteNewest
  print fun s => s.snapshot.toJson

/-! ### Runs -/

/-- What a run did. -/
structure Report where
  /-- The documents that were printed, in order. -/
  printed : List Json.Value := []
  /-- The fault that ended the run, if one did. -/
  fault : Option Fault := none

/-- The settings that the arguments name. -/
def loadSettings (read : String → Option ByteArray) (a : Arguments) : Except Fault Settings :=
  match a.settings with
  | some path => (Settings.load (read path)).mapError (.settings path)
  | none => .ok {}

/-- The table that the arguments name. -/
def loadTable (read : String → Option ByteArray) (a : Arguments) : Except Fault Dataset :=
  match a.table with
  | some path => (Csv.load (read path)).mapError (.table path)
  | none => .ok sample

/-- Sets a run up: what it is asked to do, and the session and the file that it starts with. -/
def prepare (read : String → Option ByteArray) (args : List String) :
    Except Fault (Arguments × Desk × FileNumber) := do
  let a ← Arguments.parse args
  let settings ← loadSettings read a
  let dataset ← loadTable read a
  let (store, file) := ({} : Store).keep dataset
  let session ← (Session.start settings).mapError .session
  return (a, { store, session }, file)

/-- Runs the command line with the files that `read` finds. -/
def run (read : String → Option ByteArray) (args : List String) : Report :=
  match prepare read args with
  | .error fault => { fault }
  | .ok (a, desk, file) =>
    let (result, desk) := (script file a).run.run desk
    let printed := desk.printed.reverse
    match result with
    | .ok () => { printed }
    | .error fault => { printed, fault }

end Tabula.CommandLine
