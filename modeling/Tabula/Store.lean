import Tabula.History
import Tabula.Page
import Tabula.Query

/-!
# A table service in memory

`Store` keeps every version of every uploaded file. `Store.respond` answers a request: it counts the
request, fails if a fault was planted for the operation, and otherwise reads or changes one file. A
filter makes a version out of the current one by way of an *interpreter*, which by default runs
queries of the form in `Tabula.Query`.
-/

namespace Tabula

/-- Turns a dataset and the text of a filter into the rows to keep and what the filter does, or says
why it cannot. -/
abbrev Interpreter := Dataset → String → Except String (Dataset × String)

/-- The interpreter of filter queries. -/
def Query.interpreter : Interpreter := fun d text =>
  match Query.run d text with
  | .ok result => .ok result
  | .error fault => .error fault.message

/-- A version of a file. -/
structure FileVersion where
  /-- The number of the version. -/
  number : VersionNumber
  /-- The table. -/
  dataset : Dataset
  /-- How the version came about. -/
  description : String
deriving DecidableEq, Repr

/-- The versions of a file, of which there is always one. -/
structure VersionedFile where
  /-- The oldest version. -/
  first : FileVersion
  /-- The other versions, oldest first. -/
  others : List FileVersion
  /-- The number of the current version. -/
  current : VersionNumber
  /-- The number that the next version gets. -/
  next : VersionNumber
deriving DecidableEq, Repr

namespace VersionedFile

/-- The versions, oldest first. -/
def versions (f : VersionedFile) : List FileVersion :=
  f.first :: f.others

/-- The file of an upload. -/
def ofUpload (dataset : Dataset) : VersionedFile where
  first := { number := uploadNumber, dataset, description := uploadDescription }
  others := []
  current := uploadNumber
  next := uploadNumber + 1

/-- The current version. -/
def currentVersion (f : VersionedFile) : FileVersion :=
  (f.versions.find? fun v => v.number == f.current).getD f.first

/-- The entry of a version in the listing. -/
def entry (f : VersionedFile) (v : FileVersion) : Entry where
  rows := v.dataset.rows
  description := v.description
  isCurrent := v.number == f.current
  version := v.number

/-- The listing of the versions, with or without the upload. -/
def listing (f : VersionedFile) (hideUpload : Bool) : List Entry :=
  (f.versions.filter fun v => !(hideUpload && v.number == uploadNumber)).map f.entry

/-- The file with a new current version. -/
def push (f : VersionedFile) (dataset : Dataset) (description : String) : VersionedFile :=
  { f with
    others := f.others ++ [{ number := f.next, dataset, description }]
    current := f.next
    next := f.next + 1 }

/-- The file without a version. If that was the current one, the version before takes its place. -/
def erase (f : VersionedFile) (number : VersionNumber) : Except ServiceFault VersionedFile :=
  if number = uploadNumber then .error (.refused "Cannot delete the original version")
  else
    match f.others.findIdx? fun v => v.number == number with
    | none => .error (.refused ("Version " ++ toString number ++ " not found"))
    | some i =>
      let before := (f.versions[i]?.getD f.first).number
      .ok { f with
        others := f.others.eraseIdx i
        current := if f.current = number then before else f.current }

end VersionedFile

/-- The files of the service and what it was told about its own behaviour. -/
structure Store where
  /-- The files, numbered from one. -/
  files : List VersionedFile := []
  /-- Whether listings leave out the upload. -/
  hideUpload : Bool := false
  /-- The fault with which the next request for an operation fails. -/
  planted : Operation → Option ServiceFault := fun _ => none
  /-- The number of requests for each operation. -/
  calls : Operation → Nat := fun _ => 0
  /-- How filters are run. -/
  interpreter : Interpreter := Query.interpreter

namespace Store

/-- The file of a number. -/
def file? (s : Store) : FileNumber → Option VersionedFile
  | 0 => none
  | n + 1 => s.files[n]?

/-- The file of a number, or the reason for having none. -/
def file (s : Store) (id : FileNumber) : Except ServiceFault VersionedFile :=
  match s.file? id with
  | some f => .ok f
  | none => .error (.refused "File not found")

/-- The store with another file under a number that is taken. -/
def setFile (s : Store) (id : FileNumber) (f : VersionedFile) : Store :=
  { s with files := s.files.set (id - 1) f }

/-- Keeps an upload as a new file, whose number is returned as well. -/
def keep (s : Store) (dataset : Dataset) : Store × FileNumber :=
  ({ s with files := s.files ++ [.ofUpload dataset] }, s.files.length + 1)

/-- The version numbers of a file, none if there is no such file. -/
def versionNumbers (s : Store) (id : FileNumber) : List VersionNumber :=
  match s.file? id with
  | some f => f.versions.map FileVersion.number
  | none => []

/-- Makes the next request for an operation fail. -/
def plant (s : Store) (operation : Operation) (fault : ServiceFault) : Store :=
  { s with planted := fun o => if o = operation then some fault else s.planted o }

/-- Counts a request and takes out the fault planted for it. -/
def admitted (s : Store) (operation : Operation) : Store × Option ServiceFault :=
  ({ s with
      planted := fun o => if o = operation then none else s.planted o
      calls := fun o => if o = operation then s.calls o + 1 else s.calls o },
    s.planted operation)

/-- Runs a filter on the current version of a file and keeps the result as a new version. -/
def filter (s : Store) (id : FileNumber) (query : String) :
    Except ServiceFault (Store × FilterResult) := do
  let f ← s.file id
  match s.interpreter f.currentVersion.dataset query with
  | .error detail => .error (.refused detail)
  | .ok (dataset, description) =>
    return (s.setFile id (f.push dataset description), { rows := dataset.rows, description })

/-- A page of the current version of a file. -/
def servedPage (s : Store) (id : FileNumber) (index size : Nat) :
    Except ServiceFault ServedPage := do
  let f ← s.file id
  match f.currentVersion.dataset.page index size with
  | .error fault => .error (.refused fault.message)
  | .ok page =>
    return { rows := page.rows, totalRecords := page.info.totalRows,
             totalPages := page.info.totalPages }

/-- Carries out a request that no planted fault stands in the way of. -/
def perform (s : Store) : Request → Except ServiceFault (Store × Answer)
  | .rows id => do
    return (s, .rows (← s.file id).currentVersion.dataset.rows)
  | .upload id => do
    return (s, .rows (← s.file id).first.dataset.rows)
  | .listing id => do
    return (s, .listing ((← s.file id).listing s.hideUpload))
  | .remove id number => do
    let f ← (← s.file id).erase number
    return (s.setFile id f, .removed)
  | .filter id query => do
    let (s, result) ← s.filter id query
    return (s, .filtered result)
  | .page id index size => do
    return (s, .page (← s.servedPage id index size))

/-- Answers a request. -/
def respond (s : Store) (request : Request) : Store × Reply :=
  match s.admitted request.operation with
  | (s, some fault) => (s, .error fault)
  | (s, none) =>
    match s.perform request with
    | .ok (s, answer) => (s, .ok answer)
    | .error fault => (s, .error fault)

end Store

end Tabula
