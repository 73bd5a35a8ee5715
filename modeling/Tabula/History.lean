import Tabula.Service.Basic

/-!
# The history of a table

A `History` is the line of versions that a table went through, the version on display, and the
highest number that was ever given out. A new version takes the place of everything after the one on
display. One version is marked as the one that the table service holds as current; the display moves
without it.

A step that is refused says why in a `HistoryFault` and leaves the history as it was, since every
step returns a new history only when it succeeds.
-/

namespace Tabula

/-- One state of a table. -/
structure Version where
  /-- The number of the version. -/
  number : VersionNumber
  /-- The table. -/
  dataset : Dataset
  /-- How the version came about. -/
  description : String
  /-- Whether the service holds this version as the current one. -/
  isCurrent : Bool
deriving DecidableEq, Repr

/-- The number of the version that was uploaded. -/
def uploadNumber : VersionNumber := 1

/-- The description of the version that was uploaded. -/
def uploadDescription : String := "Initial data upload"

/-- The version of an upload. -/
def Version.ofUpload (dataset : Dataset) (isCurrent : Bool) : Version where
  number := uploadNumber
  dataset := dataset
  description := uploadDescription
  isCurrent := isCurrent

/-- Whether a version is the upload. -/
def Version.isUpload (v : Version) : Bool :=
  v.number == uploadNumber

/-- The version that a listing entry describes. -/
def Version.ofEntry (e : Entry) : Version where
  number := e.version
  dataset := .ofRows e.rows
  description := e.description
  isCurrent := e.isCurrent

/-- Why a step of a history is refused. -/
inductive HistoryFault where
  /-- There is no version. -/
  | empty
  /-- The upload cannot be deleted. -/
  | uploadProtected (number : VersionNumber)
  /-- There is no version of that number. -/
  | unknownNumber (number : VersionNumber)
  /-- The listing lacks the upload, and nobody has it. -/
  | uploadMissing
  /-- The listing has a number twice. -/
  | repeatedNumber (number : VersionNumber)
  /-- A new version needs a greater number than the one on display. -/
  | outOfOrder (number newest : VersionNumber)
deriving DecidableEq, Repr

/-- The text of a fault. -/
def HistoryFault.message : HistoryFault → String
  | empty => "no dataset has been uploaded yet"
  | uploadProtected n =>
    "version " ++ toString n ++ " is the original upload and cannot be deleted"
  | unknownNumber n => "version " ++ toString n ++ " does not exist"
  | uploadMissing =>
    "server history does not start at the original upload and no original snapshot is available"
  | repeatedNumber n => "server history lists version " ++ toString n ++ " more than once"
  | outOfOrder n newest =>
    "version " ++ toString n ++ " is not newer than version " ++ toString newest

/-- A removal that was found to be allowed. -/
structure Removal where
  /-- The number of the version. -/
  number : VersionNumber
  /-- Whether the service held the version as the current one. -/
  wasCurrent : Bool
deriving DecidableEq, Repr

/-- The versions of a table and the one on display. -/
structure History where
  /-- The versions, oldest first. -/
  versions : List Version := []
  /-- The position of the version on display. -/
  position : Nat := 0
  /-- The highest number that was ever given out. -/
  highest : VersionNumber := 0
deriving DecidableEq, Repr, Inhabited

namespace History

/-! ### What a history shows -/

/-- The number of versions. -/
def size (h : History) : Nat :=
  h.versions.length

/-- Whether there is no version. -/
def isEmpty (h : History) : Bool :=
  h.versions.isEmpty

/-- The version on display. -/
def displayed? (h : History) : Option Version :=
  h.versions[h.position]?

/-- The version that the service holds as the current one. -/
def current? (h : History) : Option Version :=
  h.versions.find? Version.isCurrent

/-- The upload. -/
def upload? (h : History) : Option Version :=
  h.versions.head?

/-- The version of a number. -/
def version? (h : History) (number : VersionNumber) : Option Version :=
  h.versions.find? fun v => v.number == number

/-- Whether there is an older version to go back to. -/
def hasOlder (h : History) : Bool :=
  !h.isEmpty && 0 < h.position

/-- Whether there is a newer version to go forward to. -/
def hasNewer (h : History) : Bool :=
  h.position + 1 < h.size

/-! ### Steps -/

/-- The history of an upload. -/
def start (dataset : Dataset) : History where
  versions := [.ofUpload dataset true]
  position := 0
  highest := uploadNumber

/-- The versions without the mark of the current one. -/
def unmarked (versions : List Version) : List Version :=
  versions.map fun v => { v with isCurrent := false }

/-- The history with a new version behind the one on display, under a given number. Versions after
the one on display are dropped. -/
def appendAs (h : History) (number : VersionNumber) (dataset : Dataset) (description : String) :
    Except HistoryFault History :=
  match h.displayed? with
  | none => .error .empty
  | some newest =>
    if number ≤ newest.number then .error (.outOfOrder number newest.number)
    else
      let kept := unmarked (h.versions.take (h.position + 1))
      .ok
        { versions := kept ++ [{ number, dataset, description, isCurrent := true }]
          position := kept.length
          highest := max h.highest number }

/-- The next free number. -/
def nextNumber (h : History) : VersionNumber :=
  h.highest + 1

/-- The history with a new version behind the one on display, under the next free number. -/
def append (h : History) (dataset : Dataset) (description : String) :
    Except HistoryFault History :=
  h.appendAs h.nextNumber dataset description

/-- Displays the version before, if there is one. -/
def older? (h : History) : Option History :=
  if h.hasOlder then some { h with position := h.position - 1 } else none

/-- Displays the version after, if there is one. -/
def newer? (h : History) : Option History :=
  if h.hasNewer then some { h with position := h.position + 1 } else none

/-- Finds out whether a version may be deleted. -/
def planRemoval (h : History) (number : VersionNumber) : Except HistoryFault Removal :=
  if h.isEmpty then .error .empty
  else if number = uploadNumber then .error (.uploadProtected number)
  else
    match h.version? number with
    | some v => .ok { number, wasCurrent := v.isCurrent }
    | none => .error (.unknownNumber number)

/-- The versions with the mark of the current one at a position. -/
def markAt (versions : List Version) (position : Nat) : List Version :=
  versions.modify position fun v => { v with isCurrent := true }

/-- The history without a version. If that was on display or current, the version before takes its
place. -/
def remove (h : History) (removal : Removal) : Except HistoryFault History :=
  match h.versions.findIdx? fun v => v.number == removal.number with
  | none => .error (.unknownNumber removal.number)
  | some 0 => .error (.uploadProtected removal.number)
  | some (i + 1) =>
    let wasCurrent := h.versions[i + 1]?.any Version.isCurrent
    let rest := h.versions.eraseIdx (i + 1)
    .ok { h with
      versions := if wasCurrent then markAt rest i else rest
      position := if i + 1 ≤ h.position then h.position - 1 else h.position }

/-- The first number that stands twice in a row. -/
def repeated? : List VersionNumber → Option VersionNumber
  | a :: b :: l => if a = b then some a else repeated? (b :: l)
  | _ => none

/-- The versions of a listing in the order of their numbers. -/
def listed (entries : List Entry) : List Version :=
  (entries.map Version.ofEntry).mergeSort fun v w => v.number ≤ w.number

/-- The position of the last version that is marked as current, or of the last version at all. -/
def lastCurrent (versions : List Version) : Nat :=
  match versions.reverse.findIdx? Version.isCurrent with
  | some i => versions.length - 1 - i
  | none => versions.length - 1

/-- The versions with one mark of the current one, at a position. -/
def markOnly (versions : List Version) (position : Nat) : List Version :=
  markAt (unmarked versions) position

/-- The versions of a listing, with the upload in front if the listing lacks it. -/
def withUpload (versions : List Version) (upload : Option Dataset) :
    Except HistoryFault (List Version) :=
  if versions.head?.any Version.isUpload then .ok versions
  else
    match upload with
    | some dataset => .ok (.ofUpload dataset false :: versions)
    | none => .error .uploadMissing

/-- The history that a listing of the service describes. The version that the service holds as
current goes on display. -/
def takeOver (h : History) (entries : List Entry) (upload : Option Dataset) :
    Except HistoryFault History := do
  let versions := listed entries
  if let some number := repeated? (versions.map Version.number) then
    throw (.repeatedNumber number)
  let versions ← withUpload versions upload
  let position := lastCurrent versions
  let newest := (versions.getLast?.map Version.number).getD uploadNumber
  return { versions := markOnly versions position, position, highest := max h.highest newest }

end History

end Tabula
