import Tabula.Service.Basic

/-!
# Events

What happens to a table is announced as an `Event`. Events are told apart by their kind, and those
who listen choose a kind.
-/

namespace Tabula

/-- The kinds of events. -/
inductive EventKind where
  /-- Another version is on display. -/
  | displayed
  /-- A filter made a version. -/
  | recorded
  /-- A version is gone. -/
  | removed
  /-- The history was taken over from the service. -/
  | takenOver
  /-- A page is on display. -/
  | pageShown
  /-- A call failed and changed nothing. -/
  | failed
deriving DecidableEq, Repr

/-- Something that happened. -/
inductive Event where
  /-- Another version is on display: its number, its rows and its columns. -/
  | displayed (number : VersionNumber) (rows columns : Nat)
  /-- A filter made a version: its number, what the filter did, and its rows. -/
  | recorded (number : VersionNumber) (description : String) (rows : Nat)
  /-- A version is gone. -/
  | removed (number : VersionNumber)
  /-- The history was taken over from the service: its length and the version on display. -/
  | takenOver (count : Nat) (displayed : VersionNumber)
  /-- A page is on display: its number, the number of pages, its rows, and whether it was cut from
  the last known table. -/
  | pageShown (index totalPages rows : Nat) (fallback : Bool)
  /-- A call failed: its name, and why. -/
  | failed (operation message : String)
deriving DecidableEq, Repr

/-- The kind of an event. -/
def Event.kind : Event → EventKind
  | displayed .. => .displayed
  | recorded .. => .recorded
  | removed .. => .removed
  | takenOver .. => .takenOver
  | pageShown .. => .pageShown
  | failed .. => .failed

end Tabula
