import Tabula.Event
import Tabula.Session.State

/-!
# The calls of a session

A call changes the session in steps. A `Step` is the session after it, the events that it published,
and where the call stands: at its end, or waiting for the reply to a request. A call that waits is a
`Pending` value that says what is to be done with the reply; `resume` does it. Between two steps of
a call other calls may run, so a resumed call works on the session as it then is.

`cancel` gives up a waiting call, which opens the gate for filters again.
-/

namespace Tabula

namespace Session

/-- A call that waits for a reply. -/
inductive Pending where
  /-- A file is being opened and its listing was asked for. -/
  | connectListing (file : FileNumber)
  /-- A file is being opened whose listing lacks the upload, which was asked for. -/
  | connectUpload (file : FileNumber) (entries : List Entry)
  /-- A filter was sent. -/
  | filterResult (file : FileNumber)
  /-- A filter was answered, and the listing was asked for to learn the number of its result. -/
  | filterNumber (result : FilterResult)
  /-- A removal was sent. -/
  | removalAnswer (file : FileNumber) (removal : Removal) (upload : Option Dataset)
  /-- A removal was answered, and the listing was asked for again. -/
  | removalListing (removal : Removal) (upload : Option Dataset)
  /-- A page was asked for. -/
  | page (ticket : Ticket)
deriving DecidableEq, Repr

/-- What a call that may wait comes to. -/
inductive Outcome where
  /-- The file is open. -/
  | connected
  /-- The filter made a version of this number. -/
  | recorded (number : VersionNumber)
  /-- The version is gone. -/
  | removed
  /-- What became of the page. -/
  | page (fetch : PageOutcome)
deriving DecidableEq, Repr

/-- Where a call stands. -/
inductive Status where
  /-- The call ended. -/
  | done (result : Except SessionFault Outcome)
  /-- The call waits for the reply to a request. -/
  | waiting (request : Request) (pending : Pending)

/-- One step of a call. -/
structure Step where
  /-- The session after the step. -/
  session : Session
  /-- The events that the step published, in order. -/
  events : List Event := []
  /-- Where the call stands. -/
  status : Status

/-- Whether a waiting call keeps the gate for filters shut. -/
def Pending.holdsGate : Pending → Bool
  | filterResult _ | filterNumber _ => true
  | _ => false

/-- The session with the gate for filters open. -/
def openGate (s : Session) : Session :=
  { s with filtering := false }

/-- The session after a waiting call was given up. -/
def cancel (s : Session) (pending : Pending) : Session :=
  if pending.holdsGate then s.openGate else s

/-- A step that ends a call without an announcement. -/
def refuse (s : Session) (fault : SessionFault) : Step where
  session := s
  status := .done (.error fault)

/-- A step that ends a call and announces its failure. -/
def fail (s : Session) (operation : String) (fault : SessionFault) : Step where
  session := s
  events := [.failed operation fault.message]
  status := .done (.error fault)

/-- A step that sends a request. -/
def send (s : Session) (request : Request) (pending : Pending) : Step where
  session := s
  status := .waiting request pending

/-- The fault of a reply that is not of the kind asked for. -/
def strayReply : ServiceFault := .lost "unexpected answer"

/-! ### Calls that end at once -/

/-- Shows a table that is not on the service. -/
def showTable (s : Session) (dataset : Dataset) : Session × List Event :=
  let s := s.display { history := .start dataset }
  (s, s.table.displayNotice)

/-- Displays another version of the history, if there is one. -/
def goTo (s : Session) (history : Option History) : Session × List Event × Bool :=
  match history with
  | some h =>
    let s := s.display { s.table with history := h }
    (s, s.table.displayNotice, true)
  | none => (s, [], false)

/-- Displays the version before, if there is one. -/
def undo (s : Session) : Session × List Event × Bool :=
  s.goTo s.table.history.older?

/-- Displays the version after, if there is one. -/
def redo (s : Session) : Session × List Event × Bool :=
  s.goTo s.table.history.newer?

/-- Sorts by a column, as one more click on its header says. -/
def clickHeader (s : Session) (column : String) : Except SessionFault (Session × SortOrder) :=
  match s.table.history.displayed? with
  | none => .error .noTable
  | some v =>
    match s.table.sort.click? v.dataset s.table.profiles column with
    | .error fault => .error (.data fault)
    | .ok sort =>
      let sorted := v.dataset.inOrderOf sort
      let table := { s.table with sort, sorted, view := sorted.search s.table.query }
      .ok (s.setTable table, sort)

/-- Shows the rows that match a query, and counts them. -/
def search (s : Session) (query : String) : Except SessionFault (Session × Nat) :=
  if s.table.history.isEmpty then .error .noTable
  else
    let view := s.table.sorted.search query
    .ok (s.setTable { s.table with query, view }, view.size)

/-- Shows all rows, and counts them. -/
def showAll (s : Session) : Except SessionFault (Session × Nat) :=
  s.search ""

/-- Makes pages another size. -/
def resizePages (s : Session) (size : Nat) : Except SessionFault (Session × PageInfo) :=
  match s.pager.resizePages size with
  | .ok p => .ok ({ s with pager := p }, p.info)
  | .error fault => .error (.data fault)

/-! ### Opening a file -/

/-- Opens a file of the service. -/
def connect (s : Session) (file : FileNumber) : Step :=
  s.send (.listing file) (.connectListing file)

/-- Shows the table that a listing describes. -/
def connectWith (s : Session) (file : FileNumber) (entries : List Entry)
    (upload : Option Dataset) : Step :=
  match ({} : History).takeOver entries upload with
  | .error fault => s.fail "open_file" (.history fault)
  | .ok history =>
    let s := s.display { file := some file, history }
    { session := s
      events := s.table.listingNotice :: s.table.displayNotice
      status := .done (.ok .connected) }

/-- The upload of a file, if the session shows that file already. -/
def knownUpload? (s : Session) (file : FileNumber) : Option Dataset :=
  if s.table.file = some file then s.table.history.upload?.map Version.dataset else none

/-- Goes on with opening a file whose listing arrived. -/
def connectListed (s : Session) (file : FileNumber) (entries : List Entry) : Step :=
  if entries.head?.any fun e => e.version == uploadNumber then s.connectWith file entries none
  else
    match s.knownUpload? file with
    | some dataset => s.connectWith file entries (some dataset)
    | none => s.send (.upload file) (.connectUpload file entries)

/-! ### Filters -/

/-- Sends a filter to the service, unless one is under way. -/
def filter (s : Session) (query : String) : Step :=
  match s.table.file with
  | none => s.refuse .notOnService
  | some file =>
    if s.filtering then s.refuse .filterUnderWay
    else { s with filtering := true }.send (.filter file query) (.filterResult file)

/-- The number of the last version that a listing marks as current, or of its last version. -/
def assignedNumber? (entries : List Entry) : Option VersionNumber :=
  ((entries.reverse.find? Entry.isCurrent).or entries.getLast?).map Entry.version

/-- The table that a filter left. A filter that left no row leaves the columns on display. -/
def resultDataset (s : Session) (rows : List Row) : Dataset :=
  if rows.isEmpty then
    { columns := (s.table.history.displayed?.map fun v => v.dataset.columns).getD [] }
  else .ofRows rows

/-- The history with the result of a filter, under the number that the service gave if that will
do, and else under the next free one. The number is returned as well. -/
def appended (h : History) (assigned : Option VersionNumber) (dataset : Dataset)
    (description : String) : Except HistoryFault (History × VersionNumber) :=
  let numberedHere := (h.append dataset description).map fun h' => (h', h.nextNumber)
  match assigned with
  | none => numberedHere
  | some number =>
    match h.appendAs number dataset description with
    | .ok h' => .ok (h', number)
    | .error _ => numberedHere

/-- Records the result of a filter as a new version. -/
def record (s : Session) (result : FilterResult) (assigned : Option VersionNumber) : Step :=
  let dataset := s.resultDataset result.rows
  match appended s.table.history assigned dataset result.description with
  | .error fault => s.openGate.fail "apply_filter" (.history fault)
  | .ok (history, number) =>
    let s := (s.display { s.table with history }).openGate
    { session := s
      events := .recorded number result.description dataset.size :: s.table.displayNotice
      status := .done (.ok (.recorded number)) }

/-! ### Deletions -/

/-- Deletes a version: at once if the table is not on the service, else with a request. -/
def remove (s : Session) (number : VersionNumber) : Step :=
  match s.table.history.planRemoval number with
  | .error fault => s.refuse (.history fault)
  | .ok removal =>
    match s.table.file with
    | some file =>
      s.send (.remove file number)
        (.removalAnswer file removal (s.table.history.upload?.map Version.dataset))
    | none =>
      match s.table.history.remove removal with
      | .error fault => s.refuse (.history fault)
      | .ok history =>
        let s := s.display { s.table with history }
        { session := s
          events := .removed number :: s.table.displayNotice
          status := .done (.ok .removed) }

/-- Takes over the listing after a removal, or takes the version out of the history where there is
no usable listing. -/
def afterRemoval (s : Session) (removal : Removal) (upload : Option Dataset)
    (entries : Option (List Entry)) : Step :=
  let taken := entries.bind fun es => (s.table.history.takeOver es upload).toOption
  let history := taken.getD ((s.table.history.remove removal).toOption.getD s.table.history)
  let s := s.display { s.table with history }
  { session := s
    events := .removed removal.number
      :: ((if taken.isSome then [s.table.listingNotice] else []) ++ s.table.displayNotice)
    status := .done (.ok .removed) }

/-! ### Pages -/

/-- The event that announces a page. -/
def pageEvents : PageOutcome → List Event
  | .applied page =>
    [.pageShown page.info.index page.info.totalPages page.rows.length (page.origin == .fallback)]
  | .superseded _ => []

/-- Ends a call for a page. -/
def endPage (s : Session) (pager : Pager) (fetch : PageOutcome) : Step where
  session := { s with pager }
  events := pageEvents fetch
  status := .done (.ok (.page fetch))

/-- Loads a page of the view. -/
def showPage (s : Session) (index : Nat) : Step :=
  match s.pager.begin index with
  | (p, .done (.error fault)) => { s with pager := p }.fail "page" (.data fault)
  | (p, .done (.ok fetch)) => s.endPage p fetch
  | (p, .waiting request ticket) => { s with pager := p }.send request (.page ticket)

/-! ### Going on -/

/-- Goes on with a call whose reply arrived. -/
def resume (s : Session) : Pending → Reply → Step
  | .connectListing file, .ok (.listing entries) => s.connectListed file entries
  | .connectListing _, reply => s.fail "open_file" (.service (faultOf reply))
  | .connectUpload file entries, .ok (.rows rows) =>
    s.connectWith file entries (some (.ofRows rows))
  | .connectUpload .., reply => s.fail "open_file" (.service (faultOf reply))
  | .filterResult file, .ok (.filtered result) => s.send (.listing file) (.filterNumber result)
  | .filterResult _, reply => s.openGate.fail "apply_filter" (.service (faultOf reply))
  | .filterNumber result, .ok (.listing entries) => s.record result (assignedNumber? entries)
  | .filterNumber result, _ => s.record result none
  | .removalAnswer file removal upload, .ok .removed =>
    s.send (.listing file) (.removalListing removal upload)
  | .removalAnswer .., reply => s.fail "delete_version" (.service (faultOf reply))
  | .removalListing removal upload, .ok (.listing entries) =>
    s.afterRemoval removal upload (some entries)
  | .removalListing removal upload, _ => s.afterRemoval removal upload none
  | .page ticket, reply =>
    let (p, fetch) := s.pager.finish ticket reply
    s.endPage p fetch
where
  /-- The fault of a reply that is not the one hoped for. -/
  faultOf : Reply → ServiceFault
    | .error fault => fault
    | .ok _ => strayReply

end Session

end Tabula
