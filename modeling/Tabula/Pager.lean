import Tabula.Page
import Tabula.Service.Basic

/-!
# The pager

A `Pager` delivers pages of a source, which is a table in memory or a file of the table service.
Asking for a page hands out a `Ticket`. Pages of a table in memory are cut at once; pages of a file
are requested from the service, whose counts then replace the known ones, and are cut from the last
known table when the service does not answer.

Each ticket has a number. A page is put on display only if no ticket was handed out, and neither
source nor page size changed, since its own ticket: an answer that comes too late changes nothing.
-/

namespace Tabula

/-- Where pages come from. -/
inductive RowSource where
  /-- A table in memory. -/
  | memory (dataset : Dataset)
  /-- A file of the service, and its table as last known. -/
  | service (file : FileNumber) (lastKnown : Dataset)
deriving DecidableEq, Repr

namespace RowSource

/-- The table in memory that belongs to a source. -/
def dataset : RowSource → Dataset
  | memory dataset => dataset
  | service _ lastKnown => lastKnown

/-- Whether pages are requested from the service. -/
def fromService : RowSource → Bool
  | memory _ => false
  | service .. => true

end RowSource

/-- The right to one page. -/
structure Ticket where
  /-- The number of the ticket. -/
  sequence : Nat
  /-- The source at the time of asking. -/
  source : RowSource
  /-- The number of the page. -/
  index : Nat
  /-- The page size at the time of asking. -/
  pageSize : Nat
deriving DecidableEq, Repr

/-- What became of a ticket. -/
inductive PageOutcome where
  /-- The page is on display. -/
  | applied (page : Page)
  /-- Something newer came first. -/
  | superseded (sequence : Nat)
deriving DecidableEq, Repr

/-- The page on display and the place that new pages are counted from. -/
structure Pager where
  /-- Where pages come from. -/
  source : RowSource := .memory {}
  /-- The page on display, or the first page of the source before any is. -/
  info : PageInfo
  /-- The page on display. -/
  current : Option Page := none
  /-- The number of the last ticket, or of a change that made all tickets before it stale. -/
  issued : Nat := 0
  /-- Whether there is a service to ask. -/
  hasService : Bool
deriving DecidableEq, Repr

namespace Pager

/-- A pager without a page, for pages of at least one row. -/
def start (pageSize : Nat) (hasService : Bool) : Pager where
  info := .first 0 (max pageSize 1)
  hasService := hasService

/-- Takes pages from another source, from the first page on. -/
def restart (p : Pager) (source : RowSource) : Pager :=
  { p with
    source := source
    info := .first source.dataset.size p.info.size
    current := none
    issued := p.issued + 1 }

/-- Makes pages another size, from the first page on. -/
def resizePages (p : Pager) (size : Nat) : Except DataFault Pager :=
  if size = 0 then .error .pageSizeZero
  else .ok { p with info := .first p.info.totalRows size, current := none, issued := p.issued + 1 }

/-- Hands out a ticket for a page that may be asked for. -/
def ask (p : Pager) (index : Nat) : Except DataFault (Pager × Ticket) := do
  p.info.accept index
  return ({ p with issued := p.issued + 1 },
    { sequence := p.issued + 1, source := p.source, index, pageSize := p.info.size })

/-- The request that a ticket stands for, if the service is to be asked. -/
def request? (p : Pager) (t : Ticket) : Option Request :=
  match t.source with
  | .service file _ => if p.hasService then some (.page file t.index t.pageSize) else none
  | .memory _ => none

end Pager

namespace Ticket

/-- The page of a ticket for which the service is not asked. -/
def ownPage (t : Ticket) : Except DataFault Page :=
  match t.source with
  | .memory dataset => dataset.page t.index t.pageSize
  | .service _ lastKnown => .ok (lastKnown.nearestPage t.index t.pageSize)

/-- The page of a ticket after the service's reply. A reply that is no page counts as none. -/
def servedPage (t : Ticket) : Reply → Page
  | .ok (.page served) =>
    { rows := served.rows
      info :=
        { index := t.index
          size := t.pageSize
          totalRows := served.totalRecords
          totalPages := served.totalPages }
      origin := .service }
  | _ => t.source.dataset.nearestPage t.index t.pageSize

end Ticket

namespace Pager

/-- Puts the page of a ticket on display, unless the ticket is stale. -/
def deliver (p : Pager) (t : Ticket) (page : Page) : Pager × PageOutcome :=
  if t.sequence = p.issued then
    ({ p with info := page.info, current := some page }, .applied page)
  else (p, .superseded t.sequence)

/-- Where a call for a page stands: at its end, or waiting for the service. -/
inductive Progress where
  /-- The call ended. -/
  | done (result : Except DataFault PageOutcome)
  /-- The service is asked. -/
  | waiting (request : Request) (ticket : Ticket)

/-- Ends a call for a page for which the service is not asked. -/
def cut (p : Pager) (t : Ticket) : Pager × Except DataFault PageOutcome :=
  match t.ownPage with
  | .error fault => (p, .error fault)
  | .ok page =>
    let (p, fetch) := p.deliver t page
    (p, .ok fetch)

/-- Begins a call for a page. A ticket that was handed out stays counted, whatever comes of it. -/
def begin (p : Pager) (index : Nat) : Pager × Progress :=
  match p.ask index with
  | .error fault => (p, .done (.error fault))
  | .ok (p, t) =>
    match p.request? t with
    | some request => (p, .waiting request t)
    | none =>
      let (p, result) := p.cut t
      (p, .done result)

/-- Ends a call for a page with the service's reply. -/
def finish (p : Pager) (t : Ticket) (reply : Reply) : Pager × PageOutcome :=
  p.deliver t (t.servedPage reply)

end Pager

end Tabula
