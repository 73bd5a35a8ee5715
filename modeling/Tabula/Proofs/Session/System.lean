import Tabula.Proofs.History.Soundness
import Tabula.Proofs.Pager.Tickets
import Tabula.Session.Call

/-!
# Sessions and their calls

A session answers calls, some of which wait for the service. `Session.System` holds a session and
the calls that wait; its steps begin a call, go on with any call that waits, with any reply, or give
one up. `Session.Reachable` is what such steps reach from a session without a table, and
`Session.Runs` follows one call that nothing else comes between.

The source of all that is said about sessions later is `Turned`, which tells what one *turn* of a
call may do: what it does before it returns or waits. `turned_begin` and `turned_resume` establish
it for every call; after them no proof opens a call again.
-/

namespace Tabula

/-- A table that is either no table at all or has a version on display. -/
def Table.Presentable (t : Table) : Prop :=
  t = {} ∨ t.history.Placed

namespace Session

/-! ### Calls -/

/-- The calls of a session. -/
inductive Call where
  | showTable (dataset : Dataset)
  | connect (file : FileNumber)
  | filter (query : String)
  | undo
  | redo
  | remove (number : VersionNumber)
  | clickHeader (column : String)
  | search (query : String)
  | showAll
  | showPage (index : Nat)
  | resizePages (size : Nat)
  | columnStatistics (column : String)

/-- What a call returns. -/
inductive Return where
  | shown
  /-- Whether there was a version to go to. -/
  | moved (yes : Bool)
  /-- What a call that may wait comes to. -/
  | outcome (outcome : Outcome)
  | sorted (order : SortOrder)
  /-- The number of rows that match. -/
  | matching (count : Nat)
  /-- The place that pages are counted from. -/
  | resized (info : PageInfo)
  | measured (statistics : ColumnStatistics)

/-- What follows a turn of a call: it returns, or it waits for the reply to a request. -/
inductive Next where
  | returned (result : Except SessionFault Return)
  | waiting (request : Request) (pending : Pending)

/-- What a call does before it returns or waits: the session after it, the events that it published,
in order, and what follows. -/
structure Turn where
  session : Session
  events : List Event
  next : Next

namespace Turn

/-- A step of a call as a turn. -/
def ofStep (step : Step) : Turn where
  session := step.session
  events := step.events
  next :=
    match step.status with
    | .done result => .returned (result.map .outcome)
    | .waiting request pending => .waiting request pending

/-- The turn of a call that ends at once, or is refused. -/
def ofResult {α : Type} (s : Session) (f : α → Return) : Except SessionFault (Session × α) → Turn
  | .ok (s', a) => ⟨s', [], .returned (.ok (f a))⟩
  | .error fault => ⟨s, [], .returned (.error fault)⟩

/-- The turn of a call that goes to another version. -/
def ofMove (moved : Session × List Event × Bool) : Turn :=
  ⟨moved.1, moved.2.1, .returned (.ok (.moved moved.2.2))⟩

end Turn

/-- The first turn of a call. -/
def Call.begin (s : Session) : Call → Turn
  | .showTable dataset =>
    ⟨(s.showTable dataset).1, (s.showTable dataset).2, .returned (.ok .shown)⟩
  | .connect file => .ofStep (s.connect file)
  | .filter query => .ofStep (s.filter query)
  | .undo => .ofMove s.undo
  | .redo => .ofMove s.redo
  | .remove number => .ofStep (s.remove number)
  | .clickHeader column => .ofResult s .sorted (s.clickHeader column)
  | .search query => .ofResult s .matching (s.search query)
  | .showAll => .ofResult s .matching s.showAll
  | .showPage index => .ofStep (s.showPage index)
  | .resizePages size => .ofResult s .resized (s.resizePages size)
  | .columnStatistics column =>
    .ofResult s .measured ((s.columnStatistics column).map fun statistics => (s, statistics))

/-! ### The system -/

/-- A session and the calls that wait. -/
structure System where
  session : Session
  waiting : List Pending

/-- The system after a turn, which adds a call that waits or does not. -/
def System.after (waiting : List Pending) (turn : Turn) : System where
  session := turn.session
  waiting :=
    match turn.next with
    | .returned _ => waiting
    | .waiting _ pending => pending :: waiting

/-- The steps of a session and its calls. -/
inductive System.Step : System → System → Prop where
  | call {s : Session} {ps : List Pending} (c : Call) :
    System.Step ⟨s, ps⟩ (.after ps (c.begin s))
  | reply {s : Session} {ps₁ ps₂ : List Pending} {pending : Pending} (reply : Reply) :
    System.Step ⟨s, ps₁ ++ pending :: ps₂⟩
      (.after (ps₁ ++ ps₂) (.ofStep (s.resume pending reply)))
  | cancel {s : Session} {ps₁ ps₂ : List Pending} {pending : Pending} :
    System.Step ⟨s, ps₁ ++ pending :: ps₂⟩ ⟨s.cancel pending, ps₁ ++ ps₂⟩

/-- What steps reach from a session without a table. -/
inductive Reachable (settings : Settings) : System → Prop where
  | start {s : Session} (h : Session.start settings = .ok s) : Reachable settings ⟨s, []⟩
  | step {y y' : System} (h : Reachable settings y) (hstep : System.Step y y') :
    Reachable settings y'

/-- There is one session without a table for each choice of settings. -/
theorem eq_of_start {settings : Settings} {s : Session} (h : Session.start settings = .ok s) :
    s = { settings, pager := .start settings.pageSize true } := by
  unfold Session.start at h
  split at h
  · exact (Except.ok.inj h).symm
  · exact absurd h (by simp)

/-- A call that nothing comes between: from a turn, over the replies that the service gives, to the
session and the result in the end. -/
inductive Runs : Turn → Session → Except SessionFault Return → Prop where
  | returned {turn : Turn} {result : Except SessionFault Return}
    (h : turn.next = .returned result) : Runs turn turn.session result
  | replied {turn : Turn} {request : Request} {pending : Pending} {s : Session}
    {result : Except SessionFault Return} (h : turn.next = .waiting request pending)
    (reply : Reply) (hrest : Runs (.ofStep (turn.session.resume pending reply)) s result) :
    Runs turn s result

/-! ### What a turn may do -/

/-- The ticket of a call that waits for a page. -/
def Pending.ticket? : Pending → Option Ticket
  | page ticket => some ticket
  | _ => none

/-- The session without a call that had shut the gate for filters, or had not. -/
def release (s : Session) (held : Bool) : Session :=
  if held then s.openGate else s

/-- What a turn may do to a session, for a call that had shut the gate for filters (`held`) or had
not, and that waited for the page of a ticket or did not. Only the first turn of a call shuts the
gate, and a call that has it shut keeps it so exactly as long as it waits. -/
inductive Turned (s : Session) : Bool → Option Ticket → Turn → Prop where
  /-- The call returns, and nothing else happens. -/
  | returned {held : Bool} {events : List Event} {result : Except SessionFault Return} :
    Turned s held none ⟨s.release held, events, .returned result⟩
  /-- The call waits, not for a page. -/
  | waits {held : Bool} {request : Request} {pending : Pending}
    (hgate : pending.holdsGate = held) (hticket : pending.ticket? = none) :
    Turned s held none ⟨s, [], .waiting request pending⟩
  /-- The call finds the gate open, shuts it and waits. -/
  | shuts {request : Request} {pending : Pending} (hopen : s.filtering = false)
    (hgate : pending.holdsGate = true) (hticket : pending.ticket? = none) :
    Turned s false none ⟨{ s with filtering := true }, [], .waiting request pending⟩
  /-- The call puts a version on display. -/
  | displays {held : Bool} {t : Table} {events : List Event} {result : Return}
    (ht : s.table.Presentable → t.Presentable) :
    Turned s held none ⟨(s.release held).display t, events, .returned (.ok result)⟩
  /-- The call sorts the rows. -/
  | sorts {v : Version} {sort : SortOrder} (hv : s.table.history.displayed? = some v) :
    Turned s false none
      ⟨s.setTable
        { s.table with
          sort
          sorted := v.dataset.inOrderOf sort
          view := (v.dataset.inOrderOf sort).search s.table.query },
        [], .returned (.ok (.sorted sort))⟩
  /-- The call searches the rows. -/
  | searches {query : String} (hv : s.table.history.isEmpty = false) :
    Turned s false none
      ⟨s.setTable { s.table with query, view := s.table.sorted.search query }, [],
        .returned (.ok (.matching (s.table.sorted.search query).size))⟩
  /-- The call makes pages another size. -/
  | resizes {size : Nat} {p : Pager} (h : s.pager.resizePages size = .ok p) :
    Turned s false none ⟨{ s with pager := p }, [], .returned (.ok (.resized p.info))⟩
  /-- The call waits for a page. -/
  | asks {index : Nat} {p : Pager} {request : Request} {t : Ticket}
    (h : s.pager.begin index = (p, .waiting request t)) :
    Turned s false none ⟨{ s with pager := p }, [], .waiting request (.page t)⟩
  /-- The call puts a page on display without waiting for it. -/
  | pages {index : Nat} {p : Pager} {fetch : PageOutcome} {events : List Event}
    (h : s.pager.begin index = (p, .done (.ok fetch))) :
    Turned s false none ⟨{ s with pager := p }, events, .returned (.ok (.outcome (.page fetch)))⟩
  /-- The call comes to no page. -/
  | pageFails {index : Nat} {p : Pager} {fault : DataFault} {events : List Event}
    (h : s.pager.begin index = (p, .done (.error fault))) :
    Turned s false none ⟨{ s with pager := p }, events, .returned (.error (.data fault))⟩
  /-- The page that the call waited for arrives, or does not. -/
  | finishes {t : Ticket} {p : Pager} {fetch : PageOutcome} {events : List Event} {reply : Reply}
    (h : s.pager.finish t reply = (p, fetch)) :
    Turned s false (some t)
      ⟨{ s with pager := p }, events, .returned (.ok (.outcome (.page fetch)))⟩

/-! ### The turns of every call -/

variable {s : Session}

/-- The result of a filter gets the number that was assigned, or the next free one. -/
theorem of_appended_eq_ok {h h' : History} {assigned : Option VersionNumber} {dataset : Dataset}
    {description : String} {number : VersionNumber}
    (hok : appended h assigned dataset description = .ok (h', number)) :
    h.appendAs number dataset description = .ok h' ∧
      (assigned = some number ∨ number = h.nextNumber) := by
  have numberedHere : ∀ {r : Except HistoryFault History}, r = h.append dataset description →
      (r.map fun h' => (h', h.nextNumber)) = .ok (h', number) →
        h.appendAs number dataset description = .ok h' ∧ number = h.nextNumber := by
    rintro (fault | h'') hr hmap
    · simp [Except.map] at hmap
    · obtain ⟨rfl, rfl⟩ := Prod.mk.inj (Except.ok.inj hmap)
      exact ⟨hr.symm, rfl⟩
  unfold appended at hok
  split at hok
  · exact (numberedHere rfl hok).imp_right .inr
  · -- the number of the service, or the next free one where that will not do
    split at hok
    · next ha =>
      obtain ⟨rfl, rfl⟩ := Prod.mk.inj (Except.ok.inj hok)
      exact ⟨ha, .inl rfl⟩
    · exact (numberedHere rfl hok).imp_right .inr

/-- The result of a filter is placed behind the version on display, whichever number it gets. -/
theorem placed_of_appended {h h' : History} {assigned : Option VersionNumber} {dataset : Dataset}
    {description : String} {number : VersionNumber}
    (hok : appended h assigned dataset description = .ok (h', number)) : h'.Placed :=
  .appendAs (of_appended_eq_ok hok).1

/-- A version taken out of a presentable table leaves one. -/
theorem presentable_of_remove {t : Table} {removal : Removal} {h : History} (ht : t.Presentable)
    (hok : t.history.remove removal = .ok h) : ({ t with history := h } : Table).Presentable := by
  rcases ht with rfl | ht
  · -- where there is no version, none is taken out
    exact absurd hok (by simp [History.remove])
  · exact .inr (ht.remove hok)

theorem turned_goTo {history : Option History}
    (h : ∀ h', history = some h' → s.table.Presentable → h'.Placed) :
    Turned s false none (.ofMove (s.goTo history)) := by
  cases history with
  | none => exact .returned
  | some h' =>
    exact .displays (t := { s.table with history := h' }) fun ht => .inr (h h' rfl ht)

theorem search_eq_ok (query : String) (h : s.table.history.isEmpty = false) :
    s.search query =
      .ok (s.setTable { s.table with query, view := s.table.sorted.search query },
        (s.table.sorted.search query).size) := by
  rw [search, h]
  rfl

theorem clickHeader_eq_ok {v : Version} {column : String} {sort : SortOrder}
    (hv : s.table.history.displayed? = some v)
    (hsort : s.table.sort.click? v.dataset s.table.profiles column = .ok sort) :
    s.clickHeader column =
      .ok (s.setTable
        { s.table with
          sort
          sorted := v.dataset.inOrderOf sort
          view := (v.dataset.inOrderOf sort).search s.table.query }, sort) := by
  unfold clickHeader
  rw [hv]
  dsimp only
  rw [hsort]

theorem turned_search (query : String) :
    Turned s false none (.ofResult s .matching (s.search query)) := by
  unfold search
  cases he : s.table.history.isEmpty with
  | true => exact .returned
  | false => exact .searches he

theorem turned_filter (query : String) : Turned s false none (.ofStep (s.filter query)) := by
  unfold filter
  cases s.table.file with
  | none => exact .returned
  | some file =>
    cases hg : s.filtering with
    | true => simp only [if_pos]; exact .returned
    | false => simp only [Bool.false_eq_true, if_false]; exact .shuts hg rfl rfl

theorem turned_undo : Turned s false none (.ofMove s.undo) := by
  refine turned_goTo fun h' hok ht => ?_
  rcases ht with ht | ht
  · rw [ht] at hok
    exact absurd hok (by simp [History.older?, History.hasOlder])
  · exact ht.older? hok

theorem turned_redo : Turned s false none (.ofMove s.redo) := by
  refine turned_goTo fun h' hok ht => ?_
  rcases ht with ht | ht
  · rw [ht] at hok
    exact absurd hok (by simp [History.newer?, History.hasNewer, History.size])
  · exact ht.newer? hok

/-- A removal is refused, or sent, or made at once where the table is not on the service. -/
theorem turned_remove (number : VersionNumber) :
    Turned s false none (.ofStep (s.remove number)) := by
  unfold remove
  cases s.table.history.planRemoval number with
  | error fault => exact .returned
  | ok removal =>
    cases s.table.file with
    | some file => exact .waits rfl rfl
    | none =>
      cases hok : s.table.history.remove removal with
      | error fault => simp only [hok]; exact .returned
      | ok h => simp only [hok]; exact .displays fun ht => presentable_of_remove ht hok

theorem turned_clickHeader (column : String) :
    Turned s false none (.ofResult s .sorted (s.clickHeader column)) := by
  unfold clickHeader
  cases hv : s.table.history.displayed? with
  | none => exact .returned
  | some v =>
    cases hsort : s.table.sort.click? v.dataset s.table.profiles column with
    | error fault => simp only [hsort]; exact .returned
    | ok sort => simp only [hsort]; exact .sorts hv

theorem turned_showPage (index : Nat) : Turned s false none (.ofStep (s.showPage index)) := by
  unfold showPage
  rcases hb : s.pager.begin index with ⟨p, (fault | fetch) | ⟨request, t⟩⟩
  · exact .pageFails hb
  · exact .pages hb
  · exact .asks hb

theorem turned_resizePages (size : Nat) :
    Turned s false none (.ofResult s .resized (s.resizePages size)) := by
  unfold resizePages
  cases hp : s.pager.resizePages size with
  | error fault => exact .returned
  | ok p => exact .resizes hp

/-- **First turns.** What the first turn of any call may do. -/
theorem turned_begin (c : Call) : Turned s false none (c.begin s) := by
  cases c with
  | showTable dataset =>
    exact .displays (t := { history := .start dataset }) fun _ => .inr (.start _)
  | connect file => exact .waits rfl rfl
  | filter query => exact turned_filter query
  | undo => exact turned_undo
  | redo => exact turned_redo
  | remove number => exact turned_remove number
  | clickHeader column => exact turned_clickHeader column
  | search query => exact turned_search query
  | showAll => exact turned_search ""
  | showPage index => exact turned_showPage index
  | resizePages size => exact turned_resizePages size
  | columnStatistics column =>
    show Turned s false none (.ofResult s .measured _)
    cases s.columnStatistics column with
    | error fault => exact .returned
    | ok statistics => exact .returned

/-- The turn that opens a file whose listing arrived, with the upload where it is known. -/
theorem turned_connectWith (file : FileNumber) (entries : List Entry) (upload : Option Dataset) :
    Turned s false none (.ofStep (s.connectWith file entries upload)) := by
  unfold connectWith
  cases hok : History.takeOver {} entries upload with
  | error fault => exact .returned
  | ok h =>
    exact .displays (t := { file := some file, history := h }) fun _ => .inr (.takeOver hok)

theorem turned_connectListed (file : FileNumber) (entries : List Entry) :
    Turned s false none (.ofStep (s.connectListed file entries)) := by
  unfold connectListed
  split
  · exact turned_connectWith file entries none
  · cases s.knownUpload? file with
    | some dataset => exact turned_connectWith file entries (some dataset)
    | none => exact .waits rfl rfl

/-- The turn that records the result of a filter. -/
theorem turned_record (result : FilterResult) (assigned : Option VersionNumber) :
    Turned s true none (.ofStep (s.record result assigned)) := by
  unfold record
  cases hok : appended s.table.history assigned (s.resultDataset result.rows)
      result.description with
  | error fault => simp only [hok]; exact .returned
  | ok hn =>
    simp only [hok]
    exact .displays (t := { s.table with history := hn.1 }) fun _ => .inr (placed_of_appended hok)

/-- The turn that follows a removal on the service. -/
theorem turned_afterRemoval (removal : Removal) (upload : Option Dataset)
    (entries : Option (List Entry)) :
    Turned s false none (.ofStep (s.afterRemoval removal upload entries)) := by
  refine .displays (t := { s.table with history := _ }) fun ht => ?_
  -- the listing is used if it can be, else the version is taken out, else nothing is done
  cases htaken : entries.bind fun es => (s.table.history.takeOver es upload).toOption with
  | some h =>
    obtain ⟨es, -, hes⟩ := Option.bind_eq_some_iff.mp htaken
    cases hok : s.table.history.takeOver es upload with
    | error fault => simp [hok, Except.toOption] at hes
    | ok h' =>
      obtain rfl : h' = h := by simpa [hok, Except.toOption] using hes
      exact .inr (.takeOver hok)
  | none =>
    cases hok : s.table.history.remove removal with
    | error fault => exact ht
    | ok h => exact presentable_of_remove ht hok

/-- **Later turns.** What a call that waits may do with its reply. -/
theorem turned_resume (pending : Pending) (reply : Reply) :
    Turned s pending.holdsGate pending.ticket? (.ofStep (s.resume pending reply)) := by
  unfold resume
  -- one case for each kind of call that waits and each kind of reply, as the definition has them
  split
  · exact turned_connectListed _ _
  · exact .returned
  · exact turned_connectWith _ _ _
  · exact .returned
  · exact .waits rfl rfl
  · exact .returned
  · exact turned_record _ _
  · exact turned_record _ _
  · exact .waits rfl rfl
  · exact .returned
  · exact turned_afterRemoval _ _ _
  · exact turned_afterRemoval _ _ _
  · exact .finishes rfl

end Session

end Tabula
