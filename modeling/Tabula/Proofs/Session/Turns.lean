import Tabula.Proofs.Session.System

/-!
# What turns do to the history

`Turned` tells what any turn of a call may do to a session as a whole. Where a turn is followed
through the file and the history of the table, more has to be known of it and less of the rest:
which call it is a turn of, what reply it was given, what it sends, and which edit it makes.
`Begun` and `Resumed` tell this of first and of later turns, one constructor for each way in which a
turn may end; `begun` and `resumed` establish it for every call.
-/

namespace Tabula

namespace Table

@[simp] theorem file_display (classifier : Classifier) (t : Table) :
    (t.display classifier).file = t.file := by
  unfold display
  split <;> rfl

@[simp] theorem history_display (classifier : Classifier) (t : Table) :
    (t.display classifier).history = t.history := by
  unfold display
  split <;> rfl

end Table

/-- A call for a page asks for nothing but a page. -/
theorem Pager.request_of_begin {p p' : Pager} {index : Nat} {request : Request} {t : Ticket}
    (h : p.begin index = (p', .waiting request t)) :
    ∃ file index size, request = .page file index size := by
  rcases begin_cases h with ⟨fault, -, -, hn⟩ | ⟨q, t', -, ⟨request', hr, -, hn⟩ | ⟨-, -, hn⟩⟩
  · exact absurd hn (by simp)
  · obtain ⟨rfl, rfl⟩ := Progress.waiting.inj hn
    unfold request? at hr
    split at hr
    · split at hr
      · exact ⟨_, _, _, (Option.some.inj hr).symm⟩
      · exact absurd hr (by simp)
    · exact absurd hr (by simp)
  · exact absurd hn (by simp)

/-- The listing of a reply. -/
def Reply.listing? : Reply → Option (List Entry)
  | .ok (.listing entries) => some entries
  | _ => none

theorem Reply.listing?_eq_some_iff {reply : Reply} {entries : List Entry} :
    reply.listing? = some entries ↔ reply = .ok (.listing entries) := by
  unfold listing?
  split <;> simp_all

/-- The history that a reply offers, if it is a listing of use. -/
theorem takeOver_listing?_eq_some_iff {h h' : History} {reply : Reply} {upload : Option Dataset} :
    (reply.listing?.bind fun entries => (h.takeOver entries upload).toOption) = some h' ↔
      ∃ entries, reply = .ok (.listing entries) ∧ h.takeOver entries upload = .ok h' := by
  rw [Option.bind_eq_some_iff]
  refine exists_congr fun entries => and_congr Reply.listing?_eq_some_iff ?_
  cases h.takeOver entries upload <;> simp [Except.toOption]

namespace Session

variable {s : Session}

@[simp] theorem file_display (s : Session) (t : Table) : (s.display t).table.file = t.file :=
  Table.file_display s.classifier t

@[simp] theorem history_display (s : Session) (t : Table) :
    (s.display t).table.history = t.history :=
  Table.history_display s.classifier t

/-- A turn that ends its call and leaves a table with this file and this history. -/
structure Turn.Ends (turn : Turn) (file : Option FileNumber) (history : History) : Prop where
  file_eq : turn.session.table.file = file
  history_eq : turn.session.table.history = history
  returned : ∃ result, turn.next = .returned result

/-- A turn of a call that only looks at the table: it leaves file and history alone, and waits for
nothing but a page. -/
structure Turn.Views (turn : Turn) (s : Session) : Prop where
  file_eq : turn.session.table.file = s.table.file
  history_eq : turn.session.table.history = s.table.history
  next : (∃ result, turn.next = .returned result) ∨
    ∃ file index size t, turn.next = .waiting (.page file index size) (.page t)

/-- The calls that only look at the table. -/
def Call.IsView : Call → Prop
  | clickHeader _ | search _ | showAll | showPage _ | resizePages _ | columnStatistics _ => True
  | _ => False

/-! ### First turns -/

/-- What the first turn of a call does to the history. -/
inductive Begun (s : Session) : Call → Turn → Prop where
  | stays {c : Call} {result : Except SessionFault Return} : Begun s c ⟨s, [], .returned result⟩
  | views {c : Call} {turn : Turn} (hc : c.IsView) (h : turn.Views s) : Begun s c turn
  | shows {dataset : Dataset} {turn : Turn} (h : turn.Ends none (.start dataset)) :
    Begun s (.showTable dataset) turn
  | connects {file : FileNumber} :
    Begun s (.connect file) ⟨s, [], .waiting (.listing file) (.connectListing file)⟩
  | older {history : History} {turn : Turn} (hok : s.table.history.older? = some history)
    (h : turn.Ends s.table.file history) : Begun s .undo turn
  | newer {history : History} {turn : Turn} (hok : s.table.history.newer? = some history)
    (h : turn.Ends s.table.file history) : Begun s .redo turn
  | filters {file : FileNumber} {query : String} (hfile : s.table.file = some file)
    (hopen : s.filtering = false) :
    Begun s (.filter query)
      ⟨{ s with filtering := true }, [], .waiting (.filter file query) (.filterResult file)⟩
  | removes {file : FileNumber} {number : VersionNumber} {removal : Removal}
    (hfile : s.table.file = some file)
    (hplan : s.table.history.planRemoval number = .ok removal) :
    Begun s (.remove number)
      ⟨s, [], .waiting (.remove file number)
        (.removalAnswer file removal (s.table.history.upload?.map Version.dataset))⟩
  | removesHere {number : VersionNumber} {removal : Removal} {history : History} {turn : Turn}
    (hfile : s.table.file = none) (hplan : s.table.history.planRemoval number = .ok removal)
    (hok : s.table.history.remove removal = .ok history) (h : turn.Ends none history) :
    Begun s (.remove number) turn

/-- A turn that puts a table on display ends with its file and its history. -/
theorem ends_display {t : Table} {events : List Event} {result : Except SessionFault Return} :
    Turn.Ends ⟨s.display t, events, .returned result⟩ t.file t.history :=
  ⟨file_display s t, history_display s t, result, rfl⟩

theorem Begun.search (query : String) {c : Call} (hc : c.IsView) :
    Begun s c (.ofResult s .matching (s.search query)) := by
  unfold Session.search
  split
  · exact .stays
  · exact .views hc ⟨rfl, rfl, .inl ⟨_, rfl⟩⟩

/-- **First turns.** -/
theorem begun (c : Call) : Begun s c (c.begin s) := by
  cases c with
  -- a table is shown, and a file is asked for, whatever the session shows
  | showTable dataset => exact .shows ends_display
  | connect file => exact .connects
  -- a filter needs a file and the gate, and else nothing happens
  | filter query =>
    show Begun s _ (.ofStep (s.filter query))
    unfold Session.filter
    cases hfile : s.table.file with
    | none => exact .stays
    | some file =>
      cases hopen : s.filtering with
      | true => exact .stays
      | false => exact .filters hfile hopen
  -- a step through the history is made if there is a version in that direction
  | undo =>
    show Begun s _ (.ofMove (s.goTo s.table.history.older?))
    cases hok : s.table.history.older? with
    | none => exact .stays
    | some history => exact .older hok ends_display
  | redo =>
    show Begun s _ (.ofMove (s.goTo s.table.history.newer?))
    cases hok : s.table.history.newer? with
    | none => exact .stays
    | some history => exact .newer hok ends_display
  -- a version that may be deleted is deleted by the service, or here if there is none
  | remove number =>
    show Begun s _ (.ofStep (s.remove number))
    unfold Session.remove
    cases hplan : s.table.history.planRemoval number with
    | error fault => exact .stays
    | ok removal =>
      cases hfile : s.table.file with
      | some file => exact .removes hfile hplan
      | none =>
        cases hok : s.table.history.remove removal with
        | error fault => simp only [hok]; exact .stays
        | ok history =>
          simp only [hok]
          exact .removesHere hfile hplan hok (hfile ▸ ends_display)
  -- all other calls look at the table: they change the order, the query or the pages at most
  | clickHeader column =>
    show Begun s _ (.ofResult s .sorted (s.clickHeader column))
    unfold Session.clickHeader
    cases s.table.history.displayed? with
    | none => exact .stays
    | some v =>
      cases hsort : s.table.sort.click? v.dataset s.table.profiles column with
      | error fault => simp only [hsort]; exact .stays
      | ok sort => simp only [hsort]; exact .views trivial ⟨rfl, rfl, .inl ⟨_, rfl⟩⟩
  | search query => exact .search query trivial
  | showAll => exact .search "" trivial
  | showPage index =>
    show Begun s _ (.ofStep (s.showPage index))
    unfold Session.showPage
    rcases hb : s.pager.begin index with ⟨p, (fault | fetch) | ⟨request, t⟩⟩
    · exact .views trivial ⟨rfl, rfl, .inl ⟨_, rfl⟩⟩
    · exact .views trivial ⟨rfl, rfl, .inl ⟨_, rfl⟩⟩
    · -- nothing but a page is waited for
      obtain ⟨file, i, size, rfl⟩ := Pager.request_of_begin hb
      exact .views trivial ⟨rfl, rfl, .inr ⟨file, i, size, t, rfl⟩⟩
  | resizePages size =>
    show Begun s _ (.ofResult s .resized (s.resizePages size))
    unfold Session.resizePages
    cases s.pager.resizePages size with
    | error fault => exact .stays
    | ok p => exact .views trivial ⟨rfl, rfl, .inl ⟨_, rfl⟩⟩
  | columnStatistics column =>
    show Begun s _ (.ofResult s .measured _)
    cases s.columnStatistics column with
    | error fault => exact .stays
    | ok statistics => exact .views trivial ⟨rfl, rfl, .inl ⟨_, rfl⟩⟩

/-- A call that only looks at the table leaves file and history alone. -/
theorem table_begin_of_isView {c : Call} (hc : c.IsView) :
    (c.begin s).session.table.file = s.table.file ∧
      (c.begin s).session.table.history = s.table.history := by
  have hbegun := begun (s := s) c
  generalize c.begin s = turn at hbegun ⊢
  cases hbegun with
  | stays => exact ⟨rfl, rfl⟩
  | views _ h => exact ⟨h.file_eq, h.history_eq⟩
  | _ => exact absurd hc id

/-! ### Later turns -/

/-- What a turn that goes on with a reply does to the history. -/
inductive Resumed (s : Session) : Pending → Reply → Turn → Prop where
  | connects {file : FileNumber} {entries : List Entry} {upload : Option Dataset}
    {history : History} {turn : Turn}
    (hup : upload = none ∨ upload = s.knownUpload? file)
    (hok : History.takeOver {} entries upload = .ok history)
    (h : turn.Ends (some file) history) :
    Resumed s (.connectListing file) (.ok (.listing entries)) turn
  | asksUpload {file : FileNumber} {entries : List Entry} :
    Resumed s (.connectListing file) (.ok (.listing entries))
      ⟨s, [], .waiting (.upload file) (.connectUpload file entries)⟩
  | connectsWith {file : FileNumber} {entries : List Entry} {rows : List Row}
    {history : History} {turn : Turn}
    (hok : History.takeOver {} entries (some (.ofRows rows)) = .ok history)
    (h : turn.Ends (some file) history) :
    Resumed s (.connectUpload file entries) (.ok (.rows rows)) turn
  | connectFails {file : FileNumber} {reply : Reply} {turn : Turn}
    (h : turn.Ends s.table.file s.table.history) : Resumed s (.connectListing file) reply turn
  | uploadFails {file : FileNumber} {entries : List Entry} {reply : Reply} {turn : Turn}
    (h : turn.Ends s.table.file s.table.history) :
    Resumed s (.connectUpload file entries) reply turn
  | filtered {file : FileNumber} {result : FilterResult} :
    Resumed s (.filterResult file) (.ok (.filtered result))
      ⟨s, [], .waiting (.listing file) (.filterNumber result)⟩
  | filterFails {file : FileNumber} {reply : Reply} {turn : Turn}
    (hno : ∀ result, reply ≠ .ok (.filtered result))
    (h : turn.Ends s.table.file s.table.history) : Resumed s (.filterResult file) reply turn
  | records {result : FilterResult} {reply : Reply} {history : History} {number : VersionNumber}
    {turn : Turn}
    (hok : appended s.table.history (reply.listing?.bind assignedNumber?)
      (s.resultDataset result.rows) result.description = .ok (history, number))
    (h : turn.Ends s.table.file history) : Resumed s (.filterNumber result) reply turn
  | recordFails {result : FilterResult} {reply : Reply} {fault : HistoryFault} {turn : Turn}
    (herror : appended s.table.history (reply.listing?.bind assignedNumber?)
      (s.resultDataset result.rows) result.description = .error fault)
    (h : turn.Ends s.table.file s.table.history) : Resumed s (.filterNumber result) reply turn
  | removed {file : FileNumber} {removal : Removal} {upload : Option Dataset} :
    Resumed s (.removalAnswer file removal upload) (.ok .removed)
      ⟨s, [], .waiting (.listing file) (.removalListing removal upload)⟩
  | removalFails {file : FileNumber} {removal : Removal} {upload : Option Dataset} {reply : Reply}
    {turn : Turn} (hno : reply ≠ .ok .removed)
    (h : turn.Ends s.table.file s.table.history) :
    Resumed s (.removalAnswer file removal upload) reply turn
  | refreshes {removal : Removal} {upload : Option Dataset} {entries : List Entry}
    {history : History} {turn : Turn} (hok : s.table.history.takeOver entries upload = .ok history)
    (h : turn.Ends s.table.file history) :
    Resumed s (.removalListing removal upload) (.ok (.listing entries)) turn
  | removesHere {removal : Removal} {upload : Option Dataset} {reply : Reply} {turn : Turn}
    (hno : ∀ entries history, reply = .ok (.listing entries) →
      s.table.history.takeOver entries upload ≠ .ok history)
    (h : turn.Ends s.table.file
      ((s.table.history.remove removal).toOption.getD s.table.history)) :
    Resumed s (.removalListing removal upload) reply turn
  | page {t : Ticket} {reply : Reply} {turn : Turn}
    (h : turn.Ends s.table.file s.table.history) : Resumed s (.page t) reply turn

/-- The turn that opens a file: it shows what the listing describes, or leaves all as it was. -/
theorem ends_connectWith (file : FileNumber) (entries : List Entry) (upload : Option Dataset) :
    (∃ history, History.takeOver {} entries upload = .ok history ∧
        (Turn.ofStep (s.connectWith file entries upload)).Ends (some file) history) ∨
      (Turn.ofStep (s.connectWith file entries upload)).Ends s.table.file s.table.history := by
  unfold connectWith
  cases hok : History.takeOver {} entries upload with
  | error fault => exact .inr ⟨rfl, rfl, _, rfl⟩
  | ok history => exact .inl ⟨history, rfl, ends_display (t := { file := some file, history })⟩

theorem resumed_connectListed (file : FileNumber) (entries : List Entry) :
    Resumed s (.connectListing file) (.ok (.listing entries))
      (.ofStep (s.connectListed file entries)) := by
  unfold connectListed
  split
  · rcases ends_connectWith (s := s) file entries none with ⟨history, hok, h⟩ | h
    · exact .connects (.inl rfl) hok h
    · exact .connectFails h
  · cases hup : s.knownUpload? file with
    | none => exact .asksUpload
    | some dataset =>
      rcases ends_connectWith (s := s) file entries (some dataset) with ⟨history, hok, h⟩ | h
      · exact .connects (.inr hup.symm) hok h
      · exact .connectFails h

theorem resumed_record (result : FilterResult) (reply : Reply) :
    Resumed s (.filterNumber result) reply
      (.ofStep (s.record result (reply.listing?.bind assignedNumber?))) := by
  unfold record
  cases hok : appended s.table.history (reply.listing?.bind assignedNumber?)
      (s.resultDataset result.rows) result.description with
  | error fault => simp only [hok]; exact .recordFails hok ⟨rfl, rfl, _, rfl⟩
  | ok appended =>
    simp only [hok]
    refine .records hok ⟨?_, ?_, _, rfl⟩
    · exact Table.file_display _ { s.table with history := appended.1 }
    · exact Table.history_display _ { s.table with history := appended.1 }

/-- A listing that can be taken over takes the place of the history. -/
theorem afterRemoval_of_takeOver_eq_ok {entries : List Entry} {upload : Option Dataset}
    {h' : History} (hok : s.table.history.takeOver entries upload = .ok h') (removal : Removal) :
    s.afterRemoval removal upload (some entries) =
      { session := s.display { s.table with history := h' }
        events := .removed removal.number ::
          (s.display { s.table with history := h' }).table.listingNotice ::
            (s.display { s.table with history := h' }).table.displayNotice
        status := .done (.ok .removed) } := by
  rw [afterRemoval, Option.bind_some, hok]
  rfl

theorem resumed_afterRemoval (removal : Removal) (upload : Option Dataset) (reply : Reply) :
    Resumed s (.removalListing removal upload) reply
      (.ofStep (s.afterRemoval removal upload reply.listing?)) := by
  unfold afterRemoval
  -- the version is taken out here unless there is a listing and it can be taken over
  cases htaken : reply.listing?.bind fun es => (s.table.history.takeOver es upload).toOption with
  | none =>
    refine .removesHere (fun entries history hreply hok => ?_)
      (ends_display (t := { s.table with history := _ }))
    have hsome := takeOver_listing?_eq_some_iff.2 ⟨entries, hreply, hok⟩
    exact absurd (htaken.symm.trans hsome) (by simp)
  | some history =>
    obtain ⟨entries, rfl, hok⟩ := takeOver_listing?_eq_some_iff.1 htaken
    exact .refreshes hok (ends_display (t := { s.table with history }))

/-- **Later turns.** -/
theorem resumed (pending : Pending) (reply : Reply) :
    Resumed s pending reply (.ofStep (s.resume pending reply)) := by
  cases pending with
  -- a file that is being opened goes on with its listing, or with the upload that this lacks
  | connectListing file =>
    rcases reply with fault | (_ | entries | _ | _ | _)
    case ok.listing => exact resumed_connectListed file entries
    all_goals exact .connectFails ⟨rfl, rfl, _, rfl⟩
  | connectUpload file entries =>
    rcases reply with fault | (rows | _ | _ | _ | _)
    case ok.rows =>
      rcases ends_connectWith (s := s) file entries (some (.ofRows rows)) with ⟨history, hok, h⟩ | h
      · exact .connectsWith hok h
      · exact .uploadFails h
    all_goals exact .uploadFails ⟨rfl, rfl, _, rfl⟩
  -- a filter goes on with its result, and is recorded whatever comes of the listing
  | filterResult file =>
    rcases reply with fault | (_ | _ | _ | result | _)
    case ok.filtered => exact .filtered
    all_goals exact .filterFails (by simp) ⟨rfl, rfl, _, rfl⟩
  | filterNumber result =>
    rcases reply with fault | (_ | _ | _ | _ | _) <;> exact resumed_record result _
  -- a deletion goes on likewise
  | removalAnswer file removal upload =>
    rcases reply with fault | (_ | _ | _ | _ | _)
    case ok.removed => exact .removed
    all_goals exact .removalFails (by simp) ⟨rfl, rfl, _, rfl⟩
  | removalListing removal upload =>
    rcases reply with fault | (_ | _ | _ | _ | _) <;> exact resumed_afterRemoval removal upload _
  | page t => exact .page ⟨rfl, rfl, _, rfl⟩

end Session

end Tabula
