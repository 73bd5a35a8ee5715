import Tabula.Proofs.History.Listing
import Tabula.Proofs.Session.Derived
import Tabula.Proofs.Session.Turns

/-!
# What the events of a session tell

Here the calls of a session are followed that are made one after the other, each with the replies
that it is given and the events that it publishes (`Played`, `Series`). One who only listens knows
which version is on display, how large it is, and when the history was taken over from the service
(`notices_of_series`).

The source is `Told`, which sums up what a whole call may publish: only its failure, if it fails;
else nothing that has to do with the history, where it leaves the history alone; else what was done
to the history, and last the version that is on display now. `told` establishes it for every call
that finds a version on display or no table at all.
-/

namespace Tabula.Session

/-- A call that nothing comes between: from a turn, over the replies that the service gives, to the
events that were published, in order, the session and the result in the end. -/
inductive Played :
    Turn → List Reply → List Event → Session → Except SessionFault Return → Prop where
  | returned {turn : Turn} {result : Except SessionFault Return}
    (h : turn.next = .returned result) : Played turn [] turn.events turn.session result
  | replied {turn : Turn} {request : Request} {pending : Pending} {reply : Reply}
    {replies : List Reply} {events : List Event} {s : Session}
    {result : Except SessionFault Return} (h : turn.next = .waiting request pending)
    (hrest : Played (.ofStep (turn.session.resume pending reply)) replies events s result) :
    Played turn (reply :: replies) (turn.events ++ events) s result

/-- Calls that are made one after the other on a new session, with all events that they published,
in order. -/
inductive Series (settings : Settings) : List Event → Session → Prop where
  | start {s : Session} (h : Session.start settings = .ok s) : Series settings [] s
  | call {log events : List Event} {s s' : Session} {replies : List Reply}
    {result : Except SessionFault Return} (h : Series settings log s) (c : Call)
    (hplayed : Played (c.begin s) replies events s' result) : Series settings (log ++ events) s'

/-- A call, with its replies and its result, that has put a listing of the service in the place of
the history: it opened a file, or it deleted a version of one and then had a listing of use. -/
inductive Replaces (s s' : Session) :
    Call → List Reply → Except SessionFault Return → Prop where
  | opened {file : FileNumber} {entries : List Entry} {upload : Option Dataset}
    {rest : List Reply} {r : Return} (hfile : s'.table.file = some file)
    (hok : History.takeOver {} entries upload = .ok s'.table.history) :
    Replaces s s' (.connect file) (.ok (.listing entries) :: rest) (.ok r)
  | refreshed {number : VersionNumber} {entries : List Entry} {r : Return}
    (hok : s.table.history.takeOver entries (s.table.history.upload?.map Version.dataset) =
      .ok s'.table.history) :
    Replaces s s' (.remove number) [.ok .removed, .ok (.listing entries)] (.ok r)

/-- Whether a call asks for the listing of a file to show it. -/
def Call.lists : Call → Bool
  | .connect _ | .remove _ => true
  | _ => false

/-- The last of some events that put a version on display. -/
def lastDisplayed? (log : List Event) : Option Event :=
  (log.filter fun e => e.kind == .displayed).getLast?

/-- What a whole call may publish. -/
inductive Told (s s' : Session) (c : Call) (replies : List Reply) :
    List Event → Except SessionFault Return → Prop where
  | fails {events : List Event} {fault : SessionFault} (hevents : ∀ e ∈ events, e.kind = .failed)
    (hhistory : s'.table.history = s.table.history) : Told s s' c replies events (.error fault)
  | stays {events : List Event} {r : Return} (hevents : ∀ e ∈ events, e.kind = .pageShown)
    (hhistory : s'.table.history = s.table.history) (hno : ¬Replaces s s' c replies (.ok r)) :
    Told s s' c replies events (.ok r)
  | shows (events : List Event) {r : Return} (hplaced : s'.table.history.Placed)
    (hevents : ∀ e ∈ events, e.kind = .recorded ∨ e.kind = .removed)
    (hno : ¬Replaces s s' c replies (.ok r)) :
    Told s s' c replies (events ++ s'.table.displayNotice) (.ok r)
  | replaces (events : List Event) {r : Return} (hplaced : s'.table.history.Placed)
    (hevents : ∀ e ∈ events, e.kind = .removed) (hyes : Replaces s s' c replies (.ok r)) :
    Told s s' c replies (events ++ s'.table.listingNotice :: s'.table.displayNotice) (.ok r)

variable {settings : Settings} {s s' : Session} {turn : Turn} {c : Call} {replies : List Reply}
  {events log : List Event} {result : Except SessionFault Return}

/-! ### Calls as they are played -/

theorem Played.of_returned {r : Except SessionFault Return}
    (hplayed : Played turn replies events s' result) (h : turn.next = .returned r) :
    replies = [] ∧ events = turn.events ∧ s' = turn.session ∧ result = r := by
  cases hplayed with
  | returned h' => exact ⟨rfl, rfl, rfl, Next.returned.inj (h'.symm.trans h)⟩
  | replied h' => exact absurd (h'.symm.trans h) (by simp)

theorem Played.of_waiting {request : Request} {pending : Pending}
    (hplayed : Played turn replies events s' result) (h : turn.next = .waiting request pending) :
    ∃ reply rest later, replies = reply :: rest ∧ events = turn.events ++ later ∧
      Played (.ofStep (turn.session.resume pending reply)) rest later s' result := by
  cases hplayed with
  | returned h' => exact absurd (h'.symm.trans h) (by simp)
  | replied h' hrest =>
    obtain ⟨-, rfl⟩ := Next.waiting.inj (h'.symm.trans h)
    exact ⟨_, _, _, rfl, rfl, hrest⟩

/-- A call that is played is played in steps of the system. -/
theorem Played.reachable (hplayed : Played turn replies events s' result)
    (h : Reachable settings (.after [] turn)) : Reachable settings ⟨s', []⟩ := by
  -- on the replies: each is one step, and none is left over
  induction hplayed with
  | returned hnext =>
    rw [System.after, hnext] at h
    exact h
  | @replied turn request pending reply replies events s result hnext hrest ih =>
    rw [System.after, hnext] at h
    exact ih (h.step (@System.Step.reply _ [] [] pending reply))

theorem Series.reachable (h : Series settings log s) : Reachable settings ⟨s, []⟩ := by
  induction h with
  | start h => exact .start h
  | call h c hplayed ih => exact hplayed.reachable (ih.step (.call c))

/-! ### What each call publishes -/

theorem not_replaces_of_lists (hc : c.lists = false) : ¬Replaces s s' c replies result := by
  intro h
  cases h <;> exact absurd hc (by simp [Call.lists])

theorem placed_display {t : Table} (h : t.history.Placed) :
    (s.display t).table.history.Placed := by
  rw [history_display]
  exact h

theorem kind_of_mem_pageEvents {fetch : PageOutcome} {e : Event} (he : e ∈ pageEvents fetch) :
    e.kind = .pageShown := by
  cases fetch with
  | applied page =>
    obtain rfl := List.mem_singleton.1 he
    rfl
  | superseded _ => exact absurd he List.not_mem_nil

theorem Told.refused {fault : SessionFault}
    (hplayed : Played ⟨s, [], .returned (.error fault)⟩ replies events s' result) :
    Told s s' c replies events result := by
  obtain ⟨-, rfl, rfl, rfl⟩ := hplayed.of_returned rfl
  exact .fails (by simp) rfl

/-- A call that announces its failure leaves the table alone. -/
theorem Told.failed {s₁ : Session} {operation : String} {fault : SessionFault}
    {rest : List Reply}
    (hplayed : Played (.ofStep (s₁.fail operation fault)) rest events s' result)
    (htable : s₁.table = s.table) :
    Told s s' c replies events result := by
  obtain ⟨-, rfl, rfl, rfl⟩ := hplayed.of_returned rfl
  refine .fails (fun e he => ?_) (congrArg Table.history htable)
  obtain rfl := List.mem_singleton.1 he
  rfl

theorem told_connectWith {file : FileNumber} {entries : List Entry} {upload : Option Dataset}
    {rest rest' : List Reply}
    (hplayed : Played (.ofStep (s.connectWith file entries upload)) rest' events s' result) :
    Told s s' (.connect file) (.ok (.listing entries) :: rest) events result := by
  unfold connectWith at hplayed
  cases hok : History.takeOver {} entries upload with
  | error fault =>
    rw [hok] at hplayed
    exact .failed hplayed rfl
  | ok history =>
    rw [hok] at hplayed
    obtain ⟨-, rfl, rfl, rfl⟩ := hplayed.of_returned rfl
    have hopens : History.takeOver {} entries upload =
        .ok (s.display { file := some file, history }).table.history := by
      rw [history_display, hok]
    exact .replaces [] (.takeOver hopens) (by simp) (.opened (file_display ..) hopens)

theorem told_connect {file : FileNumber}
    (hplayed : Played ((Call.connect file).begin s) replies events s' result) :
    Told s s' (.connect file) replies events result := by
  obtain ⟨reply, rest, _, rfl, rfl, hlisted⟩ := hplayed.of_waiting rfl
  rcases reply with fault | (_ | entries | _ | _ | _)
  case ok.listing =>
    -- the listing is taken over at once, or the upload is asked for first
    replace hlisted : Played (.ofStep (s.connectListed file entries)) rest events s' result :=
      hlisted
    unfold connectListed at hlisted
    split at hlisted
    · exact told_connectWith hlisted
    · split at hlisted
      · exact told_connectWith hlisted
      · obtain ⟨reply, rest, _, rfl, rfl, huploaded⟩ := hlisted.of_waiting rfl
        rcases reply with fault | (rows | _ | _ | _ | _)
        case ok.rows => exact told_connectWith huploaded
        all_goals exact .failed huploaded rfl
  all_goals exact .failed hlisted rfl

theorem told_record {s₁ : Session} {query : String} {result' : FilterResult}
    {assigned : Option VersionNumber} {rest : List Reply} (htable : s₁.table = s.table)
    (hplayed : Played (.ofStep (s₁.record result' assigned)) rest events s' result) :
    Told s s' (.filter query) replies events result := by
  unfold record at hplayed
  cases hok : appended s₁.table.history assigned (s₁.resultDataset result'.rows)
      result'.description with
  | error fault =>
    simp only [hok] at hplayed
    exact .failed hplayed htable
  | ok hn =>
    simp only [hok] at hplayed
    obtain ⟨-, rfl, rfl, rfl⟩ := hplayed.of_returned rfl
    exact .shows [.recorded ..] (placed_display (placed_of_appended hok)) (by simp [Event.kind])
      (not_replaces_of_lists rfl)

theorem told_filter {query : String}
    (hplayed : Played ((Call.filter query).begin s) replies events s' result) :
    Told s s' (.filter query) replies events result := by
  replace hplayed : Played (.ofStep (s.filter query)) replies events s' result := hplayed
  unfold filter at hplayed
  split at hplayed
  · exact .refused hplayed
  · split at hplayed
    · exact .refused hplayed
    · obtain ⟨reply, rest, _, rfl, rfl, hfiltered⟩ := hplayed.of_waiting rfl
      rcases reply with fault | (_ | _ | _ | result' | _)
      case ok.filtered =>
        -- whatever the second reply is, it only decides on the number
        obtain ⟨reply, rest, _, rfl, rfl, hnumbered⟩ := hfiltered.of_waiting rfl
        rcases reply with fault | (_ | _ | _ | _ | _) <;> exact told_record rfl hnumbered
      all_goals exact .failed hfiltered rfl

theorem told_afterRemoval {removal : Removal} {number : VersionNumber} {reply : Reply}
    {rest : List Reply} (hplaced : s.table.history.Placed)
    (hplayed : Played (.ofStep (s.afterRemoval removal
      (s.table.history.upload?.map Version.dataset) reply.listing?)) rest events s' result) :
    Told s s' (.remove number) (.ok .removed :: reply :: rest) events result := by
  unfold afterRemoval at hplayed
  cases htaken : reply.listing?.bind fun entries =>
      (s.table.history.takeOver entries (s.table.history.upload?.map Version.dataset)).toOption with
  | none =>
    simp only [htaken] at hplayed
    obtain ⟨rfl, rfl, rfl, rfl⟩ := hplayed.of_returned rfl
    refine .shows [.removed removal.number] ?_ (by simp [Event.kind]) fun hreplaces => ?_
    · -- the version is taken out here, if it is still there
      exact placed_display
        (History.of_attempt (P := History.Placed) hplaced fun history hok => hplaced.remove hok)
    · -- a listing that could have been taken over would have been
      cases hreplaces with
      | refreshed hok =>
        have hsome := takeOver_listing?_eq_some_iff.2 ⟨_, rfl, hok⟩
        exact absurd (htaken.symm.trans hsome) (by simp)
  -- a listing that can be taken over is, and that is told before what it puts on display
  | some history =>
    obtain ⟨entries, rfl, hok⟩ := takeOver_listing?_eq_some_iff.1 htaken
    simp only [htaken] at hplayed
    obtain ⟨rfl, rfl, rfl, rfl⟩ := hplayed.of_returned rfl
    have htook : s.table.history.takeOver entries (s.table.history.upload?.map Version.dataset) =
        .ok (s.display { s.table with history }).table.history := by
      rw [history_display, hok]
    exact .replaces [.removed removal.number] (.takeOver htook) (by simp [Event.kind])
      (.refreshed htook)

theorem told_remove {number : VersionNumber} (hs : s.table.Presentable)
    (hplayed : Played ((Call.remove number).begin s) replies events s' result) :
    Told s s' (.remove number) replies events result := by
  replace hplayed : Played (.ofStep (s.remove number)) replies events s' result := hplayed
  unfold remove at hplayed
  cases hplan : s.table.history.planRemoval number with
  | error fault =>
    rw [hplan] at hplayed
    exact .refused hplayed
  | ok removal =>
    simp only [hplan] at hplayed
    have hplaced : s.table.history.Placed := by
      -- there is no table without a version to delete
      rcases hs with ht | hp
      · rw [ht] at hplan
        exact absurd hplan (by simp [History.planRemoval, History.isEmpty])
      · exact hp
    -- where there is no service, the version is taken out at once
    cases hfile : s.table.file with
    | none =>
      simp only [hfile] at hplayed
      cases hok : s.table.history.remove removal with
      | error fault =>
        simp only [hok] at hplayed
        exact .refused hplayed
      | ok history =>
        simp only [hok] at hplayed
        obtain ⟨rfl, rfl, rfl, rfl⟩ := hplayed.of_returned rfl
        exact .shows [.removed number] (placed_display (hplaced.remove hok)) (by simp [Event.kind])
          (by rintro ⟨⟩)
    | some file =>
      simp only [hfile] at hplayed
      obtain ⟨reply, rest, _, rfl, rfl, hremoved⟩ := hplayed.of_waiting rfl
      -- only an answer that says that it was removed leads on to the listing
      rcases reply with fault | (_ | _ | _ | _ | _)
      case ok.removed =>
        obtain ⟨reply, rest, _, rfl, rfl, hlisted⟩ := hremoved.of_waiting rfl
        rcases reply with fault | (_ | _ | _ | _ | _) <;> exact told_afterRemoval hplaced hlisted
      all_goals exact .failed hremoved rfl

theorem told_showPage {index : Nat}
    (hplayed : Played ((Call.showPage index).begin s) replies events s' result) :
    Told s s' (.showPage index) replies events result := by
  replace hplayed : Played (.ofStep (s.showPage index)) replies events s' result := hplayed
  unfold showPage at hplayed
  rcases hb : s.pager.begin index with ⟨p, (fault | fetch) | ⟨request, t⟩⟩ <;> rw [hb] at hplayed
  · exact .failed hplayed rfl
  · obtain ⟨-, rfl, rfl, rfl⟩ := hplayed.of_returned rfl
    exact .stays (fun e he => kind_of_mem_pageEvents he) rfl (not_replaces_of_lists rfl)
  · obtain ⟨reply, rest, _, rfl, rfl, hended⟩ := hplayed.of_waiting rfl
    obtain ⟨-, rfl, rfl, rfl⟩ := hended.of_returned rfl
    exact .stays (fun e he => kind_of_mem_pageEvents he) rfl (not_replaces_of_lists rfl)

/-- A call that goes to another version, if there is one. -/
theorem told_goTo {history : Option History} (hc : c.lists = false)
    (hplaced : ∀ h, history = some h → h.Placed)
    (hplayed : Played (.ofMove (s.goTo history)) replies events s' result) :
    Told s s' c replies events result := by
  cases history with
  | none =>
    obtain ⟨-, rfl, rfl, rfl⟩ := hplayed.of_returned rfl
    exact .stays (by simp [goTo, Turn.ofMove]) rfl (not_replaces_of_lists hc)
  | some h =>
    obtain ⟨-, rfl, rfl, rfl⟩ := hplayed.of_returned rfl
    exact .shows [] (placed_display (hplaced h rfl)) (by simp) (not_replaces_of_lists hc)

/-- A call that ends at once and only looks at the table. -/
theorem told_view {α : Type} {f : α → Return} {r : Except SessionFault (Session × α)}
    (hc : c.IsView) (hlists : c.lists = false) (hbegin : c.begin s = .ofResult s f r)
    (hplayed : Played (c.begin s) replies events s' result) :
    Told s s' c replies events result := by
  have hhistory := (table_begin_of_isView (s := s) hc).2
  rw [hbegin] at hplayed hhistory
  rcases r with fault | ⟨s₁, a⟩
  · exact .refused hplayed
  · obtain ⟨-, rfl, rfl, rfl⟩ := hplayed.of_returned rfl
    exact .stays (by simp [Turn.ofResult]) hhistory (not_replaces_of_lists hlists)

/-- **Every call.** -/
theorem told (hs : s.table.Presentable) (hplayed : Played (c.begin s) replies events s' result) :
    Told s s' c replies events result := by
  cases c with
  | showTable dataset =>
    obtain ⟨-, rfl, rfl, rfl⟩ := hplayed.of_returned rfl
    exact .shows [] (placed_display (.start dataset)) (by simp) (not_replaces_of_lists rfl)
  | connect file => exact told_connect hplayed
  | filter query => exact told_filter hplayed
  -- a step through the history leads to a version, as there was one to step from
  | undo =>
    replace hplayed : Played (.ofMove (s.goTo s.table.history.older?)) replies events s' result :=
      hplayed
    refine told_goTo rfl (fun h hok => ?_) hplayed
    rcases hs with ht | hp
    · rw [ht] at hok
      exact absurd hok (by simp [History.older?, History.hasOlder])
    · exact hp.older? hok
  | redo =>
    replace hplayed : Played (.ofMove (s.goTo s.table.history.newer?)) replies events s' result :=
      hplayed
    refine told_goTo rfl (fun h hok => ?_) hplayed
    rcases hs with ht | hp
    · rw [ht] at hok
      exact absurd hok (by simp [History.newer?, History.hasNewer, History.size])
    · exact hp.newer? hok
  | remove number => exact told_remove hs hplayed
  -- all others look at the table and announce no version
  | clickHeader column => exact told_view trivial rfl rfl hplayed
  | search query => exact told_view trivial rfl rfl hplayed
  | showAll => exact told_view trivial rfl rfl hplayed
  | showPage index => exact told_showPage hplayed
  | resizePages size => exact told_view trivial rfl rfl hplayed
  | columnStatistics column => exact told_view trivial rfl rfl hplayed

/-! ### What a listener knows -/

@[simp] theorem lastDisplayed?_append (log events : List Event) :
    lastDisplayed? (log ++ events) = (lastDisplayed? events).or (lastDisplayed? log) := by
  rw [lastDisplayed?, List.filter_append, List.getLast?_append]
  rfl

theorem lastDisplayed?_eq_none (h : ∀ e ∈ events, e.kind ≠ .displayed) :
    lastDisplayed? events = none := by
  simpa [lastDisplayed?, List.filter_eq_nil_iff] using h

theorem displayNotice_eq {v : Version} (hv : s.table.history.displayed? = some v) :
    s.table.displayNotice = [.displayed v.number v.dataset.size v.dataset.columns.length] := by
  rw [Table.displayNotice, hv]

theorem listingNotice_eq {v : Version} (hv : s.table.history.displayed? = some v) :
    s.table.listingNotice = .takenOver s.table.history.size v.number := by
  rw [Table.listingNotice, hv]
  rfl

/-- A listener who knew what was on display knows it after one more call. -/
theorem Told.lastDisplayed?_eq (htold : Told s s' c replies events result)
    (hlog : lastDisplayed? log = s.table.displayNotice.head?) :
    lastDisplayed? (log ++ events) = s'.table.displayNotice.head? := by
  -- nothing new is put on display, and the old event still tells what is
  have hsame (hkind : ∀ e ∈ events, e.kind ≠ .displayed)
      (hhistory : s'.table.history = s.table.history) :
      lastDisplayed? (log ++ events) = s'.table.displayNotice.head? := by
    rw [lastDisplayed?_append, lastDisplayed?_eq_none hkind, hlog, Table.displayNotice,
      Table.displayNotice, hhistory]
    rfl
  -- or what is on display now is told last
  have hnew (hplaced : s'.table.history.Placed) (before : List Event) :
      lastDisplayed? (before ++ s'.table.displayNotice) =
        s'.table.displayNotice.head? := by
    obtain ⟨v, hv⟩ := hplaced.exists_displayed?
    rw [lastDisplayed?_append, displayNotice_eq hv]
    rfl
  cases htold with
  | fails hevents hhistory => exact hsame (fun e he => by simp [hevents e he]) hhistory
  | stays hevents hhistory => exact hsame (fun e he => by simp [hevents e he]) hhistory
  | shows before hplaced =>
    rw [← List.append_assoc]
    exact hnew hplaced _
  | replaces before hplaced =>
    rw [← List.append_assoc, List.append_cons]
    exact hnew hplaced _

/-- **A series of calls.** The last event that put a version on display is the one of the version
that is on display. -/
theorem Series.lastDisplayed?_eq (h : Series settings log s) :
    lastDisplayed? log = s.table.displayNotice.head? := by
  -- on the calls: each finds a session that is up to date, so that it shows a version or nothing
  induction h with
  | start h =>
    obtain rfl := eq_of_start h
    rfl
  | call h c hplayed ih =>
    exact (told (upToDate_of_reachable h.reachable).presentable hplayed).lastDisplayed?_eq ih

/-- **What a listener knows.** After any series of calls, with any replies, either nothing was shown
yet, or the last event that put a version on display has the number, the rows and the columns of the
one that is. A further call that fails publishes nothing but failures. It publishes that the history
was taken over from the service, with the length of the history and the version on display, once if
the call put a listing in its place, and not at all otherwise. -/
theorem notices_of_series (h : Series settings log s) :
    (s.table = {} ∧ lastDisplayed? log = none ∨
      ∃ v, s.table.history.displayed? = some v ∧
        lastDisplayed? log =
          some (.displayed v.number v.dataset.size v.dataset.columns.length)) ∧
    ∀ c replies events s' result, Played (c.begin s) replies events s' result →
      (∀ fault, result = .error fault → ∀ e ∈ events, e.kind = .failed) ∧
      (Replaces s s' c replies result → ∃ v, s'.table.history.displayed? = some v ∧
        (events.filter fun e => e.kind == .takenOver) =
          [.takenOver s'.table.history.size v.number]) ∧
      (¬Replaces s s' c replies result → ∀ e ∈ events, e.kind ≠ .takenOver) := by
  have hs := upToDate_of_reachable h.reachable
  refine ⟨?_, fun c replies events s' result hplayed => ?_⟩
  · -- what the last such event told is what the invariant of series says
    have hlast := h.lastDisplayed?_eq
    rcases hs.shows with ht | ⟨v, hv⟩
    · refine .inl ⟨ht, ?_⟩
      rw [hlast, ht]
      rfl
    · refine .inr ⟨v, hv.displayed, ?_⟩
      rw [hlast, displayNotice_eq hv.displayed]
      rfl
  · -- what one more call publishes depends on what it does to the history
    cases told hs.presentable hplayed with
    | fails hevents =>
      refine ⟨fun _ _ => hevents, fun hyes => ?_, fun _ e he => by simp [hevents e he]⟩
      cases hyes
    | stays hevents _ hno =>
      exact ⟨nofun, fun hyes => absurd hyes hno, fun _ e he => by simp [hevents e he]⟩
    | shows before hplaced hevents hno =>
      obtain ⟨v, hv⟩ := hplaced.exists_displayed?
      refine ⟨nofun, fun hyes => absurd hyes hno, fun _ e he => ?_⟩
      rw [displayNotice_eq hv] at he
      rcases List.mem_append.1 he with he | he
      · rcases hevents e he with hk | hk <;> simp [hk]
      · obtain rfl := List.mem_singleton.1 he
        simp [Event.kind]
    | replaces before hplaced hevents hyes =>
      obtain ⟨v, hv⟩ := hplaced.exists_displayed?
      refine ⟨nofun, fun _ => ⟨v, hv, ?_⟩, fun hno => absurd hyes hno⟩
      -- the one event that tells of it stands behind those of the deletion
      have hbefore : (before.filter fun e => e.kind == .takenOver) = [] :=
        List.filter_eq_nil_iff.2 fun e he => by simp [hevents e he]
      rw [List.filter_append, hbefore, displayNotice_eq hv, listingNotice_eq hv]
      rfl

/-- The listing of a file with an upload of one row and a filter that kept it. -/
def twoVersions : List Entry :=
  let row : Row := ⟨[("open", .bool true)], by simp⟩
  [{ rows := [row], description := uploadDescription, isCurrent := false, version := 1 },
    { rows := [row], description := "open = true", isCurrent := true, version := 2 }]

/-- The turn that opens it. -/
def twoVersionsOpened : Turn :=
  .ofStep <|
    resume { settings := {}, pager := .start 100 true } (.connectListing 7)
      (.ok (.listing twoVersions))

/-- The listing is in order, so it is taken over as it stands. -/
theorem exists_twoVersionsOpened_eq :
    ∃ events, twoVersionsOpened =
      { session := display { settings := {}, pager := .start 100 true }
          { file := some 7
            history := { versions := twoVersions.map .ofEntry, position := 1, highest := 2 } }
        events
        next := .returned (.ok (.outcome .connected)) } := by
  have htaken : ({} : History).takeOver twoVersions none = .ok _ :=
    History.takeOver_of_pairwise (by decide) rfl
  have hopened : twoVersionsOpened =
      .ofStep (connectWith { settings := {}, pager := .start 100 true } 7 twoVersions none) := rfl
  rw [connectWith, htaken] at hopened
  exact ⟨_, hopened⟩

/-- The turn that takes over the listing after its second version was deleted. -/
def twoVersionsRemoved : Turn :=
  .ofStep <|
    twoVersionsOpened.session.resume
      (.removalListing { number := 2, wasCurrent := true }
        (twoVersionsOpened.session.table.history.upload?.map Version.dataset))
      (.ok (.listing (twoVersions.take 1)))

/-- What is listed then takes the place of the history, and the upload is on display. -/
theorem exists_takeOver_twoVersionsRemoved :
    ∃ h', twoVersionsOpened.session.table.history.takeOver (twoVersions.take 1)
        (twoVersionsOpened.session.table.history.upload?.map Version.dataset) = .ok h' ∧
      (∃ v, h'.displayed? = some v ∧ v.number = 1) ∧ h'.size = 1 ∧
        twoVersionsRemoved.next = .returned (.ok (.outcome .removed)) ∧
          twoVersionsRemoved.session.table.history = h' := by
  have htaken : twoVersionsOpened.session.table.history.takeOver (twoVersions.take 1)
      (twoVersionsOpened.session.table.history.upload?.map Version.dataset) = .ok _ :=
    History.takeOver_of_pairwise (by decide) rfl
  have hleft : twoVersionsRemoved = .ofStep (twoVersionsOpened.session.afterRemoval _ _ _) := rfl
  rw [afterRemoval_of_takeOver_eq_ok htaken] at hleft
  refine ⟨_, htaken, ⟨_, rfl, rfl⟩, rfl, ?_, ?_⟩
  · rw [hleft]
    rfl
  · rw [hleft]
    rfl

/-- Its second version is deleted in three turns: the deletion, the listing, and what is taken over
of it. -/
theorem exists_played_twoVersionsRemoved :
    ∃ events, Played ((Call.remove 2).begin twoVersionsOpened.session)
      [.ok .removed, .ok (.listing (twoVersions.take 1))] events twoVersionsRemoved.session
      (.ok (.outcome .removed)) := by
  obtain ⟨events, hopened⟩ := exists_twoVersionsOpened_eq
  obtain ⟨h', -, -, -, hremoved, -⟩ := exists_takeOver_twoVersionsRemoved
  have hasks : ((Call.remove 2).begin twoVersionsOpened.session).next =
      .waiting (.remove 7 2) (.removalAnswer 7 { number := 2, wasCurrent := true }
        (twoVersionsOpened.session.table.history.upload?.map Version.dataset)) := by
    rw [hopened]
    rfl
  have hsame : ((Call.remove 2).begin twoVersionsOpened.session).session =
      twoVersionsOpened.session := by
    rw [hopened]
    rfl
  refine ⟨((Call.remove 2).begin twoVersionsOpened.session).events ++
    ([] ++ twoVersionsRemoved.events), .replied hasks ?_⟩
  rw [hsame]
  exact @Played.replied (.ofStep (resume ..)) _ _ _ _ _ _ _ rfl (.returned hremoved)

/-- What one knows who listens while this file is opened and its second version is deleted. -/
theorem notices_of_twoVersions :
    lastDisplayed? twoVersionsOpened.events = some (.displayed 2 1 1) ∧
      ∃ events s' result,
        Played ((Call.remove 2).begin twoVersionsOpened.session)
            [.ok .removed, .ok (.listing (twoVersions.take 1))] events s' result ∧
          (events.filter fun e => e.kind == .takenOver) = [.takenOver 1 1] := by
  obtain ⟨events, hopened⟩ := exists_twoVersionsOpened_eq
  obtain ⟨h', htaken, ⟨v', hv', hnumber⟩, hsize, -, hhistory⟩ :=
    exists_takeOver_twoVersionsRemoved
  -- the file is opened in two turns
  have hnext : twoVersionsOpened.next = .returned (.ok (.outcome .connected)) := by rw [hopened]
  have hseries : Series {} ([] ++ ([] ++ twoVersionsOpened.events)) twoVersionsOpened.session :=
    (@Series.start {} _ rfl).call (.connect 7)
      (@Played.replied ((Call.connect 7).begin _) _ _ (.ok (.listing twoVersions)) _ _ _ _ rfl
        (.returned hnext))
  obtain ⟨events', hplayed⟩ := exists_played_twoVersionsRemoved
  -- this listing takes the place of the history
  have hreplaces : Replaces twoVersionsOpened.session twoVersionsRemoved.session (.remove 2)
      [.ok .removed, .ok (.listing (twoVersions.take 1))] (.ok (.outcome .removed)) :=
    .refreshed (hhistory ▸ htaken)
  obtain ⟨⟨htable, -⟩ | ⟨v, hv, hlast⟩, hcalls⟩ := notices_of_series hseries
  · -- there is a table, and what one knows of it is what was told
    have hfile : twoVersionsOpened.session.table.file = some 7 := by
      rw [hopened]
      rfl
    rw [htable] at hfile
    exact absurd hfile (by simp)
  · refine ⟨hlast.trans ?_, _, _, _, hplayed, ?_⟩
    · have hshown : twoVersionsOpened.session.table.history.displayed?.map
          (fun v => Event.displayed v.number v.dataset.size v.dataset.columns.length) =
            some (.displayed 2 1 1) := by
        rw [hopened]
        rfl
      rw [hv] at hshown
      exact hshown
    · obtain ⟨w, hw, hevents⟩ := (hcalls _ _ _ _ _ hplayed).2.1 hreplaces
      rw [hhistory] at hw hevents
      obtain rfl := Option.some.inj (hw.symm.trans hv')
      rw [hevents, hsize, hnumber]

end Tabula.Session
