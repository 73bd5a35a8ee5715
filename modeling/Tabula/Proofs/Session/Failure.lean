import Tabula.Proofs.Session.Waiting

/-!
# Calls that fail

A call that nothing comes between and that fails leaves the session as it was before, down to the
number of the last ticket, and the gate for filters open (`eq_of_failed`).

A call may fail at its first turn or after a reply, and it may have shut the gate or taken a ticket
before. `Sparing` says what keeps each failure harmless: a call that waits has changed nothing that
giving it up does not undo. The one kind of call that has, a call that took a ticket, does not fail
any more: where the service sends no page, one is cut from the rows that are known. And a call that
cuts its page at once has passed the range check, so it cannot fail after it took its ticket
(`Pager.Lawful.begin_eq_error_iff`).
-/

namespace Tabula.Session

variable {settings : Settings} {s s₀ : Session} {turn : Turn}

/-- A turn of a call that has spared the session `s₀` that it began in. -/
structure Sparing (s₀ : Session) (turn : Turn) : Prop where
  /-- A call that failed has changed nothing. -/
  failed : ∀ fault, turn.next = .returned (.error fault) → turn.session = s₀
  /-- A call that waits has changed nothing that stays if it is given up, or has a ticket. -/
  waiting : ∀ request pending, turn.next = .waiting request pending → pending.ticket? = none →
    turn.session.cancel pending = s₀

theorem Sparing.succeeded {result : Return} (h : turn.next = .returned (.ok result)) :
    Sparing s₀ turn where
  failed := fun _ hfailed => absurd (h.symm.trans hfailed) (by simp)
  waiting := fun _ _ hwaits => absurd (h.symm.trans hwaits) (by simp)

theorem Sparing.returned {result : Except SessionFault Return} (h : turn.next = .returned result)
    (hs : turn.session = s₀) : Sparing s₀ turn where
  failed := fun _ _ => hs
  waiting := fun _ _ hwaits => absurd (h.symm.trans hwaits) (by simp)

theorem Sparing.waits {request : Request} {pending : Pending}
    (h : turn.next = .waiting request pending)
    (hs : pending.ticket? = none → turn.session.cancel pending = s₀) : Sparing s₀ turn where
  failed := fun _ hfailed => absurd (h.symm.trans hfailed) (by simp)
  waiting := by
    intro request' pending' hwaits hticket
    obtain ⟨-, rfl⟩ := Next.waiting.inj (h.symm.trans hwaits)
    exact hs hticket

/-- A call that waited for a page does not fail, whatever the reply. -/
theorem Turned.returned_of_ticket {held : Bool} {t : Ticket} (h : Turned s held (some t) turn) :
    ∃ result, turn.next = .returned (.ok result) := by
  cases h with
  | finishes h => exact ⟨_, rfl⟩

/-- **One turn.** A turn that goes on from a spared session spares it, if the gate was open and a
refused page number changes nothing. -/
theorem Sparing.turned (hopen : s₀.filtering = false)
    (hpage : ∀ index p fault, s₀.pager.begin index = (p, .done (.error fault)) → p = s₀.pager)
    {held : Bool} (hs : s.release held = s₀) (h : Turned s held none turn) : Sparing s₀ turn := by
  cases h with
  | returned => exact .returned rfl hs
  | @waits held request pending hgate hticket =>
    refine .waits rfl fun _ => ?_
    -- to give a call up is to open the gate that it has shut
    show s.release pending.holdsGate = s₀
    rw [hgate]
    exact hs
  | @shuts request pending _ hgate hticket =>
    refine .waits rfl fun _ => ?_
    show release { s with filtering := true } pending.holdsGate = s₀
    obtain rfl : s = s₀ := hs
    -- the gate was open before it was shut
    rw [hgate]
    show { s with filtering := false } = s
    rw [← hopen]
  | displays ht => exact .succeeded rfl
  | sorts hv => exact .succeeded rfl
  | searches hv => exact .succeeded rfl
  | resizes h => exact .succeeded rfl
  | asks h =>
    -- it waits for a page, and such a call does not fail
    exact .waits rfl fun hticket => absurd hticket (by simp [Pending.ticket?])
  | pages h => exact .succeeded rfl
  | @pageFails index p fault events h =>
    obtain rfl : s = s₀ := hs
    refine .returned rfl ?_
    show { s with pager := p } = s
    rw [hpage index p fault h]

/-- **Every turn.** A call that failed has spared the session that it began in. -/
theorem Sparing.eq_of_runs (hopen : s₀.filtering = false)
    (hpage : ∀ index p fault, s₀.pager.begin index = (p, .done (.error fault)) → p = s₀.pager)
    {result : Except SessionFault Return} (hruns : Runs turn s result) (hs : Sparing s₀ turn)
    {fault : SessionFault} (hresult : result = .error fault) : s = s₀ := by
  -- on the replies: each turn spares the session, so the last one does
  induction hruns with
  | returned h => exact hs.failed fault (hresult ▸ h)
  | @replied turn request pending s result h reply hrest ih =>
    refine ih ?_ hresult
    have hturn := turned_resume (s := turn.session) pending reply
    cases ht : pending.ticket? with
    | none =>
      rw [ht] at hturn
      exact .turned hopen hpage (hs.waiting request pending h ht) hturn
    | some t =>
      rw [ht] at hturn
      obtain ⟨result, hreturned⟩ := hturn.returned_of_ticket
      exact .succeeded hreturned

/-- **Failures leave no trace.** In every state that calls, replies and cancellations lead to and in
which no call waits, a call that nothing comes between and that fails, at once or after any replies,
leaves the whole session as it was: the table, the pages and the tickets that were counted; and the
gate for filters is open. -/
theorem eq_of_failed {y : System} (hy : Reachable settings y) (hidle : y.waiting = []) {c : Call}
    {fault : SessionFault} (hruns : Runs (c.begin y.session) s (.error fault)) :
    s = y.session ∧ s.filtering = false := by
  have hopen : y.session.filtering = false := by
    -- no call waits, so none has it shut
    have hguard := guarded_of_reachable hy
    rw [hidle] at hguard
    exact Bool.toNat_eq_zero.1 hguard.symm
  obtain ⟨acts, hlawful⟩ := lawful_of_reachable hy
  have hpage : ∀ index p fault, y.session.pager.begin index = (p, .done (.error fault)) →
      p = y.session.pager :=
    fun index p fault h => (hlawful.begin_eq_error_iff.1 ⟨fault, h⟩).1
  obtain rfl := Sparing.eq_of_runs hopen hpage hruns (.turned hopen hpage rfl (turned_begin c)) rfl
  exact ⟨rfl, hopen⟩

/-- A file with nothing but its upload, opened. -/
def opened : System :=
  let listing : List Entry :=
    [{ rows := [], description := uploadDescription, isCurrent := true, version := uploadNumber }]
  .after [] <| .ofStep <|
    resume { settings := {}, pager := .start 100 true } (.connectListing 7) (.ok (.listing listing))

theorem reachable_opened : Reachable {} opened := by
  have hstart : Session.start {} = .ok { settings := {}, pager := .start 100 true } := rfl
  have hasked := Reachable.step (.start hstart) (.call (.connect 7))
  exact hasked.step (@System.Step.reply _ [] [] _ _)

/-- A file that was opened is as it was after a filter that the service refused. -/
theorem eq_of_refused_filter :
    opened.waiting = [] ∧ opened.session.table.file = some 7 ∧
      ∃ s, Runs ((Call.filter "age > 30").begin opened.session) s
          (.error (.service (.refused "no such column"))) ∧
        s = opened.session ∧ s.filtering = false := by
  have hidle : opened.waiting = [] := by decide +kernel
  have hfile : opened.session.table.file = some 7 := by decide +kernel
  have hopen : opened.session.filtering = false := by decide +kernel
  have hfilter : (Call.filter "age > 30").begin opened.session =
      ⟨{ opened.session with filtering := true }, [],
        .waiting (.filter 7 "age > 30") (.filterResult 7)⟩ := by
    show Turn.ofStep (opened.session.filter "age > 30") = _
    simp [filter, hfile, hopen, Turn.ofStep, send]
  obtain ⟨s, hruns⟩ : ∃ s, Runs ((Call.filter "age > 30").begin opened.session) s
      (.error (.service (.refused "no such column"))) := by
    rw [hfilter]
    exact ⟨_, .replied rfl (.error (.refused "no such column")) (.returned rfl)⟩
  exact ⟨hidle, hfile, s, hruns, eq_of_failed reachable_opened hidle hruns⟩

end Tabula.Session
