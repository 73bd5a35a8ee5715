import Tabula.Proofs.Session.System

/-!
# The calls that wait

What a session keeps about the calls that wait is in step with those calls, whatever they are and in
whatever order their replies come.

* The gate for filters is shut exactly while one call has it shut (`guarded_of_reachable`).
* The pager and the tickets of the calls that wait for pages are what a run of the pager alone leads
  to (`Paged`, `paged_of_reachable`), so that everything known of such runs holds of them
  (`lawful_of_reachable`). Each turn makes at most two steps of that run.
-/

namespace Tabula.Session

/-- Whether a turn leaves a call waiting that has the gate shut. -/
def Turn.holdsGate (turn : Turn) : Bool :=
  match turn.next with
  | .returned _ => false
  | .waiting _ pending => pending.holdsGate

/-- The ticket of the call that a turn leaves waiting. -/
def Turn.ticket? (turn : Turn) : Option Ticket :=
  match turn.next with
  | .returned _ => none
  | .waiting _ pending => pending.ticket?

theorem countP_waiting_after (ps : List Pending) (turn : Turn) :
    (System.after ps turn).waiting.countP Pending.holdsGate =
      ps.countP Pending.holdsGate + turn.holdsGate.toNat := by
  unfold System.after Turn.holdsGate
  cases turn.next with
  | returned result => rfl
  | waiting request pending => cases h : pending.holdsGate <;> simp [h]

theorem filterMap_waiting_after (ps : List Pending) (turn : Turn) :
    (System.after ps turn).waiting.filterMap Pending.ticket? =
      turn.ticket?.toList ++ ps.filterMap Pending.ticket? := by
  unfold System.after Turn.ticket?
  cases turn.next with
  | returned result => rfl
  | waiting request pending => cases h : pending.ticket? <;> simp [h]

theorem countP_waiting_mid (ps₁ ps₂ : List Pending) (pending : Pending) :
    (ps₁ ++ pending :: ps₂).countP Pending.holdsGate =
      (ps₁ ++ ps₂).countP Pending.holdsGate + pending.holdsGate.toNat := by
  rw [List.countP_append, List.countP_cons, List.countP_append, Nat.add_assoc]
  cases pending.holdsGate <;> rfl

theorem filterMap_waiting_mid (ps₁ ps₂ : List Pending) (pending : Pending) :
    (ps₁ ++ pending :: ps₂).filterMap Pending.ticket? =
      ps₁.filterMap Pending.ticket? ++
        (pending.ticket?.toList ++ ps₂.filterMap Pending.ticket?) := by
  rw [List.filterMap_append, List.filterMap_cons]
  cases pending.ticket? <;> rfl

variable {settings : Settings} {s : Session} {turn : Turn}

/-! ### The gate -/

/-- The gate is open for all but the call that has it shut. -/
theorem toNat_filtering_release {n : Nat} {held : Bool}
    (hn : n + held.toNat = s.filtering.toNat) : n = (s.release held).filtering.toNat := by
  have hle : s.filtering.toNat ≤ 1 := Bool.toNat_le _
  cases held with
  | true =>
    replace hn : n + 1 = s.filtering.toNat := hn
    show n = 0
    omega
  | false => exact hn

/-- A turn shuts the gate for the call that it leaves waiting, and opens it for the call that it
ends. Here `n` counts the other calls that have it shut. -/
theorem guarded_of_turned {n : Nat} {held : Bool} {ticket : Option Ticket}
    (hn : n + held.toNat = s.filtering.toNat) (h : Turned s held ticket turn) :
    n + turn.holdsGate.toNat = turn.session.filtering.toNat := by
  have hrelease := toNat_filtering_release hn
  -- a turn that ends its call is counted without it, any other keeps the gate or shuts it
  cases h with
  | returned => exact hrelease
  | waits hgate hticket =>
    show n + Bool.toNat (Pending.holdsGate _) = _
    rw [hgate]
    exact hn
  | shuts hopen hgate hticket =>
    rw [hopen] at hn
    show n + Bool.toNat (Pending.holdsGate _) = 1
    rw [hgate]
    exact congrArg (· + 1) hn
  | displays ht => exact hrelease
  | sorts hv => exact hn
  | searches hv => exact hn
  | resizes h => exact hn
  | asks h => exact hn
  | pages h => exact hn
  | pageFails h => exact hn
  | finishes h => exact hn

theorem guarded_of_step {y y' : System} (hstep : System.Step y y')
    (hy : y.waiting.countP Pending.holdsGate = y.session.filtering.toNat) :
    y'.waiting.countP Pending.holdsGate = y'.session.filtering.toNat := by
  cases hstep with
  | call c =>
    rw [countP_waiting_after]
    exact guarded_of_turned (show _ + Bool.toNat false = _ from hy) (turned_begin c)
  | @reply s ps₁ ps₂ pending reply =>
    rw [countP_waiting_after]
    exact guarded_of_turned (countP_waiting_mid .. ▸ hy) (turned_resume pending reply)
  | @cancel s ps₁ ps₂ pending =>
    rw [countP_waiting_mid] at hy
    exact toNat_filtering_release hy

/-- **The gate.** The gate is shut exactly while a call has it shut, and no two calls do. -/
theorem guarded_of_reachable {y : System} (h : Reachable settings y) :
    y.waiting.countP Pending.holdsGate = y.session.filtering.toNat := by
  induction h with
  | start h =>
    obtain rfl := eq_of_start h
    rfl
  | step _ hstep ih => exact guarded_of_step hstep ih

/-! ### The pager -/

/-- A session whose pager and tickets are what a run of the pager leads to. -/
structure Paged (settings : Settings) (s : Session) (ts : List Ticket) : Prop where
  /-- A run of the pager leads there. -/
  run : ∃ acts, Pager.Run (.start settings.pageSize true) acts ⟨s.pager, ts⟩
  /-- There is a service to ask. -/
  hasService : s.pager.hasService = true
  /-- A call waits only for pages of the service. -/
  fromService : ∀ t ∈ ts, t.source.fromService = true

theorem Paged.start (h : Session.start settings = .ok s) : s.Paged settings [] := by
  obtain rfl := eq_of_start h
  exact ⟨⟨[], .nil⟩, rfl, fun _ ht => absurd ht List.not_mem_nil⟩

/-- One step of the pager that takes no ticket out of the calls that wait. -/
theorem Paged.step {ts ts' : List Ticket} {p : Pager} {a : Pager.Act} (hp : s.Paged settings ts)
    (hstep : Pager.Step ⟨s.pager, ts⟩ a ⟨p, ts'⟩) (hservice : p.hasService = s.pager.hasService)
    (hts : ∀ t ∈ ts', t.source.fromService = true) :
    ({ s with pager := p } : Session).Paged settings ts' := by
  obtain ⟨acts, hrun⟩ := hp.run
  exact ⟨⟨_, hrun.snoc hstep⟩, hservice.trans hp.hasService, hts⟩

theorem Paged.setTable {ts : List Ticket} (hp : s.Paged settings ts) (t : Table) :
    (s.setTable t).Paged settings ts := by
  obtain ⟨acts, hrun⟩ := hp.run
  exact ⟨⟨_, hrun.snoc (.restart t.source)⟩, hp.hasService, hp.fromService⟩

theorem Paged.release {ts : List Ticket} (hp : s.Paged settings ts) (held : Bool) :
    (s.release held).Paged settings ts := by
  cases held with
  | true => exact ⟨hp.run, hp.hasService, hp.fromService⟩
  | false => exact hp

/-- A turn that waited for no page makes steps of the pager alone. -/
theorem Paged.turned {ts : List Ticket} {held : Bool} (hp : s.Paged settings ts)
    (h : Turned s held none turn) : turn.session.Paged settings (turn.ticket?.toList ++ ts) := by
  cases h with
  | returned => exact hp.release held
  | waits hgate hticket =>
    show s.Paged settings (Option.toList (Pending.ticket? _) ++ ts)
    rw [hticket]
    exact hp
  | shuts hopen hgate hticket =>
    show Paged settings _ (Option.toList (Pending.ticket? _) ++ ts)
    rw [hticket]
    exact ⟨hp.run, hp.hasService, hp.fromService⟩
  -- a table that is put on display restarts the pager
  | displays ht => exact (hp.release held).setTable _
  | sorts hv => exact hp.setTable _
  | searches hv => exact hp.setTable _
  | resizes h =>
    refine hp.step (.resize h) ?_ hp.fromService
    obtain ⟨-, rfl⟩ := Pager.resizePages_eq_ok_iff.1 h
    rfl
  | @asks index p request t h =>
    rcases Pager.begin_cases h with
      ⟨fault, -, -, hn⟩ | ⟨q, t', ha, ⟨request', hr, rfl, hn⟩ | ⟨-, -, hn⟩⟩
    · exact absurd hn (by simp)
    · obtain ⟨rfl, rfl⟩ := Pager.Progress.waiting.inj hn
      have hservice := (Pager.sameSource_of_begin h).hasService_eq
      refine hp.step (.ask ha) hservice (List.forall_mem_cons.2 ⟨?_, hp.fromService⟩)
      -- it waits since the service was asked
      have hsome := Pager.isSome_request? p t
      rw [hr, hservice, hp.hasService] at hsome
      exact hsome.symm
    · exact absurd hn (by simp)
  | @pages index p fetch events h =>
    rcases Pager.begin_cases h with
      ⟨fault, -, -, hn⟩ | ⟨q, t, ha, ⟨request, -, -, hn⟩ | ⟨hr, rfl, -⟩⟩
    · exact absurd hn (by simp)
    · exact absurd hn (by simp)
    · -- the ticket is handed out and given back in one turn
      obtain ⟨acts, hrun⟩ := hp.run
      have hend := @Pager.Step.finish q [] ts t (.ok .removed)
      rw [Pager.settle_of_request?_eq_none hr] at hend
      exact ⟨⟨_, (hrun.snoc (.ask ha)).snoc hend⟩,
        (Pager.sameSource_of_begin h).hasService_eq.trans hp.hasService, hp.fromService⟩
  | @pageFails index p fault events h =>
    obtain ⟨acts, hrun⟩ := hp.run
    -- a page that cannot be had is refused before a ticket is handed out
    obtain ⟨rfl, -⟩ := (Pager.lawful_of_run hrun).begin_eq_error_iff.1 ⟨fault, h⟩
    exact hp

/-- The turn of a call that waited for a page ends the call of its ticket. -/
theorem Paged.finishes {ts₁ ts₂ : List Ticket} {t : Ticket} {held : Bool}
    (hp : s.Paged settings (ts₁ ++ t :: ts₂)) (h : Turned s held (some t) turn) :
    turn.session.Paged settings (turn.ticket?.toList ++ (ts₁ ++ ts₂)) := by
  cases h with
  | @finishes t p fetch events reply h =>
    -- a call that waits has asked the service, so it ends with the service's reply
    have hrequest : (s.pager.request? t).isSome = true := by
      rw [Pager.isSome_request?, hp.hasService, hp.fromService t (by simp)]
      rfl
    obtain ⟨request, hr⟩ := Option.isSome_iff_exists.1 hrequest
    have hend := @Pager.Step.finish s.pager ts₁ ts₂ t reply
    rw [Pager.settle_of_request?_eq_some hr, h] at hend
    have hsub := (List.sublist_cons_self t ts₂).append_left ts₁
    exact hp.step hend (Pager.sameSource_of_finish h).hasService_eq fun t' ht' =>
      hp.fromService t' (hsub.subset ht')

theorem Paged.abandon {ts₁ ts₂ : List Ticket} {t : Ticket}
    (hp : s.Paged settings (ts₁ ++ t :: ts₂)) : s.Paged settings (ts₁ ++ ts₂) := by
  have hsub := (List.sublist_cons_self t ts₂).append_left ts₁
  exact hp.step .abandon rfl fun t' ht' => hp.fromService t' (hsub.subset ht')

theorem Paged.of_step {y y' : System} (hstep : System.Step y y')
    (hy : y.session.Paged settings (y.waiting.filterMap Pending.ticket?)) :
    y'.session.Paged settings (y'.waiting.filterMap Pending.ticket?) := by
  cases hstep with
  | call c =>
    rw [filterMap_waiting_after]
    exact hy.turned (turned_begin c)
  | @reply s ps₁ ps₂ pending reply =>
    rw [filterMap_waiting_after, List.filterMap_append]
    rw [filterMap_waiting_mid] at hy
    have hturn := turned_resume (s := s) pending reply
    -- a call that waits for a page takes its ticket with it, any other has none
    cases ht : pending.ticket? with
    | none =>
      rw [ht] at hy hturn
      exact hy.turned hturn
    | some t =>
      rw [ht] at hy hturn
      exact hy.finishes hturn
  | @cancel s ps₁ ps₂ pending =>
    rw [filterMap_waiting_mid] at hy
    refine Paged.release ?_ pending.holdsGate
    rw [List.filterMap_append]
    cases ht : pending.ticket? with
    | none =>
      rw [ht] at hy
      exact hy
    | some t =>
      rw [ht] at hy
      exact hy.abandon

/-- **The pager.** The pager of a session and the tickets of its calls are what a run of the pager
leads to. -/
theorem paged_of_reachable {y : System} (h : Reachable settings y) :
    y.session.Paged settings (y.waiting.filterMap Pending.ticket?) := by
  induction h with
  | start h => exact .start h
  | step _ hstep ih => exact .of_step hstep ih

theorem lawful_of_reachable {y : System} (h : Reachable settings y) :
    ∃ acts, Pager.Lawful acts ⟨y.session.pager, y.waiting.filterMap Pending.ticket?⟩ := by
  obtain ⟨acts, hrun⟩ := (paged_of_reachable h).run
  exact ⟨acts, Pager.lawful_of_run hrun⟩

end Tabula.Session
