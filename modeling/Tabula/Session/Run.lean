import Tabula.Session.Call
import Tabula.Store

/-!
# Calls against a store in memory

A store in memory answers at once, so a call can be run to its end in one go. Every call does end:
`outstanding_resume_le` says that going on with a waiting call leaves fewer requests to come than
there were.
-/

namespace Tabula.Session

/-- How many further requests a waiting call may send after its reply. -/
def Pending.further : Pending → Nat
  | connectListing _ | filterResult _ | removalAnswer .. => 1
  | connectUpload .. | filterNumber _ | removalListing .. | page _ => 0

/-- How many requests a call may still have answered. -/
def Status.outstanding : Status → Nat
  | done _ => 0
  | waiting _ pending => pending.further + 1

@[simp] theorem outstanding_fail (s : Session) (operation : String) (fault : SessionFault) :
    (s.fail operation fault).status.outstanding = 0 := rfl

@[simp] theorem outstanding_send (s : Session) (request : Request) (pending : Pending) :
    (s.send request pending).status.outstanding = pending.further + 1 := rfl

@[simp] theorem outstanding_connectWith (s : Session) (file : FileNumber) (entries : List Entry)
    (upload : Option Dataset) : (s.connectWith file entries upload).status.outstanding = 0 := by
  unfold connectWith
  split <;> rfl

@[simp] theorem outstanding_record (s : Session) (result : FilterResult)
    (assigned : Option VersionNumber) : (s.record result assigned).status.outstanding = 0 := by
  unfold record
  dsimp only
  split <;> rfl

@[simp] theorem outstanding_afterRemoval (s : Session) (removal : Removal)
    (upload : Option Dataset) (entries : Option (List Entry)) :
    (s.afterRemoval removal upload entries).status.outstanding = 0 := rfl

@[simp] theorem outstanding_endPage (s : Session) (pager : Pager) (fetch : PageOutcome) :
    (s.endPage pager fetch).status.outstanding = 0 := rfl

theorem outstanding_connectListed_le (s : Session) (file : FileNumber) (entries : List Entry) :
    (s.connectListed file entries).status.outstanding ≤ 1 := by
  unfold connectListed
  split
  · simp
  · split <;> simp [Pending.further]

/-- A reply brings a call closer to its end. -/
theorem outstanding_resume_le (s : Session) (pending : Pending) (reply : Reply) :
    (s.resume pending reply).status.outstanding ≤ pending.further := by
  unfold resume
  split <;> simp [Pending.further, outstanding_connectListed_le]

/-- What a call came to. -/
structure Ended where
  /-- The store after the call. -/
  store : Store
  /-- The session after the call. -/
  session : Session
  /-- The events that the call published, in order. -/
  events : List Event
  /-- The result of the call. -/
  result : Except SessionFault Outcome

/-- Runs a call to its end. -/
def runToEnd (store : Store) (step : Step) : Ended :=
  match _h : step.status with
  | .done result => { store, session := step.session, events := step.events, result }
  | .waiting request pending =>
    let (store, reply) := store.respond request
    let next := step.session.resume pending reply
    runToEnd store { next with events := step.events ++ next.events }
termination_by step.status.outstanding
decreasing_by
  have := outstanding_resume_le step.session pending reply
  rw [_h]
  exact Nat.lt_succ_of_le this

/-- A call that is done has ended. -/
theorem runToEnd_of_done {store : Store} {step : Step} {result : Except SessionFault Outcome}
    (h : step.status = .done result) :
    runToEnd store step = { store, session := step.session, events := step.events, result } := by
  rw [runToEnd]
  split
  · next h' =>
    obtain rfl := Status.done.inj (h'.symm.trans h)
    rfl
  · next h' => exact absurd (h.symm.trans h') (by simp)

/-- A call that waits goes on with the reply that the store gives. -/
theorem runToEnd_of_waiting {store : Store} {step : Step} {request : Request} {pending : Pending}
    (h : step.status = .waiting request pending) :
    runToEnd store step =
      runToEnd (store.respond request).1
        { step.session.resume pending (store.respond request).2 with
          events := step.events ++
            (step.session.resume pending (store.respond request).2).events } := by
  rw [runToEnd]
  split
  · next h' => exact absurd (h.symm.trans h') (by simp)
  · next h' =>
    obtain ⟨rfl, rfl⟩ := Status.waiting.inj (h'.symm.trans h)
    rfl

end Tabula.Session
