import Tabula.Proofs.Session.Waiting
import Tabula.Proofs.Store.Files

/-!
# A session and its store

`Dialogue` puts a session beside the store that it asks, with the calls that wait between them. A
request is sent at one moment, carried out by the store at another, and its reply is delivered at a
third; what else happens meanwhile is up to the acts of the dialogue, which are functions, so a run
is a list of acts and can be evaluated.

What a client may do is told by a *policy*, which accepts an act or not in the state that the
dialogue has then reached. `Keeps` says that a run keeps to a policy, and `Keeps.induction` is the
one induction over runs: what every accepted act preserves holds after every run.
-/

namespace Tabula.Session

/-- A call that waits, the request that it sent, and the reply once the store has given it. -/
structure Exchange where
  pending : Pending
  request : Request
  reply : Option Reply := none
deriving DecidableEq

/-- Whether an exchange is of a filter whose result the file has and the history has not. -/
def Exchange.unrecorded : Exchange → Bool
  | ⟨.filterResult _, _, some (.ok (.filtered _))⟩ | ⟨.filterNumber _, _, _⟩ => true
  | _ => false

/-- Whether an exchange is of a deletion that the file has made and the history has not. -/
def Exchange.behind : Exchange → Bool
  | ⟨.removalAnswer .., _, some (.ok .removed)⟩ | ⟨.removalListing .., _, _⟩ => true
  | _ => false

/-- The calls that wait after a turn, beside these others. -/
def Turn.joining (turn : Turn) (others : List Exchange) : List Exchange :=
  match turn.next with
  | .returned _ => others
  | .waiting request pending => { pending, request } :: others

/-- A session, the store that it asks, and the calls that wait, the latest first. -/
structure Dialogue where
  session : Session
  store : Store
  exchanges : List Exchange := []

theorem forall_mem_append_cons {P : Exchange → Prop} {es₁ es₂ : List Exchange} {e : Exchange} :
    (∀ e' ∈ es₁ ++ e :: es₂, P e') ↔ P e ∧ ∀ e' ∈ es₁ ++ es₂, P e' := by
  simp only [List.forall_mem_append, List.forall_mem_cons]
  tauto

namespace Dialogue

/-- What may happen next. Calls that wait are told by their place among those that do. -/
inductive Act where
  /-- A call begins. -/
  | call (c : Call)
  /-- The store receives a request and carries it out. -/
  | serve (i : Nat)
  /-- A reply arrives, and its call goes on. -/
  | deliver (i : Nat)
  /-- A call is given up. -/
  | cancel (i : Nat)
  /-- The next request for an operation is made to fail. -/
  | plant (operation : Operation) (fault : ServiceFault)

/-- The dialogue after a turn, with the other calls that wait. -/
def turned (d : Dialogue) (others : List Exchange) (turn : Turn) : Dialogue :=
  { d with session := turn.session, exchanges := turn.joining others }

/-- The dialogue after an act. Where there is no such call, or it is not the time for the act,
nothing happens. -/
def after (d : Dialogue) : Act → Dialogue
  | .call c => d.turned d.exchanges (c.begin d.session)
  | .serve i =>
    match d.exchanges[i]? with
    | some { pending, request, reply := none } =>
      { d with
        store := (d.store.respond request).1
        exchanges :=
          d.exchanges.set i { pending, request, reply := some (d.store.respond request).2 } }
    | _ => d
  | .deliver i =>
    match d.exchanges[i]? with
    | some { pending, reply := some reply, .. } =>
      d.turned (d.exchanges.eraseIdx i) (.ofStep (d.session.resume pending reply))
    | _ => d
  | .cancel i =>
    match d.exchanges[i]? with
    | some e =>
      { d with session := d.session.cancel e.pending, exchanges := d.exchanges.eraseIdx i }
    | none => d
  | .plant operation fault => { d with store := d.store.plant operation fault }

/-- The dialogue after a series of acts. -/
def afterAll (d : Dialogue) (acts : List Act) : Dialogue :=
  acts.foldl after d

/-- A dialogue that begins: a session without a table, and a store that clients may have used
before. -/
structure Fresh (settings : Settings) (d : Dialogue) : Prop where
  start : Session.start settings = .ok d.session
  reachable : d.store.Reachable
  exchanges_eq : d.exchanges = []

theorem Fresh.table_eq {settings : Settings} {d : Dialogue} (hd : Fresh settings d) :
    d.session.table = {} := by
  rw [eq_of_start hd.start]

/-- A dialogue about an upload of two rows, with filters that drop the first row. -/
def sample : Dialogue where
  session := { settings := {}, pager := .start 100 true }
  store :=
    let upload : Dataset :=
      { columns := ["name"], rows := [⟨[("name", .null)], by simp⟩, ⟨[("name", .null)], by simp⟩] }
    (({ interpreter := fun d text => .ok (d.select (d.rows.drop 1), text) } : Store).keep upload).1

theorem fresh_sample : Fresh {} sample :=
  ⟨rfl, .keep (.new _) _, rfl⟩

/-! ### Runs -/

/-- Whether a series of acts keeps to a policy. -/
def Keeps (policy : Dialogue → Act → Prop) : Dialogue → List Act → Prop
  | _, [] => True
  | d, a :: acts => policy d a ∧ Keeps policy (d.after a) acts

instance Keeps.decidable {policy : Dialogue → Act → Prop} [∀ d a, Decidable (policy d a)] :
    (d : Dialogue) → (acts : List Act) → Decidable (d.Keeps policy acts)
  | _, [] => .isTrue trivial
  | d, a :: acts =>
    have : Decidable ((d.after a).Keeps policy acts) := Keeps.decidable (d.after a) acts
    inferInstanceAs (Decidable (policy d a ∧ (d.after a).Keeps policy acts))

variable {d : Dialogue} {acts : List Act}

/-- **Runs.** What every act that a policy accepts preserves holds after every run that keeps to
it. -/
theorem Keeps.induction {policy : Dialogue → Act → Prop} {motive : Dialogue → Prop}
    (hstep : ∀ d a, motive d → policy d a → motive (d.after a)) (hd : motive d)
    (h : d.Keeps policy acts) : motive (d.afterAll acts) := by
  induction acts generalizing d with
  | nil => exact hd
  | cons a acts ih => exact ih (hstep d a hd h.1) h.2

/-! ### What an act does -/

/-- What an act does to a dialogue. The exchange that the act is about stands between others. -/
inductive Moved (d : Dialogue) : Act → Dialogue → Prop where
  | idle {a : Act} : Moved d a d
  | called {c : Call} : Moved d (.call c) (d.turned d.exchanges (c.begin d.session))
  | served {es₁ es₂ : List Exchange} {pending : Pending} {request : Request}
    (h : d.exchanges = es₁ ++ { pending, request } :: es₂) :
    Moved d (.serve es₁.length)
      { d with
        store := (d.store.respond request).1
        exchanges :=
          es₁ ++ { pending, request, reply := some (d.store.respond request).2 } :: es₂ }
  | delivered {es₁ es₂ : List Exchange} {pending : Pending} {request : Request} {reply : Reply}
    (h : d.exchanges = es₁ ++ { pending, request, reply := some reply } :: es₂) :
    Moved d (.deliver es₁.length)
      (d.turned (es₁ ++ es₂) (.ofStep (d.session.resume pending reply)))
  | cancelled {es₁ es₂ : List Exchange} {e : Exchange} (h : d.exchanges = es₁ ++ e :: es₂) :
    Moved d (.cancel es₁.length)
      { d with session := d.session.cancel e.pending, exchanges := es₁ ++ es₂ }
  | planted {operation : Operation} {fault : ServiceFault} :
    Moved d (.plant operation fault) { d with store := d.store.plant operation fault }

/-- The exchange in a place stands between others. -/
theorem exists_append_of_getElem? {es : List Exchange} {i : Nat} {e : Exchange}
    (h : es[i]? = some e) :
    ∃ es₁ es₂, es = es₁ ++ e :: es₂ ∧ i = es₁.length ∧ es.eraseIdx i = es₁ ++ es₂ ∧
      ∀ e', es.set i e' = es₁ ++ e' :: es₂ := by
  obtain ⟨hi, rfl⟩ := List.getElem?_eq_some_iff.1 h
  refine ⟨es.take i, es.drop (i + 1), by simp, by simp [Nat.le_of_lt hi],
    List.eraseIdx_eq_take_drop_succ _ _, fun e' => ?_⟩
  rw [List.set_eq_take_append_cons_drop, if_pos hi]

theorem moved (d : Dialogue) (a : Act) : Moved d a (d.after a) := by
  -- the other acts are about a call of the list, and nothing happens where there is none
  cases a with
  | call c => exact .called
  | serve i =>
    simp only [after]
    split
    · next hi =>
      obtain ⟨es₁, es₂, h, rfl, -, hset⟩ := exists_append_of_getElem? hi
      rw [hset]
      exact .served h
    · exact .idle
  | deliver i =>
    simp only [after]
    split
    · next hi =>
      obtain ⟨es₁, es₂, h, rfl, herase, -⟩ := exists_append_of_getElem? hi
      rw [herase]
      exact .delivered h
    · exact .idle
  | cancel i =>
    simp only [after]
    split
    · next hi =>
      obtain ⟨es₁, es₂, h, rfl, herase, -⟩ := exists_append_of_getElem? hi
      rw [herase]
      exact .cancelled h
    · exact .idle
  | plant operation fault => exact .planted

/-! ### The calls that wait -/

/-- The session and the calls that wait, without the store. -/
def system (d : Dialogue) : System where
  session := d.session
  waiting := d.exchanges.map Exchange.pending

theorem system_turned (others : List Exchange) (turn : Turn) :
    (d.turned others turn).system = .after (others.map Exchange.pending) turn := by
  unfold turned system System.after Turn.joining
  cases turn.next <;> rfl

theorem system_eq_of_exchanges_eq {es₁ es₂ : List Exchange} {e : Exchange}
    (h : d.exchanges = es₁ ++ e :: es₂) :
    d.system = ⟨d.session, es₁.map Exchange.pending ++ e.pending :: es₂.map Exchange.pending⟩ := by
  rw [system, h, List.map_append, List.map_cons]

theorem getElem?_of_exchanges_eq {es₁ es₂ : List Exchange} {e : Exchange}
    (h : d.exchanges = es₁ ++ e :: es₂) : d.exchanges[es₁.length]? = some e := by
  simp [h]

/-- What is known of sessions whose calls get any replies holds of those that a store answers. -/
theorem reachable_after {settings : Settings} (hd : Session.Reachable settings d.system)
    (a : Act) : Session.Reachable settings (d.after a).system := by
  have hmoved := d.moved a
  generalize d.after a = d' at hmoved ⊢
  cases hmoved with
  | idle => exact hd
  | called =>
    rw [system_turned]
    exact hd.step (.call _)
  -- a request reaches the store only, and the session does not know of it
  | served h =>
    rw [system_eq_of_exchanges_eq h] at hd
    rw [system_eq_of_exchanges_eq rfl]
    exact hd
  | delivered h =>
    rw [system_eq_of_exchanges_eq h] at hd
    rw [system_turned, List.map_append]
    exact hd.step (.reply _)
  | cancelled h =>
    rw [system_eq_of_exchanges_eq h] at hd
    rw [system, List.map_append]
    exact hd.step .cancel
  | planted => exact hd

/-- The gate for filters is shut exactly while one of the calls that wait has it shut. -/
theorem countP_holdsGate {settings : Settings} (hd : Session.Reachable settings d.system) :
    d.exchanges.countP (fun e => e.pending.holdsGate) = d.session.filtering.toNat := by
  have hguarded := guarded_of_reachable hd
  rw [system, List.countP_map] at hguarded
  exact hguarded

theorem countP_holdsGate_le_one {settings : Settings} (hd : Session.Reachable settings d.system) :
    d.exchanges.countP (fun e => e.pending.holdsGate) ≤ 1 := by
  rw [countP_holdsGate hd]
  exact Bool.toNat_le _

/-- Where one call has it shut, no other one does. -/
theorem holdsGate_eq_false {es₁ es₂ : List Exchange} {e : Exchange}
    (hone : (es₁ ++ e :: es₂).countP (fun e => e.pending.holdsGate) ≤ 1)
    (he : e.pending.holdsGate = true) : ∀ e' ∈ es₁ ++ es₂, e'.pending.holdsGate = false := by
  have hnone : (es₁ ++ es₂).countP (fun e => e.pending.holdsGate) = 0 := by
    rw [List.countP_append, List.countP_cons, if_pos he] at hone
    rw [List.countP_append]
    omega
  exact fun e' he' => Bool.eq_false_iff.2 (List.countP_eq_zero.1 hnone e' he')

theorem Fresh.reachable_afterAll {settings : Settings} (hd : d.Fresh settings) (acts : List Act) :
    Session.Reachable settings (d.afterAll acts).system := by
  have hstart : Session.Reachable settings d.system := by
    rw [system, hd.exchanges_eq]
    exact .start hd.start
  clear hd
  induction acts generalizing d with
  | nil => exact hstart
  | cons a acts ih => exact ih (reachable_after hstart a)

end Dialogue

end Tabula.Session
