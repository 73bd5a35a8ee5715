import Tabula.Proofs.Session.Gate
import Tabula.Proofs.Session.Holdings
import Tabula.Proofs.Session.Numbering
import Tabula.Session.Run

/-!
# A file that is shared

Another client may send its requests to the same store, between any two acts of a session. A filter
learns the number of its result from a listing that it asks for afterwards: it takes the number of
the version that is current by then. So the number is right if the other client adds no version to
the file between the two requests, and what that client does before, behind or beside them does no
harm (`recorded_of_undisturbed`). Otherwise the filter records its result under the number of a
version of the other client, which is what a later deletion takes away
(`holdings_of_disturbed`).

Between the two requests the result is the current version of the file. Once the listing has been
made, it is the version of the number that the listing tells. `Stage` says this of each call that
waits, and `Attuned` of the session as a whole.
-/

namespace Tabula.Session

/-- Whether an exchange is of a filter whose result the file has and whose number is not told
yet. -/
def Exchange.unnumbered : Exchange → Bool
  | ⟨.filterResult _, _, some (.ok (.filtered _))⟩ | ⟨.filterNumber _, _, none⟩ => true
  | _ => false

theorem Exchange.unnumbered_eq_false {e : Exchange} (he : e.pending.holdsGate = false) :
    e.unnumbered = false := by
  unfold unnumbered
  split
  · exact absurd he (by simp [Pending.holdsGate])
  · exact absurd he (by simp [Pending.holdsGate])
  · rfl

namespace Dialogue

/-- What may happen next where the store has another client. -/
inductive SharedAct where
  | own (a : Act)
  /-- The store carries out a request of the other client. -/
  | foreign (request : Request)

/-- The dialogue after such an act. -/
def afterShared (d : Dialogue) : SharedAct → Dialogue
  | .own a => d.after a
  | .foreign request => { d with store := (d.store.respond request).1 }

/-- The dialogue after a series of such acts. -/
def afterAllShared (d : Dialogue) (acts : List SharedAct) : Dialogue :=
  acts.foldl afterShared d

/-- The policy of a session that filters a file, and of another client which does so as well, but
not between the two requests by which the session makes a version and learns its number. Versions of
the file are not deleted. -/
def Undisturbed (d : Dialogue) (id : FileNumber) : SharedAct → Prop
  | .own (.call (.showTable _)) | .own (.call (.connect _)) | .own (.call (.remove _)) => False
  | .own (.plant ..) => False
  | .own _ => True
  | .foreign (.filter file _) => file = id → d.exchanges.any Exchange.unnumbered = false
  | .foreign (.remove file _) => file ≠ id
  | .foreign _ => True

/-- Whether a series of acts keeps to this policy. -/
def KeepsUndisturbed (id : FileNumber) : Dialogue → List SharedAct → Prop
  | _, [] => True
  | d, a :: acts => d.Undisturbed id a ∧ KeepsUndisturbed id (d.afterShared a) acts

instance (d : Dialogue) (id : FileNumber) (a : SharedAct) : Decidable (d.Undisturbed id a) := by
  unfold Undisturbed
  split <;> infer_instance

instance KeepsUndisturbed.decidable (id : FileNumber) :
    (d : Dialogue) → (acts : List SharedAct) → Decidable (d.KeepsUndisturbed id acts)
  | _, [] => .isTrue trivial
  | d, a :: acts =>
    have : Decidable ((d.afterShared a).KeepsUndisturbed id acts) :=
      KeepsUndisturbed.decidable id (d.afterShared a) acts
    inferInstanceAs
      (Decidable (d.Undisturbed id a ∧ (d.afterShared a).KeepsUndisturbed id acts))

/-- Whether an act carries out a filter of this session, whose result the file gets under this
number. -/
def Makes (d : Dialogue) (id : FileNumber) : SharedAct → VersionNumber → Prop
  | .own (.serve i), number =>
    ∃ pending query f result, d.exchanges[i]? = some { pending, request := .filter id query } ∧
      d.store.file? id = some f ∧ f.next = number ∧
        (d.store.respond (.filter id query)).2 = .ok (.filtered result)
  | _, _ => False

/-- Whether a filter of this session made the version of this number in a series of acts. -/
def Made (id : FileNumber) : Dialogue → List SharedAct → VersionNumber → Prop
  | _, [], _ => False
  | d, a :: acts, number => d.Makes id a number ∨ Made id (d.afterShared a) acts number

end Dialogue

/-! ### Calls that wait -/

/-- A result that the file has under a number, and the history has not. The version is one that this
session made. -/
structure Unrecorded (made : VersionNumber → Prop) (highest : VersionNumber) (f : VersionedFile)
    (number : VersionNumber) (result : FilterResult) : Prop where
  made : made number
  above : highest < number
  mem : (number, result.rows, result.description) ∈ f.holdings

/-- A call that waits while the file is shared. -/
inductive Stage (made : VersionNumber → Prop) (id : FileNumber) (highest : VersionNumber)
    (f : VersionedFile) : Exchange → Prop where
  | filtering {query : String} :
    Stage made id highest f ⟨.filterResult id, .filter id query, none⟩
  | filterFailed {query : String} {fault : ServiceFault} :
    Stage made id highest f ⟨.filterResult id, .filter id query, some (.error fault)⟩
  | filtered {query : String} {result : FilterResult}
    (hresult : Unrecorded made highest f f.current result) :
    Stage made id highest f ⟨.filterResult id, .filter id query, some (.ok (.filtered result))⟩
  | asking {result : FilterResult} (hresult : Unrecorded made highest f f.current result) :
    Stage made id highest f ⟨.filterNumber result, .listing id, none⟩
  | numbered {result : FilterResult} {number : VersionNumber} {reply : Reply}
    (hresult : Unrecorded made highest f number result)
    (hreply : reply.listing?.bind assignedNumber? = some number) :
    Stage made id highest f ⟨.filterNumber result, .listing id, some reply⟩
  | page {file : FileNumber} {index size : Nat} {ticket : Ticket} {reply : Option Reply} :
    Stage made id highest f ⟨.page ticket, .page file index size, reply⟩

variable {made : VersionNumber → Prop} {known : List VersionNumber} {id : FileNumber}
  {highest highest' number : VersionNumber} {f f' : VersionedFile} {s : Session} {st : Store}
  {es es' es₁ es₂ : List Exchange} {e e' : Exchange} {turn : Turn} {result : FilterResult}

theorem Unrecorded.push (hr : Unrecorded made highest f number result) (dataset : Dataset)
    (description : String) :
    Unrecorded made highest (f.push dataset description) number result :=
  ⟨hr.made, hr.above, by
    rw [VersionedFile.holdings_push]
    exact List.mem_append_left _ hr.mem⟩

/-- A new version of the file leaves all calls where they are but those which are about to learn the
number of another one. -/
theorem Stage.push (he : Stage made id highest f e) (hnumbered : e.unnumbered = false)
    (dataset : Dataset) (description : String) :
    Stage made id highest (f.push dataset description) e := by
  cases he with
  | filtering => exact .filtering
  | filterFailed => exact .filterFailed
  | filtered => exact absurd hnumbered (by simp [Exchange.unnumbered])
  | asking => exact absurd hnumbered (by simp [Exchange.unnumbered])
  | numbered hresult hreply => exact .numbered (hresult.push dataset description) hreply
  | page => exact .page

/-- A call that is not a filter waits for a page. -/
theorem Stage.of_holdsGate_eq_false (he : Stage made id highest f e)
    (hopen : e.pending.holdsGate = false) : Stage made id highest' f' e := by
  cases he with
  | page => exact .page
  | _ => exact absurd hopen (by simp [Pending.holdsGate])

/-! ### The session -/

/-- A session that shows a file which others add versions to. Its history has versions of the file,
those that were known from the start and those that it made. -/
structure Attuned (made : VersionNumber → Prop) (known : List VersionNumber) (id : FileNumber)
    (f : VersionedFile) (s : Session) (es : List Exchange) : Prop where
  file_eq : s.table.file = some id
  follows : s.table.history.Follows f
  subset : s.table.history.holdings ⊆ f.holdings
  origin : ∀ n ∈ s.table.history.numbers, n ∈ known ∨ made n
  stage : ∀ e ∈ es, Stage made id s.table.history.highest f e

theorem Attuned.update {s' : Session} (ha : Attuned made known id f s es)
    (hfile : s'.table.file = s.table.file) (hhistory : s'.table.history = s.table.history)
    (hes : ∀ e ∈ es', Stage made id s.table.history.highest f e) :
    Attuned made known id f s' es' := by
  refine ⟨hfile.trans ha.file_eq, ?_, ?_, ?_, ?_⟩
  · rw [hhistory]
    exact ha.follows
  · rw [hhistory]
    exact ha.subset
  · rw [hhistory]
    exact ha.origin
  · rw [hhistory]
    exact hes

/-- The file may get a new version, of this session or of another client. -/
theorem Attuned.push (ha : Attuned made known id f s es) (dataset : Dataset) (description : String)
    (hes : ∀ e ∈ es', Stage made id s.table.history.highest (f.push dataset description) e) :
    Attuned made known id (f.push dataset description) s es' where
  file_eq := ha.file_eq
  follows := ha.follows.push dataset description
  subset := by
    rw [VersionedFile.holdings_push]
    exact List.Subset.trans ha.subset (List.subset_append_left _ _)
  origin := ha.origin
  stage := hes

/-- Another version of the history may be put on display. -/
theorem Attuned.moved (ha : Attuned made known id f s es) {h' : History}
    (hok : s.table.history.older? = some h' ∨ s.table.history.newer? = some h')
    (hends : turn.Ends s.table.file h') : Attuned made known id f turn.session es := by
  have hfollows : h'.Follows f := by
    rcases hok with hok | hok
    · exact ha.follows.older? hok
    · exact ha.follows.newer? hok
  obtain ⟨hversions, hhighest⟩ :
      h'.versions = s.table.history.versions ∧ h'.highest = s.table.history.highest := by
    obtain ⟨position, rfl⟩ := History.exists_position_of_moved hok
    exact ⟨rfl, rfl⟩
  refine ⟨hends.file_eq.trans ha.file_eq, ?_, ?_, ?_, ?_⟩
  · rw [hends.history_eq]
    exact hfollows
  · rw [hends.history_eq, History.holdings, hversions]
    exact ha.subset
  · rw [hends.history_eq, History.numbers, hversions]
    exact ha.origin
  · rw [hends.history_eq, hhighest]
    exact ha.stage

/-! ### First turns -/

theorem Attuned.begin (ha : Attuned made known id f s es) {c : Call}
    (hc : c.IsView ∨ c = .undo ∨ c = .redo ∨ ∃ query, c = .filter query) :
    Attuned made known id f (c.begin s).session ((c.begin s).joining es) := by
  have hbegun := begun (s := s) c
  generalize c.begin s = turn at hbegun ⊢
  -- a view may ask for a page and a filter asks for its result; `undo` and `redo` move in the
  -- history
  cases hbegun with
  | stays => exact ha
  | views hview hviews =>
    rcases hviews.next with ⟨result, hnext⟩ | ⟨file, index, size, t, hnext⟩
    · rw [Turn.joining, hnext]
      exact ha.update hviews.file_eq hviews.history_eq ha.stage
    · rw [Turn.joining, hnext]
      exact ha.update hviews.file_eq hviews.history_eq (List.forall_mem_cons.2 ⟨.page, ha.stage⟩)
  | older hok hends =>
    rw [hends.joining_eq]
    exact ha.moved (.inl hok) hends
  | newer hok hends =>
    rw [hends.joining_eq]
    exact ha.moved (.inr hok) hends
  | filters hfile hopen =>
    obtain rfl := Option.some.inj (hfile.symm.trans ha.file_eq)
    exact ha.update rfl rfl (List.forall_mem_cons.2 ⟨.filtering, ha.stage⟩)
  | shows | connects | removes | removesHere => exact absurd hc (by simp [Call.IsView])

/-! ### Requests -/

/-- **Requests of the session.** -/
theorem Attuned.serve {pending : Pending} {request : Request}
    (ha : Attuned made known id f s (es₁ ++ ⟨pending, request, none⟩ :: es₂)) (hst : st.Sound)
    (hquiet : ∀ operation, st.planted operation = none) (hf : st.file? id = some f)
    (hone : (es₁ ++ ⟨pending, request, none⟩ :: es₂).countP (fun e => e.pending.holdsGate) ≤ 1)
    (hmade : ∀ query result, request = .filter id query →
      (st.respond request).2 = .ok (.filtered result) → made f.next) :
    ∃ f', (st.respond request).1.file? id = some f' ∧
      Attuned made known id f' s
        (es₁ ++ ⟨pending, request, some (st.respond request).2⟩ :: es₂) := by
  obtain ⟨hstage, hothers⟩ := forall_mem_append_cons.1 ha.stage
  -- only the request of a filter changes the file, and it makes the version that waits to be
  -- numbered
  cases hstage with
  | @filtering query =>
    have hresponded := st.responded (.filter id query)
    generalize st.respond (.filter id query) = answered at hresponded hmade ⊢
    cases hresponded with
    | failed =>
      exact ⟨f, hf, ha.update rfl rfl (forall_mem_append_cons.2 ⟨.filterFailed, hothers⟩)⟩
    | @filtered _ f₀ _ description dataset hf₀ hrun =>
      obtain rfl := Option.some.inj (hf₀.symm.trans hf)
      refine ⟨_, Store.file?_setFile_self (s := (st.admitted .filter).1) hf,
        ha.push dataset description (forall_mem_append_cons.2 ⟨.filtered ⟨?_, ?_, ?_⟩, ?_⟩)⟩
      · exact hmade _ _ rfl rfl
      · exact ha.follows.highest_lt
      · rw [VersionedFile.holdings_push]
        exact List.mem_append_cons_self
      · -- the gate lets one filter through, so no other result waits for its number
        intro e he
        have hopen := Dialogue.holdsGate_eq_false hone rfl e he
        exact (hothers e he).push (Exchange.unnumbered_eq_false hopen) dataset description
  | @asking result hresult =>
    have hne : f.current ≠ uploadNumber := by
      refine Nat.ne_of_gt (Nat.lt_of_le_of_lt ?_ hresult.above)
      exact ha.follows.uploadNumber_le_highest
    -- the listing marks the version that the filter made, for no version came after it
    rw [file?_respond_listing, Store.respond_listing hf (hquiet _)]
    refine ⟨f, hf, ha.update rfl rfl (forall_mem_append_cons.2 ⟨.numbered hresult ?_, hothers⟩)⟩
    exact assignedNumber?_listing (hst id f hf) hne
  | @page file index size ticket =>
    have hresponded := st.responded (.page file index size)
    generalize st.respond (.page file index size) = answered at hresponded ⊢
    have hstages (reply : Reply) : ∀ e ∈ es₁ ++ ⟨.page ticket, .page file index size, some reply⟩ ::
        es₂, Stage made id s.table.history.highest f e :=
      forall_mem_append_cons.2 ⟨.page, hothers⟩
    cases hresponded with
    | failed => exact ⟨f, hf, ha.update rfl rfl (hstages _)⟩
    | page => exact ⟨f, hf, ha.update rfl rfl (hstages _)⟩

/-- **Requests of the other client.** -/
theorem Attuned.foreign {request : Request} (ha : Attuned made known id f s es)
    (hf : st.file? id = some f)
    (hfilter : ∀ query, request = .filter id query → es.any Exchange.unnumbered = false)
    (hremove : ∀ number, request ≠ .remove id number) :
    ∃ f', (st.respond request).1.file? id = some f' ∧ Attuned made known id f' s es := by
  have hresponded := st.responded request
  generalize st.respond request = answered at hresponded ⊢
  cases hresponded with
  | @removed file f₀ f' number hf₀ herase =>
    -- another file loses a version
    have hne : id ≠ file := by
      rintro rfl
      exact hremove number rfl
    refine ⟨f, ?_, ha⟩
    exact (Store.file?_setFile_of_ne (s := (st.admitted .remove).1) hf₀ hne).trans hf
  | @filtered file f₀ query description dataset hf₀ hrun =>
    by_cases hid : id = file
    · subst hid
      obtain rfl := Option.some.inj (hf₀.symm.trans hf)
      have hnumbered := List.any_eq_false.1 (hfilter query rfl)
      refine ⟨_, Store.file?_setFile_self (s := (st.admitted .filter).1) hf,
        ha.push dataset description fun e he => ?_⟩
      exact (ha.stage e he).push (Bool.eq_false_iff.2 (hnumbered e he)) dataset description
    · refine ⟨f, ?_, ha⟩
      exact (Store.file?_setFile_of_ne (s := (st.admitted .filter).1) hf₀ hid).trans hf
  | failed => exact ⟨f, hf, ha⟩
  | rows => exact ⟨f, hf, ha⟩
  | upload => exact ⟨f, hf, ha⟩
  | listing => exact ⟨f, hf, ha⟩
  | page => exact ⟨f, hf, ha⟩

/-! ### Later turns -/

/-- A filter that learns its number records its result under it, and returns it. -/
theorem recorded_of_numbered {reply : Reply} (hfollows : s.table.history.Follows f)
    (hresult : Unrecorded made s.table.history.highest f number result)
    (hreply : reply.listing?.bind assignedNumber? = some number) :
    ∃ h' dataset events, dataset.rows = result.rows ∧
      s.table.history.appendAs number dataset result.description = .ok h' ∧
      Turn.ofStep (s.resume (.filterNumber result) reply) =
        ⟨s.openGate.display { s.table with history := h' }, events,
          .returned (.ok (.outcome (.recorded number)))⟩ := by
  obtain ⟨h', number', hok⟩ := exists_appended hfollows.toSound (some number)
    (s.resultDataset result.rows) result.description
  obtain rfl := number_eq_of_appended hfollows.toSound hresult.above hok
  obtain ⟨events, hturn⟩ := exists_ofStep_record hok
  refine ⟨h', _, events, rows_resultDataset s result.rows, (of_appended_eq_ok hok).1, ?_⟩
  rw [resume_filterNumber, hreply]
  exact hturn

/-- A version of the file that is put behind the one on display. -/
theorem Attuned.record {h' : History} {dataset : Dataset}
    (ha : Attuned made known id f s (es₁ ++ e :: es₂)) (hf : f.Sound)
    (hresult : Unrecorded made s.table.history.highest f number result)
    (hopen : ∀ e ∈ es₁ ++ es₂, e.pending.holdsGate = false) (hrows : dataset.rows = result.rows)
    (hok : s.table.history.appendAs number dataset result.description = .ok h')
    (hends : turn.Ends s.table.file h') :
    Attuned made known id f turn.session (es₁ ++ es₂) := by
  -- the new version takes the place of those that could be redone, so that the rest is as before
  have hholdings := History.holdings_appendAs hok
  rw [hrows] at hholdings
  have hnumber : number ∈ f.numbers := by
    rw [← VersionedFile.map_fst_holdings]
    exact List.mem_map_of_mem hresult.mem
  obtain ⟨-, hothers⟩ := forall_mem_append_cons.1 ha.stage
  refine ⟨hends.file_eq.trans ha.file_eq, ?_, ?_, ?_, fun e he => ?_⟩
  · rw [hends.history_eq]
    exact ha.follows.appendAs (hf.lt_next hnumber) hok
  · rw [hends.history_eq, hholdings]
    intro c hc
    rcases List.mem_append.1 hc with hc | hc
    · exact ha.subset (List.mem_of_mem_take hc)
    · obtain rfl := List.mem_singleton.1 hc
      exact hresult.mem
  · rw [hends.history_eq, ← History.map_fst_holdings, hholdings, List.map_append, List.map_take,
      History.map_fst_holdings]
    intro n hn
    rcases List.mem_append.1 hn with hn | hn
    · exact ha.origin n (List.mem_of_mem_take hn)
    · obtain rfl := List.mem_singleton.1 hn
      exact .inr hresult.made
  · exact (hothers e he).of_holdsGate_eq_false (hopen e he)

/-- **Later turns.** -/
theorem Attuned.resume {pending : Pending} {request : Request} {reply : Reply}
    (ha : Attuned made known id f s (es₁ ++ ⟨pending, request, some reply⟩ :: es₂)) (hf : f.Sound)
    (hone : (es₁ ++ ⟨pending, request, some reply⟩ :: es₂).countP
      (fun e => e.pending.holdsGate) ≤ 1) :
    Attuned made known id f (s.resume pending reply).session
      ((Turn.ofStep (s.resume pending reply)).joining (es₁ ++ es₂)) := by
  have hresumed := resumed (s := s) pending reply
  obtain ⟨hstage, hothers⟩ := forall_mem_append_cons.1 ha.stage
  show Attuned made known id f (Turn.ofStep (s.resume pending reply)).session _
  -- a filter ends when it fails and when its number is known; in between it asks for the listing
  cases hstage with
  | filterFailed =>
    generalize Turn.ofStep (s.resume _ _) = turn at hresumed ⊢
    cases hresumed with
    | filterFails hno hends =>
      rw [hends.joining_eq]
      exact ha.update hends.file_eq hends.history_eq hothers
  | filtered hresult =>
    generalize Turn.ofStep (s.resume _ _) = turn at hresumed ⊢
    cases hresumed with
    | filterFails hno => exact absurd rfl (hno _)
    | filtered => exact ha.update rfl rfl (List.forall_mem_cons.2 ⟨.asking hresult, hothers⟩)
  | @numbered result number _ hresult hreply =>
    obtain ⟨h', dataset, events, hrows, hok, hturn⟩ :=
      recorded_of_numbered ha.follows hresult hreply
    have hends : Turn.Ends ⟨s.openGate.display { s.table with history := h' }, events,
        .returned (.ok (.outcome (.recorded number)))⟩ s.table.file h' :=
      ends_display (t := { s.table with history := h' })
    rw [hturn, hends.joining_eq]
    exact ha.record hf hresult (Dialogue.holdsGate_eq_false hone rfl) hrows hok hends
  | page =>
    generalize Turn.ofStep (s.resume _ _) = turn at hresumed ⊢
    cases hresumed with
    | page hends =>
      rw [hends.joining_eq]
      exact ha.update hends.file_eq hends.history_eq hothers

/-! ### What is known of versions -/

/-- A version of the history can be deleted from the file, and nothing else goes with it. -/
theorem Attuned.held (ha : Attuned made known id f s es) (hf : f.Sound) {v : Version}
    (hv : v ∈ s.table.history.versions) :
    v.holding ∈ f.holdings ∧ (v.number ∈ known ∨ made v.number) ∧
      (v.number ≠ uploadNumber → ∃ f', f.erase v.number = .ok f' ∧
        f'.holdings = f.holdings.filter (·.1 != v.number)) := by
  have hmem : v.holding ∈ f.holdings := ha.subset (List.mem_map_of_mem hv)
  refine ⟨hmem, ha.origin _ (List.mem_map_of_mem hv), fun hne => ?_⟩
  have hnumber : v.number ∈ f.numbers := by
    rw [← VersionedFile.map_fst_holdings]
    exact List.mem_map_of_mem (f := Prod.fst) hmem
  obtain ⟨f', herase⟩ := hf.exists_erase hne hnumber
  exact ⟨f', herase, hf.holdings_erase herase⟩

/-- A filter that has learnt its number returns it, with its result recorded under it. -/
theorem Attuned.returns (ha : Attuned made known id f s es) {request : Request} {reply : Reply}
    (he : ⟨.filterNumber result, request, some reply⟩ ∈ es) :
    ∃ v, made v.number ∧ v.content = (result.rows, result.description) ∧ v.holding ∈ f.holdings ∧
      s.table.history.Extends
        (s.resume (.filterNumber result) reply).session.table.history v ∧
      (Turn.ofStep (s.resume (.filterNumber result) reply)).next =
        .returned (.ok (.outcome (.recorded v.number))) := by
  cases ha.stage _ he with
  | @numbered _ number _ hresult hreply =>
    obtain ⟨h', dataset, events, hrows, hok, hturn⟩ :=
      recorded_of_numbered ha.follows hresult hreply
    have hsession : (s.resume (.filterNumber result) reply).session =
        s.openGate.display { s.table with history := h' } := congrArg Turn.session hturn
    have hextends := History.extends_of_appendAs hok
    have hhistory : (s.resume (.filterNumber result) reply).session.table.history = h' := by
      rw [hsession]
      exact Table.history_display _ { s.table with history := h' }
    refine ⟨{ number, dataset, description := result.description, isCurrent := true },
      hresult.made, ?_, ?_, hhistory ▸ hextends, congrArg Turn.next hturn⟩
    · rw [Version.content, hrows]
    · rw [Version.holding, Version.content, hrows]
      exact hresult.mem

/-! ### Runs -/

/-- A dialogue about a file that is open and shared, whose store fails no request. -/
structure Shared (settings : Settings) (made : VersionNumber → Prop) (known : List VersionNumber)
    (id : FileNumber) (d : Dialogue) : Prop where
  reachable : Reachable settings d.system
  sound : d.store.Sound
  quiet : ∀ operation, d.store.planted operation = none
  attuned : ∃ f, d.store.file? id = some f ∧ Attuned made known id f d.session d.exchanges

variable {settings : Settings} {d : Dialogue}

/-- **Acts of the session.** -/
theorem Shared.after (hd : Shared settings made known id d) {a : Dialogue.Act}
    (ha : d.Undisturbed id (.own a)) (hmade : ∀ n, d.Makes id (.own a) n → made n) :
    Shared settings made known id (d.after a) := by
  have hreachable := Dialogue.reachable_after hd.reachable a
  have hone := Dialogue.countP_holdsGate_le_one hd.reachable
  obtain ⟨f, hf, hattuned⟩ := hd.attuned
  have hmoved := d.moved a
  generalize d.after a = d' at hmoved hreachable ⊢
  cases hmoved with
  | idle => exact hd
  | @called c =>
    refine ⟨hreachable, hd.sound, hd.quiet, f, hf, hattuned.begin ?_⟩
    cases c <;> simp_all [Dialogue.Undisturbed, Call.IsView]
  | @served es₁ es₂ pending request h =>
    obtain ⟨f', hf', hattuned'⟩ := Attuned.serve (h ▸ hattuned) hd.sound hd.quiet hf
      (h ▸ hone) fun query result hrequest hreply => hmade f.next <| by
        subst hrequest
        exact ⟨pending, query, f, result, Dialogue.getElem?_of_exchanges_eq h, hf, rfl, hreply⟩
    exact ⟨hreachable, hd.sound.respond _, Store.planted_respond hd.quiet _, f', hf', hattuned'⟩
  | delivered h =>
    exact ⟨hreachable, hd.sound, hd.quiet, f, hf,
      Attuned.resume (h ▸ hattuned) (hd.sound id f hf) (h ▸ hone)⟩
  | @cancelled es₁ es₂ e h =>
    -- the version that a filter made stays in the file, and is not recorded
    refine ⟨hreachable, hd.sound, hd.quiet, f, hf, hattuned.update ?_ ?_ ?_⟩
    · rw [table_cancel]
    · rw [table_cancel]
    · exact (forall_mem_append_cons.1 (h ▸ hattuned.stage)).2
  | planted => exact False.elim ha

/-- **Acts of both clients.** -/
theorem Shared.afterShared (hd : Shared settings made known id d) {a : Dialogue.SharedAct}
    (ha : d.Undisturbed id a) (hmade : ∀ n, d.Makes id a n → made n) :
    Shared settings made known id (d.afterShared a) := by
  cases a with
  | own a => exact hd.after ha hmade
  | foreign request =>
    obtain ⟨f, hf, hattuned⟩ := hd.attuned
    obtain ⟨f', hf', hattuned'⟩ : ∃ f', (d.store.respond request).1.file? id = some f' ∧
        Attuned made known id f' d.session d.exchanges := by
      refine hattuned.foreign hf (fun query hrequest => ?_) fun number hrequest => ?_
      · subst hrequest
        exact ha rfl
      · subst hrequest
        exact absurd rfl ha
    exact ⟨hd.reachable, hd.sound.respond request, Store.planted_respond hd.quiet request, f', hf',
      hattuned'⟩

theorem Shared.afterAllShared {acts : List Dialogue.SharedAct}
    (hd : Shared settings made known id d) (hkeeps : d.KeepsUndisturbed id acts)
    (hmade : ∀ n, d.Made id acts n → made n) :
    Shared settings made known id (d.afterAllShared acts) := by
  induction acts generalizing d with
  | nil => exact hd
  | cons a acts ih =>
    have hafter := hd.afterShared hkeeps.1 fun n hn => hmade n (.inl hn)
    exact ih hafter hkeeps.2 fun n hn => hmade n (.inr hn)

/-- **Numbers in a shared file.** A session opens a file while it is alone, and then filters it
while another client filters it too. If no filter of that client comes between the two requests by
which the session makes a version and learns its number, then every version of the history is in the
file under its number, with its rows and its description, and was known from the start or made by
the session; and a deletion of that number takes this version from the file and no other. A filter
that has learnt its number records its result under it and returns it. -/
theorem recorded_of_undisturbed {opening : List Dialogue.Act} {acts : List Dialogue.SharedAct}
    (hfresh : d.Fresh settings)
    (hopening : d.Keeps (Terms.numbered fun _ => true).Permits opening)
    (hopened : (d.afterAll opening).exchanges = [])
    (hfile : (d.afterAll opening).session.table.file = some id)
    (hquiet : ∀ operation, (d.afterAll opening).store.planted operation = none)
    (hkeeps : (d.afterAll opening).KeepsUndisturbed id acts) :
    let start := d.afterAll opening
    let last := start.afterAllShared acts
    ∃ f, last.store.file? id = some f ∧
      (∀ v ∈ last.session.table.history.versions, v.holding ∈ f.holdings ∧
        (v.number ∈ start.session.table.history.numbers ∨ start.Made id acts v.number) ∧
        (v.number ≠ uploadNumber → ∃ f', f.erase v.number = .ok f' ∧
          f'.holdings = f.holdings.filter (·.1 != v.number))) ∧
      ∀ result request reply, ⟨.filterNumber result, request, some reply⟩ ∈ last.exchanges →
        ∃ v, start.Made id acts v.number ∧ v.content = (result.rows, result.description) ∧
          v.holding ∈ f.holdings ∧
          last.session.table.history.Extends
            (last.session.resume (.filterNumber result) reply).session.table.history v ∧
          (Turn.ofStep (last.session.resume (.filterNumber result) reply)).next =
            .returned (.ok (.outcome (.recorded v.number))) := by
  intro start last
  have hstep := InStep.of_keeps (upheld_shares _ _) hfresh hopening
  obtain ⟨f₀, hf₀, -, hfollows, hshares⟩ := hstep.exists_file? (by simp [hopened]) hfile
  have hattuned : Attuned (start.Made id acts) start.session.table.history.numbers id f₀
      start.session start.exchanges := by
    refine ⟨hfile, hfollows, hshares.sublist.subset, fun n hn => .inl hn, ?_⟩
    rw [hopened]
    simp
  have hstart : Shared settings (start.Made id acts) start.session.table.history.numbers id start :=
    ⟨hfresh.reachable_afterAll opening, hstep.sound, hquiet, f₀, hf₀, hattuned⟩
  have hlast := hstart.afterAllShared hkeeps fun n hn => hn
  obtain ⟨f, hf, ha⟩ := hlast.attuned
  exact ⟨f, hf, fun v hv => ha.held (hlast.sound id f hf) hv,
    fun result request reply he => ha.returns he⟩

/-- Another client filters the file before the store has the filter of the session, and again when
the listing is made and has not yet arrived. -/
def undisturbedActs : List Dialogue.SharedAct :=
  [.own (.call (.filter "own")), .foreign (.filter 1 "before"), .own (.serve 0), .own (.deliver 0),
   .own (.serve 0), .foreign (.filter 1 "behind")]

theorem recorded_of_undisturbedActs :
    let start := Dialogue.sample.afterAll openingActs
    let last := start.afterAllShared undisturbedActs
    start.KeepsUndisturbed 1 undisturbedActs ∧ last.store.versionNumbers 1 = [1, 2, 3, 4] ∧
      ∃ reply, ∃ v : Version, start.Made 1 undisturbedActs v.number ∧ v.content = ([], "own") ∧
        last.session.table.history.Extends
          (last.session.resume (.filterNumber ⟨[], "own"⟩) reply).session.table.history v := by
  have hopening : Dialogue.sample.Keeps (Terms.numbered fun _ => true).Permits openingActs := by
    decide +kernel
  have hkeeps : (Dialogue.sample.afterAll openingActs).KeepsUndisturbed 1 undisturbedActs := by
    decide +kernel
  have hfile : (Dialogue.sample.afterAll openingActs).session.table.file = some 1 := by
    decide +kernel
  have hidle : (Dialogue.sample.afterAll openingActs).exchanges = [] := by decide +kernel
  obtain ⟨f, hf, -, hrecords⟩ := recorded_of_undisturbed Dialogue.fresh_sample hopening hidle
    hfile (fun operation => by cases operation <;> rfl) hkeeps
  -- the listing was made before the other client filtered again
  let row : Row := ⟨[("name", .null)], by simp⟩
  let reply : Reply := .ok (.listing [⟨[row, row], uploadDescription, false, 1⟩,
    ⟨[row], "before", false, 2⟩, ⟨[], "own", true, 3⟩])
  have he : ((Dialogue.sample.afterAll openingActs).afterAllShared undisturbedActs).exchanges =
      [⟨.filterNumber ⟨[], "own"⟩, .listing 1, some reply⟩] := by decide +kernel
  obtain ⟨v, hmade, hcontent, -, hextends, -⟩ :=
    hrecords ⟨[], "own"⟩ (.listing 1) reply (by rw [he]; exact List.mem_singleton_self _)
  exact ⟨hkeeps, by decide +kernel, reply, v, hmade, hcontent, hextends⟩

/-- Another client filters the file between the two requests of a filter. -/
def disturbedActs : List Dialogue.SharedAct :=
  [.own (.call (.filter "own")), .own (.serve 0), .own (.deliver 0), .foreign (.filter 1 "other"),
   .own (.serve 0)]

/-- The result is recorded under the number of a version of the other client, and a deletion of that
number takes away that version and leaves the result. -/
theorem holdings_of_disturbed :
    let row : Row := ⟨[("name", .null)], by simp⟩
    let d := (Dialogue.sample.afterAll openingActs).afterAllShared
      (disturbedActs ++ [.own (.deliver 0)])
    let ended := runToEnd d.store (d.session.remove 3)
    d.exchanges = [] ∧
      d.session.table.history.displayed?.map Version.holding = some (3, [row], "own") ∧
      (d.store.file? 1).map VersionedFile.holdings =
        some [(1, [row, row], uploadDescription), (2, [row], "own"), (3, [], "other")] ∧
      ended.result = .ok .removed ∧
      (ended.store.file? 1).map VersionedFile.holdings =
        some [(1, [row, row], uploadDescription), (2, [row], "own")] := by
  decide +kernel

end Tabula.Session
