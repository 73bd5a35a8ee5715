import Tabula.Proofs.Session.Solo

/-!
# One filter at a time

A filter waits for two replies and may end in many ways. `Traffic` keeps with every call that waits
which call it is, so that it can be said of filters what `System` says of calls that hold the gate:
one filter waits exactly while the gate is shut, and no two do (`countP_isFilter`).

What a filter may do with a reply is told by `FilterTurn`. Whichever reply comes, the filter goes on
to wait and changes nothing, or it fails and opens the gate, or it opens the gate and puts its
result behind the version that is on display at that moment (`History.Extends`).
-/

namespace Tabula

/-- A history with a new version behind the one on display, in the place of all that came after
that. The new version is on display, and it is marked as the current one. -/
structure History.Extends (h h' : History) (v : Version) : Prop where
  exists_newest : ∃ newest, h.displayed? = some newest ∧ newest.number < v.number
  versions_eq : h'.versions = unmarked (h.versions.take (h.position + 1)) ++ [v]
  displayed?_eq : h'.displayed? = some v
  current?_eq : h'.current? = some v

theorem History.extends_of_appendAs {h h' : History} {number : VersionNumber} {dataset : Dataset}
    {description : String} (hok : h.appendAs number dataset description = .ok h') :
    h.Extends h' { number, dataset, description, isCurrent := true } := by
  obtain ⟨newest, hd, hlt, rfl⟩ := appendAs_eq_ok_iff.1 hok
  obtain ⟨hp, -⟩ := List.getElem?_eq_some_iff.1 hd
  have hlen : (unmarked (h.versions.take (h.position + 1))).length = h.position + 1 := by
    rw [length_unmarked, List.length_take]
    omega
  -- none of the versions before it is marked
  have hnone : (unmarked (h.versions.take (h.position + 1))).find? Version.isCurrent = none := by
    rw [List.find?_eq_none]
    intro w hw
    obtain ⟨u, -, rfl⟩ := List.mem_map.1 hw
    simp
  refine ⟨⟨newest, hd, hlt⟩, rfl, ?_, ?_⟩
  · rw [displayed?, List.getElem?_append_right (by rw [hlen]), hlen, Nat.sub_self]
    rfl
  · rw [current?, List.find?_append, hnone]
    rfl

namespace Session

/-! ### Calls and what they are calls of -/

/-- A call that waits, and what it waits for. -/
structure Flight where
  call : Call
  pending : Pending

/-- A session and the calls that wait. -/
structure Traffic where
  session : Session
  flights : List Flight

namespace Traffic

/-- The traffic after a turn of a call, beside these other calls that wait. -/
def after (flights : List Flight) (call : Call) (turn : Turn) : Traffic where
  session := turn.session
  flights :=
    match turn.next with
    | .returned _ => flights
    | .waiting _ pending => { call, pending } :: flights

/-- The steps of a session and its calls. -/
inductive Step : Traffic → Traffic → Prop where
  | call {s : Session} {fs : List Flight} (c : Call) : Step ⟨s, fs⟩ (after fs c (c.begin s))
  | reply {s : Session} {fs₁ fs₂ : List Flight} {f : Flight} (reply : Reply) :
    Step ⟨s, fs₁ ++ f :: fs₂⟩ (after (fs₁ ++ fs₂) f.call (.ofStep (s.resume f.pending reply)))
  | cancel {s : Session} {fs₁ fs₂ : List Flight} {f : Flight} :
    Step ⟨s, fs₁ ++ f :: fs₂⟩ ⟨s.cancel f.pending, fs₁ ++ fs₂⟩

/-- What steps reach from a session without a table. -/
inductive Reachable (settings : Settings) : Traffic → Prop where
  | start {s : Session} (h : Session.start settings = .ok s) : Reachable settings ⟨s, []⟩
  | step {y y' : Traffic} (h : Reachable settings y) (hstep : Step y y') : Reachable settings y'

/-- The traffic without the calls' names. -/
def system (y : Traffic) : System where
  session := y.session
  waiting := y.flights.map Flight.pending

theorem system_after (flights : List Flight) (call : Call) (turn : Turn) :
    (after flights call turn).system = .after (flights.map Flight.pending) turn := by
  unfold after system System.after
  cases turn.next <;> rfl

theorem reachable_system {settings : Settings} {y : Traffic} (h : Reachable settings y) :
    Session.Reachable settings y.system := by
  induction h with
  | start h => exact .start h
  | step _ hstep ih =>
    refine ih.step ?_
    cases hstep with
    | call c =>
      rw [system_after]
      exact .call c
    | reply reply =>
      rw [system_after, List.map_append, system, List.map_append, List.map_cons]
      exact .reply reply
    | cancel =>
      rw [system, system, List.map_append, List.map_append, List.map_cons]
      exact .cancel

end Traffic

/-! ### Who holds the gate -/

variable {s : Session} {turn : Turn} {settings : Settings}

/-- Only a filter holds the gate when its first turn leaves it waiting. -/
theorem holdsGate_of_begin {c : Call} {request : Request} {pending : Pending}
    (h : (c.begin s).next = .waiting request pending) : pending.holdsGate = c.isFilter := by
  have hbegun := begun (s := s) c
  generalize c.begin s = turn at h hbegun
  have hends {file : Option FileNumber} {history : History} (he : turn.Ends file history) :
      pending.holdsGate = c.isFilter := by
    obtain ⟨result, hreturned⟩ := he.returned
    exact absurd (hreturned.symm.trans h) (by simp)
  -- the first turns that leave a call waiting; all others end it
  cases hbegun with
  | stays => exact absurd h (by simp)
  | views hc hviews =>
    rcases hviews.next with ⟨result, hreturned⟩ | ⟨file, index, size, t, hwaiting⟩
    · exact absurd (hreturned.symm.trans h) (by simp)
    · obtain ⟨-, rfl⟩ := Next.waiting.inj (hwaiting.symm.trans h)
      cases c <;> simp_all [Call.IsView, Call.isFilter, Pending.holdsGate]
  | connects | filters | removes =>
    obtain ⟨-, rfl⟩ := Next.waiting.inj h
    rfl
  | shows he => exact hends he
  | older hok he => exact hends he
  | newer hok he => exact hends he
  | removesHere hfile hplan hok he => exact hends he

/-- A call that goes on to wait holds the gate if it did before. -/
theorem holdsGate_of_resume {pending pending' : Pending} {reply : Reply} {request : Request}
    (h : (Turn.ofStep (s.resume pending reply)).next = .waiting request pending') :
    pending'.holdsGate = pending.holdsGate := by
  have hresumed := resumed (s := s) pending reply
  generalize Turn.ofStep (s.resume pending reply) = turn at h hresumed
  have hends {file : Option FileNumber} {history : History} (he : turn.Ends file history) :
      pending'.holdsGate = pending.holdsGate := by
    obtain ⟨result, hreturned⟩ := he.returned
    exact absurd (hreturned.symm.trans h) (by simp)
  -- the turns that ask again are those between two requests of one call
  cases hresumed with
  | asksUpload | filtered | removed =>
    obtain ⟨-, rfl⟩ := Next.waiting.inj h
    rfl
  | connects hup hok he => exact hends he
  | connectsWith hok he => exact hends he
  | connectFails he => exact hends he
  | uploadFails he => exact hends he
  | filterFails hno he => exact hends he
  | records hok he => exact hends he
  | recordFails herror he => exact hends he
  | removalFails hno he => exact hends he
  | refreshes hok he => exact hends he
  | removesHere hno he => exact hends he
  | page he => exact hends he

/-- What a turn leaves waiting holds the gate if the call is a filter. -/
theorem Traffic.holdsGate_after {flights : List Flight} {call : Call}
    (hflights : ∀ f ∈ flights, f.pending.holdsGate = f.call.isFilter)
    (hturn : ∀ request pending, turn.next = .waiting request pending →
      pending.holdsGate = call.isFilter) :
    ∀ f ∈ (after flights call turn).flights, f.pending.holdsGate = f.call.isFilter := by
  unfold after
  cases hnext : turn.next with
  | returned result => exact hflights
  | waiting request pending =>
    intro f hf
    rcases List.mem_cons.1 hf with rfl | hf
    · exact hturn request pending hnext
    · exact hflights f hf

/-- The calls that hold the gate are the filters. -/
theorem Traffic.holdsGate_eq {y : Traffic} (hy : Reachable settings y) :
    ∀ f ∈ y.flights, f.pending.holdsGate = f.call.isFilter := by
  induction hy with
  | start => exact fun f hf => absurd hf List.not_mem_nil
  | step _ hstep ih =>
    cases hstep with
    | call c => exact holdsGate_after ih fun request pending h => holdsGate_of_begin h
    | @reply s fs₁ fs₂ f reply =>
      have hf := ih f (List.mem_append_right fs₁ List.mem_cons_self)
      have hsub := (List.sublist_cons_self f fs₂).append_left fs₁
      refine holdsGate_after (fun f' hf' => ih f' (hsub.subset hf')) fun request pending h => ?_
      rw [holdsGate_of_resume h, hf]
    | @cancel s fs₁ fs₂ f =>
      have hsub := (List.sublist_cons_self f fs₂).append_left fs₁
      exact fun f' hf' => ih f' (hsub.subset hf')

/-- **The gate.** A filter waits exactly while the gate is shut, and no two do. -/
theorem Traffic.countP_isFilter {y : Traffic} (hy : Reachable settings y) :
    y.flights.countP (fun f => f.call.isFilter) = y.session.filtering.toNat := by
  have hguarded := guarded_of_reachable (reachable_system hy)
  rw [system, List.countP_map] at hguarded
  rw [← hguarded]
  exact List.countP_congr fun f hf => by rw [← holdsGate_eq hy f hf]; rfl

/-! ### What filters do -/

/-- What a filter may do with a reply. -/
inductive FilterTurn (s : Session) : Turn → Prop where
  /-- It goes on to wait, and changes nothing. -/
  | waits {request : Request} {pending : Pending} : FilterTurn s ⟨s, [], .waiting request pending⟩
  /-- It fails, and changes nothing but the gate. -/
  | fails {events : List Event} {fault : SessionFault} :
    FilterTurn s ⟨s.openGate, events, .returned (.error fault)⟩
  /-- It adds its result to the history and returns the number of it. -/
  | records {h' : History} {v : Version} {events : List Event}
    (hextends : s.table.history.Extends h' v) :
    FilterTurn s ⟨s.openGate.display { s.table with history := h' }, events,
      .returned (.ok (.outcome (.recorded v.number)))⟩

theorem resume_filterNumber (s : Session) (result : FilterResult) (reply : Reply) :
    s.resume (.filterNumber result) reply =
      s.record result (reply.listing?.bind assignedNumber?) := by
  rcases reply with fault | (_ | _ | _ | _ | _) <;> rfl

/-- The turn that ends a filter whose result the history takes in. -/
theorem exists_ofStep_record {result : FilterResult} {assigned : Option VersionNumber}
    {h' : History} {number : VersionNumber}
    (hok : appended s.table.history assigned (s.resultDataset result.rows) result.description =
      .ok (h', number)) :
    ∃ events, Turn.ofStep (s.record result assigned) =
      ⟨s.openGate.display { s.table with history := h' }, events,
        .returned (.ok (.outcome (.recorded number)))⟩ := by
  unfold record
  simp only [hok]
  exact ⟨_, rfl⟩

theorem filterTurn_record (result : FilterResult) (assigned : Option VersionNumber) :
    FilterTurn s (.ofStep (s.record result assigned)) := by
  cases hok : appended s.table.history assigned (s.resultDataset result.rows)
      result.description with
  | error fault =>
    unfold record
    simp only [hok]
    exact .fails
  | ok appended =>
    obtain ⟨events, hturn⟩ := exists_ofStep_record hok
    rw [hturn]
    exact .records (History.extends_of_appendAs (of_appended_eq_ok hok).1)

/-- **Replies.** Whichever reply a filter gets, it waits, fails or records its result. -/
theorem filterTurn_resume {pending : Pending} (hp : pending.holdsGate = true) (reply : Reply) :
    FilterTurn s (.ofStep (s.resume pending reply)) := by
  cases pending with
  | filterResult file =>
    rcases reply with fault | (_ | _ | _ | result | _)
    case ok.filtered => exact .waits
    all_goals exact .fails
  | filterNumber result =>
    rw [resume_filterNumber]
    exact filterTurn_record result _
  | _ => exact absurd hp (by simp [Pending.holdsGate])

/-- A filter that begins is refused, or it finds a file and the gate open, and shuts the gate. -/
theorem begin_filter (s : Session) (query : String) :
    (∃ fault, (fault = .filterUnderWay ∧ s.filtering = true ∨
          fault = .notOnService ∧ s.table.file = none) ∧
        (Call.filter query).begin s = ⟨s, [], .returned (.error fault)⟩) ∨
      s.filtering = false ∧ ∃ file, s.table.file = some file ∧
        (Call.filter query).begin s =
          ⟨{ s with filtering := true }, [],
            .waiting (.filter file query) (.filterResult file)⟩ := by
  show (∃ fault, _ ∧ Turn.ofStep (s.filter query) = _) ∨ _ ∧ ∃ file, _ ∧
    Turn.ofStep (s.filter query) = _
  unfold filter
  cases hfile : s.table.file with
  | none => exact .inl ⟨.notOnService, .inr ⟨rfl, rfl⟩, rfl⟩
  | some file =>
    cases hgate : s.filtering with
    | true => exact .inl ⟨.filterUnderWay, .inl ⟨rfl, rfl⟩, rfl⟩
    | false => exact .inr ⟨rfl, file, rfl, rfl⟩

/-- **One filter at a time.** Whatever is called, answered, failed and given up, in whatever order:
the gate is shut exactly while a filter waits, and no two filters do. A filter that begins meanwhile
is refused, sends no request and changes nothing; where the gate is open, it shuts the gate and
nothing else, unless there is no file. However a filter ends, it leaves the gate open; if it fails
or is given up, nothing else has changed; if it succeeds, the history has one more version behind
the one that was on display, and that version is on display and marked. -/
theorem gate_of_reachable {y : Traffic} (hy : Traffic.Reachable settings y) :
    y.flights.countP (fun f => f.call.isFilter) = y.session.filtering.toNat ∧
      (∀ query, y.session.filtering = true →
        ∃ fault, (fault = .filterUnderWay ∨ fault = .notOnService ∧ y.session.table.file = none) ∧
          (Call.filter query).begin y.session = ⟨y.session, [], .returned (.error fault)⟩) ∧
      (∀ query, y.session.filtering = false →
        (y.session.table.file = none ∧ (Call.filter query).begin y.session =
            ⟨y.session, [], .returned (.error .notOnService)⟩) ∨
          ∃ file, y.session.table.file = some file ∧ (Call.filter query).begin y.session =
            ⟨{ y.session with filtering := true }, [],
              .waiting (.filter file query) (.filterResult file)⟩) ∧
      ∀ f ∈ y.flights, f.call.isFilter = true →
        y.session.cancel f.pending = y.session.openGate ∧
          ∀ reply, FilterTurn y.session (.ofStep (y.session.resume f.pending reply)) := by
  refine ⟨Traffic.countP_isFilter hy, fun query hshut => ?_, fun query hopen => ?_,
    fun f hf hfilter => ?_⟩
  · rcases begin_filter y.session query with ⟨fault, hfault, hbegin⟩ | ⟨hopen, -⟩
    · exact ⟨fault, hfault.imp_left And.left, hbegin⟩
    · exact absurd (hopen.symm.trans hshut) (by simp)
  · rcases begin_filter y.session query with
      ⟨fault, ⟨-, hshut⟩ | ⟨rfl, hfile⟩, hbegin⟩ | ⟨-, file, hfile, hbegin⟩
    · exact absurd (hopen.symm.trans hshut) (by simp)
    · exact .inl ⟨hfile, hbegin⟩
    · exact .inr ⟨file, hfile, hbegin⟩
  · have hgate : f.pending.holdsGate = true := (Traffic.holdsGate_eq hy f hf).trans hfilter
    exact ⟨if_pos hgate, filterTurn_resume hgate⟩

/-- A session that has opened a file without rows. -/
def openedTraffic : Traffic :=
  let start : Session := { settings := {}, pager := .start 100 true }
  let listing : Reply := .ok (.listing [⟨[], uploadDescription, true, uploadNumber⟩])
  .after [] (.connect 1) (.ofStep (start.resume (.connectListing 1) listing))

/-- The session with a filter that waits. -/
def sampleTraffic : Traffic :=
  .after openedTraffic.flights (.filter "first") ((Call.filter "first").begin openedTraffic.session)

/-- A second filter is refused while the first one waits, which goes on with any reply. -/
theorem gate_of_sampleTraffic :
    Traffic.Reachable {} sampleTraffic ∧ sampleTraffic.session.filtering = true ∧
      (∃ fault, (Call.filter "second").begin sampleTraffic.session =
        ⟨sampleTraffic.session, [], .returned (.error fault)⟩) ∧
      ∃ f ∈ sampleTraffic.flights,
        ∀ reply, FilterTurn sampleTraffic.session
          (.ofStep (sampleTraffic.session.resume f.pending reply)) := by
  have hopening : Traffic.Reachable {} _ := (Traffic.Reachable.start rfl).step (.call (.connect 1))
  have hopened : Traffic.Reachable {} openedTraffic :=
    hopening.step (@Traffic.Step.reply _ [] [] _ _)
  have hy : Traffic.Reachable {} sampleTraffic := hopened.step (.call _)
  have hshut : sampleTraffic.session.filtering = true := by decide +kernel
  obtain ⟨hcount, hrefused, -, hturns⟩ := gate_of_reachable hy
  obtain ⟨fault, -, hbegin⟩ := hrefused "second" hshut
  -- as the gate is shut, there is a filter
  rw [hshut] at hcount
  obtain ⟨f, hf, hfilter⟩ := List.countP_pos_iff.1 (by rw [hcount]; decide)
  exact ⟨hy, hshut, ⟨fault, hbegin⟩, f, hf, (hturns f hf hfilter).2⟩

end Session

end Tabula
