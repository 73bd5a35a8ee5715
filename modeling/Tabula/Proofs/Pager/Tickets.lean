import Tabula.Pager
import Tabula.Proofs.Page

/-!
# Tickets in any order

Any number of calls for a page can be under way while the source and the page size of a pager
change. `Pager.System` holds a pager and the tickets that are out, and its steps are the changes of
the pager, the handing out of a ticket, and the end of any call that is under way, with any reply of
the service. `pages_and_tickets_of_run` says what holds after every run.

The invariant `Lawful` looks at the run so far, in the manner of a log: `counted` ties the number of
each ticket to the number of changes since it was handed out, and from it everything about late
answers follows. A ticket is current exactly if nothing superseded it, and a current ticket was
handed out for the present source at the present page size (`newest`), so the page that it brings
fits what is on display.

A page that was accepted can always be cut (`servable`): the page numbers that are accepted depend
on the counts on display, and for a table in memory these are the counts of that table (`within`).
-/

namespace Tabula.Pager

/-! ### What the operations do -/

theorem resizePages_eq_ok_iff {p p' : Pager} {size : Nat} :
    p.resizePages size = .ok p' ↔
      0 < size ∧
        p' = { p with
          info := .first p.info.totalRows size, current := none, issued := p.issued + 1 } := by
  unfold resizePages
  by_cases hs : size = 0
  · simp [hs]
  · simp [hs, Nat.pos_of_ne_zero hs, eq_comm (b := p')]

theorem resizePages_eq_error_iff {p : Pager} {size : Nat} :
    (∃ fault, p.resizePages size = .error fault) ↔ size = 0 := by
  unfold resizePages
  by_cases hs : size = 0 <;> simp [hs]

theorem ask_eq_ok_iff {p p' : Pager} {index : Nat} {t : Ticket} :
    p.ask index = .ok (p', t) ↔
      (1 ≤ index ∧ index ≤ p.info.lastIndex) ∧ p' = { p with issued := p.issued + 1 } ∧
        t =
          { sequence := p.issued + 1, source := p.source, index, pageSize := p.info.size } := by
  unfold ask
  cases ha : p.info.accept index with
  | error fault =>
    have hno := PageInfo.not_le_of_accept_eq_error ha
    simp only [bind, Except.bind, reduceCtorEq, false_iff]
    exact fun h => hno h.1
  | ok _ =>
    simp [bind, Except.bind, pure, Except.pure, PageInfo.accept_eq_ok_iff.1 ha,
      eq_comm (b := p'), eq_comm (b := t)]

/-- A page number out of range is the only reason to refuse a ticket. -/
theorem ask_eq_error_iff {p : Pager} {index : Nat} {fault : DataFault} :
    p.ask index = .error fault ↔
      ¬ (1 ≤ index ∧ index ≤ p.info.lastIndex) ∧ fault = .noSuchPage index p.info.totalPages := by
  rw [← PageInfo.accept_eq_error_iff]
  unfold ask
  cases p.info.accept index <;> simp [bind, Except.bind, pure, Except.pure]

/-- How a call for a page begins: it gets no ticket, or it waits for the page of its ticket, or the
page is cut at once. -/
theorem begin_cases {p p' : Pager} {index : Nat} {progress : Progress}
    (h : p.begin index = (p', progress)) :
    (∃ fault, p.ask index = .error fault ∧ p' = p ∧ progress = .done (.error fault)) ∨
      ∃ q t, p.ask index = .ok (q, t) ∧
        ((∃ request, q.request? t = some request ∧ p' = q ∧ progress = .waiting request t) ∨
          (q.request? t = none ∧ p' = (q.cut t).1 ∧ progress = .done (q.cut t).2)) := by
  unfold begin at h
  cases ha : p.ask index with
  | error fault =>
    rw [ha] at h
    obtain ⟨rfl, rfl⟩ := Prod.mk.inj h
    exact .inl ⟨fault, rfl, rfl, rfl⟩
  | ok qt =>
    refine .inr ⟨qt.1, qt.2, rfl, ?_⟩
    cases hr : qt.1.request? qt.2 with
    | some request =>
      simp only [ha, hr] at h
      obtain ⟨rfl, rfl⟩ := Prod.mk.inj h
      exact .inl ⟨request, rfl, rfl, rfl⟩
    | none =>
      simp only [ha, hr] at h
      obtain ⟨rfl, rfl⟩ := Prod.mk.inj h
      exact .inr ⟨rfl, rfl, rfl⟩

theorem deliver_of_sequence_eq {p : Pager} {t : Ticket} (h : t.sequence = p.issued) (page : Page) :
    p.deliver t page = ({ p with info := page.info, current := some page }, .applied page) :=
  if_pos h

theorem deliver_of_sequence_ne {p : Pager} {t : Ticket} (h : t.sequence ≠ p.issued) (page : Page) :
    p.deliver t page = (p, .superseded t.sequence) :=
  if_neg h

/-- Whether two pagers take pages from the same source. -/
structure SameSource (p p' : Pager) : Prop where
  /-- The rows are the same. -/
  source_eq : p'.source = p.source
  /-- There is a service for both or for none. -/
  hasService_eq : p'.hasService = p.hasService

theorem sameSource_deliver (p : Pager) (t : Ticket) (page : Page) :
    p.SameSource (p.deliver t page).1 := by
  unfold deliver
  split <;> exact ⟨rfl, rfl⟩

theorem sameSource_cut (p : Pager) (t : Ticket) : p.SameSource (p.cut t).1 := by
  unfold cut
  split
  · exact ⟨rfl, rfl⟩
  · exact p.sameSource_deliver t _

/-- A call for a page leaves the source alone, whatever comes of it. -/
theorem sameSource_of_begin {p p' : Pager} {index : Nat} {progress : Progress}
    (h : p.begin index = (p', progress)) : p.SameSource p' := by
  rcases begin_cases h with ⟨fault, -, rfl, -⟩ | ⟨q, t, ha, hq⟩
  · exact ⟨rfl, rfl⟩
  · obtain ⟨-, rfl, -⟩ := ask_eq_ok_iff.1 ha
    rcases hq with ⟨request, -, rfl, -⟩ | ⟨-, rfl, -⟩
    · exact ⟨rfl, rfl⟩
    · exact ⟨(sameSource_cut _ t).source_eq, (sameSource_cut _ t).hasService_eq⟩

theorem sameSource_of_finish {p p' : Pager} {t : Ticket} {reply : Reply} {fetch : PageOutcome}
    (h : p.finish t reply = (p', fetch)) : p.SameSource p' := by
  obtain ⟨rfl, -⟩ := Prod.mk.inj h
  exact p.sameSource_deliver t _

/-- Ends a call for a page: with the service's reply where the service was asked, and without one
where it was not. -/
def settle (p : Pager) (t : Ticket) (reply : Reply) : Pager × Except DataFault PageOutcome :=
  match p.request? t with
  | some _ =>
    let (p, fetch) := p.finish t reply
    (p, .ok fetch)
  | none => p.cut t

/-- The page that a ticket brings. -/
def pageOf (p : Pager) (t : Ticket) (reply : Reply) : Except DataFault Page :=
  match p.request? t with
  | some _ => .ok (t.servedPage reply)
  | none => t.ownPage

/-- A ticket that brings a page has it delivered. -/
theorem settle_of_pageOf {p : Pager} {t : Ticket} {reply : Reply} {page : Page}
    (h : p.pageOf t reply = .ok page) :
    p.settle t reply = ((p.deliver t page).1, .ok (p.deliver t page).2) := by
  unfold pageOf at h
  unfold settle
  cases hr : p.request? t with
  | some request =>
    rw [hr] at h
    obtain rfl := Except.ok.inj h
    rfl
  | none =>
    rw [hr] at h
    simp only [cut, h]

theorem settle_of_request?_eq_some {p : Pager} {t : Ticket} {request : Request}
    (hr : p.request? t = some request) (reply : Reply) :
    p.settle t reply = ((p.finish t reply).1, .ok (p.finish t reply).2) := by
  simp only [settle, hr]

/-- The service is asked exactly where there is one and the rows are a file's. -/
theorem isSome_request? (p : Pager) (t : Ticket) :
    (p.request? t).isSome = (p.hasService && t.source.fromService) := by
  unfold request?
  cases t.source with
  | memory d => simp [RowSource.fromService]
  | service file d => cases p.hasService <;> rfl

theorem settle_of_request?_eq_none {p : Pager} {t : Ticket} (hr : p.request? t = none)
    (reply : Reply) : p.settle t reply = p.cut t := by
  simp only [settle, hr]

end Pager

namespace Ticket

/-- A ticket whose page can be cut, should it be for a table in memory. -/
def Servable (t : Ticket) : Prop :=
  ∀ d, t.source = .memory d →
    0 < t.pageSize ∧ 1 ≤ t.index ∧ t.index ≤ (PageInfo.first d.size t.pageSize).lastIndex

theorem Servable.exists_pageOf {t : Ticket} (h : t.Servable) (p : Pager) (reply : Reply) :
    ∃ page, p.pageOf t reply = .ok page := by
  unfold Pager.pageOf
  split
  · exact ⟨_, rfl⟩
  · unfold ownPage
    split
    · next d hd =>
      obtain ⟨hs, hone, hle⟩ := h d hd
      exact ⟨_, Dataset.page_eq_ok_iff.2 ⟨hs, hone, hle, rfl⟩⟩
    · exact ⟨_, rfl⟩

/-- A ticket for a table in memory brings a page of that table. -/
theorem pageOf_memory {t : Ticket} {d : Dataset} (h : t.source = .memory d) (p : Pager)
    (reply : Reply) : p.pageOf t reply = d.page t.index t.pageSize := by
  simp [Pager.pageOf, Pager.request?, ownPage, h]

/-- Where a page comes from: it is the service's and has the number that was asked for, or it is cut
from the table in memory of the source. -/
theorem pageOf_cases {t : Ticket} {p : Pager} {reply : Reply} {page : Page}
    (h : p.pageOf t reply = .ok page) :
    page.origin = .service ∧ t.source.fromService = true ∧ page.info.index = t.index ∨
      page.origin = (if t.source.fromService then .fallback else .memory) ∧
        page.CutFrom t.source.dataset := by
  unfold Pager.pageOf at h
  cases hr : p.request? t with
  | some request =>
    have hfrom : t.source.fromService = true := by
      have hsome := Pager.isSome_request? p t
      rw [hr] at hsome
      exact (Bool.and_eq_true_iff.1 hsome.symm).2
    simp only [hr] at h
    obtain rfl := Except.ok.inj h
    unfold servedPage
    split
    · exact .inl ⟨rfl, hfrom, rfl⟩
    · -- a reply that is no page counts as none
      rw [hfrom]
      exact .inr ⟨rfl, Dataset.cutFrom_nearestPage _ _ _⟩
  | none =>
    simp only [hr] at h
    unfold ownPage at h
    split at h
    · next d hd =>
      have hcut := Dataset.cutFrom_of_page_eq_ok h
      obtain ⟨-, -, -, rfl⟩ := Dataset.page_eq_ok_iff.1 h
      rw [hd]
      exact .inr ⟨rfl, hcut⟩
    · next file d hd =>
      obtain rfl := Except.ok.inj h
      rw [hd]
      exact .inr ⟨rfl, Dataset.cutFrom_nearestPage d _ _⟩

/-- A page has the size that was asked for, whoever it comes from. -/
theorem size_of_pageOf {t : Ticket} {p : Pager} {reply : Reply} {page : Page}
    (h : p.pageOf t reply = .ok page) : page.info.size = t.pageSize := by
  unfold Pager.pageOf at h
  split at h
  · obtain rfl := Except.ok.inj h
    unfold servedPage
    split <;> rfl
  · unfold ownPage at h
    split at h
    · exact (Dataset.within_of_page_eq_ok h).2
    · obtain rfl := Except.ok.inj h
      rfl

end Ticket

namespace Pager

/-! ### Runs -/

/-- A pager and the tickets whose calls are under way. -/
structure System where
  pager : Pager
  outstanding : List Ticket

/-- A pager of which nothing was asked yet. -/
def System.start (pageSize : Nat) (hasService : Bool) : System where
  pager := .start pageSize hasService
  outstanding := []

/-- What happens to a pager. -/
inductive Act where
  /-- It takes pages from another source. -/
  | restarted (source : RowSource)
  /-- It makes pages another size. -/
  | resized (size : Nat)
  /-- It hands out a ticket. -/
  | asked (ticket : Ticket)
  /-- It refuses a page size or a page number. -/
  | refused (fault : DataFault)
  /-- The call of a ticket ends. -/
  | finished (ticket : Ticket) (result : Except DataFault PageOutcome)
  /-- The call of a ticket is given up. -/
  | abandoned (ticket : Ticket)

/-- Whether all tickets from before become stale. -/
def Act.supersedes : Act → Bool
  | restarted _ | resized _ | asked _ => true
  | refused _ | finished .. | abandoned _ => false

/-- The steps of a pager and its calls. -/
inductive Step : System → Act → System → Prop where
  | restart {p : Pager} {ts : List Ticket} (source : RowSource) :
    Step ⟨p, ts⟩ (.restarted source) ⟨p.restart source, ts⟩
  | resize {p p' : Pager} {ts : List Ticket} {size : Nat} (h : p.resizePages size = .ok p') :
    Step ⟨p, ts⟩ (.resized size) ⟨p', ts⟩
  | refuseSize {p : Pager} {ts : List Ticket} {size : Nat} {fault : DataFault}
    (h : p.resizePages size = .error fault) : Step ⟨p, ts⟩ (.refused fault) ⟨p, ts⟩
  | ask {p p' : Pager} {ts : List Ticket} {index : Nat} {t : Ticket}
    (h : p.ask index = .ok (p', t)) : Step ⟨p, ts⟩ (.asked t) ⟨p', t :: ts⟩
  | refusePage {p : Pager} {ts : List Ticket} {index : Nat} {fault : DataFault}
    (h : p.ask index = .error fault) : Step ⟨p, ts⟩ (.refused fault) ⟨p, ts⟩
  | finish {p : Pager} {ts₁ ts₂ : List Ticket} {t : Ticket} (reply : Reply) :
    Step ⟨p, ts₁ ++ t :: ts₂⟩ (.finished t (p.settle t reply).2)
      ⟨(p.settle t reply).1, ts₁ ++ ts₂⟩
  | abandon {p : Pager} {ts₁ ts₂ : List Ticket} {t : Ticket} :
    Step ⟨p, ts₁ ++ t :: ts₂⟩ (.abandoned t) ⟨p, ts₁ ++ ts₂⟩

/-- The runs of a system from a start, with what happened in them. -/
inductive Run (start : System) : List Act → System → Prop where
  | nil : Run start [] start
  | snoc {acts : List Act} {s s' : System} {a : Act} (h : Run start acts s) (step : Step s a s') :
    Run start (acts ++ [a]) s'

/-- The tickets that are left when one is given back were out before. -/
theorem subset_append_cons (t : Ticket) (ts₁ ts₂ : List Ticket) :
    ts₁ ++ ts₂ ⊆ ts₁ ++ t :: ts₂ :=
  ((List.sublist_cons_self t ts₂).append_left ts₁).subset

/-! ### The invariant -/

/-- The invariant of a pager and its calls, over what has happened so far. -/
structure Lawful (acts : List Act) (s : System) : Prop where
  /-- A page holds at least one row. -/
  size_pos : 0 < s.pager.info.size
  /-- The page on display lies within the table in memory. -/
  within : ∀ d, s.pager.source = .memory d → s.pager.info.Within d.size
  /-- The page on display was asked of the present source at the present page size. -/
  shown : ∀ page, s.pager.current = some page →
    s.pager.info = page.info ∧
      ∃ t, .asked t ∈ acts ∧ .finished t (.ok (.applied page)) ∈ acts ∧
        t.source = s.pager.source ∧ t.pageSize = s.pager.info.size
  /-- A ticket that is out was handed out. -/
  asked : ∀ t ∈ s.outstanding, .asked t ∈ acts
  /-- A ticket that is out brings a page. -/
  servable : ∀ t ∈ s.outstanding, t.Servable
  /-- A ticket that is out and current is one for the present source and page size. -/
  newest : ∀ t ∈ s.outstanding, t.sequence = s.pager.issued →
    t.source = s.pager.source ∧ t.pageSize = s.pager.info.size
  /-- The number of a ticket falls behind by one with everything that supersedes it. -/
  counted : ∀ before after t, acts = before ++ .asked t :: after →
    s.pager.issued = t.sequence + after.countP Act.supersedes

/-- A run in which nothing has happened. -/
theorem Lawful.start (pageSize : Nat) (hasService : Bool) :
    Lawful [] (.start pageSize hasService) where
  size_pos := Nat.lt_of_lt_of_le Nat.zero_lt_one (Nat.le_max_right pageSize 1)
  within := by
    intro d hd
    obtain rfl := RowSource.memory.inj hd
    exact PageInfo.within_first _ _
  shown := fun _ h => absurd h (by simp [System.start, Pager.start])
  asked := fun _ h => absurd h List.not_mem_nil
  servable := fun _ h => absurd h List.not_mem_nil
  newest := fun _ h => absurd h List.not_mem_nil
  counted := fun before after t h => absurd h (by simp)

/-- One more act is counted for every ticket from before, and a ticket that is handed out starts at
zero. -/
theorem counted_append {acts : List Act} {a : Act} {n m : Nat}
    (hcount : ∀ before after t, acts = before ++ .asked t :: after →
      n = t.sequence + after.countP Act.supersedes)
    (hm : m = n + if a.supersedes then 1 else 0) (hnew : ∀ t, a = .asked t → t.sequence = m) :
    ∀ before after t, acts ++ [a] = before ++ .asked t :: after →
      m = t.sequence + after.countP Act.supersedes := by
  intro before after t h
  rcases List.eq_nil_or_concat after with rfl | ⟨after, b, rfl⟩
  · -- the ticket was handed out just now
    obtain ⟨-, ha⟩ := List.append_inj' h rfl
    rw [hnew t (List.singleton_inj.1 ha)]
    rfl
  · replace h : acts ++ [a] = (before ++ .asked t :: after) ++ [b] := by simpa using h
    obtain ⟨hacts, ha⟩ := List.append_inj' h rfl
    obtain rfl := List.singleton_inj.1 ha
    rw [hm, hcount before after t hacts, List.concat_eq_append, List.countP_append,
      List.countP_singleton, Nat.add_assoc]

/-- No ticket is ahead of the pager. -/
theorem Lawful.sequence_le {acts : List Act} {s : System} (hl : Lawful acts s) {t : Ticket}
    (ht : t ∈ s.outstanding) : t.sequence ≤ s.pager.issued := by
  obtain ⟨before, after, hacts⟩ := List.append_of_mem (hl.asked t ht)
  rw [hl.counted before after t hacts]
  exact Nat.le_add_right _ _

/-- How the call of a ticket ends: the ticket is current, so it is one for the present source and
page size, and its page goes on display; or something superseded it, and nothing happens. -/
theorem Lawful.settle_cases {acts : List Act} {s : System} {t : Ticket} (hl : Lawful acts s)
    (ht : t ∈ s.outstanding) (reply : Reply) :
    (∃ page, s.pager.pageOf t reply = .ok page ∧ t.sequence = s.pager.issued ∧
        t.source = s.pager.source ∧ t.pageSize = s.pager.info.size ∧
        s.pager.settle t reply =
          ({ s.pager with info := page.info, current := some page }, .ok (.applied page))) ∨
      s.pager.settle t reply = (s.pager, .ok (.superseded t.sequence)) := by
  obtain ⟨page, hpage⟩ := (hl.servable t ht).exists_pageOf s.pager reply
  rw [settle_of_pageOf hpage]
  by_cases hseq : t.sequence = s.pager.issued
  · obtain ⟨hsource, hsize⟩ := hl.newest t ht hseq
    rw [deliver_of_sequence_eq hseq]
    exact .inl ⟨page, hpage, hseq, hsource, hsize, rfl⟩
  · rw [deliver_of_sequence_ne hseq]
    exact .inr rfl

/-- A ticket that was handed out for the page on display brings one. -/
theorem Lawful.servable_asked {acts : List Act} {p p' : Pager} {ts : List Ticket} {index : Nat}
    {t : Ticket} (hl : Lawful acts ⟨p, ts⟩) (h : p.ask index = .ok (p', t)) : t.Servable := by
  obtain ⟨⟨hone, hle⟩, -, rfl⟩ := ask_eq_ok_iff.1 h
  intro d hd
  have hw := hl.within d hd
  refine ⟨hl.size_pos, hone, ?_⟩
  -- the range that was checked is that of the counts on display
  show index ≤ max (PageInfo.pageCount d.size p.info.size) 1
  rw [← hw.totalPages_eq]
  exact hle

/-- What happened to a pager that changes no page, takes no ticket and supersedes nothing. -/
theorem Lawful.idle {acts : List Act} {p : Pager} {ts ts' : List Ticket}
    (hl : Lawful acts ⟨p, ts⟩) (hts : ∀ t ∈ ts', t ∈ ts) {a : Act} (ha : a.supersedes = false) :
    Lawful (acts ++ [a]) ⟨p, ts'⟩ where
  size_pos := hl.size_pos
  within := hl.within
  shown := by
    intro page hpage
    obtain ⟨hinfo, t, hasked, hfinished, hsource⟩ := hl.shown page hpage
    exact ⟨hinfo, t, List.mem_append_left _ hasked, List.mem_append_left _ hfinished, hsource⟩
  asked := fun t ht => List.mem_append_left _ (hl.asked t (hts t ht))
  servable := fun t ht => hl.servable t (hts t ht)
  newest := fun t ht => hl.newest t (hts t ht)
  counted := counted_append hl.counted (by simp [ha]) (by rintro t rfl; simp [Act.supersedes] at ha)

/-- The end of a call whose ticket is current puts its page on display. -/
theorem Lawful.apply {acts : List Act} {p : Pager} {ts ts' : List Ticket} {t : Ticket}
    {reply : Reply} {page : Page} (hl : Lawful acts ⟨p, ts⟩) (ht : t ∈ ts)
    (hts : ∀ t' ∈ ts', t' ∈ ts) (hseq : t.sequence = p.issued)
    (hpage : p.pageOf t reply = .ok page) :
    Lawful (acts ++ [.finished t (.ok (.applied page))])
      ⟨{ p with info := page.info, current := some page }, ts'⟩ := by
  obtain ⟨hsource, hsize⟩ := hl.newest t ht hseq
  have hinfo : page.info.size = p.info.size := (Ticket.size_of_pageOf hpage).trans hsize
  constructor
  case size_pos => exact hinfo ▸ hl.size_pos
  case within =>
    intro d hd
    rw [Ticket.pageOf_memory (hsource.trans hd) p reply] at hpage
    exact (Dataset.within_of_page_eq_ok hpage).1
  case shown =>
    intro page' h
    obtain rfl := Option.some.inj h
    refine ⟨rfl, t, List.mem_append_left _ (hl.asked t ht), ?_, hsource, ?_⟩
    · exact List.mem_append_right _ (List.mem_singleton_self _)
    · exact hsize.trans hinfo.symm
  case asked => exact fun t' ht' => List.mem_append_left _ (hl.asked t' (hts t' ht'))
  case servable => exact fun t' ht' => hl.servable t' (hts t' ht')
  -- the tickets of the same number are for the same source and size, and these stay
  case newest =>
    intro t' ht' hseq'
    obtain ⟨hsource', hsize'⟩ := hl.newest t' (hts t' ht') hseq'
    exact ⟨hsource', hsize'.trans hinfo.symm⟩
  case counted => exact counted_append hl.counted rfl (by simp)

/-- A change that makes all tickets stale and leaves a page size of at least one. -/
theorem Lawful.supersede {acts : List Act} {p p' : Pager} {ts : List Ticket} {a : Act}
    (hl : Lawful acts ⟨p, ts⟩) (ha : a.supersedes = true) (hask : ∀ t, a ≠ .asked t)
    (hsize : 0 < p'.info.size) (hcurrent : p'.current = none) (hissued : p'.issued = p.issued + 1)
    (hwithin : ∀ d, p'.source = .memory d → p'.info.Within d.size) :
    Lawful (acts ++ [a]) ⟨p', ts⟩ where
  size_pos := hsize
  within := hwithin
  shown := fun page hpage => absurd hpage (by simp [hcurrent])
  asked := fun t ht => List.mem_append_left _ (hl.asked t ht)
  servable := hl.servable
  newest := by
    intro t ht hseq
    have hle : t.sequence ≤ p.issued := hl.sequence_le ht
    replace hseq : t.sequence = p'.issued := hseq
    omega
  counted := counted_append hl.counted (by simp [hissued, ha]) fun t h => absurd h (hask t)

/-- **One step.** Every step of a pager and its calls keeps the invariant. -/
theorem Lawful.step {acts : List Act} {s s' : System} {a : Act} (hl : Lawful acts s)
    (hstep : Step s a s') : Lawful (acts ++ [a]) s' := by
  cases hstep with
  | restart source =>
    refine hl.supersede rfl (by simp) hl.size_pos rfl rfl fun d hd => ?_
    -- the counts are taken from the new source
    obtain rfl : source = .memory d := hd
    exact PageInfo.within_first _ _
  | resize h =>
    obtain ⟨hs, rfl⟩ := resizePages_eq_ok_iff.1 h
    refine hl.supersede rfl (by simp) hs rfl rfl fun d hd => ?_
    -- the rows are still those of the table
    rw [(hl.within d hd).totalRows_eq]
    exact PageInfo.within_first _ _
  | refuseSize h => exact hl.idle (fun t ht => ht) rfl
  | @ask p p' ts index t h =>
    have hservable := hl.servable_asked h
    obtain ⟨-, rfl, rfl⟩ := ask_eq_ok_iff.1 h
    constructor
    case size_pos => exact hl.size_pos
    case within => exact hl.within
    case shown =>
      intro page hpage
      obtain ⟨hinfo, t', hasked, hfinished, hsource⟩ := hl.shown page hpage
      exact ⟨hinfo, t', List.mem_append_left _ hasked, List.mem_append_left _ hfinished, hsource⟩
    case asked =>
      intro t' ht'
      rcases List.mem_cons.1 ht' with rfl | ht'
      · exact List.mem_append_right _ (List.mem_singleton_self _)
      · exact List.mem_append_left _ (hl.asked t' ht')
    case servable => exact List.forall_mem_cons.2 ⟨hservable, hl.servable⟩
    case newest =>
      intro t' ht' hseq
      rcases List.mem_cons.1 ht' with rfl | ht'
      · exact ⟨rfl, rfl⟩
      · -- the tickets from before are behind by one
        have hle : t'.sequence ≤ p.issued := hl.sequence_le ht'
        replace hseq : t'.sequence = p.issued + 1 := hseq
        omega
    case counted =>
      refine counted_append hl.counted rfl ?_
      rintro t' h'
      rw [← Act.asked.inj h']
  | refusePage h => exact hl.idle (fun t ht => ht) rfl
  | @finish p ts₁ ts₂ t reply =>
    have ht : t ∈ ts₁ ++ t :: ts₂ := List.mem_append_cons_self
    have hts := subset_append_cons t ts₁ ts₂
    rcases hl.settle_cases ht reply with ⟨page, hpage, hseq, -, -, heq⟩ | heq
    · rw [heq]
      exact hl.apply ht (fun _ ht' => hts ht') hseq hpage
    · rw [heq]
      exact hl.idle (fun _ ht' => hts ht') rfl
  | @abandon p ts₁ ts₂ t =>
    have hts := subset_append_cons t ts₁ ts₂
    exact hl.idle (fun _ ht' => hts ht') rfl

/-- **Every run.** The invariant holds after every run from a start. -/
theorem lawful_of_run {pageSize : Nat} {hasService : Bool} {acts : List Act} {s : System}
    (h : Run (.start pageSize hasService) acts s) : Lawful acts s := by
  -- on the run, one step at its end after the other
  induction h with
  | nil => exact .start pageSize hasService
  | snoc _ hstep ih => exact ih.step hstep

/-! ### What comes of a call -/

/-- A call ends on display if nothing superseded its ticket, and without an effect otherwise. -/
theorem Lawful.settle_eq {acts before after : List Act} {s : System} {t : Ticket}
    (hl : Lawful acts s) (hacts : acts = before ++ .asked t :: after) (ht : t ∈ s.outstanding)
    (reply : Reply) :
    (after.any Act.supersedes = false →
      ∃ page, s.pager.settle t reply =
        ({ s.pager with info := page.info, current := some page }, .ok (.applied page))) ∧
    (after.any Act.supersedes = true →
      s.pager.settle t reply = (s.pager, .ok (.superseded t.sequence))) := by
  obtain ⟨page, hpage⟩ := (hl.servable t ht).exists_pageOf s.pager reply
  have hcount := hl.counted before after t hacts
  rw [settle_of_pageOf hpage]
  constructor
  · -- nothing was counted since, so the ticket has the number of the pager
    intro hnone
    have hzero : after.countP Act.supersedes = 0 := by
      rw [List.countP_eq_zero]
      exact fun a ha => by simpa using List.any_eq_false.1 hnone a ha
    rw [deliver_of_sequence_eq (by omega)]
    exact ⟨page, rfl⟩
  · -- something was counted, so the ticket is behind
    intro hsome
    have hpos : 0 < after.countP Act.supersedes := by
      rw [List.countP_pos_iff]
      exact List.any_eq_true.1 hsome
    rw [deliver_of_sequence_ne (by omega)]

/-- The range check is all that can stop a call for a page, and then nothing has happened. -/
theorem Lawful.begin_refused_iff {acts : List Act} {s : System} (hl : Lawful acts s) {index : Nat}
    {p : Pager} {fault : DataFault} :
    s.pager.begin index = (p, .done (.error fault)) ↔
      p = s.pager ∧ ¬ (1 ≤ index ∧ index ≤ s.pager.info.lastIndex) ∧
        fault = .noSuchPage index s.pager.info.totalPages := by
  rw [← ask_eq_error_iff]
  constructor
  · intro h
    rcases begin_cases h with
      ⟨fault', ha, rfl, hp⟩ | ⟨q, t, ha, ⟨request, -, -, hp⟩ | ⟨hr, -, hp⟩⟩
    · obtain rfl := Except.error.inj (Progress.done.inj hp)
      exact ⟨rfl, ha⟩
    · exact absurd hp (by simp)
    · -- the ticket brings a page, so cutting it does not fail
      obtain ⟨page, hpage⟩ := (hl.servable_asked ha).exists_pageOf q (.ok .removed)
      rw [← settle_of_request?_eq_none hr (.ok .removed), settle_of_pageOf hpage] at hp
      exact absurd hp (by simp)
  · rintro ⟨rfl, ha⟩
    simp only [begin, ha]

theorem Lawful.begin_eq_error_iff {acts : List Act} {s : System} (hl : Lawful acts s) {index : Nat}
    {p : Pager} :
    (∃ fault, s.pager.begin index = (p, .done (.error fault))) ↔
      p = s.pager ∧ ¬ (1 ≤ index ∧ index ≤ s.pager.info.lastIndex) := by
  simp [hl.begin_refused_iff]

/-- **Pages and tickets of every run.** Whatever was asked, changed and answered in whatever order:
pages hold at least one row; a page on display is the one that is counted, and it was asked of the
present source at the present page size; over a table in memory the counts are those of the table
and the page lies among its pages, so no call that got a ticket fails. The call of a ticket puts its
page on display if nothing superseded the ticket, and changes nothing otherwise. What is refused
changes nothing: a page size of zero, and a page number out of range, which is all that fails. -/
theorem pages_and_tickets_of_run {pageSize : Nat} {hasService : Bool} {acts : List Act}
    {s : System} (h : Run (.start pageSize hasService) acts s) :
    1 ≤ s.pager.info.size ∧
    (∀ page, s.pager.current = some page →
      s.pager.info = page.info ∧
        ∃ t, .asked t ∈ acts ∧ .finished t (.ok (.applied page)) ∈ acts ∧
          t.source = s.pager.source ∧ t.pageSize = s.pager.info.size) ∧
    (∀ d, s.pager.source = .memory d →
      s.pager.info.totalRows = d.size ∧
        s.pager.info.totalPages = s.pager.info.totalRows ⌈/⌉ s.pager.info.size ∧
        1 ≤ s.pager.info.index ∧ s.pager.info.index ≤ max 1 s.pager.info.totalPages) ∧
    (∀ t ∈ s.outstanding, .asked t ∈ acts ∧
      ∀ before after reply, acts = before ++ .asked t :: after →
        (after.any Act.supersedes = false →
          ∃ page, s.pager.settle t reply =
            ({ s.pager with info := page.info, current := some page }, .ok (.applied page))) ∧
        (after.any Act.supersedes = true →
          s.pager.settle t reply = (s.pager, .ok (.superseded t.sequence)))) ∧
    (∀ fault s', Step s (.refused fault) s' → s' = s) ∧
    (∀ size, (∃ fault, s.pager.resizePages size = .error fault) ↔ size = 0) ∧
    (∀ index p, (∃ fault, s.pager.begin index = (p, .done (.error fault))) ↔
      p = s.pager ∧ ¬ (1 ≤ index ∧ index ≤ s.pager.info.lastIndex)) := by
  have hl := lawful_of_run h
  refine ⟨hl.size_pos, hl.shown, ?_, ?_, ?_, fun size => resizePages_eq_error_iff,
    fun index p => hl.begin_eq_error_iff⟩
  · intro d hd
    have hw := hl.within d hd
    refine ⟨hw.totalRows_eq, ?_, hw.one_le_index, ?_⟩
    · rw [hw.totalRows_eq, ← PageInfo.pageCount_eq_ceilDiv hl.size_pos]
      exact hw.totalPages_eq
    · rw [max_comm]
      exact hw.index_le
  · exact fun t ht => ⟨hl.asked t ht, fun before after reply hacts => hl.settle_eq hacts ht reply⟩
  · intro fault s' hstep
    cases hstep <;> rfl

/-- The first of two tickets for a file of the service. -/
def olderTicket : Ticket where
  sequence := 2
  source := .service 7 {}
  index := 1
  pageSize := 10

/-- The answer to the first of two calls for a page that are under way comes too late, whatever it
is. -/
theorem olderTicket_superseded :
    ∃ acts s, Run (.start 10 true) acts s ∧ olderTicket ∈ s.outstanding ∧
      ∀ reply, s.pager.settle olderTicket reply = (s.pager, .ok (.superseded 2)) := by
  let newer : Ticket := { olderTicket with sequence := 3 }
  let changed : Act := .restarted (.service 7 {})
  have h₁ : Run (.start 10 true) [changed] ⟨(start 10 true).restart (.service 7 {}), []⟩ :=
    @Run.snoc _ [] _ _ _ .nil (.restart _)
  have h₂ : Run (.start 10 true) [changed, .asked olderTicket]
      ⟨{ (start 10 true).restart (.service 7 {}) with issued := 2 }, [olderTicket]⟩ :=
    .snoc h₁ (.ask (show ask _ 1 = _ from rfl))
  have h₃ : Run (.start 10 true) [changed, .asked olderTicket, .asked newer]
      ⟨{ (start 10 true).restart (.service 7 {}) with issued := 3 }, [newer, olderTicket]⟩ :=
    .snoc h₂ (.ask (show ask _ 1 = _ from rfl))
  refine ⟨_, _, h₃, by simp, fun reply => ?_⟩
  have ht := (pages_and_tickets_of_run h₃).2.2.2.1 olderTicket (by simp)
  exact (ht.2 [changed] [.asked newer] reply rfl).2 rfl

end Tabula.Pager
