import Tabula.Proofs.Pager.Tickets

/-!
# Pages that may be asked for

Over a file of the service, the page numbers that may be asked for follow the counts of the page
that was put on display last. A page of the service brings the service's counts, and a page that is
cut from the last known table, because the service did not answer, brings the counts of that table.
`begin_eq_error_iff_of_run` says what comes of it: after the service has counted so many pages, a
call for one of them is refused exactly if a page was cut from the last known table since and that
table has fewer pages.

So as long as the service answers, none of its pages is out of range; but the second call for a page
that only the service has is refused once the first one had to make do with the last known table
(`refused_of_fallback`). A call that is not refused never fails, whatever the service replies.

The counts are followed through the run behind the service's answer (`Recounted`). That a page which
goes on display was asked of the present source at the present page size is part of `Lawful`.
-/

namespace Tabula.Pager

/-! ### What goes on display -/

/-- Whether the source or the page size is set, so that pages are counted anew. -/
def Act.recounts : Act → Bool
  | restarted _ | resized _ => true
  | _ => false

/-- Whether a page of an origin is put on display. -/
def Act.shows (origin : Origin) : Act → Bool
  | finished _ (.ok (.applied page)) => page.origin == origin
  | _ => false

variable {p : Pager} {t : Ticket} {reply : Reply} {page : Page} {s s' m : System}
  {acts before after : List Act}

/-- A page of a file comes from the service with the service's counts, or it is cut from the last
known table and has the counts of that. -/
theorem origin_of_pageOf (hsource : t.source.fromService = true)
    (hpage : p.pageOf t reply = .ok page) :
    page.origin = .service ∨
      page.origin = .fallback ∧
        page.info.totalPages = PageInfo.pageCount t.source.dataset.size t.pageSize := by
  rcases Ticket.pageOf_cases hpage with ⟨hservice, -⟩ | ⟨horigin, hcut⟩
  · exact .inl hservice
  · rw [hsource] at horigin
    refine .inr ⟨horigin, ?_⟩
    rw [hcut.within.totalPages_eq, Ticket.size_of_pageOf hpage]

/-- Only the page of a file comes from the service. -/
theorem fromService_of_origin (hpage : p.pageOf t reply = .ok page)
    (horigin : page.origin = .service) : t.source.fromService = true := by
  rcases Ticket.pageOf_cases hpage with ⟨-, hfrom, -⟩ | ⟨hother, -⟩
  · exact hfrom
  · rw [horigin] at hother
    split at hother <;> exact absurd hother (by simp)

/-- A call for a page of a file that got its ticket does not fail. -/
theorem exists_settle_of_fromService (hsource : t.source.fromService = true) (p : Pager)
    (reply : Reply) : ∃ outcome, (p.settle t reply).2 = .ok outcome := by
  have hservable : t.Servable := fun d hd => absurd hsource (by simp [hd, RowSource.fromService])
  obtain ⟨page, hpage⟩ := hservable.exists_pageOf p reply
  exact ⟨_, congrArg Prod.snd (settle_of_pageOf hpage)⟩

/-- The end of a call that puts a page on display. -/
theorem of_applied (hl : Lawful acts s) {result : Except DataFault PageOutcome}
    (hstep : Step s (.finished t result) s') (hresult : result = .ok (.applied page)) :
    (∃ reply, s.pager.pageOf t reply = .ok page) ∧ s'.pager.source = s.pager.source ∧
      s'.pager.info = page.info ∧ t.source = s.pager.source ∧
        t.pageSize = s.pager.info.size := by
  cases hstep with
  | @finish p ts₁ ts₂ _ reply =>
    have ht : t ∈ ts₁ ++ t :: ts₂ := List.mem_append_cons_self
    rcases hl.settle_cases ht reply with ⟨page', hpage', -, hsource, hsize, heq⟩ | heq
    · rw [heq] at hresult ⊢
      obtain rfl : page' = page := PageOutcome.applied.inj (Except.ok.inj hresult)
      exact ⟨⟨reply, hpage'⟩, rfl, rfl, hsource, hsize⟩
    · -- a stale ticket puts nothing on display
      rw [heq] at hresult
      exact absurd (Except.ok.inj hresult) (by simp)

/-! ### Runs in two parts -/

theorem Run.of_snoc {start : System} {a : Act} (h : Run start (acts ++ [a]) s') :
    ∃ s, Run start acts s ∧ Step s a s' := by
  generalize hacts : acts ++ [a] = all at h
  cases h with
  | nil => simp at hacts
  | @snoc acts' s _ b hrun hstep =>
    obtain ⟨rfl, hab⟩ := List.append_inj' hacts rfl
    obtain rfl := List.singleton_inj.1 hab
    exact ⟨s, hrun, hstep⟩

theorem Run.of_append {start : System} (h : Run start (before ++ after) s) :
    ∃ m, Run start before m ∧ Run m after s := by
  -- on the second part, from its end
  induction after using List.reverseRecOn generalizing s with
  | nil =>
    rw [List.append_nil] at h
    exact ⟨s, h, .nil⟩
  | append_singleton after a ih =>
    rw [← List.append_assoc] at h
    obtain ⟨s', hrun, hstep⟩ := h.of_snoc
    obtain ⟨m, hbefore, hafter⟩ := ih hrun
    exact ⟨m, hbefore, .snoc hafter hstep⟩

theorem Lawful.run (hl : Lawful acts m) (h : Run m after s) : Lawful (acts ++ after) s := by
  induction h with
  | nil => rwa [List.append_nil]
  | snoc _ hstep ih =>
    rw [← List.append_assoc]
    exact ih.step hstep

/-! ### Counts behind an answer of the service -/

/-- A pager later on, with the same source and page size, and with the counts that it had or those
of the last known table. -/
structure Recounted (fellBack : Bool) (p p' : Pager) : Prop where
  source_eq : p'.source = p.source
  size_eq : p'.info.size = p.info.size
  totalPages_eq : p'.info.totalPages =
    if fellBack then PageInfo.pageCount p.source.dataset.size p.info.size else p.info.totalPages

/-- What puts no page on display and sets neither source nor counts leaves all as it is. -/
theorem Recounted.stay {fellBack : Bool} {p p' p'' : Pager} {a : Act}
    (hr : Recounted fellBack p p') (ha : a.shows .fallback = false)
    (hsource : p''.source = p'.source) (hinfo : p''.info = p'.info) :
    Recounted (fellBack || a.shows .fallback) p p'' := by
  rw [ha, Bool.or_false]
  exact ⟨hsource.trans hr.source_eq, hinfo ▸ hr.size_eq, hinfo ▸ hr.totalPages_eq⟩

/-- **One step.** A page that goes on display and is not the service's brings the counts of the last
known table, and all else that may happen leaves the counts alone. -/
theorem Recounted.step {fellBack : Bool} {a : Act} (hl : Lawful acts s)
    (hr : Recounted fellBack p s.pager) (hsource : p.source.fromService = true)
    (hstep : Step s a s') (hrecounts : a.recounts = false) (hshows : a.shows .service = false) :
    Recounted (fellBack || a.shows .fallback) p s'.pager := by
  cases hstep with
  -- a new source or page size counts anew, which the acts in question do not
  | restart source => exact absurd hrecounts (by simp [Act.recounts])
  | resize h => exact absurd hrecounts (by simp [Act.recounts])
  | refuseSize h => exact hr.stay rfl rfl rfl
  | refusePage h => exact hr.stay rfl rfl rfl
  | abandon => exact hr.stay rfl rfl rfl
  | ask h =>
    obtain ⟨-, rfl, rfl⟩ := ask_eq_ok_iff.1 h
    exact hr.stay rfl rfl rfl
  | @finish q ts₁ ts₂ t reply =>
    have ht : t ∈ ts₁ ++ t :: ts₂ := List.mem_append_cons_self
    rcases hl.settle_cases ht reply with ⟨page, hpage, -, htsource, htsize, heq⟩ | heq
    · rw [heq] at hshows ⊢
      have htsource : t.source = p.source := htsource.trans hr.source_eq
      have hsize : page.info.size = p.info.size :=
        (Ticket.size_of_pageOf hpage).trans (htsize.trans hr.size_eq)
      rcases origin_of_pageOf (htsource ▸ hsource) hpage with horigin | ⟨horigin, htotal⟩
      · exact absurd hshows (by simp [Act.shows, horigin])
      · have hfallback : Act.shows .fallback (.finished t (.ok (.applied page))) = true := by
          simp [Act.shows, horigin]
        refine ⟨hr.source_eq, hsize, ?_⟩
        rw [hfallback, Bool.or_true, if_pos rfl, ← htsource, ← hsize, Ticket.size_of_pageOf hpage]
        exact htotal
    · -- a stale ticket puts nothing on display
      rw [heq]
      exact hr.stay rfl rfl rfl

/-- **Every run.** While neither source nor page size is set and no page of the service goes on
display, the counts are the old ones until a page is cut from the last known table, and those of
that table from then on. -/
theorem recounted_of_run (hl : Lawful acts m) (hsource : m.pager.source.fromService = true)
    (h : Run m after s)
    (hafter : ∀ a ∈ after, a.recounts = false ∧ a.shows .service = false) :
    Recounted (after.any (Act.shows .fallback)) m.pager s.pager := by
  -- on the run, one step at its end after the other
  induction h with
  | nil => exact ⟨rfl, rfl, rfl⟩
  | @snoc acts' s s' a hrun hstep ih =>
    have hr := ih fun b hb => hafter b (List.mem_append_left _ hb)
    obtain ⟨hrecounts, hshows⟩ := hafter a (List.mem_append_right _ (List.mem_singleton_self a))
    rw [List.any_append, List.any_cons, List.any_nil, Bool.or_false]
    exact hr.step (hl.run hrun) hsource hstep hrecounts hshows

/-! ### What is out of range -/

/-- **Refused calls.** Let the service have answered with so many pages, which went on display, and
let neither source nor page size have been set since, and no other page of the service have gone on
display. A call for one of these pages is refused, as out of range, exactly if a page was cut from
the last known table since and the call asks for a page behind the last of that table. A call that
got its ticket does not fail, whatever comes of the request. -/
theorem begin_eq_error_iff_of_run {pageSize : Nat} {hasService : Bool}
    (h : Run (.start pageSize hasService) (before ++ .finished t (.ok (.applied page)) :: after) s)
    (horigin : page.origin = .service)
    (hafter : ∀ a ∈ after, a.recounts = false ∧ a.shows .service = false) :
    s.pager.source.fromService = true ∧
    (∀ index, 1 ≤ index → index ≤ page.info.totalPages → ∀ p fault,
      s.pager.begin index = (p, .done (.error fault)) ↔
        p = s.pager ∧ fault = .noSuchPage index s.pager.info.totalPages ∧
          after.any (Act.shows .fallback) = true ∧
            max (PageInfo.pageCount s.pager.source.dataset.size s.pager.info.size) 1 < index) ∧
    (∀ index p t', s.pager.ask index = .ok (p, t') →
      ∀ q reply, ∃ outcome, (settle q t' reply).2 = .ok outcome) := by
  -- the run up to the answer, the answer, and the run since
  rw [List.append_cons] at h
  obtain ⟨m, hanswered, hsince⟩ := h.of_append
  have hl := lawful_of_run hanswered
  obtain ⟨b, hbefore, hanswer⟩ := hanswered.of_snoc
  obtain ⟨⟨reply, hpage⟩, hsource, hinfo, htsource, -⟩ :=
    of_applied (lawful_of_run hbefore) hanswer rfl
  have hfrom : m.pager.source.fromService = true := by
    rw [hsource, ← htsource]
    exact fromService_of_origin hpage horigin
  have hr := recounted_of_run hl hfrom hsince hafter
  refine ⟨hr.source_eq ▸ hfrom, ?_, ?_⟩
  · intro index hone hle p fault
    rw [(hl.run hsince).begin_refused_iff]
    have hout : ¬ (1 ≤ index ∧ index ≤ s.pager.info.lastIndex) ↔
        after.any (Act.shows .fallback) = true ∧
          max (PageInfo.pageCount s.pager.source.dataset.size s.pager.info.size) 1 < index := by
      unfold PageInfo.lastIndex
      rw [hr.totalPages_eq, hr.source_eq, hr.size_eq]
      cases after.any (Act.shows .fallback) with
      | false =>
        -- the counts are still those of the answer
        rw [hinfo]
        simp only [Bool.false_eq_true, if_false, false_and, iff_false]
        omega
      | true =>
        simp only [if_true, true_and]
        omega
    rw [hout]
    tauto
  · intro index p t' hask q reply
    obtain ⟨-, -, rfl⟩ := ask_eq_ok_iff.1 hask
    exact exists_settle_of_fromService (hr.source_eq ▸ hfrom) q reply

/-- A file that was last known with one row. -/
def grownFile : RowSource :=
  .service 1 { columns := ["n"], rows := [∅] }

/-- A ticket for one of its pages, each of one row. -/
def grownTicket (sequence index : Nat) : Ticket :=
  { sequence, source := grownFile, index, pageSize := 1 }

/-- The first of its pages, now that there are three. -/
def grownPage : Page :=
  { rows := [∅], info := { index := 1, size := 1, totalRows := 3, totalPages := 3 },
    origin := .service }

/-- What is shown in place of its second page while the service does not answer. -/
def standInPage : Page :=
  grownFile.dataset.nearestPage 2 1

/-- The pager after the service answered for the first page and not for the second. -/
def standInPager : Pager :=
  { source := grownFile, info := standInPage.info, current := standInPage, issued := 3,
    hasService := true }

/-- The file is opened and its first page is asked for. -/
def grownActs : List Act :=
  [.restarted grownFile, .asked (grownTicket 2 1)]

/-- The second page is asked for in vain. -/
def standInActs : List Act :=
  [.asked (grownTicket 3 2), .finished (grownTicket 3 2) (.ok (.applied standInPage))]

theorem run_standInPager :
    Run (.start 1 true)
      (grownActs ++ .finished (grownTicket 2 1) (.ok (.applied grownPage)) :: standInActs)
      ⟨standInPager, []⟩ := by
  let opened : Pager := (start 1 true).restart grownFile
  let answered : Pager :=
    { opened with info := grownPage.info, current := grownPage, issued := 2 }
  let served : ServedPage := { rows := [∅], totalRecords := 3, totalPages := 3 }
  have h₁ : Run (.start 1 true) [.restarted grownFile] ⟨opened, []⟩ :=
    @Run.snoc _ [] _ _ _ .nil (.restart _)
  have h₂ := h₁.snoc (.ask (show ask _ 1 = .ok ({ opened with issued := 2 }, grownTicket 2 1)
    from rfl))
  have h₃ : Run (.start 1 true) _ ⟨answered, []⟩ :=
    h₂.snoc (@Step.finish _ [] [] (grownTicket 2 1) (.ok (.page served)))
  have h₄ := h₃.snoc (.ask (show ask _ 2 = .ok ({ answered with issued := 3 }, grownTicket 3 2)
    from rfl))
  exact h₄.snoc (@Step.finish _ [] [] (grownTicket 3 2) (.error (.lost "timeout")))

theorem standInActs_only_fallback :
    ∀ a ∈ standInActs, a.recounts = false ∧ a.shows .service = false := by
  simp [standInActs, Act.recounts, Act.shows, standInPage, Dataset.nearestPage]

/-- Of the three pages of the service, the first may still be asked for, and the third may not. -/
theorem begin_standInPager :
    (∀ p fault, standInPager.begin 1 ≠ (p, .done (.error fault))) ∧
      standInPager.begin 3 = (standInPager, .done (.error (.noSuchPage 3 1))) := by
  have hbegin := (begin_eq_error_iff_of_run run_standInPager rfl standInActs_only_fallback).2.1
  constructor
  · intro p fault hp
    obtain ⟨-, -, -, hlast⟩ := (hbegin 1 (by decide) (by decide) p fault).1 hp
    exact absurd hlast (by decide)
  · exact (hbegin 3 (by decide) (by decide) _ _).2 ⟨rfl, rfl, rfl, by decide⟩

/-- The second page, which was just accepted and is one of the service's three, is out of range when
it is asked for again. -/
theorem refused_of_fallback :
    Run (.start 1 true)
      (grownActs ++ .finished (grownTicket 2 1) (.ok (.applied grownPage)) :: standInActs)
      ⟨standInPager, []⟩ ∧
    grownPage.origin = .service ∧
    (∀ a ∈ standInActs, a.recounts = false ∧ a.shows .service = false) ∧
    2 ≤ grownPage.info.totalPages ∧
    standInPager.begin 2 = (standInPager, .done (.error (.noSuchPage 2 1))) :=
  ⟨run_standInPager, rfl, standInActs_only_fallback, by decide, rfl⟩

end Tabula.Pager
