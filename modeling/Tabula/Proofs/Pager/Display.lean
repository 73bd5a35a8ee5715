import Tabula.Proofs.Pager.Tickets

/-!
# The page on display

A page that goes on display is either cut from the table in memory of the source or it is the
service's (`Ticket.pageOf_cases`). What is said of it here follows that distinction.

* Its rows: a page that is not the service's lies in the table in memory of the present source, and
  where no page is on display, pages are counted from the first on (`Presents`, `presents_of_run`).
* Its number: a page that lies in a table is one of the pages that may be asked for. A page of the
  service has the number that was asked for and the counts that the service answered with, and these
  need not fit: `index_in_range_of_run` says exactly when the page on display may be asked for again,
  and `index_behind_last_of_shrunk` shows one that may not.

Both are kept by every step of a pager and its calls. What a call may do at its end is told by
`Lawful.settle_cases`.
-/

namespace Tabula.Pager

variable {acts : List Act} {a : Act} {p : Pager} {s s' : System}

/-! ### The rows on display -/

/-- A pager that displays what belongs to its source. -/
structure Presents (p : Pager) : Prop where
  /-- Before a page is loaded, pages are counted from the first on. -/
  first : p.current = none → p.info.index = 1
  /-- A page on display is the service's, or it lies in the table in memory. -/
  cut : ∀ page, p.current = some page → page.origin ≠ .service → page.CutFrom p.source.dataset

/-- **One step.** What goes on display belongs to the source, and with another source or page size
nothing is on display. -/
theorem Presents.step (hl : Lawful acts s) (hp : s.pager.Presents) (hstep : Step s a s') :
    s'.pager.Presents := by
  cases hstep with
  | restart source => exact ⟨fun _ => rfl, fun _ h => absurd h (by simp [restart])⟩
  | resize h =>
    obtain ⟨-, rfl⟩ := resizePages_eq_ok_iff.1 h
    exact ⟨fun _ => rfl, fun _ h => absurd h (by simp)⟩
  | refuseSize h => exact hp
  | refusePage h => exact hp
  | abandon => exact hp
  | ask h =>
    obtain ⟨-, rfl, -⟩ := ask_eq_ok_iff.1 h
    exact ⟨hp.first, hp.cut⟩
  | @finish p ts₁ ts₂ t reply =>
    have ht : t ∈ ts₁ ++ t :: ts₂ := List.mem_append_cons_self
    rcases hl.settle_cases ht reply with ⟨page, hpage, -, hsource, -, heq⟩ | heq
    · rw [heq]
      refine ⟨fun h => absurd h (by simp), fun page' h horigin => ?_⟩
      obtain rfl := Option.some.inj h
      -- a page that is not from the service is cut from the table that its ticket names, which is
      -- the current one
      rcases Ticket.pageOf_cases hpage with ⟨hservice, -⟩ | ⟨-, hcut⟩
      · exact absurd hservice horigin
      · exact hsource ▸ hcut
    · rw [heq]
      exact hp

/-- **Every run.** What is on display belongs to the source. -/
theorem presents_of_run {pageSize : Nat} {hasService : Bool}
    (h : Run (.start pageSize hasService) acts s) : s.pager.Presents := by
  induction h with
  | nil => exact ⟨fun _ => rfl, fun _ h => absurd h (by simp [System.start, start])⟩
  | snoc hrun hstep ih => exact ih.step (lawful_of_run hrun) hstep

/-! ### The number of the page on display -/

/-- Whether another page, or none, goes on display. -/
def Act.turns : Act → Bool
  | restarted _ | resized _ | finished _ (.ok (.applied _)) => true
  | _ => false

/-- Whether a page of the service goes on display that is none of the pages that the service
counts. -/
def Act.undercounts : Act → Bool
  | finished t (.ok (.applied page)) =>
    page.origin == .service && decide (page.info.lastIndex < t.index)
  | _ => false

/-- The last act that turned the page: what led to the page on display. -/
def lastTurn? (acts : List Act) : Option Act :=
  acts.reverse.find? Act.turns

theorem lastTurn?_append (acts : List Act) (a : Act) :
    lastTurn? (acts ++ [a]) = if a.turns then some a else lastTurn? acts := by
  unfold lastTurn?
  rw [List.reverse_append, List.reverse_singleton, List.singleton_append, List.find?_cons]
  cases a.turns <;> rfl

/-- The invariant of the page on display, over what has happened so far. -/
structure Ranged (acts : List Act) (s : System) : Prop where
  /-- Pages are asked for by numbers from one on. -/
  asked : ∀ t ∈ s.outstanding, 1 ≤ t.index
  /-- The page on display is numbered from one on. -/
  one_le_index : 1 ≤ s.pager.info.index
  /-- It is behind the last page exactly if the service counted so. -/
  index_le_iff : s.pager.info.index ≤ s.pager.info.lastIndex ↔
    ∀ a, lastTurn? acts = some a → a.undercounts = false

/-- What happens without another page on display. -/
theorem Ranged.stay {ts ts' : List Ticket} (hr : Ranged acts ⟨p, ts⟩) (ha : a.turns = false)
    {p' : Pager} (hinfo : p'.info = p.info) (hts : ∀ t ∈ ts', 1 ≤ t.index) :
    Ranged (acts ++ [a]) ⟨p', ts'⟩ where
  asked := hts
  one_le_index := hinfo ▸ hr.one_le_index
  index_le_iff := by
    rw [lastTurn?_append, ha, hinfo]
    exact hr.index_le_iff

/-- What happens that leads to another page on display, or none. -/
theorem Ranged.turn {ts ts' : List Ticket} (hr : Ranged acts ⟨p, ts⟩) (ha : a.turns = true)
    {p' : Pager} (hone : 1 ≤ p'.info.index)
    (hle : p'.info.index ≤ p'.info.lastIndex ↔ a.undercounts = false)
    (hts : ∀ t ∈ ts', t ∈ ts) : Ranged (acts ++ [a]) ⟨p', ts'⟩ where
  asked := fun t ht => hr.asked t (hts t ht)
  one_le_index := hone
  index_le_iff := by
    rw [lastTurn?_append, ha, hle]
    simp

/-- **One step.** A page that is put on display without the service's answer lies in the table in
memory; one that is put there with it has the number that was asked for, whatever the answer
counts. -/
theorem Ranged.step (hl : Lawful acts s) (hr : Ranged acts s) (hstep : Step s a s') :
    Ranged (acts ++ [a]) s' := by
  have hfirst (rows size : Nat) : 1 ≤ (PageInfo.first rows size).lastIndex := Nat.le_max_right _ _
  cases hstep with
  | restart source =>
    exact hr.turn rfl (Nat.le_refl 1) ⟨fun _ => rfl, fun _ => hfirst _ _⟩ fun _ ht => ht
  | resize h =>
    obtain ⟨-, rfl⟩ := resizePages_eq_ok_iff.1 h
    exact hr.turn rfl (Nat.le_refl 1) ⟨fun _ => rfl, fun _ => hfirst _ _⟩ fun _ ht => ht
  | refuseSize h => exact hr.stay rfl rfl hr.asked
  | refusePage h => exact hr.stay rfl rfl hr.asked
  | ask h =>
    obtain ⟨⟨hone, -⟩, rfl, rfl⟩ := ask_eq_ok_iff.1 h
    exact hr.stay rfl rfl (List.forall_mem_cons.2 ⟨hone, hr.asked⟩)
  | @abandon p ts₁ ts₂ t =>
    have hts := subset_append_cons t ts₁ ts₂
    exact hr.stay rfl rfl fun t ht => hr.asked t (hts ht)
  | @finish p ts₁ ts₂ t reply =>
    have ht : t ∈ ts₁ ++ t :: ts₂ := List.mem_append_cons_self
    have hts := subset_append_cons t ts₁ ts₂
    rcases hl.settle_cases ht reply with ⟨page, hpage, -, -, -, heq⟩ | heq
    · rw [heq]
      rcases Ticket.pageOf_cases hpage with ⟨hservice, -, hindex⟩ | ⟨horigin, hcut⟩
      · -- the number that was asked for stands beside the counts of the answer
        refine hr.turn rfl (hindex ▸ hr.asked t ht) ?_ fun _ ht => hts ht
        simp [Act.undercounts, hservice, hindex]
      · have hservice : page.origin ≠ .service := by
          rw [horigin]
          split <;> simp
        refine hr.turn rfl hcut.within.one_le_index ?_ fun _ ht => hts ht
        simp [Act.undercounts, hservice, hcut.within.index_le]
    · rw [heq]
      exact hr.stay rfl rfl fun t ht => hr.asked t (hts ht)

/-- **Every run.** The invariant holds after every run from a start. -/
theorem ranged_of_run {pageSize : Nat} {hasService : Bool}
    (h : Run (.start pageSize hasService) acts s) : Ranged acts s := by
  induction h with
  | nil =>
    exact ⟨fun _ ht => absurd ht List.not_mem_nil, Nat.le_refl 1,
      fun _ _ h => absurd h (by simp [lastTurn?]), fun _ => Nat.le_max_right _ _⟩
  | snoc hrun hstep ih => exact ih.step (lawful_of_run hrun) hstep

/-- **The number of the page on display.** Whatever was asked, changed and answered in whatever
order, the page on display is numbered from one on. It is one of the pages that may be asked for,
and so may be asked for again, unless it came from the service and the service, in that very answer,
counted fewer pages. -/
theorem index_in_range_of_run {pageSize : Nat} {hasService : Bool}
    (h : Run (.start pageSize hasService) acts s) :
    1 ≤ s.pager.info.index ∧
    (s.pager.info.index ≤ s.pager.info.lastIndex ↔
      ∀ a, lastTurn? acts = some a → a.undercounts = false) ∧
    ((∃ p fault, s.pager.begin s.pager.info.index = (p, .done (.error fault))) ↔
      ∃ a, lastTurn? acts = some a ∧ a.undercounts = true) := by
  have hr := ranged_of_run h
  refine ⟨hr.one_le_index, hr.index_le_iff, ?_⟩
  -- the range check is all that refuses a page
  have hrefused : (∃ p fault, s.pager.begin s.pager.info.index = (p, .done (.error fault))) ↔
      ¬ s.pager.info.index ≤ s.pager.info.lastIndex := by
    simp [(lawful_of_run h).begin_refused_iff, hr.one_le_index]
  rw [hrefused, hr.index_le_iff]
  simp

/-- A file that was last known with two rows. -/
def shrunkFile : RowSource :=
  .service 1 { columns := ["n"], rows := [∅, ∅] }

/-- A ticket for the second of its pages of one row. -/
def shrunkTicket : Ticket :=
  { sequence := 2, source := shrunkFile, index := 2, pageSize := 1 }

/-- The answer of the service, which counts so many pages by now. -/
def shrunkPage (count : Nat) : Page :=
  { rows := [], info := { index := 2, size := 1, totalRows := count, totalPages := count }
    origin := .service }

/-- The pager that displays the answer. -/
def shrunkPager (count : Nat) : Pager :=
  { source := shrunkFile, info := (shrunkPage count).info, current := shrunkPage count, issued := 2,
    hasService := true }

/-- The file is opened, its second page is asked for, and the service answers. -/
def shrunkActs (count : Nat) : List Act :=
  [.restarted shrunkFile, .asked shrunkTicket,
    .finished shrunkTicket (.ok (.applied (shrunkPage count)))]

theorem run_shrunkPager (count : Nat) :
    Run (.start 1 true) (shrunkActs count) ⟨shrunkPager count, []⟩ := by
  let opened : Pager := (start 1 true).restart shrunkFile
  let served : ServedPage := { rows := [], totalRecords := count, totalPages := count }
  have h₁ : Run (.start 1 true) [.restarted shrunkFile] ⟨opened, []⟩ :=
    @Run.snoc _ [] _ _ _ .nil (.restart _)
  have h₂ := h₁.snoc (.ask (show ask _ 2 = .ok ({ opened with issued := 2 }, shrunkTicket)
    from rfl))
  exact h₂.snoc (@Step.finish _ [] [] shrunkTicket (.ok (.page served)))

/-- The second page may be asked for again when the service counts three. -/
theorem index_in_range_shrunkPager :
    (shrunkPager 3).info.index = 2 ∧ (shrunkPager 3).info.index ≤ (shrunkPager 3).info.lastIndex ∧
      ¬ ∃ p fault, (shrunkPager 3).begin 2 = (p, .done (.error fault)) := by
  obtain ⟨-, hle, hrefused⟩ := index_in_range_of_run (run_shrunkPager 3)
  refine ⟨rfl, hle.2 ?_, fun h => ?_⟩
  · rintro a ha
    obtain rfl := Option.some.inj ha
    rfl
  · obtain ⟨a, ha, hunder⟩ := hrefused.1 h
    obtain rfl := Option.some.inj ha
    exact absurd hunder (by decide)

/-- The second page is on display, and out of range when it is asked for again, when the service
counts one. -/
theorem index_behind_last_of_shrunk :
    Run (.start 1 true) (shrunkActs 1) ⟨shrunkPager 1, []⟩ ∧
      ¬ (shrunkPager 1).info.index ≤ (shrunkPager 1).info.lastIndex ∧
      (shrunkPager 1).begin (shrunkPager 1).info.index =
        (shrunkPager 1, .done (.error (.noSuchPage 2 1))) :=
  ⟨run_shrunkPager 1, by decide, rfl⟩

end Tabula.Pager
