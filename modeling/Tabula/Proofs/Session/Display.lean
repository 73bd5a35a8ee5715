import Tabula.Proofs.Pager.Display
import Tabula.Proofs.Session.Derived
import Tabula.Proofs.Session.Waiting

/-!
# The rows on display

A session shows the page that its pager displays, or, before any is loaded, the first page of the
view. `shownRows_of_reachable` says that either way, unless the page is the service's, these are the
rows of the view at the place that the pager tells, whatever calls wait and whatever the service
replies.

Nothing is proved anew about calls: the pager of a session is what a run of the pager alone leads to
(`paged_of_reachable`), what it displays belongs to its source (`Pager.presents_of_run`), and the
table of its source is the view (`upToDate_of_reachable`).
-/

namespace Tabula.Session

variable {settings : Settings} {y : System}

/-- **The rows on display.** In every state that calls, replies and cancellations lead to, in
whatever order, and in which the page on display did not come from the service, the rows on display
are those of the view from the first row of the page that the pager tells to its last, or to the end
of the view. The page is numbered from one on and holds at least one row. -/
theorem shownRows_of_reachable (h : Reachable settings y)
    (horigin : ∀ page, y.session.pager.current = some page → page.origin ≠ .service) :
    1 ≤ y.session.pager.info.index ∧ 1 ≤ y.session.pager.info.size ∧
      y.session.shownRows =
        y.session.table.view.rows.extract
          ((y.session.pager.info.index - 1) * y.session.pager.info.size)
          (y.session.pager.info.index * y.session.pager.info.size) := by
  obtain ⟨acts, hrun⟩ := (paged_of_reachable h).run
  have hl := Pager.lawful_of_run hrun
  have hp := Pager.presents_of_run hrun
  have hview : y.session.pager.source.dataset = y.session.table.view := by
    rw [(upToDate_of_reachable h).source_eq, Table.dataset_source]
  have hsize : 1 ≤ y.session.pager.info.size := hl.size_pos
  unfold shownRows shown
  cases hcurrent : y.session.pager.current with
  | none =>
    -- page one is cut from the view on the spot
    have hfirst : y.session.pager.info.index = 1 := hp.first hcurrent
    rw [hfirst]
    exact ⟨Nat.le_refl 1, hsize, Dataset.pageRows_eq_extract _ (Nat.le_refl 1) _⟩
  | some page =>
    -- the page was cut when it was loaded, from what is still the view
    have hcut := hp.cut page hcurrent (horigin page hcurrent)
    obtain ⟨hinfo, -⟩ := hl.shown page hcurrent
    rw [hinfo] at hsize ⊢
    have hone := hcut.within.one_le_index
    refine ⟨hone, hsize, ?_⟩
    show page.rows = _
    rw [hcut.rows_eq, hview, Dataset.pageRows_eq_extract _ hone]

/-- A file with two names, opened. -/
def namesOpened : System :=
  let listing : List Entry :=
    [{ rows := names.rows, description := uploadDescription, isCurrent := true,
       version := uploadNumber }]
  .after [] <| .ofStep <|
    resume { settings := {}, pager := .start 100 true } (.connectListing 7) (.ok (.listing listing))

/-- The same, with pages of one row. -/
def namesResized : System :=
  .after namesOpened.waiting (Call.begin namesOpened.session (.resizePages 1))

/-- The second page is asked for. -/
def secondNameAsked : System :=
  .after namesResized.waiting (Call.begin namesResized.session (.showPage 2))

/-- The ticket of the second page. -/
def secondNameTicket : Ticket where
  sequence := 3
  source := .service 7 names
  index := 2
  pageSize := 1

/-- The service did not answer. -/
def secondNameShown : System :=
  .after [] <| .ofStep <|
    secondNameAsked.session.resume (.page secondNameTicket) (.error (.lost "timeout"))

theorem reachable_secondNameShown : Reachable {} secondNameShown := by
  have hstart : Session.start {} = .ok { settings := {}, pager := .start 100 true } := rfl
  have hasked := Reachable.step (.start hstart) (.call (.connect 7))
  have hopened : Reachable {} namesOpened := hasked.step (@System.Step.reply _ [] [] _ _)
  have hresized : Reachable {} namesResized := hopened.step (.call (.resizePages 1))
  have hpage : Reachable {} secondNameAsked := hresized.step (.call (.showPage 2))
  have hwaiting : secondNameAsked = ⟨secondNameAsked.session, [.page secondNameTicket]⟩ := by
    have h : secondNameAsked.waiting = [.page secondNameTicket] := by decide +kernel
    rw [← h]
  rw [hwaiting] at hpage
  exact hpage.step (@System.Step.reply _ [] [] _ _)

/-- While the service does not answer, the second page is cut from the view. -/
theorem shownRows_secondNameShown :
    Reachable {} secondNameShown ∧
      (∀ page, secondNameShown.session.pager.current = some page → page.origin ≠ .service) ∧
      secondNameShown.session.pager.info.index = 2 ∧
      secondNameShown.session.shownRows = names.rows.drop 1 := by
  have hinfo : secondNameShown.session.pager.info =
      { index := 2, size := 1, totalRows := 2, totalPages := 2 } := by decide +kernel
  have hcurrent : secondNameShown.session.pager.current = some (names.nearestPage 2 1) := by
    decide +kernel
  have hview : secondNameShown.session.table.view = names := by decide +kernel
  have horigin : ∀ page, secondNameShown.session.pager.current = some page →
      page.origin ≠ .service := by
    intro page hpage
    rw [hcurrent] at hpage
    obtain rfl := Option.some.inj hpage
    simp [Dataset.nearestPage]
  have hrows := (shownRows_of_reachable reachable_secondNameShown horigin).2.2
  rw [hinfo, hview] at hrows
  exact ⟨reachable_secondNameShown, horigin, congrArg PageInfo.index hinfo, hrows⟩

end Tabula.Session
