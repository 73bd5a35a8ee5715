import Tabula.Proofs.Session.System

/-!
# What follows from the version on display

The profiles, the sorted rows, the rows in view and the source of the pages all follow from the
version on display, the order and the query, but a session keeps them and every call has to bring
them up to date. `derived_of_reachable` says that none forgets to, whatever waits and whatever the
service replies.

The invariant `UpToDate` is kept by every turn. A turn that puts a version on display computes
everything anew, so what was there before plays no part, with one exception: the version has to be
there (`Table.Presentable`). A turn that sorts or searches builds on what is up to date already. All
other turns leave the table and the source of the pages alone.
-/

namespace Tabula

namespace Table

/-- A table whose profiles and rows follow from the version on display. -/
structure Shows (classifier : Classifier) (t : Table) (v : Version) : Prop where
  /-- The history has a version to display. -/
  placed : t.history.Placed
  /-- The version is on display. -/
  displayed : t.history.displayed? = some v
  /-- The profiles are those of the version. -/
  profiles_eq : t.profiles = classifier.profile v.dataset
  /-- The sorted rows are those of the version, in the order that was chosen. -/
  sorted_eq : t.sorted = v.dataset.inOrderOf t.sort
  /-- The rows in view are the sorted ones that match. -/
  view_eq : t.view = t.sorted.search t.query

variable {classifier : Classifier} {t : Table}

/-- A table is put on display whole, or there was none. -/
theorem Presentable.display (ht : t.Presentable) :
    t.display classifier = {} ∨ ∃ v, (t.display classifier).Shows classifier v := by
  rcases ht with rfl | hp
  · exact .inl rfl
  · obtain ⟨v, hv⟩ := hp.exists_displayed?
    refine .inr ⟨v, ?_⟩
    simp only [Table.display, hv]
    exact ⟨hp, hv, rfl, rfl, rfl⟩

end Table

namespace Session

/-- A session whose table and pages follow from the version on display. -/
structure UpToDate (settings : Settings) (s : Session) : Prop where
  /-- The settings are those that the session was started with. -/
  settings_eq : s.settings = settings
  /-- There is no table, or it shows a version. -/
  shows : s.table = {} ∨ ∃ v, s.table.Shows (.ofSettings settings) v
  /-- The pages are those of the rows in view. -/
  source_eq : s.pager.source = s.table.source

variable {settings : Settings} {s : Session}

theorem UpToDate.start (h : Session.start settings = .ok s) : s.UpToDate settings := by
  obtain rfl := eq_of_start h
  exact ⟨rfl, .inl rfl, rfl⟩

theorem UpToDate.presentable (hs : s.UpToDate settings) : s.table.Presentable :=
  hs.shows.imp id fun ⟨_, hv⟩ => hv.placed

/-- A version on display is the one that is shown. -/
theorem UpToDate.shows_displayed (hs : s.UpToDate settings) {v : Version}
    (hv : s.table.history.displayed? = some v) : s.table.Shows (.ofSettings settings) v := by
  rcases hs.shows with ht | ⟨v', hv'⟩
  · rw [ht] at hv
    exact absurd hv (by simp [History.displayed?])
  · obtain rfl := Option.some.inj (hv'.displayed.symm.trans hv)
    exact hv'

/-- A session that shows the same table over a pager of the same source. -/
theorem UpToDate.repage (hs : s.UpToDate settings) {p : Pager} (hp : s.pager.SameSource p) :
    ({ s with pager := p } : Session).UpToDate settings where
  settings_eq := hs.settings_eq
  shows := hs.shows
  source_eq := hp.source_eq.trans hs.source_eq

theorem UpToDate.release (hs : s.UpToDate settings) (held : Bool) :
    (s.release held).UpToDate settings := by
  cases held with
  | true => exact ⟨hs.settings_eq, hs.shows, hs.source_eq⟩
  | false => exact hs

/-- A session that is given a table takes its pages from there. -/
theorem UpToDate.setTable (hs : s.UpToDate settings) {t : Table}
    (ht : t = {} ∨ ∃ v, t.Shows (.ofSettings settings) v) : (s.setTable t).UpToDate settings :=
  ⟨hs.settings_eq, ht, rfl⟩

/-- **One turn.** Every turn keeps a session up to date. -/
theorem UpToDate.turned (hs : s.UpToDate settings) {held : Bool} {ticket : Option Ticket}
    {turn : Turn} (h : Turned s held ticket turn) : turn.session.UpToDate settings := by
  cases h with
  | returned => exact hs.release held
  | waits hgate hticket => exact hs
  | shuts hopen hgate hticket => exact ⟨hs.settings_eq, hs.shows, hs.source_eq⟩
  | displays ht =>
    -- everything is computed from the version that is put on display
    have hr := hs.release held
    refine hr.setTable ?_
    rw [classifier, hr.settings_eq]
    exact (ht hs.presentable).display
  | @sorts v sort hv =>
    -- the version on display is the one that the profiles were taken of
    have hshown := hs.shows_displayed hv
    exact hs.setTable (.inr ⟨v, hshown.placed, hv, hshown.profiles_eq, rfl, rfl⟩)
  | @searches query hv =>
    -- a new query does not change what is sorted
    rcases hs.shows with ht | ⟨v, hshown⟩
    · rw [ht] at hv
      exact absurd hv (by simp [History.isEmpty])
    · exact hs.setTable
        (.inr ⟨v, hshown.placed, hshown.displayed, hshown.profiles_eq, hshown.sorted_eq, rfl⟩)
  | @resizes size p h =>
    obtain ⟨-, rfl⟩ := Pager.resizePages_eq_ok_iff.1 h
    exact hs.repage ⟨rfl, rfl⟩
  | asks h => exact hs.repage (Pager.sameSource_of_begin h)
  | pages h => exact hs.repage (Pager.sameSource_of_begin h)
  | pageFails h => exact hs.repage (Pager.sameSource_of_begin h)
  | finishes h => exact hs.repage (Pager.sameSource_of_finish h)

/-- **Every step.** A session stays up to date, whatever is called and whatever comes back. -/
theorem UpToDate.step {y y' : System} (hs : y.session.UpToDate settings)
    (hstep : System.Step y y') : y'.session.UpToDate settings := by
  cases hstep with
  | call c => exact hs.turned (turned_begin c)
  | @reply s ps₁ ps₂ pending reply => exact hs.turned (turned_resume pending reply)
  | @cancel s ps₁ ps₂ pending => exact hs.release pending.holdsGate

theorem upToDate_of_reachable {y : System} (h : Reachable settings y) :
    y.session.UpToDate settings := by
  induction h with
  | start h => exact .start h
  | step _ hstep ih => exact ih.step hstep

/-- **What is derived is up to date.** In every state that calls, replies and cancellations lead
to, in whatever order, either no table was shown yet and everything is empty, or a version is on
display and the profiles, the sorted rows and the rows in view are those of it, of the order and of
the query. Pages are always those of the rows in view. -/
theorem derived_of_reachable {y : System} (h : Reachable settings y) :
    (y.session.table = {} ∧ y.session.pager.source = .memory {} ∨
      ∃ v, y.session.table.history.displayed? = some v ∧
        y.session.table.profiles = (Classifier.ofSettings settings).profile v.dataset ∧
        (y.session.table.sort = .unsorted → y.session.table.sorted = v.dataset) ∧
        (∀ column direction, y.session.table.sort = .sorted column direction →
          y.session.table.sorted = v.dataset.sorted column direction) ∧
        y.session.table.view = y.session.table.sorted.search y.session.table.query) ∧
      y.session.pager.source = y.session.table.source := by
  have hs := upToDate_of_reachable h
  refine ⟨?_, hs.source_eq⟩
  rcases hs.shows with ht | ⟨v, hv⟩
  · refine .inl ⟨ht, ?_⟩
    rw [hs.source_eq, ht]
    rfl
  · refine .inr ⟨v, hv.displayed, hv.profiles_eq, fun hsort => ?_, fun column direction hsort => ?_,
      hv.view_eq⟩
    · rw [hv.sorted_eq, hsort]
      rfl
    · rw [hv.sorted_eq, hsort]
      rfl

/-- A table of two names. -/
def names : Dataset where
  columns := ["name"]
  rows := [⟨[("name", .text "ada")], by simp⟩, ⟨[("name", .text "bob")], by simp⟩]

/-- The pages of a table that is shown and searched are cut from the rows that match. -/
theorem source_of_search_names :
    ∃ y, Reachable {} y ∧ y.session.table.history.displayed? = some (.ofUpload names true) ∧
      y.session.pager.source = .memory (names.search "bo") := by
  have hstart : Session.start {} = .ok { settings := {}, pager := .start 100 true } := rfl
  have hshown := Reachable.step (.start hstart) (.call (.showTable names))
  have hsearched := Reachable.step hshown (.call (.search "bo"))
  refine ⟨_, hsearched, rfl, ?_⟩
  obtain ⟨⟨htable, -⟩ | ⟨v, hv, -, hsorted, -, hview⟩, hsource⟩ := derived_of_reachable hsearched
  · exact absurd (congrArg Table.query htable) (by decide)
  · obtain rfl := Option.some.inj hv
    rw [hsource]
    show RowSource.memory _ = _
    rw [hview, hsorted rfl]
    rfl

end Session

end Tabula
