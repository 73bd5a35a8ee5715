import Tabula.Proofs.Session.Serving

/-!
# Sessions that nobody has sorted or searched

A session that opened a file and ran filters, but neither sorted nor searched, shows the version on
display as it is (`Untouched`), in pages that it asks the service for. Filters keep it so
(`Level.untouched_filter_of_run`), and what is on display then is told by what they kept: a filter
puts the rows that it kept on display, under the columns of the first of them, or under the columns
that were there if it kept none (`Dataset.showing`).

The first page of such a session is the service's, and has the first rows of the table on display
(`Level.shown_showPage`). So the statistics are those of these rows, one for each column
(`Level.allStatistics_showPage`).
-/

namespace Tabula

/-- The table on display after a filter: what it kept, under the columns of the first row, or under
the columns from before if there is no row. -/
def Dataset.showing (d kept : Dataset) : Dataset :=
  if kept.rows = [] then { columns := d.columns } else .ofRows kept.rows

/-- Page one has the first rows. -/
theorem Dataset.pageRows_one (d : Dataset) (size : Nat) : d.pageRows 1 size = d.rows.take size := by
  rw [pageRows, Nat.sub_self, Nat.zero_mul, List.drop_zero]

/-- A version that is added goes on display. -/
theorem History.displayed?_appendAs {h h' : History} {number : VersionNumber} {dataset : Dataset}
    {description : String} (hok : h.appendAs number dataset description = .ok h') :
    h'.displayed? = some { number, dataset, description, isCurrent := true } := by
  obtain ⟨newest, hd, -, rfl⟩ := appendAs_eq_ok_iff.1 hok
  obtain ⟨hlt, -⟩ := List.getElem?_eq_some_iff.1 hd
  have hlen : (unmarked (h.versions.take (h.position + 1))).length = h.position + 1 := by
    rw [length_unmarked, List.length_take]
    omega
  rw [displayed?, List.getElem?_append_right hlen.le, hlen, Nat.sub_self]
  rfl

/-- Page one is served of any file. -/
theorem Store.exists_servedPage_one {st : Store} {file : FileNumber} {f : VersionedFile}
    (hf : st.file? file = some f) {size : Nat} (hs : 0 < size) :
    ∃ page, st.servedPage file 1 size = .ok page ∧
      page.rows = f.currentVersion.dataset.pageRows 1 size ∧
      page.totalRecords = f.currentVersion.dataset.size := by
  have hfile : st.file file = .ok f := by rw [Store.file, hf]
  obtain ⟨page, hpage⟩ : ∃ page, st.servedPage file 1 size = .ok page := by
    have hcut : f.currentVersion.dataset.page 1 size = .ok _ :=
      Dataset.page_eq_ok_iff.2 ⟨hs, Nat.le_refl 1, Nat.le_max_right _ _, rfl⟩
    rw [Store.servedPage, hfile]
    simp only [hcut, bind, Except.bind, pure, Except.pure]
    exact ⟨_, rfl⟩
  exact ⟨page, hpage, rows_of_servedPage_eq_ok hf hpage⟩

namespace Session

/-- A session that shows a table as it is, neither sorted nor searched, in pages of the size that
the settings say, for which it asks the service. -/
structure Untouched (settings : Settings) (s : Session) (d : Dataset) : Prop where
  displayed_eq : s.table.history.displayed?.map Version.dataset = some d
  sort_eq : s.table.sort = .unsorted
  query_eq : s.table.query = ""
  hasService_eq : s.pager.hasService = true
  size_eq : s.pager.info.size = settings.pageSize

variable {settings : Settings} {file : FileNumber} {f : VersionedFile} {st : Store}
  {s : Session} {d : Dataset} {query : String}

/-! ### Filters -/

/-- What is put on display comes unsorted, and from its first page on. -/
theorem Untouched.of_display (hservice : s.pager.hasService = true)
    (hsize : s.pager.info.size = settings.pageSize) {t : Table} {v : Version}
    (hv : t.history.displayed? = some v) (hquery : t.query = "") :
    (s.display t).Untouched settings v.dataset where
  displayed_eq := by rw [history_display, hv, Option.map_some]
  sort_eq := by simp only [display, setTable, Table.display, hv]
  query_eq := by simp only [display, setTable, Table.display, hv, hquery]
  hasService_eq := hservice
  size_eq := hsize

theorem Untouched.openGate (hs : s.Untouched settings d) : s.openGate.Untouched settings d :=
  ⟨hs.displayed_eq, hs.sort_eq, hs.query_eq, hs.hasService_eq, hs.size_eq⟩

/-- A file is opened with the rows of its current version on display. -/
theorem untouched_connect (hserves : st.Serves file f) (hservice : s.pager.hasService = true)
    (hsize : s.pager.info.size = settings.pageSize) :
    (runToEnd st (s.connect file)).session.Untouched settings
      (.ofRows f.currentVersion.dataset.rows) := by
  obtain ⟨history, hok, -, -, hsession⟩ := Level.exists_connected hserves s
  obtain ⟨first, hfirst, hhistory⟩ := (History.takeOver_listing_eq_ok_iff hserves.sound).1 hok
  obtain rfl : f.shown f.first = first := Except.ok.inj hfirst
  -- the listing ends with the current version, and its last entry goes on display
  have hdisplayed : history.displayed? = some (f.shown f.currentVersion) := by
    obtain ⟨hlast, -⟩ := hserves.sound.getLast?_versions
    rw [hhistory]
    show (f.versions.map f.shown)[f.others.length]? = _
    rw [List.getElem?_map, ← Option.map_some, ← hlast, List.getLast?_eq_getElem?]
    rfl
  rw [hsession]
  exact .of_display (t := { file := some file, history }) hservice hsize hdisplayed rfl

namespace Level

/-- A filter that can be run puts what it keeps on display. -/
theorem untouched_filter_of_run (h : Level settings file f st s) (hs : s.Untouched settings d)
    {kept : Dataset} {description : String}
    (hrun : Query.run f.currentVersion.dataset query = .ok (kept, description)) :
    (runToEnd st (s.filter query)).session.Untouched settings (d.showing kept) := by
  obtain ⟨-, -, history, happend, hsession⟩ := h.runToEnd_filter_of_run hrun
  have hresult : s.resultDataset kept.rows = d.showing kept := by
    have hcolumns : s.table.history.displayed?.map (fun v => v.dataset.columns) =
        some d.columns := by
      rw [← Option.map_some (f := Dataset.columns), ← hs.displayed_eq, Option.map_map]
      rfl
    rw [resultDataset, hcolumns, Dataset.showing]
    simp only [List.isEmpty_iff, Option.getD_some]
  rw [hsession, ← hresult]
  have hdisplayed := History.displayed?_appendAs happend
  exact (Untouched.of_display (t := { s.table with history }) hs.hasService_eq hs.size_eq hdisplayed
    hs.query_eq).openGate

/-- A filter that cannot be run leaves what is on display. -/
theorem untouched_filter_of_fault (h : Level settings file f st s) (hs : s.Untouched settings d)
    {fault : QueryFault} (hrun : Query.run f.currentVersion.dataset query = .error fault) :
    (runToEnd st (s.filter query)).session.Untouched settings d := by
  rw [(h.runToEnd_filter_of_fault hrun).2.2]
  exact hs.openGate

/-! ### The first page -/

/-- A page that the service served goes on display, if nothing superseded its ticket. -/
theorem resume_page {t : Ticket} (ht : t.sequence = s.pager.issued) (served : ServedPage) :
    s.resume (.page t) (.ok (.page served)) =
      let page := t.servedPage (.ok (.page served))
      s.endPage { s.pager with info := page.info, current := some page } (.applied page) := by
  rw [resume, Pager.finish, Pager.deliver_of_sequence_eq ht]

/-- The first page comes from the service, with the first rows of the table on display. -/
theorem shown_showPage (h : Level settings file f st s) (hs : s.Untouched settings d) :
    (runToEnd st (s.showPage 1)).session.shown =
        (d.rows.take settings.pageSize, some d.size) ∧
      (runToEnd st (s.showPage 1)).session.table = s.table ∧
      (runToEnd st (s.showPage 1)).session.settings = s.settings := by
  -- the table on display has the rows of the current version, so the service has its pages
  obtain ⟨v, hv, -, hcurrent, hrows⟩ := h.displayed?_eq_current?
  obtain rfl : v.dataset = d := by simpa [hv] using hs.displayed_eq
  have hsource : s.pager.source = .service file s.table.view := by
    rw [(upToDate_of_reachable h.reachable).source_eq, Table.source, h.file_eq]
    simp [hv, hcurrent, hs.sort_eq, hs.query_eq, SortOrder.isSet]
  -- page one may always be asked for, and it is asked of the service
  have hask : s.pager.ask 1 = .ok _ :=
    Pager.ask_eq_ok_iff.2 ⟨⟨Nat.le_refl 1, Nat.le_max_right _ _⟩, rfl, rfl⟩
  have hbegin : s.showPage 1 =
      send { s with pager := { s.pager with issued := s.pager.issued + 1 } }
        (.page file 1 s.pager.info.size)
        (.page ⟨s.pager.issued + 1, s.pager.source, 1, s.pager.info.size⟩) := by
    rw [showPage, Pager.begin, hask]
    simp [Pager.request?, hsource, hs.hasService_eq]
  -- the service has a page one of every file
  obtain ⟨acts, hlawful⟩ := lawful_of_reachable h.reachable
  obtain ⟨page, hpage, hpageRows, htotal⟩ := st.exists_servedPage_one h.file?_eq hlawful.size_pos
  have hreply := Store.respond_page (h.planted .page) hpage
  -- nothing else was asked for in between, so the page goes on display
  rw [hbegin, runToEnd_send, hreply, resume_page rfl, runToEnd_of_done rfl]
  refine ⟨?_, rfl, rfl⟩
  show (page.rows, some page.totalRecords) = _
  rw [hpageRows, Dataset.pageRows_one, htotal, Dataset.size, ← hrows, hs.size_eq, Dataset.size]

/-- The statistics behind the first page: one for each column, over the first rows. -/
theorem allStatistics_showPage (h : Level settings file f st s) (hs : s.Untouched settings d) :
    (runToEnd st (s.showPage 1)).session.allStatistics =
      d.columns.map fun column =>
        (Statistician.ofSettings settings).column (d.rows.take settings.pageSize) column
          ((Classifier.ofSettings settings).kind d column) (some d.size) := by
  obtain ⟨hshown, htable, hsettings⟩ := h.shown_showPage hs
  obtain ⟨v, hv, -⟩ := h.displayed?_eq_current?
  obtain rfl : v.dataset = d := by simpa [hv] using hs.displayed_eq
  have hup := upToDate_of_reachable h.reachable
  rw [allStatistics, hshown, statistician, htable, hsettings, hup.settings_eq,
    (hup.shows_displayed hv).profiles_eq]
  simp only [Statistician.columns, Classifier.profile, List.map_map, Function.comp_def]

end Level

end Session

end Tabula
