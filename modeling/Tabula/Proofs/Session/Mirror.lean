import Tabula.Proofs.Page
import Tabula.Proofs.Session.Derived
import Tabula.Proofs.Session.Solo

/-!
# What is paged is what is in view

A session asks the service for pages when the version on display is the one that it takes for the
current one, unsorted and unsearched. The service pages its own current version, so the two have to
have the same rows. They do (`Mirrors`) as long as calls are made one at a time and no listing is
missed behind the deletion of the version that the history has marked.

That listing is the only one that matters. A history which dropped versions that the file still has
marks one of its own when the marked version is deleted, and the file another
(`current_size_ne_view_size`). All other deletions leave both marks where they are, for
the marked version is the last one of the history, and its number is at most that of the last one
of the file.
-/

namespace Tabula

/-- A history whose last version is marked and has the rows of the current version of the file. -/
def History.Mirrors (h : History) (f : VersionedFile) : Prop :=
  ∃ v, h.versions.getLast? = some v ∧ v.isCurrent = true ∧
    v.dataset.rows = f.currentVersion.dataset.rows ∧ v.number ≤ f.current

namespace VersionedFile

variable {f f' : VersionedFile}

theorem Sound.currentVersion_push (hf : f.Sound) (dataset : Dataset) (description : String) :
    (f.push dataset description).currentVersion = ⟨f.next, dataset, description⟩ := by
  obtain ⟨hlast, -⟩ := (hf.push dataset description).getLast?_versions
  rw [versions_push, List.getLast?_concat] at hlast
  exact (Option.some.inj hlast).symm

/-- A deletion of another version leaves the current one. -/
theorem Sound.currentVersion_erase (hf : f.Sound) {number : VersionNumber}
    (herase : f.erase number = .ok f') (hne : f.current ≠ number) :
    f'.current = f.current ∧ f'.currentVersion = f.currentVersion := by
  obtain ⟨i, before, -, -, hversions, hcurrent, -, -⟩ := hf.of_erase_eq_ok herase
  rw [if_neg hne] at hcurrent
  obtain ⟨hlast, hnumber⟩ := hf.getLast?_versions
  obtain ⟨hlast', hnumber'⟩ := (hf.erase herase).getLast?_versions
  have hmem : f'.currentVersion ∈ f.versions :=
    List.mem_of_mem_eraseIdx (hversions ▸ List.mem_of_getLast? hlast')
  exact ⟨hcurrent, hf.eq_of_number_eq hmem (List.mem_of_getLast? hlast)
    (by rw [hnumber, hnumber', hcurrent])⟩

end VersionedFile

namespace History

variable {h h' : History} {f f' : VersionedFile} {hidden : Bool} {upload : Option Dataset}
  {number : VersionNumber}

/-- A listing that was taken over shows the current version of the file last. -/
theorem Mirrors.takeOver (hf : f.Sound) (hok : h.takeOver (f.listing hidden) upload = .ok h')
    (hh' : h'.Follows f) : h'.Mirrors f := by
  obtain ⟨hlast, hnumber⟩ := hf.getLast?_versions
  obtain ⟨first, hfirst, rfl⟩ := (takeOver_listing_eq_ok_iff hf).1 hok
  rcases List.eq_nil_or_concat' f.others with hnil | ⟨before, w, hconcat⟩
  · -- there is only the upload, which may have been put back
    rw [VersionedFile.versions, hnil] at hlast
    obtain hcurrent : f.first = f.currentVersion := Option.some.inj hlast
    have hone : f.current = uploadNumber := by rw [← hnumber, ← hcurrent, hf.first_number]
    have hrows := hh'.head_tables
    simp only [tables, List.map_cons, List.head?_cons, Option.some.injEq] at hrows
    refine ⟨first, by simp [hnil], ?_, hcurrent ▸ hrows, ?_⟩
    · rcases front_cases hfirst with rfl | ⟨dataset, -, rfl⟩
      · exact beq_iff_eq.2 (hf.first_number.trans hone.symm)
      · exact beq_iff_eq.2 hone.symm
    · rw [front_number hf hfirst, hone]
  · rw [VersionedFile.versions, hconcat, ← List.cons_append, List.getLast?_concat] at hlast
    obtain rfl : w = f.currentVersion := Option.some.inj hlast
    refine ⟨f.shown f.currentVersion, ?_, beq_iff_eq.2 hnumber, rfl, Nat.le_of_eq hnumber⟩
    rw [hconcat, List.map_append, ← List.cons_append]
    exact List.getLast?_concat

theorem Mirrors.appendAs {dataset kept : Dataset} {description : String} (hf : f.Sound)
    (hrows : dataset.rows = kept.rows) (hok : h.appendAs number dataset description = .ok h')
    (hle : number ≤ f.next) : h'.Mirrors (f.push kept description) := by
  obtain ⟨newest, -, -, rfl⟩ := appendAs_eq_ok_iff.1 hok
  refine ⟨_, List.getLast?_concat, rfl, ?_, hle⟩
  rw [hf.currentVersion_push]
  exact hrows

/-- A deletion of a version that is not marked leaves the last one. -/
theorem Mirrors.remove {removal : Removal} (hm : h.Mirrors f) (hs : h.Sound) (hf : f.Sound)
    (hplan : h.planRemoval number = .ok removal) (hcurrent : removal.wasCurrent = false)
    (hok : h.remove removal = .ok h') (herase : f.erase number = .ok f') : h'.Mirrors f' := by
  obtain ⟨v, hlast, hv, hrows, hle⟩ := hm
  obtain ⟨-, -, i, w, hi, hw, hwas, hok'⟩ := exists_remove_of_planRemoval hs hplan
  obtain rfl := Except.ok.inj (hok.symm.trans hok')
  rw [hwas] at hcurrent
  -- the version stands before the last one, so its number is smaller than that of the file's
  have hend : i + 1 ≠ h.versions.length - 1 := by
    rintro hend
    rw [List.getLast?_eq_getElem?, ← hend, hw] at hlast
    obtain rfl := Option.some.inj hlast
    exact absurd (hv.symm.trans hcurrent) (by simp)
  have hlt : number < v.number := by
    have hnumbers : h.numbers.getLast? = some v.number := by
      rw [numbers, List.getLast?_map, hlast]
      rfl
    have hwmem := List.mem_of_getElem? hw
    rw [← number_eq_of_findIdx? hi hw]
    refine Nat.lt_of_le_of_ne
      (le_getLast_of_pairwise_lt hs.increasing hnumbers _ (List.mem_map_of_mem hwmem)) fun heq => ?_
    obtain rfl := List.inj_on_of_nodup_map hs.nodup_numbers hwmem (List.mem_of_getLast? hlast) heq
    exact absurd (hv.symm.trans hcurrent) (by simp)
  obtain ⟨hcurrent', hversion⟩ :=
    hf.currentVersion_erase herase (Nat.ne_of_gt (Nat.lt_of_lt_of_le hlt hle))
  refine ⟨v, ?_, hv, hversion ▸ hrows, hcurrent' ▸ hle⟩
  -- what stands behind the version moves up by one place, the last one with it
  obtain ⟨hltw, -⟩ := List.getElem?_eq_some_iff.1 hw
  rw [without, hcurrent]
  show (h.versions.eraseIdx (i + 1)).getLast? = some v
  rw [← hlast, List.getLast?_eq_getElem?, List.getLast?_eq_getElem?, List.getElem?_eraseIdx,
    List.length_eraseIdx_of_lt hltw, if_neg (by omega)]
  congr 1
  omega

end History

/-- A page that is served is cut out of the current version. -/
theorem Store.rows_of_servedPage_eq_ok {s : Store} {id : FileNumber} {f : VersionedFile}
    {index size : Nat} {page : ServedPage} (hf : s.file? id = some f)
    (hpage : s.servedPage id index size = .ok page) :
    page.rows = f.currentVersion.dataset.pageRows index size ∧
      page.totalRecords = f.currentVersion.dataset.size := by
  have hfile : s.file id = .ok f := by rw [Store.file, hf]
  rw [Store.servedPage, hfile] at hpage
  cases hcut : f.currentVersion.dataset.page index size with
  | error fault => simp [hcut, bind, Except.bind] at hpage
  | ok cut =>
    obtain ⟨-, -, -, rfl⟩ := Dataset.page_eq_ok_iff.1 hcut
    simp only [hcut, bind, Except.bind, pure, Except.pure, Except.ok.injEq] at hpage
    obtain rfl := hpage
    exact ⟨rfl, rfl⟩

namespace Session

/-- The terms on which the service pages what is in view: behind the deletion of the version that
the history has marked, the listing is spared. -/
def Terms.mirroring : Terms where
  filters _ := true
  moves := true
  spares
    | .removalListing removal _ => removal.wasCurrent
    | _ => false

theorem upheld_mirrors (hidden : Bool) : Upheld .mirroring hidden History.Mirrors where
  listed hf hok hh' := .takeOver hf hok hh'
  moved _ _ hm hok := by
    obtain ⟨position, rfl⟩ := History.exists_position_of_moved hok
    exact hm
  recorded _ hf hh _ hrows hok hnumber := by
    refine .appendAs hf hrows hok ?_
    rcases hnumber with rfl | ⟨rfl, -⟩
    · exact Nat.le_refl _
    · exact hh.highest_lt
  removed ht hf hh hm hplan hok herase := hm.remove hh.toSound hf hplan ht hok herase

/-- The rows that the service is asked for are those of the version that the history has marked. -/
theorem exists_displayed_of_source {settings : Settings} {s : Session} {id : FileNumber}
    {view : Dataset} (hs : s.UpToDate settings) (hsource : s.table.source = .service id view) :
    s.table.file = some id ∧
      ∃ v, s.table.history.displayed? = some v ∧ v.isCurrent = true ∧ view = v.dataset ∧
        view = s.table.view ∧ s.table.history.Placed := by
  unfold Table.source at hsource
  split at hsource
  · next file hfile =>
    split at hsource
    · next hplain =>
      obtain ⟨rfl, rfl⟩ := RowSource.service.inj hsource
      simp only [Bool.and_eq_true, Bool.not_eq_true', Option.any_eq_true] at hplain
      obtain ⟨⟨⟨v, hv, hcurrent⟩, hsort⟩, hquery⟩ := hplain
      obtain ⟨hplaced, -, -, hsorted, hview⟩ := hs.shows_displayed hv
      refine ⟨hfile, v, hv, hcurrent, ?_, rfl, hplaced⟩
      -- neither order nor query stands between the version and the view
      have hunsorted : s.table.sort = .unsorted := by
        cases hsort' : s.table.sort with
        | unsorted => rfl
        | sorted column direction => exact absurd hsort (by simp [hsort', SortOrder.isSet])
      have hempty : s.table.query = "" := String.isEmpty_iff.1 hquery
      rw [hview, hsorted, hunsorted, hempty]
      exact Dataset.search_empty _
    · exact absurd hsource (by simp)
  · exact absurd hsource (by simp)

/-- **What is paged is what is in view.** A session whose calls are made one at a time, with
failures wherever they may happen but in the listing behind the deletion of the marked version, asks
the service for pages only when the current version of the file has the rows in view. So a page that
the service serves has the rows that are cut from the view where the service fails. -/
theorem current_rows_eq_view_of_keeps {settings : Settings} {d : Dialogue}
    {acts : List Dialogue.Act} (hfresh : d.Fresh settings)
    (hkeeps : d.Keeps Terms.mirroring.Permits acts)
    (hlevel : ∀ e ∈ (d.afterAll acts).exchanges, e.unrecorded = false ∧ e.behind = false)
    {id : FileNumber} {view : Dataset}
    (hsource : (d.afterAll acts).session.table.source = .service id view) :
    view = (d.afterAll acts).session.table.view ∧
      ∃ f, (d.afterAll acts).store.file? id = some f ∧ f.currentVersion.dataset.rows = view.rows ∧
        ∀ index size page, (d.afterAll acts).store.servedPage id index size = .ok page →
          page.rows = view.pageRows index size ∧ page.totalRecords = view.size := by
  have hstep := InStep.of_keeps (upheld_mirrors _) hfresh hkeeps
  have hupToDate := upToDate_of_reachable (hfresh.reachable_afterAll acts)
  -- the version on display is marked, and so is the last one, so they are the same
  obtain ⟨hfile, v, hv, hcurrent, hview, heq, hplaced⟩ :=
    exists_displayed_of_source hupToDate hsource
  obtain ⟨f, hf, hsound, -, w, hlast, hw, hrows, -⟩ := hstep.exists_file? hlevel hfile
  obtain rfl := hplaced.eq_of_isCurrent (List.mem_of_getElem? hv) (List.mem_of_getLast? hlast)
    hcurrent hw
  rw [← hview] at hrows
  refine ⟨heq, f, hf, hrows.symm, fun index size page hpage => ?_⟩
  obtain ⟨hpageRows, htotal⟩ := Store.rows_of_servedPage_eq_ok hf hpage
  rw [hpageRows, htotal, Dataset.pageRows, Dataset.pageRows, Dataset.size, Dataset.size, hrows]
  exact ⟨rfl, rfl⟩

/-- A filter, and another one put to the version before, so that the history drops the result of the
first. The number of the first result has to be guessed. -/
def branchingActs : List Dialogue.Act :=
  [.call (.connect 1), .serve 0, .deliver 0,
   .call (.filter "first"), .serve 0, .deliver 0, .plant .listing (.lost "no answer"), .serve 0,
   .deliver 0, .call .undo, .call (.filter "second"), .serve 0, .deliver 0, .serve 0, .deliver 0]

/-- The second result is deleted again, and the listing that follows brings back the first. -/
theorem current_rows_eq_view_of_branchingActs :
    let acts := branchingActs ++ [.call (.remove 3), .serve 0, .deliver 0, .serve 0, .deliver 0]
    Dialogue.sample.Keeps Terms.mirroring.Permits acts ∧
      (Dialogue.sample.afterAll acts).session.table.view.size = 1 ∧
        ∃ f, (Dialogue.sample.afterAll acts).store.file? 1 = some f ∧
          f.currentVersion.dataset.rows = (Dialogue.sample.afterAll acts).session.table.view.rows := by
  intro acts
  have hkeeps : Dialogue.sample.Keeps Terms.mirroring.Permits acts := by decide +kernel
  have hidle : (Dialogue.sample.afterAll acts).exchanges = [] := by decide +kernel
  -- the last act delivers the listing, which is in order and so is taken over as it stands
  let before := Dialogue.sample.afterAll acts.dropLast
  let row : Row := ⟨[("name", .null)], by simp⟩
  let upload : Dataset := { columns := ["name"], rows := [row, row] }
  have hdeliver : before.exchanges[0]? =
      some ⟨.removalListing ⟨3, true⟩ (some upload), .listing 1,
        some (.ok (.listing [⟨[row, row], uploadDescription, false, 1⟩,
          ⟨[row], "first", true, 2⟩]))⟩ := by decide +kernel
  have hlast : Dialogue.sample.afterAll acts = _ :=
    before.after_deliver_removalListing hdeliver (by decide) rfl
  have hsource : (Dialogue.sample.afterAll acts).session.table.source =
      .service 1 (Dialogue.sample.afterAll acts).session.table.view := by
    rw [hlast]
    decide +kernel
  have hsize : (Dialogue.sample.afterAll acts).session.table.view.size = 1 := by
    rw [hlast]
    decide +kernel
  obtain ⟨-, f, hf, hrows, -⟩ := current_rows_eq_view_of_keeps Dialogue.fresh_sample hkeeps
    (by simp [hidle]) hsource
  exact ⟨hkeeps, hsize, f, hf, hrows⟩

/-- Where that listing does not arrive, the history marks the upload and the file the first result,
and the service is asked for pages of a table that it does not page. -/
theorem current_size_ne_view_size :
    let d := Dialogue.sample.afterAll <| branchingActs ++
      [.plant .listing (.lost "no answer"), .call (.remove 3), .serve 0, .deliver 0, .serve 0,
       .deliver 0]
    d.exchanges = [] ∧ d.session.table.source = .service 1 d.session.table.view ∧
      d.session.table.view.size = 2 ∧
        (d.store.file? 1).map (fun f => f.currentVersion.dataset.size) = some 1 := by
  decide +kernel

end Session

end Tabula
