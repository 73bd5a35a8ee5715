import Tabula.Proofs.Session.Gate
import Tabula.Proofs.Session.Mirror
import Tabula.Proofs.Session.Provenance
import Tabula.Session.Run

/-!
# What a filter records

A filter is run by the service, on the version that the service holds as current; no request says
which version is on display. The history marks that version, whatever is on display, so the rows
that a filter records are those that it selects of the marked version, and they are put behind the
one on display (`recorded_of_filter`). The two are the same where there is no newer version to go
to. Behind a step back they are not, and a filter then records what nobody was looking at
(`rows_of_filterBehindUndo`).
-/

namespace Tabula

/-- An interpreter that looks at rows alone, but to find out whether it takes a dataset. -/
def Interpreter.ReadsRows (interpreter : Interpreter) : Prop :=
  ∀ d d' text r r', d.rows = d'.rows → interpreter d text = .ok r → interpreter d' text = .ok r' →
    (r.1.rows, r.2) = (r'.1.rows, r'.2)

theorem Query.interpreter_eq_ok_iff {d : Dataset} {text : String} {r : Dataset × String} :
    interpreter d text = .ok r ↔
      ∃ q, parse? text = some q ∧ d.isColumn q.column ∧ r = (q.select d, q.description) := by
  rw [← run_eq_ok_iff, interpreter]
  cases run d text <;> simp

/-- Queries look at columns only to find out whether there is the one that they name. -/
theorem Query.readsRows_interpreter : Interpreter.ReadsRows interpreter := by
  intro d d' text r r' hrows hr hr'
  obtain ⟨q, hq, -, rfl⟩ := interpreter_eq_ok_iff.1 hr
  obtain ⟨q', hq', -, rfl⟩ := interpreter_eq_ok_iff.1 hr'
  obtain rfl := Option.some.inj (hq.symm.trans hq')
  simp [Query.select, hrows]

namespace Session

variable {s : Session}

/-- Where a filter that has its result ends well, the result stands behind the version on
display. -/
theorem extends_of_record {st : Store} {step : Step} {result : FilterResult}
    {assigned : Option VersionNumber} {number : VersionNumber}
    (hstatus : step.status = (s.record result assigned).status)
    (hsession : step.session = (s.record result assigned).session)
    (hresult : (runToEnd st step).result = .ok (.recorded number)) :
    ∃ v, s.table.history.Extends (runToEnd st step).session.table.history v ∧ v.number = number ∧
      v.content = (result.rows, result.description) := by
  -- the step differs from the recording in its events, which begin with those of earlier steps
  unfold record at hstatus hsession
  cases hok : appended s.table.history assigned (s.resultDataset result.rows)
      result.description with
  | error fault =>
    simp only [hok] at hstatus
    rw [runToEnd_of_done hstatus] at hresult
    exact absurd hresult (by simp)
  | ok appended =>
    simp only [hok] at hstatus hsession
    rw [runToEnd_of_done hstatus] at hresult ⊢
    obtain rfl : appended.2 = number := by simpa using hresult
    have hhistory : step.session.table.history = appended.1 := by
      rw [hsession]
      exact Table.history_display _ { s.table with history := appended.1 }
    refine ⟨_, hhistory ▸ History.extends_of_appendAs (of_appended_eq_ok hok).1, rfl, ?_⟩
    rw [Version.content, rows_resultDataset]

/-- A filter that succeeds: its result is what the service makes of the current version of the
file, and stands behind the version on display. -/
theorem of_recorded {st : Store} {id : FileNumber} {query : String} {number : VersionNumber}
    (hfile : s.table.file = some id)
    (hresult : (runToEnd st (s.filter query)).result = .ok (.recorded number)) :
    ∃ f kept description v, st.file? id = some f ∧
      st.interpreter f.currentVersion.dataset query = .ok (kept, description) ∧
      s.table.history.Extends (runToEnd st (s.filter query)).session.table.history v ∧
      v.number = number ∧ v.content = (kept.rows, description) := by
  unfold filter at hresult ⊢
  cases hgate : s.filtering with
  | true =>
    -- refused
    simp only [hfile, hgate, if_pos] at hresult
    rw [runToEnd_of_done rfl] at hresult
    exact absurd hresult (by simp)
  | false =>
  simp only [hfile, hgate, Bool.false_eq_true, if_false] at hresult ⊢
  rw [runToEnd_of_waiting rfl] at hresult ⊢
  have hresponded := st.responded (.filter id query)
  generalize st.respond (.filter id query) = answered at hresponded hresult ⊢
  cases hresponded with
  | failed =>
    rw [runToEnd_of_done rfl] at hresult
    exact absurd hresult (by simp)
  | @filtered _ f _ description kept hf hrun =>
  rw [runToEnd_of_waiting rfl] at hresult ⊢
  -- the file has the result by now; whatever comes, it is recorded if the filter is to succeed
  have hresume := resume_filterNumber { s with filtering := true }
    { rows := kept.rows, description }
  obtain ⟨v, hextends, hnumber, hcontent⟩ :=
    extends_of_record (s := { s with filtering := true }) (congrArg Step.status (hresume _))
      (congrArg Step.session (hresume _)) hresult
  exact ⟨f, kept, description, v, hf, hrun, hextends, hnumber, hcontent⟩

/-- **What a filter records.** A session is alone with its files; the listing behind the deletion of
the marked version arrives, and other requests may fail. A filter that succeeds then records what
the interpreter makes of the current version of the file, behind the version on display. The current
version has the rows of the marked version, which is the one on display where there is no newer
one. So an interpreter that reads rows would have made the same of the version on display. -/
theorem recorded_of_filter {settings : Settings} {d : Dialogue} {acts : List Dialogue.Act}
    (hfresh : d.Fresh settings) (hkeeps : d.Keeps Terms.mirroring.Permits acts)
    (hidle : (d.afterAll acts).exchanges = []) {id : FileNumber}
    (hfile : (d.afterAll acts).session.table.file = some id) {query : String}
    {number : VersionNumber}
    (hresult : (runToEnd (d.afterAll acts).store
      ((d.afterAll acts).session.filter query)).result = .ok (.recorded number)) :
    let st := (d.afterAll acts).store
    let h := (d.afterAll acts).session.table.history
    let h' := (runToEnd (d.afterAll acts).store
      ((d.afterAll acts).session.filter query)).session.table.history
    ∃ f kept description v, st.file? id = some f ∧
      st.interpreter f.currentVersion.dataset query = .ok (kept, description) ∧
      h.Extends h' v ∧ v.number = number ∧ v.content = (kept.rows, description) ∧
      (∃ w, h.current? = some w ∧ w.dataset.rows = f.currentVersion.dataset.rows ∧
        (h.hasNewer = false → h.displayed? = some w)) ∧
      (h.hasNewer = false → st.interpreter.ReadsRows →
        ∀ viewed kept' description', h.displayed? = some viewed →
          st.interpreter viewed.dataset query = .ok (kept', description') →
            v.content = (kept'.rows, description')) := by
  intro st h h'
  obtain ⟨f, kept, description, v, hf, hrun, hextends, hnumber, hcontent⟩ :=
    of_recorded hfile hresult
  have hstep := InStep.of_keeps (upheld_mirrors _) hfresh hkeeps
  obtain ⟨f', hf', -, hfollows, w, hlast, hcurrent, hrows, -⟩ :=
    hstep.exists_file? (by simp [hidle]) hfile
  obtain rfl := Option.some.inj (hf'.symm.trans hf)
  -- the last version is the marked one, and on display where there is no newer one
  have hdisplayed (hnewest : h.hasNewer = false) : h.displayed? = some w :=
    (hfollows.toPlaced.displayed?_eq hnewest).trans hlast
  refine ⟨f', kept, description, v, hf, hrun, hextends, hnumber, hcontent,
    ⟨w, ?_, hrows, hdisplayed⟩, fun hnewest hreads viewed kept' description' hviewed hrun' => ?_⟩
  · exact hfollows.toPlaced.current?_eq (List.mem_of_getLast? hlast) hcurrent
  · obtain rfl := Option.some.inj (hviewed.symm.trans (hdisplayed hnewest))
    rw [hcontent]
    exact hreads _ _ _ _ _ hrows.symm hrun hrun'

/-- A file that is opened and filtered. -/
def filteredActs : List Dialogue.Act :=
  [.call (.connect 1), .serve 0, .deliver 0,
   .call (.filter "first"), .serve 0, .deliver 0, .serve 0, .deliver 0]

theorem recorded_of_filteredActs :
    let d := Dialogue.sample.afterAll filteredActs
    Dialogue.sample.Keeps Terms.mirroring.Permits filteredActs ∧
      d.session.table.history.hasNewer = false ∧
      (runToEnd d.store (d.session.filter "second")).result = .ok (.recorded 3) ∧
      ∃ v, d.session.table.history.Extends
        (runToEnd d.store (d.session.filter "second")).session.table.history v ∧ v.number = 3 := by
  have hkeeps : Dialogue.sample.Keeps Terms.mirroring.Permits filteredActs := by
    decide +kernel
  have hfile : (Dialogue.sample.afterAll filteredActs).session.table.file = some 1 := by
    decide +kernel
  have hresult : (runToEnd (Dialogue.sample.afterAll filteredActs).store
      ((Dialogue.sample.afterAll filteredActs).session.filter "second")).result =
        .ok (.recorded 3) := by decide +kernel
  obtain ⟨f, kept, description, v, -, -, hextends, hnumber, -⟩ :=
    recorded_of_filter Dialogue.fresh_sample hkeeps (by decide +kernel) hfile hresult
  exact ⟨hkeeps, by decide +kernel, hresult, v, hextends, hnumber⟩

/-- Behind a step back, a filter that drops the first row of two leaves none, because the service
has dropped it already. -/
theorem rows_of_filterBehindUndo :
    let row : Row := ⟨[("name", .null)], by simp⟩
    let d := Dialogue.sample.afterAll (filteredActs ++ [.call .undo])
    let ended := runToEnd d.store (d.session.filter "second")
    d.exchanges = [] ∧ ended.result = .ok (.recorded 3) ∧
      d.session.table.history.displayed?.map (fun v =>
        (d.store.interpreter v.dataset "second").toOption.map fun r => r.1.rows) =
          some (some [row]) ∧
      ended.session.table.history.displayed?.map (fun v => (v.number, v.dataset.rows)) =
        some (3, []) := by
  decide +kernel

end Session

end Tabula
