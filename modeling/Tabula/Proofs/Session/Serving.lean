import Tabula.Proofs.History.Refusals
import Tabula.Proofs.History.Timeline
import Tabula.Proofs.Session.Derived
import Tabula.Proofs.Session.Filtering
import Tabula.Proofs.Session.Lockstep

/-!
# Calls over a store that serves

A store in which no fault was planted refuses a filter that cannot be run, and nothing else that a
session in step with its file asks for. So the calls of such a session come to their end without a
fault: it may open the file, try filters, look back and forth, sort, search, show its first page and
delete its newest version. `Level` is what these calls keep, one lemma for each.
-/

namespace Tabula

/-- A store without planted faults that keeps a file and lists all of it. -/
structure Store.Serves (st : Store) (file : FileNumber) (f : VersionedFile) : Prop where
  planted : ∀ operation, st.planted operation = none
  hideUpload_eq : st.hideUpload = false
  interpreter_eq : st.interpreter = Query.interpreter
  file?_eq : st.file? file = some f
  sound : f.Sound

namespace Store.Serves

variable {st : Store} {file : FileNumber} {f f' : VersionedFile}

theorem respond (h : st.Serves file f) (request : Request)
    (hf' : (st.respond request).1.file? file = some f') (hsound : f'.Sound) :
    (st.respond request).1.Serves file f' where
  planted := planted_respond h.planted request
  hideUpload_eq := (hideUpload_respond st request).trans h.hideUpload_eq
  interpreter_eq := (interpreter_respond st request).trans h.interpreter_eq
  file?_eq := hf'
  sound := hsound

theorem respond_listing (h : st.Serves file f) :
    (st.respond (.listing file)).2 = .ok (.listing (f.listing false)) ∧
      (st.respond (.listing file)).1.Serves file f := by
  constructor
  · rw [Store.respond_listing h.file?_eq (h.planted _), h.hideUpload_eq]
  · refine h.respond _ ?_ h.sound
    rw [Session.file?_respond_listing, h.file?_eq]

theorem respond_remove {number : VersionNumber} (h : st.Serves file f)
    (herase : f.erase number = .ok f') :
    (st.respond (.remove file number)).2 = .ok .removed ∧
      (st.respond (.remove file number)).1.Serves file f' := by
  constructor
  · rw [Store.respond_remove h.file?_eq (h.planted _) herase]
  · exact h.respond _ (file?_respond_remove h.file?_eq (h.planted _) herase) (h.sound.erase herase)

/-- A filter is run on the current version of the file, or refused. -/
theorem respond_filter (h : st.Serves file f) (query : String) :
    (∃ kept description, Query.run f.currentVersion.dataset query = .ok (kept, description) ∧
        (st.respond (.filter file query)).2 =
          .ok (.filtered { rows := kept.rows, description }) ∧
        (st.respond (.filter file query)).1.Serves file (f.push kept description)) ∨
      ∃ fault detail, Query.run f.currentVersion.dataset query = .error fault ∧
        (st.respond (.filter file query)).2 = .error detail ∧
        (st.respond (.filter file query)).1.Serves file f := by
  have hrun : st.interpreter f.currentVersion.dataset query =
      Query.interpreter f.currentVersion.dataset query := by rw [h.interpreter_eq]
  unfold Query.interpreter at hrun
  cases hquery : Query.run f.currentVersion.dataset query with
  | ok result =>
    rw [hquery] at hrun
    refine .inl ⟨result.1, result.2, rfl, ?_, ?_⟩
    · rw [Store.respond_filter h.file?_eq (h.planted _) hrun]
    · exact h.respond _ (file?_respond_filter h.file?_eq (h.planted _) hrun)
        (h.sound.push result.1 result.2)
  | error fault =>
    rw [hquery] at hrun
    have hserves (hfile : (st.respond (.filter file query)).1.file? file = some f) :
        (st.respond (.filter file query)).1.Serves file f := h.respond _ hfile h.sound
    have hresponded := st.responded (.filter file query)
    generalize st.respond (.filter file query) = answered at hresponded hserves ⊢
    cases hresponded with
    | failed => exact .inr ⟨fault, _, rfl, rfl, hserves h.file?_eq⟩
    | filtered hf hok =>
      -- the file is the one that the filter was run on
      obtain rfl := Option.some.inj (h.file?_eq.symm.trans hf)
      exact absurd (hrun.symm.trans hok) (by simp)

theorem respond_page (h : st.Serves file f) (id : FileNumber) (index size : Nat) :
    (st.respond (.page id index size)).1.Serves file f := by
  have hserves (hfile : (st.respond (.page id index size)).1.file? file = some f) :
      (st.respond (.page id index size)).1.Serves file f := h.respond _ hfile h.sound
  have hresponded := st.responded (.page id index size)
  generalize st.respond (.page id index size) = answered at hresponded hserves ⊢
  cases hresponded <;> exact hserves h.file?_eq

end Store.Serves

/-- Every column of a table has the kind that its name has. -/
theorem Classifier.kind?_profile (classifier : Classifier) {d : Dataset} {column : String}
    (hcolumn : column ∈ d.columns) :
    (classifier.profile d).kind? column = some (classifier.kind d column) := by
  obtain ⟨profile, hfound⟩ : ∃ profile,
      (classifier.profile d).find? (fun p => p.column == column) = some profile :=
    Option.isSome_iff_exists.1
      (List.find?_isSome.2 ⟨_, List.mem_map_of_mem hcolumn, beq_self_eq_true _⟩)
  have hname : profile.column = column := by simpa using List.find?_some hfound
  obtain ⟨other, -, rfl⟩ := List.mem_map.1 (List.mem_of_find?_eq_some hfound)
  obtain rfl : other = column := hname
  rw [Profiles.kind?, hfound]
  rfl

/-- A version that is not the upload may be deleted. -/
theorem History.exists_planRemoval {h : History} {v : Version} (hv : v ∈ h.versions)
    (hne : v.number ≠ uploadNumber) : ∃ removal, h.planRemoval v.number = .ok removal := by
  cases hplan : h.planRemoval v.number with
  | ok removal => exact ⟨removal, rfl⟩
  | error fault =>
    rcases planRemoval_eq_error_iff.1 hplan with ⟨hnil, -⟩ | ⟨-, hupload, -⟩ | ⟨-, -, hnot, -⟩
    · rw [hnil] at hv
      exact absurd hv List.not_mem_nil
    · exact absurd hupload hne
    · exact absurd (List.mem_map_of_mem hv) hnot

namespace Session

/-- A session that shows the newest version of a file, as the file lists it, over a store that
serves it, while no call waits. -/
structure Level (settings : Settings) (file : FileNumber) (f : VersionedFile) (st : Store)
    (s : Session) : Prop extends st.Serves file f where
  reachable : Reachable settings ⟨s, []⟩
  file_eq : s.table.file = some file
  follows : s.table.history.Follows f
  entries_eq : s.table.history.entries = f.listing false
  newest : s.table.history.hasNewer = false

variable {settings : Settings} {file : FileNumber} {f f' : VersionedFile} {st st' : Store}
  {s s' : Session} {query : String}

/-! ### Runs to the end -/

theorem runToEnd_send (st : Store) (s : Session) (request : Request) (pending : Pending) :
    runToEnd st (s.send request pending) =
      runToEnd (st.respond request).1 (s.resume pending (st.respond request).2) := by
  rw [runToEnd_of_waiting rfl]
  rfl

/-- A call that is run to its end takes steps of the system. -/
theorem reachable_runToEnd (st : Store) {step : Step}
    (h : Reachable settings (.after [] (.ofStep step))) :
    Reachable settings ⟨(runToEnd st step).session, []⟩ := by
  -- on the run: what the service replies is one more step
  fun_induction runToEnd st step with
  | case1 st step result hstatus =>
    simpa [System.after, Turn.ofStep, hstatus] using h
  | case2 st step request pending hstatus st' reply hreply next ih =>
    refine ih ?_
    have hnext := h
    simp only [System.after, Turn.ofStep, hstatus] at hnext
    exact hnext.step (@System.Step.reply _ [] [] pending reply)

/-- Where the listing can be taken over, it is. -/
theorem afterRemoval_of_takeOver (removal : Removal) {upload : Option Dataset}
    {entries : List Entry} {history : History}
    (hok : s.table.history.takeOver entries upload = .ok history) :
    (s.afterRemoval removal upload (some entries)).session =
        s.display { s.table with history } ∧
      (s.afterRemoval removal upload (some entries)).status = .done (.ok .removed) := by
  unfold afterRemoval
  rw [Option.bind_some, hok]
  exact ⟨rfl, rfl⟩

/-! ### What a level session knows -/

namespace Level

/-- Whatever comes to show the same file and history is as level. -/
theorem of_table (h : Level settings file f st s) (hserves : st'.Serves file f)
    (hreach : Reachable settings ⟨s', []⟩) (hfile : s'.table.file = s.table.file)
    (hhistory : s'.table.history = s.table.history) : Level settings file f st' s' where
  toServes := hserves
  reachable := hreach
  file_eq := hfile.trans h.file_eq
  follows := hhistory ▸ h.follows
  entries_eq := hhistory ▸ h.entries_eq
  newest := hhistory ▸ h.newest

/-- Whatever comes to show the listing of the file is level with it. -/
theorem of_takeOver {h : History} {upload : Option Dataset} (hserves : st.Serves file f)
    (hreach : Reachable settings ⟨s, []⟩) (hfile : s.table.file = some file)
    (hlt : h.highest < f.next) (hrows : ∀ d, upload = some d → d.rows = f.first.dataset.rows)
    (hok : h.takeOver (f.listing false) upload = .ok s.table.history) :
    Level settings file f st s where
  toServes := hserves
  reachable := hreach
  file_eq := hfile
  follows := History.Follows.takeOver hserves.sound hlt hrows hok
  entries_eq := History.entries_takeOver hserves.sound hok
  newest := (History.numbers_takeOver_listing hserves.sound hok).2.1

/-- No filter is under way. -/
theorem filtering_eq (h : Level settings file f st s) : s.filtering = false :=
  Bool.toNat_eq_zero.1 (guarded_of_reachable h.reachable).symm

theorem size_eq (h : Level settings file f st s) : s.table.history.size = f.versions.length := by
  have hlen := congrArg List.length h.entries_eq
  simpa [History.entries, VersionedFile.listing_false, History.size] using hlen

/-- The version on display is the one that the service holds as current, and has its rows. -/
theorem displayed?_eq_current? (h : Level settings file f st s) :
    ∃ v, s.table.history.displayed? = some v ∧ s.table.history.current? = some v ∧
      v.isCurrent = true ∧ v.dataset.rows = f.currentVersion.dataset.rows := by
  obtain ⟨v, hv⟩ := h.follows.exists_displayed?
  have hlast := (h.follows.toPlaced.displayed?_eq h.newest).symm.trans hv
  -- the last version of the file is marked, and its entry is that of the last one here
  obtain ⟨hlast', hnumber⟩ := h.sound.getLast?_versions
  have hentry := congrArg List.getLast? h.entries_eq
  rw [History.entries, List.getLast?_map, hlast, VersionedFile.listing_false, List.getLast?_map,
    hlast'] at hentry
  have hcurrent : v.isCurrent = true :=
    (congrArg Entry.isCurrent (Option.some.inj hentry)).trans (beq_iff_eq.2 hnumber)
  have hrows : v.dataset.rows = f.currentVersion.dataset.rows :=
    congrArg Entry.rows (Option.some.inj hentry)
  exact ⟨v, hv, h.follows.toPlaced.current?_eq (List.mem_of_getLast? hlast) hcurrent, hcurrent,
    hrows⟩

/-! ### The calls of a level session -/

/-- A file that the store serves is opened and shown as it is listed. -/
theorem exists_connected (hserves : st.Serves file f) (s : Session) :
    ∃ history, ({} : History).takeOver (f.listing false) none = .ok history ∧
      (runToEnd st (s.connect file)).result = .ok .connected ∧
      (runToEnd st (s.connect file)).store = (st.respond (.listing file)).1 ∧
      (runToEnd st (s.connect file)).session = s.display { file := some file, history } := by
  obtain ⟨hreply, -⟩ := hserves.respond_listing
  obtain ⟨history, hok⟩ : ∃ history, ({} : History).takeOver (f.listing false) none = .ok history :=
    History.exists_takeOver_listing hserves.sound (by simp)
  -- the upload is listed first, so it need not be asked for
  have hhead : ((f.listing false).head?.any fun e => e.version == uploadNumber) = true := by
    rw [VersionedFile.listing_false]
    exact beq_iff_eq.2 hserves.sound.first_number
  have hrun : runToEnd st (s.connect file) =
      runToEnd (st.respond (.listing file)).1 (s.connectWith file (f.listing false) none) := by
    rw [connect, runToEnd_send, hreply]
    show runToEnd _ (s.connectListed file (f.listing false)) = _
    rw [connectListed, if_pos hhead]
  rw [hrun, connectWith, hok]
  dsimp only
  rw [runToEnd_of_done rfl]
  exact ⟨history, rfl, rfl, rfl, rfl⟩

/-- A file that the store serves is opened. -/
theorem runToEnd_connect (hserves : st.Serves file f) (hreach : Reachable settings ⟨s, []⟩) :
    (runToEnd st (s.connect file)).result = .ok .connected ∧
      Level settings file f (runToEnd st (s.connect file)).store
        (runToEnd st (s.connect file)).session := by
  have hreach' := reachable_runToEnd st (hreach.step (.call (.connect file)))
  obtain ⟨history, hok, hresult, hstore, hsession⟩ := exists_connected hserves s
  rw [hsession] at hreach' ⊢
  rw [hstore]
  refine ⟨hresult, of_takeOver hserves.respond_listing.2 hreach' (file_display ..)
    hserves.sound.next_pos (fun d hd => absurd hd (by simp)) (hok.trans ?_)⟩
  exact congrArg Except.ok (history_display s { file := some file, history }).symm

/-- No filter stands in the way of another one. -/
theorem filter_eq (h : Level settings file f st s) (query : String) :
    s.filter query =
      ({ s with filtering := true } : Session).send (.filter file query) (.filterResult file) := by
  unfold filter
  rw [h.file_eq, h.filtering_eq]
  rfl

/-- The result of a filter is put behind the newest version, under the number that the file gave
it. -/
theorem runToEnd_record (h : Level settings file f st s) {kept : Dataset} {description : String}
    (hserves : st'.Serves file (f.push kept description))
    (hfilter : runToEnd st (s.filter query) =
      runToEnd st' (record { s with filtering := true } { rows := kept.rows, description }
        (assignedNumber? ((f.push kept description).listing false)))) :
    (runToEnd st (s.filter query)).result = .ok (.recorded f.next) ∧
      Level settings file (f.push kept description) (runToEnd st (s.filter query)).store
        (runToEnd st (s.filter query)).session ∧
      ∃ history,
        s.table.history.appendAs f.next (s.resultDataset kept.rows) description = .ok history ∧
        (runToEnd st (s.filter query)).session = (s.display { s.table with history }).openGate := by
  have hreach := reachable_runToEnd st (h.reachable.step (.call (.filter query)))
  rw [hfilter] at hreach ⊢
  -- the file gave its next number, and no version here has one as high, so it is taken over
  have hassigned : assignedNumber? ((f.push kept description).listing false) = some f.next :=
    assignedNumber?_listing hserves.sound (Nat.ne_of_gt h.sound.uploadNumber_lt_next)
  rw [hassigned] at hreach ⊢
  obtain ⟨history, number, hok⟩ := exists_appended h.follows.toSound (some f.next)
    (resultDataset { s with filtering := true } kept.rows) description
  obtain rfl := number_eq_of_appended h.follows.toSound h.follows.highest_lt hok
  have happend := (of_appended_eq_ok hok).1
  -- the call ends with the longer history on display
  unfold record at hreach ⊢
  dsimp only at hreach ⊢
  rw [hok] at hreach ⊢
  dsimp only at hreach ⊢
  rw [runToEnd_of_done rfl] at hreach ⊢
  have hhistory : (s.display { s.table with history }).table.history = history :=
    history_display ..
  -- that history shows the file as it now is
  refine ⟨rfl, ⟨hserves, hreach, (file_display ..).trans h.file_eq, ?_, ?_, ?_⟩,
    history, happend, rfl⟩
  · show (s.display { s.table with history }).table.history.Follows _
    rw [hhistory]
    exact (h.follows.push kept description).appendAs (Nat.lt_succ_self _) happend
  · show (s.display { s.table with history }).table.history.entries = _
    rw [hhistory]
    exact History.entries_appendAs h.sound h.newest h.entries_eq (rows_resultDataset ..) happend
  · show (s.display { s.table with history }).table.history.hasNewer = false
    rw [hhistory]
    exact (History.appendAs_newest h.newest happend).2.1

/-- A filter that can be run on the current version of the file succeeds. -/
theorem runToEnd_filter_of_run (h : Level settings file f st s) {kept : Dataset}
    {description : String}
    (hrun : Query.run f.currentVersion.dataset query = .ok (kept, description)) :
    (runToEnd st (s.filter query)).result = .ok (.recorded f.next) ∧
      Level settings file (f.push kept description) (runToEnd st (s.filter query)).store
        (runToEnd st (s.filter query)).session ∧
      ∃ history,
        s.table.history.appendAs f.next (s.resultDataset kept.rows) description = .ok history ∧
        (runToEnd st (s.filter query)).session = (s.display { s.table with history }).openGate := by
  rcases h.toServes.respond_filter query with
    ⟨kept', description', hrun', hreply, hserves⟩ | ⟨fault, detail, hrun', -, -⟩
  · obtain ⟨rfl, rfl⟩ := Prod.mk.inj (Except.ok.inj (hrun.symm.trans hrun'))
    -- the first reply has the rows, and the listing in the second one has their number
    obtain ⟨hreply', hserves'⟩ := hserves.respond_listing
    refine h.runToEnd_record hserves' ?_
    rw [h.filter_eq, runToEnd_send, hreply]
    show runToEnd _ (send { s with filtering := true } (.listing file) (.filterNumber _)) = _
    rw [runToEnd_send, hreply']
    rfl
  · exact absurd (hrun.symm.trans hrun') (by simp)

/-- A filter that cannot be run fails and changes nothing. -/
theorem runToEnd_filter_of_fault (h : Level settings file f st s) {fault : QueryFault}
    (hrun : Query.run f.currentVersion.dataset query = .error fault) :
    (∃ fault', (runToEnd st (s.filter query)).result = .error fault') ∧
      Level settings file f (runToEnd st (s.filter query)).store
        (runToEnd st (s.filter query)).session ∧
      (runToEnd st (s.filter query)).session = s.openGate := by
  rcases h.toServes.respond_filter query with
    ⟨kept, description, hrun', -, -⟩ | ⟨fault', detail, -, hreply, hserves⟩
  · exact absurd (hrun.symm.trans hrun') (by simp)
  · have hreach := reachable_runToEnd st (h.reachable.step (.call (.filter query)))
    have hfail : runToEnd st (s.filter query) =
        runToEnd (st.respond (.filter file query)).1
          ((openGate { s with filtering := true }).fail "apply_filter" (.service detail)) := by
      rw [h.filter_eq, runToEnd_send, hreply]
      rfl
    rw [hfail, runToEnd_of_done rfl] at hreach ⊢
    exact ⟨⟨_, rfl⟩, h.of_table hserves hreach rfl rfl, rfl⟩

/-- The newest version is deleted, unless it is the upload. -/
theorem runToEnd_remove (h : Level settings file f st s) {newest : Version}
    (hlast : s.table.history.versions.getLast? = some newest)
    (hne : newest.number ≠ uploadNumber) :
    ∃ f', f'.versions.length + 1 = f.versions.length ∧
      (runToEnd st (s.remove newest.number)).result = .ok .removed ∧
      Level settings file f' (runToEnd st (s.remove newest.number)).store
        (runToEnd st (s.remove newest.number)).session := by
  have hmem := List.mem_of_getLast? hlast
  obtain ⟨removal, hplan⟩ := History.exists_planRemoval hmem hne
  -- the file has the version too, and so the service deletes it
  have hnumber : newest.number ∈ f.numbers := by
    rw [← History.numbers_of_entries_eq h.entries_eq]
    exact List.mem_map_of_mem hmem
  obtain ⟨f', herase⟩ := h.sound.exists_erase hne hnumber
  obtain ⟨i, -, hi, -, hversions, -, hnext, hfirst⟩ := h.sound.of_erase_eq_ok herase
  refine ⟨f', ?_, ?_⟩
  · obtain ⟨hlt, -⟩ := List.findIdx?_eq_some_iff_getElem.1 hi
    rw [hversions, List.length_eraseIdx_add_one]
    simpa [VersionedFile.numbers] using hlt
  have hreach := reachable_runToEnd st (h.reachable.step (.call (.remove newest.number)))
  obtain ⟨hreply, hserves⟩ := h.toServes.respond_remove herase
  obtain ⟨hreply', hserves'⟩ := hserves.respond_listing
  -- whatever was planned, the history is the one that is listed afterwards
  obtain ⟨history, hok⟩ := h.follows.exists_takeOver hserves.sound false
  have hbegin : s.remove newest.number = s.send (.remove file newest.number)
      (.removalAnswer file removal (s.table.history.upload?.map Version.dataset)) := by
    unfold remove
    rw [hplan, h.file_eq]
  have hend : runToEnd st (s.remove newest.number) =
      runToEnd ((st.respond (.remove file newest.number)).1.respond (.listing file)).1
        (s.afterRemoval removal (s.table.history.upload?.map Version.dataset)
          (some (f'.listing false))) := by
    rw [hbegin, runToEnd_send, hreply]
    show runToEnd _ (s.send (.listing file) (.removalListing removal _)) = _
    rw [runToEnd_send, hreply']
    rfl
  obtain ⟨hsession, hstatus⟩ := afterRemoval_of_takeOver removal hok
  rw [hend, runToEnd_of_done hstatus] at hreach ⊢
  rw [hsession] at hreach ⊢
  refine ⟨rfl, of_takeOver hserves' hreach ((file_display ..).trans h.file_eq)
    (hnext ▸ h.follows.highest_lt) (fun d hd => ?_)
    (hok.trans (congrArg Except.ok (history_display s { s.table with history }).symm))⟩
  obtain ⟨v, hv, rfl⟩ := Option.map_eq_some_iff.1 hd
  rw [hfirst]
  exact h.follows.upload_rows hv

/-- There is always a first page. -/
theorem runToEnd_showPage (h : Level settings file f st s) :
    (∃ outcome, (runToEnd st (s.showPage 1)).result = .ok outcome) ∧
      Level settings file f (runToEnd st (s.showPage 1)).store
        (runToEnd st (s.showPage 1)).session := by
  have hreach := reachable_runToEnd st (h.reachable.step (.call (.showPage 1)))
  unfold showPage at hreach ⊢
  rcases hb : s.pager.begin 1 with ⟨p, (fault | fetch) | ⟨request, t⟩⟩
  · -- a refusal would say that the first page lies outside the pages that there are
    obtain ⟨acts, hlawful⟩ := lawful_of_reachable h.reachable
    obtain ⟨-, hout, -⟩ := hlawful.begin_refused_iff.1 hb
    exact absurd ⟨Nat.le_refl 1, Nat.le_max_right ..⟩ hout
  · rw [hb] at hreach
    dsimp only at hreach ⊢
    rw [runToEnd_of_done rfl] at hreach ⊢
    exact ⟨⟨_, rfl⟩, h.of_table h.toServes hreach rfl rfl⟩
  · rw [hb] at hreach
    dsimp only at hreach ⊢
    rw [runToEnd_send, runToEnd_of_done rfl] at hreach ⊢
    obtain ⟨id, index, size, rfl⟩ := Pager.request_of_begin hb
    exact ⟨⟨_, rfl⟩, h.of_table (h.toServes.respond_page id index size) hreach rfl rfl⟩

/-- A call that ends at once and only looks at the table leaves it level. -/
theorem of_view (h : Level settings file f st s) {c : Call} {r : Return}
    (hbegin : c.begin s = ⟨s', [], .returned (.ok r)⟩) (hc : c.IsView) :
    Level settings file f st s' := by
  obtain ⟨hfile, hhistory⟩ := table_begin_of_isView (s := s) hc
  have hreach := h.reachable.step (.call c)
  rw [hbegin] at hfile hhistory hreach
  exact h.of_table h.toServes hreach hfile hhistory

/-- A column whose kind has an order can be sorted. -/
theorem exists_clickHeader (h : Level settings file f st s) {profile : Profile}
    (hprofile : profile ∈ s.table.profiles) (horder : profile.kind.hasOrder = true) :
    ∃ s' sort, s.clickHeader profile.column = .ok (s', sort) ∧ Level settings file f st s' := by
  obtain ⟨v, hv⟩ := h.follows.exists_displayed?
  have hshown := (upToDate_of_reachable h.reachable).shows_displayed hv
  -- the profiles are those of the version on display, one for each of its columns
  rw [hshown.profiles_eq] at hprofile
  obtain ⟨column, hcolumn, rfl⟩ := List.mem_map.1 hprofile
  have hsort : s.table.sort.click? v.dataset s.table.profiles column =
      .ok (s.table.sort.click column) := by
    have hhas : s.table.profiles.hasOrder column = true := by
      rw [hshown.profiles_eq, Profiles.hasOrder, Classifier.kind?_profile _ hcolumn]
      exact horder
    have his : v.dataset.isColumn column = true := List.contains_iff_mem.2 hcolumn
    simp [SortOrder.click?, hhas, his]
  have hclick := clickHeader_eq_ok hv hsort
  have hbegin : (Call.clickHeader column).begin s = .ofResult s .sorted (.ok (_, _)) :=
    congrArg (Turn.ofResult s .sorted) hclick
  exact ⟨_, _, hclick, h.of_view hbegin trivial⟩

/-- There is a table to search. -/
theorem exists_search (h : Level settings file f st s) (query : String) :
    ∃ s' count, s.search query = .ok (s', count) ∧ Level settings file f st s' := by
  have hsearch := search_eq_ok query h.follows.toPlaced.isEmpty_eq_false
  have hbegin : (Call.search query).begin s = .ofResult s .matching (.ok (_, _)) :=
    congrArg (Turn.ofResult s .matching) hsearch
  exact ⟨_, _, hsearch, h.of_view hbegin trivial⟩

/-- A step back and one forward lead back to the newest version. -/
theorem redo_of_undo (h : Level settings file f st s) {events : List Event}
    (hundo : s.undo = (s', events, true)) : Level settings file f st s'.redo.1 := by
  have hback : Reachable settings ⟨s', []⟩ := by
    have hstep : Reachable settings (.after [] (.ofMove s.undo)) := h.reachable.step (.call .undo)
    rw [hundo] at hstep
    exact hstep
  have hforth : Reachable settings ⟨s'.redo.1, []⟩ := hback.step (.call .redo)
  unfold undo at hundo
  cases hok : s.table.history.older? with
  | none =>
    rw [hok] at hundo
    exact absurd (congrArg (fun moved => moved.2.2) hundo) (by simp [goTo])
  | some older =>
    rw [hok] at hundo
    obtain rfl : s.display { s.table with history := older } = s' :=
      congrArg (fun moved => moved.1) hundo
    have hhistory : (s.display { s.table with history := older }).table.history = older :=
      history_display ..
    have hfile : (s.display { s.table with history := older }).table.file = s.table.file :=
      file_display ..
    -- forward again, there is the history from before
    have hnewer := History.newer?_of_older? h.follows.toPlaced hok
    refine h.of_table h.toServes hforth ?_ ?_
    · rw [redo, hhistory, hnewer]
      exact (file_display ..).trans hfile
    · rw [redo, hhistory, hnewer]
      exact history_display ..

end Level

end Session

end Tabula
