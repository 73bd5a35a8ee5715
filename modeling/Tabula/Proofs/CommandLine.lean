import Mathlib.Data.List.Forall2
import Tabula.CommandLine
import Tabula.Proofs.Session.Untouched
import Tabula.Proofs.Settings
import Tabula.Proofs.Statistics.Passes

/-!
# Runs of the command line

A run whose arguments make sense and whose files can be read comes to its end, whatever the table
holds and whatever the filters ask for, and it prints two documents (`run_succeeds`). The first one
has the statistics of each column over the first rows of the table that the filters left
(`Json.Value.Tells`), and the second one shows the newest version, which the service holds as
current (`Json.Value.ShowsNewest`).

`Succeeds` says of a part of a run that it ends without a fault and what then lies on the desk; its
rule for parts that follow one another makes a proof about the script run along the script. What
lies on the desk is a session that is level with its file, all the way from its opening to the
deletion at the end, so the lemmas about calls of such sessions say that every part succeeds. The
number of versions follows the file: one more for each filter that succeeds, and one less behind the
deletion. Until the statistics are printed, nobody sorts or searches, so what is on display follows
from what the filters kept.
-/

namespace Tabula

/-! ### Documents -/

namespace Json.Value

/-- The member of a document that has a name. -/
def member? (document : Json.Value) (name : String) : Option Json.Value :=
  match document with
  | .object members => members.lookup name
  | _ => none

/-- A snapshot of so many versions, the newest of which is on display and is held as current by the
service, while no filter is under way. -/
structure ShowsNewest (snapshot : Json.Value) (count : Nat) : Prop where
  versionCount : snapshot.member? "version_count" = some (.nat count)
  versions : ∃ number, snapshot.member? "viewed_version" = some (.nat number) ∧
    snapshot.member? "committed_version" = some (.nat number)
  canRedo : snapshot.member? "can_redo" = some (.bool false)
  commitInFlight : snapshot.member? "commit_in_flight" = some (.bool false)

/-- The entry of a column in the statistics of the first page of a table: it tells the name and the
kind of the column, and how many of the rows have a value in it and how many have none. What else it
tells are the statistics of the column over these rows, which are a page of all rows. -/
structure Tells (entry : Json.Value) (settings : Settings) (d : Dataset) (column : String) :
    Prop where
  column_eq : entry.member? "column" = some (.string column)
  kind_eq : entry.member? "kind" =
    some (.string ((Classifier.ofSettings settings).kind d column).name)
  count_eq : entry.member? "count" =
    some (.nat
      ((Statistician.ofSettings settings).values (d.rows.take settings.pageSize) column).length)
  missing_eq : entry.member? "null_count" =
    some (.nat ((d.rows.take settings.pageSize).length -
      ((Statistician.ofSettings settings).values (d.rows.take settings.pageSize) column).length))
  statistics_eq : entry =
    ((Statistician.ofSettings settings).column (d.rows.take settings.pageSize) column
      ((Classifier.ofSettings settings).kind d column) (some d.size)).toJson

end Json.Value

/-- The statistics of a column over the first page are told by their document. -/
theorem Statistician.tells_column (settings : Settings) (d : Dataset) (column : String) :
    let page := d.rows.take settings.pageSize
    let kind := (Classifier.ofSettings settings).kind d column
    (((Statistician.ofSettings settings).column page column kind (some d.size)).toJson).Tells
      settings d column := by
  intro page kind
  obtain ⟨hname, hkind, hcount, hmissing⟩ :=
    (Statistician.ofSettings settings).values_column page column kind (some d.size)
  constructor
  case column_eq => exact congrArg (some ∘ Json.Value.string) hname
  case kind_eq => exact congrArg (some ∘ Json.Value.string ∘ ColumnKind.name) hkind
  case count_eq => exact congrArg (some ∘ Json.Value.nat) hcount
  case missing_eq => exact congrArg (some ∘ Json.Value.nat) hmissing
  case statistics_eq => rfl

theorem Session.Level.showsNewest {settings : Settings} {file : FileNumber} {f : VersionedFile}
    {st : Store} {s : Session} (h : Level settings file f st s) :
    s.snapshot.toJson.ShowsNewest f.versions.length where
  versionCount := congrArg (some ∘ Json.Value.nat) h.size_eq
  versions := by
    obtain ⟨v, hdisplayed, hcurrent, -⟩ := h.displayed?_eq_current?
    have hdocument {version : Option Version} (hversion : version = some v) :
        some (Json.Value.ofOption .nat (version.map Version.number)) = some (.nat v.number) := by
      rw [hversion]
      rfl
    exact ⟨v.number, hdocument hdisplayed, hdocument hcurrent⟩
  canRedo := congrArg (some ∘ Json.Value.bool) h.newest
  commitInFlight := congrArg (some ∘ Json.Value.bool) h.filtering_eq

namespace CommandLine

open Session (Level runToEnd)

/-! ### Parts of a run -/

/-- A part of a run that ends without a fault, and what then lies on the desk. -/
def Succeeds (part : Script Unit) (d : Desk) (P : Desk → Prop) : Prop :=
  ∃ d', part.run.run d = (.ok (), d') ∧ P d'

variable {part rest : Script Unit} {d d' : Desk} {P Q : Desk → Prop}

theorem Succeeds.bind (hpart : Succeeds part d P) (hrest : ∀ d', P d' → Succeeds rest d' Q) :
    Succeeds (do part; rest) d Q := by
  obtain ⟨d', hrun, hP⟩ := hpart
  obtain ⟨d'', hrun', hQ⟩ := hrest d' hP
  refine ⟨d'', ?_, hQ⟩
  rw [ExceptT.run_bind, StateT.run_bind, hrun]
  exact hrun'

theorem Succeeds.imp (h : Succeeds part d P) (himp : ∀ d', P d' → Q d') : Succeeds part d Q :=
  Exists.imp (fun _ => And.imp_right (himp _)) h

/-- The desk after a call. -/
def Desk.called (d : Desk) (begin : Session → Session.Step) : Desk :=
  { d with
    store := (runToEnd d.store (begin d.session)).store
    session := (runToEnd d.store (begin d.session)).session }

/-- A call changes the desk, and its fault is that of the part. -/
theorem run_call (begin : Session → Session.Step) (d : Desk) :
    (call begin).run.run d =
      (match (runToEnd d.store (begin d.session)).result with
        | .ok _ => .ok ()
        | .error fault => .error (.session fault), d.called begin) := by
  show (StateT.run (ExceptT.run (match (runToEnd d.store (begin d.session)).result with
    | .ok _ => pure ()
    | .error fault => throw (Fault.session fault) : Script Unit)) (d.called begin) : Id _) = _
  cases (runToEnd d.store (begin d.session)).result <;> rfl

/-- A filter that is tried is called, and whether it fails makes no difference. -/
theorem run_tryFilter (query : String) (d : Desk) :
    (tryFilter query).run.run d = (.ok (), d.called (·.filter query)) := by
  have hcall : StateT.run (call (·.filter query)) d = _ := run_call (·.filter query) d
  simp only [tryFilter, tryCatch, tryCatchThe, MonadExceptOf.tryCatch, ExceptT.tryCatch]
  rw [ExceptT.run_mk, StateT.run_bind, hcall]
  cases (runToEnd d.store (d.session.filter query)).result <;> rfl

theorem Succeeds.get {parts : Desk → Script Unit} (h : Succeeds (parts d) d P) :
    Succeeds (do parts (← get)) d P := h

theorem Succeeds.modify {change : Desk → Desk} (h : P (change d)) :
    Succeeds (modify change) d P :=
  ⟨_, rfl, h⟩

theorem succeeds_call {begin : Session → Session.Step} {outcome : Session.Outcome}
    (hresult : (runToEnd d.store (begin d.session)).result = .ok outcome)
    (hP : P (d.called begin)) : Succeeds (call begin) d P := by
  refine ⟨_, ?_, hP⟩
  rw [run_call, hresult]

theorem succeeds_change {α : Type} {a : α} {s' : Session}
    {step : Session → Except SessionFault (Session × α)} (hstep : step d.session = .ok (s', a))
    (hP : P { d with session := s' }) : Succeeds (change step) d P := by
  refine Succeeds.get ?_
  rw [hstep]
  exact ⟨_, rfl, hP⟩

/-! ### What lies on the desk -/

variable {settings : Settings} {file : FileNumber} {f f' : VersionedFile}
  {printed : List Json.Value}

/-- A desk with a session that is level with its file, and with what was printed so far. -/
structure Ready (settings : Settings) (file : FileNumber) (f : VersionedFile)
    (printed : List Json.Value) (d : Desk) : Prop where
  level : Level settings file f d.store d.session
  printed_eq : d.printed = printed

/-- How many filters succeed that are tried one after the other. -/
def accepted (st : Store) (s : Session) : List String → Nat
  | [] => 0
  | query :: queries =>
    let ended := runToEnd st (s.filter query)
    (if ended.result.isOk then 1 else 0) + accepted ended.store ended.session queries

/-- The tables that filters keep, for each one that can be run on what the last one kept that could
be. -/
def narrowings (dataset : Dataset) : List String → List Dataset
  | [] => []
  | query :: queries =>
    match Query.run dataset query with
    | .ok (kept, _) => kept :: narrowings kept queries
    | .error _ => narrowings dataset queries

/-- The filters that succeed are those that can be run. -/
theorem accepted_eq {st : Store} {s : Session} (h : Level settings file f st s)
    (queries : List String) :
    accepted st s queries = (narrowings f.currentVersion.dataset queries).length := by
  induction queries generalizing f st s with
  | nil => rfl
  | cons query queries ih =>
    cases hrun : Query.run f.currentVersion.dataset query with
    | ok result =>
      obtain ⟨kept, description⟩ := result
      obtain ⟨hresult, h', -⟩ := h.runToEnd_filter_of_run hrun
      rw [accepted, narrowings, hrun, hresult, ih h', h.sound.currentVersion_push,
        List.length_cons]
      exact Nat.add_comm 1 _
    | error fault =>
      obtain ⟨⟨fault', hresult⟩, h', -⟩ := h.runToEnd_filter_of_fault hrun
      rw [accepted, narrowings, hrun, hresult, ih h']
      exact Nat.zero_add _

/-- A filter leaves one version more if it can be run, and then what it keeps is on display. -/
theorem exists_ready_filter (h : Ready settings file f printed d) {shown : Dataset}
    (hshown : d.session.Untouched settings shown) (query : String) (queries : List String) :
    ∃ f' shown', Ready settings file f' printed (d.called (·.filter query)) ∧
      (d.called (·.filter query)).session.Untouched settings shown' ∧
      f'.versions.length + (narrowings f'.currentVersion.dataset queries).length =
        f.versions.length + (narrowings f.currentVersion.dataset (query :: queries)).length ∧
      (narrowings f'.currentVersion.dataset queries).foldl Dataset.showing shown' =
        (narrowings f.currentVersion.dataset (query :: queries)).foldl Dataset.showing shown := by
  cases hrun : Query.run f.currentVersion.dataset query with
  | ok result =>
    obtain ⟨kept, description⟩ := result
    obtain ⟨-, hlevel, -⟩ := h.level.runToEnd_filter_of_run hrun
    refine ⟨f.push kept description, shown.showing kept, ⟨hlevel, h.printed_eq⟩,
      h.level.untouched_filter_of_run hshown hrun, ?_, ?_⟩
    · rw [narrowings, hrun, h.level.sound.currentVersion_push, VersionedFile.versions_push,
        List.length_append, List.length_cons, Nat.add_assoc]
      exact congrArg _ (Nat.add_comm 1 _)
    · rw [narrowings, hrun, h.level.sound.currentVersion_push]
      rfl
  | error fault =>
    obtain ⟨-, hlevel, -⟩ := h.level.runToEnd_filter_of_fault hrun
    refine ⟨f, shown, ⟨hlevel, h.printed_eq⟩, h.level.untouched_filter_of_fault hshown hrun, ?_, ?_⟩
    · rw [narrowings, hrun]
    · rw [narrowings, hrun]

/-- Filters that are tried leave one version more for each that can be run, and what they kept is on
display. -/
theorem succeeds_filters (h : Ready settings file f printed d) {shown : Dataset}
    (hshown : d.session.Untouched settings shown) (queries : List String) :
    let kept := narrowings f.currentVersion.dataset queries
    Succeeds (queries.forM tryFilter) d fun d' => ∃ f',
      f'.versions.length = f.versions.length + kept.length ∧ Ready settings file f' printed d' ∧
        d'.session.Untouched settings (kept.foldl Dataset.showing shown) := by
  -- on the filters, for any file: the next one is tried on the desk that the last one left
  induction queries generalizing f d shown with
  | nil => exact ⟨d, rfl, f, rfl, h, hshown⟩
  | cons query queries ih =>
    obtain ⟨f', shown', hready, hshown', hlength, hfold⟩ :=
      exists_ready_filter h hshown query queries
    have htry : Succeeds (tryFilter query) d fun d' => d' = d.called (·.filter query) :=
      ⟨_, run_tryFilter query d, rfl⟩
    refine htry.bind fun d' hd' => ?_
    subst hd'
    obtain ⟨d'', hrun, f'', hlength', hready', hshown''⟩ := ih hready hshown'
    exact ⟨d'', hrun, f'', hlength'.trans hlength, hready', hfold ▸ hshown''⟩

theorem succeeds_showPage (h : Ready settings file f printed d) :
    Succeeds (call (·.showPage 1)) d fun d' =>
      d' = d.called (·.showPage 1) ∧ Ready settings file f printed d' := by
  obtain ⟨⟨outcome, hresult⟩, hlevel⟩ := h.level.runToEnd_showPage
  exact succeeds_call hresult ⟨rfl, hlevel, h.printed_eq⟩

theorem succeeds_stepBackAndForth (h : Ready settings file f printed d) :
    Succeeds stepBackAndForth d (Ready settings file f printed) := by
  refine Succeeds.modify ?_
  -- it goes forward only where it could go back
  rcases hundo : d.session.undo with ⟨s', events, _ | _⟩
  · exact h
  · exact ⟨h.level.redo_of_undo hundo, h.printed_eq⟩

theorem succeeds_sortFirst (h : Ready settings file f printed d) :
    Succeeds sortFirst d (Ready settings file f printed) := by
  refine Succeeds.get ?_
  split
  · next profile hfound =>
    have horder : profile.kind.hasOrder = true := by simpa using List.find?_some hfound
    obtain ⟨s', sort, hclick, hlevel⟩ :=
      h.level.exists_clickHeader (List.mem_of_find?_eq_some hfound) horder
    have hsorted : Succeeds (change (·.clickHeader profile.column)) d
        (Ready settings file f printed) :=
      succeeds_change hclick ⟨hlevel, h.printed_eq⟩
    exact hsorted.bind fun d' h' => (succeeds_showPage h').imp fun _ => And.right
  · exact ⟨d, rfl, h⟩

theorem succeeds_search (h : Ready settings file f printed d) (term : String) :
    Succeeds (change (·.search term)) d (Ready settings file f printed) := by
  obtain ⟨s', count, hsearch, hlevel⟩ := h.level.exists_search term
  exact succeeds_change hsearch ⟨hlevel, h.printed_eq⟩

/-- Where the newest version is the upload, there is no other. -/
theorem length_eq_one_of_isUpload {st : Store} {s : Session} (h : Level settings file f st s)
    {newest : Version} (hlast : s.table.history.versions.getLast? = some newest)
    (hupload : newest.number = uploadNumber) : f.versions.length = 1 := by
  have hnumber : f.numbers.getLast? = some uploadNumber := by
    rw [← History.numbers_of_entries_eq h.entries_eq, History.numbers, List.getLast?_map, hlast,
      Option.map_some, hupload]
  have hcurrent : f.current = uploadNumber :=
    Option.some.inj (h.sound.getLast?_numbers.symm.trans hnumber)
  -- any other version would have a number above that of the upload, and not above the current one
  have hnil : f.others = [] := by
    refine List.eq_nil_iff_forall_not_mem.2 fun v hv => ?_
    have hle := h.sound.le_current (List.mem_map_of_mem (List.mem_cons_of_mem _ hv))
    rw [hcurrent] at hle
    exact absurd (h.sound.uploadNumber_lt hv) (Nat.not_lt_of_le hle)
  rw [VersionedFile.versions, hnil]
  rfl

theorem succeeds_print (h : Ready settings file f printed d) (document : Session → Json.Value) :
    Succeeds (print document) d (Ready settings file f (document d.session :: printed)) :=
  .modify ⟨h.level, congrArg _ h.printed_eq⟩

/-- The upload stays, and of other versions the newest one goes. -/
theorem succeeds_deleteNewest (h : Ready settings file f printed d) :
    Succeeds deleteNewest d fun d' => ∃ f', f'.versions.length = max 1 (f.versions.length - 1) ∧
      Ready settings file f' printed d' := by
  refine Succeeds.get ?_
  split
  · next newest hlast =>
    split
    · next hupload =>
      have hone := length_eq_one_of_isUpload h.level hlast (beq_iff_eq.1 hupload)
      exact ⟨d, rfl, f, by rw [hone]; rfl, h⟩
    · next hupload =>
      have hne : newest.number ≠ uploadNumber := fun heq => hupload (beq_iff_eq.2 heq)
      obtain ⟨f', hlength, hresult, hlevel⟩ := h.level.runToEnd_remove hlast hne
      refine succeeds_call hresult ⟨f', ?_, hlevel, h.printed_eq⟩
      have hpos : 0 < f'.versions.length := Nat.zero_lt_succ _
      omega
  · next hlast =>
    -- there is always the upload
    have hsize := h.level.size_eq
    rw [History.size, List.getLast?_eq_none_iff.1 hlast] at hsize
    exact absurd hsize (Nat.succ_ne_zero _).symm

/-- The statistics behind the first page have an entry for each column on display. -/
theorem succeeds_firstPage (h : Ready settings file f printed d) {shown : Dataset}
    (hshown : d.session.Untouched settings shown) :
    Succeeds (call (·.showPage 1)) d fun d' => Ready settings file f printed d' ∧
      List.Forall₂ (fun column entry => entry.Tells settings shown column) shown.columns
        (d'.session.allStatistics.map ColumnStatistics.toJson) := by
  refine (succeeds_showPage h).imp fun d' ⟨heq, h'⟩ => ⟨h', ?_⟩
  have hstatistics := h.level.allStatistics_showPage hshown
  rw [heq]
  show List.Forall₂ _ _ ((runToEnd d.store (d.session.showPage 1)).session.allStatistics.map _)
  rw [hstatistics, List.map_map, List.forall₂_map_right_iff, List.forall₂_same]
  exact fun column _ => Statistician.tells_column settings shown column

/-- What follows the search: a deletion, and a snapshot. -/
theorem succeeds_ending (h : Ready settings file f printed d) :
    Succeeds (do deleteNewest; print fun s => s.snapshot.toJson) d fun d' => ∃ snapshot,
      snapshot.ShowsNewest (max 1 (f.versions.length - 1)) ∧
        d'.printed = snapshot :: printed := by
  refine (succeeds_deleteNewest h).bind fun d₁ ⟨f', hlength, h₁⟩ => ?_
  refine (succeeds_print h₁ _).imp fun d' hd' => ⟨_, ?_, hd'.printed_eq⟩
  rw [← hlength]
  exact h₁.level.showsNewest

/-! ### Runs -/

/-- **The script.** For a file that the store serves, the script comes to its end. It prints the
statistics when all filters were tried, and a snapshot at the end. -/
theorem succeeds_script {a : Arguments} (hserves : d.store.Serves file f)
    (hreach : Session.Reachable settings ⟨d.session, []⟩) (hprinted : d.printed = [])
    (hservice : d.session.pager.hasService = true)
    (hsize : d.session.pager.info.size = settings.pageSize) :
    let kept := narrowings f.currentVersion.dataset a.effectiveFilters
    let shown := kept.foldl Dataset.showing (.ofRows f.currentVersion.dataset.rows)
    Succeeds (script file a) d fun d' => ∃ entries snapshot,
      List.Forall₂ (fun column entry => entry.Tells settings shown column) shown.columns entries ∧
        snapshot.ShowsNewest (max 1 (f.versions.length + kept.length - 1)) ∧
        d'.printed = [snapshot, .array entries] := by
  intro kept shown
  -- the file is opened, and its first version is on display
  obtain ⟨hresult, hlevel⟩ := Level.runToEnd_connect hserves hreach
  have hfirst := Session.untouched_connect hserves hservice hsize
  let opened := d.called (·.connect file)
  have hconnect : Succeeds (call (·.connect file)) d fun d' => d' = opened :=
    succeeds_call hresult rfl
  have hopened : Ready settings file f [] opened := ⟨hlevel, hprinted⟩
  refine hconnect.bind fun d₁ heq => ?_
  subst heq
  -- the filters are tried, and what they kept is looked at
  refine (succeeds_filters hopened hfirst a.effectiveFilters).bind
    fun d₂ ⟨f₁, hlength, hfiltered, huntouched⟩ => ?_
  refine (succeeds_firstPage hfiltered huntouched).bind fun d₃ ⟨hpaged, htells⟩ => ?_
  refine (succeeds_print hpaged _).bind fun printed hprinted => ?_
  -- nothing from here on changes the file before the deletion
  refine (succeeds_stepBackAndForth hprinted).bind fun d₄ hback => ?_
  refine (succeeds_sortFirst hback).bind fun d₅ hsorted => ?_
  rw [← hlength]
  have hdocuments : ∀ d' : Desk, (∃ snapshot,
      snapshot.ShowsNewest (max 1 (f₁.versions.length - 1)) ∧
        d'.printed = [snapshot, .array (d₃.session.allStatistics.map ColumnStatistics.toJson)]) →
      ∃ entries snapshot,
        List.Forall₂ (fun column entry => entry.Tells settings shown column) shown.columns entries ∧
          snapshot.ShowsNewest (max 1 (f₁.versions.length - 1)) ∧
          d'.printed = [snapshot, .array entries] :=
    fun d' ⟨snapshot, hnewest, hprinted'⟩ => ⟨_, snapshot, htells, hnewest, hprinted'⟩
  -- a search stands between, or none
  refine Succeeds.imp ?_ hdocuments
  cases a.search with
  | none => exact succeeds_ending hsorted
  | some term => exact (succeeds_search hsorted term).bind fun d₆ h => succeeds_ending h

/-- The desk with which a run begins: the table is the one file of the store. -/
def newDesk (settings : Settings) (dataset : Dataset) : Desk where
  store := (({} : Store).keep dataset).1
  session := { settings, pager := .start settings.pageSize true }

theorem serves_newDesk (settings : Settings) (dataset : Dataset) :
    (newDesk settings dataset).store.Serves 1 (.ofUpload dataset) where
  planted := fun _ => rfl
  hideUpload_eq := rfl
  interpreter_eq := rfl
  file?_eq := rfl
  sound := .ofUpload dataset

variable {read : String → Option ByteArray} {args : List String} {a : Arguments}
  {dataset : Dataset}

theorem check_of_loadSettings (h : loadSettings read a = .ok settings) :
    settings.check = .ok () := by
  unfold loadSettings at h
  split at h
  · next path _ =>
    cases hload : Settings.load (read path) with
    | error fault => simp [hload, Except.mapError] at h
    | ok loaded =>
      rw [hload] at h
      obtain rfl := Except.ok.inj h
      exact Settings.check_of_load hload
  · obtain rfl := Except.ok.inj h
    rfl

theorem prepare_eq_ok (hargs : Arguments.parse args = .ok a)
    (hsettings : loadSettings read a = .ok settings) (htable : loadTable read a = .ok dataset) :
    prepare read args = .ok (a, newDesk settings dataset, 1) ∧
      Session.start settings = .ok (newDesk settings dataset).session := by
  have hstart : Session.start settings = .ok (newDesk settings dataset).session := by
    rw [Session.start, check_of_loadSettings hsettings]
    rfl
  refine ⟨?_, hstart⟩
  unfold prepare
  rw [hargs]
  simp only [bind, Except.bind, hsettings, htable, hstart]
  rfl

/-- **Runs.** If the arguments make sense and the files that they name can be loaded, a run ends
without a fault and prints two documents. The filters that succeed are those that can be run on what
the ones before kept. The first document has the statistics of what the last of them kept, an entry
for each column in turn, over the rows of the first page. The second document is a snapshot: if so
many filters succeeded, it counts as many versions, and one where none did; it shows the newest of
them, which the service holds as current, there is none to redo, and no filter is under way. -/
theorem run_succeeds (hargs : Arguments.parse args = .ok a)
    (hsettings : loadSettings read a = .ok settings) (htable : loadTable read a = .ok dataset) :
    let opened := (newDesk settings dataset).called (·.connect 1)
    let count := accepted opened.store opened.session a.effectiveFilters
    let kept := narrowings dataset a.effectiveFilters
    let shown := kept.foldl Dataset.showing (.ofRows dataset.rows)
    prepare read args = .ok (a, newDesk settings dataset, 1) ∧
    count = kept.length ∧
    ∃ entries snapshot,
      run read args = { printed := [.array entries, snapshot], fault := none } ∧
      List.Forall₂ (fun column entry => entry.Tells settings shown column) shown.columns entries ∧
      snapshot.ShowsNewest (max 1 count) := by
  intro opened count kept shown
  obtain ⟨hprepare, hstart⟩ := prepare_eq_ok hargs hsettings htable
  have hserves := serves_newDesk settings dataset
  have hreach : Session.Reachable settings ⟨(newDesk settings dataset).session, []⟩ :=
    .start hstart
  have hcount : count = kept.length := accepted_eq (Level.runToEnd_connect hserves hreach).2 _
  refine ⟨hprepare, hcount, ?_⟩
  -- pages have the size of the settings, which is no zero
  have hsize : (newDesk settings dataset).session.pager.info.size = settings.pageSize :=
    Nat.max_eq_left (Settings.check_eq_ok_iff.1 (check_of_loadSettings hsettings)).1
  obtain ⟨d', hrun, entries, snapshot, htells, hnewest, hprinted⟩ :=
    succeeds_script (a := a) hserves hreach rfl rfl hsize
  refine ⟨entries, snapshot, ?_, htells, ?_⟩
  · unfold run
    rw [hprepare]
    dsimp only
    rw [hrun]
    dsimp only
    rw [hprinted]
    rfl
  · -- a new file has the one version of its upload
    have hone : (VersionedFile.ofUpload dataset).versions.length = 1 := rfl
    rw [hone, Nat.add_sub_cancel_left] at hnewest
    rw [hcount]
    exact hnewest

/-- A table of three rows, of which one has no amount. -/
def paidTable : Dataset where
  columns := ["paid", "amount"]
  rows :=
    [⟨[("paid", .bool true), ("amount", .number 7)], by simp⟩,
      ⟨[("paid", .bool false), ("amount", .number 2)], by simp⟩,
      ⟨[("paid", .bool true), ("amount", .null)], by simp⟩]

/-- The file of this table. -/
def readPaid (_path : String) : Option ByteArray :=
  some "paid,amount\ntrue,7\nfalse,2\ntrue,\n".toUTF8

/-- A command line with three filters, of which the second one cannot be run. -/
def paidArgs : List String :=
  ["paid.csv", "--filter", "paid = true", "--filter", "paid", "--filter", "paid = true"]

/-- What it asks for. -/
def paidArguments : Arguments where
  table := some "paid.csv"
  filters := ["paid = true", "paid", "paid = true"]

/-- This run tells of one amount in two rows that were paid, and counts two versions at its end. -/
theorem run_succeeds_paid :
    Arguments.parse paidArgs = .ok paidArguments ∧
      loadTable readPaid paidArguments = .ok paidTable ∧
      ∃ paid amount snapshot,
        run readPaid paidArgs = { printed := [.array [paid, amount], snapshot], fault := none } ∧
        amount.member? "column" = some (.string "amount") ∧
        amount.member? "kind" = some (.string "Numeric") ∧
        amount.member? "count" = some (.nat 1) ∧ amount.member? "null_count" = some (.nat 1) ∧
        snapshot.ShowsNewest 2 := by
  have hargs : Arguments.parse paidArgs = .ok paidArguments := by decide +kernel
  have htable : loadTable readPaid paidArguments = .ok paidTable := by decide +kernel
  obtain ⟨-, haccepted, entries, snapshot, hrun, htells, hnewest⟩ := run_succeeds hargs rfl htable
  -- two filters can be run, and both keep the first row and the last one
  have hlength : (narrowings paidTable paidArguments.effectiveFilters).length = 2 := by
    decide +kernel
  have hshown : (narrowings paidTable paidArguments.effectiveFilters).foldl Dataset.showing
      (.ofRows paidTable.rows) = .ofRows [paidTable.rows[0], paidTable.rows[2]] := by
    decide +kernel
  rw [haccepted, hlength] at hnewest
  rw [hshown] at htells
  -- each of the two columns has an entry
  have hcolumns : (Dataset.ofRows [paidTable.rows[0], paidTable.rows[2]]).columns =
      ["paid", "amount"] := rfl
  rw [hcolumns] at htells
  simp only [List.forall₂_cons_left_iff, List.forall₂_nil_left_iff] at htells
  obtain ⟨paid, -, -, ⟨amount, -, hamount, rfl, rfl⟩, rfl⟩ := htells
  have hkind : (Classifier.ofSettings {}).kind (.ofRows [paidTable.rows[0], paidTable.rows[2]])
      "amount" = .numeric := by decide +kernel
  have hcount : ((Statistician.ofSettings {}).values
      ((Dataset.ofRows [paidTable.rows[0], paidTable.rows[2]]).rows.take ({} : Settings).pageSize)
      "amount").length = 1 := by decide +kernel
  refine ⟨hargs, htable, paid, amount, snapshot, hrun, hamount.column_eq, ?_, ?_, ?_, hnewest⟩
  · rw [hamount.kind_eq, hkind]
    rfl
  · rw [hamount.count_eq, hcount]
  · rw [hamount.missing_eq, hcount]
    rfl

end CommandLine

end Tabula
