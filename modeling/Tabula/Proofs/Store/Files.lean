import Mathlib.Data.List.Nodup
import Tabula.Proofs.History.Soundness
import Tabula.Store

/-!
# The files of a store

The numbers of a file's versions increase from that of the upload, the current version is the last
one, and the number that comes next lies above all of them (`VersionedFile.Sound`). Filters and
deletions keep it so: a filter puts its result behind the last version and makes it current, and
when the current version is deleted, the version before it is the last one.

`Store.Responded` says what a request may come to. A request that fails leaves every file as it was,
and one that succeeds changes at most the file that it names, so all files of a store are sound
whatever was asked of it (`Store.Reachable.sound`).
-/

namespace Tabula

namespace VersionedFile

/-- The numbers of the versions, oldest version first. -/
def numbers (f : VersionedFile) : List VersionNumber :=
  f.versions.map FileVersion.number

/-- A file whose versions are numbered upwards from the upload, the last one being current. -/
structure Sound (f : VersionedFile) : Prop where
  /-- The first version is the upload. -/
  first_number : f.first.number = uploadNumber
  /-- And it is described as the upload. -/
  first_description : f.first.description = uploadDescription
  /-- The numbers increase from left to right. -/
  increasing : f.numbers.Pairwise (· < ·)
  /-- The current version is the last one. -/
  getLast?_numbers : f.numbers.getLast? = some f.current
  /-- The next number lies above the last one. -/
  current_lt_next : f.current < f.next

variable {f f' : VersionedFile} {number : VersionNumber}

theorem Sound.nodup_numbers (hf : f.Sound) : f.numbers.Nodup :=
  hf.increasing.imp fun hlt => Nat.ne_of_lt hlt

theorem Sound.ofUpload (dataset : Dataset) : (ofUpload dataset).Sound where
  first_number := rfl
  first_description := rfl
  increasing := List.pairwise_singleton _ _
  getLast?_numbers := rfl
  current_lt_next := Nat.lt_succ_self _

@[simp] theorem versions_push (f : VersionedFile) (dataset : Dataset) (description : String) :
    (f.push dataset description).versions =
      f.versions ++ [{ number := f.next, dataset, description }] := rfl

@[simp] theorem numbers_push (f : VersionedFile) (dataset : Dataset) (description : String) :
    (f.push dataset description).numbers = f.numbers ++ [f.next] := by
  simp [numbers]

@[simp] theorem first_push (f : VersionedFile) (dataset : Dataset) (description : String) :
    (f.push dataset description).first = f.first := rfl

@[simp] theorem current_push (f : VersionedFile) (dataset : Dataset) (description : String) :
    (f.push dataset description).current = f.next := rfl

/-- No version has a greater number than the current one. -/
theorem Sound.le_current (hf : f.Sound) {n : VersionNumber} (hn : n ∈ f.numbers) :
    n ≤ f.current :=
  History.le_getLast_of_pairwise_lt hf.increasing hf.getLast?_numbers n hn

/-- Every number of a file was handed out. -/
theorem Sound.lt_next (hf : f.Sound) {n : VersionNumber} (hn : n ∈ f.numbers) : n < f.next :=
  Nat.lt_of_le_of_lt (hf.le_current hn) hf.current_lt_next

theorem Sound.next_pos (hf : f.Sound) : 0 < f.next :=
  Nat.zero_lt_of_lt hf.current_lt_next

theorem Sound.uploadNumber_lt_next (hf : f.Sound) : uploadNumber < f.next := by
  have hone : uploadNumber ∈ f.numbers := hf.first_number ▸ List.mem_cons_self
  exact hf.lt_next hone

theorem Sound.push (hf : f.Sound) (dataset : Dataset) (description : String) :
    (f.push dataset description).Sound where
  first_number := hf.first_number
  first_description := hf.first_description
  increasing := by
    rw [numbers_push, List.pairwise_append]
    refine ⟨hf.increasing, List.pairwise_singleton _ _, fun n hn m hm => ?_⟩
    obtain rfl := List.mem_singleton.1 hm
    exact hf.lt_next hn
  getLast?_numbers := by
    rw [numbers_push, List.getLast?_concat]
    rfl
  current_lt_next := Nat.lt_succ_self _

/-- Versions of one number are the same. -/
theorem Sound.eq_of_number_eq (hf : f.Sound) {v w : FileVersion} (hv : v ∈ f.versions)
    (hw : w ∈ f.versions) (h : v.number = w.number) : v = w :=
  List.inj_on_of_nodup_map hf.nodup_numbers hv hw h

/-- The current version is found by its number. -/
theorem Sound.find?_versions (hf : f.Sound) :
    (f.versions.find? fun v => v.number == f.current) = some f.currentVersion := by
  have hlast := hf.getLast?_numbers
  rw [numbers, List.getLast?_map, Option.map_eq_some_iff] at hlast
  obtain ⟨v, hv, hnum⟩ := hlast
  obtain ⟨w, hw⟩ : ∃ w, (f.versions.find? fun w => w.number == f.current) = some w :=
    Option.isSome_iff_exists.1
      (List.find?_isSome.2 ⟨v, List.mem_of_getLast? hv, by simp [hnum]⟩)
  rw [currentVersion, hw]
  rfl

/-- The current version is the last one. -/
theorem Sound.getLast?_versions (hf : f.Sound) :
    f.versions.getLast? = some f.currentVersion ∧ f.currentVersion.number = f.current := by
  have hfound := hf.find?_versions
  have hcurrent : f.currentVersion.number = f.current := by simpa using List.find?_some hfound
  have hlast := hf.getLast?_numbers
  rw [numbers, List.getLast?_map, Option.map_eq_some_iff] at hlast
  obtain ⟨v, hv, hnum⟩ := hlast
  obtain rfl := hf.eq_of_number_eq (List.mem_of_getLast? hv) (List.mem_of_find?_eq_some hfound)
    (hnum.trans hcurrent.symm)
  exact ⟨hv, hcurrent⟩

/-- A version is deleted only if its number stands in the file and is not that of the upload. The
version before it becomes current if it was. -/
theorem Sound.of_erase_eq_ok (hf : f.Sound) (hok : f.erase number = .ok f') :
    ∃ i before, f.numbers.findIdx? (· == number) = some (i + 1) ∧
      f.versions[i]? = some before ∧ f'.versions = f.versions.eraseIdx (i + 1) ∧
        f'.current = (if f.current = number then before.number else f.current) ∧
          f'.next = f.next ∧ f'.first = f.first := by
  unfold erase at hok
  split at hok
  · exact absurd hok (by simp)
  · next hne =>
    split at hok
    · exact absurd hok (by simp)
    · next i hi =>
      obtain rfl := Except.ok.inj hok
      -- the versions before the deleted one begin with the upload
      have hlt : i < f.versions.length := by
        obtain ⟨hlt, -⟩ := List.findIdx?_eq_some_iff_getElem.1 hi
        exact Nat.lt_succ_of_lt hlt
      have hfirst : (f.first.number == number) = false := by
        rw [hf.first_number]
        exact beq_eq_false_iff_ne.2 (Ne.symm hne)
      refine ⟨i, f.versions[i], ?_, List.getElem?_eq_getElem hlt, rfl, ?_, rfl, rfl⟩
      · show (f.first.number :: f.others.map FileVersion.number).findIdx? _ = _
        rw [List.findIdx?_cons, hfirst, List.findIdx?_map]
        exact congrArg (Option.map (· + 1)) hi
      · rw [List.getElem?_eq_getElem hlt]
        rfl

/-- A version that the file has and that is not the upload can be deleted. -/
theorem Sound.exists_erase (hf : f.Sound) (hne : number ≠ uploadNumber)
    (hmem : number ∈ f.numbers) : ∃ f', f.erase number = .ok f' := by
  rw [VersionedFile.erase, if_neg hne]
  cases hi : f.others.findIdx? fun v => v.number == number with
  | some i => exact ⟨_, rfl⟩
  | none =>
    obtain ⟨v, hv, rfl⟩ := List.mem_map.1 hmem
    rcases List.mem_cons.1 hv with rfl | hv
    · exact absurd hf.first_number hne
    · exact absurd (List.findIdx?_eq_none_iff.1 hi v hv) (by simp)

/-- Of the versions, a deletion leaves all but the one of its number. -/
theorem Sound.versions_erase (hf : f.Sound) (hok : f.erase number = .ok f') :
    f'.versions = f.versions.filter (·.number != number) := by
  obtain ⟨i, before, hi, -, hversions, -⟩ := hf.of_erase_eq_ok hok
  rw [hversions]
  exact History.eraseIdx_eq_filter hf.nodup_numbers hi

/-- Without a version, its number is gone from the line and all others stay. -/
theorem numbers_of_versions_eq_eraseIdx {i : Nat} (h : f'.versions = f.versions.eraseIdx i) :
    f'.numbers = f.numbers.eraseIdx i := by
  rw [numbers, h, ← List.eraseIdx_map]
  rfl

theorem Sound.erase (hf : f.Sound) (hok : f.erase number = .ok f') : f'.Sound := by
  obtain ⟨i, before, hi, hbefore, hversions, hcurrent, hnext, hfirst⟩ := hf.of_erase_eq_ok hok
  have hnumbers := numbers_of_versions_eq_eraseIdx hversions
  -- the number that goes, the last one, and the one in front of that which goes
  obtain ⟨hlt, hat, -⟩ := List.findIdx?_eq_some_iff_getElem.1 hi
  have hat : f.numbers[i + 1] = number := by simpa using hat
  have hlast := hf.getLast?_numbers
  rw [List.getLast?_eq_getElem?] at hlast
  have hbefore : f.numbers[i]? = some before.number := by
    rw [numbers, List.getElem?_map, hbefore]
    rfl
  -- the current version becomes an older one or stays
  have hle : f'.current ≤ f.current := by
    rw [hcurrent]
    split
    · exact hf.le_current (List.mem_of_getElem? hbefore)
    · exact Nat.le_refl _
  refine ⟨hfirst ▸ hf.first_number, hfirst ▸ hf.first_description, ?_, ?_, ?_⟩
  · rw [hnumbers]
    exact hf.increasing.eraseIdx _
  · rw [List.getLast?_eq_getElem?, hnumbers, List.length_eraseIdx_of_lt hlt,
      List.getElem?_eraseIdx, hcurrent]
    by_cases hcur : f.current = number
    · -- the current version stands last, so what stands before it is last afterwards
      have hend : i + 1 = f.numbers.length - 1 := by
        refine (List.getElem?_inj hlt hf.nodup_numbers).1 ?_
        rw [hlast, List.getElem?_eq_getElem hlt, hat, hcur]
      rw [if_pos (by omega), if_pos hcur, ← hbefore]
      congr 1
      omega
    · -- any other version leaves the last one where it stands
      have hend : i + 1 ≠ f.numbers.length - 1 := by
        intro hend
        rw [← hend, List.getElem?_eq_getElem hlt, hat] at hlast
        exact hcur (Option.some.inj hlast).symm
      rw [if_neg (by omega), if_neg hcur, ← hlast]
      congr 1
      omega
  · rw [hnext]
    exact Nat.lt_of_le_of_lt hle hf.current_lt_next

end VersionedFile

namespace Store

/-- What a request may come to: it fails, and nothing but the planted faults and the count of
requests changes, or it is answered. -/
inductive Responded (s : Store) : Request → Store × Reply → Prop where
  | failed {request : Request} {fault : ServiceFault} :
    Responded s request ((s.admitted request.operation).1, .error fault)
  | rows {id : FileNumber} {f : VersionedFile} (hf : s.file? id = some f) :
    Responded s (.rows id)
      ((s.admitted .rows).1, .ok (.rows f.currentVersion.dataset.rows))
  | upload {id : FileNumber} {f : VersionedFile} (hf : s.file? id = some f) :
    Responded s (.upload id) ((s.admitted .upload).1, .ok (.rows f.first.dataset.rows))
  | listing {id : FileNumber} {f : VersionedFile} (hf : s.file? id = some f) :
    Responded s (.listing id)
      ((s.admitted .listing).1, .ok (.listing (f.listing s.hideUpload)))
  | removed {id : FileNumber} {f f' : VersionedFile} {number : VersionNumber}
    (hf : s.file? id = some f) (h : f.erase number = .ok f') :
    Responded s (.remove id number) ((s.admitted .remove).1.setFile id f', .ok .removed)
  | filtered {id : FileNumber} {f : VersionedFile} {query description : String}
    {dataset : Dataset} (hf : s.file? id = some f)
    (h : s.interpreter f.currentVersion.dataset query = .ok (dataset, description)) :
    Responded s (.filter id query)
      ((s.admitted .filter).1.setFile id (f.push dataset description),
        .ok (.filtered { rows := dataset.rows, description }))
  | page {id : FileNumber} {index size : Nat} {page : ServedPage} :
    Responded s (.page id index size) ((s.admitted .page).1, .ok (.page page))

variable {s s' : Store} {id id' : FileNumber} {f f' : VersionedFile}

/-! ### Files under their numbers -/

/-- Only the file that is set is another one afterwards. -/
theorem file?_setFile (h : s.file? id = some f) :
    (s.setFile id f').file? id' = if id' = id then some f' else s.file? id' := by
  cases id with
  | zero => exact absurd h (by simp [file?])
  | succ n =>
    obtain ⟨hlt, -⟩ := List.getElem?_eq_some_iff.1 h
    cases id' with
    | zero => simp [file?]
    | succ m =>
      simp only [file?, setFile, List.getElem?_set, Nat.succ_inj]
      by_cases hm : m = n
      · subst hm
        simp [hlt]
      · simp [hm, Ne.symm hm]

theorem file?_setFile_self (h : s.file? id = some f) : (s.setFile id f').file? id = some f' := by
  rw [file?_setFile h, if_pos rfl]

theorem file?_setFile_of_ne (h : s.file? id = some f) (hne : id' ≠ id) :
    (s.setFile id f').file? id' = s.file? id' := by
  rw [file?_setFile h, if_neg hne]

theorem file?_keep (s : Store) (dataset : Dataset) :
    (s.keep dataset).1.file? id =
      if id = s.files.length + 1 then some (.ofUpload dataset) else s.file? id := by
  cases id with
  | zero => simp [file?]
  | succ n =>
    simp only [file?, keep, Nat.succ_inj]
    rcases Nat.lt_trichotomy n s.files.length with hlt | rfl | hlt
    · rw [List.getElem?_append_left hlt, if_neg (Nat.ne_of_lt hlt)]
    · rw [List.getElem?_concat_length, if_pos rfl]
    · rw [if_neg (Nat.ne_of_gt hlt), List.getElem?_eq_none (Nat.le_of_lt hlt),
        List.getElem?_eq_none (by simpa using Nat.succ_le_of_lt hlt)]

/-! ### Replies -/

/-- A file is found under its number, or the request for it fails. -/
theorem file_cases (s : Store) (id : FileNumber) :
    (∃ f, s.file? id = some f ∧ s.file id = .ok f) ∨ ∃ fault, s.file id = .error fault := by
  unfold file
  cases s.file? id with
  | none => exact .inr ⟨_, rfl⟩
  | some f => exact .inl ⟨f, rfl, rfl⟩

theorem responded (s : Store) (request : Request) : Responded s request (s.respond request) := by
  unfold respond
  have hadmitted : s.admitted request.operation =
      ((s.admitted request.operation).1, s.planted request.operation) := rfl
  rw [hadmitted]
  cases s.planted request.operation with
  | some fault => exact .failed
  | none =>
    -- what is not kept from it depends on the file
    have hfile (id : FileNumber) : (s.admitted request.operation).1.file id = s.file id := rfl
    cases request with
    -- requests that read a file fail if there is none
    | rows id =>
      simp only [perform, hfile]
      rcases s.file_cases id with ⟨f, hf, hok⟩ | ⟨fault, herror⟩
      · rw [hok]
        exact .rows hf
      · rw [herror]
        exact .failed
    | upload id =>
      simp only [perform, hfile]
      rcases s.file_cases id with ⟨f, hf, hok⟩ | ⟨fault, herror⟩
      · rw [hok]
        exact .upload hf
      · rw [herror]
        exact .failed
    | listing id =>
      simp only [perform, hfile]
      rcases s.file_cases id with ⟨f, hf, hok⟩ | ⟨fault, herror⟩
      · rw [hok]
        exact .listing hf
      · rw [herror]
        exact .failed
    -- requests that change a file may be refused besides
    | remove id number =>
      simp only [perform, hfile]
      rcases s.file_cases id with ⟨f, hf, hok⟩ | ⟨fault, herror⟩
      · rw [hok]
        cases herase : f.erase number with
        | error fault => simp only [bind, Except.bind, herase]; exact .failed
        | ok f' => simp only [bind, Except.bind, herase]; exact .removed hf herase
      · rw [herror]
        exact .failed
    | filter id query =>
      simp only [perform, filter, hfile]
      rcases s.file_cases id with ⟨f, hf, hok⟩ | ⟨fault, herror⟩
      · rw [hok]
        cases hrun : s.interpreter f.currentVersion.dataset query with
        | error detail => simp only [bind, Except.bind, admitted, hrun]; exact .failed
        | ok result => simp only [bind, Except.bind, admitted, hrun]; exact .filtered hf hrun
      · rw [herror]
        exact .failed
    | page id index size =>
      simp only [perform]
      cases (s.admitted (Request.page id index size).operation).1.servedPage id index size with
      | error fault => exact .failed
      | ok page => exact .page

theorem file_eq_ok (hf : s.file? id = some f) : s.file id = .ok f := by
  unfold file
  rw [hf]

/-- Where no fault was planted, a request is carried out. -/
theorem respond_of_perform_eq_ok {request : Request} {answer : Answer}
    (hp : s.planted request.operation = none)
    (h : (s.admitted request.operation).1.perform request = .ok (s', answer)) :
    s.respond request = (s', .ok answer) := by
  obtain ⟨s₀, hs₀⟩ : ∃ s₀, s.admitted request.operation = (s₀, none) :=
    ⟨_, congrArg (Prod.mk _) hp⟩
  simp only [hs₀] at h
  simp only [respond, hs₀, h]

/-- A file that is there is listed, unless a fault was planted. -/
theorem respond_listing (hf : s.file? id = some f) (hp : s.planted .listing = none) :
    (s.respond (.listing id)).2 = .ok (.listing (f.listing s.hideUpload)) := by
  have hfile : (s.admitted .listing).1.file id = .ok f := file_eq_ok hf
  have hperform : (s.admitted .listing).1.perform (.listing id) =
      .ok ((s.admitted .listing).1, .listing (f.listing s.hideUpload)) := by
    simp only [perform, hfile, bind, Except.bind, pure, Except.pure]
    rfl
  rw [respond_of_perform_eq_ok hp hperform]

/-- A page that can be served is served, unless a fault was planted. -/
theorem respond_page {index size : Nat} {page : ServedPage} (hp : s.planted .page = none)
    (hpage : s.servedPage id index size = .ok page) :
    (s.respond (.page id index size)).2 = .ok (.page page) := by
  have hserved : (s.admitted .page).1.servedPage id index size = .ok page := hpage
  have hperform : (s.admitted .page).1.perform (.page id index size) =
      .ok ((s.admitted .page).1, .page page) := by
    simp only [perform, hserved, bind, Except.bind, pure, Except.pure]
  rw [respond_of_perform_eq_ok hp hperform]

/-- What the interpreter makes of the current version is a new one. -/
theorem respond_filter {query description : String} {dataset : Dataset}
    (hf : s.file? id = some f) (hp : s.planted .filter = none)
    (hrun : s.interpreter f.currentVersion.dataset query = .ok (dataset, description)) :
    s.respond (.filter id query) =
      ((s.admitted .filter).1.setFile id (f.push dataset description),
        .ok (.filtered { rows := dataset.rows, description })) := by
  have hfile : (s.admitted .filter).1.file id = .ok f := file_eq_ok hf
  have hrun : (s.admitted .filter).1.interpreter f.currentVersion.dataset query =
      .ok (dataset, description) := hrun
  have hperform : (s.admitted .filter).1.perform (.filter id query) =
      .ok ((s.admitted .filter).1.setFile id (f.push dataset description),
        .filtered { rows := dataset.rows, description }) := by
    simp only [perform, filter, hfile, hrun, bind, Except.bind, pure, Except.pure]
  exact respond_of_perform_eq_ok hp hperform

theorem file?_respond_filter {query description : String} {dataset : Dataset}
    (hf : s.file? id = some f) (hp : s.planted .filter = none)
    (hrun : s.interpreter f.currentVersion.dataset query = .ok (dataset, description)) :
    (s.respond (.filter id query)).1.file? id = some (f.push dataset description) := by
  rw [respond_filter hf hp hrun]
  exact file?_setFile_self hf

/-- A version that may be deleted is gone. -/
theorem respond_remove {number : VersionNumber} (hf : s.file? id = some f)
    (hp : s.planted .remove = none) (herase : f.erase number = .ok f') :
    s.respond (.remove id number) = ((s.admitted .remove).1.setFile id f', .ok .removed) := by
  have hfile : (s.admitted .remove).1.file id = .ok f := file_eq_ok hf
  have hperform : (s.admitted .remove).1.perform (.remove id number) =
      .ok ((s.admitted .remove).1.setFile id f', .removed) := by
    simp only [perform, hfile, herase, bind, Except.bind, pure, Except.pure]
  exact respond_of_perform_eq_ok hp hperform

theorem file?_respond_remove {number : VersionNumber} (hf : s.file? id = some f)
    (hp : s.planted .remove = none) (herase : f.erase number = .ok f') :
    (s.respond (.remove id number)).1.file? id = some f' := by
  rw [respond_remove hf hp herase]
  exact file?_setFile_self hf

/-! ### What requests leave alone -/

@[simp] theorem hideUpload_respond (s : Store) (request : Request) :
    (s.respond request).1.hideUpload = s.hideUpload := by
  have h := s.responded request
  generalize s.respond request = result at h ⊢
  cases h <;> rfl

@[simp] theorem interpreter_respond (s : Store) (request : Request) :
    (s.respond request).1.interpreter = s.interpreter := by
  have h := s.responded request
  generalize s.respond request = result at h ⊢
  cases h <;> rfl

/-- A request plants no fault. -/
theorem planted_respond (hs : ∀ operation, s.planted operation = none) (request : Request)
    (operation : Operation) : (s.respond request).1.planted operation = none := by
  have hadmitted (o : Operation) : (s.admitted o).1.planted operation = none := by
    show (if operation = o then none else s.planted operation) = none
    split
    · rfl
    · exact hs operation
  have h := s.responded request
  generalize s.respond request = result at h ⊢
  cases h <;> exact hadmitted _

/-! ### Sound stores -/

/-- A store all of whose files are sound. -/
def Sound (s : Store) : Prop :=
  ∀ id f, s.file? id = some f → f.Sound

/-- What clients of a new store, and whoever hides uploads and plants faults, may bring it to. -/
inductive Reachable : Store → Prop where
  | new (interpreter : Interpreter) : Reachable { interpreter }
  | keep {s : Store} (h : Reachable s) (dataset : Dataset) : Reachable (s.keep dataset).1
  | hide {s : Store} (h : Reachable s) (hidden : Bool) : Reachable { s with hideUpload := hidden }
  | plant {s : Store} (h : Reachable s) (operation : Operation) (fault : ServiceFault) :
    Reachable (s.plant operation fault)
  | respond {s : Store} (h : Reachable s) (request : Request) : Reachable (s.respond request).1

/-- A sound store stays so if one of its files makes way for a sound one. -/
theorem Sound.setFile (hs : s.Sound) (hf : s.file? id = some f) (hf' : f'.Sound) :
    (s.setFile id f').Sound := by
  intro id' f'' h
  rw [file?_setFile hf] at h
  split at h
  · obtain rfl := Option.some.inj h
    exact hf'
  · exact hs id' f'' h

theorem Sound.respond (hs : s.Sound) (request : Request) : (s.respond request).1.Sound := by
  have h := s.responded request
  generalize s.respond request = result at h ⊢
  cases h with
  | @removed id f f' number hf herase => exact Sound.setFile hs hf ((hs id f hf).erase herase)
  | @filtered id f query description dataset hf hrun =>
    exact Sound.setFile hs hf ((hs id f hf).push dataset description)
  | failed => exact hs
  | rows hf => exact hs
  | upload hf => exact hs
  | listing hf => exact hs
  | page => exact hs

/-- **Sound files.** Whatever is asked of a store, all its files are sound. -/
theorem Reachable.sound (h : s.Reachable) : s.Sound := by
  induction h with
  | new interpreter =>
    intro id f hf
    cases id <;> simp [file?] at hf
  | keep _ dataset ih =>
    intro id f hf
    rw [file?_keep] at hf
    split at hf
    · obtain rfl := Option.some.inj hf
      exact .ofUpload dataset
    · exact ih id f hf
  | hide _ hidden ih => exact ih
  | plant _ operation fault ih => exact ih
  | respond _ request ih => exact ih.respond request

end Store

end Tabula
