import Tabula.Proofs.Session.Solo

/-!
# History and file in lockstep

A session that is alone with a file, and filters only what is newest, keeps the history of its table
entry for entry as the file lists it: same numbers, same rows, same descriptions, and the mark of
the current version at the same place (`entries_eq_listing_of_keeps`). The requests may fail, except
the one by which a filter learns the number of its result.

Two deletions meet here that are written independently: the file's own (`VersionedFile.erase`) and
that of a history which has no listing to go by (`History.remove`). They agree on all entries
(`History.entries_remove`), for in both the mark passes to the version before, and in a file in
lockstep it is always the last version that is marked.
-/

namespace Tabula

/-- The entry of a version in a listing. -/
def Version.entry (v : Version) : Entry where
  rows := v.dataset.rows
  description := v.description
  isCurrent := v.isCurrent
  version := v.number

/-- The entries of the versions, oldest version first. -/
def History.entries (h : History) : List Entry :=
  h.versions.map Version.entry

namespace VersionedFile

variable {f f' : VersionedFile} {number : VersionNumber}

theorem listing_false (f : VersionedFile) : f.listing false = f.versions.map f.entry := by
  simp [listing]

/-- Behind a filter, no version is marked that was there before. -/
theorem Sound.listing_push (hf : f.Sound) (dataset : Dataset) (description : String) :
    (f.push dataset description).listing false =
      (f.versions.map fun v => { f.entry v with isCurrent := false }) ++
        [{ rows := dataset.rows, description, isCurrent := true, version := f.next }] := by
  have hold : ∀ v ∈ f.versions, (f.push dataset description).entry v =
      { f.entry v with isCurrent := false } := by
    intro v hv
    have hlt : v.number < f.next := hf.lt_next (List.mem_map_of_mem hv)
    simp [entry, Nat.ne_of_lt hlt]
  rw [listing_false, versions_push, List.map_append, List.map_congr_left hold]
  simp [entry]

/-- Without a version, the other entries stay, and the mark passes on to the entry before if the
version had it. -/
theorem Sound.listing_erase (hf : f.Sound) (hok : f.erase number = .ok f') {i : Nat}
    (hi : f.numbers.findIdx? (· == number) = some (i + 1)) :
    f'.listing false =
      if f.current = number then
        ((f.listing false).eraseIdx (i + 1)).modify i fun e => { e with isCurrent := true }
      else (f.listing false).eraseIdx (i + 1) := by
  have hf' := hf.erase hok
  obtain ⟨j, before, hj, -, hversions, hcurrent, -, -⟩ := hf.of_erase_eq_ok hok
  obtain rfl : i = j := by simpa using hi.symm.trans hj
  rw [listing_false, listing_false, List.eraseIdx_map, ← hversions]
  split
  · next hcur =>
    -- the version is the last one of the file, and the one before is the last one afterwards
    have hlast : i + 1 = f.others.length := (hf.current_eq_iff hi).1 hcur
    have hlast' : f'.others.length = i := by
      have hlen := congrArg List.length hversions
      rw [List.length_eraseIdx_of_lt (by simp [versions]; omega)] at hlen
      simp only [versions, List.length_cons] at hlen
      omega
    refine List.ext_getElem? fun k => ?_
    rw [List.getElem?_modify, List.getElem?_map, List.getElem?_map]
    cases hk : f'.versions[k]? with
    | none => rfl
    | some v =>
      have hmark' : (v.number == f'.current) = decide (k = i) := hlast' ▸ hf'.beq_current hk
      have hmark : (v.number == f.current) = false := by
        rw [hversions, List.getElem?_eraseIdx] at hk
        split at hk
        · rw [hf.beq_current hk]
          exact decide_eq_false (by omega)
        · rw [hf.beq_current hk]
          exact decide_eq_false (by omega)
      by_cases hki : i = k <;> simp [entry, hmark, hmark', hki, eq_comm (a := k)]
  · -- another version is the current one and stays so, and the marks with it
    next hne =>
    rw [if_neg hne] at hcurrent
    unfold entry
    rw [hcurrent]

end VersionedFile

namespace History

variable {h h' : History} {f f' : VersionedFile}

theorem entries_markAt (versions : List Version) (position : Nat) :
    (markAt versions position).map Version.entry =
      (versions.map Version.entry).modify position fun e => { e with isCurrent := true } := by
  refine List.ext_getElem? fun k => ?_
  rw [markAt, List.getElem?_map, List.getElem?_modify, List.getElem?_modify, List.getElem?_map]
  cases versions[k]? with
  | none => rfl
  | some v => by_cases hk : position = k <;> simp [hk, Version.entry]

theorem entries_unmarked (versions : List Version) :
    (unmarked versions).map Version.entry =
      (versions.map Version.entry).map fun e => { e with isCurrent := false } := by
  simp [unmarked, Function.comp_def, Version.entry]

theorem entries_without (h : History) (i : Nat) (wasCurrent : Bool) :
    (h.without i wasCurrent).entries =
      if wasCurrent then
        (h.entries.eraseIdx i).modify (i - 1) fun e => { e with isCurrent := true }
      else h.entries.eraseIdx i := by
  cases wasCurrent with
  | false => exact (List.eraseIdx_map _ _ _).symm
  | true =>
    show (markAt (h.versions.eraseIdx i) (i - 1)).map Version.entry = _
    rw [entries_markAt, ← List.eraseIdx_map]
    rfl

/-- A history in lockstep has the numbers of the file. -/
theorem numbers_of_entries_eq (hentries : h.entries = f.listing false) : h.numbers = f.numbers := by
  have hmap := congrArg (List.map Entry.version) hentries
  rw [VersionedFile.listing_false, entries, List.map_map, List.map_map] at hmap
  exact hmap

theorem entries_takeOver {upload : Option Dataset} (hf : f.Sound)
    (hok : h.takeOver (f.listing false) upload = .ok h') : h'.entries = f.listing false := by
  obtain ⟨first, hfirst, rfl⟩ := (takeOver_listing_eq_ok_iff hf).1 hok
  obtain rfl := Except.ok.inj hfirst
  rw [VersionedFile.listing_false]
  show (f.versions.map f.shown).map Version.entry = _
  rw [List.map_map]
  rfl

/-- A result that is put behind the newest version is listed as the file lists it. -/
theorem entries_appendAs {dataset kept : Dataset} {description : String} (hf : f.Sound)
    (hnewest : h.hasNewer = false) (hentries : h.entries = f.listing false)
    (hrows : dataset.rows = kept.rows) (hok : h.appendAs f.next dataset description = .ok h') :
    h'.entries = (f.push kept description).listing false := by
  obtain ⟨newest, -, -, rfl⟩ := appendAs_eq_ok_iff.1 hok
  rw [hf.listing_push, entries, take_eq_of_hasNewer_eq hnewest, List.map_append, entries_unmarked]
  rw [entries, VersionedFile.listing_false] at hentries
  rw [hentries, List.map_map]
  simp [Version.entry, hrows, Function.comp_def]

/-- **Two deletions.** A history in lockstep that takes out a version without a listing lists what
is left as the file does. -/
theorem entries_remove {number : VersionNumber} {removal : Removal} (hs : h.Sound) (hf : f.Sound)
    (hentries : h.entries = f.listing false) (hplan : h.planRemoval number = .ok removal)
    (hok : h.remove removal = .ok h') (herase : f.erase number = .ok f') :
    h'.entries = f'.listing false := by
  obtain ⟨-, -, i, v, hi, hv, -, hok'⟩ := exists_remove_of_planRemoval hs hplan
  obtain rfl := Except.ok.inj (hok.symm.trans hok')
  have hnumbers := numbers_of_entries_eq hentries
  have hi : f.numbers.findIdx? (· == number) = some (i + 1) := by
    rw [← hnumbers, numbers, List.findIdx?_map]
    exact hi
  -- the mark of the version is that of its entry
  have hcurrent : v.isCurrent = true ↔ f.current = number := by
    have hat : h.entries[i + 1]? = some v.entry := by rw [entries, List.getElem?_map, hv]; rfl
    rw [hentries, VersionedFile.listing_false, List.getElem?_map] at hat
    obtain ⟨w, hw, hentry⟩ := Option.map_eq_some_iff.1 hat
    have hmark : (w.number == f.current) = v.isCurrent := congrArg Entry.isCurrent hentry
    rw [← hmark, hf.beq_current hw, decide_eq_true_iff, ← hf.current_eq_iff hi]
  rw [hf.listing_erase herase hi, ← hentries, entries_without]
  simp only [hcurrent, Nat.add_sub_cancel]

end History

namespace Session

/-- The terms on which a session keeps in lockstep with its file: filters are put to the newest
version, and the listing that tells the number of a result is spared. -/
def Terms.lockstep : Terms where
  filters h := !h.hasNewer
  moves := true
  spares
    | .filterNumber _ => true
    | _ => false

theorem upheld_lockstep : Upheld .lockstep false fun h f => h.entries = f.listing false where
  listed hf hok _ := History.entries_takeOver hf hok
  moved _ _ hentries hok := by
    obtain ⟨position, rfl⟩ := History.exists_position_of_moved hok
    exact hentries
  recorded ht hf _ hentries hrows hok hnumber := by
    obtain rfl := hnumber.resolve_right fun h => absurd h.2 (by simp [Terms.lockstep])
    exact History.entries_appendAs hf (by simpa [Terms.lockstep] using ht) hentries hrows hok
  removed _ hf hh hentries hplan hok herase :=
    History.entries_remove hh.toSound hf hentries hplan hok herase

/-- Behind a deletion, the history is in lockstep with the file again, whether the listing arrives
or not. -/
theorem entries_of_removalListing {s : Session} {f f' : VersionedFile} {number : VersionNumber}
    {removal : Removal} {reply : Reply} {turn : Turn} (hf : f.Sound)
    (hfollows : s.table.history.Follows f)
    (hentries : s.table.history.entries = f.listing false)
    (hplan : s.table.history.planRemoval number = .ok removal) (herase : f.erase number = .ok f')
    (hreply : reply = .ok (.listing (f'.listing false)) ∨ reply.listing? = none)
    (hresumed : Resumed s
      (.removalListing removal (s.table.history.upload?.map Version.dataset)) reply turn) :
    turn.session.table.history.entries = f'.listing false := by
  have hf' := hf.erase herase
  obtain ⟨h', hends, hok | ⟨-, hok⟩⟩ :=
    ends_of_removalListing hfollows hf' hplan hreply hresumed
  · rw [hends.history_eq, History.entries_takeOver hf' hok]
  · rw [hends.history_eq]
    exact History.entries_remove hfollows.toSound hf hentries hplan hok herase

/-- **Lockstep.** A session that is alone with its files, with uploads that are not hidden, keeps
the history of the file that is open entry for entry as the file lists it, in all states in which no
call waits. A version that may be deleted can be deleted from the file, and the history is then as
the file lists it whether the listing arrives or not. -/
theorem entries_eq_listing_of_keeps {settings : Settings} {d : Dialogue} {acts : List Dialogue.Act}
    (hfresh : d.Fresh settings) (hshown : d.store.hideUpload = false)
    (hkeeps : d.Keeps Terms.lockstep.Permits acts) (hidle : (d.afterAll acts).exchanges = [])
    {id : FileNumber} (hfile : (d.afterAll acts).session.table.file = some id) :
    ∃ f, (d.afterAll acts).store.file? id = some f ∧
      (d.afterAll acts).session.table.history.entries = f.listing false ∧
      ∀ number removal,
        (d.afterAll acts).session.table.history.planRemoval number = .ok removal →
        ∃ f', f.erase number = .ok f' ∧
          ∀ reply : Reply, reply = .ok (.listing (f'.listing false)) ∨ reply.listing? = none →
            ((d.afterAll acts).session.resume
              (.removalListing removal
                ((d.afterAll acts).session.table.history.upload?.map Version.dataset))
              reply).session.table.history.entries = f'.listing false := by
  have hR : Upheld .lockstep d.store.hideUpload fun h f => h.entries = f.listing false := by
    rw [hshown]
    exact upheld_lockstep
  have hstep := InStep.of_keeps hR hfresh hkeeps
  obtain ⟨f, hf, hsound, hfollows, hentries⟩ := hstep.exists_file? (by simp [hidle]) hfile
  refine ⟨f, hf, hentries, fun number removal hplan => ?_⟩
  obtain ⟨-, hne, -⟩ := History.exists_remove_of_planRemoval hfollows.toSound hplan
  have hmem := History.mem_numbers_of_planRemoval hfollows.toSound hplan
  rw [History.numbers_of_entries_eq hentries] at hmem
  obtain ⟨f', herase⟩ := hsound.exists_erase hne hmem
  refine ⟨f', herase, fun reply hreply => ?_⟩
  exact entries_of_removalListing hsound hfollows hentries hplan herase hreply (resumed _ reply)

/-- A file that is opened, filtered twice with a look back in between, and loses the older result,
while the listing that should follow does not arrive. -/
def lockstepActs : List Dialogue.Act :=
  [.call (.connect 1), .serve 0, .deliver 0,
   .call (.filter "first"), .serve 0, .deliver 0, .serve 0, .deliver 0, .call .undo, .call .redo,
   .call (.filter "second"), .serve 0, .deliver 0, .serve 0, .deliver 0,
   .plant .listing (.lost "no answer"), .call (.remove 2), .serve 0, .deliver 0, .serve 0,
   .deliver 0]

theorem entries_of_lockstepActs :
    Dialogue.sample.Keeps Terms.lockstep.Permits lockstepActs ∧
      (Dialogue.sample.afterAll lockstepActs).session.table.history.numbers = [1, 3] ∧
      ∃ f, (Dialogue.sample.afterAll lockstepActs).store.file? 1 = some f ∧
        (Dialogue.sample.afterAll lockstepActs).session.table.history.entries = f.listing false := by
  have hkeeps : Dialogue.sample.Keeps Terms.lockstep.Permits lockstepActs := by
    decide +kernel
  have hfile : (Dialogue.sample.afterAll lockstepActs).session.table.file = some 1 := by
    decide +kernel
  obtain ⟨f, hf, hentries, -⟩ :=
    entries_eq_listing_of_keeps Dialogue.fresh_sample rfl hkeeps (by decide +kernel) hfile
  exact ⟨hkeeps, by decide +kernel, f, hf, hentries⟩

end Session

end Tabula
