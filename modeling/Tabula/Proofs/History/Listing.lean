import Tabula.Proofs.Store.Files

/-!
# Histories and the listing of a file

A history that takes over the listing of a sound file comes to show that file: one version for each
version of the file, under the same number and with the same rows, the current one being on display
(`History.takeOver_listing_eq_ok_iff`). Where the listing hides the upload, it is put back in front,
which needs a copy of it.
-/

namespace Tabula

namespace VersionedFile

/-- The version that a history makes of a listed version of the file. -/
def shown (f : VersionedFile) (v : FileVersion) : Version :=
  .ofEntry (f.entry v)

/-- The first version of a history that takes over the listing of the file. -/
def front (f : VersionedFile) (hidden : Bool) (upload : Option Dataset) :
    Except HistoryFault Version :=
  if hidden then
    match upload with
    | some dataset => .ok (.ofUpload dataset (uploadNumber == f.current))
    | none => .error .uploadMissing
  else .ok (f.shown f.first)

variable {f : VersionedFile}

/-- The versions behind the upload have greater numbers. -/
theorem Sound.uploadNumber_lt (hf : f.Sound) {v : FileVersion} (hv : v ∈ f.others) :
    uploadNumber < v.number := by
  have hinc := (List.pairwise_cons.1 hf.increasing).1 v.number (List.mem_map_of_mem hv)
  rwa [hf.first_number] at hinc

/-- The current version is the one in the last place. -/
theorem Sound.beq_current (hf : f.Sound) {i : Nat} {v : FileVersion}
    (hv : f.versions[i]? = some v) : (v.number == f.current) = decide (i = f.others.length) := by
  have hlast := hf.getLast?_numbers
  rw [List.getLast?_eq_getElem?] at hlast
  have hlen : f.numbers.length - 1 = f.others.length := by simp [numbers, versions]
  have hnum : f.numbers[i]? = some v.number := by rw [numbers, List.getElem?_map, hv]; rfl
  obtain ⟨hlt, -⟩ := List.getElem?_eq_some_iff.1 hnum
  rw [Bool.eq_iff_iff, beq_iff_eq, decide_eq_true_eq, ← List.getElem?_inj hlt hf.nodup_numbers,
    hnum, ← hlen, hlast, Option.some_inj]

/-- The version of a number is the current one if it stands in the last place. -/
theorem Sound.current_eq_iff (hf : f.Sound) {number : VersionNumber} {i : Nat}
    (hi : f.numbers.findIdx? (· == number) = some i) :
    f.current = number ↔ i = f.others.length := by
  obtain ⟨hlt, hat, -⟩ := List.findIdx?_eq_some_iff_getElem.1 hi
  have hmap : f.versions[i]?.map FileVersion.number = some number := by
    rw [← List.getElem?_map, ← beq_iff_eq.1 hat]
    exact List.getElem?_eq_getElem hlt
  obtain ⟨v, hv, rfl⟩ := Option.map_eq_some_iff.1 hmap
  rw [← decide_eq_true_iff (p := i = _), ← hf.beq_current hv, beq_iff_eq, eq_comm]

/-- Only the upload is ever left out of a listing. -/
theorem Sound.listing_eq (hf : f.Sound) (hidden : Bool) :
    f.listing hidden = (if hidden then f.others else f.versions).map f.entry := by
  cases hidden with
  | false => simp [listing]
  | true =>
    have hothers : f.others.filter (fun v => !(v.number == uploadNumber)) = f.others :=
      List.filter_eq_self.2 fun v hv => by simp [Nat.ne_of_gt (hf.uploadNumber_lt hv)]
    simp [listing, versions, hf.first_number, hothers]

end VersionedFile

namespace History

variable {h h' : History} {f : VersionedFile} {hidden : Bool} {upload : Option Dataset}

/-! ### Listings without repetitions -/

theorem repeated?_eq_none_of_pairwise_lt {l : List VersionNumber} (hl : l.Pairwise (· < ·)) :
    repeated? l = none := by
  fun_induction repeated? l with
  | case1 =>
    exact absurd ((List.pairwise_cons.1 hl).1 _ List.mem_cons_self) (Nat.lt_irrefl _)
  | case2 a b l hab ih => exact ih (List.pairwise_cons.1 hl).2
  | case3 => rfl

/-- A listing in the order of its numbers is taken over as it stands, or with the upload in front. -/
theorem takeOver_of_pairwise {entries : List Entry} {line : List Version}
    (hl : (entries.map Entry.version).Pairwise (· < ·))
    (hline : withUpload (entries.map Version.ofEntry) upload = .ok line) :
    h.takeOver entries upload =
      .ok
        { versions := markOnly line (lastCurrent line)
          position := lastCurrent line
          highest := max h.highest ((line.getLast?.map Version.number).getD uploadNumber) } := by
  have hnumbers : (entries.map Version.ofEntry).map Version.number =
      entries.map Entry.version := by
    rw [List.map_map]
    rfl
  refine takeOver_eq_ok_iff.2 ⟨?_, line, ?_, rfl⟩
  · rw [listed_of_pairwise hl, hnumbers]
    exact repeated?_eq_none_of_pairwise_lt hl
  · rw [listed_of_pairwise hl]
    exact hline

theorem listed_map_entry {l : List FileVersion}
    (hl : (l.map FileVersion.number).Pairwise (· < ·)) :
    listed (l.map f.entry) = l.map f.shown := by
  have hversions : (l.map f.entry).map Entry.version = l.map FileVersion.number := by
    rw [List.map_map]
    rfl
  rw [listed_of_pairwise (hversions ▸ hl), List.map_map]
  rfl

/-- The line of a file, which needs no new mark but that of its first version. -/
theorem markOnly_cons_map_shown (hf : f.Sound) (v : Version) :
    markOnly (v :: f.others.map f.shown) f.others.length =
      { v with isCurrent := f.first.number == f.current } :: f.others.map f.shown := by
  refine List.ext_getElem? fun i => ?_
  rw [getElem?_markOnly]
  cases i with
  | zero =>
    have hat : f.versions[0]? = some f.first := rfl
    rw [List.getElem?_cons_zero, List.getElem?_cons_zero, Option.map_some, hf.beq_current hat]
  | succ i =>
    rw [List.getElem?_cons_succ, List.getElem?_cons_succ, List.getElem?_map]
    cases hv : f.others[i]? with
    | none => rfl
    | some w =>
      have hat : f.versions[i + 1]? = some w := hv
      rw [Option.map_some, Option.map_some, ← hf.beq_current hat]
      rfl

theorem lastCurrent_cons_map_shown (hf : f.Sound) (v : Version) :
    lastCurrent (v :: f.others.map f.shown) = f.others.length := by
  rcases List.eq_nil_or_concat' f.others with hnil | ⟨front, w, hconcat⟩
  · rw [hnil]
    cases hv : v.isCurrent <;> simp [lastCurrent, List.findIdx?_cons, hv]
  · have hat : f.versions[front.length + 1]? = some w := by simp [VersionedFile.versions, hconcat]
    have hmark : (f.shown w).isCurrent = true :=
      (hf.beq_current hat).trans (decide_eq_true (by simp [hconcat]))
    rw [hconcat, List.map_append, ← List.cons_append, List.map_singleton,
      lastCurrent_append_cons hmark (List.forall_mem_nil _)]
    simp

theorem map_number_cons_map_shown (hf : f.Sound) {v : Version} (hv : v.number = uploadNumber) :
    (v :: f.others.map f.shown).map Version.number = f.numbers := by
  have hrest : (f.others.map f.shown).map Version.number = f.others.map FileVersion.number := by
    rw [List.map_map]
    rfl
  rw [List.map_cons, hrest, hv, ← hf.first_number]
  rfl

/-- **The listing of a file.** A history that takes over the listing of a sound file shows its
versions under their numbers, with the current one on display. The upload has to be given where the
listing hides it. -/
theorem takeOver_listing_eq_ok_iff (hf : f.Sound) :
    h.takeOver (f.listing hidden) upload = .ok h' ↔
      ∃ first, f.front hidden upload = .ok first ∧
        h' =
          { versions := first :: f.others.map f.shown
            position := f.others.length
            highest := max h.highest f.current } := by
  have hinc := hf.increasing
  have hothers : (f.others.map FileVersion.number).Pairwise (· < ·) :=
    (List.pairwise_cons.1 hinc).2
  -- whatever stands in the place of the upload, mark and display go to the last version
  have hline (v : Version) (hv : v.number = uploadNumber) :
      ({ versions := markOnly (v :: f.others.map f.shown) (lastCurrent (v :: f.others.map f.shown))
         position := lastCurrent (v :: f.others.map f.shown)
         highest := max h.highest
          (((v :: f.others.map f.shown).getLast?.map Version.number).getD uploadNumber) } :
        History) =
      { versions :=
          { v with isCurrent := f.first.number == f.current } :: f.others.map f.shown
        position := f.others.length
        highest := max h.highest f.current } := by
    rw [lastCurrent_cons_map_shown hf, markOnly_cons_map_shown hf, ← List.getLast?_map,
      map_number_cons_map_shown hf hv, hf.getLast?_numbers]
    rfl
  rw [takeOver_eq_ok_iff, hf.listing_eq]
  cases hidden with
  | false =>
    have hup : (f.shown f.first).number = uploadNumber := hf.first_number
    have hlisted : listed (f.versions.map f.entry) = f.shown f.first :: f.others.map f.shown :=
      listed_map_entry hinc
    have hwith : withUpload (f.shown f.first :: f.others.map f.shown) upload =
        .ok (f.shown f.first :: f.others.map f.shown) := by
      simp [withUpload, Version.isUpload, hup]
    simp only [Bool.false_eq_true, if_false, hlisted, hwith, map_number_cons_map_shown hf hup,
      repeated?_eq_none_of_pairwise_lt hinc, true_and, Except.ok.injEq, exists_eq_left',
      hline _ hup, VersionedFile.front]
    rfl
  | true =>
    have hlisted : listed (f.others.map f.entry) = f.others.map f.shown := listed_map_entry hothers
    have hrest : (f.others.map f.shown).map Version.number =
        f.others.map FileVersion.number := by
      rw [List.map_map]
      rfl
    -- no version that is listed is the upload
    have hhead : (f.others.map f.shown).head?.any Version.isUpload = false := by
      cases ho : f.others with
      | nil => rfl
      | cons w l =>
        have hlt := hf.uploadNumber_lt (v := w) (ho ▸ List.mem_cons_self)
        exact beq_eq_false_iff_ne.2 (Nat.ne_of_gt hlt)
    simp only [if_true, hlisted, hrest, repeated?_eq_none_of_pairwise_lt hothers, true_and,
      withUpload, hhead, Bool.false_eq_true, if_false, VersionedFile.front]
    cases upload with
    | none => simp
    | some dataset =>
      simp only [Except.ok.injEq, exists_eq_left']
      rw [hline _ rfl, hf.first_number]
      rfl

/-- The first version is the upload as it was listed, or made of the copy that was given. -/
theorem front_cases {first : Version} (hfirst : f.front hidden upload = .ok first) :
    first = f.shown f.first ∨
      ∃ dataset, upload = some dataset ∧
        first = .ofUpload dataset (uploadNumber == f.current) := by
  unfold VersionedFile.front at hfirst
  split at hfirst
  · split at hfirst
    · next dataset => exact .inr ⟨dataset, rfl, (Except.ok.inj hfirst).symm⟩
    · exact absurd hfirst (by simp)
  · exact .inl (Except.ok.inj hfirst).symm

theorem front_number (hf : f.Sound) {first : Version} (hfirst : f.front hidden upload = .ok first) :
    first.number = uploadNumber := by
  rcases front_cases hfirst with rfl | ⟨dataset, -, rfl⟩
  · exact hf.first_number
  · rfl

/-- A listing that was taken over leaves the numbers of the file, the last one on display. -/
theorem numbers_takeOver_listing (hf : f.Sound)
    (hok : h.takeOver (f.listing hidden) upload = .ok h') :
    h'.numbers = f.numbers ∧ h'.hasNewer = false ∧ h.highest ≤ h'.highest := by
  obtain ⟨first, hfirst, rfl⟩ := (takeOver_listing_eq_ok_iff hf).1 hok
  exact ⟨map_number_cons_map_shown hf (front_number hf hfirst), by simp [hasNewer, size],
    le_max_left _ _⟩

end History

end Tabula
