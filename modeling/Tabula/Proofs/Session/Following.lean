import Tabula.Proofs.History.Listing
import Tabula.Proofs.Session.System

/-!
# A history and the file behind it

`History.Follows` is what a history and the file on the service have in common however far they have
drifted apart: the history is sound, its first version has the rows of the file's upload, and every
number that it gave out is one that the file has given out as well. Every edit of the history keeps
it, and so does every edit of the file.

It is all that is needed for these edits to succeed. A history that follows a file can take over its
listing again (`Follows.exists_takeOver`), finds a number for the result of a filter
(`Session.exists_appended`) and can do without a version that may be deleted
(`exists_remove_of_planRemoval`).
-/

namespace Tabula

namespace History

/-- The rows of the versions, oldest version first. -/
def tables (h : History) : List (List Row) :=
  h.versions.map fun v => v.dataset.rows

/-- A history that shows a file, as it is or as it was, or something that came of it. -/
structure Follows (h : History) (f : VersionedFile) : Prop extends h.Sound where
  /-- The file gave out every number that the history did. -/
  highest_lt : h.highest < f.next
  /-- The first version has the rows of the upload. -/
  head_tables : h.tables.head? = some f.first.dataset.rows

variable {h h' : History} {f f' : VersionedFile} {hidden : Bool} {upload : Option Dataset}

theorem Follows.upload_rows (hh : h.Follows f) {v : Version} (hv : h.upload? = some v) :
    v.dataset.rows = f.first.dataset.rows := by
  have hhead := hh.head_tables
  rw [tables, List.head?_map, show h.versions.head? = some v from hv] at hhead
  exact Option.some.inj hhead

theorem Follows.exists_upload? (hh : h.Follows f) : ∃ v, h.upload? = some v := by
  have hhead := hh.head_tables
  rw [tables, List.head?_map, Option.map_eq_some_iff] at hhead
  obtain ⟨v, hv, -⟩ := hhead
  exact ⟨v, hv⟩

theorem Sound.uploadNumber_le_highest (hs : h.Sound) : uploadNumber ≤ h.highest :=
  hs.le_highest _ (List.mem_of_head? hs.head_numbers)

/-- The version on display has a number that was given out. -/
theorem Sound.displayed_number_le (hs : h.Sound) {v : Version} (hv : h.displayed? = some v) :
    v.number ≤ h.highest :=
  hs.le_highest _ (List.mem_map_of_mem (List.mem_of_getElem? hv))

/-! ### Listings -/

theorem exists_takeOver_listing (hf : f.Sound) (hup : hidden = true → ∃ d, upload = some d) :
    ∃ h', h.takeOver (f.listing hidden) upload = .ok h' := by
  simp only [takeOver_listing_eq_ok_iff hf]
  cases hidden with
  | false => exact ⟨_, _, rfl, rfl⟩
  | true =>
    obtain ⟨d, rfl⟩ := hup rfl
    exact ⟨_, _, rfl, rfl⟩

/-- Behind a deletion, the listing of the file can be taken over whatever has become of it. -/
theorem Follows.exists_takeOver (hh : h.Follows f) (hf' : f'.Sound) (hidden : Bool) :
    ∃ h', h.takeOver (f'.listing hidden) (h.upload?.map Version.dataset) = .ok h' := by
  obtain ⟨v, hv⟩ := hh.exists_upload?
  exact exists_takeOver_listing hf' fun _ => ⟨v.dataset, by rw [hv]; rfl⟩

theorem Follows.takeOver (hf : f.Sound) (hlt : h.highest < f.next)
    (hrows : ∀ d, upload = some d → d.rows = f.first.dataset.rows)
    (hok : h.takeOver (f.listing hidden) upload = .ok h') : h'.Follows f := by
  have hone : ∀ e ∈ f.listing hidden, uploadNumber ≤ e.version := by
    intro e he
    obtain ⟨v, hv, rfl⟩ := List.mem_map.1 he
    rcases List.mem_cons.1 (List.mem_of_mem_filter hv) with rfl | hv
    · exact Nat.le_of_eq hf.first_number.symm
    · exact Nat.le_of_lt (hf.uploadNumber_lt hv)
  refine ⟨.takeOver hone hok, ?_, ?_⟩
  · obtain ⟨first, -, rfl⟩ := (takeOver_listing_eq_ok_iff hf).1 hok
    exact max_lt hlt hf.current_lt_next
  · obtain ⟨first, hfirst, rfl⟩ := (takeOver_listing_eq_ok_iff hf).1 hok
    show some first.dataset.rows = _
    -- the first version is listed, or made of the upload that was given
    rcases front_cases hfirst with rfl | ⟨dataset, rfl, rfl⟩
    · rfl
    · exact congrArg some (hrows dataset rfl)

/-! ### The display -/

theorem Follows.older? (hh : h.Follows f) (hok : h.older? = some h') : h'.Follows f := by
  have hs := hh.toSound.older? hok
  obtain ⟨-, -, rfl⟩ := older?_eq_some_iff.1 hok
  exact ⟨hs, hh.highest_lt, hh.head_tables⟩

theorem Follows.newer? (hh : h.Follows f) (hok : h.newer? = some h') : h'.Follows f := by
  have hs := hh.toSound.newer? hok
  obtain ⟨-, rfl⟩ := newer?_eq_some_iff.1 hok
  exact ⟨hs, hh.highest_lt, hh.head_tables⟩

/-! ### Results of filters -/

variable {number : VersionNumber} {dataset : Dataset} {description : String}

/-- A number above the one on display will do. -/
theorem exists_appendAs {newest : Version} (hd : h.displayed? = some newest)
    (hlt : newest.number < number) :
    ∃ h', h.appendAs number dataset description = .ok h' :=
  ⟨_, appendAs_eq_ok_iff.2 ⟨newest, hd, hlt, rfl⟩⟩

/-- Where the newest version is on display, nothing is dropped for a new one. -/
theorem take_eq_of_hasNewer_eq (hnewest : h.hasNewer = false) :
    h.versions.take (h.position + 1) = h.versions :=
  List.take_of_length_le (Nat.not_lt.1 (of_decide_eq_false hnewest))

/-- A version that is put behind the newest one is the newest one. -/
theorem appendAs_newest (hnewest : h.hasNewer = false)
    (hok : h.appendAs number dataset description = .ok h') :
    h'.numbers = h.numbers ++ [number] ∧ h'.hasNewer = false ∧ h.highest ≤ h'.highest := by
  obtain ⟨newest, -, -, rfl⟩ := appendAs_eq_ok_iff.1 hok
  have hlen : h.versions.length ≤ h.position + 1 := Nat.not_lt.1 (of_decide_eq_false hnewest)
  rw [take_eq_of_hasNewer_eq hnewest]
  refine ⟨by simp [numbers], decide_eq_false ?_, le_max_left _ _⟩
  simpa [size] using hlen

theorem Follows.appendAs (hh : h.Follows f) (hn : number < f.next)
    (hok : h.appendAs number dataset description = .ok h') : h'.Follows f := by
  have hs := hh.toSound.appendAs hok
  obtain ⟨-, hhead⟩ := map_appendAs (g := fun v => v.dataset.rows) (fun _ _ => rfl) hok
  obtain ⟨newest, -, -, rfl⟩ := appendAs_eq_ok_iff.1 hok
  exact ⟨hs, max_lt hh.highest_lt hn, hhead.trans hh.head_tables⟩

/-! ### Deletions -/

/-- A version that may be deleted stands in the history behind the upload. -/
theorem exists_remove_of_planRemoval (hs : h.Sound) {removal : Removal}
    (hplan : h.planRemoval number = .ok removal) :
    removal.number = number ∧ number ≠ uploadNumber ∧
      ∃ i v, h.versions.findIdx? (fun v => v.number == number) = some (i + 1) ∧
        h.versions[i + 1]? = some v ∧ removal.wasCurrent = v.isCurrent ∧
          h.remove removal = .ok (h.without (i + 1) v.isCurrent) := by
  unfold planRemoval at hplan
  split at hplan
  · exact absurd hplan (by simp)
  · split at hplan
    · exact absurd hplan (by simp)
    · next hne =>
      split at hplan
      · next v hv =>
        obtain rfl := Except.ok.inj hplan
        obtain ⟨hnum, i, hi, hat, hbefore⟩ := List.find?_eq_some_iff_getElem.1 hv
        have hidx : h.versions.findIdx? (fun v => v.number == number) = some i :=
          List.findIdx?_eq_some_iff_getElem.2 ⟨hi, hat ▸ hnum, fun j hj => by
            simpa using hbefore j hj⟩
        -- the version in the first place is the upload, and that is another one
        cases i with
        | zero =>
          have hhead := hs.head_numbers
          rw [numbers, List.head?_map, List.head?_eq_getElem?, List.getElem?_eq_getElem hi, hat]
            at hhead
          exact absurd ((beq_iff_eq.1 hnum).symm.trans (Option.some.inj hhead)) hne
        | succ i =>
          have hget : h.versions[i + 1]? = some v := hat ▸ List.getElem?_eq_getElem hi
          exact ⟨rfl, hne, i, v, hidx, hget, rfl,
            remove_eq_ok_iff.2 ⟨i, v, hidx, hget, rfl⟩⟩
      · exact absurd hplan (by simp)

theorem number_eq_of_findIdx? {i : Nat} {v : Version}
    (hi : (h.versions.findIdx? fun v => v.number == number) = some i)
    (hv : h.versions[i]? = some v) : v.number = number := by
  obtain ⟨hlt, hat, -⟩ := List.findIdx?_eq_some_iff_getElem.1 hi
  obtain rfl : h.versions[i] = v := Option.some.inj ((List.getElem?_eq_getElem hlt).symm.trans hv)
  exact beq_iff_eq.1 hat

/-- A version that may be deleted is there. -/
theorem mem_numbers_of_planRemoval (hs : h.Sound) {removal : Removal}
    (hplan : h.planRemoval number = .ok removal) : number ∈ h.numbers := by
  obtain ⟨-, -, i, v, hi, hv, -⟩ := exists_remove_of_planRemoval hs hplan
  rw [← number_eq_of_findIdx? hi hv]
  exact List.mem_map_of_mem (List.mem_of_getElem? hv)

/-- A version that may be deleted has a number that was given out. -/
theorem le_highest_of_planRemoval (hs : h.Sound) {removal : Removal}
    (hplan : h.planRemoval number = .ok removal) : number ≤ h.highest :=
  hs.le_highest _ (mem_numbers_of_planRemoval hs hplan)

theorem Follows.remove (hh : h.Follows f) {removal : Removal} (hok : h.remove removal = .ok h') :
    h'.Follows f := by
  have hs := hh.toSound.remove hok
  obtain ⟨i, v, -, -, rfl⟩ := remove_eq_ok_iff.1 hok
  refine ⟨hs, hh.highest_lt, ?_⟩
  -- the first version is not the one that is deleted
  rw [tables, map_without fun _ _ => rfl, head?_eraseIdx_succ]
  exact hh.head_tables

/-! ### Edits of the file -/

theorem Follows.push (hh : h.Follows f) (kept : Dataset) (description : String) :
    h.Follows (f.push kept description) :=
  ⟨hh.toSound, Nat.lt_succ_of_lt hh.highest_lt, hh.head_tables⟩

theorem Follows.erase (hh : h.Follows f) (hf : f.Sound) (herase : f.erase number = .ok f') :
    h.Follows f' := by
  obtain ⟨-, -, -, -, -, -, hnext, hfirst⟩ := hf.of_erase_eq_ok herase
  exact ⟨hh.toSound, hnext ▸ hh.highest_lt, hfirst ▸ hh.head_tables⟩

end History

namespace Session

variable {h h' : History} {f : VersionedFile} {number : VersionNumber} {dataset : Dataset}
  {description : String} {assigned : Option VersionNumber}

theorem rows_resultDataset (s : Session) (rows : List Row) :
    (s.resultDataset rows).rows = rows := by
  unfold resultDataset
  split
  · next hempty => exact (List.isEmpty_iff.1 hempty).symm
  · rfl

/-- A number that was assigned is taken if it is above all that were given out. -/
theorem number_eq_of_appended (hs : h.Sound) {above : VersionNumber} (hlt : h.highest < above)
    (hok : appended h (some above) dataset description = .ok (h', number)) : number = above := by
  obtain ⟨newest, hd⟩ := hs.exists_displayed?
  obtain ⟨h'', ha⟩ : ∃ h'', h.appendAs above dataset description = .ok h'' :=
    History.exists_appendAs hd (Nat.lt_of_le_of_lt (hs.displayed_number_le hd) hlt)
  rw [appended, ha] at hok
  exact (Prod.mk.inj (Except.ok.inj hok)).2.symm

/-- A sound history takes in any result, under whatever number. -/
theorem exists_appended (hs : h.Sound) (assigned : Option VersionNumber) (dataset : Dataset)
    (description : String) :
    ∃ h' number, appended h assigned dataset description = .ok (h', number) := by
  obtain ⟨newest, hd⟩ := hs.exists_displayed?
  have hlt : newest.number < h.nextNumber := Nat.lt_succ_of_le (hs.displayed_number_le hd)
  -- the next free number is above the one on display
  obtain ⟨h', hh'⟩ : ∃ h', h.append dataset description = .ok h' :=
    History.exists_appendAs hd hlt
  unfold appended
  cases assigned with
  | none => exact ⟨_, _, congrArg (Except.map _) hh'⟩
  | some number =>
    cases ha : h.appendAs number dataset description with
    | ok h'' => exact ⟨h'', number, by simp only [ha]⟩
    | error fault =>
      refine ⟨h', h.nextNumber, ?_⟩
      simp only [ha]
      exact congrArg (Except.map _) hh'

end Session

end Tabula
