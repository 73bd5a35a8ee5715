import Tabula.Proofs.History.Refusals
import Tabula.Proofs.History.Timeline

/-!
# Histories made of a listing

A listing of the service takes the place of a whole history, in whatever order the service lists the
versions. Two things are said of it.

`line_of_takeOver` is about any listing at all. It is refused, or nothing that it lists is lost and
at most the upload comes to it. The numbers make a line that starts from the upload exactly if all
that are listed count from one: the upload is put in front of whatever does not start with it, and
a version zero then stands behind it (`uploadNumber_twice_of_zeroListed`).

`takeOver_of_perm` is about the order. The numbers of a listing come out the same in whatever order
its entries are given (`map_number_listed_of_perm`), and where none of them repeats, so do the
versions (`listed_of_perm`). What goes on display and gets the mark is found from the end of the
line, so it is the version of the greatest number among those that are marked
(`exists_lastCurrent`).
-/

namespace Tabula.History

variable {h h' : History} {entries entries' : List Entry} {upload : Option Dataset}

/-! ### What a listing brings -/

/-- A listing has the versions of its entries, in some order. -/
theorem listed_perm (entries : List Entry) :
    (listed entries).Perm (entries.map Version.ofEntry) :=
  List.mergeSort_perm _ _

/-- Nothing that is listed gets lost, and at most the upload comes to it. -/
theorem editions_of_takeOver (hok : h.takeOver entries upload = .ok h') :
    ∃ front : List Edition,
      h'.editions.Perm (front ++ entries.map fun e => (Version.ofEntry e).edition) ∧
        (front = [] ∨ ∃ dataset, upload = some dataset ∧
          front = [(Version.ofUpload dataset false).edition]) := by
  obtain ⟨-, versions, hwith, rfl⟩ := takeOver_eq_ok_iff.1 hok
  obtain ⟨front, rfl, hfront⟩ := exists_front_of_withUpload_eq_ok hwith
  refine ⟨front.map Version.edition, ?_, ?_⟩
  · have hmap := (listed_perm entries).map Version.edition
    rw [List.map_map] at hmap
    rw [editions, map_markOnly fun _ _ => rfl, List.map_append]
    exact hmap.append_left _
  · rcases hfront with rfl | ⟨dataset, hupload, rfl⟩
    · exact .inl rfl
    · exact .inr ⟨dataset, hupload, rfl⟩

theorem mem_numbers_of_takeOver (hok : h.takeOver entries upload = .ok h') {e : Entry}
    (he : e ∈ entries) : e.version ∈ h'.numbers := by
  obtain ⟨front, hperm, -⟩ := editions_of_takeOver hok
  have hmem : (Version.ofEntry e).edition ∈ h'.editions :=
    hperm.mem_iff.2 (List.mem_append_right _ (List.mem_map_of_mem he))
  rw [← map_number_editions]
  exact List.mem_map_of_mem (f := Edition.number) hmem

/-- In a line that increases from the upload on, no number lies below that of the upload. -/
theorem uploadNumber_le_of_increasing {numbers : List VersionNumber}
    (hlt : numbers.Pairwise (· < ·)) (hhead : numbers.head? = some uploadNumber) :
    ∀ n ∈ numbers, uploadNumber ≤ n := by
  obtain ⟨rest, rfl⟩ := List.head?_eq_some_iff.1 hhead
  intro n hn
  rcases List.mem_cons.1 hn with rfl | hn
  · exact Nat.le_refl _
  · exact Nat.le_of_lt ((List.pairwise_cons.1 hlt).1 n hn)

/-- **Any listing.** After any series of edits, a listing with any numbers in any order is refused,
and the history stays as it was, or it takes the place of the history. Then each of its entries is
there once, and besides them at most the upload. The numbers increase from that of the upload, which
no other version has, exactly if no entry has a number below it. -/
theorem line_of_takeOver (edits : List Edit) (entries : List Entry) (upload : Option Dataset) :
    let h := editAll {} edits
    (∃ fault, h.takeOver entries upload = .error fault ∧ h.edit (.takeOver entries upload) = h) ∨
      ∃ h', h.takeOver entries upload = .ok h' ∧ h.edit (.takeOver entries upload) = h' ∧
        (∃ front : List Edition,
          h'.editions.Perm (front ++ entries.map fun e => (Version.ofEntry e).edition) ∧
            (front = [] ∨ ∃ dataset, upload = some dataset ∧
              front = [(Version.ofUpload dataset false).edition])) ∧
        ((h'.numbers.Pairwise (· < ·) ∧ h'.numbers.head? = some uploadNumber ∧
            h'.numbers.count uploadNumber = 1) ↔
          ∀ e ∈ entries, uploadNumber ≤ e.version) := by
  intro h
  cases hok : h.takeOver entries upload with
  | error fault => exact .inl ⟨fault, rfl, edit_eq_of_refuses (e := .takeOver entries upload) hok⟩
  | ok h' =>
    refine .inr ⟨h', rfl, by simp [edit, hok, Except.toOption], editions_of_takeOver hok, ?_⟩
    constructor
    · rintro ⟨hlt, hhead, -⟩ e he
      exact uploadNumber_le_of_increasing hlt hhead _ (mem_numbers_of_takeOver hok he)
    · intro hone
      have hs := Sound.takeOver hone hok
      refine ⟨hs.increasing, hs.head_numbers, ?_⟩
      exact List.count_eq_one_of_mem hs.nodup_numbers (List.mem_of_head? hs.head_numbers)

/-- A listing of a version zero and the upload, for a history that has a copy of the upload: the
copy is put in front of the zero, so the number of the upload stands on both sides of it. -/
theorem uploadNumber_twice_of_zeroListed :
    ∃ h', (editAll {} [.start {}]).takeOver
        [⟨[], "zero", false, 0⟩, ⟨[], "one", true, 1⟩] (some {}) = .ok h' ∧
      h'.numbers = [1, 0, 1] ∧ ¬ h'.numbers.Pairwise (· < ·) ∧
        h'.numbers.count uploadNumber = 2 := by
  refine ⟨{ versions := [.ofUpload {} false, ⟨0, {}, "zero", false⟩, ⟨1, {}, "one", true⟩]
            position := 2
            highest := 1 }, ?_, rfl, by decide, rfl⟩
  have hlisted : listed [⟨[], "zero", false, 0⟩, ⟨[], "one", true, 1⟩] =
      [⟨0, {}, "zero", false⟩, ⟨1, {}, "one", true⟩] :=
    listed_of_pairwise (by decide)
  rw [takeOver, hlisted]
  rfl

/-! ### The order of a listing -/

theorem listed_perm_of_perm (hperm : entries'.Perm entries) :
    (listed entries').Perm (listed entries) :=
  (listed_perm entries').trans ((hperm.map _).trans (listed_perm entries).symm)

/-- The numbers of a listing stand in one order, whatever that of the entries was. -/
theorem map_number_listed_of_perm (hperm : entries'.Perm entries) :
    (listed entries').map Version.number = (listed entries).map Version.number :=
  List.Perm.eq_of_pairwise (fun _ _ _ _ => Nat.le_antisymm) (pairwise_le_listed entries')
    (pairwise_le_listed entries) ((listed_perm_of_perm hperm).map _)

/-- Where no number repeats, so do the versions. -/
theorem listed_of_perm (hperm : entries'.Perm entries)
    (hr : repeated? ((listed entries).map Version.number) = none) :
    listed entries' = listed entries := by
  have hlt := pairwise_lt_of_repeated?_eq_none (pairwise_le_listed entries) hr
  have hlt' := hlt
  rw [← map_number_listed_of_perm hperm, List.pairwise_map] at hlt'
  rw [List.pairwise_map] at hlt
  refine List.Perm.eq_of_pairwise ?_ hlt' hlt (listed_perm_of_perm hperm)
  -- of two versions, only one can come before the other
  intro v w _ _ hvw hwv
  exact absurd hwv (Nat.lt_asymm hvw)

theorem takeOver_perm (hperm : entries'.Perm entries) (h : History) (upload : Option Dataset) :
    h.takeOver entries' upload = h.takeOver entries upload := by
  cases hr : repeated? ((listed entries).map Version.number) with
  | none =>
    have hlisted := listed_of_perm hperm hr
    rw [takeOver_of_not_repeated hr, takeOver_of_not_repeated (hlisted ▸ hr), hlisted]
  | some number =>
    have hr' := map_number_listed_of_perm hperm ▸ hr
    rw [takeOver_of_repeated hr, takeOver_of_repeated hr']

/-- A listing that was taken over once makes the same history of it when it is taken over again. -/
theorem takeOver_takeOver (hok : h.takeOver entries upload = .ok h') :
    h'.takeOver entries upload = .ok h' := by
  obtain ⟨hr, versions, hwith, rfl⟩ := takeOver_eq_ok_iff.1 hok
  refine takeOver_eq_ok_iff.2 ⟨hr, versions, hwith, ?_⟩
  -- the highest number has taken in those of the listing before
  simp

/-! ### The version on display -/

/-- A line with a mark can be cut at the last one. -/
theorem exists_last_isCurrent {versions : List Version}
    (hmark : ∃ w ∈ versions, w.isCurrent = true) :
    ∃ front v back, versions = front ++ v :: back ∧ v.isCurrent = true ∧
      ∀ w ∈ back, w.isCurrent = false := by
  obtain ⟨w, hw, hcurrent⟩ := hmark
  obtain ⟨v, hv⟩ : ∃ v, versions.reverse.find? Version.isCurrent = some v :=
    Option.isSome_iff_exists.1 (List.find?_isSome.2 ⟨w, List.mem_reverse.2 hw, hcurrent⟩)
  obtain ⟨hv, back, front, hline, hback⟩ := List.find?_eq_some_iff_append.1 hv
  refine ⟨front.reverse, v, back.reverse, ?_, hv, fun w hw => ?_⟩
  · rw [← List.reverse_reverse versions, hline]
    simp
  · simpa using hback w (List.mem_reverse.1 hw)

/-- Of a line with increasing numbers, the greatest version that is marked is found, or the greatest
of all if none is marked. -/
theorem exists_lastCurrent {versions : List Version} (hne : versions ≠ [])
    (hlt : (versions.map Version.number).Pairwise (· < ·)) :
    ∃ v, versions[lastCurrent versions]? = some v ∧
      ((v.isCurrent = true ∧ ∀ w ∈ versions, w.isCurrent = true → w.number ≤ v.number) ∨
        (∀ w ∈ versions, w.isCurrent = false) ∧ ∀ w ∈ versions, w.number ≤ v.number) := by
  by_cases hmark : ∃ w ∈ versions, w.isCurrent = true
  · -- the last one marked: those before it have lower numbers, those behind it no mark
    obtain ⟨front, v, back, rfl, hcurrent, hback⟩ := exists_last_isCurrent hmark
    refine ⟨v, by simp [lastCurrent_append_cons hcurrent hback], .inl ⟨hcurrent, ?_⟩⟩
    rw [List.pairwise_map] at hlt
    intro w hw hwc
    rcases List.mem_append.1 hw with hw | hw
    · exact Nat.le_of_lt ((List.pairwise_append.1 hlt).2.2 w hw v List.mem_cons_self)
    · rcases List.mem_cons.1 hw with rfl | hw
      · exact Nat.le_refl _
      · exact absurd hwc (by simp [hback w hw])
  · -- none is marked, so it is the last of all
    have hunmarked : ∀ w ∈ versions, w.isCurrent = false := fun w hw =>
      Bool.eq_false_iff.2 fun hwc => hmark ⟨w, hw, hwc⟩
    obtain ⟨v, hv⟩ : ∃ v, versions.getLast? = some v :=
      Option.ne_none_iff_exists'.1 (mt List.getLast?_eq_none_iff.1 hne)
    have hlast : (versions.map Version.number).getLast? = some v.number := by
      rw [List.getLast?_map, hv]
      rfl
    refine ⟨v, ?_, .inr ⟨hunmarked, fun w hw => ?_⟩⟩
    · rw [lastCurrent_of_unmarked hunmarked, ← List.getLast?_eq_getElem?, hv]
    · exact le_getLast_of_pairwise_lt hlt hlast _ (List.mem_map_of_mem hw)

/-- What goes on display of a listing that counts from one, and gets the mark. -/
theorem displayed_of_takeOver (hone : ∀ e ∈ entries, uploadNumber ≤ e.version)
    (hok : h.takeOver entries upload = .ok h') :
    ∃ v, h'.displayed? = some v ∧ h'.current? = some v ∧
      ((∃ e ∈ entries, e.isCurrent = true ∧ v = .ofEntry e ∧
          ∀ e' ∈ entries, e'.isCurrent = true → e'.version ≤ e.version) ∨
        (∀ e ∈ entries, e.isCurrent = false) ∧ ∀ n ∈ h'.numbers, n ≤ v.number) := by
  have hs := Sound.takeOver hone hok
  obtain ⟨-, versions, hwith, rfl⟩ := takeOver_eq_ok_iff.1 hok
  have hlt : (versions.map Version.number).Pairwise (· < ·) := by
    simpa [numbers] using hs.increasing
  obtain ⟨v, hv, hgreatest⟩ := exists_lastCurrent (ne_nil_of_withUpload_eq_ok hwith) hlt
  -- the version found gets the mark, and it is the one that counts as current
  have hdisplayed : (markOnly versions (lastCurrent versions))[lastCurrent versions]? =
      some { v with isCurrent := true } := by
    rw [getElem?_markOnly, hv]
    simp
  refine ⟨{ v with isCurrent := true }, hdisplayed,
    hs.toPlaced.current?_eq (List.mem_of_getElem? hdisplayed) rfl, ?_⟩
  obtain ⟨front, rfl, hfront⟩ := exists_front_of_withUpload_eq_ok hwith
  have hlisted {e : Entry} (he : e ∈ entries) : Version.ofEntry e ∈ front ++ listed entries :=
    List.mem_append_right _ (mem_listed.2 ⟨e, he, rfl⟩)
  rcases hgreatest with ⟨hcurrent, hgreatest⟩ | ⟨hunmarked, hgreatest⟩
  · -- the upload in front has no mark, so this one was listed
    have hmem : v ∈ listed entries := by
      rcases List.mem_append.1 (List.mem_of_getElem? hv) with hmem | hmem
      · rcases hfront with rfl | ⟨dataset, -, rfl⟩
        · exact absurd hmem List.not_mem_nil
        · obtain rfl := List.mem_singleton.1 hmem
          exact absurd hcurrent (by simp [Version.ofUpload])
      · exact hmem
    obtain ⟨e, he, rfl⟩ := mem_listed.1 hmem
    refine .inl ⟨e, he, hcurrent, ?_, fun e' he' hcurrent' => ?_⟩
    · rw [Version.ofEntry, show e.isCurrent = true from hcurrent]
    · exact hgreatest _ (hlisted he') hcurrent'
  · refine .inr ⟨fun e he => hunmarked _ (hlisted he), fun n hn => ?_⟩
    obtain ⟨w, hw, rfl⟩ : ∃ w ∈ front ++ listed entries, w.number = n := by
      simpa only [numbers, map_number_markOnly, List.mem_map] using hn
    exact hgreatest w hw

/-- **The order of a listing.** Entries that count from one are given in two orders. Both are
refused with the same fault, or make the same history; to take over either of them once more changes
nothing. The version on display and the current one are the entry of the greatest number among those
that are marked, or the version of the greatest number if none is marked. -/
theorem takeOver_of_perm (h : History) (upload : Option Dataset) (hperm : entries'.Perm entries)
    (hone : ∀ e ∈ entries, uploadNumber ≤ e.version) :
    h.takeOver entries' upload = h.takeOver entries upload ∧
      ∀ h', h.takeOver entries upload = .ok h' →
        h'.takeOver entries upload = .ok h' ∧ h'.takeOver entries' upload = .ok h' ∧
          ∃ v, h'.displayed? = some v ∧ h'.current? = some v ∧
            ((∃ e ∈ entries, e.isCurrent = true ∧ v = .ofEntry e ∧
                ∀ e' ∈ entries, e'.isCurrent = true → e'.version ≤ e.version) ∨
              (∀ e ∈ entries, e.isCurrent = false) ∧ ∀ n ∈ h'.numbers, n ≤ v.number) := by
  refine ⟨takeOver_perm hperm h upload, fun h' hok => ?_⟩
  have hagain := takeOver_takeOver hok
  exact ⟨hagain, (takeOver_perm hperm h' upload).trans hagain, displayed_of_takeOver hone hok⟩

/-- A listing without the upload, of three versions two of which are marked. -/
def twiceMarked : List Entry :=
  [⟨[], "a", true, 2⟩, ⟨[], "b", true, 4⟩, ⟨[], "c", false, 7⟩]

/-- Read backwards, that listing leaves the same history, once and twice. The greater of the marked
versions is on display, though it is not the last one. -/
theorem takeOver_of_reversed_twiceMarked :
    twiceMarked.reverse.Perm twiceMarked ∧ (∀ e ∈ twiceMarked, uploadNumber ≤ e.version) ∧
      ∃ h', (start {}).takeOver twiceMarked.reverse (some {}) = .ok h' ∧
        h'.numbers = [1, 2, 4, 7] ∧ h'.takeOver twiceMarked.reverse (some {}) = .ok h' ∧
          ∃ v, h'.displayed? = some v ∧ h'.current? = some v ∧ v.number = 4 := by
  have hperm : twiceMarked.reverse.Perm twiceMarked := List.reverse_perm _
  have hone : ∀ e ∈ twiceMarked, uploadNumber ≤ e.version := by
    simp [twiceMarked, uploadNumber]
  have hok : (start {}).takeOver twiceMarked (some {}) = .ok
      { versions :=
          [.ofUpload {} false, ⟨2, {}, "a", false⟩, ⟨4, {}, "b", true⟩, ⟨7, {}, "c", false⟩]
        position := 2
        highest := 7 } := by
    rw [takeOver, listed_of_pairwise (by decide)]
    rfl
  obtain ⟨heq, hthen⟩ := takeOver_of_perm (start {}) (some {}) hperm hone
  obtain ⟨-, hagain, v, hdisplayed, hcurrent, -⟩ := hthen _ hok
  refine ⟨hperm, hone, _, heq.trans hok, rfl, hagain, v, hdisplayed, hcurrent, ?_⟩
  obtain rfl := Option.some.inj hdisplayed
  rfl

end Tabula.History
