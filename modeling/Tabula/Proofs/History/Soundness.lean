import Mathlib.Order.Lattice.Nat
import Tabula.Proofs.History.Steps

/-!
# Soundness of a history

A history is sound when a version is on display, exactly one version is marked as current, the
numbers increase from left to right, the first of them is the number of the upload, and none lies
above the highest number given out. `empty_or_sound_of_edits` says that a history to which any
series of edits was done, refused ones among them, is empty or sound.

The invariant comes in two parts.

* `Placed` — the display and the mark. Every edit keeps it, whatever a listing says: `takeOver`
  sets mark and display itself (`Placed.takeOver`).
* `Sound` — adds the numbers. Here a listing has to play its part, since a version zero would stand
  behind the upload that is put in front of it: the numbers of a listing are at least one.

The numbers are followed through `numbers`, so every edit comes down to a fact about lists of
numbers: a new number goes behind a prefix (`numbers_appendAs`), one number is erased
(`numbers_without`), or a sorted listing without repetitions takes the place of all
(`pairwise_lt_withUpload`).
-/

namespace Tabula.History

/-! ### Edits -/

/-- What may be done to a history. -/
inductive Edit where
  /-- Starts over with an upload. -/
  | start (dataset : Dataset)
  /-- Adds a version under the next free number. -/
  | append (dataset : Dataset) (description : String)
  /-- Adds a version under a given number. -/
  | appendAs (number : VersionNumber) (dataset : Dataset) (description : String)
  /-- Displays the version before. -/
  | older
  /-- Displays the version after. -/
  | newer
  /-- Finds out whether a version may be deleted. -/
  | planRemoval (number : VersionNumber)
  /-- Takes a version out. -/
  | remove (removal : Removal)
  /-- Takes over a listing of the service. -/
  | takeOver (entries : List Entry) (upload : Option Dataset)
  /-- Forgets everything. -/
  | clear

/-- The history after an edit. An edit that is refused leaves it as it was. -/
def edit (h : History) : Edit → History
  | .start dataset => start dataset
  | .append dataset description => (h.append dataset description).toOption.getD h
  | .appendAs number dataset description =>
    (h.appendAs number dataset description).toOption.getD h
  | .older => h.older?.getD h
  | .newer => h.newer?.getD h
  | .planRemoval _ => h
  | .remove removal => (h.remove removal).toOption.getD h
  | .takeOver entries upload => (h.takeOver entries upload).toOption.getD h
  | .clear => {}

/-- The history after a series of edits. -/
def editAll (h : History) (edits : List Edit) : History :=
  edits.foldl edit h

/-- An edit that may be refused leaves what holds of the history so, if it does where it
succeeds. -/
theorem of_attempt {P : History → Prop} {h : History} (hp : P h)
    {r : Except HistoryFault History} (hr : ∀ h', r = .ok h' → P h') :
    P (r.toOption.getD h) := by
  cases r with
  | error fault => exact hp
  | ok h' => exact hr h' rfl

/-- A step that may find nothing leaves what holds of the history so, if it does where it finds
something. -/
theorem of_move {P : History → Prop} {h : History} (hp : P h) {moved : Option History}
    (hm : ∀ h', moved = some h' → P h') : P (moved.getD h) := by
  cases moved with
  | none => exact hp
  | some h' => exact hm h' rfl

/-- Back or forward, as far as there is a version, nothing but the position changes. -/
theorem exists_position_edit (h : History) {e : Edit} (he : e = .older ∨ e = .newer) :
    ∃ position, h.edit e = { h with position } := by
  have hmoved {moved : Option History}
      (hm : ∀ h', moved = some h' → ∃ position, h' = { h with position }) :
      ∃ position, moved.getD h = { h with position } :=
    of_move (P := fun h' => ∃ position, h' = { h with position }) ⟨h.position, rfl⟩ hm
  rcases he with rfl | rfl
  · exact hmoved fun h' hok => exists_position_of_moved (.inl hok)
  · exact hmoved fun h' hok => exists_position_of_moved (.inr hok)

theorem editAll_append (h : History) (before after : List Edit) :
    h.editAll (before ++ after) = (h.editAll before).editAll after :=
  List.foldl_append

/-- Whether the numbers that an edit brings from a listing count from one. -/
def Edit.CountsFromOne : Edit → Prop
  | .takeOver entries _ => ∀ e ∈ entries, uploadNumber ≤ e.version
  | _ => True

/-! ### The display and the mark -/

/-- A history with a version on display and exactly one mark of the current version. -/
structure Placed (h : History) : Prop where
  /-- The version on display is one of the history. -/
  position_lt : h.position < h.size
  /-- Exactly one version is marked. -/
  current_unique : h.versions.countP Version.isCurrent = 1

theorem Placed.start (dataset : Dataset) : (start dataset).Placed where
  position_lt := Nat.zero_lt_one
  current_unique := rfl

/-- The version on display of a history that has one. -/
theorem Placed.exists_displayed? {h : History} (hp : h.Placed) : ∃ v, h.displayed? = some v :=
  ⟨_, List.getElem?_eq_getElem hp.position_lt⟩

theorem Placed.isEmpty_eq_false {h : History} (hp : h.Placed) : h.isEmpty = false := by
  have hlt := hp.position_lt
  rw [size] at hlt
  exact List.isEmpty_eq_false_iff.2 (List.ne_nil_of_length_pos (Nat.zero_lt_of_lt hlt))

/-- Only one version is marked. -/
theorem Placed.eq_of_isCurrent {h : History} (hp : h.Placed) {v w : Version} (hv : v ∈ h.versions)
    (hw : w ∈ h.versions) (hvc : v.isCurrent = true) (hwc : w.isCurrent = true) : v = w := by
  have hone := hp.current_unique
  rw [List.countP_eq_length_filter, List.length_eq_one_iff] at hone
  obtain ⟨u, hu⟩ := hone
  have hv' : v ∈ h.versions.filter Version.isCurrent := List.mem_filter.2 ⟨hv, hvc⟩
  have hw' : w ∈ h.versions.filter Version.isCurrent := List.mem_filter.2 ⟨hw, hwc⟩
  rw [hu, List.mem_singleton] at hv' hw'
  rw [hv', hw']

/-- A marked version is the one that counts as current. -/
theorem Placed.current?_eq {h : History} (hp : h.Placed) {v : Version} (hv : v ∈ h.versions)
    (hcurrent : v.isCurrent = true) : h.current? = some v := by
  obtain ⟨w, hw⟩ : ∃ w, h.current? = some w :=
    Option.isSome_iff_exists.1 (List.find?_isSome.2 ⟨v, hv, hcurrent⟩)
  rw [hw, hp.eq_of_isCurrent (List.mem_of_find?_eq_some hw) hv (List.find?_some hw) hcurrent]

/-- Where there is no newer version, the last one is on display. -/
theorem Placed.displayed?_eq {h : History} (hp : h.Placed) (hnewest : h.hasNewer = false) :
    h.displayed? = h.versions.getLast? := by
  have hlt : h.position < h.versions.length := hp.position_lt
  have hle : ¬h.position + 1 < h.versions.length := of_decide_eq_false hnewest
  rw [displayed?, List.getLast?_eq_getElem?]
  congr 1
  omega

theorem Placed.appendAs {h h' : History} {number : VersionNumber} {dataset : Dataset}
    {description : String} (hok : h.appendAs number dataset description = .ok h') :
    h'.Placed := by
  obtain ⟨newest, hd, -, rfl⟩ := appendAs_eq_ok_iff.1 hok
  obtain ⟨hlt, -⟩ := List.getElem?_eq_some_iff.1 hd
  constructor
  · simp only [size, List.length_append, length_unmarked, List.length_take, List.length_singleton]
    omega
  · simp [List.countP_append]

theorem Placed.older? {h h' : History} (hp : h.Placed) (hok : h.older? = some h') :
    h'.Placed := by
  obtain ⟨-, -, rfl⟩ := older?_eq_some_iff.1 hok
  exact ⟨Nat.lt_of_le_of_lt (Nat.sub_le _ _) hp.position_lt, hp.current_unique⟩

theorem Placed.newer? {h h' : History} (hp : h.Placed) (hok : h.newer? = some h') :
    h'.Placed := by
  obtain ⟨hlt, rfl⟩ := newer?_eq_some_iff.1 hok
  exact ⟨hlt, hp.current_unique⟩

/-- The marks of a history without one version: if the mark was there, it is set anew on the version
before, and no other version has one. -/
theorem countP_isCurrent_without {h : History} {i : Nat} {v : Version}
    (hv : h.versions[i + 1]? = some v) (hc : h.versions.countP Version.isCurrent = 1) :
    (h.without (i + 1) v.isCurrent).versions.countP Version.isCurrent = 1 := by
  obtain ⟨hi, -⟩ := List.getElem?_eq_some_iff.1 hv
  have hsplit := countP_isCurrent_eraseIdx hv
  -- either the mark is among the versions that are left, or it went and is set again
  cases hcur : v.isCurrent with
  | false => simp_all [without]
  | true =>
    have hrest : (h.versions.eraseIdx (i + 1)).countP Version.isCurrent = 0 := by
      rw [hcur, if_pos rfl] at hsplit
      omega
    have hlt : i < (h.versions.eraseIdx (i + 1)).length := by
      rw [List.length_eraseIdx_of_lt hi]
      omega
    simpa [without] using countP_isCurrent_markAt hlt hrest

theorem Placed.remove {h h' : History} {removal : Removal} (hp : h.Placed)
    (hok : h.remove removal = .ok h') : h'.Placed := by
  obtain ⟨i, v, -, hv, rfl⟩ := remove_eq_ok_iff.1 hok
  refine ⟨?_, countP_isCurrent_without hv hp.current_unique⟩
  obtain ⟨hi, -⟩ := List.getElem?_eq_some_iff.1 hv
  have hlen : (h.without (i + 1) v.isCurrent).size = h.size - 1 := by
    unfold without size
    split <;> simp [List.length_eraseIdx_of_lt hi]
  rw [hlen]
  -- the display moves back with the version unless it stands before it
  have hlt := hp.position_lt
  simp only [size, without] at hlt hi ⊢
  split <;> omega

/-- Any listing that is taken over is placed, even one whose numbers make no sense. -/
theorem Placed.takeOver {h h' : History} {entries : List Entry} {upload : Option Dataset}
    (hok : h.takeOver entries upload = .ok h') : h'.Placed := by
  obtain ⟨-, versions, hw, rfl⟩ := takeOver_eq_ok_iff.1 hok
  have hlt := lastCurrent_lt (ne_nil_of_withUpload_eq_ok hw)
  exact ⟨by simpa [size] using hlt, countP_isCurrent_markOnly hlt⟩

/-! ### The numbers -/

/-- A placed history whose numbers increase from that of the upload and stay within the numbers that
were given out. -/
structure Sound (h : History) : Prop extends Placed h where
  /-- The numbers increase from left to right. -/
  increasing : h.numbers.Pairwise (· < ·)
  /-- The first version has the number of the upload. -/
  head_numbers : h.numbers.head? = some uploadNumber
  /-- No number lies above the highest one that was given out. -/
  le_highest : ∀ n ∈ h.numbers, n ≤ h.highest

theorem Sound.nodup_numbers {h : History} (hs : h.Sound) : h.numbers.Nodup :=
  hs.increasing.imp fun hlt => Nat.ne_of_lt hlt

theorem Sound.start (dataset : Dataset) : (start dataset).Sound where
  toPlaced := .start dataset
  increasing := List.pairwise_singleton _ _
  head_numbers := rfl
  le_highest := fun _ hn => Nat.le_of_eq (List.mem_singleton.1 hn)

/-- A line of increasing numbers stays below the number at its end. -/
theorem le_getLast_of_pairwise_lt {l : List Nat} {m : Nat} (hl : l.Pairwise (· < ·))
    (hm : l.getLast? = some m) : ∀ n ∈ l, n ≤ m := by
  obtain ⟨front, rfl⟩ := List.getLast?_eq_some_iff.1 hm
  intro n hn
  rcases List.mem_append.1 hn with hn | hn
  · exact Nat.le_of_lt ((List.pairwise_append.1 hl).2.2 n hn m (List.mem_singleton_self m))
  · exact Nat.le_of_eq (List.mem_singleton.1 hn)

/-- A new number stands behind the numbers up to the one on display, which is the greatest of
them. -/
theorem numbers_appendAs {h h' : History} {number : VersionNumber} {dataset : Dataset}
    {description : String} (hok : h.appendAs number dataset description = .ok h') :
    ∃ newest, (h.numbers.take (h.position + 1)).getLast? = some newest ∧ newest < number ∧
      h'.numbers = h.numbers.take (h.position + 1) ++ [number] ∧
        h'.highest = max h.highest number := by
  obtain ⟨hnumbers, -⟩ := map_appendAs (g := Version.number) (fun _ _ => rfl) hok
  obtain ⟨newest, hd, hlt, rfl⟩ := appendAs_eq_ok_iff.1 hok
  refine ⟨newest.number, ?_, hlt, hnumbers, rfl⟩
  have hn : h.numbers[h.position]? = some newest.number := by
    simp only [numbers, List.getElem?_map]
    rw [show h.versions[h.position]? = some newest from hd]
    rfl
  rw [List.take_add_one, hn, Option.toList_some, List.getLast?_concat]

theorem Sound.appendAs {h h' : History} {number : VersionNumber} {dataset : Dataset}
    {description : String} (hs : h.Sound)
    (hok : h.appendAs number dataset description = .ok h') : h'.Sound := by
  obtain ⟨newest, hlast, hlt, hnum, hhigh⟩ := numbers_appendAs hok
  have hkept : (h.numbers.take (h.position + 1)).Pairwise (· < ·) :=
    hs.increasing.sublist (List.take_sublist _ _)
  refine ⟨.appendAs hok, ?_, ?_, ?_⟩
  · rw [hnum]
    refine List.pairwise_append.2 ⟨hkept, List.pairwise_singleton _ _, ?_⟩
    -- the number on display is the greatest of those kept, and the new one is greater
    intro n hn m hm
    obtain rfl := List.mem_singleton.1 hm
    exact Nat.lt_of_le_of_lt (le_getLast_of_pairwise_lt hkept hlast n hn) hlt
  · rw [hnum, List.head?_append, List.head?_take, if_neg (Nat.succ_ne_zero _), hs.head_numbers]
    rfl
  · intro n hn
    rw [hnum] at hn
    rw [hhigh]
    rcases List.mem_append.1 hn with hn | hn
    · exact le_max_of_le_left (hs.le_highest n (List.mem_of_mem_take hn))
    · exact le_max_of_le_right (Nat.le_of_eq (List.mem_singleton.1 hn))

theorem Sound.older? {h h' : History} (hs : h.Sound) (hok : h.older? = some h') : h'.Sound := by
  have hp := hs.toPlaced.older? hok
  obtain ⟨-, -, rfl⟩ := older?_eq_some_iff.1 hok
  exact ⟨hp, hs.increasing, hs.head_numbers, hs.le_highest⟩

theorem Sound.newer? {h h' : History} (hs : h.Sound) (hok : h.newer? = some h') : h'.Sound := by
  have hp := hs.toPlaced.newer? hok
  obtain ⟨-, rfl⟩ := newer?_eq_some_iff.1 hok
  exact ⟨hp, hs.increasing, hs.head_numbers, hs.le_highest⟩

/-- Without a version, its number is gone from the line and all others stay. -/
theorem numbers_without (h : History) (i : Nat) (wasCurrent : Bool) :
    (h.without i wasCurrent).numbers = h.numbers.eraseIdx i :=
  map_without (fun _ _ => rfl) h i wasCurrent

theorem Sound.remove {h h' : History} {removal : Removal} (hs : h.Sound)
    (hok : h.remove removal = .ok h') : h'.Sound := by
  have hp := hs.toPlaced.remove hok
  obtain ⟨i, v, -, hv, rfl⟩ := remove_eq_ok_iff.1 hok
  refine ⟨hp, ?_, ?_, ?_⟩
  · rw [numbers_without]
    exact hs.increasing.eraseIdx _
  · -- the version that is taken out is not the first
    rw [numbers_without, head?_eraseIdx_succ, hs.head_numbers]
  · intro n hn
    rw [numbers_without] at hn
    exact hs.le_highest n (List.mem_of_mem_eraseIdx hn)

/-! ### The numbers of a listing -/

/-- A line that does not decrease, and in which no number stands twice in a row, increases. -/
theorem pairwise_lt_of_repeated?_eq_none {l : List VersionNumber} (hl : l.Pairwise (· ≤ ·))
    (hr : repeated? l = none) : l.Pairwise (· < ·) := by
  fun_induction repeated? l with
  | case1 => simp at hr
  | case2 a b l hab ih =>
    obtain ⟨ha, hl⟩ := List.pairwise_cons.1 hl
    have hlt := ih hl hr
    refine List.pairwise_cons.2 ⟨?_, hlt⟩
    have hab : a < b := Nat.lt_of_le_of_ne (ha b List.mem_cons_self) hab
    -- beyond the second number the rest of the line is larger still
    intro c hc
    rcases List.mem_cons.1 hc with rfl | hc
    · exact hab
    · exact hab.trans ((List.pairwise_cons.1 hlt).1 c hc)
  | case3 l hshort =>
    match l with
    | [] => exact .nil
    | [a] => exact List.pairwise_singleton _ _
    | a :: b :: l => exact (hshort a b l rfl).elim

theorem pairwise_le_listed (entries : List Entry) :
    ((listed entries).map Version.number).Pairwise (· ≤ ·) := by
  rw [List.pairwise_map]
  refine (List.pairwise_mergeSort ?_ ?_ (entries.map Version.ofEntry)).imp (by simp)
  · intro u v w huv hvw
    simp only [decide_eq_true_eq] at huv hvw ⊢
    exact huv.trans hvw
  · intro v w
    simpa using Nat.le_total v.number w.number

/-- A listing has the numbers of its entries, in some order. -/
theorem map_number_listed_perm (entries : List Entry) :
    ((listed entries).map Version.number).Perm (entries.map Entry.version) := by
  have hperm := (List.mergeSort_perm (entries.map Version.ofEntry) fun v w =>
    v.number ≤ w.number).map Version.number
  rw [List.map_map] at hperm
  exact hperm

/-- The versions of a listing are its entries. -/
theorem mem_listed {entries : List Entry} {v : Version} :
    v ∈ listed entries ↔ ∃ e ∈ entries, Version.ofEntry e = v := by
  rw [listed, (List.mergeSort_perm _ _).mem_iff, List.mem_map]

/-- A listing in the order of its numbers is taken as it stands. -/
theorem listed_of_pairwise {entries : List Entry}
    (h : (entries.map Entry.version).Pairwise (· < ·)) :
    listed entries = entries.map Version.ofEntry := by
  refine List.mergeSort_of_pairwise ?_
  rw [List.pairwise_map] at h ⊢
  exact h.imp fun hlt => decide_eq_true (Nat.le_of_lt hlt)

/-- With the upload in front, the line of a listing starts at the number of the upload, and it
increases if it did so before. -/
theorem pairwise_lt_withUpload {versions versions' : List Version} {upload : Option Dataset}
    (hok : withUpload versions upload = .ok versions')
    (hlt : (versions.map Version.number).Pairwise (· < ·))
    (hone : ∀ v ∈ versions, uploadNumber ≤ v.number) :
    (versions'.map Version.number).Pairwise (· < ·) ∧
      (versions'.map Version.number).head? = some uploadNumber := by
  rcases eq_or_of_withUpload_eq_ok hok with ⟨hhead, rfl⟩ | ⟨hhead, dataset, -, rfl⟩
  · obtain ⟨v, hv, hup⟩ := (Option.any_eq_true _ _).1 hhead
    refine ⟨hlt, ?_⟩
    rw [List.head?_map, hv]
    simpa [Version.isUpload] using hup
  · refine ⟨?_, rfl⟩
    simp only [List.map_cons, List.pairwise_cons]
    refine ⟨fun n hn => ?_, hlt⟩
    -- the first number is not that of the upload, so all of them lie above it
    cases versions with
    | nil => simp at hn
    | cons v versions =>
      have hv : uploadNumber < v.number := by
        refine Nat.lt_of_le_of_ne (hone v List.mem_cons_self) fun h => ?_
        simp [Version.isUpload, h] at hhead
      rcases List.mem_cons.1 hn with rfl | hn
      · exact hv
      · exact hv.trans ((List.pairwise_cons.1 hlt).1 n hn)

theorem Sound.takeOver {h h' : History} {entries : List Entry} {upload : Option Dataset}
    (hone : ∀ e ∈ entries, uploadNumber ≤ e.version)
    (hok : h.takeOver entries upload = .ok h') : h'.Sound := by
  have hp := Placed.takeOver hok
  obtain ⟨hr, versions, hw, rfl⟩ := takeOver_eq_ok_iff.1 hok
  have hlisted : ∀ v ∈ listed entries, uploadNumber ≤ v.number := by
    intro v hv
    obtain ⟨e, he, rfl⟩ := mem_listed.1 hv
    exact hone e he
  obtain ⟨hlt, hhead⟩ := pairwise_lt_withUpload hw
    (pairwise_lt_of_repeated?_eq_none (pairwise_le_listed entries) hr) hlisted
  refine ⟨hp, by simpa [numbers] using hlt, by simpa [numbers] using hhead, ?_⟩
  intro n hn
  replace hn : n ∈ versions.map Version.number := by simpa [numbers] using hn
  -- the last number of the line is its greatest, and is taken into the highest
  cases hlast : versions.getLast? with
  | none => exact absurd (List.getLast?_eq_none_iff.1 hlast) (ne_nil_of_withUpload_eq_ok hw)
  | some newest =>
    have hle := le_getLast_of_pairwise_lt (m := newest.number) hlt (by simp [hlast]) n hn
    exact le_max_of_le_right (by simpa [hlast] using hle)

/-! ### Runs -/

/-- **One edit.** An edit leaves a history that is empty or sound so. -/
theorem edit_eq_empty_or_sound {h : History} (hs : h = {} ∨ h.Sound) {e : Edit}
    (he : e.CountsFromOne) : h.edit e = {} ∨ (h.edit e).Sound := by
  rcases hs with rfl | hs
  · -- of an empty history, only an upload or a listing makes one with versions
    cases e with
    | start dataset => exact .inr (.start dataset)
    | takeOver entries upload =>
      cases hok : takeOver {} entries upload with
      | error fault => exact .inl (by simp [edit, hok, Except.toOption])
      | ok h' => exact .inr (by simpa [edit, hok, Except.toOption] using Sound.takeOver he hok)
    | _ => exact .inl rfl
  · -- of a sound one, each edit that succeeds makes a sound one, and each refused one keeps it
    cases e with
    | start dataset => exact .inr (.start dataset)
    | append dataset description =>
      exact .inr (of_attempt (P := Sound) hs fun h' hok => hs.appendAs hok)
    | appendAs number dataset description =>
      exact .inr (of_attempt (P := Sound) hs fun h' hok => hs.appendAs hok)
    | older => exact .inr (of_move (P := Sound) hs fun h' hok => hs.older? hok)
    | newer => exact .inr (of_move (P := Sound) hs fun h' hok => hs.newer? hok)
    | planRemoval number => exact .inr hs
    | remove removal => exact .inr (of_attempt (P := Sound) hs fun h' hok => hs.remove hok)
    | takeOver entries upload =>
      exact .inr (of_attempt (P := Sound) hs fun h' hok => .takeOver he hok)
    | clear => exact .inl rfl

/-- A series of edits leaves a history that is empty or sound so. -/
theorem editAll_eq_empty_or_sound {h : History} (hs : h = {} ∨ h.Sound) {edits : List Edit}
    (he : ∀ e ∈ edits, e.CountsFromOne) : h.editAll edits = {} ∨ (h.editAll edits).Sound := by
  -- on the edits, for any history to begin with
  induction edits generalizing h with
  | nil => exact hs
  | cons e edits ih =>
    have hstep := edit_eq_empty_or_sound hs (he e List.mem_cons_self)
    exact ih hstep fun e' he' => he e' (List.mem_cons_of_mem e he')

/-- **Soundness of every run.** After any series of edits whose listings count from one, a history
is empty, with nothing on display and no number given out, or it is sound. -/
theorem empty_or_sound_of_edits (edits : List Edit) (he : ∀ e ∈ edits, e.CountsFromOne) :
    editAll {} edits = {} ∨ (editAll {} edits).Sound :=
  editAll_eq_empty_or_sound (.inl rfl) he

/-- The edits of a table that is filtered twice with a step back between, loses the second result,
takes over a listing without the upload, and is filtered once more. -/
def sampleEdits : List Edit :=
  [.start {}, .append {} "a", .older, .appendAs 9 {} "b", .remove ⟨9, true⟩,
    .takeOver [⟨[], "c", true, 4⟩] (some {}), .append {} "d"]

/-- The soundness of the sample. Its line is the upload, the version of the listing, and one whose
number is above the highest, though no version has that any more. -/
theorem sound_of_sampleEdits :
    (∀ e ∈ sampleEdits, e.CountsFromOne) ∧ (editAll {} sampleEdits).numbers = [1, 4, 10] ∧
      (editAll {} sampleEdits).Sound := by
  have he : ∀ e ∈ sampleEdits, e.CountsFromOne := by
    simp [sampleEdits, Edit.CountsFromOne, uploadNumber]
  have hn : (editAll {} sampleEdits).numbers = [1, 4, 10] := by decide +kernel
  refine ⟨he, hn, ?_⟩
  rcases empty_or_sound_of_edits sampleEdits he with h | h
  · rw [h] at hn
    exact absurd hn (by decide)
  · exact h

end Tabula.History
