import Tabula.Proofs.History.Soundness

/-!
# Fresh numbers

A history gives a new version the number that follows the highest one it knows of.
`fresh_of_edits` says that this number is new: since the history was last started or cleared, no
version had it or a greater one, whatever was added, taken out, dropped or taken over from a listing
in between.

It takes an invariant about one history only, `Capped`: no version has a number above the highest.
Every edit keeps it (`Capped.edit`) and, unless it starts over, does not lower the highest number
(`highest_le_edit`), so the highest number caps all histories of a run.

One listing breaks it. Where nothing but a version zero is listed, the upload is put in front of it,
and the highest number is read off the end of the line, where the zero stands. If no number was
given out before, that of the upload is given out a second time (`number_repeated_of_zeroFirst`).
Such a listing does no harm to a history that has given out a number, and no other listing does any
(`ZeroLate`).
-/

namespace Tabula.History

/-- Whether an edit starts over or forgets everything. -/
def Edit.resets : Edit → Bool
  | .start _ | .clear => true
  | _ => false

/-- Whether an edit puts the upload in front of a version zero that is all that a listing has. -/
def Edit.frontsZero : Edit → Bool
  | .takeOver entries upload => upload.isSome && entries.map Entry.version == [0]
  | _ => false

/-- The number that an edit gives to a new version, if it adds one. -/
def given? (h : History) : Edit → Option VersionNumber
  | .append dataset description =>
    (h.append dataset description).toOption.map fun _ => h.nextNumber
  | .appendAs number dataset description =>
    (h.appendAs number dataset description).toOption.map fun _ => number
  | _ => none

/-- A history none of whose numbers lies above the highest one. -/
def Capped (h : History) : Prop :=
  ∀ n ∈ h.numbers, n ≤ h.highest

variable {h h' : History} {e : Edit} {number : VersionNumber}

/-! ### Numbers of a listing -/

/-- An increasing line that ends in zero is no longer than that. -/
theorem eq_zero_of_getLast? {l : List VersionNumber} (hl : l.Pairwise (· < ·))
    (hlast : l.getLast? = some 0) : l = [0] := by
  obtain ⟨front, rfl⟩ := List.getLast?_eq_some_iff.1 hlast
  cases front with
  | nil => rfl
  | cons n front =>
    have hlt := (List.pairwise_append.1 hl).2.2 n List.mem_cons_self 0 (List.mem_singleton_self 0)
    exact absurd hlt (Nat.not_lt_zero n)

/-- A listing that is taken over is capped, unless the upload is put in front of a version zero
alone and nothing was given out before. -/
theorem capped_of_takeOver {entries : List Entry} {upload : Option Dataset}
    (hzero : upload.isSome = true → entries.map Entry.version = [0] → 0 < h.highest)
    (hok : h.takeOver entries upload = .ok h') : h'.Capped := by
  obtain ⟨hr, versions, hw, rfl⟩ := takeOver_eq_ok_iff.1 hok
  have hlt := pairwise_lt_of_repeated?_eq_none (pairwise_le_listed entries) hr
  have hperm := map_number_listed_perm entries
  -- from here on, only the line of numbers matters
  have hline : versions.map Version.number = (listed entries).map Version.number ∨
      upload.isSome = true ∧
        versions.map Version.number = uploadNumber :: (listed entries).map Version.number := by
    rcases eq_or_of_withUpload_eq_ok hw with ⟨-, rfl⟩ | ⟨-, dataset, rfl, rfl⟩
    · exact .inl rfl
    · exact .inr ⟨rfl, rfl⟩
  intro n hn
  replace hn : n ∈ versions.map Version.number := by simpa [numbers] using hn
  show n ≤ max h.highest ((versions.getLast?.map Version.number).getD uploadNumber)
  rw [← List.getLast?_map]
  generalize (listed entries).map Version.number = listed at hlt hperm hline
  cases hlast : listed.getLast? with
  | none =>
    -- without a listed version, there is at most the upload
    obtain rfl := List.getLast?_eq_none_iff.1 hlast
    rcases hline with hline | ⟨-, hline⟩
    · exact absurd (hline ▸ hn) List.not_mem_nil
    · rw [hline] at hn ⊢
      exact le_max_of_le_right (Nat.le_of_eq (List.mem_singleton.1 hn))
  | some m =>
    have hle := le_getLast_of_pairwise_lt hlt hlast
    have hend : (versions.map Version.number).getLast? = some m := by
      rcases hline with hline | ⟨-, hline⟩
      · rw [hline, hlast]
      · rw [hline, List.getLast?_cons, hlast]
        rfl
    rw [hend, Option.getD_some]
    rcases hline with hline | ⟨hupload, hline⟩
    · exact le_max_of_le_right (hle n (hline ▸ hn))
    · rcases List.mem_cons.1 (hline ▸ hn) with rfl | hn
      · -- the upload stands in front of a greater number, or in front of the zero
        rcases Nat.eq_zero_or_pos m with rfl | hpos
        · rw [eq_zero_of_getLast? hlt hlast] at hperm
          exact le_max_of_le_left (hzero hupload (List.perm_singleton.1 hperm.symm))
        · exact le_max_of_le_right hpos
      · exact le_max_of_le_right (hle n hn)

/-! ### One edit -/

theorem capped_of_appendAs {dataset : Dataset} {description : String} (hc : h.Capped)
    (hok : h.appendAs number dataset description = .ok h') : h'.Capped := by
  obtain ⟨-, -, -, hnumbers, hhighest⟩ := numbers_appendAs hok
  intro n hn
  rw [hnumbers] at hn
  rw [hhighest]
  rcases List.mem_append.1 hn with hn | hn
  · exact le_max_of_le_left (hc n (List.mem_of_mem_take hn))
  · exact le_max_of_le_right (Nat.le_of_eq (List.mem_singleton.1 hn))

/-- **One edit.** An edit that does not start over leaves a capped history so. -/
theorem Capped.edit (hc : h.Capped) (hreset : e.resets = false)
    (hzero : e.frontsZero = true → 0 < h.highest) : (h.edit e).Capped := by
  cases e with
  | start upload => exact absurd hreset (by simp [Edit.resets])
  | clear => exact absurd hreset (by simp [Edit.resets])
  -- where versions come in, the cap is raised with them; the others keep the versions or lose one
  | append dataset description =>
    exact of_attempt (P := Capped) hc fun h' hok => capped_of_appendAs hc hok
  | appendAs number dataset description =>
    exact of_attempt (P := Capped) hc fun h' hok => capped_of_appendAs hc hok
  | older =>
    obtain ⟨position, hedit⟩ := h.exists_position_edit (.inl rfl)
    rw [hedit]
    exact hc
  | newer =>
    obtain ⟨position, hedit⟩ := h.exists_position_edit (.inr rfl)
    rw [hedit]
    exact hc
  | planRemoval number => exact hc
  | remove removal =>
    refine of_attempt (P := Capped) hc fun h' hok n hn => ?_
    obtain ⟨i, v, -, -, rfl⟩ := remove_eq_ok_iff.1 hok
    rw [numbers_without] at hn
    exact hc n (List.mem_of_mem_eraseIdx hn)
  | takeOver entries upload =>
    refine of_attempt (P := Capped) hc fun h' hok =>
      capped_of_takeOver (fun hupload hlist => hzero ?_) hok
    simp [Edit.frontsZero, hupload, hlist]

/-- Unless an edit starts over, the highest number is not lowered. -/
theorem highest_le_edit (h : History) (hreset : e.resets = false) :
    h.highest ≤ (h.edit e).highest := by
  have hok {r : Except HistoryFault History} (hr : ∀ h', r = .ok h' → h.highest ≤ h'.highest) :
      h.highest ≤ (r.toOption.getD h).highest :=
    of_attempt (P := fun h' => h.highest ≤ h'.highest) (Nat.le_refl _) hr
  cases e with
  | start upload => exact absurd hreset (by simp [Edit.resets])
  | clear => exact absurd hreset (by simp [Edit.resets])
  -- what is added or listed can only raise it, and no other edit touches it
  | append dataset description =>
    refine hok fun h' ha => ?_
    obtain ⟨-, -, -, rfl⟩ := appendAs_eq_ok_iff.1 ha
    exact le_max_left _ _
  | appendAs number dataset description =>
    refine hok fun h' ha => ?_
    obtain ⟨-, -, -, rfl⟩ := appendAs_eq_ok_iff.1 ha
    exact le_max_left _ _
  -- undo and redo move on the line
  | older =>
    obtain ⟨position, hedit⟩ := h.exists_position_edit (.inl rfl)
    rw [hedit]
  | newer =>
    obtain ⟨position, hedit⟩ := h.exists_position_edit (.inr rfl)
    rw [hedit]
  | planRemoval number => exact Nat.le_refl _
  | remove removal =>
    refine hok fun h' hr => ?_
    obtain ⟨i, v, -, -, rfl⟩ := remove_eq_ok_iff.1 hr
    exact Nat.le_refl _
  | takeOver entries upload =>
    refine hok fun h' ht => ?_
    obtain ⟨-, versions, -, rfl⟩ := takeOver_eq_ok_iff.1 ht
    exact le_max_left _ _

/-- A number that is given out is that of a version. -/
theorem mem_numbers_of_given? (hgiven : h.given? e = some number) :
    number ∈ (h.edit e).numbers := by
  have hlast {m : VersionNumber} {dataset : Dataset} {description : String}
      (hm : (h.appendAs m dataset description).toOption.map (fun _ => m) = some number) :
      number ∈ ((h.appendAs m dataset description).toOption.getD h).numbers := by
    cases hok : h.appendAs m dataset description with
    | error fault => simp [hok, Except.toOption] at hm
    | ok h' =>
      obtain ⟨-, -, -, hnumbers, -⟩ := numbers_appendAs hok
      obtain rfl : m = number := by simpa [hok, Except.toOption] using hm
      show m ∈ h'.numbers
      rw [hnumbers]
      exact List.mem_append_right _ (List.mem_singleton_self _)
  cases e with
  | append dataset description => exact hlast hgiven
  | appendAs m dataset description => exact hlast hgiven
  | _ => simp [given?] at hgiven

/-! ### Runs -/

theorem highest_le_editAll (h : History) {edits : List Edit}
    (hreset : ∀ e ∈ edits, e.resets = false) : h.highest ≤ (h.editAll edits).highest := by
  induction edits generalizing h with
  | nil => exact Nat.le_refl _
  | cons e edits ih =>
    have hle := ih (h.edit e) fun e' he' => hreset e' (List.mem_cons_of_mem e he')
    exact (highest_le_edit h (hreset e List.mem_cons_self)).trans hle

/-- The upload is put in front of a version zero alone only after a number was given out. -/
def ZeroLate (h : History) (edits : List Edit) : Prop :=
  ∀ before e after, edits = before ++ e :: after →
    e.frontsZero = true → 0 < (h.editAll before).highest

/-- In a history that was started, a number is given out from the beginning. -/
theorem zeroLate_of_pos (hpos : 0 < h.highest) {edits : List Edit}
    (hreset : ∀ e ∈ edits, e.resets = false) : h.ZeroLate edits := by
  rintro before e after rfl -
  exact hpos.trans_le (highest_le_editAll h fun e' he' => hreset e' (List.mem_append_left _ he'))

theorem ZeroLate.append_left {before after : List Edit} (hz : h.ZeroLate (before ++ after)) :
    h.ZeroLate before := by
  rintro front e back rfl
  exact hz front e (back ++ after) (by simp)

theorem ZeroLate.tail {edits : List Edit} (hz : h.ZeroLate (e :: edits)) :
    (h.edit e).ZeroLate edits := by
  rintro front e' back rfl
  exact hz (e :: front) e' back rfl

/-- A series of edits that does not start over leaves a capped history so. -/
theorem Capped.editAll {edits : List Edit} (hc : h.Capped)
    (hreset : ∀ e ∈ edits, e.resets = false) (hz : h.ZeroLate edits) :
    (h.editAll edits).Capped := by
  -- on the edits, for any history to begin with
  induction edits generalizing h with
  | nil => exact hc
  | cons e edits ih =>
    have hc' := hc.edit (hreset e List.mem_cons_self) (hz [] e edits rfl)
    exact ih hc' (fun e' he' => hreset e' (List.mem_cons_of_mem e he')) hz.tail

/-- **Fresh numbers.** Since a history was started or cleared, any edits were made, but the upload
was not put in front of a version zero alone before anything else. The number that the next version
gets is greater than all numbers that any version had at any time in between, and than all that were
given to new versions. -/
theorem fresh_of_edits {h₀ : History} (hstart : h₀ = {} ∨ ∃ upload, h₀ = start upload)
    {edits : List Edit} (hreset : ∀ e ∈ edits, e.resets = false) (hz : h₀.ZeroLate edits)
    {dataset : Dataset} {description : String}
    (hgiven : (h₀.editAll edits).given? (.append dataset description) = some number) :
    ∀ before after, edits = before ++ after →
      (∀ n ∈ (h₀.editAll before).numbers, n < number) ∧
        ∀ e rest n, after = e :: rest → (h₀.editAll before).given? e = some n → n < number := by
  -- a new history is capped: it has no version, or only the upload
  have hc : h₀.Capped := by
    rcases hstart with rfl | ⟨upload, rfl⟩
    · exact fun n hn => absurd hn List.not_mem_nil
    · exact (Sound.start upload).le_highest
  obtain rfl : (h₀.editAll edits).nextNumber = number := by
    obtain ⟨-, -, hnumber⟩ := Option.map_eq_some_iff.1 hgiven
    exact hnumber
  have hheld : ∀ before after, edits = before ++ after →
      ∀ n ∈ (h₀.editAll before).numbers, n < (h₀.editAll edits).nextNumber := by
    rintro before after rfl n hn
    -- it was capped then, and the cap has not been lowered since
    have hcapped := hc.editAll (fun e he => hreset e (List.mem_append_left _ he)) hz.append_left
    have hle := highest_le_editAll (h₀.editAll before) fun e he =>
      hreset e (List.mem_append_right before he)
    rw [editAll_append]
    exact Nat.lt_succ_of_le ((hcapped n hn).trans hle)
  intro before after hedits
  refine ⟨hheld before after hedits, ?_⟩
  rintro e rest n rfl hn
  -- what was given out belongs to a version of the history after that edit
  refine hheld (before ++ [e]) rest (by simp [hedits]) n ?_
  rw [editAll_append]
  exact mem_numbers_of_given? hn

/-- The edits of a table whose second and ninth version are dropped and taken out, and which then
takes over a listing of nothing but a version zero. -/
def forgetfulEdits : List Edit :=
  [.append {} "a", .older, .appendAs 9 {} "b", .remove ⟨9, true⟩,
    .takeOver [⟨[], "c", true, 0⟩] (some {})]

/-- The next number of that table is above the ninth, which no version has any more. -/
theorem fresh_of_forgetfulEdits :
    (∀ e ∈ forgetfulEdits, e.resets = false) ∧ (start {}).ZeroLate forgetfulEdits ∧
      ((start {}).editAll forgetfulEdits).numbers = [1, 0] ∧
      ((start {}).editAll forgetfulEdits).given? (.append {} "d") = some 10 ∧
      ∀ n ∈ ((start {}).editAll (forgetfulEdits.take 3)).numbers, n < 10 := by
  have hreset : ∀ e ∈ forgetfulEdits, e.resets = false := by simp [forgetfulEdits, Edit.resets]
  have hz : (start {}).ZeroLate forgetfulEdits := zeroLate_of_pos Nat.zero_lt_one hreset
  have hgiven : ((start {}).editAll forgetfulEdits).given? (.append {} "d") = some 10 := by
    decide +kernel
  refine ⟨hreset, hz, by decide +kernel, hgiven, ?_⟩
  exact (fresh_of_edits (.inr ⟨{}, rfl⟩) hreset hz hgiven _ _
    (List.take_append_drop 3 forgetfulEdits).symm).1

/-- A listing of nothing but a version zero as the first thing that a new history takes in: the
number of the upload in front of it is given out once more. -/
theorem number_repeated_of_zeroFirst :
    ∃ edits : List Edit, (∀ e ∈ edits, e.resets = false) ∧
      (editAll {} edits).numbers = [1, 0] ∧
      (editAll {} edits).given? (.append {} "next") = some 1 :=
  ⟨[.takeOver [⟨[], "zero", true, 0⟩] (some {})], by simp [Edit.resets], by decide +kernel,
    by decide +kernel⟩

end Tabula.History
