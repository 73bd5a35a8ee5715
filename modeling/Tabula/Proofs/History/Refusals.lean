import Mathlib.Data.List.Duplicate
import Mathlib.Order.Bounds.Defs
import Tabula.Proofs.History.Soundness

/-!
# Refused edits

An edit of a history is refused for a reason that can be read off the history and the edit, and
where two reasons apply the one that is given is fixed (`refuses_iff_of_edits`). The inversion
lemmas for refusals stand beside those for success in `Steps`: each of them says when an edit is
refused and with which fault, and holds of any history.

Only one reason takes an argument. A listing is sorted before it is scanned for a number that stands
twice in a row, so the number that is found is the least of those that are listed more than once, in
whatever order they were listed (`repeated?_eq_some_iff`).

What the general lemmas leave open is whether a history without a version on display is empty. It
is, after any series of edits: `Placed` needs nothing of a listing that is taken over, so it holds
even of histories whose numbers make no sense.
-/

namespace Tabula.History

variable {h h' : History} {number : VersionNumber} {fault : HistoryFault}

/-- The edit is refused with this fault. -/
def Refuses (h : History) : Edit → HistoryFault → Prop
  | .append dataset description, fault => h.append dataset description = .error fault
  | .appendAs number dataset description, fault =>
    h.appendAs number dataset description = .error fault
  | .planRemoval number, fault => h.planRemoval number = .error fault
  | .remove removal, fault => h.remove removal = .error fault
  | .takeOver entries upload, fault => h.takeOver entries upload = .error fault
  | .start _, _ | .older, _ | .newer, _ | .clear, _ => False

/-- An edit that is refused changes nothing. -/
theorem edit_eq_of_refuses {e : Edit} (hr : h.Refuses e fault) : h.edit e = h := by
  have hkept {r : Except HistoryFault History} (h' : r = .error fault) : r.toOption.getD h = h := by
    rw [h']
    rfl
  cases e with
  | append | appendAs | remove | takeOver => exact hkept hr
  | planRemoval => rfl
  | start | older | newer | clear => exact absurd hr id

/-! ### New versions and deletions -/

theorem appendAs_eq_error_iff {dataset : Dataset} {description : String} :
    h.appendAs number dataset description = .error fault ↔
      (h.displayed? = none ∧ fault = .empty) ∨
        ∃ newest, h.displayed? = some newest ∧ number ≤ newest.number ∧
          fault = .outOfOrder number newest.number := by
  unfold appendAs
  cases h.displayed? with
  | none => simp [eq_comm (b := fault)]
  | some newest =>
    by_cases hle : number ≤ newest.number <;> simp [hle, eq_comm (b := fault)]

/-- The version of a number is found exactly if the number is one of the line. -/
theorem version?_eq_none_iff : h.version? number = none ↔ number ∉ h.numbers := by
  simp [version?, numbers]

theorem planRemoval_eq_error_iff :
    h.planRemoval number = .error fault ↔
      (h.versions = [] ∧ fault = .empty) ∨
        (h.versions ≠ [] ∧ number = uploadNumber ∧ fault = .uploadProtected number) ∨
          (h.versions ≠ [] ∧ number ≠ uploadNumber ∧ number ∉ h.numbers ∧
            fault = .unknownNumber number) := by
  rw [← version?_eq_none_iff, planRemoval]
  by_cases hempty : h.versions = []
  · simp [isEmpty, hempty, eq_comm (b := fault)]
  by_cases hupload : number = uploadNumber
  · simp [isEmpty, hempty, hupload, eq_comm (b := fault)]
  cases h.version? number <;> simp [isEmpty, hempty, hupload, eq_comm (b := fault)]

/-! ### Listings -/

/-- Nothing stands twice in a line of at most one number. -/
theorem not_duplicate_of_length_le_one {l : List VersionNumber}
    (hl : ∀ a b l', l ≠ a :: b :: l') (n : VersionNumber) : ¬ l.Duplicate n := by
  match l with
  | [] => exact List.not_duplicate_nil n
  | [a] => exact List.not_duplicate_singleton n a
  | a :: b :: l' => exact absurd rfl (hl a b l')

/-- In a line that does not decrease, the first number that stands twice in a row is the least one
that stands twice at all. -/
theorem repeated?_eq_some_iff {l : List VersionNumber} (hl : l.Pairwise (· ≤ ·)) :
    repeated? l = some number ↔ IsLeast {n | l.Duplicate n} number := by
  fun_induction repeated? l with
  | case1 a l =>
    obtain ⟨ha, -⟩ := List.pairwise_cons.1 hl
    have hleast : IsLeast {n | (a :: a :: l).Duplicate n} a := by
      refine ⟨List.Mem.duplicate_cons_self List.mem_cons_self, ?_⟩
      -- whatever stands twice stands behind the first place, so it is no less
      intro n hn
      rcases List.duplicate_cons_iff.1 hn with ⟨rfl, -⟩ | hn
      · exact Nat.le_refl _
      · exact ha n hn.mem
    constructor
    · intro h
      obtain rfl := Option.some.inj h
      exact hleast
    · intro h
      rw [hleast.unique h]
  | case2 a b l hab ih =>
    obtain ⟨ha, hl⟩ := List.pairwise_cons.1 hl
    -- the first number is less than the second, hence than all others, and stands only once
    have hnot : a ∉ b :: l := by
      intro hmem
      have hle : b ≤ a := by
        rcases List.mem_cons.1 hmem with rfl | hmem
        · exact Nat.le_refl _
        · exact (List.pairwise_cons.1 hl).1 a hmem
      exact hab (Nat.le_antisymm (ha b List.mem_cons_self) hle)
    have hiff (n : VersionNumber) : (a :: b :: l).Duplicate n ↔ (b :: l).Duplicate n := by
      rw [List.duplicate_cons_iff]
      constructor
      · rintro (⟨rfl, hn⟩ | hn)
        · exact absurd hn hnot
        · exact hn
      · exact Or.inr
    simp only [hiff]
    exact ih hl
  | case3 l hshort =>
    have hnone := not_duplicate_of_length_le_one hshort
    constructor
    · intro h
      exact absurd h (by simp)
    · intro h
      exact absurd h.1 (hnone number)

theorem repeated?_eq_none_iff {l : List VersionNumber} (hl : l.Pairwise (· ≤ ·)) :
    repeated? l = none ↔ l.Nodup := by
  constructor
  · intro h
    exact (pairwise_lt_of_repeated?_eq_none hl h).imp fun hlt => Nat.ne_of_lt hlt
  · intro h
    refine Option.eq_none_iff_forall_ne_some.2 fun n hn => ?_
    exact List.nodup_iff_forall_not_duplicate.1 h n ((repeated?_eq_some_iff hl).1 hn).1

/-- The upload stands in front of a listing exactly if its number is the least that is listed. -/
theorem any_isUpload_head?_listed (entries : List Entry) :
    (listed entries).head?.any Version.isUpload = true ↔
      (entries.map Entry.version).min? = some uploadNumber := by
  have hsorted := pairwise_le_listed entries
  have hperm := map_number_listed_perm entries
  have hhead : (listed entries).head?.any Version.isUpload = true ↔
      ((listed entries).map Version.number).head? = some uploadNumber := by
    rw [List.head?_map]
    cases (listed entries).head? <;> simp [Version.isUpload]
  rw [hhead, List.min?_eq_some_iff]
  -- what is the least does not depend on the order, and in a sorted line it stands in front
  simp only [← hperm.mem_iff]
  generalize (listed entries).map Version.number = l at hsorted
  cases l with
  | nil => simp
  | cons a l =>
    obtain ⟨ha, -⟩ := List.pairwise_cons.1 hsorted
    constructor
    · intro h
      obtain rfl := Option.some.inj h
      refine ⟨List.mem_cons_self, fun b hb => ?_⟩
      rcases List.mem_cons.1 hb with rfl | hb
      · exact Nat.le_refl _
      · exact ha b hb
    · rintro ⟨hmem, hle⟩
      refine congrArg some (Nat.le_antisymm ?_ (hle a List.mem_cons_self))
      rcases List.mem_cons.1 hmem with heq | hmem
      · exact Nat.le_of_eq heq.symm
      · exact ha _ hmem

theorem withUpload_eq_error_iff {versions : List Version} {upload : Option Dataset} :
    withUpload versions upload = .error fault ↔
      versions.head?.any Version.isUpload = false ∧ upload = none ∧ fault = .uploadMissing := by
  unfold withUpload
  cases versions.head?.any Version.isUpload with
  | true => simp
  | false => cases upload <;> simp [eq_comm (b := fault)]

/-- A listing is refused for the least number that it repeats, and else for want of the upload. -/
theorem takeOver_eq_error_iff {entries : List Entry} {upload : Option Dataset} :
    h.takeOver entries upload = .error fault ↔
      (∃ n, IsLeast {n | (entries.map Entry.version).Duplicate n} n ∧
          fault = .repeatedNumber n) ∨
        ((entries.map Entry.version).Nodup ∧
          (entries.map Entry.version).min? ≠ some uploadNumber ∧ upload = none ∧
            fault = .uploadMissing) := by
  have hsorted := pairwise_le_listed entries
  have hperm := map_number_listed_perm entries
  have hduplicate (n : VersionNumber) : (entries.map Entry.version).Duplicate n ↔
      ((listed entries).map Version.number).Duplicate n := by
    rw [List.duplicate_iff_two_le_count, List.duplicate_iff_two_le_count, hperm.count_eq]
  rw [← hperm.nodup_iff, ← repeated?_eq_none_iff hsorted, Ne, ← any_isUpload_head?_listed,
    Bool.not_eq_true]
  simp only [hduplicate, ← repeated?_eq_some_iff hsorted]
  -- the scan comes first, so without the upload only a listing that passed it is refused
  cases hr : repeated? ((listed entries).map Version.number) with
  | some n => simp [takeOver_of_repeated hr, eq_comm (b := fault)]
  | none =>
    rw [← withUpload_eq_error_iff, takeOver_of_not_repeated hr]
    cases withUpload (listed entries) upload <;> simp [Except.map, eq_comm (b := fault)]

/-! ### Runs -/

/-- **One edit.** An edit leaves a history that is empty or has a version on display so, whatever a
listing says. -/
theorem edit_eq_empty_or_placed (hp : h = {} ∨ h.Placed) (e : Edit) :
    h.edit e = {} ∨ (h.edit e).Placed := by
  have hok {r : Except HistoryFault History} (hr : ∀ h', r = .ok h' → h'.Placed) :
      r.toOption.getD h = {} ∨ (r.toOption.getD h).Placed :=
    of_attempt (P := fun h => h = {} ∨ h.Placed) hp fun h' hok => .inr (hr h' hok)
  cases e with
  | start dataset => exact .inr (.start dataset)
  | clear => exact .inl rfl
  | planRemoval number => exact hp
  | append dataset description => exact hok fun h' => .appendAs
  | appendAs number dataset description => exact hok fun h' => .appendAs
  | takeOver entries upload => exact hok fun h' => .takeOver
  -- in an empty history there is no version to go to or to take out
  | older =>
    rcases hp with rfl | hp
    · exact .inl rfl
    · exact .inr (of_move (P := Placed) hp fun h' hok => hp.older? hok)
  | newer =>
    rcases hp with rfl | hp
    · exact .inl rfl
    · exact .inr (of_move (P := Placed) hp fun h' hok => hp.newer? hok)
  | remove removal =>
    rcases hp with rfl | hp
    · exact .inl rfl
    · exact .inr (of_attempt (P := Placed) hp fun h' hok => hp.remove hok)

theorem editAll_eq_empty_or_placed (hp : h = {} ∨ h.Placed) (edits : List Edit) :
    h.editAll edits = {} ∨ (h.editAll edits).Placed := by
  induction edits generalizing h with
  | nil => exact hp
  | cons e edits ih => exact ih (edit_eq_empty_or_placed hp e)

/-- A history that has versions has one on display. -/
theorem displayed?_eq_none_iff_of_edits (edits : List Edit) :
    (editAll {} edits).displayed? = none ↔ (editAll {} edits).versions = [] := by
  rcases editAll_eq_empty_or_placed (.inl rfl) edits with hempty | hplaced
  · rw [hempty]
    simp [displayed?]
  · obtain ⟨v, hv⟩ := hplaced.exists_displayed?
    have hne : (editAll {} edits).versions ≠ [] := by
      intro hnil
      rw [displayed?, hnil] at hv
      exact absurd hv (by simp)
    simp [hv, hne]

/-- **Refusals.** After any series of edits, a new version is refused exactly if the history is
empty, or else if its number does not lie above that of the version on display. A deletion is
planned unless the history is empty, or else the number is that of the upload, or else no version
has it. A version is taken out unless none has the number, or the first one has it. A listing is
taken over unless it repeats a number, and then the least such number is given, or else its least
number is not that of the upload and no copy of the upload is at hand. An edit that is refused
leaves the history as it is. -/
theorem refuses_iff_of_edits (edits : List Edit) :
    let h := editAll {} edits
    (∀ number dataset description fault,
      h.Refuses (.appendAs number dataset description) fault ↔
        (h.versions = [] ∧ fault = .empty) ∨
          ∃ newest, h.displayed? = some newest ∧ number ≤ newest.number ∧
            fault = .outOfOrder number newest.number) ∧
    (h.versions ≠ [] ↔ ∃ newest, h.displayed? = some newest) ∧
    (∀ number fault, h.Refuses (.planRemoval number) fault ↔
      (h.versions = [] ∧ fault = .empty) ∨
        (h.versions ≠ [] ∧ number = uploadNumber ∧ fault = .uploadProtected number) ∨
          (h.versions ≠ [] ∧ number ≠ uploadNumber ∧ number ∉ h.numbers ∧
            fault = .unknownNumber number)) ∧
    (∀ removal fault, h.Refuses (.remove removal) fault ↔
      (removal.number ∉ h.numbers ∧ fault = .unknownNumber removal.number) ∨
        (h.numbers.head? = some removal.number ∧ fault = .uploadProtected removal.number)) ∧
    (∀ entries upload fault, h.Refuses (.takeOver entries upload) fault ↔
      (∃ n, IsLeast {n | (entries.map Entry.version).Duplicate n} n ∧
          fault = .repeatedNumber n) ∨
        ((entries.map Entry.version).Nodup ∧
          (entries.map Entry.version).min? ≠ some uploadNumber ∧ upload = none ∧
            fault = .uploadMissing)) ∧
    (∀ e fault, h.Refuses e fault → h.edit e = h) := by
  intro h
  have hdisplayed : h.displayed? = none ↔ h.versions = [] := displayed?_eq_none_iff_of_edits edits
  refine ⟨?_, ?_, ?_, ?_, ?_, ?_⟩
  · intro number dataset description fault
    rw [← hdisplayed]
    exact appendAs_eq_error_iff
  · rw [← Option.ne_none_iff_exists', Ne, Ne, hdisplayed]
  · intro number fault
    exact planRemoval_eq_error_iff
  · intro removal fault
    exact remove_eq_error_iff
  · intro entries upload fault
    exact takeOver_eq_error_iff
  · intro e fault
    exact edit_eq_of_refuses

/-- Of a listing in no order that repeats two numbers, the lesser one is told, though it comes
second. -/
example : (start {}).takeOver
    [⟨[], "a", false, 7⟩, ⟨[], "b", false, 3⟩, ⟨[], "c", false, 7⟩, ⟨[], "d", true, 3⟩] none =
      .error (.repeatedNumber 3) := by
  cbv

end Tabula.History
