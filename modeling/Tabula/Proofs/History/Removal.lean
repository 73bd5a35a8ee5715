import Tabula.Proofs.History.Freshness
import Tabula.Proofs.History.Timeline

/-!
# What a removal leaves

The version that is taken out of a history may stand before the one on display, behind it or in its
place, and it may stand so to the one that is marked as current. In all nine cases the other
versions stay as they are, and the version before takes over what went with it, be it the display or
the mark (`kept_of_remove`).

The line is cut in front of the version before the one that goes, so that no case of the mark needs
a position (`versions_without`). The display is a position, and it follows its version because the
line behind the gap moves up by one (`map_displayed?_without`).
-/

namespace Tabula.History

variable {h h' : History} {before after : List Version} {p v : Version}

/-! ### The line -/

theorem markAt_append_cons (before after : List Version) (v : Version) :
    markAt (before ++ v :: after) before.length =
      before ++ { v with isCurrent := true } :: after := by
  induction before with
  | nil => simp [markAt]
  | cons w before ih => simpa [markAt] using ih

/-- Of the versions that are left, only the one before the gap may change, if it gets the mark. -/
theorem versions_without (hline : h.versions = before ++ p :: v :: after) (wasCurrent : Bool) :
    (h.without (before.length + 1) wasCurrent).versions =
      before ++ { p with isCurrent := p.isCurrent || wasCurrent } :: after := by
  have herase : h.versions.eraseIdx (before.length + 1) = before ++ p :: after := by
    rw [hline, List.eraseIdx_append_of_length_le (Nat.le_add_right _ 1), Nat.add_sub_cancel_left]
    rfl
  cases wasCurrent with
  | false => simp [without, herase]
  | true => simp [without, herase, markAt_append_cons]

theorem getElem?_line (hline : h.versions = before ++ p :: v :: after) :
    h.versions[before.length + 1]? = some v := by
  rw [hline, List.getElem?_append_right (Nat.le_add_right _ 1), Nat.add_sub_cancel_left]
  rfl

theorem map_number_line (hline : h.versions = before ++ p :: v :: after) :
    h.numbers = before.map Version.number ++ p.number :: v.number :: after.map Version.number := by
  simp [numbers, hline]

/-- Where no number stands twice, a version is found at its place in the line. -/
theorem findIdx?_number (hs : h.Sound) (hline : h.versions = before ++ p :: v :: after) :
    h.versions.findIdx? (fun w => w.number == v.number) = some (before.length + 1) := by
  have hnodup := hs.nodup_numbers
  rw [map_number_line hline, List.nodup_append] at hnodup
  obtain ⟨-, hpv, hbefore⟩ := hnodup
  have hnone : before.findIdx? (fun w => w.number == v.number) = none := by
    refine List.findIdx?_eq_none_iff.2 fun w hw => beq_eq_false_iff_ne.2 ?_
    exact hbefore _ (List.mem_map_of_mem hw) _ (List.mem_cons_of_mem _ List.mem_cons_self)
  have hp : p.number ≠ v.number := fun heq =>
    (List.nodup_cons.1 hpv).1 (heq ▸ List.mem_cons_self)
  rw [hline, List.findIdx?_append, hnone, List.findIdx?_cons, List.findIdx?_cons]
  simp [hp, Nat.add_comm]

/-- Any version but the first can be taken out. -/
theorem remove_of_line (hs : h.Sound) (hline : h.versions = before ++ p :: v :: after)
    (wasCurrent : Bool) :
    h.remove ⟨v.number, wasCurrent⟩ = .ok (h.without (before.length + 1) v.isCurrent) :=
  remove_eq_ok_iff.2 ⟨_, v, findIdx?_number hs hline, getElem?_line hline, rfl⟩

/-! ### The display and the mark -/

/-- The version on display is the same as before, or the one before the gap if it was in the gap. -/
theorem map_displayed?_without (h : History) (i : Nat) (wasCurrent : Bool) :
    (h.without (i + 1) wasCurrent).displayed?.map Version.edition =
      (if h.position = i + 1 then h.versions[i]? else h.displayed?).map Version.edition := by
  have hat (h : History) (j : Nat) : h.versions[j]?.map Version.edition = h.editions[j]? :=
    List.getElem?_map.symm
  have hposition : (h.without (i + 1) wasCurrent).position =
      if i + 1 ≤ h.position then h.position - 1 else h.position := rfl
  rw [displayed?, displayed?, hat, editions_of_without, List.getElem?_eraseIdx, hposition,
    apply_ite (Option.map Version.edition), hat, hat]
  rcases Nat.lt_trichotomy h.position (i + 1) with hlt | heq | hgt
  · rw [if_neg (Nat.not_le.2 hlt), if_pos hlt, if_neg (Nat.ne_of_lt hlt)]
  · rw [if_pos (Nat.le_of_eq heq.symm), if_pos (by omega), if_pos heq, heq, Nat.add_sub_cancel]
  · -- the line behind the gap moves up, and the display with it
    have hback : h.position - 1 + 1 = h.position := Nat.sub_add_cancel (Nat.zero_lt_of_lt hgt)
    rw [if_pos (Nat.le_of_lt hgt), if_neg (by omega), hback, if_neg (Nat.ne_of_gt hgt)]

/-- A version is on display if the position is its place in the line. -/
theorem displayed?_eq_some_iff (hs : h.Sound) (hline : h.versions = before ++ p :: v :: after) :
    h.displayed? = some v ↔ h.position = before.length + 1 := by
  have hnodup : h.versions.Nodup := hs.nodup_numbers.of_map _
  rw [displayed?, ← getElem?_line hline, List.getElem?_inj hs.position_lt hnodup]

/-- The mark stays where it is, or goes to the version before the gap if it was in the gap. -/
theorem map_current?_without (hs : h.Sound)
    (hs' : (h.without (before.length + 1) v.isCurrent).Sound)
    (hline : h.versions = before ++ p :: v :: after) :
    (h.without (before.length + 1) v.isCurrent).current?.map Version.edition =
      (if h.current? = some v then some p else h.current?).map Version.edition := by
  have hversions := versions_without hline v.isCurrent
  have hv : v ∈ h.versions := List.mem_of_getElem? (getElem?_line hline)
  by_cases hcurrent : v.isCurrent = true
  · -- the version before has the only mark of the new line
    have hp : { p with isCurrent := true } ∈
        (h.without (before.length + 1) v.isCurrent).versions := by
      rw [hversions, hcurrent, Bool.or_true]
      exact List.mem_append_cons_self
    rw [if_pos (hs.toPlaced.current?_eq hv hcurrent), hs'.toPlaced.current?_eq hp rfl]
    rfl
  · -- what is marked is another version, which is not touched
    have hne : h.current? ≠ some v := fun h => hcurrent (List.find?_some h)
    rw [if_neg hne, current?, current?, hversions, hline, Bool.eq_false_iff.2 hcurrent,
      Bool.or_false, List.find?_append, List.find?_append, List.find?_cons, List.find?_cons,
      List.find?_cons_of_neg hcurrent]

/-! ### Removals in runs -/

/-- Since no edit but a new start lowers the highest number, all that will be given out lies above
it. -/
theorem lt_of_given?_append {later : List Edit} {dataset : Dataset} {description : String}
    {number : VersionNumber} (hreset : ∀ e ∈ later, e.resets = false)
    (hgiven : (h.editAll later).given? (.append dataset description) = some number) :
    h.highest < number := by
  obtain ⟨-, -, rfl⟩ := Option.map_eq_some_iff.1 hgiven
  exact Nat.lt_succ_of_le (highest_le_editAll h hreset)

/-- **Removal.** After any series of edits whose listings count from one, any version but the first
can be taken out. All others keep their order, their numbers, their tables and their descriptions.
The version on display stays on display and the current one stays current, and only where the
version that goes was the one or the other, the version before takes its place. The highest number
stays the same, so no version that is added later gets the number that was freed, until the history
starts over. -/
theorem kept_of_remove (edits : List Edit) (he : ∀ e ∈ edits, e.CountsFromOne)
    (hline : (editAll {} edits).versions = before ++ p :: v :: after) (wasCurrent : Bool) :
    let h := editAll {} edits
    ∃ h', h.remove ⟨v.number, wasCurrent⟩ = .ok h' ∧ h'.Sound ∧
      h'.editions = (before ++ p :: after).map Version.edition ∧
      h'.displayed?.map Version.edition =
        (if h.displayed? = some v then some p else h.displayed?).map Version.edition ∧
      h'.current?.map Version.edition =
        (if h.current? = some v then some p else h.current?).map Version.edition ∧
      h'.highest = h.highest ∧
      ∀ later : List Edit, (∀ e ∈ later, e.resets = false) → ∀ dataset description number,
        (h'.editAll later).given? (.append dataset description) = some number →
          v.number < number := by
  intro h
  have hs : h.Sound := (empty_or_sound_of_edits edits he).resolve_left fun hempty => by
    rw [hempty] at hline
    simp at hline
  have hok := remove_of_line hs hline wasCurrent
  have hs' := hs.remove hok
  refine ⟨_, hok, hs', ?_, ?_, map_current?_without hs hs' hline, rfl, ?_⟩
  · rw [editions, versions_without hline, List.map_append, List.map_append]
    rfl
  · have hp : h.versions[before.length]? = some p := by
      rw [hline, List.getElem?_append_right (Nat.le_refl _), Nat.sub_self]
      rfl
    simp only [map_displayed?_without, hp, displayed?_eq_some_iff hs hline]
  · -- the highest number is above the one that is freed, and later edits do not lower it
    intro later hreset dataset description number hgiven
    have hv : v.number ∈ h.numbers :=
      List.mem_map_of_mem (List.mem_of_getElem? (getElem?_line hline))
    have hlt := lt_of_given?_append hreset hgiven
    exact Nat.lt_of_le_of_lt (hs.le_highest _ hv) hlt

/-- The edits of a table that is filtered twice. -/
def filteredTwice : List Edit :=
  [.start {}, .append {} "a", .append {} "b"]

/-- The result of the second filter is on display and current. Without it, that of the first one is,
and a third filter is not numbered as the second one was. -/
theorem kept_of_remove_newest :
    (∀ e ∈ filteredTwice, e.CountsFromOne) ∧
      (editAll {} filteredTwice).versions =
        [.ofUpload {} false] ++ ⟨2, {}, "a", false⟩ :: ⟨3, {}, "b", true⟩ :: [] ∧
      ∃ h', (editAll {} filteredTwice).remove ⟨3, true⟩ = .ok h' ∧
        h'.displayed?.map Version.edition = some ⟨2, {}, "a"⟩ ∧
        h'.current?.map Version.edition = some ⟨2, {}, "a"⟩ ∧
        ∀ number, h'.given? (.append {} "c") = some number → 3 < number := by
  have he : ∀ e ∈ filteredTwice, e.CountsFromOne := by
    simp [filteredTwice, Edit.CountsFromOne]
  have hline : (editAll {} filteredTwice).versions =
      [.ofUpload {} false] ++ ⟨2, {}, "a", false⟩ :: ⟨3, {}, "b", true⟩ :: [] := by
    decide
  have hshown : (editAll {} filteredTwice).displayed? = some ⟨3, {}, "b", true⟩ ∧
      (editAll {} filteredTwice).current? = some ⟨3, {}, "b", true⟩ := by
    decide
  obtain ⟨h', hok, -, -, hdisplayed, hcurrent, -, hlater⟩ :=
    kept_of_remove filteredTwice he hline true
  rw [if_pos hshown.1] at hdisplayed
  rw [if_pos hshown.2] at hcurrent
  exact ⟨he, hline, h', hok, hdisplayed, hcurrent, fun number hgiven =>
    hlater [] (List.forall_mem_nil _) {} "c" number hgiven⟩

end Tabula.History
