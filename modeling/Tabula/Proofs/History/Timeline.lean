import Tabula.Proofs.History.Soundness

/-!
# The timeline of a history

Without the service, four things are done to a history: a version is added, the display moves back
or forward, and a version is taken out. A `Timeline` tells all four without positions. It has the
version on display between those before it and those after it, nearest first on either side, and it
knows versions only by what never changes of them, so that nothing but the mark of the current
version is left out (`Edition`).

`timeline_of_localEdits` says that a history and its timeline cannot be told apart by these edits,
whatever series of them came before: they succeed and fail together, with the same faults, and the
results belong together again. The flat line of versions with a position in it is what every
argument here is about (`timeline?_eq_some_iff`), and removal is the one edit where it matters on
which side of the position a version stands (`timeline?_without`).

What a number once stood for it stands for in all later histories (`Precedes`), since added versions
get numbers above all that were given out.
-/

namespace Tabula

/-- What never changes of a version. -/
structure Edition where
  /-- The number of the version. -/
  number : VersionNumber
  /-- The table. -/
  dataset : Dataset
  /-- How the version came about. -/
  description : String

/-- A version without the mark of the current one. -/
def Version.edition (v : Version) : Edition where
  number := v.number
  dataset := v.dataset
  description := v.description

/-- A version on display, what came before it and what came after it. -/
structure Timeline where
  /-- The versions before, the nearest first. -/
  past : List Edition
  /-- The version on display. -/
  present : Edition
  /-- The versions after, the nearest first. -/
  future : List Edition
  /-- The highest number that was ever given out. -/
  highest : VersionNumber

/-- What may be done to a history without the service. -/
inductive LocalEdit where
  /-- Adds a version under the next free number. -/
  | append (dataset : Dataset) (description : String)
  /-- Displays the version before. -/
  | older
  /-- Displays the version after. -/
  | newer
  /-- Takes a version out. -/
  | remove (removal : Removal)

/-- The edit of a history. -/
def LocalEdit.toEdit : LocalEdit → History.Edit
  | append dataset description => .append dataset description
  | older => .older
  | newer => .newer
  | remove removal => .remove removal

namespace Timeline

/-- All versions, oldest first. -/
def editions (t : Timeline) : List Edition :=
  t.past.reverse ++ t.present :: t.future

/-- The timeline of an upload. -/
def start (dataset : Dataset) : Timeline where
  past := []
  present := { number := uploadNumber, dataset, description := uploadDescription }
  future := []
  highest := uploadNumber

/-- The present goes to the past, a new version takes its place, and the future is gone. -/
def append (t : Timeline) (dataset : Dataset) (description : String) : Timeline where
  past := t.present :: t.past
  present := { number := t.highest + 1, dataset, description }
  future := []
  highest := t.highest + 1

/-- The last of the past becomes the present, if there is a past. -/
def older? (t : Timeline) : Option Timeline :=
  match t.past with
  | [] => none
  | e :: past => some { t with past, present := e, future := t.present :: t.future }

/-- The first of the future becomes the present, if there is a future. -/
def newer? (t : Timeline) : Option Timeline :=
  match t.future with
  | [] => none
  | e :: future => some { t with past := t.present :: t.past, present := e, future }

/-- A version goes from the past or the future; in the place of the present comes the last of the
past. -/
def without (t : Timeline) (number : VersionNumber) : Timeline :=
  if t.present.number = number then
    match t.past with
    | [] => t
    | e :: past => { t with past, present := e }
  else
    { t with
      past := t.past.filter (·.number != number)
      future := t.future.filter (·.number != number) }

/-- Takes out any version but the oldest. -/
def remove (t : Timeline) (number : VersionNumber) : Except HistoryFault Timeline :=
  if number ∉ t.editions.map Edition.number then .error (.unknownNumber number)
  else if (t.editions.map Edition.number).head? = some number then .error (.uploadProtected number)
  else .ok (t.without number)

/-- The timeline after an edit. An edit that is refused leaves it as it was. -/
def edit (t : Timeline) : LocalEdit → Timeline
  | .append dataset description => t.append dataset description
  | .older => t.older?.getD t
  | .newer => t.newer?.getD t
  | .remove removal => (t.remove removal.number).toOption.getD t

/-- The timeline after a series of edits. -/
def editAll (t : Timeline) (edits : List LocalEdit) : Timeline :=
  edits.foldl edit t

end Timeline

namespace History

/-- What never changes of the versions, oldest version first. -/
def editions (h : History) : List Edition :=
  h.versions.map Version.edition

/-- The timeline of a history with a version on display. -/
def timeline? (h : History) : Option Timeline :=
  h.displayed?.map fun v =>
    { past := ((h.versions.take h.position).map Version.edition).reverse
      present := v.edition
      future := (h.versions.drop (h.position + 1)).map Version.edition
      highest := h.highest }

variable {h h' : History} {t : Timeline}

@[simp] theorem map_number_editions (h : History) :
    h.editions.map Edition.number = h.numbers := by
  rw [editions, List.map_map]
  rfl

theorem editions_of_appendAs {number : VersionNumber} {dataset : Dataset} {description : String}
    (hok : h.appendAs number dataset description = .ok h') :
    h'.editions = h.editions.take (h.position + 1) ++ [⟨number, dataset, description⟩] :=
  (map_appendAs (g := Version.edition) (fun _ _ => rfl) hok).1

theorem editions_of_without (h : History) (i : Nat) (wasCurrent : Bool) :
    (h.without i wasCurrent).editions = h.editions.eraseIdx i :=
  map_without (fun _ _ => rfl) h i wasCurrent

/-- A history has a timeline if that has the versions of the history, as many of them before the
present as the position says. -/
theorem timeline?_eq_some_iff :
    h.timeline? = some t ↔
      h.editions = t.editions ∧ h.position = t.past.length ∧ h.highest = t.highest := by
  obtain ⟨past, present, future, highest⟩ := t
  simp only [timeline?, displayed?, editions, Timeline.editions, Option.map_eq_some_iff,
    Timeline.mk.injEq]
  constructor
  · -- the line is what stands before the position, the version there, and what comes behind
    rintro ⟨v, hv, rfl, rfl, rfl, rfl⟩
    obtain ⟨hlt, rfl⟩ := List.getElem?_eq_some_iff.1 hv
    refine ⟨?_, by simp [Nat.le_of_lt hlt], rfl⟩
    rw [List.reverse_reverse, ← List.map_cons, ← List.map_append, List.getElem_cons_drop,
      List.take_append_drop]
  · -- the length of the past says where to cut the line
    rintro ⟨hline, hpos, hhigh⟩
    have hlen : h.position = past.reverse.length := by rw [hpos, List.length_reverse]
    have hat : h.versions[h.position]?.map Version.edition = some present := by
      rw [← List.getElem?_map, hline, hlen, List.getElem?_append_right (Nat.le_refl _),
        Nat.sub_self, List.getElem?_cons_zero]
    obtain ⟨v, hv, hpresent⟩ := Option.map_eq_some_iff.1 hat
    refine ⟨v, hv, ?_, hpresent, ?_, hhigh⟩
    · rw [List.map_take, hline, hlen, List.take_left, List.reverse_reverse]
    · rw [List.map_drop, hline, hlen, ← List.drop_drop, List.drop_left]
      rfl

/-! ### One edit -/

theorem timeline?_start (dataset : Dataset) : (start dataset).timeline? = some (.start dataset) :=
  rfl

theorem timeline?_older (ht : h.timeline? = some t) :
    h.older?.map timeline? = t.older?.map some := by
  obtain ⟨hline, hpos, hhigh⟩ := timeline?_eq_some_iff.1 ht
  have hne : h.versions ≠ [] := fun hnil => by
    simp [editions, hnil, Timeline.editions] at hline
  unfold Timeline.older?
  cases hpast : t.past with
  | nil =>
    -- the position is that of the first version
    have hnone : h.older? = none := by
      rw [Option.eq_none_iff_forall_not_mem]
      intro h' hh'
      have hlt := (older?_eq_some_iff.1 hh').2.1
      rw [hpos, hpast] at hlt
      exact Nat.lt_irrefl 0 hlt
    rw [hnone]
    rfl
  | cons e past =>
    have hpos' : h.position = past.length + 1 := by rw [hpos, hpast, List.length_cons]
    rw [older?_eq_some_iff.2 ⟨hne, hpos' ▸ Nat.succ_pos _, rfl⟩, Option.map_some,
      Option.map_some, Option.some_inj, timeline?_eq_some_iff]
    -- the line is the same, only read from one place further left
    refine ⟨?_, by rw [hpos']; rfl, hhigh⟩
    rw [Timeline.editions, hpast] at hline
    simpa [Timeline.editions, editions] using hline

theorem timeline?_newer (ht : h.timeline? = some t) :
    h.newer?.map timeline? = t.newer?.map some := by
  obtain ⟨hline, hpos, hhigh⟩ := timeline?_eq_some_iff.1 ht
  have hsize : h.size = t.past.length + (t.future.length + 1) := by
    have hlen := congrArg List.length hline
    simpa [editions, Timeline.editions, size] using hlen
  unfold Timeline.newer?
  cases hfuture : t.future with
  | nil =>
    -- the position is that of the last version
    have hnone : h.newer? = none := by
      rw [Option.eq_none_iff_forall_not_mem]
      intro h' hh'
      have hlt := (newer?_eq_some_iff.1 hh').1
      rw [hsize, hpos, hfuture] at hlt
      exact Nat.lt_irrefl _ hlt
    rw [hnone]
    rfl
  | cons e future =>
    have hlt : h.position + 1 < h.size := by
      rw [hsize, hpos, hfuture, List.length_cons]
      omega
    rw [newer?_eq_some_iff.2 ⟨hlt, rfl⟩, Option.map_some, Option.map_some, Option.some_inj,
      timeline?_eq_some_iff]
    refine ⟨?_, by rw [hpos]; rfl, hhigh⟩
    rw [Timeline.editions, hfuture] at hline
    simpa [Timeline.editions, editions] using hline

/-- A version can always be added: no version has a number above the highest one given out. -/
theorem timeline?_append (hs : h.Sound) (ht : h.timeline? = some t) (dataset : Dataset)
    (description : String) :
    (h.append dataset description).map timeline? = .ok (some (t.append dataset description)) := by
  obtain ⟨hline, hpos, hhigh⟩ := timeline?_eq_some_iff.1 ht
  obtain ⟨v, hv⟩ := hs.exists_displayed?
  have hlt : v.number < h.nextNumber :=
    Nat.lt_succ_of_le (hs.le_highest _ (List.mem_map_of_mem (List.mem_of_getElem? hv)))
  have hok : h.append dataset description = .ok _ := appendAs_eq_ok_iff.2 ⟨v, hv, hlt, rfl⟩
  rw [hok]
  refine congrArg Except.ok (timeline?_eq_some_iff.2 ⟨?_, by rw [hpos]; rfl, ?_⟩)
  · -- what is kept is the past and the present
    have hkept : h.editions.take (h.position + 1) = t.past.reverse ++ [t.present] := by
      rw [hline, hpos, Timeline.editions, ← List.length_reverse, List.take_length_add_append]
      rfl
    rw [editions_of_appendAs hok, hkept, nextNumber, hhigh]
    simp [Timeline.editions, Timeline.append]
  · show max h.highest (h.highest + 1) = t.highest + 1
    rw [hhigh]
    exact Nat.max_eq_right (Nat.le_succ _)

/-! ### Removal -/

/-- The first place of a number lies in the front part of a line if the number does. -/
theorem lt_length_iff_mem {front back : List VersionNumber} {number : VersionNumber} {i : Nat}
    (hi : (front ++ back).findIdx? (· == number) = some i) :
    i < front.length ↔ number ∈ front := by
  obtain ⟨hlt, hat, hbefore⟩ := List.findIdx?_eq_some_iff_getElem.1 hi
  constructor
  · intro hfront
    rw [List.getElem_append_left hfront, beq_iff_eq] at hat
    exact hat ▸ List.getElem_mem hfront
  · intro hmem
    obtain ⟨j, hj, rfl⟩ := List.getElem_of_mem hmem
    -- otherwise the number would have been found in the front part before
    refine Nat.lt_of_not_le fun hle => ?_
    have hno := hbefore j (Nat.lt_of_lt_of_le hj hle)
    rw [List.getElem_append_left hj] at hno
    simp at hno

/-- Nothing has to go where no version has the number. -/
theorem filter_number_eq_self {l : List Edition} {number : VersionNumber}
    (hl : number ∉ l.map Edition.number) : l.filter (·.number != number) = l :=
  List.filter_eq_self.2 fun _ he => bne_iff_ne.2 fun h => hl (h ▸ List.mem_map_of_mem he)

/-- Where no number stands twice, one version has to go at most. -/
theorem length_filter_number {l : List Edition} (hl : (l.map Edition.number).Nodup)
    (number : VersionNumber) :
    (l.filter (·.number != number)).length =
      if number ∈ l.map Edition.number then l.length - 1 else l.length := by
  -- on the numbers, the filter takes out one occurrence at most
  have hmap : (l.filter (·.number != number)).map Edition.number =
      (l.map Edition.number).erase number := by
    rw [hl.erase_eq_filter, List.filter_map]
    rfl
  rw [← List.length_map (f := Edition.number), hmap, List.length_erase, List.length_map]

variable {number : VersionNumber}

theorem map_number_split (t : Timeline) :
    t.editions.map Edition.number =
      ((t.present :: t.past).map Edition.number).reverse ++ t.future.map Edition.number := by
  simp [Timeline.editions]

/-- The line of versions without one of them. -/
theorem editions_without (hn : (t.editions.map Edition.number).Nodup)
    (hhead : (t.editions.map Edition.number).head? ≠ some number) :
    (t.without number).editions = t.editions.filter (·.number != number) := by
  rw [map_number_split] at hn hhead
  obtain ⟨hpast, -, hdisjoint⟩ := List.nodup_append.1 hn
  by_cases hpresent : t.present.number = number
  · -- the present goes, so the number is none of the past and none of the future
    have hnotpast : number ∉ t.past.map Edition.number :=
      hpresent ▸ (List.nodup_cons.1 (List.nodup_reverse.1 hpast)).1
    have hnotfuture : number ∉ t.future.map Edition.number := fun h =>
      hdisjoint number (by simp [hpresent]) number h rfl
    have hfilter : t.editions.filter (·.number != number) = t.past.reverse ++ t.future := by
      rw [Timeline.editions, List.filter_append, List.filter_cons_of_neg (by simp [hpresent]),
        List.filter_reverse, filter_number_eq_self hnotpast, filter_number_eq_self hnotfuture]
    rw [hfilter]
    cases hp : t.past with
    | nil => simp [hp, hpresent] at hhead
    | cons e past => simp [Timeline.without, Timeline.editions, hpresent, hp]
  · simp [Timeline.without, Timeline.editions, hpresent, List.filter_reverse]

/-- The present moves one place back if it goes or the past does without a version. -/
theorem length_past_without (hn : (t.editions.map Edition.number).Nodup) :
    (t.without number).past.length =
      if number ∈ (t.present :: t.past).map Edition.number then t.past.length - 1
      else t.past.length := by
  rw [map_number_split] at hn
  obtain ⟨-, hpast⟩ :=
    List.nodup_cons.1 (List.nodup_reverse.1 (List.nodup_append.1 hn).1)
  by_cases hpresent : t.present.number = number
  · cases hp : t.past <;> simp [Timeline.without, hpresent, hp]
  · simp [Timeline.without, hpresent, Ne.symm hpresent, length_filter_number hpast]

@[simp] theorem highest_without (t : Timeline) (number : VersionNumber) :
    (t.without number).highest = t.highest := by
  unfold Timeline.without
  split
  · split <;> rfl
  · rfl

/-- A history without a version has the timeline without that version. -/
theorem timeline?_without {i : Nat} (hs : h.Sound) (ht : h.timeline? = some t)
    (hhead : h.numbers.head? ≠ some number)
    (hi : h.numbers.findIdx? (· == number) = some (i + 1)) (wasCurrent : Bool) :
    (h.without (i + 1) wasCurrent).timeline? = some (t.without number) := by
  obtain ⟨hline, hpos, hhigh⟩ := timeline?_eq_some_iff.1 ht
  have hn := hs.nodup_numbers
  rw [← map_number_editions, hline] at hn hhead hi
  refine timeline?_eq_some_iff.2 ⟨?_, ?_, hhigh.trans (highest_without t number).symm⟩
  · -- both lines lose the same version, one by its place and the other by its number
    rw [editions_of_without, editions_without hn hhead, ← eraseIdx_eq_filter hn hi, ← hline]
  · -- the place lies up to the position exactly if the number is none of the future
    rw [length_past_without hn]
    rw [map_number_split] at hi
    have hfront := lt_length_iff_mem hi
    rw [List.mem_reverse, List.length_reverse, List.length_map, List.length_cons,
      Nat.succ_lt_succ_iff, ← Nat.succ_le_iff] at hfront
    show (if i + 1 ≤ h.position then h.position - 1 else h.position) = _
    simp only [hfront, hpos]

/-- A history and its timeline can do without the same versions, and refuse for the same reasons. -/
theorem timeline?_remove (hs : h.Sound) (ht : h.timeline? = some t) (removal : Removal) :
    (h.remove removal).map timeline? = (t.remove removal.number).map some := by
  have hnumbers : t.editions.map Edition.number = h.numbers := by
    rw [← (timeline?_eq_some_iff.1 ht).1, map_number_editions]
  unfold Timeline.remove
  rw [hnumbers]
  -- both look for the number first, and spare the first version then
  by_cases hmem : removal.number ∈ h.numbers
  · rw [if_neg (not_not.2 hmem)]
    by_cases hhead : h.numbers.head? = some removal.number
    · rw [if_pos hhead, remove_eq_error_iff.2 (.inr ⟨hhead, rfl⟩)]
      rfl
    · rw [if_neg hhead]
      cases hr : h.remove removal with
      | error fault =>
        rcases remove_eq_error_iff.1 hr with ⟨hnot, -⟩ | ⟨hhead', -⟩
        · exact absurd hmem hnot
        · exact absurd hhead' hhead
      | ok h' =>
        obtain ⟨i, v, hi, -, rfl⟩ := remove_eq_ok_iff.1 hr
        have hi : h.numbers.findIdx? (· == removal.number) = some (i + 1) := by
          rw [numbers, List.findIdx?_map]
          exact hi
        exact congrArg Except.ok (timeline?_without hs ht hhead hi v.isCurrent)
  · rw [if_pos hmem, remove_eq_error_iff.2 (.inl ⟨hmem, rfl⟩)]
    rfl

/-! ### Series of edits -/

/-- One edit of a history is one edit of its timeline. -/
theorem timeline?_edit (hs : h.Sound) (ht : h.timeline? = some t) (e : LocalEdit) :
    (h.edit e.toEdit).timeline? = some (t.edit e) := by
  -- an edit that is refused leaves both as they are
  cases e with
  | append dataset description =>
    have hsquare := timeline?_append hs ht dataset description
    show ((h.append dataset description).toOption.getD h).timeline? =
      some (t.append dataset description)
    cases hok : h.append dataset description with
    | error fault => simp [hok, Except.map] at hsquare
    | ok h' => simpa [hok, Except.map, Except.toOption] using hsquare
  | older =>
    have hsquare := timeline?_older ht
    show (h.older?.getD h).timeline? = some (t.older?.getD t)
    cases hh : h.older? <;> cases ht' : t.older? <;> simp_all
  | newer =>
    have hsquare := timeline?_newer ht
    show (h.newer?.getD h).timeline? = some (t.newer?.getD t)
    cases hh : h.newer? <;> cases ht' : t.newer? <;> simp_all
  | remove removal =>
    have hsquare := timeline?_remove hs ht removal
    show ((h.remove removal).toOption.getD h).timeline? =
      some ((t.remove removal.number).toOption.getD t)
    cases hh : h.remove removal <;> cases ht' : t.remove removal.number <;>
      simp_all [Except.map, Except.toOption]

/-- Local edits keep a history sound. -/
theorem Sound.localEdit (hs : h.Sound) (ht : h.timeline? = some t) (e : LocalEdit) :
    (h.edit e.toEdit).Sound := by
  have he : e.toEdit.CountsFromOne := by cases e <;> trivial
  refine (edit_eq_empty_or_sound (.inr hs) he).resolve_left fun hempty => ?_
  -- an empty history has no timeline
  have hedit := timeline?_edit hs ht e
  rw [hempty] at hedit
  exact absurd hedit (by simp [timeline?, displayed?])

/-- A series of edits of a history is the same series of its timeline. -/
theorem timeline?_editAll (hs : h.Sound) (ht : h.timeline? = some t) (edits : List LocalEdit) :
    (h.editAll (edits.map LocalEdit.toEdit)).Sound ∧
      (h.editAll (edits.map LocalEdit.toEdit)).timeline? = some (t.editAll edits) := by
  -- on the edits, for any history to begin with
  induction edits generalizing h t with
  | nil => exact ⟨hs, ht⟩
  | cons e edits ih => exact ih (hs.localEdit ht e) (timeline?_edit hs ht e)

/-! ### What a number stands for -/

/-- A history that another one came of: whatever the other one has besides has a number above all
that were given out before. -/
structure Precedes (h h' : History) : Prop where
  /-- Numbers are only ever given out. -/
  highest_le : h.highest ≤ h'.highest
  /-- A version was there before, or it got a new number. -/
  mem_or_lt : ∀ e ∈ h'.editions, e ∈ h.editions ∨ h.highest < e.number

theorem Precedes.refl (h : History) : h.Precedes h :=
  ⟨Nat.le_refl _, fun _ he => .inl he⟩

theorem Precedes.trans {h'' : History} (hh' : h.Precedes h') (hh'' : h'.Precedes h'') :
    h.Precedes h'' where
  highest_le := hh'.highest_le.trans hh''.highest_le
  mem_or_lt := by
    intro e he
    rcases hh''.mem_or_lt e he with he | hlt
    · exact hh'.mem_or_lt e he
    · exact .inr (Nat.lt_of_le_of_lt hh'.highest_le hlt)

theorem precedes_edit (h : History) (e : LocalEdit) : h.Precedes (h.edit e.toEdit) := by
  cases e with
  | append dataset description =>
    show h.Precedes ((h.append dataset description).toOption.getD h)
    cases hok : h.append dataset description with
    | error fault => exact .refl h
    | ok h' =>
      have heditions := editions_of_appendAs hok
      obtain ⟨newest, -, -, hh'⟩ := appendAs_eq_ok_iff.1 hok
      -- what is kept was there, and the new version is numbered above all that was given out
      refine ⟨hh' ▸ le_max_left _ _, fun e he => ?_⟩
      rcases List.mem_append.1 (heditions ▸ he : e ∈ _ ++ [_]) with he | he
      · exact .inl (List.mem_of_mem_take he)
      · obtain rfl := List.mem_singleton.1 he
        exact .inr (Nat.lt_succ_self _)
  | older =>
    obtain ⟨position, hedit⟩ := h.exists_position_edit (.inl rfl)
    exact hedit ▸ ⟨Nat.le_refl _, fun _ he => .inl he⟩
  | newer =>
    obtain ⟨position, hedit⟩ := h.exists_position_edit (.inr rfl)
    exact hedit ▸ ⟨Nat.le_refl _, fun _ he => .inl he⟩
  | remove removal =>
    show h.Precedes ((h.remove removal).toOption.getD h)
    cases hok : h.remove removal with
    | error fault => exact .refl h
    | ok h' =>
      obtain ⟨i, v, -, -, rfl⟩ := remove_eq_ok_iff.1 hok
      refine ⟨Nat.le_refl _, fun e he => .inl ?_⟩
      exact List.mem_of_mem_eraseIdx (editions_of_without h (i + 1) v.isCurrent ▸ he)

theorem precedes_editAll (h : History) (edits : List LocalEdit) :
    h.Precedes (h.editAll (edits.map LocalEdit.toEdit)) := by
  induction edits generalizing h with
  | nil => exact .refl h
  | cons e edits ih => exact (precedes_edit h e).trans (ih _)

/-- A number that was given out stands for one version, as long as that is there. -/
theorem Precedes.edition_eq (hh' : h.Precedes h') (hs : h.Sound) {v v' : Version}
    (hv : v ∈ h.versions) (hv' : v' ∈ h'.versions) (hnumber : v'.number = v.number) :
    v'.edition = v.edition := by
  have hle : v.number ≤ h.highest := hs.le_highest _ (List.mem_map_of_mem hv)
  rcases hh'.mem_or_lt _ (List.mem_map_of_mem hv') with hmem | hlt
  · have hn := hs.nodup_numbers
    rw [← map_number_editions] at hn
    exact List.inj_on_of_nodup_map hn hmem (List.mem_map_of_mem hv) hnumber
  · exact absurd (Nat.lt_of_lt_of_le hlt (hnumber.trans_le hle)) (Nat.lt_irrefl _)

/-! ### Back and forth -/

/-- Displays the version a number of steps before. -/
def olderBy : Nat → History → Option History
  | 0, h => some h
  | k + 1, h => h.older?.bind (olderBy k)

/-- Displays the version a number of steps after. -/
def newerBy : Nat → History → Option History
  | 0, h => some h
  | k + 1, h => h.newer?.bind (newerBy k)

/-- The last step forward may be taken apart as well as the first. -/
theorem newerBy_succ (k : Nat) (h : History) : h.newerBy (k + 1) = (h.newerBy k).bind newer? := by
  induction k generalizing h with
  | zero => cases hh : h.newer? <;> simp [newerBy, hh]
  | succ k ih =>
    rw [newerBy]
    cases hh : h.newer? with
    | none => simp [newerBy, hh]
    | some h' => simp [newerBy, hh, ← ih h']

theorem newer?_of_older? (hp : h.Placed) (hok : h.older? = some h') : h'.newer? = some h := by
  obtain ⟨-, hpos, rfl⟩ := older?_eq_some_iff.1 hok
  have hback : h.position - 1 + 1 = h.position := Nat.sub_add_cancel hpos
  refine newer?_eq_some_iff.2 ⟨?_, ?_⟩
  · rw [hback]
    exact hp.position_lt
  · rw [hback]

/-- As many steps forward as steps back lead to the history from before. -/
theorem newerBy_of_olderBy {k : Nat} (hp : h.Placed) (hok : h.olderBy k = some h') :
    h'.newerBy k = some h := by
  -- on the steps: the last one forward takes back the first one back
  induction k generalizing h with
  | zero => exact congrArg some (Option.some.inj hok).symm
  | succ k ih =>
    obtain ⟨m, hm, hok⟩ := Option.bind_eq_some_iff.1 hok
    rw [newerBy_succ, ih (hp.older? hm) hok]
    exact newer?_of_older? hp hm

/-- **Histories and timelines.** After any series of local edits of an upload, the history has the
timeline to which the same edits were done; both go back and forward to histories and timelines that
belong together, or neither does; both take in a version, always; and both do without a version, or
refuse for the same reason. Going back and forward changes no mark and gives out no number, what a
number stands for stays the same in all histories to come, and as many steps forward as steps back
lead to the history from before. -/
theorem timeline_of_localEdits (upload : Dataset) (edits : List LocalEdit) :
    let h := (start upload).editAll (edits.map LocalEdit.toEdit)
    let t := (Timeline.start upload).editAll edits
    h.timeline? = some t ∧
    h.older?.map timeline? = t.older?.map some ∧
    h.newer?.map timeline? = t.newer?.map some ∧
    (∀ dataset description,
      (h.append dataset description).map timeline? =
        .ok (some (t.append dataset description))) ∧
    (∀ removal, (h.remove removal).map timeline? = (t.remove removal.number).map some) ∧
    (∀ h', h.older? = some h' ∨ h.newer? = some h' →
      h'.versions = h.versions ∧ h'.highest = h.highest) ∧
    (∀ later : List LocalEdit, ∀ v ∈ h.versions,
      ∀ v' ∈ (h.editAll (later.map LocalEdit.toEdit)).versions,
        v'.number = v.number → v'.edition = v.edition) ∧
    (∀ k h', h.olderBy k = some h' → h'.newerBy k = some h) := by
  intro h t
  obtain ⟨hs, ht⟩ : h.Sound ∧ h.timeline? = some t :=
    timeline?_editAll (.start upload) (timeline?_start upload) edits
  refine ⟨ht, timeline?_older ht, timeline?_newer ht, timeline?_append hs ht,
    timeline?_remove hs ht, ?_, ?_, fun k h' => newerBy_of_olderBy hs.toPlaced⟩
  · intro h' hok
    obtain ⟨position, rfl⟩ := exists_position_of_moved hok
    exact ⟨rfl, rfl⟩
  · intro later v hv v' hv'
    exact (precedes_editAll h later).edition_eq hs hv hv'

/-- Of three versions the middle one is on display and is taken out: the first one takes its place,
and the last one is still ahead. -/
example :
    (start {}).editAll [.append {} "a", .append {} "b", .older, .remove ⟨2, false⟩] =
      { versions := [.ofUpload {} false, ⟨3, {}, "b", true⟩], position := 0, highest := 3 } := by
  decide

end History

end Tabula
