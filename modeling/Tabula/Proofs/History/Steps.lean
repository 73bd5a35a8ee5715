import Mathlib.Data.List.InsertIdx
import Mathlib.Data.List.Perm.Basic
import Tabula.History

/-!
# What the steps of a history do

Every step of a history that may be refused has an inversion lemma here, which says when the step
succeeds and what the history is then (`appendAs_eq_ok_iff`, `remove_eq_ok_iff`,
`takeOver_eq_ok_iff`, `older?_eq_some_iff`, `newer?_eq_some_iff`). Listings are taken over in two
ways (`takeOver_of_repeated`, `takeOver_of_not_repeated`), and the version that goes on display is
found from the end of the line (`lastCurrent_append_cons`, `lastCurrent_of_unmarked`).

A history is looked at in two ways. `numbers` is the line of version numbers; setting and clearing
marks does not touch it. The marks of the current version are counted by `countP`; the functions
that set them (`unmarked`, `markAt`, `markOnly`) are described by what they do to the count.
-/

namespace Tabula.History

/-- The numbers of the versions, oldest version first. -/
def numbers (h : History) : List VersionNumber :=
  h.versions.map Version.number

/-! ### Marks -/

@[simp] theorem length_unmarked (versions : List Version) :
    (unmarked versions).length = versions.length :=
  List.length_map _

/-- What does not depend on the mark is the same of a version without it. -/
theorem map_unmarked {α : Type} {g : Version → α}
    (hg : ∀ (v : Version) (b : Bool), g { v with isCurrent := b } = g v)
    (versions : List Version) : (unmarked versions).map g = versions.map g := by
  simp [unmarked, Function.comp_def, hg]

@[simp] theorem map_number_unmarked (versions : List Version) :
    (unmarked versions).map Version.number = versions.map Version.number :=
  map_unmarked (fun _ _ => rfl) versions

@[simp] theorem countP_isCurrent_unmarked (versions : List Version) :
    (unmarked versions).countP Version.isCurrent = 0 := by
  simp [unmarked, List.countP_eq_zero]

@[simp] theorem length_markAt (versions : List Version) (position : Nat) :
    (markAt versions position).length = versions.length :=
  List.length_modify _ _ _

theorem map_markAt {α : Type} {g : Version → α}
    (hg : ∀ (v : Version) (b : Bool), g { v with isCurrent := b } = g v)
    (versions : List Version) (position : Nat) :
    (markAt versions position).map g = versions.map g := by
  induction versions generalizing position with
  | nil => simp [markAt]
  | cons v versions ih =>
    cases position with
    | zero => simp [markAt, hg]
    | succ position => simpa [markAt] using ih position

/-- A new mark is counted once, wherever there was no mark at all. -/
theorem countP_isCurrent_markAt {versions : List Version} {position : Nat}
    (hp : position < versions.length) (h : versions.countP Version.isCurrent = 0) :
    (markAt versions position).countP Version.isCurrent = 1 := by
  induction versions generalizing position with
  | nil => simp at hp
  | cons v versions ih =>
    obtain ⟨hv, hvs⟩ : v.isCurrent = false ∧ versions.countP Version.isCurrent = 0 := by
      rw [List.countP_cons] at h
      cases hv : v.isCurrent <;> simp_all
    -- the mark goes to the head, or to a line without marks behind an unmarked head
    cases position with
    | zero => simp [markAt, hvs]
    | succ position =>
      have ih := ih (by simpa using hp) hvs
      simpa [markAt, hv] using ih

@[simp] theorem length_markOnly (versions : List Version) (position : Nat) :
    (markOnly versions position).length = versions.length := by
  simp [markOnly]

theorem map_markOnly {α : Type} {g : Version → α}
    (hg : ∀ (v : Version) (b : Bool), g { v with isCurrent := b } = g v)
    (versions : List Version) (position : Nat) :
    (markOnly versions position).map g = versions.map g := by
  rw [markOnly, map_markAt hg, map_unmarked hg]

@[simp] theorem map_number_markOnly (versions : List Version) (position : Nat) :
    (markOnly versions position).map Version.number = versions.map Version.number :=
  map_markOnly (fun _ _ => rfl) versions position

theorem getElem?_markOnly (versions : List Version) (p i : Nat) :
    (markOnly versions p)[i]? =
      versions[i]?.map fun v => { v with isCurrent := decide (i = p) } := by
  rw [markOnly, markAt, List.getElem?_modify, unmarked, List.getElem?_map]
  cases versions[i]? with
  | none => rfl
  | some v => by_cases hp : i = p <;> simp [hp, eq_comm (a := p)]

theorem countP_isCurrent_markOnly {versions : List Version} {position : Nat}
    (hp : position < versions.length) :
    (markOnly versions position).countP Version.isCurrent = 1 :=
  countP_isCurrent_markAt (by simpa using hp) (countP_isCurrent_unmarked versions)

/-- The marks of a line are those that are left without one version, and the mark of that
version. -/
theorem countP_isCurrent_eraseIdx {versions : List Version} {i : Nat} {v : Version}
    (h : versions[i]? = some v) :
    versions.countP Version.isCurrent =
      (versions.eraseIdx i).countP Version.isCurrent + if v.isCurrent then 1 else 0 := by
  obtain ⟨hi, rfl⟩ := List.getElem?_eq_some_iff.1 h
  -- up to order, a line is one of its versions and the line without it
  rw [← List.Perm.countP_eq Version.isCurrent (List.getElem_cons_eraseIdx_perm hi),
    List.countP_cons]

/-! ### New versions -/

/-- A version is added exactly if a version with a smaller number is on display. It stands behind
that one and is itself on display. -/
theorem appendAs_eq_ok_iff {h h' : History} {number : VersionNumber} {dataset : Dataset}
    {description : String} :
    h.appendAs number dataset description = .ok h' ↔
      ∃ newest, h.displayed? = some newest ∧ newest.number < number ∧
        h' =
          { versions := unmarked (h.versions.take (h.position + 1))
              ++ [{ number, dataset, description, isCurrent := true }]
            position := h.position + 1
            highest := max h.highest number } := by
  unfold appendAs
  cases hd : h.displayed? with
  | none => simp
  | some newest =>
    obtain ⟨hp, -⟩ := List.getElem?_eq_some_iff.1 hd
    -- the new version stands where the versions end that are kept
    have hlen : (unmarked (h.versions.take (h.position + 1))).length = h.position + 1 := by
      rw [length_unmarked, List.length_take]
      omega
    by_cases hn : number ≤ newest.number
    · simp [hn, Nat.not_lt.2 hn]
    · simp [hn, Nat.lt_of_not_le hn, hlen, eq_comm]

/-- What does not depend on the mark is kept up to the version on display, and comes anew for the
version behind it. -/
theorem map_appendAs {α : Type} {g : Version → α}
    (hg : ∀ (v : Version) (b : Bool), g { v with isCurrent := b } = g v) {h h' : History}
    {number : VersionNumber} {dataset : Dataset} {description : String}
    (hok : h.appendAs number dataset description = .ok h') :
    h'.versions.map g = (h.versions.map g).take (h.position + 1) ++
        [g { number, dataset, description, isCurrent := true }] ∧
      (h'.versions.map g).head? = (h.versions.map g).head? := by
  obtain ⟨newest, hd, -, rfl⟩ := appendAs_eq_ok_iff.1 hok
  have hmap : List.map g (unmarked (h.versions.take (h.position + 1)) ++
      [{ number, dataset, description, isCurrent := true }]) =
      (h.versions.map g).take (h.position + 1) ++
        [g { number, dataset, description, isCurrent := true }] := by
    rw [List.map_append, map_unmarked hg, List.map_take, List.map_singleton]
  refine ⟨hmap, ?_⟩
  -- there is a version on display, so the first one is kept
  obtain ⟨hlt, -⟩ := List.getElem?_eq_some_iff.1 hd
  rw [hmap]
  cases hv : h.versions with
  | nil => simp [hv] at hlt
  | cons v versions => simp

/-! ### The version on display -/

theorem older?_eq_some_iff {h h' : History} :
    h.older? = some h' ↔
      h.versions ≠ [] ∧ 0 < h.position ∧ h' = { h with position := h.position - 1 } := by
  unfold older?
  by_cases hv : h.versions = [] <;> by_cases hp : 0 < h.position <;>
    simp [hasOlder, isEmpty, hv, hp, eq_comm (b := h')]

theorem newer?_eq_some_iff {h h' : History} :
    h.newer? = some h' ↔
      h.position + 1 < h.size ∧ h' = { h with position := h.position + 1 } := by
  unfold newer?
  by_cases hp : h.position + 1 < h.size <;> simp [hasNewer, hp, eq_comm (b := h')]

/-- Back or forward, nothing but the position changes. -/
theorem exists_position_of_moved {h h' : History}
    (hok : h.older? = some h' ∨ h.newer? = some h') : ∃ position, h' = { h with position } := by
  rcases hok with hok | hok
  · exact ⟨_, (older?_eq_some_iff.1 hok).2.2⟩
  · exact ⟨_, (newer?_eq_some_iff.1 hok).2⟩

/-! ### Removal -/

/-- The history without the version at a position: the mark and the display move to the version
before if they were there. -/
def without (h : History) (i : Nat) (wasCurrent : Bool) : History :=
  { h with
    versions :=
      if wasCurrent then markAt (h.versions.eraseIdx i) (i - 1) else h.versions.eraseIdx i
    position := if i ≤ h.position then h.position - 1 else h.position }

/-- What does not depend on the mark is only gone for the version that is taken out. -/
theorem map_without {α : Type} {g : Version → α}
    (hg : ∀ (v : Version) (b : Bool), g { v with isCurrent := b } = g v) (h : History) (i : Nat)
    (wasCurrent : Bool) :
    (h.without i wasCurrent).versions.map g = (h.versions.map g).eraseIdx i := by
  unfold without
  split
  · rw [map_markAt hg, List.eraseIdx_map]
  · rw [List.eraseIdx_map]

theorem head?_eraseIdx_succ {α : Type} (l : List α) (i : Nat) :
    (l.eraseIdx (i + 1)).head? = l.head? := by
  cases l <;> rfl

/-- Where no key stands twice, the first element of a key is the only one. -/
theorem eraseIdx_eq_filter {α : Type} {key : α → VersionNumber} {l : List α}
    {number : VersionNumber} {i : Nat} (hl : (l.map key).Nodup)
    (hi : (l.map key).findIdx? (· == number) = some i) :
    l.eraseIdx i = l.filter (key · != number) := by
  induction l generalizing i with
  | nil => exact absurd hi (by simp)
  | cons c l ih =>
    obtain ⟨hc, hl⟩ := List.nodup_cons.1 hl
    rw [List.map_cons, List.findIdx?_cons] at hi
    by_cases hnumber : key c = number
    · -- it stands first, so none of the others has the key
      obtain rfl : i = 0 := by simpa [hnumber] using hi.symm
      have hothers : l.filter (key · != number) = l := by
        refine List.filter_eq_self.2 fun c' hc' => bne_iff_ne.2 ?_
        intro hkey
        exact hc (hnumber.trans hkey.symm ▸ List.mem_map_of_mem hc')
      simp [hnumber, hothers]
    · rw [if_neg (by simpa using hnumber)] at hi
      obtain ⟨j, hj, rfl⟩ := Option.map_eq_some_iff.1 hi
      rw [List.eraseIdx_cons_succ, ih hl hj, List.filter_cons_of_pos (by simpa using hnumber)]

/-- A version is taken out exactly if it is the first of its number and not the first of all. -/
theorem remove_eq_ok_iff {h h' : History} {removal : Removal} :
    h.remove removal = .ok h' ↔
      ∃ i v, h.versions.findIdx? (fun v => v.number == removal.number) = some (i + 1) ∧
        h.versions[i + 1]? = some v ∧ h' = h.without (i + 1) v.isCurrent := by
  unfold remove
  match hi : h.versions.findIdx? fun v => v.number == removal.number with
  | none => simp [hi]
  | some 0 => simp [hi]
  -- only the upload stands first, and that one is kept
  | some (i + 1) =>
    obtain ⟨hlt, -⟩ := List.findIdx?_eq_some_iff_getElem.1 hi
    simp [hi, List.getElem?_eq_getElem hlt, without, eq_comm (b := h')]

/-- Nothing is taken out exactly if no version has the number, or the first of all has it. -/
theorem remove_eq_error_iff {h : History} {removal : Removal} {fault : HistoryFault} :
    h.remove removal = .error fault ↔
      (removal.number ∉ h.numbers ∧ fault = .unknownNumber removal.number) ∨
        (h.numbers.head? = some removal.number ∧ fault = .uploadProtected removal.number) := by
  have hidx : (h.versions.findIdx? fun v => v.number == removal.number) =
      h.numbers.findIdx? (· == removal.number) := by
    rw [numbers, List.findIdx?_map]
    rfl
  unfold remove
  rw [hidx]
  match hi : h.numbers.findIdx? (· == removal.number) with
  | none =>
    have hnone : removal.number ∉ h.numbers := fun hmem =>
      absurd (List.findIdx?_eq_none_iff.1 hi _ hmem) (by simp)
    have hhead : h.numbers.head? ≠ some removal.number := fun hhead =>
      hnone (List.mem_of_head? hhead)
    simp [hnone, hhead, eq_comm (b := fault)]
  | some i =>
    obtain ⟨hlt, hat, hbefore⟩ := List.findIdx?_eq_some_iff_getElem.1 hi
    have hmem : removal.number ∈ h.numbers := beq_iff_eq.1 hat ▸ List.getElem_mem hlt
    cases i with
    | zero =>
      have hhead : h.numbers.head? = some removal.number := by
        rw [List.head?_eq_getElem?, List.getElem?_eq_getElem hlt, beq_iff_eq.1 hat]
      simp [hmem, hhead, eq_comm (b := fault)]
    | succ i =>
      -- what stands first was passed over, so it has another number
      have hhead : h.numbers.head? ≠ some removal.number := by
        rw [List.head?_eq_getElem?, List.getElem?_eq_getElem (Nat.zero_lt_of_lt hlt)]
        simpa using hbefore 0 (Nat.succ_pos i)
      simp [hmem, hhead]

/-! ### Taking over a listing -/

/-- A listing that repeats a number is refused for the first one that it repeats in a row. -/
theorem takeOver_of_repeated {h : History} {entries : List Entry} {number : VersionNumber}
    (hr : repeated? ((listed entries).map Version.number) = some number)
    (upload : Option Dataset) :
    h.takeOver entries upload = .error (.repeatedNumber number) := by
  simp [takeOver, hr, throw, throwThe, MonadExceptOf.throw, bind, Except.bind]

/-- A listing that repeats no number is taken over with the upload in front, if there is one. -/
theorem takeOver_of_not_repeated {entries : List Entry}
    (hr : repeated? ((listed entries).map Version.number) = none) (h : History)
    (upload : Option Dataset) :
    h.takeOver entries upload =
      (withUpload (listed entries) upload).map fun versions =>
        { versions := markOnly versions (lastCurrent versions)
          position := lastCurrent versions
          highest :=
            max h.highest ((versions.getLast?.map Version.number).getD uploadNumber) } := by
  simp only [takeOver, hr]
  cases withUpload (listed entries) upload <;> rfl

theorem takeOver_eq_ok_iff {h h' : History} {entries : List Entry} {upload : Option Dataset} :
    h.takeOver entries upload = .ok h' ↔
      repeated? ((listed entries).map Version.number) = none ∧
        ∃ versions, withUpload (listed entries) upload = .ok versions ∧
          h' =
            { versions := markOnly versions (lastCurrent versions)
              position := lastCurrent versions
              highest :=
                max h.highest ((versions.getLast?.map Version.number).getD uploadNumber) } := by
  -- the two refusals come one after the other: a number twice, then no upload
  cases hr : repeated? ((listed entries).map Version.number) with
  | some number => simp [takeOver_of_repeated hr]
  | none =>
    rw [takeOver_of_not_repeated hr]
    cases withUpload (listed entries) upload <;> simp [Except.map, eq_comm (b := h')]

/-- A line either has the upload in front, or gets it there. -/
theorem eq_or_of_withUpload_eq_ok {versions versions' : List Version} {upload : Option Dataset}
    (h : withUpload versions upload = .ok versions') :
    versions.head?.any Version.isUpload = true ∧ versions' = versions ∨
      versions.head?.any Version.isUpload = false ∧
        ∃ dataset, upload = some dataset ∧ versions' = .ofUpload dataset false :: versions := by
  unfold withUpload at h
  split at h
  · next hhead => exact .inl ⟨hhead, (Except.ok.inj h).symm⟩
  · next hhead =>
    split at h
    · next dataset =>
      exact .inr ⟨Bool.eq_false_iff.2 hhead, dataset, rfl, (Except.ok.inj h).symm⟩
    · exact absurd h (by simp)

/-- At most the upload is put in front of a line. -/
theorem exists_front_of_withUpload_eq_ok {versions versions' : List Version}
    {upload : Option Dataset} (hok : withUpload versions upload = .ok versions') :
    ∃ front, versions' = front ++ versions ∧
      (front = [] ∨ ∃ dataset, upload = some dataset ∧ front = [.ofUpload dataset false]) := by
  rcases eq_or_of_withUpload_eq_ok hok with ⟨-, rfl⟩ | ⟨-, dataset, rfl, rfl⟩
  · exact ⟨[], rfl, .inl rfl⟩
  · exact ⟨_, rfl, .inr ⟨dataset, rfl, rfl⟩⟩

/-- A line with the upload is never empty. -/
theorem ne_nil_of_withUpload_eq_ok {versions versions' : List Version} {upload : Option Dataset}
    (h : withUpload versions upload = .ok versions') : versions' ≠ [] := by
  rcases eq_or_of_withUpload_eq_ok h with ⟨hhead, rfl⟩ | ⟨-, dataset, -, rfl⟩
  · rintro rfl
    simp at hhead
  · exact List.cons_ne_nil _ _

/-- The last version with a mark is found, whatever stands before it. -/
theorem lastCurrent_append_cons {front back : List Version} {v : Version}
    (hv : v.isCurrent = true) (hback : ∀ w ∈ back, w.isCurrent = false) :
    lastCurrent (front ++ v :: back) = front.length := by
  -- read backwards, it is the first one with a mark
  have hfind : (front ++ v :: back).reverse.findIdx? Version.isCurrent = some back.length := by
    have hnone : back.reverse.findIdx? Version.isCurrent = none :=
      List.findIdx?_eq_none_iff.2 fun w hw => hback w (List.mem_reverse.1 hw)
    rw [List.reverse_append, List.reverse_cons, List.append_assoc, List.singleton_append,
      List.findIdx?_append, hnone, List.findIdx?_cons]
    simp [hv]
  simp only [lastCurrent, hfind, List.length_append, List.length_cons]
  omega

theorem lastCurrent_of_unmarked {versions : List Version}
    (h : ∀ w ∈ versions, w.isCurrent = false) : lastCurrent versions = versions.length - 1 := by
  have hnone : versions.reverse.findIdx? Version.isCurrent = none :=
    List.findIdx?_eq_none_iff.2 fun w hw => h w (List.mem_reverse.1 hw)
  simp only [lastCurrent, hnone]

theorem lastCurrent_lt {versions : List Version} (h : versions ≠ []) :
    lastCurrent versions < versions.length := by
  have hpos : 0 < versions.length := List.length_pos_iff.2 h
  unfold lastCurrent
  split <;> omega

end Tabula.History
