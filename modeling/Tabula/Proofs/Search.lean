import Mathlib.Data.List.Basic
import Tabula.Search

/-!
# What a search finds

A search compares lower cases, so it finds what a cell literally shows as far as the lower case of a
text stays the same when the text stands within another. But for one letter it does: the lower case
of a capital sigma depends on the letters around it, so a sigma at the end of a query may turn into
another letter than the same sigma within a cell (`SigmaTurns`). Where none does, the lower case of
the query stands in that of the cell (`lowercaseBetween_eq_lowercase_iff`), and the row is found
(`Row.found_of_shown`).
-/

namespace Tabula

namespace Text

/-! ### Lower case within a text -/

/-- The lower case of a text that stands behind `before`, which is given backwards, and in front of
`after`. -/
def lowercaseBetween (before after : List Char) : List Char → List Char
  | [] => []
  | c :: s =>
    (if c = 'Σ' then [sigmaLower before (s ++ after)] else lowerChar c) ++
      lowercaseBetween (c :: before) after s

theorem lowercaseAfter_append (before s t : List Char) :
    lowercaseAfter before (s ++ t) =
      lowercaseBetween before t s ++ lowercaseAfter (s.reverse ++ before) t := by
  induction s generalizing before with
  | nil => rfl
  | cons c s ih =>
    rw [List.cons_append, lowercaseAfter, ih, lowercaseBetween, List.reverse_cons,
      List.append_assoc, List.append_assoc]
    rfl

theorem lowercaseBetween_nil (before s : List Char) :
    lowercaseBetween before [] s = lowercaseAfter before s := by
  have h := lowercaseAfter_append before s []
  rw [List.append_nil] at h
  rw [h, lowercaseAfter, List.append_nil]

/-- The lower case of a text in three parts is that of the parts, each in its surroundings. -/
theorem lowercase_append_append (front s back : List Char) :
    lowercase (front ++ s ++ back) =
      lowercaseBetween [] (s ++ back) front ++ lowercaseBetween front.reverse back s ++
        lowercaseBetween (s.reverse ++ front.reverse) [] back := by
  rw [lowercase, List.append_assoc, lowercaseAfter_append, lowercaseAfter_append,
    lowercaseBetween_nil, List.append_nil, List.append_assoc]

/-- What holds where a letter stands first in a text or further on holds wherever it stands. -/
theorem forall_split_cons_iff {c x : Char} {s : List Char} {P : List Char → List Char → Prop} :
    (∀ u w, c :: s = u ++ x :: w → P u w) ↔
      (c = x → P [] s) ∧ ∀ u w, s = u ++ x :: w → P (c :: u) w := by
  constructor
  · intro h
    exact ⟨fun hc => h [] s (by rw [hc]; rfl), fun u w hs => h (c :: u) w (by rw [hs]; rfl)⟩
  · rintro ⟨hfirst, hrest⟩ u w h
    cases u with
    | nil =>
      obtain ⟨rfl, rfl⟩ := List.cons.inj h
      exact hfirst rfl
    | cons d u =>
      obtain ⟨rfl, rfl⟩ := List.cons.inj h
      exact hrest u w rfl

/-- The lower case of a text within others is that of the text by itself exactly if each capital
sigma has the same form here and there. -/
theorem lowercaseBetween_append_eq_iff (inner before after s : List Char) :
    lowercaseBetween (inner ++ before) after s = lowercaseBetween inner [] s ↔
      ∀ u w, s = u ++ 'Σ' :: w →
        sigmaLower (u.reverse ++ inner ++ before) (w ++ after) =
          sigmaLower (u.reverse ++ inner) w := by
  induction s generalizing inner with
  | nil => simp [lowercaseBetween]
  | cons c s ih =>
    have hrest := ih (c :: inner)
    rw [forall_split_cons_iff, lowercaseBetween, lowercaseBetween, List.append_nil]
    simp only [List.reverse_cons, List.append_assoc, List.cons_append, List.reverse_nil,
      List.nil_append] at hrest ⊢
    rw [← hrest]
    by_cases hc : c = 'Σ'
    · simp [hc]
    · simp [hc]

/-! ### Where a sigma turns into another letter -/

theorem letterFollows_append (s t : List Char) :
    letterFollows (s ++ t) =
      if s.all isCaseIgnorable then letterFollows t else letterFollows s := by
  induction s with
  | nil => rfl
  | cons c s ih =>
    simp only [letterFollows, List.cons_append, List.dropWhile_cons, List.all_cons] at ih ⊢
    cases isCaseIgnorable c with
    | true => simpa using ih
    | false => rfl

theorem letterFollows_of_all {s : List Char} (h : s.all isCaseIgnorable = true) :
    letterFollows s = false := by
  rw [← List.append_nil s, letterFollows_append, if_pos h]
  rfl

theorem sigmaLower_eq_iff (before after before' after' : List Char) :
    sigmaLower before after = sigmaLower before' after' ↔
      (letterFollows before && !letterFollows after) =
        (letterFollows before' && !letterFollows after') := by
  rw [sigmaLower, sigmaLower]
  cases letterFollows before && !letterFollows after <;>
    cases letterFollows before' && !letterFollows after' <;> decide

/-- Whether a capital sigma of a text has another lower case when the text stands behind `before`,
which is given backwards, and in front of `after`. -/
inductive SigmaTurns (before after s : List Char) : Prop where
  /-- A sigma without a letter before it in the text comes to stand at the end of a word. -/
  | final {u w : List Char} (hs : s = u ++ 'Σ' :: w) (hu : u.all isCaseIgnorable = true)
      (hbefore : letterFollows before = true) (hafter : letterFollows (w ++ after) = false)
  /-- A sigma at the end of a word comes to stand in front of a letter. -/
  | medial {u w : List Char} (hs : s = u ++ 'Σ' :: w) (hu : letterFollows u.reverse = true)
      (hw : w.all isCaseIgnorable = true) (hafter : letterFollows after = true)

theorem sigmaLower_append_eq_iff (u w before after : List Char) :
    sigmaLower (u.reverse ++ before) (w ++ after) = sigmaLower u.reverse w ↔
      ¬ (u.all isCaseIgnorable = true ∧ letterFollows before = true ∧
          letterFollows (w ++ after) = false) ∧
        ¬ (letterFollows u.reverse = true ∧ w.all isCaseIgnorable = true ∧
          letterFollows after = true) := by
  have hu : u.all isCaseIgnorable = true → letterFollows u.reverse = false := fun h =>
    letterFollows_of_all (by rwa [List.all_reverse])
  have hw : w.all isCaseIgnorable = true → letterFollows w = false := letterFollows_of_all
  rw [sigmaLower_eq_iff, letterFollows_append, letterFollows_append, List.all_reverse]
  -- what stands around the text counts only where nothing of the text itself does
  cases hu' : u.all isCaseIgnorable <;> cases hw' : w.all isCaseIgnorable <;>
    cases letterFollows before <;> cases letterFollows after <;> simp_all

/-- The lower case of a text within others is that of the text by itself exactly if no sigma of it
turns. -/
theorem lowercaseBetween_eq_lowercase_iff (before after s : List Char) :
    lowercaseBetween before after s = lowercase s ↔ ¬ SigmaTurns before after s := by
  have h := lowercaseBetween_append_eq_iff [] before after s
  simp only [List.nil_append, List.append_nil, sigmaLower_append_eq_iff,
    lowercaseBetween_nil] at h
  rw [lowercase, h]
  constructor
  · rintro hkept (⟨hs, hu, hbefore, hafter⟩ | ⟨hs, hu, hw, hafter⟩)
    · exact (hkept _ _ hs).1 ⟨hu, hbefore, hafter⟩
    · exact (hkept _ _ hs).2 ⟨hu, hw, hafter⟩
  · intro hkept u w hs
    exact ⟨fun ⟨hu, hbefore, hafter⟩ => hkept (.final hs hu hbefore hafter),
      fun ⟨hu, hw, hafter⟩ => hkept (.medial hs hu hw hafter)⟩

theorem SigmaTurns.mem {before after s : List Char} (h : SigmaTurns before after s) : 'Σ' ∈ s := by
  rcases h with ⟨rfl, -⟩ | ⟨rfl, -⟩ <;> simp

end Text

/-- **What a cell shows is found.** Let a cell of a row show a query between other texts. The lower
case of the cell consists of those of the three, each in its surroundings, and that of the query is
there what it is by itself exactly if no capital sigma of the query turns. If none does, and so for
every query without a capital sigma, the row matches the query and a search for it keeps the row. -/
theorem Row.found_of_shown {row : Row} {name query : String} {c : Cell} {front back : List Char}
    (hcell : (name, c) ∈ row.entries) (hshown : c.display.toList = front ++ query.toList ++ back) :
    Text.lowercase c.display.toList =
      Text.lowercaseBetween [] (query.toList ++ back) front ++
        Text.lowercaseBetween front.reverse back query.toList ++
        Text.lowercaseBetween (query.toList.reverse ++ front.reverse) [] back ∧
    (Text.lowercaseBetween front.reverse back query.toList = Text.lowercase query.toList ↔
      ¬ Text.SigmaTurns front.reverse back query.toList) ∧
    ('Σ' ∉ query.toList → ¬ Text.SigmaTurns front.reverse back query.toList) ∧
    (¬ Text.SigmaTurns front.reverse back query.toList →
      row.matchesQuery query = true ∧
      ∀ d : Dataset, row ∈ d.rows → row ∈ (d.search query).rows) := by
  have hlower := Text.lowercase_append_append front query.toList back
  rw [← hshown] at hlower
  have hsame := Text.lowercaseBetween_eq_lowercase_iff front.reverse back query.toList
  refine ⟨hlower, hsame, fun hsigma hturns => hsigma hturns.mem, ?_⟩
  intro hkept
  have hshows : c.shows (Text.lowercase query.toList) = true := by
    rw [Cell.shows, Text.occursIn_iff, hlower, hsame.2 hkept]
    exact ⟨_, _, rfl⟩
  have hmatches : row.matchesQuery query = true := by
    rw [matchesQuery, Bool.or_eq_true]
    exact .inr (List.any_eq_true.2 ⟨_, hcell, hshows⟩)
  exact ⟨hmatches, fun d hrow => List.mem_filter.2 ⟨hrow, hmatches⟩⟩

/-- A row that shows the Greek word for the world. -/
def world : Row :=
  ⟨[("name", .text "Ο ΚΟΣΜΟΣ")], by simp⟩

/-- The word is found as a whole: its last sigma ends a word in the query as it does in the cell. -/
theorem Row.found_of_shown_world :
    world.matchesQuery "ΚΟΣΜΟΣ" = true ∧
      ∀ d : Dataset, world ∈ d.rows → world ∈ (d.search "ΚΟΣΜΟΣ").rows := by
  have hcell : ("name", Cell.text "Ο ΚΟΣΜΟΣ") ∈ world.entries := List.mem_cons_self
  have hshown : (Cell.text "Ο ΚΟΣΜΟΣ").display.toList =
      "Ο ".toList ++ "ΚΟΣΜΟΣ".toList ++ [] := by decide
  obtain ⟨-, hsame, -, hfound⟩ := found_of_shown hcell hshown
  exact hfound (hsame.1 (by decide +kernel))

/-- The beginning of the word is not found: the sigma at its end stands within the word in the
cell. -/
theorem Row.unfound_world :
    (Cell.text "Ο ΚΟΣΜΟΣ").display.toList =
        "Ο ".toList ++ "ΚΟΣ".toList ++ "ΜΟΣ".toList ∧
      ("name", Cell.text "Ο ΚΟΣΜΟΣ") ∈ world.entries ∧
      world.matchesQuery "ΚΟΣ" = false ∧
      ((Dataset.ofRows [world]).search "ΚΟΣ").rows = [] := by
  refine ⟨by decide, List.mem_cons_self, ?_, ?_⟩
  · decide +kernel
  · decide +kernel

end Tabula
