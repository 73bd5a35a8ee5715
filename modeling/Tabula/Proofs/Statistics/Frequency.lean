import Mathlib.Data.Finset.Card
import Tabula.Proofs.Distinct
import Tabula.Statistics.Frequency

/-!
# How often texts occur, and which occurs most often

`Frequencies.ofTexts` is what is counted of some texts. A text has been counted as often as it occurs
among them (`count_ofTexts`), and the texts are remembered in the order of their first occurrences,
each once (`latestFirst_ofTexts`). Looking at them in this order, and replacing the best one only by
one that occurs more often, finds the first of those that occur most often (`foldl_better`). That one
is also the first to be met among the texts themselves (`mode?_ofTexts`).
-/

namespace Tabula

namespace Frequencies

/-- What is counted of some texts. -/
def ofTexts (texts : List String) : Frequencies :=
  texts.foldl add {}

@[simp] theorem ofTexts_nil : ofTexts [] = {} := rfl

@[simp] theorem ofTexts_concat (texts : List String) (text : String) :
    ofTexts (texts ++ [text]) = (ofTexts texts).add text := by
  rw [ofTexts, List.foldl_concat, ofTexts]

/-! ### What one more text changes -/

theorem getElem?_counts_add (f : Frequencies) (text other : String) :
    (f.add text).counts[other]? =
      if text = other then some (f.count text + 1) else f.counts[other]? := by
  obtain ⟨counts, latestFirst⟩ := f
  rw [add, count, Std.HashMap.getD_eq_getD_getElem?]
  cases h : counts[text]? <;> simp [Std.HashMap.getElem?_insert]

theorem latestFirst_add (f : Frequencies) (text : String) :
    (f.add text).latestFirst =
      if f.counts[text]?.isSome then f.latestFirst else text :: f.latestFirst := by
  obtain ⟨counts, latestFirst⟩ := f
  rw [add]
  cases counts[text]? <;> simp

/-! ### What has been counted -/

theorem getElem?_counts_ofTexts (texts : List String) (text : String) :
    (ofTexts texts).counts[text]? = if text ∈ texts then some (texts.count text) else none := by
  induction texts using List.reverseRecOn with
  | nil => simp
  | append_singleton texts last ih =>
    rw [ofTexts_concat, getElem?_counts_add, count, Std.HashMap.getD_eq_getD_getElem?]
    by_cases h : last = text
    · subst h
      rw [ih]
      by_cases hmem : last ∈ texts <;> simp [hmem, List.count_eq_zero_of_not_mem]
    · rw [if_neg h, ih]
      simp [h, Ne.symm h]

theorem count_ofTexts (texts : List String) (text : String) :
    (ofTexts texts).count text = texts.count text := by
  rw [count, Std.HashMap.getD_eq_getD_getElem?, getElem?_counts_ofTexts]
  split
  · rfl
  · next h => rw [List.count_eq_zero_of_not_mem h]; rfl

theorem latestFirst_ofTexts (texts : List String) :
    (ofTexts texts).latestFirst = texts.eraseDups.reverse := by
  induction texts using List.reverseRecOn with
  | nil => rfl
  | append_singleton texts last ih =>
    rw [ofTexts_concat, latestFirst_add, getElem?_counts_ofTexts, ih, eraseDups_concat]
    by_cases h : last ∈ texts <;> simp [h]

theorem distinct_ofTexts (texts : List String) :
    (ofTexts texts).distinct = texts.toFinset.card := by
  have hsame : texts.eraseDups.toFinset = texts.toFinset := by
    ext text
    simp
  rw [distinct, latestFirst_ofTexts, List.length_reverse, ← hsame,
    List.toFinset_card_of_nodup (nodup_eraseDups texts)]

/-! ### The most frequent text -/

/-- The best of some texts is the first of those that occur most often. -/
theorem foldl_better (f : Frequencies) {texts : List String} (hne : texts ≠ []) :
    ∃ best before after, texts.foldl f.better none = some best ∧
      texts = before ++ best :: after ∧
      (∀ text ∈ before, f.count text < f.count best) ∧
      ∀ text ∈ after, f.count text ≤ f.count best := by
  induction texts using List.reverseRecOn with
  | nil => exact absurd rfl hne
  | append_singleton texts last ih =>
    -- the best so far stays before the last text, unless that one is better than it
    rw [List.foldl_concat]
    by_cases htexts : texts = []
    · subst htexts
      exact ⟨last, [], [], rfl, rfl, by simp, by simp⟩
    · obtain ⟨best, before, after, hbest, rfl, hbefore, hafter⟩ := ih htexts
      rw [hbest, better]
      split
      · next hle =>
        refine ⟨best, before, after ++ [last], rfl, by simp, hbefore, ?_⟩
        intro text htext
        rcases List.mem_append.1 htext with h | h
        · exact hafter text h
        · rwa [List.mem_singleton.1 h]
      · -- the last text occurs more often than the best so far, and so than all before it
        next hlt =>
        have hlt : f.count best < f.count last := Nat.lt_of_not_le hlt
        refine ⟨last, before ++ best :: after, [], rfl, rfl, ?_, by simp⟩
        intro text htext
        rcases List.mem_append.1 htext with h | h
        · exact Nat.lt_trans (hbefore text h) hlt
        · rcases List.mem_cons.1 h with rfl | h
          · exact hlt
          · exact Nat.lt_of_le_of_lt (hafter text h) hlt

/-- What is met before the first occurrence of a text is remembered before it. -/
theorem mem_of_eraseDups_eq {texts before after front back : List String} {text other : String}
    (htexts : texts = before ++ text :: after) (hfirst : text ∉ before)
    (herase : texts.eraseDups = front ++ text :: back) (hother : other ∈ before) :
    other ∈ front := by
  obtain ⟨rest, hsplit⟩ : ∃ rest, texts.eraseDups = before.eraseDups ++ text :: rest := by
    rw [htexts, List.eraseDups_append, List.cons_removeAll, if_pos (by simpa using hfirst),
      List.eraseDups_cons]
    exact ⟨_, rfl⟩
  -- Both cuts are at the one place where the text is remembered.
  have hnodup := List.nodup_middle.1 (herase ▸ nodup_eraseDups texts)
  have hnot : text ∉ front ++ back := (List.nodup_cons.1 hnodup).1
  rw [List.mem_append, not_or] at hnot
  obtain ⟨rfl, -, -⟩ := (List.append_cons_inj_of_notMem hnot.1 hnot.2).1 (herase.symm.trans hsplit)
  exact List.mem_eraseDups.2 hother

/-- The first text that no text of the line outnumbers. -/
def mostFrequent? (texts : List String) : Option String :=
  texts.find? fun text => texts.all fun other => texts.count other ≤ texts.count text

theorem mostFrequent?_eq_some {texts before after : List String} {text : String}
    (htexts : texts = before ++ text :: after)
    (hbefore : ∀ other ∈ before, texts.count other < texts.count text)
    (hall : ∀ other ∈ texts, texts.count other ≤ texts.count text) :
    mostFrequent? texts = some text := by
  rw [mostFrequent?, List.find?_eq_some_iff_append]
  refine ⟨by simpa using hall, before, after, htexts, fun other hother => ?_⟩
  have hmem : text ∈ texts := by simp [htexts]
  have hmore := hbefore other hother
  simpa using ⟨text, hmem, hmore⟩

theorem exists_mode?_eq_some {texts : List String} (hne : texts ≠ []) :
    ∃ mode, (ofTexts texts).mode? = some mode ∧ mostFrequent? texts = some mode := by
  have hkept : texts.eraseDups ≠ [] := fun h => by
    simpa [h] using List.mem_eraseDups.2 (List.head_mem hne)
  obtain ⟨mode, front, back, hmode, herase, hfront, hback⟩ := foldl_better (ofTexts texts) hkept
  simp only [count_ofTexts] at hfront hback
  have hmem (text : String) : text ∈ texts ↔ text ∈ front ∨ text = mode ∨ text ∈ back := by
    rw [← List.mem_eraseDups, herase, List.mem_append, List.mem_cons]
  obtain ⟨before, after, htexts, hfirst⟩ :=
    List.eq_append_cons_of_mem ((hmem mode).2 (.inr (.inl rfl)))
  refine ⟨mode, ?_, mostFrequent?_eq_some htexts (fun text htext => ?_) fun text htext => ?_⟩
  · rw [mode?, latestFirst_ofTexts, List.reverse_reverse, hmode]
  · exact hfront text (mem_of_eraseDups_eq htexts hfirst herase htext)
  · rcases (hmem text).1 htext with h | rfl | h
    · exact (hfront text h).le
    · exact le_rfl
    · exact hback text h

/-- The most frequent of the texts counted is the first of the texts that none outnumbers. -/
theorem mode?_ofTexts (texts : List String) : (ofTexts texts).mode? = mostFrequent? texts := by
  by_cases hne : texts = []
  · subst hne
    rfl
  · obtain ⟨mode, hmode, hfirst⟩ := exists_mode?_eq_some hne
    rw [hmode, hfirst]

-- Of two texts that occur equally often, the one met first is the most frequent.
example : mostFrequent? ["b", "a", "a", "b", "c"] = some "b" := by decide

theorem mostFrequent?_eq_none_iff {texts : List String} :
    mostFrequent? texts = none ↔ texts = [] := by
  refine ⟨fun hnone => ?_, fun h => h ▸ rfl⟩
  by_contra hne
  obtain ⟨mode, -, hfirst⟩ := exists_mode?_eq_some hne
  simp [hfirst] at hnone

end Frequencies

end Tabula
