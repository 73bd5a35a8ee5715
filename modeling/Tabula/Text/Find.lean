/-!
# Finding one text inside another

`occursIn` decides whether a text occurs inside another, and `cut?` cuts a text in two around the
first occurrence of a separator. The parts of a cut and the separator between them are the text
(`eq_of_cut?_eq_some`), and the first part is the shortest that there is
(`length_le_of_cut?_eq_some`). So a separator is found where it is written, unless it occurs in what
stands before, or begins there and ends in the separator itself (`cut?_append_of_not_infix`).
-/

namespace Tabula.Text

/-- Whether `part` occurs somewhere in `s`. -/
def occursIn (part : List Char) : List Char → Bool
  | [] => part.isEmpty
  | c :: s => part.isPrefixOf (c :: s) || occursIn part s

/-- What stands before and after the first occurrence of `separator`. -/
def cut? (separator : List Char) : List Char → Option (List Char × List Char)
  | [] => if separator.isEmpty then some ([], []) else none
  | c :: s =>
    if separator.isPrefixOf (c :: s) then some ([], (c :: s).drop separator.length)
    else (cut? separator s).map fun (before, after) => (c :: before, after)

theorem occursIn_iff {part s : List Char} : occursIn part s = true ↔ part <:+: s := by
  induction s with
  | nil => simp [occursIn]
  | cons c s ih => simp [occursIn, ih, List.infix_cons_iff]

theorem eq_of_cut?_eq_some {separator s before after : List Char}
    (h : cut? separator s = some (before, after)) : s = before ++ separator ++ after := by
  induction s generalizing before after with
  | nil =>
    simp only [cut?, List.isEmpty_iff] at h
    split at h <;> simp_all
  | cons c s ih =>
    simp only [cut?] at h
    split at h
    · rename_i hp
      obtain ⟨t, ht⟩ := List.isPrefixOf_iff_prefix.1 hp
      simp only [Option.some.injEq, Prod.mk.injEq] at h
      obtain ⟨rfl, rfl⟩ := h
      rw [← ht]
      simp
    · simp only [Option.map_eq_some_iff, Prod.mk.injEq, Prod.exists] at h
      obtain ⟨b, a, hc, rfl, rfl⟩ := h
      simp [ih hc]

theorem cut?_eq_none_iff {separator s : List Char} :
    cut? separator s = none ↔ ¬ separator <:+: s := by
  induction s with
  | nil => simp [cut?]
  | cons c s ih =>
    rw [cut?, List.infix_cons_iff, ← List.isPrefixOf_iff_prefix]
    split <;> simp_all

/-- A text is cut at the first place where the separator occurs. -/
theorem length_le_of_cut?_eq_some {separator s before after front back : List Char}
    (h : cut? separator s = some (before, after)) (hs : s = front ++ separator ++ back) :
    before.length ≤ front.length := by
  -- on the text: where it does not begin with the separator, the other place is not here either
  induction s generalizing before front with
  | nil =>
    rw [cut?] at h
    split at h
    · obtain ⟨rfl, -⟩ := Prod.mk.inj (Option.some.inj h)
      exact Nat.zero_le _
    · exact absurd h (by simp)
  | cons c s ih =>
    rw [cut?] at h
    split at h
    · obtain ⟨rfl, -⟩ := Prod.mk.inj (Option.some.inj h)
      exact Nat.zero_le _
    · next hprefix =>
      obtain ⟨⟨before, after⟩, hcut, heq⟩ := Option.map_eq_some_iff.1 h
      obtain ⟨rfl, rfl⟩ := Prod.mk.inj heq
      cases front with
      | nil =>
        rw [List.isPrefixOf_iff_prefix, hs] at hprefix
        exact absurd ⟨back, rfl⟩ hprefix
      | cons d front =>
        exact Nat.succ_le_succ (ih hcut (List.cons.inj hs).2)

/-- A separator is found where it is written, unless it occurs earlier. -/
theorem cut?_append_of_not_infix {separator before : List Char}
    (h : ¬ separator <:+: before ++ separator.dropLast) (after : List Char) :
    cut? separator (before ++ (separator ++ after)) = some (before, after) := by
  cases hcut : cut? separator (before ++ (separator ++ after)) with
  | none => exact absurd (List.infix_append' before separator after) (cut?_eq_none_iff.1 hcut)
  | some parts =>
    obtain ⟨front, back⟩ := parts
    have hparts : before ++ (separator ++ after) = front ++ (separator ++ back) := by
      simpa using eq_of_cut?_eq_some hcut
    have hle : front.length ≤ before.length :=
      length_le_of_cut?_eq_some hcut (List.append_assoc before separator after).symm
    rcases Nat.lt_or_eq_of_le hle with hlt | heq
    · -- an earlier occurrence ends before the separator that is written does
      have hearly : front ++ separator <+: before ++ separator.dropLast := by
        have hfront : front ++ separator <+: before ++ (separator ++ after) :=
          ⟨back, by rw [hparts, List.append_assoc]⟩
        have hbefore : before ++ separator.dropLast <+: before ++ (separator ++ after) :=
          (List.prefix_append_right_inj before).2
            ((List.dropLast_prefix separator).trans (List.prefix_append separator after))
        refine List.prefix_of_prefix_length_le hfront hbefore ?_
        simp only [List.length_append, List.length_dropLast]
        omega
      exact absurd ((List.suffix_append front separator).isInfix.trans hearly.isInfix) h
    · obtain ⟨rfl, hrest⟩ := List.append_inj hparts heq.symm
      rw [List.append_cancel_left hrest]

/-- A text without a character ends before it. -/
theorem prefix_of_prefix_append_cons {part s t : List Char} {x : Char} (hx : x ∉ part)
    (h : part <+: s ++ x :: t) : part <+: s := by
  rcases List.prefix_or_prefix_of_prefix h (List.prefix_append s (x :: t)) with hs | ⟨rest, rfl⟩
  · exact hs
  · rcases List.prefix_cons_iff.1 ((List.prefix_append_right_inj s).1 h) with rfl | ⟨_, rfl, -⟩
    · simp
    · exact absurd (List.mem_append_right s List.mem_cons_self) hx

/-- What stands in front of a character that the separator lacks is passed over as a whole. -/
theorem cut?_append_cons {separator s : List Char} {x : Char} (hx : x ∉ separator)
    (hs : ¬ separator <:+: s) (t : List Char) :
    cut? separator (s ++ x :: t) =
      (cut? separator t).map fun (before, after) => (s ++ x :: before, after) := by
  induction s with
  | nil =>
    have hprefix : ¬ separator.isPrefixOf (x :: t) = true := by
      rw [List.isPrefixOf_iff_prefix]
      exact fun h => hs (prefix_of_prefix_append_cons (s := []) hx h).isInfix
    rw [List.nil_append, cut?, if_neg hprefix]
    rfl
  | cons c s ih =>
    have hprefix : ¬ separator.isPrefixOf (c :: (s ++ x :: t)) = true := by
      rw [List.isPrefixOf_iff_prefix]
      exact fun h => hs (prefix_of_prefix_append_cons (s := c :: s) hx h).isInfix
    have hrest : ¬ separator <:+: s := fun h => hs (h.trans (List.suffix_cons c s).isInfix)
    rw [List.cons_append, cut?, if_neg hprefix, ih hrest, Option.map_map]
    rfl

/-- A word between two marks is found where it is written, unless it occurs in what stands before or
the mark and the word end that. -/
theorem cut?_append_of_marked {word s : List Char} {x : Char} (hx : x ∉ word)
    (hs : ¬ x :: word ++ [x] <:+: s) (hend : ¬ x :: word <:+ s) (t : List Char) :
    cut? (x :: word ++ [x]) (s ++ ((x :: word ++ [x]) ++ t)) = some (s, t) := by
  apply cut?_append_of_not_infix
  rw [List.dropLast_concat]
  rintro ⟨before, after, h⟩
  have heq : (before ++ x :: word) ++ x :: after = s ++ x :: word := by simpa using h
  -- the mark that ends the occurrence stands in `s`, or is the one in front of the word
  rcases List.append_eq_append_iff.1 heq with ⟨rest, hbefore, hafter⟩ | ⟨rest, hbefore, hafter⟩
  · cases rest with
    | nil => exact hend ⟨before, by rw [hbefore, List.append_nil]⟩
    | cons c rest =>
      obtain ⟨rfl, -⟩ := List.cons.inj hafter
      exact hs ⟨before, rest, by simp [hbefore]⟩
  · cases rest with
    | nil => exact hend ⟨before, by rw [hbefore, List.append_nil]⟩
    | cons c rest =>
      obtain ⟨-, rfl⟩ := List.cons.inj hafter
      exact hx (by simp)

end Tabula.Text
