import Mathlib.Data.List.Basic
import Tabula.Query

/-!
# How queries are read

A query is split at the sign of the first comparison, in the order of `Comparison.all`, whose sign
occurs in its text. That is a rule about the whole text, so it need not be the sign that was written
between column and operand: a sign that is looked for earlier may occur in the operand, and a column
may end in such a way that the sign of containment begins there. `Query.Legible` rules this out, and
then a query is read as it was written, but for blanks and quotation marks at the ends
(`parse?_written`). A query whose column and operand are fit to be written is read as it was written
exactly if it is legible, and otherwise as a query of another column (`reads_iff_legible`).

The signs that are looked for earlier have no blanks, so none of them reaches over the blanks that
stand between the three parts: `cut?_written` passes over the column and the sign as a whole.
-/

namespace Tabula

namespace Comparison

/-- The comparisons whose signs are looked for before that of a given one. -/
def earlier (k : Comparison) : List Comparison :=
  all.takeWhile (· != k)

theorem exists_all_eq (k : Comparison) : ∃ later, all = k.earlier ++ k :: later := by
  cases k <;> exact ⟨_, rfl⟩

theorem countP_name_pos (k : Comparison) : 0 < k.name.toList.countP (!Text.isBlank ·) := by
  cases k <;> decide

theorem sign_eq_name {k : Comparison} (hk : k ≠ .contains) : k.sign = k.name.toList := by
  cases k <;> first | rfl | exact absurd rfl hk

theorem blank_not_mem_sign {k : Comparison} (hk : k ≠ .contains) : ' ' ∉ k.sign := by
  cases k <;> first | decide | exact absurd rfl hk

theorem sign_ne_nil (k : Comparison) : k.sign ≠ [] := by
  cases k <;> decide

/-- The sign of containment is looked for last. -/
theorem ne_contains_of_mem_earlier {j k : Comparison} (hj : j ∈ k.earlier) : j ≠ .contains := by
  revert j
  cases k <;> decide

/-- No sign has one in it that is looked for earlier. -/
theorem not_infix_name {j k : Comparison} (hj : j ∈ k.earlier) :
    ¬ j.sign <:+: k.name.toList := by
  rw [← Text.occursIn_iff]
  revert j
  cases k <;> decide

end Comparison

namespace Query

variable {q : Query} {j : Comparison}

/-- The text that writes a query: its three parts, with blanks between them. -/
def written (q : Query) : String :=
  q.column ++ " " ++ q.comparison.name ++ " " ++ q.operand

theorem toList_written (q : Query) : q.written.toList =
    q.column.toList ++ ' ' :: (q.comparison.name.toList ++ ' ' :: q.operand.toList) := by
  simp [written]

theorem description_eq (q : Query) : q.description = "Filter rows where " ++ q.written := by
  unfold description written
  simp only [String.append_assoc]

/-! ### Signs that are looked for earlier -/

/-- A sign that is looked for earlier is found in the operand, if the column lacks it. -/
theorem cut?_written (hj : j ∈ q.comparison.earlier) (hcolumn : ¬ j.sign <:+: q.column.toList) :
    Text.cut? j.sign q.written.toList = (Text.cut? j.sign q.operand.toList).map
      fun (before, after) =>
        (q.column.toList ++ ' ' :: (q.comparison.name.toList ++ ' ' :: before), after) := by
  have hblank := Comparison.blank_not_mem_sign (Comparison.ne_contains_of_mem_earlier hj)
  rw [toList_written, Text.cut?_append_cons hblank hcolumn,
    Text.cut?_append_cons hblank (Comparison.not_infix_name hj), Option.map_map]
  rfl

theorem ofComparison?_written_eq_none_iff (hj : j ∈ q.comparison.earlier)
    (hcolumn : ¬ j.sign <:+: q.column.toList) :
    ofComparison? q.written.toList j = none ↔ ¬ j.sign <:+: q.operand.toList := by
  rw [ofComparison?, cut?_written hj hcolumn, Option.map_eq_none_iff, Option.map_eq_none_iff,
    Text.cut?_eq_none_iff]

/-- What is read at a sign that is looked for earlier has a longer column. -/
theorem column_ne_of_earlier {other : Query} (hj : j ∈ q.comparison.earlier)
    (hcolumn : ¬ j.sign <:+: q.column.toList)
    (hother : ofComparison? q.written.toList j = some other) : other.column ≠ q.column := by
  rw [ofComparison?, cut?_written hj hcolumn, Option.map_map] at hother
  obtain ⟨⟨before, after⟩, -, rfl⟩ := Option.map_eq_some_iff.1 hother
  intro heq
  -- the characters of the name that are no blanks have been added
  have hcount := congrArg (fun s : String => (s.toList.filter (!Text.isBlank ·)).length) heq
  simp only [Function.comp_apply, String.toList_ofList, Text.filter_trim,
    ← List.countP_eq_length_filter, List.countP_append, List.countP_cons] at hcount
  have hpos := q.comparison.countP_name_pos
  omega

/-! ### The sign itself -/

/-- Whether no sign is found in a query but where it is written: none that is looked for earlier
occurs in the operand, and the sign of containment does not begin within the column. -/
structure Legible (q : Query) : Prop where
  operand : ∀ j ∈ q.comparison.earlier, ¬ j.sign <:+: q.operand.toList
  column : q.comparison = .contains → ¬ " contains".toList <:+ q.column.toList

/-- The query without the blanks around its parts and the quotation marks around its operand. -/
def asRead (q : Query) : Query where
  column := String.ofList (Text.trimmed q.column)
  comparison := q.comparison
  operand := String.ofList (unmarked (Text.trimmed q.operand))

/-- A sign of order is found behind a column that lacks it. -/
theorem ofComparison?_written_of_order (horder : q.comparison ≠ .contains)
    (hcolumn : ¬ q.comparison.sign <:+: q.column.toList) :
    ofComparison? q.written.toList q.comparison = some q.asRead := by
  have hself : ¬ q.comparison.sign <:+: [] ++ q.comparison.sign.dropLast := by
    intro h
    have hlength := h.length_le
    have hpos := List.length_pos_iff.2 q.comparison.sign_ne_nil
    simp only [List.nil_append, List.length_dropLast] at hlength
    omega
  have hcut := Text.cut?_append_of_not_infix hself (' ' :: q.operand.toList)
  rw [List.nil_append] at hcut
  rw [ofComparison?, toList_written, ← Comparison.sign_eq_name horder,
    Text.cut?_append_cons (Comparison.blank_not_mem_sign horder) hcolumn, hcut, asRead]
  simp only [Option.map_some, Text.trimmed, Text.trim_append_blank (b := ' ') (by decide),
    Text.trim_blank_cons (b := ' ') (by decide)]

theorem sign_contains :
    Comparison.contains.sign = ' ' :: Comparison.contains.name.toList ++ [' '] := by
  decide

/-- The sign of containment is found behind a column that lacks it, unless it begins there. -/
theorem ofComparison?_written_of_contains (hcontains : q.comparison = .contains)
    (hcolumn : ¬ q.comparison.sign <:+: q.column.toList)
    (hend : ¬ " contains".toList <:+ q.column.toList) :
    ofComparison? q.written.toList q.comparison = some q.asRead := by
  have hword : " contains".toList = ' ' :: Comparison.contains.name.toList := by decide
  have hblank : ' ' ∉ Comparison.contains.name.toList := by decide
  rw [hcontains, sign_contains] at hcolumn
  rw [hword] at hend
  have htext : q.written.toList = q.column.toList ++
      ((' ' :: Comparison.contains.name.toList ++ [' ']) ++ q.operand.toList) := by
    rw [toList_written, hcontains]
    simp
  rw [hcontains, ofComparison?, htext, sign_contains,
    Text.cut?_append_of_marked hblank hcolumn hend, asRead, hcontains]
  rfl

/-- A legible query is read as it was written, if its column has none of the signs that are looked
for until its own is found. -/
theorem parse?_written (hq : q.Legible) (hown : ¬ q.comparison.sign <:+: q.column.toList)
    (hearlier : ∀ j ∈ q.comparison.earlier, ¬ j.sign <:+: q.column.toList) :
    parse? q.written = some q.asRead := by
  obtain ⟨later, hall⟩ := q.comparison.exists_all_eq
  rw [parse?, hall, List.findSome?_eq_some_iff]
  refine ⟨q.comparison.earlier, q.comparison, later, rfl, ?_, ?_⟩
  · by_cases hk : q.comparison = .contains
    · exact ofComparison?_written_of_contains hk hown (hq.column hk)
    · exact ofComparison?_written_of_order hk hown
  · intro j hj
    exact (ofComparison?_written_eq_none_iff hj (hearlier j hj)).2 (hq.operand j hj)

theorem exists_mem_sign {k : Comparison} (hk : k ≠ .contains) :
    ∃ x ∈ ['<', '>', '='], x ∈ k.sign := by
  cases k with
  | atLeast | atMost | differs | equals => exact ⟨'=', by decide, by decide⟩
  | above => exact ⟨'>', by decide, by decide⟩
  | below => exact ⟨'<', by decide, by decide⟩
  | contains => exact absurd rfl hk

theorem not_infix_of_forall_not_mem {k : Comparison} (hk : k ≠ .contains) {s : List Char}
    (hs : ∀ x ∈ ['<', '>', '='], x ∉ s) : ¬ k.sign <:+: s := by
  intro h
  obtain ⟨x, hx, hsign⟩ := exists_mem_sign hk
  exact hs x hx (h.subset hsign)

/-- A text with a sign of order between blanks is read as what stands before it and behind it, if
neither has a character of which these signs consist. -/
theorem parse?_eq_some {column operand : String} {k : Comparison} (hk : k ≠ .contains)
    (hcolumn : ∀ x ∈ ['<', '>', '='], x ∉ column.toList)
    (hoperand : ∀ x ∈ ['<', '>', '='], x ∉ operand.toList) :
    parse? (column ++ " " ++ k.name ++ " " ++ operand) =
      some
        { column := String.ofList (Text.trimmed column)
          comparison := k
          operand := String.ofList (unmarked (Text.trimmed operand)) } := by
  have hearlier {j} (hj : j ∈ k.earlier) := Comparison.ne_contains_of_mem_earlier hj
  have hlegible : Legible ⟨column, k, operand⟩ :=
    { operand := fun j hj => not_infix_of_forall_not_mem (hearlier hj) hoperand
      column := fun h => absurd h hk }
  change parse? (written ⟨column, k, operand⟩) = some (asRead ⟨column, k, operand⟩)
  apply parse?_written hlegible (not_infix_of_forall_not_mem hk hcolumn)
  intro j hj
  exact not_infix_of_forall_not_mem (hearlier hj) hcolumn

/-! ### Queries that are fit to be written -/

/-- Queries that are fit to be written: the column has no sign in it, there are no blanks at the ends
of column and operand, and no quotation marks at those of the operand. -/
structure Fit (q : Query) : Prop where
  trimmed_column : Text.trimmed q.column = q.column.toList
  signless : ∀ k : Comparison, ¬ k.sign <:+: q.column.toList
  trimmed_operand : Text.trimmed q.operand = q.operand.toList
  unmarked_operand : unmarked q.operand.toList = q.operand.toList

theorem Fit.asRead_eq (hq : q.Fit) : q.asRead = q := by
  rw [asRead, hq.trimmed_column, hq.trimmed_operand, hq.unmarked_operand, String.ofList_toList,
    String.ofList_toList]

/-- Where a sign that is looked for earlier occurs in the operand, one such sign is read. -/
theorem Fit.exists_parse?_of_infix (hq : q.Fit) (hj : j ∈ q.comparison.earlier)
    (hoccurs : j.sign <:+: q.operand.toList) :
    ∃ other, parse? q.written = some other ∧ other.column ≠ q.column := by
  obtain ⟨later, hall⟩ := q.comparison.exists_all_eq
  cases hfind : q.comparison.earlier.findSome? (ofComparison? q.written.toList) with
  | none =>
    have hnone := List.findSome?_eq_none_iff.1 hfind j hj
    exact absurd hoccurs ((ofComparison?_written_eq_none_iff hj (hq.signless j)).1 hnone)
  | some other =>
    obtain ⟨i, hi, hother⟩ := List.exists_of_findSome?_eq_some hfind
    refine ⟨other, ?_, column_ne_of_earlier hi (hq.signless i) hother⟩
    rw [parse?, hall, List.findSome?_append, hfind]
    rfl

/-- Where the sign of containment begins within the column, what is read there is shorter. -/
theorem Fit.exists_parse?_of_suffix (hq : q.Fit)
    (hoperand : ∀ j ∈ q.comparison.earlier, ¬ j.sign <:+: q.operand.toList)
    (hcontains : q.comparison = .contains) (hend : " contains".toList <:+ q.column.toList) :
    ∃ other, parse? q.written = some other ∧ other.column ≠ q.column := by
  obtain ⟨front, hfront⟩ := hend
  have htext : q.written.toList = front ++ Comparison.contains.sign ++
      (Comparison.contains.name.toList ++ ' ' :: q.operand.toList) := by
    have hsign : Comparison.contains.sign = " contains".toList ++ [' '] := by decide
    rw [toList_written, hcontains, ← hfront, hsign]
    simp
  cases hcut : Text.cut? Comparison.contains.sign q.written.toList with
  | none => exact absurd ⟨front, _, htext.symm⟩ (Text.cut?_eq_none_iff.1 hcut)
  | some parts =>
    obtain ⟨before, after⟩ := parts
    -- the cut is at that place or in front of it, so the column that is read is shorter
    have hbefore := Text.length_le_of_cut?_eq_some hcut htext
    have hcolumn : (Text.trim before).length < q.column.toList.length := by
      have htrim := Text.length_trim_le before
      rw [← hfront, List.length_append]
      have hpos : 0 < " contains".toList.length := by decide
      omega
    refine ⟨_, List.findSome?_eq_some_iff.2 ⟨Comparison.contains.earlier, .contains, [], rfl,
      by rw [ofComparison?, hcut]; rfl, ?_⟩, ?_⟩
    · intro j hj
      rw [← hcontains] at hj
      exact (ofComparison?_written_eq_none_iff hj (hq.signless j)).2 (hoperand j hj)
    · intro heq
      rw [← heq, String.toList_ofList] at hcolumn
      exact absurd hcolumn (Nat.lt_irrefl _)

theorem Fit.exists_parse?_of_not_legible (hq : q.Fit) (hnot : ¬ q.Legible) :
    ∃ other, parse? q.written = some other ∧ other.column ≠ q.column := by
  by_cases hoperand : ∀ j ∈ q.comparison.earlier, ¬ j.sign <:+: q.operand.toList
  · by_cases hend : q.comparison = .contains → ¬ " contains".toList <:+ q.column.toList
    · exact absurd ⟨hoperand, hend⟩ hnot
    · push Not at hend
      exact hq.exists_parse?_of_suffix hoperand hend.1 hend.2
  · push Not at hoperand
    obtain ⟨j, hj, hoccurs⟩ := hoperand
    exact hq.exists_parse?_of_infix hj hoccurs

end Query

/-- **What a query says.** Let a column of the dataset and an operand be fit to be written. Then the
text of a query with any comparison is read as that query exactly if the query is legible: no sign
that is looked for earlier occurs in the operand, and the sign of containment does not begin within
the column. If so, the query runs, keeps the rows whose cells stand in the relation to the operand,
and says so; in particular, a query for containment keeps the rows whose cells show the operand, all
in lower case. If not, the text is read as a query of another column. -/
theorem Query.reads_iff_legible {d : Dataset} {q : Query} (hd : q.column ∈ d.columns)
    (hq : q.Fit) :
    (parse? q.written = some q ↔ q.Legible) ∧
    (q.Legible → ∃ kept, run d q.written = .ok (kept, "Filter rows where " ++ q.written) ∧
      kept.columns = d.columns ∧
      kept.rows = d.rows.filter (fun row =>
        q.comparison.holds (Row.cell row q.column) (.text q.operand)) ∧
      (q.comparison = .contains → ∀ row, row ∈ kept.rows ↔ row ∈ d.rows ∧
        Text.lowercase q.operand.toList <:+:
          Text.lowercase (Row.cell row q.column).display.toList)) ∧
    (¬ q.Legible → ∃ other, parse? q.written = some other ∧ other.column ≠ q.column) := by
  have hread (h : q.Legible) : parse? q.written = some q := by
    rw [parse?_written h (hq.signless _) fun j _ => hq.signless j, hq.asRead_eq]
  refine ⟨⟨?_, hread⟩, ?_, hq.exists_parse?_of_not_legible⟩
  · intro hparse
    by_contra hnot
    obtain ⟨other, hother, hne⟩ := hq.exists_parse?_of_not_legible hnot
    rw [hparse, Option.some.injEq] at hother
    exact hne (hother ▸ rfl)
  · intro h
    refine ⟨q.select d, ?_, rfl, rfl, ?_⟩
    · rw [← description_eq]
      exact run_eq_ok_iff.2 ⟨q, hread h, by simpa [Dataset.isColumn] using hd, rfl⟩
    · intro hcontains row
      rw [select, Dataset.rows_select, List.mem_filter, keeps, hcontains, Comparison.holds,
        Cell.shows, Text.occursIn_iff]
      rfl

/-- Notes that have signs in them. -/
def notes : Dataset where
  columns := ["note"]
  rows := [⟨[("note", .text "x >= 1")], by simp⟩, ⟨[("note", .text "It contains X")], by simp⟩,
    ⟨[("note", .null)], by simp⟩]

theorem Query.signless_note (k : Comparison) : ¬ k.sign <:+: "note".toList := by
  rw [← Text.occursIn_iff]
  cases k <;> decide

/-- An operand may have the word for containment in it. -/
theorem Query.reads_containment_notes : ∃ kept,
    run notes "note contains contains x" =
      .ok (kept, "Filter rows where note contains contains x") ∧
    kept.rows.map (Row.cell · "note") = [.text "It contains X"] := by
  have hfit : Fit ⟨"note", .contains, "contains x"⟩ :=
    ⟨by decide, signless_note, by decide, by decide⟩
  have hlegible : Legible ⟨"note", .contains, "contains x"⟩ := by
    refine ⟨?_, fun _ => by decide⟩
    simp only [← Text.occursIn_iff]
    decide
  obtain ⟨-, hrun, -⟩ := reads_iff_legible (d := notes) List.mem_cons_self hfit
  obtain ⟨kept, hkept, -, hrows, -⟩ := hrun hlegible
  refine ⟨kept, hkept, ?_⟩
  rw [hrows]
  decide +kernel

/-- The sign in an operand is taken for that of the query: what is read is a query of a column
`note = x`. -/
theorem Query.unread_sign_notes :
    "note" ∈ notes.columns ∧ Fit ⟨"note", .equals, "x >= 1"⟩ ∧
      parse? "note = x >= 1" = some ⟨"note = x", .atLeast, "1"⟩ ∧
      run notes "note = x >= 1" = .error (.unknownColumn ["note"]) := by
  refine ⟨List.mem_cons_self, ⟨by decide, signless_note, by decide, by decide⟩, ?_, ?_⟩
  · decide +kernel
  · decide +kernel

end Tabula
