import Tabula.Proofs.Json.Document
import Tabula.Settings

/-!
# Saved settings are loaded again

Settings are written as a document of which each part is read back: sizes that a machine word holds,
patterns of any characters, kinds under any names (`reads_toJson`). The file holds what was saved
whether or not it makes sense; loading checks it. So settings that pass the check are loaded as they
were saved, others are refused with the fault of the check, and no file at all gives settings with a
size of zero.
-/

namespace Tabula.Settings

open Json

variable {s : Settings}

/-! ### Loading checks -/

theorem check_of_parse {text : String} (h : parse text = .ok s) : s.check = .ok () := by
  unfold parse at h
  split at h
  · exact absurd h (by simp)
  · next s' _ =>
    cases hcheck : s'.check with
    | error fault => simp [hcheck, bind, Except.bind] at h
    | ok _ =>
      simp only [hcheck, bind, Except.bind, pure, Except.pure] at h
      obtain rfl := Except.ok.inj h
      exact hcheck

/-- Settings that were loaded make sense. -/
theorem check_of_load {bytes : Option ByteArray} (h : load bytes = .ok s) : s.check = .ok () := by
  unfold load at h
  split at h
  · exact absurd h (by simp)
  · split at h
    · exact absurd h (by simp)
    · exact check_of_parse h

theorem check_eq_ok_iff :
    s.check = .ok () ↔ 1 ≤ s.pageSize ∧ 1 ≤ s.batchSize ∧ 1 ≤ s.exactMedianLimit := by
  rw [← fault?_eq_none_iff, check]
  cases s.fault? <;> simp

theorem eq_setting_of_check {fault : DataFault} (h : s.check = .error fault) :
    ∃ message, fault = .setting message := by
  have hfault : s.fault? = some fault := by
    unfold check at h
    split at h
    · next hsome => rw [hsome, Except.error.inj h]
    · exact absurd h (by simp)
  unfold fault? at hfault
  split at hfault
  · exact ⟨_, (Option.some.inj hfault).symm⟩
  · split at hfault
    · exact ⟨_, (Option.some.inj hfault).symm⟩
    · split at hfault
      · exact ⟨_, (Option.some.inj hfault).symm⟩
      · exact absurd hfault (by simp)

/-! ### The file is read back -/

/-- Sizes that a machine word holds. -/
structure Fits (s : Settings) : Prop where
  /-- The page size. -/
  pageSize_lt : s.pageSize < wordBound
  /-- The batch size. -/
  batchSize_lt : s.batchSize < wordBound
  /-- The limit of the exact median. -/
  exactMedianLimit_lt : s.exactMedianLimit < wordBound

/-- A rule for missing values is read back, whatever the characters of its patterns. -/
theorem reads_missing (rule : MissingRule) :
    Reads missingDecoder 2
      (.object
        [("patterns", .array (rule.patterns.map .string)),
         ("trim_whitespace", .bool rule.trimBlanks),
         ("case_sensitive", .bool rule.caseSensitive)]) rule := by
  have hpatterns : Reads (array string) 1 (.array (rule.patterns.map .string)) rule.patterns :=
    reads_array (fun pattern _ => reads_string pattern) fun pattern _ => starts_string pattern
  refine reads_record (.cons rfl rfl (reads_of hpatterns) <|
    .cons rfl rfl (reads_of (reads_bool _)) <| .cons rfl rfl (reads_of (reads_bool _)) (.nil _)) rfl

/-- Kinds are read back under any names. -/
theorem reads_columnKinds (kinds : OrderedMap ColumnKind) :
    Reads (object ColumnKind.decoder) 1
      (.object (kinds.entries.map fun (column, kind) => (column, .string kind.name))) kinds :=
  reads_object (f := fun kind : ColumnKind => .string kind.name) fun e _ =>
    reads_choice (ColumnKind.lookup_name e.2)

/-- Settings are read back. -/
theorem reads_toJson (hs : s.Fits) : Reads decoder 3 s.toJson s := by
  have hsize {n : Nat} (h : n < wordBound) : Reads nat64 2 (.nat n) n :=
    reads_natBelow (Nat.le_refl _) h
  refine reads_record (.cons rfl rfl (reads_of (hsize hs.pageSize_lt)) <|
    .cons rfl rfl (reads_of (hsize hs.batchSize_lt)) <|
    .cons rfl rfl (reads_of (hsize hs.exactMedianLimit_lt)) <|
    .cons rfl rfl (reads_of (reads_missing s.missing)) <|
    .cons rfl rfl (reads_of ((reads_columnKinds s.columnKinds).mono (by decide))) (.nil _)) rfl

theorem fromUTF8?_toUTF8 (text : String) : String.fromUTF8? text.toUTF8 = some text := by
  unfold String.fromUTF8?
  rw [String.toUTF8_eq_toByteArray, dif_pos text.isValidUTF8]
  rfl

/-- Loading a saved file is checking what was saved. -/
theorem load_saved (hs : s.Fits) : load (some s.saved.toUTF8) = s.check.map fun _ => s := by
  have hdecode : decode decoder s.saved.toList = .ok s :=
    (reads_toJson hs).decode_pretty (by decide)
  rw [load, fromUTF8?_toUTF8]
  simp only [parse, hdecode]
  cases s.check <;> rfl

/-- **Saved settings.** Settings are loaded as they were saved exactly if they pass the check, and
are refused with the fault of the check if not. No file is loaded as settings with a size of
zero. -/
theorem load_of_saved (s : Settings) (hs : s.Fits) :
    (load (some s.saved.toUTF8) = .ok s ↔ s.check = .ok ()) ∧
      (∀ fault, s.check = .error fault →
        load (some s.saved.toUTF8) = .error fault ∧ ∃ message, fault = .setting message) ∧
      ∀ (file : Option ByteArray) (loaded : Settings), load file = .ok loaded →
        1 ≤ loaded.pageSize ∧ 1 ≤ loaded.batchSize ∧ 1 ≤ loaded.exactMedianLimit := by
  rw [load_saved hs]
  refine ⟨⟨fun hload => ?_, fun hcheck => by rw [hcheck]; rfl⟩, fun fault hcheck => ?_, ?_⟩
  · cases hcheck : s.check with
    | error fault => simp [hcheck, Except.map] at hload
    | ok _ => rfl
  · exact ⟨by rw [hcheck]; rfl, eq_setting_of_check hcheck⟩
  · exact fun file loaded hload => check_eq_ok_iff.1 (check_of_load hload)

/-- Settings with the greatest size, patterns that need escapes and a column without a name. -/
def unusual : Settings where
  pageSize := 18446744073709551615
  missing := { patterns := ["\"n/a\"", "\\\x00\x1f\n\t/", "—é𝄞"], caseSensitive := true }
  columnKinds := .ofList [("", .temporal), ("\x7f\"", .categorical)]

theorem load_of_saved_unusual :
    unusual.Fits ∧ load (some unusual.saved.toUTF8) = .ok unusual := by
  have hfits : unusual.Fits := ⟨by decide, by decide, by decide⟩
  exact ⟨hfits, (load_of_saved unusual hfits).1.2 rfl⟩

end Tabula.Settings
