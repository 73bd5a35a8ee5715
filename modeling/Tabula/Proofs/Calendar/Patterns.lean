import Mathlib.Data.List.Pairwise
import Tabula.Proofs.Calendar.Numeral
import Tabula.Proofs.Decimal.Digits

/-!
# Date patterns apart

Each pattern of a date alone has characters of its own: a comma, the letters of a month, one or the
other separator. A text that one pattern reads shows them (`Part.exists_mem_of_readFrom?`) and has
no characters but those of the pattern (`Part.allows_of_readFrom?`), so patterns that differ there
have no text in common. A colon tells them all from timestamps and from patterns with a time.

Two patterns are not told apart in this way, since both have slashes. A year may have fewer than
four digits, so three numbers of at most two digits are a date in either (`Doubtful`), and the
pattern that is tried first decides.
-/

namespace Tabula.Calendar

open Tabula.Text Tabula.Decimal Calendar.Part Calendar.Field

variable {part : Part} {field : Field} {p q : Pattern} {n n' : Numbers} {s t rest : List Char}
  {m m' : Moment} {c : Char} {v : Nat}

/-! ### The characters of a date text -/

/-- Whether a part may take a character. -/
def Part.allows : Part → Char → Bool
  | .number _, c => c.isDigit || isBlank c || c = '+' || c = '-'
  | .literal d, c => c = d
  | .blanks, c => isBlank c
  | .monthName, c => c.isAlpha
  | .fraction, c => c = '.' || c.isDigit

/-- Whether a part takes a character at any rate. -/
def Part.isSolid : Part → Bool
  | .blanks | .fraction => false
  | _ => true

theorem trimStart_split (s : List Char) :
    ∃ blanks, s = blanks ++ trimStart s ∧ ∀ c ∈ blanks, isBlank c = true :=
  ⟨_, List.takeWhile_append_dropWhile.symm, List.all_eq_true.1 List.all_takeWhile⟩

theorem number?_eq_some {width : Nat} (h : number? width s = some (v, rest)) :
    ∃ digits, s = digits ++ rest ∧ v = valueOf digits ∧ digits ≠ [] ∧
      (∀ c ∈ digits, c.isDigit = true) ∧ digits.length ≤ width := by
  obtain ⟨hdigits, heq⟩ := leadingDigits_take_append s width
  unfold number? at h
  extract_lets digits at h
  split at h
  · exact absurd h (by simp)
  · next hsome =>
    obtain ⟨rfl, rfl⟩ := Prod.mk.inj (Option.some.inj h)
    refine ⟨digits, heq.symm, rfl, hsome, hdigits, ?_⟩
    exact Nat.le_trans (List.takeWhile_prefix _).length_le (List.length_take_le ..)

theorem longNumber?_eq_some (h : longNumber? s = some (v, rest)) :
    ∃ digits, s = digits ++ rest ∧ ∀ c ∈ digits, c.isDigit = true := by
  have hrest := afterDigits_of_longNumber? h
  exact ⟨leadingDigits s, by rw [← hrest]; exact List.takeWhile_append_dropWhile.symm,
    List.all_eq_true.1 List.all_takeWhile⟩

theorem nanos?_eq_some (h : nanos? s = some (v, rest)) :
    ∃ digits, s = digits ++ rest ∧ ∀ c ∈ digits, c.isDigit = true := by
  unfold nanos? at h
  extract_lets digits at h
  split at h
  · exact absurd h (by simp)
  · obtain ⟨-, rfl⟩ := Prod.mk.inj (Option.some.inj h)
    exact ⟨leadingDigits s, List.takeWhile_append_dropWhile.symm,
      List.all_eq_true.1 List.all_takeWhile⟩

theorem isAlpha_iff_toNat :
    c.isAlpha = true ↔ 65 ≤ c.toNat ∧ c.toNat ≤ 90 ∨ 97 ≤ c.toNat ∧ c.toNat ≤ 122 := by
  have hrange (low high : Char) :
      c.val ≥ low.val ∧ c.val ≤ high.val ↔ low.toNat ≤ c.toNat ∧ c.toNat ≤ high.toNat :=
    and_congr UInt32.le_iff_toNat_le UInt32.le_iff_toNat_le
  have hupper : c.isUpper = true ↔ 65 ≤ c.toNat ∧ c.toNat ≤ 90 :=
    decide_eq_true_iff.trans (hrange 'A' 'Z')
  have hlower : c.isLower = true ↔ 97 ≤ c.toNat ∧ c.toNat ≤ 122 :=
    Bool.and_eq_true_iff.trans <|
      (and_congr decide_eq_true_iff decide_eq_true_iff).trans (hrange 'a' 'z')
  exact Bool.or_eq_true_iff.trans (or_congr hupper hlower)

theorem isAlpha_of_isLower_toLower (h : c.toLower.isLower = true) : c.isAlpha = true := by
  unfold Char.toLower at h
  split at h
  · next hupper =>
    have hrange : 65 ≤ c.toNat ∧ c.toNat ≤ 90 := by
      simpa [UInt32.le_iff_toNat_le] using hupper
    exact isAlpha_iff_toNat.2 (.inl hrange)
  · exact Bool.or_eq_true_iff.2 (.inr h)

theorem isAlpha_of_monthNamed? {letters : List Char} {month : Nat}
    (h : monthNamed? letters = some month) : ∀ c ∈ letters, c.isAlpha = true := by
  obtain ⟨i, hi, -⟩ := Option.map_eq_some_iff.1 h
  have hmem : String.ofList (asciiLower letters) ∈ monthNames := by
    refine Decidable.byContradiction fun hnot => ?_
    rw [List.idxOf?_eq_none_iff.2 hnot] at hi
    cases hi
  have hlower : monthNames.all (·.toList.all Char.isLower) = true := by decide
  have hletters := List.all_eq_true.1 hlower _ hmem
  rw [String.toList_ofList] at hletters
  intro c hc
  exact isAlpha_of_isLower_toLower (List.all_eq_true.1 hletters _ (List.mem_map_of_mem hc))

/-- Behind the blanks before a number stands a sign or not, and then digits. -/
theorem Field.taken_of_read? (h : field.read? n s = some (n', rest)) :
    ∃ taken, s = taken ++ rest ∧ (∀ c ∈ taken, (number field).allows c = true) ∧ taken ≠ [] := by
  obtain ⟨blanks, hs, hblanks⟩ := trimStart_split s
  have hdigits : ∀ {digits : List Char}, (∀ c ∈ digits, c.isDigit = true) →
      ∀ c ∈ digits, (number field).allows c = true :=
    fun h c hc => by simp [allows, h c hc]
  -- the blanks come off first, so it is enough to look at the sign and the digits
  suffices ∃ signed, trimStart s = signed ++ rest ∧
      (∀ c ∈ signed, (number field).allows c = true) ∧ signed ≠ [] by
    obtain ⟨signed, hsigned, hallowed, hsome⟩ := this
    refine ⟨blanks ++ signed, by rw [List.append_assoc, ← hsigned, ← hs], ?_, by simp [hsome]⟩
    exact List.forall_mem_append.2 ⟨fun c hc => by simp [allows, hblanks c hc], hallowed⟩
  unfold Field.read? at h
  split at h
  · next heq =>
    obtain ⟨⟨v, rest'⟩, hnumber, hrest⟩ := Option.map_eq_some_iff.1 h
    obtain ⟨digits, rfl, hall⟩ := longNumber?_eq_some hnumber
    obtain rfl := (Prod.mk.inj hrest).2
    exact ⟨'-' :: digits, heq, List.forall_mem_cons.2 ⟨by simp [allows], hdigits hall⟩, by simp⟩
  · next heq =>
    obtain ⟨⟨v, rest'⟩, hnumber, hrest⟩ := Option.map_eq_some_iff.1 h
    obtain ⟨digits, rfl, hall⟩ := longNumber?_eq_some hnumber
    obtain rfl := (Prod.mk.inj hrest).2
    exact ⟨'+' :: digits, heq, List.forall_mem_cons.2 ⟨by simp [allows], hdigits hall⟩, by simp⟩
  · obtain ⟨⟨v, rest'⟩, hnumber, hrest⟩ := Option.map_eq_some_iff.1 h
    obtain ⟨digits, heq, -, hsome, hall, -⟩ := number?_eq_some hnumber
    obtain rfl := (Prod.mk.inj hrest).2
    exact ⟨digits, heq, hdigits hall, hsome⟩

/-- What a part takes off the front of a text. -/
theorem Part.taken_of_read? (h : part.read? n s = some (n', rest)) :
    ∃ taken, s = taken ++ rest ∧ (∀ c ∈ taken, part.allows c = true) ∧
      (part.isSolid = true → taken ≠ []) := by
  cases part with
  | number field =>
    obtain ⟨taken, hs, hallowed, hsome⟩ := Field.taken_of_read? h
    exact ⟨taken, hs, hallowed, fun _ => hsome⟩
  | literal d =>
    cases s with
    | nil => cases h
    | cons e s =>
      rw [Part.read?] at h
      split at h
      · next heq =>
        obtain ⟨rfl, rfl⟩ := Prod.mk.inj (Option.some.inj h)
        exact ⟨[e], rfl, by simp [allows, heq], by simp⟩
      · exact absurd h (by simp)
  | blanks =>
    obtain ⟨blanks, hs, hblanks⟩ := trimStart_split s
    obtain ⟨rfl, rfl⟩ := Prod.mk.inj (Option.some.inj h)
    exact ⟨blanks, hs, hblanks, by simp [isSolid]⟩
  | monthName =>
    obtain ⟨month, hmonth, hrest⟩ := Option.map_eq_some_iff.1 h
    obtain ⟨rfl, rfl⟩ := Prod.mk.inj hrest
    -- no month has the empty name, so that the text has letters to take
    refine ⟨s.take 3, (List.take_append_drop ..).symm, isAlpha_of_monthNamed? hmonth, ?_⟩
    rintro - hnone
    rw [hnone, monthNamed?_nil] at hmonth
    cases hmonth
  | fraction =>
    -- the first cases are the other parts; a fraction begins with a point or takes nothing
    unfold Part.read? at h
    split at h
    · next heq => cases heq
    · next heq => cases heq
    · next heq => cases heq
    · next heq => cases heq
    · next heq => cases heq
    · obtain ⟨⟨v, rest'⟩, hnanos, hrest⟩ := Option.map_eq_some_iff.1 h
      obtain ⟨digits, rfl, hall⟩ := nanos?_eq_some hnanos
      obtain rfl := (Prod.mk.inj hrest).2
      exact ⟨'.' :: digits, rfl, List.forall_mem_cons.2
        ⟨by simp [allows], fun c hc => by simp [allows, hall c hc]⟩, by simp⟩
    · obtain ⟨rfl, rfl⟩ := Prod.mk.inj (Option.some.inj h)
      exact ⟨[], rfl, by simp, by simp [isSolid]⟩

/-- The characters of a text that a pattern reads: none but those of its parts, and some of each
solid part. -/
theorem Pattern.characters_of_readFrom? (h : Pattern.readFrom? n s p = some n') :
    (∀ c ∈ s, ∃ part ∈ p, part.allows c = true) ∧
      ∀ part ∈ p, part.isSolid = true → ∃ c ∈ s, part.allows c = true := by
  -- on the parts: each takes its characters off the front and leaves the rest to those behind it
  induction p generalizing n s with
  | nil =>
    rw [Pattern.readFrom?] at h
    split at h
    · next hs => simp [hs]
    · exact absurd h (by simp)
  | cons part p ih =>
    obtain ⟨⟨n₁, rest⟩, hpart, hrest⟩ := Option.bind_eq_some_iff.1 h
    obtain ⟨taken, rfl, hallowed, hsome⟩ := Part.taken_of_read? hpart
    obtain ⟨hall, hsolid⟩ := ih hrest
    constructor
    · intro c hc
      rcases List.mem_append.1 hc with hc | hc
      · exact ⟨part, List.mem_cons_self, hallowed c hc⟩
      · obtain ⟨other, hother, hc⟩ := hall c hc
        exact ⟨other, List.mem_cons_of_mem _ hother, hc⟩
    · intro other hother hother_solid
      rcases List.mem_cons.1 hother with rfl | hother
      · obtain ⟨c, hc⟩ := List.exists_mem_of_ne_nil _ (hsome hother_solid)
        exact ⟨c, List.mem_append_left _ hc, hallowed c hc⟩
      · obtain ⟨c, hc, hallowed⟩ := hsolid other hother hother_solid
        exact ⟨c, List.mem_append_right _ hc, hallowed⟩

/-- What stands for a letter stands for no digit, blank or sign. -/
theorem not_allows_of_isAlpha (hc : c.isAlpha = true) : (number field).allows c = false := by
  have hrange := isAlpha_iff_toNat.1 hc
  have hdigit : c.isDigit = false := by
    rw [Bool.eq_false_iff, Ne, Char.isDigit_iff_toNat]
    simp only [Char.reduceToNat]
    omega
  have hblank : isBlank c = false := by
    simp only [isBlank, inRanges, blankRanges, List.any_cons, List.any_nil, Bool.or_false,
      Bool.or_eq_false_iff, Bool.and_eq_false_iff, decide_eq_false_iff_not]
    omega
  have hsign : ∀ d ∈ ['+', '-'], c ≠ d := by
    rintro d hd rfl
    simp at hd
    rcases hd with rfl | rfl <;> simp at hrange
  simp [allows, hdigit, hblank, hsign '+' (by simp), hsign '-' (by simp)]

/-! ### Patterns without a text in common -/

/-- No text fits both patterns. -/
def Pattern.Apart (p q : Pattern) : Prop :=
  ∀ s, p.read? s = none ∨ q.read? s = none

theorem Pattern.Apart.symm (h : Pattern.Apart p q) : Pattern.Apart q p :=
  fun s => (h s).symm

theorem Pattern.Apart.eq_none (h : Pattern.Apart p q) (hread : q.read? s = some m) :
    p.read? s = none :=
  (h s).resolve_right (by simp [hread])

/-- Patterns are apart where the characters of a solid part of one are foreign to the other. -/
theorem Pattern.apart_of_foreign (part : Part) (hpart : part ∈ p) (hsolid : part.isSolid = true)
    (hforeign : ∀ c, part.allows c = true → ∀ other ∈ q, other.allows c = false) :
    Pattern.Apart p q := by
  intro s
  cases hp : Pattern.readFrom? {} s p with
  | none => exact .inl (by simp [Pattern.read?, hp])
  | some n =>
    cases hq : Pattern.readFrom? {} s q with
    | none => exact .inr (by simp [Pattern.read?, hq])
    | some n' =>
      obtain ⟨c, hc, hallowed⟩ := (Pattern.characters_of_readFrom? hp).2 part hpart hsolid
      obtain ⟨other, hother, hother_allowed⟩ := (Pattern.characters_of_readFrom? hq).1 c hc
      exact absurd hother_allowed (by simp [hforeign c hallowed other hother])

theorem Pattern.apart_of_literal (hpart : .literal c ∈ p)
    (hforeign : ∀ other ∈ q, other.allows c = false) : Pattern.Apart p q := by
  refine Pattern.apart_of_foreign _ hpart rfl fun d hd => ?_
  obtain rfl : d = c := by simpa [allows] using hd
  exact hforeign

/-- Month, day and year, with slashes between. -/
def monthFirst : Pattern :=
  [number month, literal '/', number day, literal '/', number year]

/-- The two patterns that have slashes. -/
def HaveSlashes (p q : Pattern) : Prop :=
  p = yearFirst '/' ∧ q = monthFirst ∨ p = monthFirst ∧ q = yearFirst '/'

theorem datePatterns_pairwise :
    datePatterns.Pairwise fun p q =>
      Pattern.Apart p q ∨ p = yearFirst '/' ∧ q = monthFirst := by
  -- a slash, a comma or the name of a month is foreign to the other pattern
  have hslash {p q : Pattern} (hp : .literal '/' ∈ p)
      (hq : ∀ other ∈ q, other.allows '/' = false) : Pattern.Apart p q :=
    Pattern.apart_of_literal hp hq
  have hcomma {p q : Pattern} (hp : .literal ',' ∈ p)
      (hq : ∀ other ∈ q, other.allows ',' = false) : Pattern.Apart p q :=
    Pattern.apart_of_literal hp hq
  have hname : Pattern.Apart [number day, blanks, monthName, blanks, number year]
      (yearFirst '-') := by
    refine Pattern.apart_of_foreign .monthName (by decide) rfl fun c hc other hother => ?_
    have hnumber (field : Field) : (number field).allows c = false := not_allows_of_isAlpha hc
    have hdash : (literal '-').allows c = false := by
      have := hnumber .year
      simp only [allows, Bool.or_eq_false_iff] at this
      exact this.2
    simp only [yearFirst, List.mem_cons, List.not_mem_nil, or_false] at hother
    rcases hother with rfl | rfl | rfl | rfl | rfl <;> simp only [hnumber, hdash]
  simp only [datePatterns, List.pairwise_cons, List.forall_mem_cons, List.not_mem_nil,
    false_imp_iff, implies_true, and_true, List.Pairwise.nil]
  -- of the ten pairs one has texts in common: both of its patterns have slashes
  refine ⟨⟨.inl ?_, .inl ?_, .inl ?_, .inl ?_⟩, ⟨.inr ⟨trivial, rfl⟩, .inl ?_, .inl ?_⟩,
    ⟨.inl ?_, .inl ?_⟩, .inl ?_⟩
  · exact (hslash (by decide) (by decide)).symm
  · exact (hslash (by decide) (by decide)).symm
  · exact hname.symm
  · exact (hcomma (by decide) (by decide)).symm
  · exact hslash (by decide) (by decide)
  · exact hslash (by decide) (by decide)
  · exact hslash (by decide) (by decide)
  · exact hslash (by decide) (by decide)
  · exact (hcomma (by decide) (by decide)).symm

/-- A text of a date alone has no colon, so it fits no pattern with a time. -/
theorem apart_momentPatterns (hp : p ∈ momentPatterns) (hq : q ∈ datePatterns) :
    Pattern.Apart p q := by
  have hcolon : ∀ p ∈ momentPatterns, .literal ':' ∈ p := by decide
  have hforeign : ∀ q ∈ datePatterns, ∀ other ∈ q, other.allows ':' = false := by decide
  exact Pattern.apart_of_literal (hcolon p hp) (hforeign q hq)

theorem Timestamp.digits?_suffix {width : Nat} (h : Timestamp.digits? width s = some (v, rest)) :
    rest <:+ s := by
  unfold Timestamp.digits? at h
  extract_lets digits at h
  split at h
  · rw [← (Prod.mk.inj (Option.some.inj h)).2]
    exact List.drop_suffix ..
  · exact absurd h (by simp)

theorem Timestamp.after?_eq_some (h : Timestamp.after? c s = some rest) : s = c :: rest := by
  cases s with
  | nil => cases h
  | cons d s =>
    rw [Timestamp.after?] at h
    split at h
    · next heq => rw [heq, Option.some.inj h]
    · exact absurd h (by simp)

theorem Timestamp.after?_suffix (h : Timestamp.after? c s = some rest) : rest <:+ s :=
  Timestamp.after?_eq_some h ▸ List.suffix_cons ..

theorem Timestamp.afterMark?_suffix (h : Timestamp.afterMark? s = some rest) : rest <:+ s := by
  unfold Timestamp.afterMark? at h
  split at h
  · exact Option.some.inj h ▸ List.suffix_cons ..
  · exact Option.some.inj h ▸ List.suffix_cons ..
  · exact Option.some.inj h ▸ List.suffix_cons ..
  · exact absurd h (by simp)

/-- A timestamp has a colon, behind its hour. -/
theorem Timestamp.mem_of_read? (h : Timestamp.read? s = some m) : ':' ∈ s := by
  obtain ⟨⟨_, s₁⟩, hyear, h⟩ := Option.bind_eq_some_iff.1 h
  obtain ⟨s₂, hdash, h⟩ := Option.bind_eq_some_iff.1 h
  obtain ⟨⟨_, s₃⟩, hmonth, h⟩ := Option.bind_eq_some_iff.1 h
  obtain ⟨s₄, hdash', h⟩ := Option.bind_eq_some_iff.1 h
  obtain ⟨⟨_, s₅⟩, hday, h⟩ := Option.bind_eq_some_iff.1 h
  obtain ⟨s₆, hmark, h⟩ := Option.bind_eq_some_iff.1 h
  obtain ⟨⟨_, s₇⟩, hhour, h⟩ := Option.bind_eq_some_iff.1 h
  obtain ⟨s₈, hcolon, -⟩ := Option.bind_eq_some_iff.1 h
  have hdate : s₅ <:+ s :=
    (digits?_suffix hday).trans <| (after?_suffix hdash').trans <| (digits?_suffix hmonth).trans <|
      (after?_suffix hdash).trans (digits?_suffix hyear)
  have htime : s₇ <:+ s₅ := (digits?_suffix hhour).trans (afterMark?_suffix hmark)
  exact (htime.trans hdate).subset (by simp [after?_eq_some hcolon])

/-- A text of a date alone is no timestamp. -/
theorem timestamp_eq_none_of_read? (hp : p ∈ datePatterns) (hread : p.read? s = some m) :
    Timestamp.read? s = none := by
  have hforeign : ∀ p ∈ datePatterns, ∀ part ∈ p, part.allows ':' = false := by decide
  obtain ⟨n, hfrom, -⟩ := Option.bind_eq_some_iff.1 hread
  refine Option.eq_none_iff_forall_ne_some.2 fun m' hstamp => ?_
  obtain ⟨part, hpart, hallowed⟩ :=
    (Pattern.characters_of_readFrom? hfrom).1 ':' (Timestamp.mem_of_read? hstamp)
  simp [hforeign p hp part hpart] at hallowed

/-! ### What a date text is read as -/

/-- What a date pattern reads is what the text is read as, unless the text fits both patterns that
have slashes. -/
theorem recognize_of_read? (hp : p ∈ datePatterns) (hread : p.read? s = some m)
    (hslash : p = monthFirst → (yearFirst '/').read? s = none) : recognize s = some m := by
  obtain ⟨before, after, hsplit⟩ := List.append_of_mem hp
  have hbefore : before.findSome? (·.read? s) = none := by
    refine List.findSome?_eq_none_iff.2 fun q hq => ?_
    have hpairs := List.pairwise_append.1 (hsplit ▸ datePatterns_pairwise)
    rcases hpairs.2.2 q hq p List.mem_cons_self with hapart | ⟨rfl, rfl⟩
    · exact hapart.eq_none hread
    · exact hslash rfl
  have htimes : momentPatterns.findSome? (·.read? s) = none :=
    List.findSome?_eq_none_iff.2 fun q hq => (apart_momentPatterns hq hp).eq_none hread
  rw [recognize, timestamp_eq_none_of_read? hp hread, List.findSome?_append, htimes, hsplit,
    List.findSome?_append, hbefore, List.findSome?_cons_of_isSome]
  · exact hread
  · simp [hread]

/-- Two patterns that read a text are the same, or those that have slashes. -/
theorem eq_or_haveSlashes (hp : p ∈ datePatterns) (hq : q ∈ datePatterns)
    (hread : p.read? s = some m) (hread' : q.read? s = some m') : p = q ∨ HaveSlashes p q := by
  have hpairs : datePatterns.Pairwise fun p q => Pattern.Apart p q ∨ HaveSlashes p q :=
    datePatterns_pairwise.imp fun h => h.imp_right .inl
  by_cases hne : p = q
  · exact .inl hne
  · have : Std.Symm fun p q => Pattern.Apart p q ∨ HaveSlashes p q :=
      ⟨fun p q h => h.imp Pattern.Apart.symm fun h => h.symm.imp And.symm And.symm⟩
    rcases hpairs.forall hp hq hne with hapart | hslashes
    · exact absurd (hapart.eq_none hread') (by simp [hread])
    · exact .inr hslashes

/-! ### Slashes between short numbers -/

/-- A number of at most two digits, with or without blanks before it. -/
inductive Short : Nat → List Char → Prop where
  | of {blanks digits : List Char} (hblanks : ∀ c ∈ blanks, isBlank c = true)
    (hdigits : ∀ c ∈ digits, c.isDigit = true) (hsome : digits ≠ []) (hlength : digits.length ≤ 2) :
    Short (valueOf digits) (blanks ++ digits)

/-- A field of two digits is a short number. -/
theorem Short.of_read? (hwidth : field.width = 2) (h : field.read? n s = some (n', rest)) :
    ∃ v t, Short v t ∧ s = t ++ rest ∧ n' = n.set v field := by
  obtain ⟨blanks, hs, hblanks⟩ := trimStart_split s
  unfold Field.read? at h
  split at h
  · cases hwidth
  · cases hwidth
  · obtain ⟨⟨v, rest'⟩, hnumber, hrest⟩ := Option.map_eq_some_iff.1 h
    obtain ⟨digits, heq, rfl, hsome, hdigits, hlength⟩ := number?_eq_some hnumber
    obtain ⟨rfl, rfl⟩ := Prod.mk.inj hrest
    exact ⟨_, _, .of hblanks hdigits hsome (hwidth ▸ hlength),
      by rw [List.append_assoc, ← heq, ← hs], rfl⟩

theorem Field.two_le_width (field : Field) : 2 ≤ field.width := by
  cases field <;> decide

/-- Digits up to a width, behind which no digit follows, are read as they stand. -/
theorem number?_append {width : Nat} {digits : List Char} (hdigits : ∀ c ∈ digits, c.isDigit = true)
    (hsome : digits ≠ []) (hlength : digits.length ≤ width) (hrest : NonDigit rest) :
    number? width (digits ++ rest) = some (valueOf digits, rest) := by
  have hleading : leadingDigits ((digits ++ rest).take width) = digits := by
    rw [List.take_append, List.take_of_length_le hlength]
    exact leadingDigits_append hdigits (hrest.take _)
  simp [number?, hleading, hsome]

/-- Blanks before a field make no difference. -/
theorem Field.read?_append_of_blank {blanks : List Char} (h : ∀ c ∈ blanks, isBlank c = true) :
    field.read? n (blanks ++ s) = field.read? n s := by
  unfold Field.read?
  rw [show trimStart (blanks ++ s) = trimStart s from List.dropWhile_append_of_pos h]

/-- A field that begins with a digit is a number without a sign. -/
theorem Field.read?_of_isDigit (hc : c.isDigit = true) :
    field.read? n (c :: t) =
      (number? field.width (c :: t)).map fun (v, rest) => (n.set v field, rest) := by
  have htrim := trimStart_of_mem_decimalChars (t := t) (mem_decimalChars_of_isDigit hc)
  unfold Field.read?
  rw [htrim]
  split
  · next heq => exact absurd ((List.cons.inj heq).1 ▸ hc) (by decide)
  · next heq => exact absurd ((List.cons.inj heq).1 ▸ hc) (by decide)
  · rfl

/-- A short number is read by every field, where no digit follows. -/
theorem Short.read? (h : Short v t) (hrest : NonDigit rest) :
    field.read? n (t ++ rest) = some (n.set v field, rest) := by
  cases h with
  | @of blanks digits hblanks hdigits hsome hlength =>
    have hnumber := number?_append hdigits hsome
      (Nat.le_trans hlength field.two_le_width) hrest
    obtain ⟨d, ds, rfl⟩ := List.exists_cons_of_ne_nil hsome
    rw [List.append_assoc, Field.read?_append_of_blank hblanks]
    rw [List.cons_append] at hnumber ⊢
    rw [Field.read?_of_isDigit (hdigits d List.mem_cons_self), hnumber]
    rfl

/-! ### One part of a pattern after the other -/

theorem Pattern.readFrom?_nil_eq_some_iff :
    Pattern.readFrom? n s [] = some n' ↔ s = [] ∧ n = n' := by
  rw [Pattern.readFrom?]
  split
  · next h => simp [h]
  · next h => simp [h]

theorem Pattern.readFrom?_number_eq_some_iff :
    Pattern.readFrom? n s (number field :: p) = some n' ↔
      ∃ n₁ rest, field.read? n s = some (n₁, rest) ∧ Pattern.readFrom? n₁ rest p = some n' := by
  rw [Pattern.readFrom?, Part.read?, Option.bind_eq_bind, Option.bind_eq_some_iff, Prod.exists]

theorem Pattern.readFrom?_literal_eq_some_iff :
    Pattern.readFrom? n s (literal c :: p) = some n' ↔
      ∃ rest, s = c :: rest ∧ Pattern.readFrom? n rest p = some n' := by
  cases s with
  | nil => simp [Pattern.readFrom?, Part.read?]
  | cons d s =>
    by_cases h : c = d
    · simp [Pattern.readFrom?, Part.read?, h]
    · simp [Pattern.readFrom?, Part.read?, h, Ne.symm h]

/-- A text that may be a date in two ways: three numbers of at most two digits with slashes between,
of which the first and the second may be months, and the third a day of the second. -/
structure Doubtful (first second third : Nat) (s : List Char) : Prop where
  /-- The numbers and the slashes. -/
  slashed : ∃ t u w, Short first t ∧ Short second u ∧ Short third w ∧
    s = t ++ '/' :: (u ++ '/' :: w)
  /-- The first number may be a month. -/
  first_mem : 1 ≤ first ∧ first ≤ 12
  /-- The second number may be a month. -/
  second_mem : 1 ≤ second ∧ second ≤ 12
  /-- That month has a day of the third number. -/
  third_mem : 1 ≤ third ∧ third ≤ daysIn first second

section Slashes

variable {a b d : Nat} {u w : List Char}

/-- Short numbers with slashes between are read by both patterns that have slashes. -/
theorem readFrom?_of_slashed (ht : Short a t) (hu : Short b u) (hw : Short d w) :
    Pattern.readFrom? {} (t ++ '/' :: (u ++ '/' :: w)) (yearFirst '/') =
        some { year := a, month := b, day := d } ∧
      Pattern.readFrom? {} (t ++ '/' :: (u ++ '/' :: w)) monthFirst =
        some { year := d, month := a, day := b } := by
  have hslash (s : List Char) : NonDigit ('/' :: s) := .cons (by decide)
  have hlast (n : Numbers) (field : Field) : field.read? n w = some (n.set d field, []) := by
    have hread : field.read? n (w ++ []) = some (n.set d field, []) := hw.read? .nil
    rwa [List.append_nil] at hread
  constructor
  · simp only [yearFirst, Pattern.readFrom?_number_eq_some_iff,
      Pattern.readFrom?_literal_eq_some_iff, Pattern.readFrom?_nil_eq_some_iff]
    exact ⟨_, _, ht.read? (hslash _), _, rfl, _, _, hu.read? (hslash _), _, rfl, _, _, hlast _ _,
      rfl, rfl⟩
  · simp only [monthFirst, Pattern.readFrom?_number_eq_some_iff,
      Pattern.readFrom?_literal_eq_some_iff, Pattern.readFrom?_nil_eq_some_iff]
    exact ⟨_, _, ht.read? (hslash _), _, rfl, _, _, hu.read? (hslash _), _, rfl, _, _, hlast _ _,
      rfl, rfl⟩

/-- What both patterns that have slashes read is short numbers with slashes between. -/
theorem slashed_of_readFrom? (h : Pattern.readFrom? {} s (yearFirst '/') = some n)
    (h' : Pattern.readFrom? {} s monthFirst = some n') :
    ∃ a b d t u w, Short a t ∧ Short b u ∧ Short d w ∧ s = t ++ '/' :: (u ++ '/' :: w) := by
  have hslash (s : List Char) : NonDigit ('/' :: s) := .cons (by decide)
  simp only [yearFirst, monthFirst, Pattern.readFrom?_number_eq_some_iff,
    Pattern.readFrom?_literal_eq_some_iff, Pattern.readFrom?_nil_eq_some_iff] at h h'
  -- the one pattern has the first two numbers short, and the other the second and the third
  obtain ⟨_, _, hmonth, s₁, rfl, _, _, hday, s₂, rfl, -⟩ := h'
  obtain ⟨a, t, ht, rfl, rfl⟩ := Short.of_read? rfl hmonth
  obtain ⟨b, u, hu, rfl, rfl⟩ := Short.of_read? rfl hday
  rw [ht.read? (hslash _)] at h
  obtain ⟨_, _, heq, s₁, rfl, h⟩ := h
  obtain ⟨-, heq⟩ := Prod.mk.inj (Option.some.inj heq)
  rw [← (List.cons.inj heq).2, hu.read? (hslash _)] at h
  obtain ⟨_, _, heq, s₂, rfl, _, _, hlast, rfl, -⟩ := h
  obtain ⟨-, heq⟩ := Prod.mk.inj (Option.some.inj heq)
  obtain ⟨d, w, hw, rfl, -⟩ := Short.of_read? rfl hlast
  obtain rfl := (List.cons.inj heq).2
  exact ⟨a, b, d, t, u, w, ht, hu, hw, by simp⟩

theorem ofNumbers?_midnight : Time.ofNumbers? 0 0 0 0 = some .midnight := by
  simp [Time.ofNumbers?, Time.midnight, nanosPerSecond]

/-- The numbers of a date alone name its midnight. -/
theorem moment?_of_date (year : Int) (month day : Nat) :
    Numbers.moment? { year, month, day } =
      (Date.ofNumbers? year month day).map fun date => ⟨date, .midnight⟩ := by
  simp only [Numbers.moment?, ofNumbers?_midnight, Option.map_eq_bind]
  rfl

theorem ofNumbers?_eq_some_iff {year : Int} {month day : Nat} {date : Date} :
    Date.ofNumbers? year month day = some date ↔
      (yearRange.1 ≤ year ∧ year ≤ yearRange.2) ∧
        date.year = year ∧ date.month = month ∧ date.day = day := by
  obtain ⟨y, mo, da, hmonth, hday⟩ := date
  constructor
  · intro h
    unfold Date.ofNumbers? at h
    split at h
    · next hyear =>
      split at h
      · split at h
        · obtain ⟨rfl, rfl, rfl⟩ := Date.mk.inj (Option.some.inj h)
          exact ⟨hyear, rfl, rfl, rfl⟩
        · cases h
      · cases h
    · cases h
  · rintro ⟨hyear, rfl, rfl, rfl⟩
    rw [Date.ofNumbers?, dif_pos hyear, dif_pos hmonth, dif_pos hday]

/-- The numbers of a date are read as that date. -/
theorem exists_ofNumbers? (year : Int) (month day : Nat)
    (hyear : yearRange.1 ≤ year ∧ year ≤ yearRange.2) (hmonth : 1 ≤ month ∧ month ≤ 12)
    (hday : 1 ≤ day ∧ day ≤ daysIn year month) :
    ∃ date : Date, Date.ofNumbers? year month day = some date ∧
      (date.year, date.month, date.day) = (year, month, day) :=
  ⟨⟨year, month, day, hmonth, hday⟩, ofNumbers?_eq_some_iff.2 ⟨hyear, rfl, rfl, rfl⟩, rfl⟩

/-- A doubtful text is read by both patterns that have slashes, and each takes its numbers in its
own order. -/
theorem Doubtful.readings (h : Doubtful a b d s) :
    ∃ date date' : Date, (date.year, date.month, date.day) = ((a : Int), b, d) ∧
      (date'.year, date'.month, date'.day) = ((d : Int), a, b) ∧
      (yearFirst '/').read? s = some ⟨date, .midnight⟩ ∧
      monthFirst.read? s = some ⟨date', .midnight⟩ := by
  obtain ⟨⟨t, u, w, ht, hu, hw, rfl⟩, hfirst, hsecond, hthird⟩ := h
  obtain ⟨hyear, hmonth⟩ := readFrom?_of_slashed ht hu hw
  have hdays := daysIn_bounds a b
  have hdays' := daysIn_bounds d a
  obtain ⟨date, hdate, hnumbers⟩ := exists_ofNumbers? a b d
    (by simp only [yearRange]; omega) hsecond hthird
  obtain ⟨date', hdate', hnumbers'⟩ := exists_ofNumbers? d a b
    (by simp only [yearRange]; omega) hfirst (by omega)
  refine ⟨date, date', hnumbers, hnumbers', ?_, ?_⟩
  · simp [Pattern.read?, hyear, moment?_of_date, hdate]
  · simp [Pattern.read?, hmonth, moment?_of_date, hdate']

/-- What both patterns that have slashes read is doubtful. -/
theorem exists_doubtful (h : (yearFirst '/').read? s = some m) (h' : monthFirst.read? s = some m') :
    ∃ a b d, Doubtful a b d s := by
  obtain ⟨n, hfrom, hmoment⟩ := Option.bind_eq_some_iff.1 h
  obtain ⟨n', hfrom', hmoment'⟩ := Option.bind_eq_some_iff.1 h'
  obtain ⟨a, b, d, t, u, w, ht, hu, hw, rfl⟩ := slashed_of_readFrom? hfrom hfrom'
  obtain ⟨hyear, hmonth⟩ := readFrom?_of_slashed ht hu hw
  obtain rfl := Option.some.inj (hyear.symm.trans hfrom)
  obtain rfl := Option.some.inj (hmonth.symm.trans hfrom')
  rw [moment?_of_date, Option.map_eq_some_iff] at hmoment hmoment'
  obtain ⟨date, hdate, -⟩ := hmoment
  obtain ⟨date', hdate', -⟩ := hmoment'
  obtain ⟨-, hyear, hsecond, hthird⟩ := ofNumbers?_eq_some_iff.1 hdate
  obtain ⟨-, -, hfirst, -⟩ := ofNumbers?_eq_some_iff.1 hdate'
  have hday := date.day_mem
  rw [hyear, hsecond, hthird] at hday
  exact ⟨a, b, d, ⟨t, u, w, ht, hu, hw, rfl⟩, hfirst ▸ date'.month_mem, hsecond ▸ date.month_mem,
    hday⟩

end Slashes

/-! ### The readings of a date text -/

/-- Of a list whose elements give one result at most, the first result is that of any other
arrangement. -/
theorem findSome?_eq_of_perm {α β : Type} {f : α → Option β} {l l' : List α} (hperm : l.Perm l')
    (hunique : ∀ a ∈ l, ∀ a' ∈ l, ∀ b b', f a = some b → f a' = some b' → b = b') :
    l.findSome? f = l'.findSome? f := by
  cases hfound : l.findSome? f with
  | none =>
    rw [List.findSome?_eq_none_iff] at hfound
    exact (List.findSome?_eq_none_iff.2 fun a ha => hfound a (hperm.mem_iff.2 ha)).symm
  | some b =>
    obtain ⟨a, ha, hb⟩ := List.exists_of_findSome?_eq_some hfound
    cases hfound' : l'.findSome? f with
    | none =>
      rw [List.findSome?_eq_none_iff.1 hfound' a (hperm.mem_iff.1 ha)] at hb
      cases hb
    | some b' =>
      obtain ⟨a', ha', hb'⟩ := List.exists_of_findSome?_eq_some hfound'
      rw [hunique a ha a' (hperm.mem_iff.2 ha') b b' hb hb']

/-- **Date patterns.** Two patterns of a date alone read the same text exactly if they are the two
that have slashes and the text is doubtful: three numbers of at most two digits that are a date with
the year first and a date with the month first. A text that is not doubtful is the same date in
whatever order the patterns are tried, and what a pattern reads a text as is what the text is read
as, in every style but that of the month first, and in this one unless the text is doubtful. A
doubtful text is read with its year first. -/
theorem readings_of_datePatterns (s : List Char) :
    (∀ p ∈ datePatterns, ∀ q ∈ datePatterns, p ≠ q →
      ((p.read? s).isSome = true ∧ (q.read? s).isSome = true ↔
        HaveSlashes p q ∧ ∃ a b d, Doubtful a b d s)) ∧
    ((¬ ∃ a b d, Doubtful a b d s) → ∀ order : List Pattern, order.Perm datePatterns →
      order.findSome? (·.read? s) = datePatterns.findSome? (·.read? s)) ∧
    (∀ p ∈ datePatterns, ∀ m, p.read? s = some m →
      (p = monthFirst → ¬ ∃ a b d, Doubtful a b d s) →
        ∀ text, trimmed text = s → moment? text = some m) ∧
    ∀ a b d, Doubtful a b d s → ∃ date date' : Date,
      (date.year, date.month, date.day) = ((a : Int), b, d) ∧
      (date'.year, date'.month, date'.day) = ((d : Int), a, b) ∧
      monthFirst.read? s = some ⟨date', .midnight⟩ ∧
      ∀ text, trimmed text = s → moment? text = some ⟨date, .midnight⟩ := by
  -- two patterns with a text in common are the two that have slashes, and what they have in common
  -- is doubtful
  refine ⟨fun p hp q hq hne => ⟨?_, ?_⟩, fun hclear order horder => ?_,
    fun p hp m hread hclear text htext => ?_, fun a b d hdoubtful => ?_⟩
  · rintro ⟨hreads, hreads'⟩
    obtain ⟨m, hread⟩ := Option.isSome_iff_exists.1 hreads
    obtain ⟨m', hread'⟩ := Option.isSome_iff_exists.1 hreads'
    have hslashes := (eq_or_haveSlashes hp hq hread hread').resolve_left hne
    refine ⟨hslashes, ?_⟩
    rcases hslashes with ⟨rfl, rfl⟩ | ⟨rfl, rfl⟩
    · exact exists_doubtful hread hread'
    · exact exists_doubtful hread' hread
  · rintro ⟨hslashes, a, b, d, hdoubtful⟩
    obtain ⟨_, _, -, -, hyear, hmonth⟩ := hdoubtful.readings
    rcases hslashes with ⟨rfl, rfl⟩ | ⟨rfl, rfl⟩ <;> simp [hyear, hmonth]
  · refine findSome?_eq_of_perm horder fun p hp q hq m m' hread hread' => ?_
    rcases eq_or_haveSlashes (horder.mem_iff.1 hp) (horder.mem_iff.1 hq) hread hread' with
      rfl | ⟨rfl, rfl⟩ | ⟨rfl, rfl⟩
    · exact Option.some.inj (hread.symm.trans hread')
    · exact absurd (exists_doubtful hread hread') hclear
    · exact absurd (exists_doubtful hread' hread) hclear
  · -- a text that is not doubtful fits no pattern that is tried before this one
    rw [moment?, htext]
    refine recognize_of_read? hp hread fun hfirst => Option.eq_none_iff_forall_ne_some.2 ?_
    intro m' hread'
    subst hfirst
    exact hclear rfl (exists_doubtful hread' hread)
  · obtain ⟨date, date', hnumbers, hnumbers', hyear, hmonth⟩ := hdoubtful.readings
    refine ⟨date, date', hnumbers, hnumbers', hmonth, fun text htext => ?_⟩
    rw [moment?, htext]
    exact recognize_of_read? (by decide) hyear fun h => absurd h (by decide)

/-- A text of short numbers that is a date in two ways is read with the year first, and one that is
a date with the month first alone is read as this, in any order of the patterns. -/
theorem readings_of_shortDates :
    Doubtful 1 2 3 "01/02/03".toList ∧
      (∃ date : Date, (date.year, date.month, date.day) = (1, 2, 3) ∧
        moment? "01/02/03" = some ⟨date, .midnight⟩) ∧
      (¬ ∃ a b d, Doubtful a b d "12/31/23".toList) ∧
      datePatterns.reverse.findSome? (·.read? "12/31/23".toList) =
        datePatterns.findSome? (·.read? "12/31/23".toList) ∧
      moment? "12/31/23" = monthFirst.read? "12/31/23".toList := by
  obtain ⟨hboth, horders, hread, -⟩ := readings_of_datePatterns "12/31/23".toList
  obtain ⟨-, -, -, hdoubtful⟩ := readings_of_datePatterns "01/02/03".toList
  have hshort : Doubtful 1 2 3 "01/02/03".toList := by
    refine ⟨⟨['0', '1'], ['0', '2'], ['0', '3'], ?_, ?_, ?_, by decide⟩, by decide, by decide,
      by decide⟩
    · exact @Short.of [] ['0', '1'] (by simp) (by simp) (by decide) (by decide)
    · exact @Short.of [] ['0', '2'] (by simp) (by simp) (by decide) (by decide)
    · exact @Short.of [] ['0', '3'] (by simp) (by simp) (by decide) (by decide)
  -- a doubtful text would be a date with the year first, and there is no month 31
  have hclear : ¬ ∃ a b d, Doubtful a b d "12/31/23".toList := by
    intro hdoubtful
    have hreads := (hboth (yearFirst '/') (by decide) monthFirst (by decide) (by decide)).2
      ⟨.inl ⟨rfl, rfl⟩, hdoubtful⟩
    exact absurd hreads.1 (by decide +kernel)
  obtain ⟨date, -, hnumbers, -, -, hmoment⟩ := hdoubtful 1 2 3 hshort
  refine ⟨hshort, ⟨date, hnumbers, hmoment _ (by decide)⟩, hclear,
    horders hclear _ (List.reverse_perm _), ?_⟩
  obtain ⟨m, hm⟩ : ∃ m, monthFirst.read? "12/31/23".toList = some m :=
    Option.isSome_iff_exists.1 (by decide +kernel)
  rw [hread monthFirst (by decide) m hm (fun _ => hclear) "12/31/23" (by decide), hm]

/-- A column of dates with the month first and two digits of the year is not read in that style
throughout: a cell whose numbers make a date with the year first is that date. -/
theorem style_of_shortYears :
    moment? "12/31/23" = monthFirst.read? "12/31/23".toList ∧
      (monthFirst.read? "01/02/03".toList).isSome = true ∧
      ((yearFirst '/').read? "01/02/03".toList).isSome = true ∧
      moment? "01/02/03" ≠ monthFirst.read? "01/02/03".toList ∧
      datePatterns.reverse.findSome? (·.read? "01/02/03".toList) ≠
        datePatterns.findSome? (·.read? "01/02/03".toList) := by
  decide +kernel

end Tabula.Calendar
