import Tabula.Proofs.Json.Lexeme
import Tabula.Proofs.OrderedMap

/-!
# Documents are read back

`Reads decoder depth v a` says that a decoder reads the printed text of the document `v` as `a`: at
any level of indentation, behind any gap, in front of anything that may follow a value, and with any
budget that lets it enter `depth` arrays and objects.

A decoder for arrays, objects or records reads a document back if the decoders of its parts do
(`reads_array`, `reads_object`, `reads_record`). The loops over parts end in time, since the text is
at least as long as the list of its parts. A record is described by the drafts that its members lead
through (`Takes`), so its fields may have any order and may be of any shape.
-/

namespace Tabula.Json

open Value Tabula.Decimal

variable {α σ : Type} {c : Char} {s gap rest : List Char} {depth level fuel : Nat} {budget : Budget}
  {v : Value} {name : String}

/-! ### Gaps -/

/-- White space between values. -/
def IsGap (gap : List Char) : Prop :=
  ∀ c ∈ gap, isGap c = true

theorem IsGap.nil : IsGap [] := by simp [IsGap]

theorem isGap_newLine (level : Nat) : IsGap (newLine level) := by
  refine List.forall_mem_cons.2 ⟨rfl, fun c hc => ?_⟩
  rw [List.eq_of_mem_replicate hc]
  rfl

theorem isGap_singleton_blank : IsGap [' '] := by simp [IsGap, isGap]

theorem IsGap.skipGap_append (h : IsGap gap) (hc : isGap c = false) :
    skipGap (gap ++ c :: s) = c :: s := by
  rw [skipGap, List.dropWhile_append_of_pos h, List.dropWhile_cons_of_neg (by simp [hc])]

theorem skipGap_cons (hc : isGap c = false) : skipGap (c :: s) = c :: s :=
  IsGap.nil.skipGap_append hc

theorem IsGap.valueStart_append (h : IsGap gap) (hc : isGap c = false) :
    valueStart (gap ++ c :: s) = .ok (c :: s) := by
  rw [valueStart, h.skipGap_append hc]

theorem delimited_newLine (level : Nat) (rest : List Char) : Delimited (newLine level ++ rest) := by
  rintro c u h
  exact .inr ((List.cons.inj h).1 ▸ rfl)

theorem delimited_comma (rest : List Char) : Delimited (',' :: rest) := by
  rintro c u h
  exact .inl (List.cons.inj h).1.symm

theorem delimited_nil : Delimited [] := by
  rintro c u h
  cases h

/-! ### Decoders that read documents back -/

/-- A decoder reads the text of a document as a value. -/
def Reads (decoder : Decoder α) (depth : Nat) (v : Value) (a : α) : Prop :=
  ∀ (budget : Budget) (level : Nat) (gap rest : List Char), depth < budget.depth →
    (v.text level).length ≤ budget.length → IsGap gap → Delimited rest →
      decoder budget (gap ++ (v.text level ++ rest)) = .ok (a, rest)

theorem Reads.mono {decoder : Decoder α} {a : α} {depth' : Nat} (h : Reads decoder depth v a)
    (hdepth : depth ≤ depth') : Reads decoder depth' v a :=
  fun budget level gap rest hlt => h budget level gap rest (Nat.lt_of_le_of_lt hdepth hlt)

/-- A text that a decoder reads back is what the document holds. -/
theorem Reads.decode_pretty {decoder : Decoder α} {a : α} (h : Reads decoder depth v a)
    (hdepth : depth < greatestDepth) : decode decoder v.pretty.toList = .ok a := by
  have hread := h ⟨greatestDepth, (v.text 0).length⟩ 0 [] [] hdepth (Nat.le_refl _) .nil
    delimited_nil
  rw [List.nil_append, List.append_nil] at hread
  rw [pretty, String.toList_ofList, decode, hread]
  rfl

theorem text_string_append (level : Nat) (s : String) (rest : List Char) :
    text level (.string s) ++ rest = '"' :: (s.toList.flatMap escaped ++ '"' :: rest) := by
  simp [stringText]

theorem reads_string (s : String) : Reads Json.string depth (.string s) s := by
  intro budget level gap rest _ _ hgap _
  rw [text_string_append, Json.string, hgap.valueStart_append (by decide)]
  simp [stringBody_flatMap_escaped, bind, Except.bind, pure, Except.pure]

theorem reads_bool (b : Bool) : Reads Json.bool depth (.bool b) b := by
  intro budget level gap rest _ _ hgap _
  cases b with
  | true =>
    have htext : text level (.bool true) ++ rest = 't' :: ("rue".toList ++ rest) := rfl
    rw [htext, Json.bool, hgap.valueStart_append (by decide)]
    rfl
  | false =>
    have htext : text level (.bool false) ++ rest = 'f' :: ("alse".toList ++ rest) := rfl
    rw [htext, Json.bool, hgap.valueStart_append (by decide)]
    rfl

theorem isGap_of_isDigit (h : c.isDigit = true) : isGap c = false := by
  refine Bool.eq_false_iff.2 fun hgap => ?_
  simp only [isGap, Bool.or_eq_true, decide_eq_true_eq] at hgap
  rcases hgap with ((rfl | rfl) | rfl) | rfl <;> exact absurd h (by decide)

theorem reads_natBelow {bound n : Nat} (hbound : bound ≤ wordBound) (h : n < bound) :
    Reads (natBelow bound) depth (.nat n) n := by
  intro budget level gap rest _ _ hgap hrest
  have hnumber := number_digitsOf (Nat.lt_of_lt_of_le h hbound) hrest
  obtain ⟨d, ds, hdigits⟩ := List.exists_cons_of_ne_nil (digitsOf_ne_nil (n := n))
  have hd : d.isDigit = true := isDigit_of_mem_digitsOf (hdigits ▸ List.mem_cons_self)
  have htext : text level (.nat n) ++ rest = d :: (ds ++ rest) := by simp [hdigits]
  rw [hdigits, List.cons_append] at hnumber
  rw [htext, natBelow, hgap.valueStart_append (isGap_of_isDigit hd)]
  simp [bind, Except.bind, pure, Except.pure, hd, hnumber, h]

theorem reads_choice {alternatives : List (String × α)} {a : α}
    (h : alternatives.lookup name = some a) :
    Reads (choice alternatives) depth (.string name) a := by
  intro budget level gap rest hdepth hlength hgap hrest
  have hstring := reads_string name budget level gap rest hdepth hlength hgap hrest
  rw [choice]
  rw [text_string_append] at hstring ⊢
  rw [hgap.valueStart_append (by decide)]
  simp [bind, Except.bind, pure, Except.pure, hstring, h]

theorem Budget.enter_eq (h : 1 < budget.depth) :
    budget.enter = .ok { budget with depth := budget.depth - 1 } := by
  rw [Budget.enter, if_neg (by omega)]

/-! ### Arrays -/

/-- The text of a document begins neither with a gap nor like the end of an array. -/
def Starts (v : Value) : Prop :=
  ∀ level, ∃ c t, v.text level = c :: t ∧ isGap c = false ∧ c ≠ ']'

theorem starts_string (s : String) : Starts (.string s) :=
  fun _ => ⟨_, _, by rw [text_string, stringText], by decide, by decide⟩

theorem length_itemsText (level : Nat) (items : List Value) :
    items.length ≤ (itemsText level items).length ∧
      ∀ v ∈ items, (v.text level).length ≤ (itemsText level items).length := by
  induction items with
  | nil => simp
  | cons item items ih =>
    obtain ⟨hcount, hitems⟩ := ih
    simp only [itemsText_cons, List.length_cons, List.length_append, List.forall_mem_cons]
    refine ⟨by omega, by omega, fun v hv => ?_⟩
    have := hitems v hv
    omega

theorem length_text_array (level : Nat) (items : List Value) :
    (itemsText (level + 1) items).length ≤ (text level (.array items)).length := by
  cases items with
  | nil => simp
  | cons item items =>
    simp only [itemsText_cons, text_array_cons, List.length_cons, List.length_append]
    omega

/-- What stands behind the opening bracket of an array. -/
def arrayBody (level : Nat) (items : List Value) (rest : List Char) : List Char :=
  match items with
  | [] => ']' :: rest
  | item :: items =>
    newLine (level + 1) ++
      (text (level + 1) item ++ (itemsText (level + 1) items ++ (newLine level ++ ']' :: rest)))

theorem text_array (level : Nat) (items : List Value) (rest : List Char) :
    text level (.array items) ++ rest = '[' :: arrayBody level items rest := by
  cases items with
  | nil => simp [arrayBody]
  | cons item items => simp [arrayBody]

theorem delimited_itemsText (level : Nat) (items : List Value) (rest : List Char) :
    Delimited (itemsText (level + 1) items ++ (newLine level ++ rest)) := by
  cases items with
  | nil => exact delimited_newLine level rest
  | cons item items => exact delimited_comma _

section Arrays

variable {element : Reader α} {f : α → Value} {items : List α}
  (hread : ∀ x ∈ items, ∀ rest, Delimited rest →
    element (text (level + 1) (f x) ++ rest) = .ok (x, rest))
  (hstart : ∀ x ∈ items, Starts (f x))
include hread hstart

theorem moreElements_itemsText (hfuel : items.length < fuel) (rest : List Char) :
    moreElements element fuel
        (itemsText (level + 1) (items.map f) ++ (newLine level ++ ']' :: rest)) =
      .ok (items, rest) := by
  induction items generalizing fuel with
  | nil =>
    obtain ⟨fuel, rfl⟩ := Nat.exists_eq_succ_of_ne_zero (Nat.ne_of_gt hfuel)
    rw [List.map_nil, itemsText_nil, List.nil_append, moreElements,
      (isGap_newLine _).skipGap_append (by decide)]
    rfl
  | cons item items ih =>
    obtain ⟨fuel, rfl⟩ := Nat.exists_eq_succ_of_ne_zero (Nat.ne_of_gt (Nat.zero_lt_of_lt hfuel))
    obtain ⟨hfirst, hmore⟩ := List.forall_mem_cons.1 hread
    obtain ⟨hstart, hstarts⟩ := List.forall_mem_cons.1 hstart
    have hrest := ih hmore hstarts (Nat.lt_of_succ_lt_succ hfuel)
    have helement := hfirst _ (delimited_itemsText level (items.map f) (']' :: rest))
    -- behind the comma the reader looks for the next value, and not for the end of the array
    obtain ⟨c, t, htext, hgap, hclose⟩ := hstart (level + 1)
    rw [htext, List.cons_append] at helement
    simp only [List.map_cons, itemsText_cons, htext, List.append_assoc, List.cons_append]
    rw [moreElements, skipGap_cons (by decide)]
    simp only [(isGap_newLine _).skipGap_append hgap]
    split
    · next heq => exact absurd heq (by simp)
    · next heq => exact absurd (List.cons.inj heq).1 hclose
    · simp only [helement, hrest, bind, Except.bind]
      rfl

theorem elements_arrayBody (hfuel : items.length ≤ fuel) (rest : List Char) :
    elements element fuel (arrayBody level (items.map f) rest) = .ok (items, rest) := by
  cases items with
  | nil =>
    rw [List.map_nil, arrayBody, elements, skipGap_cons (by decide)]
    rfl
  | cons item items =>
    obtain ⟨hfirst, hmore⟩ := List.forall_mem_cons.1 hread
    obtain ⟨hstart, hstarts⟩ := List.forall_mem_cons.1 hstart
    have hrest := moreElements_itemsText hmore hstarts hfuel rest
    have helement := hfirst _ (delimited_itemsText level (items.map f) (']' :: rest))
    obtain ⟨c, t, htext, hgap, hclose⟩ := hstart (level + 1)
    rw [htext, List.cons_append] at helement
    simp only [List.map_cons, arrayBody, htext, List.cons_append]
    rw [elements]
    simp only [(isGap_newLine _).skipGap_append hgap]
    -- an item is read where the text has neither ended nor the bracket closed
    split
    · next heq => exact absurd heq (by simp)
    · next heq => exact absurd (List.cons.inj heq).1 hclose
    · simp only [helement, hrest, bind, Except.bind]
      rfl

end Arrays

/-- **Arrays.** A list is read back if its elements are. -/
theorem reads_array {element : Decoder α} {f : α → Value} {items : List α}
    (hread : ∀ x ∈ items, Reads element depth (f x) x) (hstart : ∀ x ∈ items, Starts (f x)) :
    Reads (array element) (depth + 1) (.array (items.map f)) items := by
  intro budget level gap rest hdepth hlength hgap _
  have hlong := Nat.le_trans (length_text_array level (items.map f)) hlength
  obtain ⟨hcount, hitems⟩ := length_itemsText (level + 1) (items.map f)
  have helements : ∀ x ∈ items, ∀ rest, Delimited rest →
      element { budget with depth := budget.depth - 1 } (text (level + 1) (f x) ++ rest) =
        .ok (x, rest) := by
    intro x hx rest hrest
    have hshort := hitems (f x) (List.mem_map_of_mem hx)
    have hinner : depth < budget.depth - 1 := by omega
    exact hread x hx _ _ [] rest hinner (Nat.le_trans hshort hlong) .nil hrest
  rw [List.length_map] at hcount
  have hbody := elements_arrayBody helements hstart (Nat.le_trans hcount hlong) rest
  rw [text_array, array, hgap.valueStart_append (by decide)]
  simp only [bind, Except.bind, Budget.enter_eq (by omega : 1 < budget.depth)]
  exact hbody

/-! ### Objects -/

theorem length_membersText (level : Nat) (ms : List (String × Value)) :
    ms.length ≤ (membersText level ms).length ∧
      ∀ e ∈ ms, (e.2.text level).length ≤ (membersText level ms).length := by
  induction ms with
  | nil => simp
  | cons e ms ih =>
    obtain ⟨hcount, hmembers⟩ := ih
    simp only [membersText_cons, List.length_cons, List.length_append, List.forall_mem_cons]
    refine ⟨by omega, by omega, fun e he => ?_⟩
    have := hmembers e he
    omega

theorem length_text_object (level : Nat) (ms : List (String × Value)) :
    (membersText (level + 1) ms).length ≤ (text level (.object ms)).length := by
  cases ms with
  | nil => simp
  | cons e ms =>
    simp only [membersText_cons, text_object_cons, List.length_cons, List.length_append]
    omega

/-- What stands behind the opening quote of a member's name. -/
def memberBody (level : Nat) (name : String) (v : Value) (rest : List Char) : List Char :=
  name.toList.flatMap escaped ++ '"' :: ':' :: ([' '] ++ (text level v ++ rest))

/-- What stands behind the opening brace of an object. -/
def objectBody (level : Nat) (ms : List (String × Value)) (rest : List Char) : List Char :=
  match ms with
  | [] => '\x7d' :: rest
  | (name, v) :: ms =>
    newLine (level + 1) ++ '"' :: memberBody (level + 1) name v
      (membersText (level + 1) ms ++ (newLine level ++ '\x7d' :: rest))

theorem text_object (level : Nat) (ms : List (String × Value)) (rest : List Char) :
    text level (.object ms) ++ rest = '\x7b' :: objectBody level ms rest := by
  cases ms with
  | nil => simp [objectBody]
  | cons e ms => simp [objectBody, memberBody, stringText]

theorem membersText_cons_append (level : Nat) (ms : List (String × Value)) (rest : List Char) :
    membersText level ((name, v) :: ms) ++ rest =
      ',' :: (newLine level ++ '"' :: memberBody level name v (membersText level ms ++ rest)) := by
  simp [memberBody, stringText]

theorem delimited_membersText (level : Nat) (ms : List (String × Value)) (rest : List Char) :
    Delimited (membersText (level + 1) ms ++ (newLine level ++ rest)) := by
  cases ms with
  | nil => exact delimited_newLine level rest
  | cons e ms => exact delimited_comma _

/-- The states that a reader of members goes through. -/
inductive Gathers (member : σ → Reader σ) (level : Nat) : σ → List (String × Value) → σ → Prop where
  /-- No member changes nothing. -/
  | nil (state : σ) : Gathers member level state [] state
  /-- A member is read, then the others. -/
  | cons {state state' state'' : σ} {name : String} {v : Value} {ms : List (String × Value)}
    (hmember : ∀ rest, Delimited rest →
      member state (memberBody level name v rest) = .ok (state', rest))
    (hrest : Gathers member level state' ms state'') :
    Gathers member level state ((name, v) :: ms) state''

section Objects

variable {member : σ → Reader σ} {state state' : σ} {ms : List (String × Value)}

theorem Gathers.moreMembers_membersText (h : Gathers member (level + 1) state ms state')
    (hfuel : ms.length < fuel) (rest : List Char) :
    moreMembers member fuel state
        (membersText (level + 1) ms ++ (newLine level ++ '\x7d' :: rest)) =
      .ok (state', rest) := by
  induction h generalizing fuel with
  | nil =>
    obtain ⟨fuel, rfl⟩ := Nat.exists_eq_succ_of_ne_zero (Nat.ne_of_gt hfuel)
    rw [membersText_nil, List.nil_append, moreMembers, (isGap_newLine _).skipGap_append (by decide)]
    rfl
  | cons hmember hrest ih =>
    obtain ⟨fuel, rfl⟩ := Nat.exists_eq_succ_of_ne_zero (Nat.ne_of_gt (Nat.zero_lt_of_lt hfuel))
    have hmore := ih (Nat.lt_of_succ_lt_succ hfuel)
    rw [membersText_cons_append, moreMembers, skipGap_cons (by decide)]
    simp only [(isGap_newLine _).skipGap_append (by decide : isGap '"' = false),
      hmember _ (delimited_membersText _ _ _), hmore, bind, Except.bind]

theorem Gathers.members_objectBody (h : Gathers member (level + 1) state ms state')
    (hfuel : ms.length ≤ fuel) (rest : List Char) :
    members member fuel state (objectBody level ms rest) = .ok (state', rest) := by
  cases h with
  | nil =>
    rw [objectBody, members, skipGap_cons (by decide)]
    rfl
  | cons hmember hrest =>
    have hmore := hrest.moreMembers_membersText hfuel rest
    rw [objectBody, members, (isGap_newLine _).skipGap_append (by decide)]
    simp only [hmember _ (delimited_membersText _ _ _), hmore, bind, Except.bind]

end Objects

/-- What follows the colon between a name and its value. -/
theorem afterColon_cons (rest : List Char) : afterColon (':' :: rest) = .ok rest := by
  rw [afterColon, skipGap_cons (by decide)]
  rfl

/-- Reads a member of a map. -/
def mapMember (value : Reader α) (m : OrderedMap α) : Reader (OrderedMap α) := fun s => do
  let (key, after) ← stringBody true s
  let (v, after) ← value (← afterColon after)
  return (m.insert (String.ofList key) v, after)

theorem gathers_mapMember {value : Reader α} {f : α → Value} {entries : List (String × α)}
    (hread : ∀ e ∈ entries, ∀ rest, Delimited rest →
      value ([' '] ++ (text level (f e.2) ++ rest)) = .ok (e.2, rest)) (m : OrderedMap α) :
    Gathers (mapMember value) level m (entries.map fun e => (e.1, f e.2))
      (entries.foldl (fun m e => m.insert e.1 e.2) m) := by
  induction entries generalizing m with
  | nil => exact .nil m
  | cons e entries ih =>
    obtain ⟨hfirst, hmore⟩ := List.forall_mem_cons.1 hread
    refine .cons (fun rest hrest => ?_) (ih hmore _)
    rw [mapMember, memberBody, stringBody_flatMap_escaped]
    simp only [bind, Except.bind, String.ofList_toList, afterColon_cons, hfirst rest hrest]
    rfl

/-- **Maps.** A map is read back if its values are. -/
theorem reads_object {value : Decoder α} {f : α → Value} {m : OrderedMap α}
    (hread : ∀ e ∈ m.entries, Reads value depth (f e.2) e.2) :
    Reads (object value) (depth + 1) (.object (m.entries.map fun e => (e.1, f e.2))) m := by
  intro budget level gap rest hdepth hlength hgap _
  have hlong := Nat.le_trans (length_text_object level _) hlength
  obtain ⟨hcount, hmembers⟩ :=
    length_membersText (level + 1) (m.entries.map fun e => (e.1, f e.2))
  have hvalues : ∀ e ∈ m.entries, ∀ rest, Delimited rest →
      value { budget with depth := budget.depth - 1 }
        ([' '] ++ (text (level + 1) (f e.2) ++ rest)) = .ok (e.2, rest) := by
    intro e he rest hrest
    have hshort := hmembers (e.1, f e.2) (List.mem_map_of_mem he)
    have hinner : depth < budget.depth - 1 := by omega
    exact hread e he _ _ _ _ hinner (Nat.le_trans hshort hlong) isGap_singleton_blank hrest
  have hbody := (gathers_mapMember hvalues ∅).members_objectBody (Nat.le_trans hcount hlong) rest
  rw [← OrderedMap.ofList, m.ofList_entries] at hbody
  rw [text_object, object, hgap.valueStart_append (by decide)]
  simp only [bind, Except.bind, Budget.enter_eq (by omega : 1 < budget.depth)]
  exact hbody

/-! ### Records -/

/-- The drafts that the members of an object lead a record through: each member is a field that the
draft lacks, and its decoder reads the value back as a change of the draft. -/
inductive Takes (fields : List (FieldDecoder σ)) (depth : Nat) :
    σ → List (String × Value) → σ → Prop where
  /-- No member changes nothing. -/
  | nil (draft : σ) : Takes fields depth draft [] draft
  /-- A field is read, then the others. -/
  | cons {draft draft' : σ} {name : String} {v : Value} {ms : List (String × Value)}
    {field : FieldDecoder σ} {update : σ → σ}
    (hfind : fields.find? (fun field => field.name == name) = some field)
    (hset : field.isSet draft = false) (hread : Reads field.read depth v update)
    (hrest : Takes fields depth (update draft) ms draft') :
    Takes fields depth draft ((name, v) :: ms) draft'

theorem reads_of {β : Type} {get : σ → Option β} {set : σ → β → σ} {value : Decoder β} {b : β}
    (h : Reads value depth v b) :
    Reads (FieldDecoder.of name get set value).read depth v (fun draft => set draft b) := by
  intro budget level gap rest hdepth hlength hgap hrest
  simp only [FieldDecoder.of, h budget level gap rest hdepth hlength hgap hrest, bind, Except.bind]
  rfl

theorem Takes.gathers {fields : List (FieldDecoder σ)} {draft draft' : σ}
    {ms : List (String × Value)} (h : Takes fields depth draft ms draft') {inner : Budget}
    (hdepth : depth < inner.depth) (hlength : ∀ e ∈ ms, (e.2.text level).length ≤ inner.length) :
    Gathers (recordMember inner fields) level draft ms draft' := by
  induction h with
  | nil => exact .nil _
  | @cons draft draft' name v ms field update hfind hset hread _ ih =>
    obtain ⟨hfirst, hmore⟩ := List.forall_mem_cons.1 hlength
    refine .cons (fun rest hrest => ?_) (ih hmore)
    have hvalue := hread inner level [' '] rest hdepth hfirst isGap_singleton_blank hrest
    rw [recordMember, memberBody, stringBody_flatMap_escaped]
    simp only [bind, Except.bind, String.ofList_toList, hfind, hset, afterColon_cons, hvalue]
    rfl

/-- **Records.** A record is read back if its members are fields of it. -/
theorem reads_record {fields : List (FieldDecoder σ)} {blank draft : σ} {finish : σ → Option α}
    {a : α} {ms : List (String × Value)} (h : Takes fields depth blank ms draft)
    (hfinish : finish draft = some a) :
    Reads (record fields blank finish) (depth + 1) (.object ms) a := by
  intro budget level gap rest hdepth hlength hgap _
  have hlong := Nat.le_trans (length_text_object level ms) hlength
  obtain ⟨hcount, hmembers⟩ := length_membersText (level + 1) ms
  have hinner : depth < budget.depth - 1 := by omega
  have hgathers : Gathers (recordMember { budget with depth := budget.depth - 1 } fields)
      (level + 1) blank ms draft :=
    h.gathers hinner fun e he => Nat.le_trans (hmembers e he) hlong
  have hbody := hgathers.members_objectBody (Nat.le_trans hcount hlong) rest
  rw [text_object, record, hgap.valueStart_append (by decide)]
  simp only [bind, Except.bind, Budget.enter_eq (by omega : 1 < budget.depth), hbody, hfinish]
  rfl

end Tabula.Json
