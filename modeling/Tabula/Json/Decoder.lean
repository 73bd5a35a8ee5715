import Tabula.Json.Lexeme
import Tabula.OrderedMap

/-!
# Decoding JSON into values

A `Decoder` reads a JSON value of a wanted shape. It is a reader that also knows how deep it may
still nest and a bound on the length of the text, which bounds its loops. Shapes are checked as the
text is read, so a value of the wrong shape is reported even if the text is broken later on.

`array` and `object` hold the rules for separators. `record` reads a structure with named fields,
from an object in any order, where unknown names are skipped and no name may come twice, or from an
array that lists the fields in order.
-/

namespace Tabula.Json

/-- How much a decoder may still do. -/
structure Budget where
  /-- How many arrays and objects may still be entered, plus one. -/
  depth : Nat
  /-- A bound on the number of characters left. -/
  length : Nat
deriving Repr

/-- Reads a value of some shape. -/
abbrev Decoder (α : Type) := Budget → Reader α

/-- How many arrays and objects may stand inside one another, plus one. -/
def greatestDepth : Nat := 128

/-- The text at the start of the next value. -/
def valueStart (s : List Char) : Except Fault (List Char) :=
  match skipGap s with
  | [] => .error .unfinished
  | t => .ok t

/-! ### Arrays -/

/-- Reads the elements after the first, each behind a comma, and the closing bracket. -/
def moreElements {α : Type} (element : Reader α) : Nat → Reader (List α)
  | 0, _ => .error .unfinished
  | fuel + 1, s =>
    match skipGap s with
    | [] => .error .unfinished
    | ']' :: rest => .ok ([], rest)
    | ',' :: rest =>
      match skipGap rest with
      | [] => .error .unfinished
      | ']' :: _ => .error .malformed
      | next => do
        let (x, after) ← element next
        let (xs, after) ← moreElements element fuel after
        return (x :: xs, after)
    | _ => .error .malformed

/-- Reads the elements of an array and its closing bracket. -/
def elements {α : Type} (element : Reader α) (fuel : Nat) (s : List Char) :
    Except Fault (List α × List Char) :=
  match skipGap s with
  | [] => .error .unfinished
  | ']' :: rest => .ok ([], rest)
  | next => do
    let (x, after) ← element next
    let (xs, after) ← moreElements element fuel after
    return (x :: xs, after)

/-! ### Objects -/

/-- What follows the colon between a name and its value. -/
def afterColon (s : List Char) : Except Fault (List Char) :=
  match skipGap s with
  | [] => .error .unfinished
  | ':' :: rest => .ok rest
  | _ => .error .malformed

/-- Reads members up to the closing brace; `member` takes what was read so far and reads a name's
text after the opening quote, and all that belongs to it. -/
def moreMembers {σ : Type} (member : σ → Reader σ) : Nat → σ → Reader σ
  | 0, _, _ => .error .unfinished
  | fuel + 1, state, s =>
    match skipGap s with
    | [] => .error .unfinished
    | '\x7d' :: rest => .ok (state, rest)
    | ',' :: rest =>
      match skipGap rest with
      | [] => .error .unfinished
      | '"' :: name => do
        let (state, after) ← member state name
        moreMembers member fuel state after
      | _ => .error .malformed
    | _ => .error .malformed

/-- Reads the members of an object and its closing brace. -/
def members {σ : Type} (member : σ → Reader σ) (fuel : Nat) (start : σ) (s : List Char) :
    Except Fault (σ × List Char) :=
  match skipGap s with
  | [] => .error .unfinished
  | '\x7d' :: rest => .ok (start, rest)
  | '"' :: name => do
    let (state, after) ← member start name
    moreMembers member fuel state after
  | _ => .error .malformed

/-! ### Values that nobody asked for -/

/-- Skips a value, entering at most `depth` arrays and objects. Only its outline is checked: numbers
may be out of range and escapes need not name characters. -/
def skipAt (length : Nat) : Nat → Reader Unit
  | 0, _ => .error .unfinished
  | depth + 1, s => do
    let value ← valueStart s
    match value with
    | 'n' :: t => return ((), ← word "ull".toList t)
    | 't' :: t => return ((), ← word "rue".toList t)
    | 'f' :: t => return ((), ← word "alse".toList t)
    | '"' :: t => return ((), (← stringBody false t).2)
    | '[' :: t => return ((), (← elements (skipAt length depth) length t).2)
    | '\x7b' :: t =>
      members (fun _ name => do
        let (_, after) ← stringBody false name
        skipAt length depth (← afterColon after)) length () t
    | '-' :: t => skipNumber t
    | t => skipNumber t
where
  /-- Skips a number after its sign. -/
  skipNumber (s : List Char) : Except Fault (Unit × List Char) :=
    match Decimal.leadingDigits s with
    | [] | '0' :: _ :: _ => .error .malformed
    | _ => skipFraction (Decimal.afterDigits s)
  /-- Skips a fraction, if a point announces one, and an exponent. -/
  skipFraction (s : List Char) : Except Fault (Unit × List Char) :=
    match s with
    | '.' :: t =>
      if Decimal.leadingDigits t = [] then .error .malformed
      else skipExponent (Decimal.afterDigits t)
    | t => skipExponent t
  /-- Skips an exponent, if a marker announces one. -/
  skipExponent (s : List Char) : Except Fault (Unit × List Char) :=
    match s with
    | 'e' :: '+' :: t | 'e' :: '-' :: t | 'E' :: '+' :: t | 'E' :: '-' :: t | 'e' :: t | 'E' :: t =>
      if Decimal.leadingDigits t = [] then .error .malformed
      else .ok ((), Decimal.afterDigits t)
    | t => .ok ((), t)

/-- Skips a value of any shape and any depth. -/
def skip : Decoder Unit := fun budget =>
  skipAt budget.length (budget.length + 1)

/-! ### Shapes -/

/-- The budget inside an array or object, if one may be entered. -/
def Budget.enter (b : Budget) : Except Fault Budget :=
  if b.depth ≤ 1 then .error .malformed else .ok { b with depth := b.depth - 1 }

/-- A string. -/
def string : Decoder String := fun _ s => do
  match ← valueStart s with
  | '"' :: t =>
    let (text, rest) ← stringBody true t
    return (String.ofList text, rest)
  | t => .error (unexpected t)

/-- A truth value. -/
def bool : Decoder Bool := fun _ s => do
  match ← valueStart s with
  | 't' :: t => return (true, ← word "rue".toList t)
  | 'f' :: t => return (false, ← word "alse".toList t)
  | t => .error (unexpected t)

/-- The empty value. -/
def null : Decoder Unit := fun _ s => do
  match ← valueStart s with
  | 'n' :: t => return ((), ← word "ull".toList t)
  | t => .error (unexpected t)

/-- A whole number below a bound. -/
def natBelow (bound : Nat) : Decoder Nat := fun _ s => do
  let t ← valueStart s
  if t.head?.any fun c => c = '-' || c.isDigit then
    match ← number t with
    | (.natural n, rest) => if n < bound then return (n, rest) else .error .mismatch
    | _ => .error .mismatch
  else .error (unexpected t)

/-- A whole number of at most 64 bits. -/
def nat64 : Decoder Nat := natBelow (Nat.pow 2 64)

/-- A whole number of at most 32 bits. -/
def nat32 : Decoder Nat := natBelow (Nat.pow 2 32)

/-- A list of values of one shape. -/
def array {α : Type} (element : Decoder α) : Decoder (List α) := fun budget s => do
  match ← valueStart s with
  | '[' :: t =>
    let inner ← budget.enter
    elements (element inner) budget.length t
  | t => .error (unexpected t)

/-- A map from names to values of one shape. -/
def object {α : Type} (value : Decoder α) : Decoder (OrderedMap α) := fun budget s => do
  match ← valueStart s with
  | '\x7b' :: t =>
    let inner ← budget.enter
    members (fun m name => do
      let (key, after) ← stringBody true name
      let (v, after) ← value inner (← afterColon after)
      return (m.insert (String.ofList key) v, after)) budget.length ∅ t
  | t => .error (unexpected t)

/-- One field of a record that is read into a draft of type `σ`. -/
structure FieldDecoder (σ : Type) where
  /-- The name in an object. -/
  name : String
  /-- Whether the draft holds the field already. -/
  isSet : σ → Bool
  /-- Reads the value into the draft. -/
  read : Decoder (σ → σ)

/-- The field of a draft that `get` shows and `set` fills. -/
def FieldDecoder.of {σ β : Type} (name : String) (get : σ → Option β) (set : σ → β → σ)
    (value : Decoder β) : FieldDecoder σ where
  name := name
  isSet draft := (get draft).isSome
  read budget s := do
    let (v, rest) ← value budget s
    return (fun draft => set draft v, rest)

/-- Reads the fields of a record from an array, in order, up to the closing bracket. An array that
ends early leaves the remaining fields unset; one that goes on is malformed. -/
def fieldsInOrder {σ : Type} (budget : Budget) (start : Bool) (draft : σ) :
    List (FieldDecoder σ) → Reader σ
  | [], s =>
    match skipGap s with
    | [] => .error .unfinished
    | ']' :: rest => .ok (draft, rest)
    | _ => .error .malformed
  | field :: fields, s =>
    match skipGap s with
    | [] => .error .unfinished
    | ']' :: rest => .ok (draft, rest)
    | ',' :: rest =>
      if start then .error .malformed
      else
        match skipGap rest with
        | [] => .error .unfinished
        | ']' :: _ => .error .malformed
        | next => do
          let (update, after) ← field.read budget next
          fieldsInOrder budget false (update draft) fields after
    | next =>
      if start then do
        let (update, after) ← field.read budget next
        fieldsInOrder budget false (update draft) fields after
      else .error .malformed

/-- Reads one member of a record after the opening quote of its name. -/
def recordMember {σ : Type} (budget : Budget) (fields : List (FieldDecoder σ)) (draft : σ) :
    Reader σ := fun s => do
  let (name, after) ← stringBody true s
  match fields.find? fun field => field.name == String.ofList name with
  | some field =>
    if field.isSet draft then .error .mismatch
    else
      let (update, rest) ← field.read budget (← afterColon after)
      return (update draft, rest)
  | none =>
    let (_, rest) ← skip budget (← afterColon after)
    return (draft, rest)

/-- A structure with named fields, read into a draft that `finish` completes. -/
def record {σ α : Type} (fields : List (FieldDecoder σ)) (blank : σ) (finish : σ → Option α) :
    Decoder α := fun budget s => do
  let (draft, rest) ← do
    match ← valueStart s with
    | '[' :: t =>
      let inner ← budget.enter
      fieldsInOrder inner true blank fields t
    | '\x7b' :: t =>
      let inner ← budget.enter
      members (recordMember inner fields) budget.length blank t
    | t => .error (unexpected t)
  match finish draft with
  | some value => return (value, rest)
  | none => .error .mismatch

/-- One of a list of named alternatives: its name as a string, or an object that gives the name an
empty value. What stands in the place of the name must be a string. -/
def choice {α : Type} (alternatives : List (String × α)) : Decoder α := fun budget s => do
  let named (name : String) : Except Fault α :=
    match alternatives.lookup name with
    | some a => .ok a
    | none => .error .mismatch
  match ← valueStart s with
  | '"' :: _ =>
    let (name, rest) ← string budget s
    return (← named name, rest)
  | '\x7b' :: t =>
    let inner ← budget.enter
    match ← valueStart t with
    | '"' :: name =>
      let (name, after) ← stringBody true name
      let a ← named (String.ofList name)
      let (_, after) ← null inner (← afterColon after)
      match skipGap after with
      | '\x7d' :: rest => return (a, rest)
      | [] => .error .unfinished
      | _ => .error .malformed
    | _ => .error .malformed
  | _ => .error .malformed

/-- The value that makes up a text. -/
def decode {α : Type} (decoder : Decoder α) (s : List Char) : Except Fault α := do
  let (value, rest) ← decoder ⟨greatestDepth, s.length⟩ s
  if skipGap rest = [] then return value else .error .malformed

end Tabula.Json
