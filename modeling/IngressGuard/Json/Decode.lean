import IngressGuard.Json.Basic
import IngressGuard.Json.Mismatch

/-!
# Decoding JSON values into typed values

A `Decoder` reads a `Json` value into a typed value or fails with a message. Records are decoded
the way a derived decoder reads a map: known members are checked in the order of their names
(the order a sorted map presents them), unknown members are ignored, and only then are absent
required members reported, in the order the record declares its fields. A record may also be
written as an array of its fields in declared order.

String maps are read in the order of their keys; a later duplicate key wins.
-/

namespace IngressGuard.Json

/-- Decodes a JSON value; a fault is a message. -/
abbrev Decoder (α : Type) := Json → Except String α

namespace Decode

/-- How a value is named when it is found where something else was expected. -/
def unexpected : Json → Unexpected
  | .null => .null
  | .bool b => .bool b
  | .num n => Unexpected.ofInt n
  | .float x => .float x.text
  | .str s => .str s
  | .arr _ => .seq
  | .obj _ => .map

/-- Fails because `v` is not what `expected` names. -/
def mismatch {α : Type} (expected : String) (v : Json) : Except String α :=
  .error (invalidType (unexpected v) expected)

/-- A string. -/
def string : Decoder String
  | .str s => .ok s
  | v => mismatch "a string" v

/-- A boolean. -/
def bool : Decoder Bool
  | .bool b => .ok b
  | v => mismatch "a boolean" v

/-- A signed 32-bit integer. -/
def int32 : Decoder Int
  | .num n =>
    if -2147483648 ≤ n ∧ n ≤ 2147483647 then .ok n
    else .error (invalidValue (Unexpected.ofInt n) "i32")
  | v => mismatch "i32" v

/-- A signed 64-bit integer. -/
def int64 : Decoder Int
  | .num n =>
    if -9223372036854775808 ≤ n ∧ n ≤ 9223372036854775807 then .ok n
    else .error (invalidValue (Unexpected.ofInt n) "i64")
  | v => mismatch "i64" v

/-- An array of values of one kind. -/
def list {α : Type} (item : Decoder α) : Decoder (List α)
  | .arr items => items.mapM item
  | v => mismatch "a sequence" v

/-- Orders object members by name; of two members with one name the later one is kept. -/
def sortedMembers (members : List (String × Json)) : List (String × Json) :=
  let kept := members.foldl (fun acc m => Json.setMember acc m.1 m.2) []
  kept.mergeSort fun a b => decide (a.1 ≤ b.1)

/-- A value with the members of every object ordered by name, each name once (the later member
of a name wins), as a document kept in maps holds them. -/
def sortKeys : Json → Json
  | .arr items => .arr (items.attach.map fun ⟨v, _⟩ => sortKeys v)
  | .obj members => .obj (sortedMembers (members.attach.map fun ⟨(k, v), _⟩ => (k, sortKeys v)))
  | v => v
termination_by v => sizeOf v
decreasing_by
  all_goals
    rename_i mem
    have := List.sizeOf_lt_of_mem mem
    simp only [Prod.mk.sizeOf_spec, Json.arr.sizeOf_spec, Json.obj.sizeOf_spec] at *
    omega

/-- A map from strings to strings, ordered by key. -/
def stringMap : Decoder (List (String × String))
  | .obj members => (sortedMembers members).mapM fun (k, v) => do
      let s ← string v
      pure (k, s)
  | v => mismatch "a map" v

/-- A value that may be `null`. -/
def nullable {α : Type} (d : Decoder α) : Decoder (Option α)
  | .null => .ok none
  | v => some <$> d v

end Decode

/-- A record being decoded: its members by field name, and, when it was written as an array, the
array's length. -/
structure Record where
  expected : String
  fields : List String
  members : List (String × Json)
  arrayLength : Option Nat

/-- A check of one field's value, run before the fields are read. -/
structure FieldCheck where
  name : String
  check : Json → Except String Unit

/-- A field check from the field's decoder. -/
def FieldCheck.of {α : Type} (name : String) (d : Decoder α) : FieldCheck :=
  ⟨name, fun v => (d v).map fun _ => ()⟩

/-- The phrase a derived decoder uses for a record read from an array. -/
def arrayExpectation (expected : String) (count : Nat) : String :=
  if count = 1 then expected ++ " with 1 element"
  else expected ++ " with " ++ toString count ++ " elements"

/-- Opens a record named `expected` (such as `struct DexSpec`) with the given fields, checking
every known member. -/
def Record.open (expected : String) (checks : List FieldCheck) : Decoder Record
  | .obj members => do
    for (k, v) in Decode.sortedMembers members do
      match checks.find? (·.name == k) with
      | some c => c.check v
      | none => pure ()
    pure ⟨expected, checks.map (·.name), members, none⟩
  | .arr items => do
    for (c, v) in checks.zip items do
      c.check v
    if checks.length < items.length then
      .error (invalidLength items.length "fewer elements in array")
    else
      pure ⟨expected, checks.map (·.name), (checks.map (·.name)).zip items, some items.length⟩
  | v => Decode.mismatch expected v

/-- A field check that lets `null` through. -/
def FieldCheck.maybe {α : Type} (name : String) (d : Decoder α) : FieldCheck :=
  FieldCheck.of name (Decode.nullable d)

/-- Opens a record of the lenient kind: only an object is read (an array is refused as a
sequence), each known member is checked in the order of member names and may be `null`, unknown
members are ignored, and no member is ever missing; fields are then read with `Record.optional`
and `Record.orDefault`. -/
def Record.openLenient (expected : String) (checks : List FieldCheck) : Decoder Record
  | .obj members => do
    for (k, v) in Decode.sortedMembers members do
      match checks.find? (·.name == k) with
      | some c => c.check v
      | none => pure ()
    pure ⟨expected, checks.map (·.name), members, none⟩
  | v => Decode.mismatch expected v

/-- The value of a member, if present. -/
def Record.member? (r : Record) (name : String) : Option Json :=
  (r.members.reverse.find? (·.1 == name)).map (·.2)

/-- A field that must be present. -/
def Record.required {α : Type} (r : Record) (name : String) (d : Decoder α) : Except String α :=
  match r.member? name with
  | some v => d v
  | none =>
    match r.arrayLength with
    | none => .error (missingField name)
    | some _ => .error (invalidLength ((r.fields.idxOf? name).getD 0)
        (arrayExpectation r.expected r.fields.length))

/-- A field that may be absent or `null`. -/
def Record.optional {α : Type} (r : Record) (name : String) (d : Decoder α) :
    Except String (Option α) :=
  match r.member? name with
  | some v => Decode.nullable d v
  | none => .ok none

/-- A field that takes a default value when absent or `null`. -/
def Record.orDefault {α : Type} (r : Record) (name : String) (d : Decoder α) (default : α) :
    Except String α :=
  match r.member? name with
  | some .null => .ok default
  | some v => d v
  | none => .ok default

/-- A field that takes a default value when absent. -/
def Record.withDefault {α : Type} (r : Record) (name : String) (d : Decoder α) (default : α) :
    Except String α :=
  match r.member? name with
  | some v => d v
  | none => .ok default

end IngressGuard.Json
