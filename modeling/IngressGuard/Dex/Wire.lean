import IngressGuard.Dex.Message
import IngressGuard.Bytes

/-!
# Dex messages on the wire

The protobuf binary encoding of the Dex messages. A field is a key (field number times eight plus
the wire type, as a varint) followed by its value: a varint for booleans, a varint length and the
bytes for strings and nested messages. Fields are written in field-number order; a string or
boolean that has its default value is left out, each element of a repeated field is written (even
an empty one), and a present nested message is written even when it is empty.

Decoding accepts fields in any order: a later scalar value replaces an earlier one, repeated fields
append, a nested message given twice is merged, and unknown fields are skipped. A fault is reported
with the fields it occurred in, innermost first, such as
`Client.id: CreateClientReq.client: buffer underflow`.

Varints are at most ten bytes, and a tenth byte may only be 0 or 1. Nesting of messages and groups
is limited to a depth of one hundred.
-/

namespace IngressGuard.Dex

/-! ## Writing -/

/-- The varint bytes of a number: seven bits a byte, least significant first, the high bit set on
all but the last byte. -/
def encodeVarint (n : Nat) : List UInt8 :=
  if n < 128 then [n.toUInt8] else (n % 128 + 128).toUInt8 :: encodeVarint (n / 128)
termination_by n
decreasing_by omega

/-- The wire types. -/
inductive WireType where
  | varint
  | sixtyFourBit
  | lengthDelimited
  | startGroup
  | endGroup
  | thirtyTwoBit
deriving DecidableEq, Repr

/-- The number of a wire type in a key. -/
def WireType.code : WireType → Nat
  | .varint => 0
  | .sixtyFourBit => 1
  | .lengthDelimited => 2
  | .startGroup => 3
  | .endGroup => 4
  | .thirtyTwoBit => 5

/-- The wire type of a key's low three bits. -/
def WireType.ofCode? : Nat → Option WireType
  | 0 => some .varint
  | 1 => some .sixtyFourBit
  | 2 => some .lengthDelimited
  | 3 => some .startGroup
  | 4 => some .endGroup
  | 5 => some .thirtyTwoBit
  | _ => none

/-- The name of a wire type in messages. -/
def WireType.name : WireType → String
  | .varint => "Varint"
  | .sixtyFourBit => "SixtyFourBit"
  | .lengthDelimited => "LengthDelimited"
  | .startGroup => "StartGroup"
  | .endGroup => "EndGroup"
  | .thirtyTwoBit => "ThirtyTwoBit"

/-- The key of a field. -/
def encodeKey (field : Nat) (wireType : WireType) : List UInt8 :=
  encodeVarint (8 * field + wireType.code)

/-- A length-delimited field. -/
def encodeBytesField (field : Nat) (bytes : List UInt8) : List UInt8 :=
  encodeKey field .lengthDelimited ++ encodeVarint bytes.length ++ bytes

/-- A string field, left out when empty. -/
def encodeString (field : Nat) (s : String) : List UInt8 :=
  if s.isEmpty then [] else encodeBytesField field (Bytes.utf8 s)

/-- A repeated string field, every element written. -/
def encodeStrings (field : Nat) (items : List String) : List UInt8 :=
  items.flatMap fun s => encodeBytesField field (Bytes.utf8 s)

/-- A boolean field, left out when false. -/
def encodeBool (field : Nat) (b : Bool) : List UInt8 :=
  if b then encodeKey field .varint ++ [1] else []

/-- The encoding of a client. -/
def Client.encode (c : Client) : List UInt8 :=
  encodeString 1 c.id ++ encodeString 2 c.secret ++ encodeStrings 3 c.redirectUris ++
    encodeStrings 4 c.trustedPeers ++ encodeBool 5 c.isPublic ++ encodeString 6 c.name ++
    encodeString 7 c.logoUrl

/-- A nested client field, written whenever present. -/
def encodeClient (field : Nat) : Option Client → List UInt8
  | some c => encodeBytesField field c.encode
  | none => []

/-- The encoding of a creation request. -/
def CreateClientReq.encode (m : CreateClientReq) : List UInt8 :=
  encodeClient 1 m.client

/-- The encoding of a creation answer. -/
def CreateClientResp.encode (m : CreateClientResp) : List UInt8 :=
  encodeBool 1 m.alreadyExists ++ encodeClient 2 m.client

/-- The encoding of a deletion request. -/
def DeleteClientReq.encode (m : DeleteClientReq) : List UInt8 :=
  encodeString 1 m.id

/-- The encoding of a deletion answer. -/
def DeleteClientResp.encode (m : DeleteClientResp) : List UInt8 :=
  encodeBool 1 m.notFound

/-! ## Reading -/

/-- A decoding fault: the fields it occurred in, innermost first, and what went wrong. -/
structure DecodeError where
  fields : List (String × String) := []
  description : String
deriving DecidableEq, Repr

/-- The text of a decoding fault. -/
def DecodeError.message (e : DecodeError) : String :=
  "failed to decode Protobuf message: " ++
    String.join (e.fields.map fun (m, f) => m ++ "." ++ f ++ ": ") ++ e.description

/-- Reading from the bytes that remain. -/
abbrev Wire := StateT (List UInt8) (Except DecodeError)

namespace Wire

/-- Fails with a description. -/
def fail {α : Type} (description : String) : Wire α :=
  throw { description }

/-- Adds the field a fault occurred in. -/
def within {α : Type} (message field : String) (x : Wire α) : Wire α :=
  tryCatch x fun e => throw { e with fields := e.fields ++ [(message, field)] }

/-- Reads a varint of at most ten bytes. -/
def varint : Wire Nat := do
  let bytes ← get
  let rec go : Nat → List UInt8 → Nat → Option (Nat × List UInt8)
    | _, [], _ => none
    | i, b :: rest, acc =>
      let acc := acc + (b.toNat % 128) * Nat.pow 2 (7 * i)
      if b < 128 then
        if i = 9 ∧ 2 ≤ b.toNat then none else some (acc, rest)
      else if i = 9 then none
      else go (i + 1) rest acc
  match go 0 bytes 0 with
  | some (n, rest) => do set rest; pure n
  | none => fail "invalid varint"

/-- Reads a key: a field number and a wire type. -/
def key : Wire (Nat × WireType) := do
  let k ← varint
  if 4294967295 < k then fail ("invalid key value: " ++ toString k) else
  match WireType.ofCode? (k % 8) with
  | none => fail ("invalid wire type value: " ++ toString (k % 8))
  | some wt => if k / 8 = 0 then fail "invalid tag value: 0" else pure (k / 8, wt)

/-- Checks the wire type of a field. -/
def expect (expected actual : WireType) : Wire Unit :=
  if expected = actual then pure ()
  else fail ("invalid wire type: " ++ actual.name ++ " (expected " ++ expected.name ++ ")")

/-- Takes `n` bytes. -/
def take (n : Nat) : Wire (List UInt8) := do
  let bytes ← get
  if bytes.length < n then fail "buffer underflow" else
    set (bytes.drop n)
    pure (bytes.take n)

/-- Reads a length-delimited value. -/
def delimited (wt : WireType) : Wire (List UInt8) := do
  expect .lengthDelimited wt
  take (← varint)

/-- Reads a string value. -/
def string (wt : WireType) : Wire String := do
  let bytes ← delimited wt
  match String.fromUTF8? (ByteArray.mk bytes.toArray) with
  | some s => pure s
  | none => fail "invalid string value: data is not UTF-8 encoded"

/-- Reads a boolean value. -/
def bool (wt : WireType) : Wire Bool := do
  expect .varint wt
  return (← varint) != 0

/-- Skips a field of unknown number; `depth` counts the groups still allowed. -/
def skip : Nat → Nat → WireType → Nat → Wire Unit
  | 0, _, _, _ => fail "recursion limit reached"
  | depth + 1, field, wt, fuel => do
    let len ← match wt with
      | .varint => do let _ ← varint; pure 0
      | .thirtyTwoBit => pure 4
      | .sixtyFourBit => pure 8
      | .lengthDelimited => varint
      | .endGroup => fail "unexpected end group tag"
      | .startGroup => do skipGroup depth field fuel; pure 0
    let _ ← take len
where
  /-- Skips the fields of a group through its end tag. -/
  skipGroup (depth field : Nat) : Nat → Wire Unit
    | 0 => fail "invalid varint"
    | fuel + 1 => do
      let (inner, wt) ← key
      if wt = .endGroup then
        if inner = field then pure () else fail "unexpected end group tag"
      else
        skip depth inner wt fuel
        skipGroup depth field fuel

/-- Reads fields into a message until `stop` bytes remain. -/
def fields {α : Type} (merge : α → Nat → WireType → Wire α) (stop : Nat) :
    Nat → α → Wire α
  | 0, msg => pure msg
  | fuel + 1, msg => do
    if (← get).length ≤ stop then pure msg else
      let (field, wt) ← key
      let msg ← merge msg field wt
      fields merge stop fuel msg

/-- Reads a nested message into `msg`, its fields bounded by its length. -/
def nested {α : Type} (merge : α → Nat → WireType → Wire α) (wt : WireType) (msg : α) :
    Wire α := do
  expect .lengthDelimited wt
  let len ← varint
  let remaining := (← get).length
  if remaining < len then fail "buffer underflow" else
    let stop := remaining - len
    let msg ← fields merge stop remaining msg
    if (← get).length = stop then pure msg else fail "delimited length exceeded"

end Wire

/-- Merges one field into a client. -/
def Client.mergeField (depth : Nat) (c : Client) (field : Nat) (wt : WireType) : Wire Client :=
  match field with
  | 1 => Wire.within "Client" "id" do return { c with id := ← Wire.string wt }
  | 2 => Wire.within "Client" "secret" do return { c with secret := ← Wire.string wt }
  | 3 => Wire.within "Client" "redirect_uris" do
      return { c with redirectUris := c.redirectUris ++ [← Wire.string wt] }
  | 4 => Wire.within "Client" "trusted_peers" do
      return { c with trustedPeers := c.trustedPeers ++ [← Wire.string wt] }
  | 5 => Wire.within "Client" "public" do return { c with isPublic := ← Wire.bool wt }
  | 6 => Wire.within "Client" "name" do return { c with name := ← Wire.string wt }
  | 7 => Wire.within "Client" "logo_url" do return { c with logoUrl := ← Wire.string wt }
  | _ => do
    Wire.skip depth field wt (← get).length
    pure c

/-- Merges a nested client field; `depth` counts the nesting still allowed. -/
def mergeClient (depth : Nat) (wt : WireType) (c : Option Client) : Wire (Option Client) := do
  Wire.expect .lengthDelimited wt
  match depth with
  | 0 => Wire.fail "recursion limit reached"
  | depth + 1 => some <$> Wire.nested (Client.mergeField depth) wt (c.getD {})

/-- The depth of nesting a decoder allows. -/
def recursionLimit : Nat := 100

/-- Decodes a whole message from its fields. -/
def decodeWith {α : Type} (merge : α → Nat → WireType → Wire α) (init : α)
    (bytes : List UInt8) :
    Except DecodeError α :=
  (Wire.fields merge 0 (bytes.length + 1) init).run' bytes

/-- Decodes a client. -/
def Client.decode (bytes : List UInt8) : Except DecodeError Client :=
  decodeWith (Client.mergeField recursionLimit) {} bytes

/-- Decodes a creation request. -/
def CreateClientReq.decode (bytes : List UInt8) : Except DecodeError CreateClientReq :=
  decodeWith (fun (m : CreateClientReq) field wt => match field with
    | 1 => Wire.within "CreateClientReq" "client" do
        return { m with client := ← mergeClient recursionLimit wt m.client }
    | _ => do Wire.skip recursionLimit field wt (← get).length; pure m) {} bytes

/-- Decodes a creation answer. -/
def CreateClientResp.decode (bytes : List UInt8) : Except DecodeError CreateClientResp :=
  decodeWith (fun (m : CreateClientResp) field wt => match field with
    | 1 => Wire.within "CreateClientResp" "already_exists" do
        return { m with alreadyExists := ← Wire.bool wt }
    | 2 => Wire.within "CreateClientResp" "client" do
        return { m with client := ← mergeClient recursionLimit wt m.client }
    | _ => do Wire.skip recursionLimit field wt (← get).length; pure m) {} bytes

/-- Decodes a deletion request. -/
def DeleteClientReq.decode (bytes : List UInt8) : Except DecodeError DeleteClientReq :=
  decodeWith (fun (m : DeleteClientReq) field wt => match field with
    | 1 => Wire.within "DeleteClientReq" "id" do return { m with id := ← Wire.string wt }
    | _ => do Wire.skip recursionLimit field wt (← get).length; pure m) {} bytes

/-- Decodes a deletion answer. -/
def DeleteClientResp.decode (bytes : List UInt8) : Except DecodeError DeleteClientResp :=
  decodeWith (fun (m : DeleteClientResp) field wt => match field with
    | 1 => Wire.within "DeleteClientResp" "not_found" do
        return { m with notFound := ← Wire.bool wt }
    | _ => do Wire.skip recursionLimit field wt (← get).length; pure m) {} bytes

end IngressGuard.Dex
