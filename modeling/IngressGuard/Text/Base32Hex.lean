import IngressGuard.Bytes

/-!
# Base32 with the extended hex alphabet, unpadded

The symbols `0`–`9` and `a`–`v` stand for the values 0 to 31, so a written value sorts like
the bytes it encodes and only uses characters that a Kubernetes label value allows. Bytes are
read as one bit string, most significant bit first, cut into groups of five; the last group is
filled with zero bits. No padding symbol is written.

Reading is the inverse and checks, in this order: that the length is one that writing can
produce (eight symbols carry five bytes, so a length that leaves one, three or six symbols
over is refused), that every symbol is in the alphabet (letters in either case), and that the
bits left over after the last whole byte are zero. Positions in errors count bytes of the
input.
-/

namespace IngressGuard.Base32Hex

open IngressGuard.Bytes

/-- The symbol written for a five-bit value. -/
def symbol (v : Nat) : Char :=
  if v < 10 then Char.ofNat (48 + v) else Char.ofNat (87 + v)

/-- The value of a symbol byte, if it is one: digits, and letters `a`–`v` in either case. -/
def value? (b : UInt8) : Option Nat :=
  let n := b.toNat
  if 48 ≤ n ∧ n ≤ 57 then some (n - 48)
  else if 65 ≤ n ∧ n ≤ 86 then some (n - 55)
  else if 97 ≤ n ∧ n ≤ 118 then some (n - 87)
  else none

/-- The bit string of a byte sequence. -/
def bitsOfBytes (bytes : List UInt8) : List Bool :=
  bytes.flatMap fun b => bitsOf 8 b.toNat

/-- Writes bytes as unpadded lowercase base32hex. -/
def encode (bytes : List UInt8) : String :=
  String.ofList ((chunks 5 (bitsOfBytes bytes)).map fun group =>
    symbol (ofBits (group ++ List.replicate (5 - group.length) false)))

/-- Why a text is not base32hex. -/
inductive DecodeError where
  /-- The text's length is not one that writing produces. -/
  | invalidLength (position : Nat)
  /-- The byte at this position is not a symbol. -/
  | invalidSymbol (position : Nat)
  /-- The last symbol carries bits beyond the last whole byte that are not zero. -/
  | trailingBits (position : Nat)
deriving DecidableEq, Repr

/-- The error's text. -/
def DecodeError.message : DecodeError → String
  | .invalidLength p => "invalid length at " ++ toString p
  | .invalidSymbol p => "invalid symbol at " ++ toString p
  | .trailingBits p => "non-zero trailing bits at " ++ toString p

/-- A symbol count is written for some byte count exactly when its bits beyond the last whole
byte are fewer than five. -/
def lengthOk (n : Nat) : Bool :=
  5 * n % 8 < 5

/-- The values of the symbols, or the position of the first byte that is not a symbol. -/
def values (input : List UInt8) : Except DecodeError (List Nat) :=
  go 0 input
where
  go (position : Nat) : List UInt8 → Except DecodeError (List Nat)
    | [] => .ok []
    | b :: rest =>
      match value? b with
      | none => .error (.invalidSymbol position)
      | some v => (go (position + 1) rest).map (v :: ·)

/-- Reads unpadded base32hex, symbols in either case. -/
def decode (input : List UInt8) : Except DecodeError (List UInt8) :=
  let n := input.length
  if !lengthOk n then .error (.invalidLength (n - 1)) else
  match values input with
  | .error e => .error e
  | .ok vs =>
    let bits := vs.flatMap (bitsOf 5)
    let whole := 8 * (5 * n / 8)
    if (bits.drop whole).any id then .error (.trailingBits (n - 1))
    else .ok ((chunks 8 (bits.take whole)).map fun byte => (ofBits byte).toUInt8)

end IngressGuard.Base32Hex
