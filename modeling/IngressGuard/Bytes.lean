/-!
# Bytes, bits and UTF-8

Small operations on byte and bit sequences shared by the encodings and the digest: fixed-width
bit strings of numbers (most significant bit first), cutting a list into pieces, and lowercase
hexadecimal text of bytes.

Bytes are read back as UTF-8 where they form valid sequences; each maximal piece of an invalid or
truncated sequence becomes one replacement character U+FFFD. A piece ends at the first byte that
cannot continue the sequence begun, so a lead byte followed by a wrong byte yields one replacement
and reading resumes at the wrong byte.
-/

namespace IngressGuard.Bytes

/-- The bits of a number in a field of `width` bits, most significant first. -/
def bitsOf : Nat → Nat → List Bool
  | 0, _ => []
  | width + 1, n => n.testBit width :: bitsOf width n

/-- The number a list of bits stands for, most significant first. -/
def ofBits (bits : List Bool) : Nat :=
  bits.foldl (fun acc b => 2 * acc + b.toNat) 0

/-- Cuts a list into consecutive pieces of `size` elements; the last piece may be shorter. -/
def chunks {α : Type} (size : Nat) (xs : List α) : List (List α) :=
  if size = 0 ∨ xs = [] then [] else
    xs.take size :: chunks size (xs.drop size)
termination_by xs.length
decreasing_by
  rename_i h
  simp only [not_or] at h
  have := List.length_pos_iff.2 h.2
  simp only [List.length_drop]
  omega

/-- The lowercase hexadecimal digit of a value below sixteen. -/
def hexDigit (v : Nat) : Char :=
  if v < 10 then Char.ofNat (48 + v) else Char.ofNat (87 + v)

/-- Lowercase hexadecimal text of bytes, two digits a byte. -/
def hex (bytes : List UInt8) : String :=
  String.ofList (bytes.flatMap fun b => [hexDigit (b.toNat / 16), hexDigit (b.toNat % 16)])

/-- The bytes of a text in UTF-8. -/
def utf8 (text : String) : List UInt8 :=
  text.toUTF8.toList

end IngressGuard.Bytes

namespace IngressGuard.Utf8

/-- Whether a byte continues a multi-byte sequence. -/
def isContinuation (b : UInt8) : Bool :=
  0x80 ≤ b && b ≤ 0xBF

/-- The allowed range of the second byte after a lead byte, and how many bytes follow the lead. -/
def leadShape (b : UInt8) : Option ((UInt8 × UInt8) × Nat) :=
  if 0xC2 ≤ b && b ≤ 0xDF then some ((0x80, 0xBF), 1)
  else if b = 0xE0 then some ((0xA0, 0xBF), 2)
  else if (0xE1 ≤ b && b ≤ 0xEC) || b = 0xEE || b = 0xEF then some ((0x80, 0xBF), 2)
  else if b = 0xED then some ((0x80, 0x9F), 2)
  else if b = 0xF0 then some ((0x90, 0xBF), 3)
  else if 0xF1 ≤ b && b ≤ 0xF3 then some ((0x80, 0xBF), 3)
  else if b = 0xF4 then some ((0x80, 0x8F), 3)
  else none

/-- The code point of a lead byte and its continuation bytes. -/
def codePoint (lead : UInt8) (rest : List UInt8) : Nat :=
  let first := match rest.length with
    | 1 => lead.toNat % 0x20
    | 2 => lead.toNat % 0x10
    | _ => lead.toNat % 0x08
  rest.foldl (fun acc b => acc * 64 + b.toNat % 64) first

/-- Takes the continuation bytes of a sequence: the first must lie in `second`, the others are
ordinary continuation bytes. Returns the bytes taken and whether all `count` were there. -/
def takeContinuation (second : UInt8 × UInt8) (count : Nat) (bytes : List UInt8) :
    List UInt8 × Bool :=
  go true count bytes []
where
  go (isSecond : Bool) : Nat → List UInt8 → List UInt8 → List UInt8 × Bool
    | 0, _, acc => (acc.reverse, true)
    | _ + 1, [], acc => (acc.reverse, false)
    | n + 1, b :: bs, acc =>
      let ok := if isSecond then second.1 ≤ b && b ≤ second.2 else isContinuation b
      if ok then go false n bs (b :: acc) else (acc.reverse, false)

/-- Decodes bytes, replacing each invalid piece by U+FFFD. -/
def decodeLossy (bytes : List UInt8) : String :=
  String.ofList (go bytes.length bytes [])
where
  go : Nat → List UInt8 → List Char → List Char
    | 0, _, acc => acc.reverse
    | _, [], acc => acc.reverse
    | fuel + 1, b :: bs, acc =>
      if b < 0x80 then go fuel bs (Char.ofNat b.toNat :: acc)
      else match leadShape b with
        | none => go fuel bs ('�' :: acc)
        | some (second, count) =>
          let (taken, complete) := takeContinuation second count bs
          if complete then go fuel (bs.drop taken.length) (Char.ofNat (codePoint b taken) :: acc)
          else go fuel (bs.drop taken.length) ('�' :: acc)

end IngressGuard.Utf8
