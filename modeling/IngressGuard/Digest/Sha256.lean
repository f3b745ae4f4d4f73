import IngressGuard.Bytes

/-!
# SHA-256

The digest of FIPS 180-4 over a byte sequence: the message is padded with a one bit, zero bits
and its bit length to a multiple of 64 bytes, and each 64-byte block is folded into eight
32-bit words by 64 rounds. The digest is those words, big-endian. `shortHex` is the first 32
hexadecimal digits of the digest, the form used in generated names and label values.
-/

namespace IngressGuard.Sha256

open IngressGuard.Bytes

/-- The round constants. -/
def roundConstants : List UInt32 :=
  [0x428a2f98, 0x71374491, 0xb5c0fbcf, 0xe9b5dba5, 0x3956c25b, 0x59f111f1, 0x923f82a4, 0xab1c5ed5,
   0xd807aa98, 0x12835b01, 0x243185be, 0x550c7dc3, 0x72be5d74, 0x80deb1fe, 0x9bdc06a7, 0xc19bf174,
   0xe49b69c1, 0xefbe4786, 0x0fc19dc6, 0x240ca1cc, 0x2de92c6f, 0x4a7484aa, 0x5cb0a9dc, 0x76f988da,
   0x983e5152, 0xa831c66d, 0xb00327c8, 0xbf597fc7, 0xc6e00bf3, 0xd5a79147, 0x06ca6351, 0x14292967,
   0x27b70a85, 0x2e1b2138, 0x4d2c6dfc, 0x53380d13, 0x650a7354, 0x766a0abb, 0x81c2c92e, 0x92722c85,
   0xa2bfe8a1, 0xa81a664b, 0xc24b8b70, 0xc76c51a3, 0xd192e819, 0xd6990624, 0xf40e3585, 0x106aa070,
   0x19a4c116, 0x1e376c08, 0x2748774c, 0x34b0bcb5, 0x391c0cb3, 0x4ed8aa4a, 0x5b9cca4f, 0x682e6ff3,
   0x748f82ee, 0x78a5636f, 0x84c87814, 0x8cc70208, 0x90befffa, 0xa4506ceb, 0xbef9a3f7, 0xc67178f2]

/-- The eight working words. -/
structure Words where
  a : UInt32
  b : UInt32
  c : UInt32
  d : UInt32
  e : UInt32
  f : UInt32
  g : UInt32
  h : UInt32

/-- The words before the first block. -/
def initial : Words :=
  ⟨0x6a09e667, 0xbb67ae85, 0x3c6ef372, 0xa54ff53a,
   0x510e527f, 0x9b05688c, 0x1f83d9ab, 0x5be0cd19⟩

/-- Rotation to the right within 32 bits. -/
def rotr (x : UInt32) (n : UInt32) : UInt32 :=
  (x >>> n) ||| (x <<< (32 - n))

/-- One round: the working words after mixing in the round constant `k` and schedule word `w`. -/
def round (s : Words) (kw : UInt32 × UInt32) : Words :=
  let s1 := rotr s.e 6 ^^^ rotr s.e 11 ^^^ rotr s.e 25
  let ch := (s.e &&& s.f) ^^^ (~~~s.e &&& s.g)
  let t1 := s.h + s1 + ch + kw.1 + kw.2
  let s0 := rotr s.a 2 ^^^ rotr s.a 13 ^^^ rotr s.a 22
  let maj := (s.a &&& s.b) ^^^ (s.a &&& s.c) ^^^ (s.b &&& s.c)
  let t2 := s0 + maj
  ⟨t1 + t2, s.a, s.b, s.c, s.d + t1, s.e, s.f, s.g⟩

/-- A big-endian word of four bytes. -/
def wordOf (bytes : List UInt8) : UInt32 :=
  bytes.foldl (fun acc b => (acc <<< 8) ||| b.toUInt32) 0

/-- The 64 schedule words of a block given its 16 message words, oldest first. -/
def schedule (message : List UInt32) : List UInt32 :=
  (List.range 48).foldl (fun ws _ =>
    let n := ws.length
    let w2 := ws.getD (n - 2) 0
    let w7 := ws.getD (n - 7) 0
    let w15 := ws.getD (n - 15) 0
    let w16 := ws.getD (n - 16) 0
    let sigma0 := rotr w15 7 ^^^ rotr w15 18 ^^^ (w15 >>> 3)
    let sigma1 := rotr w2 17 ^^^ rotr w2 19 ^^^ (w2 >>> 10)
    ws ++ [sigma1 + w7 + sigma0 + w16]) message

/-- Folds one 64-byte block into the words. -/
def compress (s : Words) (block : List UInt8) : Words :=
  let ws := schedule ((chunks 4 block).map wordOf)
  let t := (roundConstants.zip ws).foldl round s
  ⟨s.a + t.a, s.b + t.b, s.c + t.c, s.d + t.d, s.e + t.e, s.f + t.f, s.g + t.g, s.h + t.h⟩

/-- The message followed by the one bit, zero bits to 56 bytes modulo 64, and its bit length as
eight big-endian bytes. -/
def pad (message : List UInt8) : List UInt8 :=
  let n := message.length
  let zeros := (119 - n % 64) % 64
  message ++ [0x80] ++ List.replicate zeros 0 ++
    (bitsOf 64 (8 * n) |> chunks 8 |>.map fun byte => (ofBits byte).toUInt8)

/-- The big-endian bytes of a word. -/
def bytesOfWord (w : UInt32) : List UInt8 :=
  [(w >>> 24).toUInt8, (w >>> 16).toUInt8, (w >>> 8).toUInt8, w.toUInt8]

/-- The 32-byte digest of a message. -/
def digest (message : List UInt8) : List UInt8 :=
  let s := (chunks 64 (pad message)).foldl compress initial
  [s.a, s.b, s.c, s.d, s.e, s.f, s.g, s.h].flatMap bytesOfWord

/-- The first 32 lowercase hexadecimal digits of the digest of a message. -/
def shortHex (message : List UInt8) : String :=
  String.ofList ((hex (digest message)).toList.take 32)

end IngressGuard.Sha256
