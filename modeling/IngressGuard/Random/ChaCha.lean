/-!
# The ChaCha12 keystream

ChaCha generates a stream of 32-bit words from a 16-word state: four constant words, an
eight-word key, a 64-bit block counter (low word first) and a 64-bit stream number. A block is
the state after twelve rounds, six double rounds of column and diagonal quarter rounds, added
word by word to the state it started from; the stream is the blocks of counters 0, 1, 2, … one
after another.

The controller's random generator is ChaCha12 under the all-zero key, the only seed its seed
source yields. It hands out 32 bytes at a time, each the low byte of one word, and is seeded
again every 64 KiB of output, so its stream of 32-byte draws starts over every 512 draws
(`draw`). Nothing else about the generator is relied on: the world carries its stream of draws,
and this one is only the stream it starts with.
-/

namespace IngressGuard.ChaCha

/-- The four constant words, "expand 32-byte k" read as little-endian words. -/
def constants : List UInt32 :=
  [0x61707865, 0x3320646e, 0x79622d32, 0x6b206574]

/-- Rotates a word left by `n` bits, for `0 < n < 32`. -/
def rotl (x n : UInt32) : UInt32 :=
  (x <<< n) ||| (x >>> (32 - n))

/-- The quarter round on the words at positions `a`, `b`, `c` and `d`. -/
def quarter (s : Array UInt32) (a b c d : Nat) : Array UInt32 :=
  let va := s.getD a 0 + s.getD b 0
  let vd := rotl (s.getD d 0 ^^^ va) 16
  let vc := s.getD c 0 + vd
  let vb := rotl (s.getD b 0 ^^^ vc) 12
  let va := va + vb
  let vd := rotl (vd ^^^ va) 8
  let vc := vc + vd
  let vb := rotl (vb ^^^ vc) 7
  (((s.setIfInBounds a va).setIfInBounds b vb).setIfInBounds c vc).setIfInBounds d vd

/-- A column round followed by a diagonal round. -/
def doubleRound (s : Array UInt32) : Array UInt32 :=
  let s := quarter s 0 4 8 12
  let s := quarter s 1 5 9 13
  let s := quarter s 2 6 10 14
  let s := quarter s 3 7 11 15
  let s := quarter s 0 5 10 15
  let s := quarter s 1 6 11 12
  let s := quarter s 2 7 8 13
  quarter s 3 4 9 14

/-- `n` double rounds. -/
def doubleRounds : Nat → Array UInt32 → Array UInt32
  | 0, s => s
  | n + 1, s => doubleRounds n (doubleRound s)

/-- The starting state of a block: constants, key, counter, and stream number zero. -/
def initial (key : List UInt32) (counter : Nat) : Array UInt32 :=
  (constants ++ key ++ [UInt32.ofNat counter, UInt32.ofNat (counter / Nat.pow 2 32), 0, 0]).toArray

/-- The sixteen words of the block with a counter, after twelve rounds. -/
def block (key : List UInt32) (counter : Nat) : List UInt32 :=
  let s := initial key counter
  List.zipWith (· + ·) (doubleRounds 6 s).toList s.toList

/-- The all-zero key. -/
def zeroKey : List UInt32 :=
  List.replicate 8 0

theorem size_quarter (s : Array UInt32) (a b c d : Nat) : (quarter s a b c d).size = s.size := by
  simp [quarter]

theorem size_doubleRounds (n : Nat) (s : Array UInt32) : (doubleRounds n s).size = s.size := by
  induction n generalizing s with
  | zero => rfl
  | succ n ih => simp [doubleRounds, ih, doubleRound, size_quarter]

theorem length_block (n : Nat) : (block zeroKey n).length = 16 := by
  simp [block, size_doubleRounds, initial, constants, zeroKey]

/-- The `k`-th draw of 32 bytes (from zero): the low bytes of the words of blocks `2j` and
`2j + 1` under the all-zero key, where `j` is `k` modulo the 512 draws after which the stream
starts over. -/
def draw (k : Nat) : Vector UInt8 32 :=
  let j := k % 512
  ⟨((block zeroKey (2 * j) ++ block zeroKey (2 * j + 1)).map (·.toUInt8)).toArray,
    by simp [length_block]⟩

end IngressGuard.ChaCha
