/-!
# Finite binary64 numbers

The finite values of the IEEE 754 binary64 format: a sign and a magnitude `mantissa × 2^exponent`
with a 53-bit significand. A value is kept in canonical form: zero has mantissa `0`; a normal
value has `2^52 ≤ mantissa < 2^53` and `-1074 ≤ exponent ≤ 971`; a subnormal value has
`mantissa < 2^52` and exponent `-1074`.

All arithmetic is exact on natural numbers, followed by one rounding to nearest with ties to
even, as IEEE 754 prescribes for every basic operation. A result too large for the format is
reported as `none` (it would be an infinity).
-/

namespace IngressGuard

/-- A finite binary64 value `(-1)^negative × mantissa × 2^exponent`. -/
structure Binary64 where
  negative : Bool := false
  mantissa : Nat := 0
  exponent : Int := -1074
deriving DecidableEq, Repr

namespace Binary64

/-- The least exponent: the unit of the subnormal values. -/
def minExponent : Int := -1074

/-- The greatest exponent of a finite value. -/
def maxExponent : Int := 971

/-- Zero of a sign. -/
def zero (negative : Bool := false) : Binary64 :=
  { negative, mantissa := 0, exponent := minExponent }

/-- Whether a value is zero, of either sign. -/
def isZero (x : Binary64) : Bool :=
  x.mantissa == 0

/-- The value with its sign flipped. -/
def neg (x : Binary64) : Binary64 :=
  { x with negative := !x.negative }

/-- `n / d` rounded to the nearest natural number, a tie going to the even one. -/
def roundHalfEven (n d : Nat) : Nat :=
  let q := n / d
  let r := n % d
  if 2 * r > d || (2 * r == d && q % 2 == 1) then q + 1 else q

/-- The exponent `k` with `2^k ≤ num / den < 2^(k+1)`, for positive `num` and `den`. -/
def floorLog2 (num den : Nat) : Int :=
  let k : Int := (num.log2 : Int) - den.log2
  let atLeast : Bool :=
    if 0 ≤ k then decide (den * Nat.pow 2 k.toNat ≤ num)
    else decide (den ≤ num * Nat.pow 2 (-k).toNat)
  if atLeast then k else k - 1

/-- The magnitude `num / den` rounded to binary64 as a mantissa and an exponent, or `none` when
it exceeds the largest finite value. -/
def roundMagnitude (num den : Nat) : Option (Nat × Int) :=
  if num = 0 || den = 0 then some (0, minExponent)
  else
    let e := max (floorLog2 num den - 52) minExponent
    let m :=
      if 0 ≤ e then roundHalfEven num (den * Nat.pow 2 e.toNat)
      else roundHalfEven (num * Nat.pow 2 (-e).toNat) den
    let (m, e) := if m = Nat.pow 2 53 then (Nat.pow 2 52, e + 1) else (m, e)
    if m = 0 then some (0, minExponent)
    else if maxExponent < e then none
    else some (m, e)

/-- The binary64 value nearest to `±num / den`, or `none` when it is too large. -/
def ofRatio (negative : Bool) (num den : Nat) : Option Binary64 :=
  (roundMagnitude num den).map fun (m, e) => { negative, mantissa := m, exponent := e }

/-- The binary64 value nearest to a natural number; it is finite below `2^1024`. -/
def ofNat (n : Nat) : Binary64 :=
  (ofRatio false n 1).getD (zero false)

/-- A value as an exact ratio of natural numbers, with its sign. -/
def toRatio (x : Binary64) : Bool × Nat × Nat :=
  if 0 ≤ x.exponent then (x.negative, x.mantissa * Nat.pow 2 x.exponent.toNat, 1)
  else (x.negative, x.mantissa, Nat.pow 2 (-x.exponent).toNat)

/-- The rounded product, or `none` when it overflows. -/
def mul (x y : Binary64) : Option Binary64 :=
  let (sx, nx, dx) := x.toRatio
  let (sy, ny, dy) := y.toRatio
  ofRatio (sx != sy) (nx * ny) (dx * dy)

/-- The rounded quotient by a nonzero value, or `none` when it overflows. -/
def div (x y : Binary64) : Option Binary64 :=
  let (sx, nx, dx) := x.toRatio
  let (sy, ny, dy) := y.toRatio
  ofRatio (sx != sy) (nx * dy) (dx * ny)

/-- The binary64 value nearest to `10^k`, for the powers that are finite. -/
def pow10 (k : Nat) : Binary64 :=
  ofNat (Nat.pow 10 k)

end Binary64

end IngressGuard
