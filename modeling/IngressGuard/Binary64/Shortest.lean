import IngressGuard.Binary64.Basic

/-!
# Shortest decimal text of binary64 values

Every finite binary64 value is the rounding of a whole interval of real numbers: the reals
nearer to it than to either neighbour, the ends included exactly when the mantissa is even. The
shortest text of a value is a decimal of that interval with the fewest significant digits, and of
those the one nearest to the value itself (a tie goes to the even last digit). Reading that text
back gives the value again, and no shorter decimal does.

The decimal is written positionally while its magnitude lies between `10^-5` and `10^16`, with
`.0` after a whole number, and otherwise in exponent form: one digit, the rest after a point, and
`e` with the signed exponent (`1e+20`, `1.5e-7`). Zero is `0.0`, negative values carry a minus.
-/

namespace IngressGuard

namespace Binary64

/-- The number of decimal digits of a positive natural number. -/
def decimalLength (n : Nat) : Nat :=
  (Nat.toDigits 10 n).length

/-- The exponent `k` with `10^k ≤ num / den < 10^(k+1)`, for positive `num` and `den`. -/
def floorLog10 (num den : Nat) : Int :=
  let k : Int := (decimalLength num : Int) - decimalLength den
  let atLeast : Bool :=
    if 0 ≤ k then decide (den * Nat.pow 10 k.toNat ≤ num)
    else decide (den ≤ num * Nat.pow 10 (-k).toNat)
  if atLeast then k else k - 1

/-- `num / den` rounded up. -/
def ceilDiv (num den : Nat) : Nat :=
  (num + den - 1) / den

/-- The rounding interval of a positive value, as `(low, high, scale)`: the interval runs from
`low / scale` to `high / scale`, and the value itself is `4 × mantissa / scale` in the same
unit. -/
def interval (x : Binary64) : Nat × Nat × Nat × Nat :=
  let m := x.mantissa
  -- below the smallest mantissa of an exponent the lower neighbour is half as far away
  let gapBelow := if m = Nat.pow 2 52 && minExponent < x.exponent then 1 else 2
  let e := x.exponent - 2
  let p := if 0 ≤ e then Nat.pow 2 e.toNat else 1
  let q := if 0 ≤ e then 1 else Nat.pow 2 (-e).toNat
  ((4 * m - gapBelow) * p, (4 * m + 2) * p, 4 * m * p, q)

/-- The decimal `digits × 10^k` nearest to a positive value among those with at most the digits
down to `10^k` that lie in its rounding interval, if there is one. -/
def nearestAt (x : Binary64) (k : Int) : Option Nat :=
  let (low, high, value, q) := x.interval
  let u := if 0 ≤ k then Nat.pow 10 k.toNat else 1
  let v := if 0 ≤ k then 1 else Nat.pow 10 (-k).toNat
  let inclusive := x.mantissa % 2 == 0
  -- candidates `d` satisfy `low × v ≤ d × u × q ≤ high × v`, strictly for an odd mantissa
  let den := u * q
  let lo := low * v
  let hi := high * v
  let dMin := if inclusive then ceilDiv lo den else lo / den + 1
  let dMax := if inclusive || hi % den != 0 then hi / den else hi / den - 1
  if dMax < dMin then none
  else
    let d := roundHalfEven (value * v) den
    some (if d < dMin then dMin else if dMax < d then dMax else d)

/-- A decimal without trailing zeros in its digits. -/
def trimZeros : Nat → Int → Nat → Nat × Int
  | 0, k, d => (d, k)
  | fuel + 1, k, d => if d != 0 && d % 10 == 0 then trimZeros fuel (k + 1) (d / 10) else (d, k)

/-- The shortest decimal `(digits, k)` of a positive value, meaning `digits × 10^k`, with no
trailing zero in `digits`. -/
def shortest (x : Binary64) : Nat × Int :=
  let (_, _, value, q) := x.interval
  let top := floorLog10 value q
  let found := (List.range 17).findSome? fun (n : Nat) =>
    let k := top - (n : Int)
    (nearestAt x k).map (·, k)
  let (d, k) := found.getD (roundHalfEven value q, 0)
  trimZeros 20 k d

/-- The shortest text of a value, as described above. -/
def text (x : Binary64) : String :=
  let sign := if x.negative then "-" else ""
  if x.isZero then sign ++ "0.0" else
  let (d, k) := x.shortest
  let ds := (Nat.toDigits 10 d)
  let len : Int := ds.length
  let point := len + k
  let zeros (n : Int) : List Char := List.replicate n.toNat '0'
  sign ++
    if 0 ≤ k && point ≤ 16 then String.ofList (ds ++ zeros k) ++ ".0"
    else if 0 < point && point ≤ 16 then
      String.ofList (ds.take point.toNat) ++ "." ++ String.ofList (ds.drop point.toNat)
    else if -5 < point && point ≤ 0 then "0." ++ String.ofList (zeros (-point) ++ ds)
    else
      let mantissa := match ds with
        | [c] => String.ofList [c]
        | c :: rest => String.ofList (c :: '.' :: rest)
        | [] => "0"
      let e := point - 1
      mantissa ++ "e" ++ (if 0 ≤ e then "+" else "-") ++ toString e.natAbs

end Binary64

end IngressGuard
