/-!
# Object timestamps

A timestamp of an object is an instant in UTC, kept to the second: a day counted from
1970-01-01, the second of that day, and whether the instant lies in a leap second (written as
second 60 of its minute). It is written as `YYYY-MM-DDTHH:MM:SSZ`; a year outside `0..9999`
carries its sign and at least four digits.

Reading accepts RFC 3339 text with the usual relaxations: blanks may stand around the numbers and
the separators, the date and time may be parted by `T`, `t` or a space, a fraction of a second
of any length is read to the nanosecond and otherwise ignored, and the offset is `Z`, `UTC` (in
any case), or a sign (`+`, `-` or U+2212) with two-digit hours and minutes, a colon or blanks
between them. Without a sign a year has at most four digits. Each refusal says why: the text
ended too early, holds a character out of place, goes on after the offset, or names a date,
time or offset that does not exist.
-/

namespace IngressGuard.Kube

/-- Why a timestamp text is refused. -/
inductive TimeError where
  | outOfRange
  | impossible
  | invalid
  | tooShort
  | tooLong
deriving DecidableEq, Repr

/-- The text of a refusal. -/
def TimeError.message : TimeError → String
  | .outOfRange => "input is out of range"
  | .impossible => "no possible date and time matching input"
  | .invalid => "input contains invalid characters"
  | .tooShort => "premature end of input"
  | .tooLong => "trailing input"

/-- An instant in UTC, to the second. -/
structure Time where
  /-- Days since 1970-01-01. -/
  day : Int
  /-- The second of the day, below 86400. -/
  second : Nat
  /-- Whether the instant is the leap second that follows `second`. -/
  leap : Bool := false
deriving DecidableEq, Repr

namespace Time

/-! ## Calendar -/

/-- Whether a year of the proleptic Gregorian calendar has 366 days. -/
def isLeapYear (y : Int) : Bool :=
  y % 4 == 0 && (y % 100 != 0 || y % 400 == 0)

/-- The number of days of a month. -/
def daysInMonth (y : Int) (m : Nat) : Nat :=
  if m = 2 then (if isLeapYear y then 29 else 28)
  else if m = 4 || m = 6 || m = 9 || m = 11 then 30
  else 31

/-- Days from 1970-01-01 to a date, counted in whole 400-year eras from 0000-03-01. -/
def daysFromCivil (y : Int) (m d : Nat) : Int :=
  let y := if m ≤ 2 then y - 1 else y
  let era := y / 400
  let yoe := y - era * 400
  let mp : Int := (m + 9) % 12
  let doy := (153 * mp + 2) / 5 + d - 1
  let doe := yoe * 365 + yoe / 4 - yoe / 100 + doy
  era * 146097 + doe - 719468

/-- The date `(year, month, day)` of a day counted from 1970-01-01. -/
def civilFromDays (z : Int) : Int × Nat × Nat :=
  let z := z + 719468
  let era := z / 146097
  let doe := z - era * 146097
  let yoe := (doe - doe / 1460 + doe / 36524 - doe / 146096) / 365
  let doy := doe - (365 * yoe + yoe / 4 - yoe / 100)
  let mp := (5 * doy + 2) / 153
  let d := doy - (153 * mp + 2) / 5 + 1
  let m := if mp < 10 then mp + 3 else mp - 9
  let y := yoe + era * 400
  (if m ≤ 2 then y + 1 else y, m.toNat, d.toNat)

/-- The least year of a date. -/
def minYear : Int := -262143

/-- The greatest year of a date. -/
def maxYear : Int := 262142

/-- The day of a date, if the date exists and its year is in range. -/
def dayOf? (y : Int) (m d : Nat) : Option Int :=
  if minYear ≤ y ∧ y ≤ maxYear ∧ 1 ≤ m ∧ m ≤ 12 ∧ 1 ≤ d ∧ d ≤ daysInMonth y m then
    some (daysFromCivil y m d)
  else none

/-! ## Writing -/

/-- Two decimal digits. -/
def twoDigits (n : Nat) : String :=
  String.ofList [Char.ofNat (48 + n / 10 % 10), Char.ofNat (48 + n % 10)]

/-- A year: four digits within `0..9999`, otherwise a sign and at least four digits. -/
def yearText (y : Int) : String :=
  let digits := toString y.natAbs
  let padded := String.ofList (List.replicate (4 - digits.length) '0') ++ digits
  if 0 ≤ y ∧ y ≤ 9999 then padded
  else (if y < 0 then "-" else "+") ++ padded

/-- The text `YYYY-MM-DDTHH:MM:SSZ` of an instant. -/
def render (t : Time) : String :=
  let (y, m, d) := civilFromDays t.day
  yearText y ++ "-" ++ twoDigits m ++ "-" ++ twoDigits d ++ "T" ++
    twoDigits (t.second / 3600) ++ ":" ++ twoDigits (t.second / 60 % 60) ++ ":" ++
    twoDigits (t.second % 60 + if t.leap then 1 else 0) ++ "Z"

/-! ## Reading -/

/-- Whether a character is white space by the Unicode property. -/
def isBlank (c : Char) : Bool :=
  let n := c.toNat
  (9 ≤ n && n ≤ 13) || n = 0x20 || n = 0x85 || n = 0xA0 || n = 0x1680 ||
    (0x2000 ≤ n && n ≤ 0x200A) || n = 0x2028 || n = 0x2029 || n = 0x202F || n = 0x205F ||
    n = 0x3000

/-- The text after its leading white space. -/
def trim (s : List Char) : List Char :=
  s.dropWhile isBlank

/-- The greatest value of a 64-bit signed integer. -/
def i64Max : Nat := Nat.pow 2 63 - 1

/-- Reads at least `min` and at most `max` leading digits. Fewer than `min` digits is a
character out of place, or an early end when the text is empty. -/
def number (min max : Nat) (s : List Char) : Except TimeError (Nat × List Char) :=
  if s.isEmpty then .error .tooShort else go s 0 0
where
  go : List Char → Nat → Nat → Except TimeError (Nat × List Char)
    | [], _, n => .ok (n, [])
    | c :: cs, i, n =>
      if i = max then .ok (n, c :: cs)
      else if !c.isDigit then (if i < min then .error .invalid else .ok (n, c :: cs))
      else
        let v := 10 * n + (c.toNat - 48)
        if i64Max < v then .error .outOfRange else go cs (i + 1) v

/-- Reads a number after leading white space, and checks it against an inclusive range. -/
def field (max lo hi : Nat) (s : List Char) : Except TimeError (Nat × List Char) := do
  let (n, rest) ← number 1 max (trim s)
  if lo ≤ n ∧ n ≤ hi then pure (n, rest) else .error .outOfRange

/-- Reads a separator character after leading white space. -/
def literal (c : Char) (s : List Char) : Except TimeError (List Char) :=
  match trim s with
  | [] => .error .tooShort
  | d :: rest => if d = c then .ok rest else .error .invalid

/-- Reads a year: with a sign any number of digits, without one at most four. -/
def year (s : List Char) : Except TimeError (Int × List Char) := do
  let s := trim s
  let (y, rest) ← match s with
    | '-' :: cs => do
      let (n, rest) ← number 1 cs.length cs
      pure (-(n : Int), rest)
    | '+' :: cs => do
      let (n, rest) ← number 1 cs.length cs
      pure ((n : Int), rest)
    | cs => do
      let (n, rest) ← number 1 4 cs
      pure ((n : Int), rest)
  if -Int.pow 2 31 ≤ y ∧ y < Int.pow 2 31 then pure (y, rest) else .error .outOfRange

/-- Reads the date `year-month-day`. -/
def date (s : List Char) : Except TimeError ((Int × Nat × Nat) × List Char) := do
  let (y, s) ← year s
  let s ← literal '-' s
  let (m, s) ← field 2 1 12 s
  let s ← literal '-' s
  let (d, s) ← field 2 1 31 s
  pure ((y, m, d), s)

/-- Reads the fraction of a second after its point: up to nine digits count, the rest are read
and ignored. -/
def fraction (s : List Char) : Except TimeError (List Char) := do
  let (_, rest) ← number 1 9 s
  pure (rest.dropWhile Char.isDigit)

/-- Reads the time `hour:minute:second` with any fraction, giving the second of the day and
whether it is a leap second. -/
def clock (s : List Char) : Except TimeError ((Nat × Bool) × List Char) := do
  let (h, s) ← field 2 0 23 s
  let s ← literal ':' s
  let (m, s) ← field 2 0 59 s
  let s ← literal ':' s
  let (sec, s) ← field 2 0 60 s
  let s ← match s with
    | '.' :: rest => fraction rest
    | s => pure s
  let leap := sec = 60
  pure ((h * 3600 + m * 60 + (if leap then 59 else sec), leap), trim s)

/-- The first two characters of an offset field, when the text has two bytes left. -/
def twoAhead : List Char → Option (Char × Char)
  | c :: d :: _ => some (c, d)
  | [c] => if 1 < c.utf8Size then some (c, c) else none
  | [] => none

/-- Reads a numeric offset from UTC, in seconds, east positive. -/
def numericOffset (s : List Char) : Except TimeError (Int × List Char) := do
  let (negative, s) ← match s with
    | '+' :: rest => pure (false, rest)
    | '-' :: rest => pure (true, rest)
    | '−' :: rest => pure (true, rest)
    | _ :: _ => .error .invalid
    | [] => .error .tooShort
  let hours ← match twoAhead s with
    | none => .error .tooShort
    | some (a, b) =>
      if a.isDigit && b.isDigit then pure (10 * (a.toNat - 48) + (b.toNat - 48))
      else .error .invalid
  let s := (s.drop 2).dropWhile fun c => c = ':' || isBlank c
  let minutes ← match twoAhead s with
    | none => .error .tooShort
    | some (a, b) =>
      if '0' ≤ a && a ≤ '5' && b.isDigit then pure (10 * (a.toNat - 48) + (b.toNat - 48))
      else if '6' ≤ a && a ≤ '9' && b.isDigit then .error .outOfRange
      else .error .invalid
  let seconds : Int := hours * 3600 + minutes * 60
  pure (if negative then -seconds else seconds, s.drop 2)

/-- Whether the text starts with `UTC` in any case. -/
def startsWithUtc : List Char → Bool
  | a :: b :: c :: _ => a.toUpper = 'U' && b.toUpper = 'T' && c.toUpper = 'C'
  | _ => false

/-- Reads the offset from UTC, in seconds. -/
def offset (s : List Char) : Except TimeError (Int × List Char) :=
  if startsWithUtc s then .ok (0, s.drop 3)
  else match s with
    | 'Z' :: rest => .ok (0, rest)
    | 'z' :: rest => .ok (0, rest)
    | s => numericOffset s

/-- Reads a timestamp. -/
def parse (text : String) : Except TimeError Time := do
  let ((y, m, d), s) ← date text.toList
  let s ← match s with
    | c :: rest => if c = 'T' || c = 't' || c = ' ' then pure rest else .error .invalid
    | [] => .error .tooShort
  let ((second, leap), s) ← clock s
  let (off, s) ← offset s
  if !(trim s).isEmpty then throw .tooLong
  let some day := dayOf? y m d | throw .outOfRange
  if 86400 ≤ off.natAbs then throw .outOfRange
  let shifted : Int := second - off
  let day := day + shifted / 86400
  if day < daysFromCivil minYear 1 1 || daysFromCivil maxYear 12 31 < day then
    throw .impossible
  pure { day, second := (shifted % 86400).toNat, leap }

end Time

end IngressGuard.Kube
