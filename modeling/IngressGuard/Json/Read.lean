import IngressGuard.Json.Basic
import IngressGuard.Json.Mismatch
import IngressGuard.Binary64.Shortest

/-!
# Reading JSON text

A reader of JSON text that reports the first fault with the line and column where it was seen.
Columns count bytes from the start of the line. The reader looks at one byte at a time: a fault
found by looking at the next character without taking it is placed one byte further, and so is a
fault found by taking a character that cannot stand there, however many bytes that character
has. Blanks are space, tab, line feed and carriage return.

Besides whole values (`Json.parse?`), the reader decodes records whose members are all strings
straight from text (`readStringRecord`), the way a typed decoder does: a record may be written as
an object (members in any order, unknown members skipped, a member twice or a member missing is
refused) or as an array of its members in order. After a fault inside a record the closing bracket
is still looked for, and a fault without a place of its own (a type mismatch, a missing member) is
placed where the reader then stands.

Strings must not hold raw control characters; escapes `\uXXXX` must pair surrogates. Nesting deeper
than 127 arrays or objects is refused.

A number is an integer when it has no fraction or exponent and fits 64 bits (unsigned, or signed
when negative, `-0` excepted). Any other number becomes a binary64 value the way a fast reader
computes it: the first digits that fit 64 bits form a significand, rounded once, which is then
multiplied or divided by the binary64 power of ten of the exponent; a result beyond the finite
range is refused as out of range, while an exponent too small gives zero.
-/

namespace IngressGuard.Json

/-- The kinds of fault in JSON text. -/
inductive ReadCode where
  | eofInList
  | eofInObject
  | eofInString
  | eofInValue
  | expectedColon
  | expectedListCommaOrEnd
  | expectedObjectCommaOrEnd
  | expectedIdent
  | expectedValue
  | invalidEscape
  | invalidNumber
  | controlCharacter
  | keyMustBeString
  | loneSurrogate
  | trailingComma
  | trailingCharacters
  | unexpectedEndOfHexEscape
  | recursionLimit
  | numberOutOfRange
  /-- A value of the wrong shape for a typed decoder, with its message. -/
  | mismatch (message : String)
deriving DecidableEq, Repr

/-- The text of a fault. -/
def ReadCode.message : ReadCode → String
  | .eofInList => "EOF while parsing a list"
  | .eofInObject => "EOF while parsing an object"
  | .eofInString => "EOF while parsing a string"
  | .eofInValue => "EOF while parsing a value"
  | .expectedColon => "expected `:`"
  | .expectedListCommaOrEnd => "expected `,` or `]`"
  | .expectedObjectCommaOrEnd => "expected `,` or `\x7d`"
  | .expectedIdent => "expected ident"
  | .expectedValue => "expected value"
  | .invalidEscape => "invalid escape"
  | .invalidNumber => "invalid number"
  | .controlCharacter => "control character (\\u0000-\\u001F) found while parsing a string"
  | .keyMustBeString => "key must be a string"
  | .loneSurrogate => "lone leading surrogate in hex escape"
  | .trailingComma => "trailing comma"
  | .trailingCharacters => "trailing characters"
  | .unexpectedEndOfHexEscape => "unexpected end of hex escape"
  | .recursionLimit => "recursion limit exceeded"
  | .numberOutOfRange => "number out of range"
  | .mismatch message => message

/-- A fault and the byte offset it is reported at, once it has one. -/
structure ReadError where
  code : ReadCode
  offset : Option Nat
deriving DecidableEq, Repr

/-- A fault placed by line (from one) and column (bytes from the line's start). -/
structure ReadFailure where
  code : ReadCode
  line : Nat
  column : Nat
deriving DecidableEq, Repr

/-- The text of a placed fault. -/
def ReadFailure.message (f : ReadFailure) : String :=
  f.code.message ++ " at line " ++ toString f.line ++ " column " ++ toString f.column

/-- The line and column of a byte offset in a text. -/
def locate (bytes : List UInt8) (offset : Nat) : Nat × Nat :=
  let before := bytes.take offset
  let lineStart := (before.foldl (fun (acc : Nat × Nat) b =>
    (acc.1 + 1, if b = 10 then acc.1 + 1 else acc.2)) (0, 0)).2
  (1 + before.count 10, offset - lineStart)

/-- The unread characters and the number of bytes read so far. -/
structure Cursor where
  rest : List Char
  index : Nat

/-- Reading JSON text: a fault keeps the place the reader had reached. -/
abbrev Reader := ExceptT ReadError (StateM Cursor)

/-- A number as read: integers within 64 bits exactly, all others as binary64 values. -/
inductive Number where
  | int (value : Int)
  | float (value : Binary64)

/-- How a number is named when it is found where it does not belong. -/
def Number.unexpected : Number → Unexpected
  | .int n => Unexpected.ofInt n
  | .float x => .float x.text

/-- A number as a JSON value. -/
def Number.toJson : Number → Json
  | .int n => .num n
  | .float x => .float x

/-- The greatest 64-bit unsigned integer: integer digits are gathered up to it. -/
def u64Max : Nat := Nat.pow 2 64 - 1

/-- The greatest 32-bit signed integer: the bound of exponents. -/
def i32Max : Int := Int.pow 2 31 - 1

/-- The least 32-bit signed integer. -/
def i32Min : Int := -Int.pow 2 31

/-- An exponent held to the 32-bit signed range. -/
def saturate (e : Int) : Int :=
  max i32Min (min i32Max e)

/-- Appends decimal digits to a significand while it stays within 64 bits; the result is the
significand and the number of digits left over, all of those from the first one that would not
fit. -/
def accumulate (sig : Nat) : List Char → Nat × Nat
  | [] => (sig, 0)
  | d :: ds =>
    let v := 10 * sig + (d.toNat - 48)
    if u64Max < v then (sig, ds.length + 1) else accumulate v ds

/-- The value of the digits of an exponent after its first one, `exp`: either the whole value
within 32 bits, or the number of further digits up to and including the one that passes that
bound. -/
def exponentDigits (exp : Nat) : List Char → Nat ⊕ Nat
  | [] => .inr exp
  | d :: ds =>
    let v := 10 * exp + (d.toNat - 48)
    if i32Max < (v : Int) then .inl 1
    else match exponentDigits v ds with
      | .inl n => .inl (n + 1)
      | .inr e => .inr e

/-- `± significand × 10^exponent` as a sequence of binary64 operations: the significand is
rounded first, then multiplied or divided by the binary64 value of one power of ten, an exponent
below `-308` being first raised by divisions by `10^308`. `none` stands for a value too large. -/
def fromParts (negative : Bool) (significand : Nat) (exponent : Int) : Option Binary64 :=
  (go (exponent.natAbs / 308 + 2) (Binary64.ofNat significand) exponent).map fun f =>
    if negative then f.neg else f
where
  go : Nat → Binary64 → Int → Option Binary64
    | 0, f, _ => some f
    | fuel + 1, f, e =>
      if e.natAbs ≤ 308 then
        if 0 ≤ e then Binary64.mul f (Binary64.pow10 e.natAbs)
        else Binary64.div f (Binary64.pow10 e.natAbs)
      else if f.isZero then some f
      else if 0 ≤ e then none
      else (Binary64.div f (Binary64.pow10 308)).bind fun g => go fuel g (e + 308)

/-- Whether a character is a blank between tokens. -/
def isBlank (c : Char) : Bool :=
  c == ' ' || c == '\n' || c == '\t' || c == '\r'

/-- Whether a character is a decimal digit. -/
def isDigitChar (c : Char) : Bool :=
  '0' ≤ c && c ≤ '9'

/-- The number written by decimal digits. -/
def digitsValue (ds : List Char) : Nat :=
  ds.foldl (fun acc d => 10 * acc + (d.toNat - 48)) 0

/-- Skips blanks at the front of the unread characters. -/
def dropBlanks : List Char → Nat → List Char × Nat
  | c :: cs, i => if isBlank c then dropBlanks cs (i + 1) else (c :: cs, i)
  | [], i => ([], i)

/-- Takes the decimal digits at the front of the unread characters. -/
def spanDigits : List Char → Nat → List Char × List Char × Nat
  | c :: cs, i =>
    if isDigitChar c then
      let (ds, rest, j) := spanDigits cs (i + 1)
      (c :: ds, rest, j)
    else ([], c :: cs, i)
  | [], i => ([], [], i)

/-- The value of a hexadecimal digit. -/
def hexValue? (c : Char) : Option Nat :=
  if isDigitChar c then some (c.toNat - 48)
  else if 'a' ≤ c && c ≤ 'f' then some (c.toNat - 87)
  else if 'A' ≤ c && c ≤ 'F' then some (c.toNat - 55)
  else none

namespace Reader

/-- The next character, not taken. -/
def peek : Reader (Option Char) :=
  return (← get).rest.head?

/-- Takes one character. -/
def bump : Reader Unit :=
  modify fun c => match c.rest with
    | [] => c
    | x :: xs => ⟨xs, c.index + x.utf8Size⟩

/-- Takes and returns the next character. -/
def next : Reader (Option Char) := do
  let c ← peek
  bump
  return c

/-- Fails at a byte offset. -/
def failAt {α : Type} (code : ReadCode) (offset : Nat) : Reader α :=
  throw ⟨code, some offset⟩

/-- Fails where the reader stands. -/
def failHere {α : Type} (code : ReadCode) : Reader α := do
  failAt code (← get).index

/-- Fails at the next character, seen but not taken. -/
def failPeek {α : Type} (code : ReadCode) : Reader α := do
  let c ← get
  failAt code (if c.rest.isEmpty then c.index else c.index + 1)

/-- Fails at a character just taken that cannot stand there: only its first byte counts as read. -/
def failTaken {α : Type} (code : ReadCode) (c : Char) : Reader α := do
  failAt code ((← get).index - c.utf8Size + 1)

/-- Fails with a type mismatch, which is placed later. -/
def failMismatch {α : Type} (message : String) : Reader α :=
  throw ⟨.mismatch message, none⟩

/-- Gives a fault without a place the place where the reader stands. -/
def place (e : ReadError) : Reader ReadError := do
  match e.offset with
  | some _ => return e
  | none => return { e with offset := some (← get).index }

/-- Runs a step and returns its outcome, keeping the reader where the step left it. -/
def attempt {α : Type} (x : Reader α) : Reader (Except ReadError α) :=
  tryCatch (Except.ok <$> x) (fun e => pure (.error e))

/-- The outcome of reading a bracketed value's contents and then its closing bracket: a fault
inside wins over a fault at the bracket. -/
def firstFault {α : Type} (inside : Except ReadError α) (closing : Except ReadError Unit) :
    Except ReadError α :=
  match inside, closing with
  | .ok v, .ok () => .ok v
  | .error e, _ => .error e
  | .ok _, .error e => .error e

/-- Skips blanks and returns the next character, not taken. -/
def skipBlanks : Reader (Option Char) := do
  modify fun c => let (rest, index) := dropBlanks c.rest c.index; ⟨rest, index⟩
  peek

/-- Takes the letters of a keyword after its first one. -/
def expectWord : List Char → Reader Unit
  | [] => pure ()
  | w :: ws => do
    match ← next with
    | none => failHere .eofInValue
    | some c => if c == w then expectWord ws else failTaken .expectedIdent c

/-- Takes decimal digits. -/
def digits : Reader (List Char) := do
  let c ← get
  let (ds, rest, index) := spanDigits c.rest c.index
  set (⟨rest, index⟩ : Cursor)
  return ds

/-- Takes `n` characters known to be ASCII. -/
def advance (n : Nat) : Reader Unit :=
  modify fun c => ⟨c.rest.drop n, c.index + n⟩

/-- The decimal digits ahead, not taken. -/
def digitsAhead : Reader (List Char) :=
  return (← get).rest.takeWhile isDigitChar

/-- The value of `± significand × 10^exponent`, or a fault where the reader stands when it is too
large. -/
def partsValue (negative : Bool) (significand : Nat) (exponent : Int) : Reader Binary64 :=
  match fromParts negative significand exponent with
  | some x => pure x
  | none => failHere .numberOutOfRange

/-- Reads the exponent of a number at its `e`, and gives the number's value with the significand
and the exponent gathered so far. An exponent past 32 bits gives zero for a zero significand or a
negative exponent, and is refused as out of range otherwise. -/
def exponentPart (negative : Bool) (significand : Nat) (start : Int) : Reader Binary64 := do
  bump
  let positive ← match ← peek with
    | some '+' => do bump; pure true
    | some '-' => do bump; pure false
    | _ => pure true
  match ← next with
  | none => failHere .eofInValue
  | some c =>
    if !isDigitChar c then failTaken .invalidNumber c
    else
      let ds ← digitsAhead
      match exponentDigits (c.toNat - 48) ds with
      | .inl taken =>
        advance taken
        if significand != 0 && positive then failHere .numberOutOfRange
        else
          let rest ← digitsAhead
          advance rest.length
          pure (Binary64.zero negative)
      | .inr exp =>
        advance ds.length
        partsValue negative significand (saturate (if positive then start + exp else start - exp))

/-- Reads the fraction of a number at its point, then any exponent. Fraction digits that no
longer fit the significand are read and ignored. -/
def fractionPart (negative : Bool) (significand : Nat) (start : Int) : Reader Binary64 := do
  bump
  let fs ← digitsAhead
  advance fs.length
  if fs.isEmpty then
    match ← peek with
    | some _ => failPeek .invalidNumber
    | none => failPeek .eofInValue
  else
    let (significand, dropped) := accumulate significand fs
    let e := start - (fs.length - dropped : Nat)
    match ← peek with
    | some 'e' => exponentPart negative significand e
    | some 'E' => exponentPart negative significand e
    | _ => partsValue negative significand e

/-- Reads what follows the integer digits of a number: `extra` counts integer digits that did
not fit the significand, which makes the number a binary64 value. A negative integer is exact
down to `-2^63`; beyond that, and for `-0`, it is a binary64 value. -/
def afterInteger (negative : Bool) (significand extra : Nat) : Reader Number := do
  match ← peek with
  | some '.' => return .float (← fractionPart negative significand extra)
  | some 'e' => return .float (← exponentPart negative significand extra)
  | some 'E' => return .float (← exponentPart negative significand extra)
  | _ =>
    if 0 < extra then return .float (← partsValue negative significand extra)
    else if !negative then return .int significand
    else if significand = 0 || Nat.pow 2 63 < significand then
      return .float (Binary64.ofNat significand).neg
    else return .int (-(significand : Int))

/-- Reads a number after its optional minus sign. -/
def number (negative : Bool) : Reader Number := do
  match ← next with
  | none => failHere .eofInValue
  | some '0' =>
    match ← peek with
    | some c => if isDigitChar c then failPeek .invalidNumber else afterInteger negative 0 0
    | none => afterInteger negative 0 0
  | some c =>
    if isDigitChar c then
      let ds ← digitsAhead
      advance ds.length
      let (significand, extra) := accumulate (c.toNat - 48) ds
      afterInteger negative significand extra
    else failTaken .invalidNumber c

/-- Reads the four hexadecimal digits of a `\u` escape. Four bytes are taken even when they are
not all digits, and a fault is then placed after them. -/
def hexQuad : Reader Nat := do
  let c ← get
  let quad := c.rest.take 4
  if quad.length = 4 ∧ (quad.all fun ch => (hexValue? ch).isSome) then
    set (⟨c.rest.drop 4, c.index + 4⟩ : Cursor)
    return quad.foldl (fun acc ch => 16 * acc + (hexValue? ch).getD 0) 0
  else
    let available := (c.rest.map Char.utf8Size).foldl (· + ·) 0
    if available < 4 then
      set (⟨[], c.index + available⟩ : Cursor)
      failHere .eofInString
    else failAt .invalidEscape (c.index + 4)

/-- Reads the rest of a `\u` escape and returns the character it stands for. -/
def unicodeEscape : Reader Char := do
  let n ← hexQuad
  if 0xDC00 ≤ n ∧ n ≤ 0xDFFF then failHere .loneSurrogate
  else if n < 0xD800 ∨ 0xDBFF < n then return Char.ofNat n
  else
    let afterQuad := (← get).index
    match ← peek with
    | none => failHere .eofInString
    | some '\\' =>
      bump
      match ← peek with
      | none => failHere .eofInString
      | some 'u' =>
        bump
        let m ← hexQuad
        if 0xDC00 ≤ m ∧ m ≤ 0xDFFF then
          return Char.ofNat (0x10000 + (n - 0xD800) * 0x400 + (m - 0xDC00))
        else failHere .loneSurrogate
      | some _ => failAt .unexpectedEndOfHexEscape (afterQuad + 2)
    | some _ => failAt .unexpectedEndOfHexEscape (afterQuad + 1)

/-- Reads the escape after a backslash. -/
def escape : Reader Char := do
  match ← next with
  | none => failHere .eofInString
  | some '"' => return '"'
  | some '\\' => return '\\'
  | some '/' => return '/'
  | some 'b' => return '\x08'
  | some 'f' => return '\x0c'
  | some 'n' => return '\n'
  | some 'r' => return '\r'
  | some 't' => return '\t'
  | some 'u' => unicodeEscape
  | some c => failTaken .invalidEscape c

/-- Reads the characters of a string after its opening quote, through the closing one. A raw
control character is refused after it is taken. -/
def stringBody : Nat → List Char → Reader String
  | 0, acc => do
    -- each step takes a character, so the fuel outlasts the text
    let _ := acc
    failHere .eofInString
  | fuel + 1, acc => do
    match ← next with
    | none => failHere .eofInString
    | some '"' => return String.ofList acc.reverse
    | some '\\' => stringBody fuel ((← escape) :: acc)
    | some c => if c.toNat < 0x20 then failHere .controlCharacter else stringBody fuel (c :: acc)

/-- Skips an escape after a backslash, checking only its form. -/
def skipEscape : Reader Unit := do
  match ← next with
  | none => failHere .eofInString
  | some c =>
    if c == '"' || c == '\\' || c == '/' || c == 'b' || c == 'f' || c == 'n' || c == 'r' ||
        c == 't' then pure ()
    else if c == 'u' then do let _ ← hexQuad; pure ()
    else failTaken .invalidEscape c

/-- Skips the characters of a string after its opening quote. A raw control character is refused
before it is taken. -/
def skipStringBody : Nat → Reader Unit
  | 0 => failHere .eofInString
  | fuel + 1 => do
    match ← peek with
    | none => failHere .eofInString
    | some '"' => bump
    | some '\\' => do bump; skipEscape; skipStringBody fuel
    | some c => if c.toNat < 0x20 then failHere .controlCharacter else do bump; skipStringBody fuel

/-- Skips the fraction and exponent of a number whose integer digits are skipped. -/
def skipNumberTail : Reader Unit := do
  let skipExponent : Reader Unit := do
    bump
    match ← peek with
    | some '+' => bump
    | some '-' => bump
    | _ => pure ()
    match ← next with
    | some c =>
      if isDigitChar c then do let _ ← digits; pure () else failTaken .invalidNumber c
    | none => failHere .invalidNumber
  match ← peek with
  | some '.' =>
    bump
    let frac ← digits
    if frac.isEmpty then failPeek .invalidNumber
    else
      match ← peek with
      | some 'e' => skipExponent
      | some 'E' => skipExponent
      | _ => pure ()
  | some 'e' => skipExponent
  | some 'E' => skipExponent
  | _ => pure ()

/-- Skips a number after its optional minus sign. -/
def skipNumber : Reader Unit := do
  match ← next with
  | some '0' =>
    match ← peek with
    | some c => if isDigitChar c then failPeek .invalidNumber else skipNumberTail
    | none => pure ()
  | some c =>
    if isDigitChar c then do let _ ← digits; skipNumberTail
    else failTaken .invalidNumber c
  | none => failHere .invalidNumber

mutual

/-- Skips one value of any shape, checking its syntax. -/
def skipValue : Nat → Reader Unit
  | 0 => failHere .eofInValue
  | fuel + 1 => do
    match ← skipBlanks with
    | none => failPeek .eofInValue
    | some 'n' => do bump; expectWord ['u', 'l', 'l']
    | some 't' => do bump; expectWord ['r', 'u', 'e']
    | some 'f' => do bump; expectWord ['a', 'l', 's', 'e']
    | some '-' => do bump; skipNumber
    | some '"' => do bump; skipStringBody fuel
    | some '[' => do
      bump
      match ← skipBlanks with
      | some ']' => bump
      | some _ => skipItems fuel
      | none => failPeek .eofInList
    | some '{' => do
      bump
      match ← skipBlanks with
      | some '}' => bump
      | _ => skipMembers fuel
    | some c => if isDigitChar c then skipNumber else failPeek .expectedValue

/-- Skips the items of an array from its first item through the closing bracket. -/
def skipItems : Nat → Reader Unit
  | 0 => failHere .eofInList
  | fuel + 1 => do
    skipValue fuel
    match ← skipBlanks with
    | some ',' => do bump; skipItems fuel
    | some ']' => bump
    | some _ => failPeek .expectedListCommaOrEnd
    | none => failPeek .eofInList

/-- Skips the members of an object from its first key through the closing brace. -/
def skipMembers : Nat → Reader Unit
  | 0 => failHere .eofInObject
  | fuel + 1 => do
    match ← skipBlanks with
    | some '"' => bump
    | some _ => failPeek .keyMustBeString
    | none => failPeek .eofInObject
    skipStringBody fuel
    match ← skipBlanks with
    | some ':' => bump
    | some _ => failPeek .expectedColon
    | none => failPeek .eofInObject
    skipValue fuel
    match ← skipBlanks with
    | some ',' => do bump; skipMembers fuel
    | some '}' => bump
    | some _ => failPeek .expectedObjectCommaOrEnd
    | none => failPeek .eofInObject

end

/-- Describes the value ahead, taking scalars, to report that it has the wrong shape. -/
def unexpectedAhead (fuel : Nat) : Reader (Option Unexpected) := do
  match ← peek with
  | some 'n' => do bump; expectWord ['u', 'l', 'l']; return some .null
  | some 't' => do bump; expectWord ['r', 'u', 'e']; return some (.bool true)
  | some 'f' => do bump; expectWord ['a', 'l', 's', 'e']; return some (.bool false)
  | some '-' => do bump; return some (← number true).unexpected
  | some '"' => do bump; return some (.str (← stringBody fuel []))
  | some '[' => return some .seq
  | some '{' => return some .map
  | some c => if isDigitChar c then return some (← number false).unexpected else return none
  | none => return none

/-- Fails because the value ahead is not what `expected` names. -/
def failUnexpected {α : Type} (fuel : Nat) (expected : String) : Reader α := do
  match ← unexpectedAhead fuel with
  | some found => throw (← place ⟨.mismatch (invalidType found expected), none⟩)
  | none => failPeek .expectedValue

/-- Reads a string value, after blanks. -/
def stringValue (fuel : Nat) : Reader String := do
  match ← skipBlanks with
  | none => failPeek .eofInValue
  | some '"' => do bump; stringBody fuel []
  | some _ => failUnexpected fuel "a string"

/-- Checks the closing bracket of an array read as a record. -/
def endSeq : Reader Unit := do
  match ← skipBlanks with
  | some ']' => bump
  | some ',' => do
    bump
    match ← skipBlanks with
    | some ']' => failPeek .trailingComma
    | _ => failPeek .trailingCharacters
  | some _ => failPeek .trailingCharacters
  | none => failPeek .eofInList

/-- Checks the closing brace of an object read as a record. -/
def endMap : Reader Unit := do
  match ← skipBlanks with
  | some '}' => bump
  | some ',' => failPeek .trailingComma
  | some _ => failPeek .trailingCharacters
  | none => failPeek .eofInObject

/-- Moves to the next array element; `false` at the closing bracket. -/
def nextElement (first : Bool) : Reader Bool := do
  let ahead ← match ← skipBlanks with
    | some ']' => return false
    | some ',' => if first then pure (some ',') else do bump; skipBlanks
    | some c => if first then pure (some c) else failPeek .expectedListCommaOrEnd
    | none => failPeek .eofInList
  match ahead with
  | some ']' => failPeek .trailingComma
  | some _ => return true
  | none => failPeek .eofInValue

/-- Reads the next object key; `none` at the closing brace. -/
def nextKey (fuel : Nat) (first : Bool) : Reader (Option String) := do
  let ahead ← match ← skipBlanks with
    | some '}' => return none
    | some ',' => if first then pure (some ',') else do bump; skipBlanks
    | some c => if first then pure (some c) else failPeek .expectedObjectCommaOrEnd
    | none => failPeek .eofInObject
  match ahead with
  | some '"' => do bump; return some (← stringBody fuel [])
  | some '}' => failPeek .trailingComma
  | some _ => failPeek .keyMustBeString
  | none => failPeek .eofInValue

/-- Takes the colon between a key and its value. -/
def colon : Reader Unit := do
  match ← skipBlanks with
  | some ':' => bump
  | some _ => failPeek .expectedColon
  | none => failPeek .eofInObject

/-- Reads the members of a record object into their slots. -/
def recordMembers (fields : List String) (fuel : Nat) :
    Nat → Bool → List (Option String) → Reader (List (Option String))
  | 0, _, slots => do let _ := slots; failHere .eofInObject
  | steps + 1, first, slots => do
    match ← nextKey fuel first with
    | none => return slots
    | some key =>
      match fields.idxOf? key with
      | some i =>
        if (slots.getD i none).isSome then failMismatch (duplicateField key)
        else
          colon
          let v ← stringValue fuel
          recordMembers fields fuel steps false (slots.set i (some v))
      | none => do
        colon
        skipValue fuel
        recordMembers fields fuel steps false slots

/-- Reads the elements of a record array, one per field in order. -/
def recordElements (name : String) (count : Nat) (fuel : Nat) :
    List String → List String → Reader (List String)
  | [], acc => return acc.reverse
  | _ :: more, acc => do
    if ← nextElement acc.isEmpty then
      let v ← stringValue fuel
      recordElements name count fuel more (v :: acc)
    else failMismatch (invalidLength acc.length
      ("struct " ++ name ++ " with " ++ toString count ++ " elements"))

/-- Reads a record of string members named `fields`, written as an object or an array. -/
def stringRecord (name : String) (fields : List String) (fuel : Nat) : Reader (List String) := do
  let outcome ← match ← skipBlanks with
    | none => failPeek .eofInValue
    | some '[' => do
      bump
      let visited ← attempt (recordElements name fields.length fuel fields [])
      let closed ← attempt endSeq
      pure (firstFault visited closed)
    | some '{' => do
      bump
      let visited ← attempt do
        let slots ← recordMembers fields fuel fuel true (fields.map fun _ => none)
        (fields.zip slots).mapM fun (field, slot) =>
          match slot with
          | some v => pure v
          | none => failMismatch (missingField field)
      let closed ← attempt endMap
      pure (firstFault visited closed)
    | some _ => failUnexpected fuel ("struct " ++ name)
  match outcome with
  | .ok v => return v
  | .error e => throw (← place e)

mutual

/-- Reads one value of any shape; `depth` counts the arrays and objects still allowed. -/
def value : Nat → Nat → Reader Json
  | 0, _ => failHere .eofInValue
  | fuel + 1, depth => do
    match ← skipBlanks with
    | none => failPeek .eofInValue
    | some 'n' => do bump; expectWord ['u', 'l', 'l']; return .null
    | some 't' => do bump; expectWord ['r', 'u', 'e']; return .bool true
    | some 'f' => do bump; expectWord ['a', 'l', 's', 'e']; return .bool false
    | some '-' => do
      bump
      return (← number true).toJson
    | some '"' => do bump; return .str (← stringBody fuel [])
    | some '[' => do
      if depth ≤ 1 then failPeek .recursionLimit
      bump
      let items ← attempt (items fuel (depth - 1) true [])
      let closed ← attempt endSeq
      match items, closed with
      | .ok v, .ok () => return .arr v
      | .error e, _ => throw (← place e)
      | .ok _, .error e => throw e
    | some '{' => do
      if depth ≤ 1 then failPeek .recursionLimit
      bump
      let members ← attempt (members fuel (depth - 1) true [])
      let closed ← attempt endMap
      match members, closed with
      | .ok v, .ok () => return .obj v
      | .error e, _ => throw (← place e)
      | .ok _, .error e => throw e
    | some c =>
      if isDigitChar c then
        return (← number false).toJson
      else failPeek .expectedValue

/-- Reads array items up to, not through, the closing bracket. -/
def items : Nat → Nat → Bool → List Json → Reader (List Json)
  | 0, _, _, acc => do let _ := acc; failHere .eofInList
  | fuel + 1, depth, first, acc => do
    if ← nextElement first then
      let v ← value fuel depth
      items fuel depth false (v :: acc)
    else return acc.reverse

/-- Reads object members up to, not through, the closing brace; a repeated key keeps its first
place and its last value. -/
def members : Nat → Nat → Bool → List (String × Json) → Reader (List (String × Json))
  | 0, _, _, acc => do let _ := acc; failHere .eofInObject
  | fuel + 1, depth, first, acc => do
    match ← nextKey fuel first with
    | none => return acc
    | some key =>
      colon
      let v ← value fuel depth
      members fuel depth false (Json.setMember acc key v)

end

/-- Checks that only blanks follow. -/
def finish : Reader Unit := do
  match ← skipBlanks with
  | some _ => failPeek .trailingCharacters
  | none => pure ()

end Reader

/-- Runs a reader over a whole text, placing a fault by line and column. -/
def readText {α : Type} (text : String) (reader : Nat → Reader α) : Except ReadFailure α :=
  let chars := text.toList
  -- every second step along a chain of calls takes a character
  let fuel := 2 * chars.length + 2
  let (outcome, cursor) := ((do let v ← reader fuel; Reader.finish; pure v : Reader α).run
    ⟨chars, 0⟩).run
  match outcome with
  | .ok v => .ok v
  | .error e =>
    let (line, column) := locate text.toUTF8.toList (e.offset.getD cursor.index)
    .error ⟨e.code, line, column⟩

/-- Reads a JSON text holding one value. -/
def parse? (text : String) : Except ReadFailure Json :=
  readText text fun fuel => Reader.value fuel 128

/-- Reads a JSON text holding a record of string members named `fields`. -/
def readStringRecord (name : String) (fields : List String) (text : String) :
    Except ReadFailure (List String) :=
  readText text (Reader.stringRecord name fields)

end IngressGuard.Json
