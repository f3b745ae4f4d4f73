/-!
# Dex API addresses

The address of a Dex API becomes a URI: an address that contains `://` is taken as it is, any
other is prefixed with `http://`. A URI that starts with `unix:` names a local socket and is taken
whatever follows. Any other URI must be well formed by the rules of HTTP URIs:

* it is not empty, and at most 65534 bytes long;
* a URI of one byte is `/`, `*`, or an authority of that byte; one that starts with `/` is a path;
* otherwise a scheme may come first: `http://` or `https://` in any case, or letters, digits,
  `+`, `-`, `.` and `~` (at most 64) followed by `://`; after a scheme an authority must follow;
* an authority runs to the first `/`, `?` or `#`, holds only unreserved and sub-delimiter
  characters, `:`, `@`, `[`, `]` and `%` in their places, has balanced brackets, at most one port
  colon, nothing empty after `@`, and a `%` only in the user part or inside the brackets;
* the path and query hold no control characters (DEL included), spaces, or the ASCII characters
  that must be escaped; bytes of non-ASCII characters may stand in both.

The fault texts are those of each rule, such as `invalid uri character` and `empty string`.
-/

namespace IngressGuard.Dex

/-- Why a URI is not well formed. -/
inductive UriError where
  | invalidUriChar
  | invalidScheme
  | invalidAuthority
  | invalidFormat
  | schemeTooLong
  | tooLong
  | empty
deriving DecidableEq, Repr

/-- The text of a URI fault. -/
def UriError.message : UriError → String
  | .invalidUriChar => "invalid uri character"
  | .invalidScheme => "invalid scheme"
  | .invalidAuthority => "invalid authority"
  | .invalidFormat => "invalid format"
  | .schemeTooLong => "scheme too long"
  | .tooLong => "uri too long"
  | .empty => "empty string"

/-- Whether a byte may stand in an authority as it is. -/
def isUriByte (b : UInt8) : Bool :=
  let n := b.toNat
  (48 ≤ n && n ≤ 57) || (65 ≤ n && n ≤ 90) || (97 ≤ n && n ≤ 122) ||
    [33, 35, 36, 38, 39, 40, 41, 42, 43, 44, 45, 46, 47, 58, 59, 61, 63, 64, 91, 93, 95,
      126].contains n

/-- Whether a byte may stand in a scheme. -/
def isSchemeByte (b : UInt8) : Bool :=
  let n := b.toNat
  (48 ≤ n && n ≤ 57) || (65 ≤ n && n ≤ 90) || (97 ≤ n && n ≤ 122) ||
    n = 43 || n = 45 || n = 46 || n = 126

/-- Whether a byte may stand in a path as it is. -/
def isPathByte (b : UInt8) : Bool :=
  let n := b.toNat
  n = 0x21 || (0x24 ≤ n && n ≤ 0x3B) || n = 0x3D || (0x40 ≤ n && n ≤ 0x5F) ||
    (0x61 ≤ n && n ≤ 0x7A) || n = 0x7C || n = 0x7E || 0x80 ≤ n || n = 0x22 || n = 0x7B ||
    n = 0x7D

/-- Whether a byte may stand in a query as it is. -/
def isQueryByte (b : UInt8) : Bool :=
  let n := b.toNat
  n = 0x21 || (0x24 ≤ n && n ≤ 0x3B) || n = 0x3D || (0x3F ≤ n && n ≤ 0x7E) || 0x80 ≤ n

/-- The scheme ahead, if any: the number of bytes it takes, `://` included. -/
def schemeLength (bytes : List UInt8) : Except UriError (Option Nat) :=
  let lower := bytes.map fun b => if 65 ≤ b.toNat && b.toNat ≤ 90 then b + 32 else b
  if 7 ≤ bytes.length && lower.take 7 = [104, 116, 116, 112, 58, 47, 47] then .ok (some 7)
  else if 8 ≤ bytes.length && lower.take 8 = [104, 116, 116, 112, 115, 58, 47, 47] then
    .ok (some 8)
  else if bytes.length ≤ 3 then .ok none
  else
    let name := bytes.takeWhile isSchemeByte
    let i := name.length
    match bytes.drop i with
    | 58 :: 47 :: 47 :: _ => if 64 < i then .error .schemeTooLong else .ok (some (i + 3))
    | _ => .ok none

/-- The length of the authority at the front, checking its characters. -/
def authorityLength (bytes : List UInt8) : Except UriError Nat :=
  go bytes 0 0 false false false none
where
  go : List UInt8 → Nat → Nat → Bool → Bool → Bool → Option Nat → Except UriError Nat
    | [], i, colons, opened, closed, percent, at? => finish i colons opened closed percent at?
    | b :: rest, i, colons, opened, closed, percent, at? =>
      let n := b.toNat
      if n = 47 || n = 63 || n = 35 then finish i colons opened closed percent at?
      else if n = 58 then
        if 8 ≤ colons then .error .invalidAuthority
        else go rest (i + 1) (colons + 1) opened closed percent at?
      else if n = 91 then
        if percent || opened then .error .invalidAuthority
        else go rest (i + 1) colons true closed percent at?
      else if n = 93 then
        if !opened || closed then .error .invalidAuthority
        else go rest (i + 1) 0 opened true false at?
      else if n = 64 then go rest (i + 1) 0 opened closed false (some i)
      else if n = 37 then go rest (i + 1) colons opened closed true at?
      else if isUriByte b then go rest (i + 1) colons opened closed percent at?
      else .error .invalidUriChar
  finish (i colons : Nat) (opened closed percent : Bool) (at? : Option Nat) : Except UriError Nat :=
    if opened != closed then .error .invalidAuthority
    else if 1 < colons then .error .invalidAuthority
    else if 0 < i && at? = some (i - 1) then .error .invalidAuthority
    else if percent then .error .invalidAuthority
    else .ok i

/-- Checks a path and query. -/
def checkPathAndQuery (bytes : List UInt8) : Except UriError Unit :=
  let path := bytes.takeWhile fun b => b != 63 && b != 35
  let rest := bytes.drop path.length
  if !path.all isPathByte then .error .invalidUriChar
  else match rest with
    | 63 :: query =>
      let query := query.takeWhile (· != 35)
      if query.all isQueryByte then .ok () else .error .invalidUriChar
    | _ => .ok ()

/-- Checks a URI given as bytes. -/
def checkUri (bytes : List UInt8) : Except UriError Unit :=
  if 65534 < bytes.length then .error .tooLong
  else match bytes with
    | [] => .error .empty
    | [b] =>
      if b = 47 || b = 42 then .ok ()
      else do
        let n ← authorityLength [b]
        if n = 1 then .ok () else .error .invalidUriChar
    | 47 :: _ => checkPathAndQuery bytes
    | _ => do
      match ← schemeLength bytes with
      | none =>
        let n ← authorityLength bytes
        if n = bytes.length then .ok () else .error .invalidFormat
      | some k =>
        let rest := bytes.drop k
        if rest.isEmpty then .error .empty else
        let n ← authorityLength rest
        if n = 0 then .error .invalidFormat else checkPathAndQuery (rest.drop n)

/-- The URI an address stands for. -/
def addressUri (address : String) : String :=
  if (address.splitOn "://").length > 1 then address else "http://" ++ address

/-- Checks that an address gives a well-formed URI, or names a local socket. -/
def checkAddress (address : String) : Except UriError Unit :=
  let uri := addressUri address
  if uri.startsWith "unix:" then .ok () else checkUri uri.toUTF8.toList

end IngressGuard.Dex
