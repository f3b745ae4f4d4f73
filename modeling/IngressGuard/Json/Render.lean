import IngressGuard.Json.Basic

/-!
# Compact JSON text

Values are written without any blank: members as `"name":value` separated by commas, in the
order they are held. Inside strings a quote and a backslash are escaped, the control characters
with a short escape (`\b`, `\f`, `\n`, `\r`, `\t`) use it, the other control characters below
U+0020 are written `\u00xx` with lowercase hexadecimal digits, and every other character,
non-ASCII ones included, stands as it is.
-/

namespace IngressGuard.Json

/-- How one character is written inside a string. -/
def escapeChar (c : Char) : String :=
  if c = '"' then "\\\""
  else if c = '\\' then "\\\\"
  else if c = '\x08' then "\\b"
  else if c = '\x0c' then "\\f"
  else if c = '\n' then "\\n"
  else if c = '\r' then "\\r"
  else if c = '\t' then "\\t"
  else if c.toNat < 0x20 then
    let hexDigit (v : Nat) : Char := if v < 10 then Char.ofNat (48 + v) else Char.ofNat (87 + v)
    String.ofList ['\\', 'u', '0', '0', hexDigit (c.toNat / 16), hexDigit (c.toNat % 16)]
  else c.toString

/-- A string literal. -/
def quote (s : String) : String :=
  "\"" ++ String.join (s.toList.map escapeChar) ++ "\""

/-- The compact text of a value. -/
def render : Json → String
  | .null => "null"
  | .bool true => "true"
  | .bool false => "false"
  | .num n => toString n
  | .float x => x.text
  | .str s => quote s
  | .arr items => "[" ++ ",".intercalate (items.attach.map fun ⟨v, _⟩ => render v) ++ "]"
  | .obj members =>
    "\x7b" ++ ",".intercalate (members.attach.map fun ⟨(k, v), _⟩ => quote k ++ ":" ++ render v)
      ++ "\x7d"
termination_by v => sizeOf v
decreasing_by
  · rename_i mem
    have := List.sizeOf_lt_of_mem mem
    simp only [arr.sizeOf_spec]
    omega
  · rename_i mem
    have := List.sizeOf_lt_of_mem mem
    simp only [Prod.mk.sizeOf_spec] at this
    simp only [obj.sizeOf_spec]
    omega

end IngressGuard.Json
