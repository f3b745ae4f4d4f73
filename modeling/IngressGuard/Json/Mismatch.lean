import IngressGuard.Text.Quoted

/-!
# Type mismatches while decoding JSON

When a JSON value does not have the shape a typed decoder expects, the message names what was
found and what was expected: `invalid type: string "x", expected a sequence`. Missing and repeated
record members and arrays of the wrong length have messages of their own. These texts are shared
by the reader of JSON text and the decoder of JSON values.
-/

namespace IngressGuard.Json

/-- What a decoder found where it expected something else. -/
inductive Unexpected where
  | bool (value : Bool)
  | unsigned (value : Nat)
  | signed (value : Int)
  /-- A binary64 number, by its shortest decimal text. -/
  | float (text : String)
  | str (value : String)
  | null
  | seq
  | map

/-- How the found value is named in a message. -/
def Unexpected.describe : Unexpected → String
  | .bool b => "boolean `" ++ toString b ++ "`"
  | .unsigned n => "integer `" ++ toString n ++ "`"
  | .signed n => "integer `" ++ toString n ++ "`"
  | .float text => "floating point `" ++ text ++ "`"
  | .str s => "string " ++ Quoted.quote s
  | .null => "null"
  | .seq => "sequence"
  | .map => "map"

/-- What an integer is called when found: negative ones are signed. -/
def Unexpected.ofInt (n : Int) : Unexpected :=
  if n < 0 then .signed n else .unsigned n.toNat

/-- The message for a value of the wrong kind. -/
def invalidType (found : Unexpected) (expected : String) : String :=
  "invalid type: " ++ found.describe ++ ", expected " ++ expected

/-- The message for an array with the wrong number of elements. -/
def invalidLength (length : Nat) (expected : String) : String :=
  "invalid length " ++ toString length ++ ", expected " ++ expected

/-- The message for a record member that is absent. -/
def missingField (name : String) : String :=
  "missing field `" ++ name ++ "`"

/-- The message for a record member given twice. -/
def duplicateField (name : String) : String :=
  "duplicate field `" ++ name ++ "`"

/-- The message for a number outside the range of its type. -/
def invalidValue (found : Unexpected) (expected : String) : String :=
  "invalid value: " ++ found.describe ++ ", expected " ++ expected

end IngressGuard.Json
