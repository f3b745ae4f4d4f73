import IngressGuard.Json.Decode

/-!
# Dex API messages

The messages of Dex's client API that the controller uses: an OAuth2 client, the requests to
create and delete one, and their responses. Their JSON forms follow the proto3 JSON mapping, with
field names in lower camel case. When read, a field that is missing or `null` takes its default; a
text field of another type is refused, a list must be a list of strings, a flag of another type
counts as false, and a message field is read from whatever value it has.
-/

namespace IngressGuard.Dex

open IngressGuard.Json

/-- An OAuth2 client registered at Dex. -/
structure Client where
  id : String := ""
  secret : String := ""
  redirectUris : List String := []
  trustedPeers : List String := []
  isPublic : Bool := false
  name : String := ""
  logoUrl : String := ""
deriving DecidableEq, Repr, Inhabited

/-- A request to create a client. -/
structure CreateClientReq where
  client : Option Client := none
deriving DecidableEq, Repr

/-- The answer to a creation: whether the id was taken, and the client. -/
structure CreateClientResp where
  alreadyExists : Bool := false
  client : Option Client := none
deriving DecidableEq, Repr

/-- A request to delete a client. -/
structure DeleteClientReq where
  id : String := ""
deriving DecidableEq, Repr

/-- The answer to a deletion: whether there was no such client. -/
structure DeleteClientResp where
  notFound : Bool := false
deriving DecidableEq, Repr

/-! ## JSON forms -/

/-- The JSON form of a client, with all fields. -/
def Client.toJson (c : Client) : Json :=
  .obj [("id", .str c.id), ("secret", .str c.secret), ("redirectUris", Json.strs c.redirectUris),
    ("trustedPeers", Json.strs c.trustedPeers), ("public", .bool c.isPublic), ("name", .str c.name),
    ("logoUrl", .str c.logoUrl)]

/-- The text of a member: empty when it is missing or `null`, refused when of another type. -/
def textAt (v : Json) (key : String) : Except String String :=
  match v.get? key with
  | none => .ok ""
  | some .null => .ok ""
  | some (.str s) => .ok s
  | some _ => .error ("field " ++ key ++ " must be a string")

/-- The flag of a member, false when it is missing or not a boolean. -/
def flagAt (v : Json) (key : String) : Bool :=
  match v.get? key with
  | some (.bool b) => b
  | _ => false

/-- The strings of a member: none when it is missing or `null`, otherwise a list of strings. -/
def textsAt (v : Json) (key : String) : Except String (List String) :=
  match v.get? key with
  | none => .ok []
  | some .null => .ok []
  | some items => (Decode.list Decode.string items).mapError (("invalid " ++ key ++ ": ") ++ ·)

/-- Reads a client. -/
def Client.ofJson : Decoder Client := fun v => do
  let id ← textAt v "id"
  let secret ← textAt v "secret"
  let redirectUris ← textsAt v "redirectUris"
  let trustedPeers ← textsAt v "trustedPeers"
  let isPublic := flagAt v "public"
  let name ← textAt v "name"
  let logoUrl ← textAt v "logoUrl"
  pure { id, secret, redirectUris, trustedPeers, isPublic, name, logoUrl }

/-- The client of a member, absent when it is missing or `null`. -/
def clientAt (v : Json) (key : String) : Except String (Option Client) :=
  match v.get? key with
  | none => .ok none
  | some .null => .ok none
  | some c => some <$> Client.ofJson c

/-- The JSON form of a creation request. -/
def CreateClientReq.toJson (m : CreateClientReq) : Json :=
  .obj [("client", (m.client.map (·.toJson)).getD .null)]

/-- Reads a creation request. -/
def CreateClientReq.ofJson : Decoder CreateClientReq := fun v => do
  pure { client := ← clientAt v "client" }

/-- The JSON form of a creation answer. -/
def CreateClientResp.toJson (m : CreateClientResp) : Json :=
  .obj [("alreadyExists", .bool m.alreadyExists), ("client", (m.client.map (·.toJson)).getD .null)]

/-- Reads a creation answer. -/
def CreateClientResp.ofJson : Decoder CreateClientResp := fun v => do
  pure { alreadyExists := flagAt v "alreadyExists", client := ← clientAt v "client" }

/-- The JSON form of a deletion request. -/
def DeleteClientReq.toJson (m : DeleteClientReq) : Json :=
  .obj [("id", .str m.id)]

/-- Reads a deletion request. -/
def DeleteClientReq.ofJson : Decoder DeleteClientReq := fun v => do
  pure { id := ← textAt v "id" }

/-- The JSON form of a deletion answer. -/
def DeleteClientResp.toJson (m : DeleteClientResp) : Json :=
  .obj [("notFound", .bool m.notFound)]

/-- Reads a deletion answer. -/
def DeleteClientResp.ofJson : Decoder DeleteClientResp := fun v =>
  pure { notFound := flagAt v "notFound" }

end IngressGuard.Dex
