import IngressGuard.Json.Decode
import IngressGuard.Kube.Workload

/-!
# Auth backends and per-ingress proxy settings

Two custom resources configure the controller. An `AuthBackendSpec` describes an OIDC identity
backend; the only kind is Dex, given by the address of its API and the public URL users are sent
to. An `IngressAuthSpec`, named like the ingress it configures, may set the scopes or claims to
ask for and overrides for the proxy: its image, replica count and compute resources.

Both are read from and written to their JSON forms; absent optional members are left out when
written, and the scope list is always written when the settings are present.
-/

namespace IngressGuard.Auth

open IngressGuard.Json IngressGuard.Kube

/-- A Dex identity backend. -/
structure DexSpec where
  apiAddress : String
  publicUrl : String
deriving DecidableEq, Repr

/-- An identity backend. -/
structure AuthBackendSpec where
  dex : Option DexSpec := none
deriving DecidableEq, Repr

/-- Compute resources as quantity texts. -/
structure Resources where
  requests : StringMap := []
  limits : StringMap := []
deriving DecidableEq, Repr

/-- Overrides for the proxy. -/
structure ProxyOverrides where
  image : Option String := none
  replicas : Option Int := none
  resources : Option Resources := none
deriving DecidableEq, Repr

/-- Per-ingress settings. -/
structure IngressAuthSpec where
  scopeOrClaims : Option (List String) := none
  proxy : Option ProxyOverrides := none
deriving DecidableEq, Repr

/-- Container requirements from resources: none when both maps are empty, and each empty map
left out. -/
def Resources.toRequirements (r : Resources) : Option ResourceRequirements :=
  if r.requests.isEmpty && r.limits.isEmpty then none
  else some { requests := if r.requests.isEmpty then none else some r.requests,
              limits := if r.limits.isEmpty then none else some r.limits }

/-! ## JSON forms -/

/-- Reads a Dex backend. -/
def DexSpec.ofJson : Decoder DexSpec := fun v => do
  let r ← Record.open "struct DexSpec" [.of "apiAddress" Decode.string,
    .of "publicURL" Decode.string] v
  return { apiAddress := ← r.required "apiAddress" Decode.string,
           publicUrl := ← r.required "publicURL" Decode.string }

/-- Reads an identity backend. -/
def AuthBackendSpec.ofJson : Decoder AuthBackendSpec := fun v => do
  let r ← Record.open "struct AuthBackendSpec" [.of "dex" (Decode.nullable DexSpec.ofJson)] v
  return { dex := ← r.optional "dex" DexSpec.ofJson }

/-- Reads compute resources. -/
def Resources.ofJson : Decoder Resources := fun v => do
  let r ← Record.open "struct Resources" [.of "requests" Decode.stringMap,
    .of "limits" Decode.stringMap] v
  return { requests := ← r.withDefault "requests" Decode.stringMap [],
           limits := ← r.withDefault "limits" Decode.stringMap [] }

/-- Reads proxy overrides. -/
def ProxyOverrides.ofJson : Decoder ProxyOverrides := fun v => do
  let r ← Record.open "struct Oauth2ProxySpec" [.of "image" (Decode.nullable Decode.string),
    .of "replicas" (Decode.nullable Decode.int32),
    .of "resources" (Decode.nullable Resources.ofJson)] v
  return { image := ← r.optional "image" Decode.string,
           replicas := ← r.optional "replicas" Decode.int32,
           resources := ← r.optional "resources" Resources.ofJson }

/-- Reads per-ingress settings. -/
def IngressAuthSpec.ofJson : Decoder IngressAuthSpec := fun v => do
  let settings : Decoder (List String) := fun v => do
    let r ← Record.open "struct AuthSettings" [.of "scopeOrClaims" (Decode.list Decode.string)] v
    r.withDefault "scopeOrClaims" (Decode.list Decode.string) []
  let r ← Record.open "struct IngressAuthSpec" [.of "authSettings" (Decode.nullable settings),
    .of "oauth2Proxy" (Decode.nullable ProxyOverrides.ofJson)] v
  return { scopeOrClaims := ← r.optional "authSettings" settings,
           proxy := ← r.optional "oauth2Proxy" ProxyOverrides.ofJson }

/-- The JSON form of an identity backend. -/
def AuthBackendSpec.toJson (s : AuthBackendSpec) : Json :=
  Json.object [("dex", s.dex.map fun d =>
    .obj [("apiAddress", .str d.apiAddress), ("publicURL", .str d.publicUrl)])]

/-- The JSON form of compute resources. -/
def Resources.toJson (r : Resources) : Json :=
  Json.object [
    ("requests", if r.requests.isEmpty then none else some (Json.strMap r.requests)),
    ("limits", if r.limits.isEmpty then none else some (Json.strMap r.limits))]

/-- The JSON form of per-ingress settings. -/
def IngressAuthSpec.toJson (s : IngressAuthSpec) : Json :=
  Json.object [
    ("authSettings", s.scopeOrClaims.map fun scopes => .obj [("scopeOrClaims", Json.strs scopes)]),
    ("oauth2Proxy", s.proxy.map fun p => Json.object [
      ("image", p.image.map .str), ("replicas", p.replicas.map .num),
      ("resources", p.resources.map (·.toJson))])]

end IngressGuard.Auth
