import IngressGuard.Kube.Workload

/-!
# Apps

An app is what gets secured: an ingress, the service it routes to before it is secured, the host
users reach it at, the auth backend that guards it, and the proxy settings. Its public URL is
`https://<host>` and the OIDC callback is that URL followed by `/oauth2/callback`.

An auth backend is known by an id; its kind, when known, is Dex with an API address and the
public URL that issues tokens.
-/

namespace IngressGuard

open IngressGuard.Kube

/-- A service in a namespace, with a port given by name or number text. -/
structure ServiceRef where
  name : String := ""
  ns : String := ""
  portText : String := ""
deriving DecidableEq, Repr

/-- An ingress in a namespace and the service it routes to. -/
structure IngressRef where
  name : String := ""
  ns : String := ""
  target : ServiceRef := {}
deriving DecidableEq, Repr

/-- Overrides of the proxy's image, replica count and resources. -/
structure ProxyOptions where
  image : Option String := none
  replicas : Option Int := none
  resources : Option ResourceRequirements := none
deriving DecidableEq, Repr

/-- How the proxy of an app is configured. -/
structure ProxySettings where
  scopes : List String := []
  proxy : Option ProxyOptions := none
deriving DecidableEq, Repr

/-- An app to secure. -/
structure App where
  id : String := ""
  authBackendId : String := ""
  host : String := ""
  ingress : IngressRef := {}
  settings : ProxySettings := {}
deriving DecidableEq, Repr

namespace App

/-- The URL users reach the app at. -/
def publicUrl (app : App) : String :=
  "https://" ++ app.host

/-- The URL the identity provider sends users back to. -/
def callbackUrl (app : App) : String :=
  "https://" ++ app.host ++ "/oauth2/callback"

end App

/-- A Dex identity backend: where its API listens and the URL that issues tokens. -/
structure DexBackend where
  apiUrl : String
  publicUrl : String
deriving DecidableEq, Repr

/-- An auth backend; its kind is unknown when none is given. -/
structure AuthBackend where
  id : String
  dex : Option DexBackend := none
deriving DecidableEq, Repr

/-- The URL that issues tokens, for a backend of known kind. -/
def AuthBackend.publicUrl? (backend : AuthBackend) : Option String :=
  backend.dex.map (·.publicUrl)

/-- An OAuth2 client to register for an app. -/
structure OidcApp where
  id : String
  name : String
  callbackUrl : String
deriving DecidableEq, Repr

/-- The credentials a registration gives. -/
structure Registration where
  clientId : String
  clientSecret : String
deriving DecidableEq, Repr

/-- Everything needed to put a proxy in front of an app. -/
structure ProxyPlan where
  url : String
  /-- Where the proxy forwards requests: the app's service as `http://host:port`. -/
  targetUrl : String
  issuerUrl : String
  clientId : String
  clientSecret : String
  app : App
deriving DecidableEq, Repr

/-- Everything needed to take a proxy away again. -/
structure ProxyRemoval where
  ingressName : String
  ingressNs : String
  serviceName : String
  servicePortText : String
deriving DecidableEq, Repr

end IngressGuard
