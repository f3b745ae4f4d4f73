import IngressGuard.World.Calls
import IngressGuard.Kube.Labels
import IngressGuard.Digest.Sha256

/-!
# The OIDC proxy in front of an ingress

Securing an app puts an OAuth2 proxy between its ingress and its service: a Secret with the
client credentials and a cookie secret, a Deployment running the proxy, and a Service in front of
it, all named `<ingress>-bilrost-proxy`; then the ingress's path is pointed at that Service.
Removing the proxy points the ingress back at the recorded service first and then deletes the
three objects.

The pod template carries a checksum of the Secret's data so that a change of credentials rolls the
pods. The proxy runs one replica of a default image unless the app overrides them with a positive
count and a non-empty image, asks for the scopes `openid email profile groups offline_access`
unless the app names its own, and requests small default resources unless the app sets any.

Pointing the ingress elsewhere is a conditional write: nothing is written when the path already
leads to a service of that name and port text.
-/

namespace IngressGuard

open IngressGuard.Kube

/-- The name of the proxy objects of an ingress. -/
def proxyName (ingress : String) : String :=
  ingress ++ "-bilrost-proxy"

/-- The image the proxy runs unless overridden. -/
def defaultImage : String := "quay.io/oauth2-proxy/oauth2-proxy:v5.1.0"

/-- The scopes asked for unless the app names its own. -/
def defaultScopes : List String := ["openid", "email", "profile", "groups", "offline_access"]

/-- The name of the proxy's port. -/
def proxyPortName : String := "http"

/-- The pod label that carries the checksum of the Secret. -/
def checksumLabel : String := "bilrost.slok.dev/secret-checksum-to-force-update"

/-- Resources requested unless the app sets any. -/
def defaultResources : ResourceRequirements :=
  { requests := some [("cpu", "15m"), ("memory", "20Mi")] }

/-- The cookie secret: 32 hexadecimal digits of the digest of the client secret. -/
def cookieSecret (clientSecret : String) : String :=
  Sha256.shortHex (Bytes.utf8 clientSecret)

/-- The checksum of Secret data: 32 hexadecimal digits of the digest of every `key=value` line. -/
def dataChecksum (data : List (String × List UInt8)) : String :=
  Sha256.shortHex (data.flatMap fun (k, v) => Bytes.utf8 k ++ [61] ++ v ++ [10])

/-- The proxy's command-line arguments. -/
def proxyArgs (plan : ProxyPlan) : List String :=
  let scopes := if plan.app.settings.scopes.isEmpty then defaultScopes else plan.app.settings.scopes
  ["--oidc-issuer-url=" ++ plan.issuerUrl,
   "--client-id=$(OIDC_CLIENT_ID)",
   "--client-secret=$(OIDC_CLIENT_SECRET)",
   "--http-address=0.0.0.0:4180",
   "--redirect-url=" ++ plan.url ++ "/oauth2/callback",
   "--upstream=" ++ plan.targetUrl,
   "--scope=" ++ " ".intercalate scopes,
   "--cookie-secret=$(OIDC_COOKIE_SECRET)",
   "--cookie-secure=false",
   "--provider=oidc",
   "--skip-provider-button",
   "--email-domain=*"]

/-- The proxy objects of a plan. -/
structure ProxyObjects where
  secret : Secret
  deployment : Deployment
  service : Service
deriving DecidableEq, Repr

/-- Builds the proxy objects of a plan. -/
def ProxyPlan.objects (plan : ProxyPlan) : ProxyObjects :=
  let ingress := plan.app.ingress
  let name := proxyName ingress.name
  let labels := proxyLabels name ingress.ns ingress.name
  let objectMeta : ObjectMeta := { name := some name, ns := some ingress.ns, labels := some labels }
  let data : List (String × List UInt8) :=
    [("OIDC_CLIENT_ID", Bytes.utf8 plan.clientId),
     ("OIDC_CLIENT_SECRET", Bytes.utf8 plan.clientSecret),
     ("OIDC_COOKIE_SECRET", Bytes.utf8 (cookieSecret plan.clientSecret))]
  let options := plan.app.settings.proxy
  let image := ((options.bind (·.image)).filter (!·.isEmpty)).getD defaultImage
  let replicas := ((options.bind (·.replicas)).filter (0 < ·)).getD 1
  let resources := (options.bind (·.resources)).getD defaultResources
  let container : Container := {
    name := "app", image := some image, args := some (proxyArgs plan),
    ports := some [{ containerPort := 4180, name := some proxyPortName, protocol := some "TCP" }],
    envFrom := some [{ secretName := name }], resources := some resources }
  { secret := { metadata := objectMeta, data := some data }
    deployment := { metadata := objectMeta, replicas := some replicas, matchLabels := some labels,
                    templateLabels := some (labels.insert checksumLabel (dataChecksum data)),
                    containers := [container] }
    service := { metadata := objectMeta, serviceType := some "ClusterIP", selector := some labels,
                 ports := some [{ name := some proxyPortName, port := 80,
                                  targetPort := some proxyPortName, protocol := some "TCP" }] } }

/-- Points the single path of an ingress at a service, writing only when it leads elsewhere. -/
def swapBackend (k : ObjectKey) (target : ServiceBackend) : Op Unit := do
  let ing ← Op.within "could not get ingress" (getIngress k)
  let current ← Op.ofShape ing.serviceBackend
  if current.name == target.name && portText current.port == portText target.port then pure ()
  else
    let ing ← Op.ofShape (ing.setServiceBackend target)
    Op.within "could not update ingress backend" (updateIngress ing)

/-- Puts the proxy in front of the app's ingress. -/
def provision (plan : ProxyPlan) : Op Unit := do
  let objects := plan.objects
  Op.within "could not ensure proxy secret" (ensureSecret objects.secret)
  Op.within "could not ensure proxy deployment" (ensureDeployment objects.deployment)
  Op.within "could not ensure proxy service" (ensureService objects.service)
  let ingress := plan.app.ingress
  swapBackend ⟨ingress.ns, ingress.name⟩
    (serviceBackendFor (proxyName ingress.name) proxyPortName)

/-- Points the ingress back at its recorded service and removes the proxy. -/
def unprovision (removal : ProxyRemoval) : Op Unit := do
  swapBackend ⟨removal.ingressNs, removal.ingressName⟩
    (serviceBackendFor removal.serviceName removal.servicePortText)
  let k : ObjectKey := ⟨removal.ingressNs, proxyName removal.ingressName⟩
  Op.within "could not delete proxy service" (deleteService k)
  Op.within "could not delete proxy deployment" (deleteDeployment k)
  Op.within "could not delete proxy secret" (deleteSecret k)

end IngressGuard
