import IngressGuard.Security

/-!
# Reconciling an ingress

One reconciliation looks at an ingress as it was seen (possibly stale) and brings the world closer
to what it asks for:

* an ingress that neither names a backend nor carries the handled annotation is ignored;
* otherwise it must have the supported shape;
* one being deleted without the finalizer is already clean;
* one that names a backend and is not being deleted is first marked as handled (annotation and
  finalizer), and on the next reconciliation secured, after which the marks are ensured again;
* any other handled ingress (its backend annotation gone or emptied, or being deleted) is rolled
  back and its marks removed.

The decision depends only on the ingress as seen; the marks are written on the stored ingress,
read fresh, and only when they need to change.
-/

namespace IngressGuard

open IngressGuard.Kube

/-- What a reconciliation did. -/
inductive Outcome where
  | ignored
  | clean
  | markedReady
  | secured
  | rolledBack
deriving DecidableEq, Repr

/-- The name of an outcome. -/
def Outcome.name : Outcome → String
  | .ignored => "ignored"
  | .clean => "clean"
  | .markedReady => "marked_ready"
  | .secured => "secured"
  | .rolledBack => "rolled_back"

/-- Marks the stored ingress as handled, unless it is marked already. -/
def ensureMarked (k : ObjectKey) : Op Unit := do
  let ing ← getIngress k
  if ing.isMarked then pure ()
  else Op.within "could not mark ingress as handled" (updateIngress ing.mark)

/-- Removes the marks from the stored ingress, unless it carries none. -/
def ensureUnmarked (k : ObjectKey) : Op Unit := do
  let ing ← getIngress k
  if ing.isUnmarked then pure ()
  else Op.within "could not unmark ingress as handled" (updateIngress ing.unmark)

/-- The proxy settings an ingress's settings give. -/
def proxySettingsOf (spec : Auth.IngressAuthSpec) : ProxySettings :=
  { scopes := spec.scopeOrClaims.getD []
    proxy := spec.proxy.map fun p => {
      image := p.image.filter (!·.isEmpty)
      replicas := p.replicas.filter (0 < ·)
      resources := p.resources.bind (·.toRequirements) } }

/-- The app an ingress describes, with the settings named like it. -/
def appOf (ing : Ingress) : Op App := do
  let k := ing.metadata.key
  let backend ← Op.ofShape ing.serviceBackend
  let auth ← Op.within "could not get ingress proxy settings" (getIngressAuth k)
  let host ← Op.ofShape ing.host
  pure {
    id := k.text
    authBackendId := (ing.annotationValue? backendAnnotationKey).getD ""
    host
    ingress := { name := k.name, ns := k.ns,
                 target := { name := backend.name, ns := k.ns,
                             portText := portText backend.port } }
    settings := (auth.map proxySettingsOf).getD {} }

/-- Reconciles an ingress as seen. -/
def reconcile (ing : Ingress) : Op Outcome := do
  let k := ing.metadata.key
  if !ing.wantsSecurity && !ing.isHandled then return .ignored
  Op.ofShape ing.validate
  if ing.isDeleting && !ing.hasSecurityFinalizer then return .clean
  if ing.wantsSecurity && !ing.isDeleting then
    if !ing.isHandled then
      ensureMarked k
      return .markedReady
    let app ← appOf ing
    Op.within "could not secure app" (secureApp app)
    ensureMarked k
    return .secured
  let app ← appOf ing
  Op.within "could not rollback app security" (rollbackApp app)
  ensureUnmarked k
  return .rolledBack

end IngressGuard
