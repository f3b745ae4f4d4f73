import IngressGuard.Kube.Ingress

/-!
# Marks on secured ingresses

An ingress asks to be secured with the backend annotation, naming an auth backend. Once the
controller takes it in hand it sets the handled annotation to `true` and adds its finalizer, so
that a deletion waits for the rollback; both go again once rolled back. The backup annotation
holds the service the ingress routed to before it was secured, while it is secured.
-/

namespace IngressGuard.Kube

/-- Names the auth backend that secures the ingress. -/
def backendAnnotationKey : String := "auth.bilrost.slok.dev/backend"

/-- Set once the ingress is ready to be secured; cleared once rolled back. -/
def handledAnnotationKey : String := "auth.bilrost.slok.dev/handled"

/-- The value of the handled annotation. -/
def handledValue : String := "true"

/-- Holds the backup of the service routed to before securing. -/
def backupAnnotationKey : String := "auth.bilrost.slok.dev/backup"

/-- Holds deletion back until the security is rolled back. -/
def securityFinalizer : String := "finalizers.auth.bilrost.slok.dev/security"

namespace Ingress

/-- The annotation value of a key. -/
def annotationValue? (ing : Ingress) (key : String) : Option String :=
  ing.metadata.annotationValue? key

/-- Whether the ingress names a backend to be secured with. -/
def wantsSecurity (ing : Ingress) : Bool :=
  match ing.annotationValue? backendAnnotationKey with
  | some v => !v.isEmpty
  | none => false

/-- Whether the ingress carries the handled annotation, whatever its value. -/
def isHandled (ing : Ingress) : Bool :=
  (ing.annotationValue? handledAnnotationKey).isSome

/-- Whether deletion of the ingress was requested. -/
def isDeleting (ing : Ingress) : Bool :=
  ing.metadata.deletionTimestamp.isSome

/-- Whether the ingress carries the security finalizer. -/
def hasSecurityFinalizer (ing : Ingress) : Bool :=
  ing.metadata.hasFinalizer securityFinalizer

/-- Whether the ingress is fully marked as handled. -/
def isMarked (ing : Ingress) : Bool :=
  ing.annotationValue? handledAnnotationKey == some handledValue && ing.hasSecurityFinalizer

/-- Whether the ingress carries no mark at all. -/
def isUnmarked (ing : Ingress) : Bool :=
  !ing.isHandled && !ing.hasSecurityFinalizer

/-- The ingress marked as handled: the annotation set and the finalizer added when absent. -/
def mark (ing : Ingress) : Ingress :=
  let marked := ing.metadata.annotate handledAnnotationKey handledValue
  { ing with metadata :=
      if ing.hasSecurityFinalizer then marked else marked.addFinalizer securityFinalizer }

/-- The ingress with both marks removed. -/
def unmark (ing : Ingress) : Ingress :=
  { ing with
    metadata := (ing.metadata.unannotate handledAnnotationKey).removeFinalizer securityFinalizer }

end Ingress

end IngressGuard.Kube
