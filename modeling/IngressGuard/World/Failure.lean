import IngressGuard.Kube.Ingress
import IngressGuard.Json.Read
import IngressGuard.Dex.Address
import IngressGuard.World.Basic

/-!
# Failures

A failure has a cause and the steps it interrupted, outermost first; its text is the steps and the
cause's text joined by `": "`. A failure is classed by its cause: an ingress outside the
supported shape, a rollback without a backup, or anything else.
-/

namespace IngressGuard

/-- What went wrong. -/
inductive Cause where
  | invalidIngress (e : Kube.InvalidIngress)
  | missingBackup (appId : String)
  | injected (call : CallKind)
  | ingressNotFound (key : ObjectKey)
  | backendNotFound (id : String)
  | noRoute (service : String)
  | unknownBackendKind (id : String)
  | badDexAddress (address : String) (e : Dex.UriError)
  | unreadableBackup (e : Json.ReadFailure)
deriving DecidableEq, Repr

/-- The text of a cause. -/
def Cause.message : Cause → String
  | .invalidIngress e => e.message
  | .missingBackup id => "app " ++ id ++ " has no backup to roll back from"
  | .injected call => "injected failure in " ++ call.name
  | .ingressNotFound key => "ingress " ++ key.text ++ " not found"
  | .backendNotFound id => "auth backend " ++ id ++ " not found"
  | .noRoute service => "no route for service " ++ service
  | .unknownBackendKind id => "unknown auth backend type for " ++ id
  | .badDexAddress address e =>
    "invalid Dex API address " ++ address ++ ": invalid URI: " ++ e.message
  | .unreadableBackup e => e.message

/-- A failure: its cause and the steps it interrupted, outermost first. -/
structure Failure where
  cause : Cause
  steps : List String := []
deriving DecidableEq, Repr

/-- The classes of failure. -/
inductive FailureClass where
  | invalidIngress
  | missingBackup
  | other
deriving DecidableEq, Repr

namespace Failure

/-- The text of a failure. -/
def message (f : Failure) : String :=
  ": ".intercalate (f.steps ++ [f.cause.message])

/-- The class of a failure. -/
def classOf (f : Failure) : FailureClass :=
  match f.cause with
  | .invalidIngress _ => .invalidIngress
  | .missingBackup _ => .missingBackup
  | _ => .other

end Failure

end IngressGuard
