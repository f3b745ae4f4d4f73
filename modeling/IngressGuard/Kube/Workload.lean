import IngressGuard.Kube.Meta

/-!
# Secrets, deployments and services

The objects this controller creates besides editing ingresses: a Secret holds named byte
strings; a Deployment runs replicas of a pod template whose containers take their environment
from Secrets; a Service gives pods selected by labels a stable address and ports. Only the fields
the controller writes are modelled.
-/

namespace IngressGuard.Kube

/-- A claim of a container on a resource declared by its pod. -/
structure ResourceClaim where
  name : String
  request : Option String := none
deriving DecidableEq, Repr

/-- Compute resources of a container, as quantity texts by resource name, and resource claims. -/
structure ResourceRequirements where
  claims : Option (List ResourceClaim) := none
  limits : Option StringMap := none
  requests : Option StringMap := none
deriving DecidableEq, Repr

/-- A Secret: byte strings by key, ordered by key. -/
structure Secret where
  metadata : ObjectMeta := {}
  data : Option (List (String × List UInt8)) := none
deriving DecidableEq, Repr

/-- A port a container listens on. -/
structure ContainerPort where
  containerPort : Int
  name : Option String := none
  protocol : Option String := none
deriving DecidableEq, Repr

/-- Environment variables taken from every key of a Secret. -/
structure EnvFromSecret where
  secretName : String
deriving DecidableEq, Repr

/-- A container of a pod. -/
structure Container where
  name : String
  image : Option String := none
  args : Option (List String) := none
  ports : Option (List ContainerPort) := none
  envFrom : Option (List EnvFromSecret) := none
  resources : Option ResourceRequirements := none
deriving DecidableEq, Repr

/-- A Deployment: replicas of a pod template, selected by labels. -/
structure Deployment where
  metadata : ObjectMeta := {}
  replicas : Option Int := none
  matchLabels : Option StringMap := none
  templateLabels : Option StringMap := none
  containers : List Container := []
deriving DecidableEq, Repr

/-- A port a Service exposes, forwarded to a named port of the selected pods. -/
structure ServicePort where
  name : Option String := none
  port : Int
  targetPort : Option String := none
  protocol : Option String := none
deriving DecidableEq, Repr

/-- A Service: a stable address for the pods its selector picks. -/
structure Service where
  metadata : ObjectMeta := {}
  serviceType : Option String := none
  selector : Option StringMap := none
  ports : Option (List ServicePort) := none
deriving DecidableEq, Repr

end IngressGuard.Kube
