import IngressGuard.Kube.Meta

/-!
# Ingresses

An ingress routes HTTP requests for hosts and paths to backends. The supported shape has exactly
one rule with exactly one HTTP path whose backend is a service; `Ingress.serviceBackend` reads
that service and says why an ingress falls outside the shape, and `Ingress.setServiceBackend`
points the single path elsewhere after the same check.

A service port is a number or a name. `servicePort` reads a port text as a signed 32-bit number
when it is one (an optional sign and decimal digits) and as a name otherwise; `portText` gives
back the name when it is set and not empty, else the number, else the empty text.
-/

namespace IngressGuard.Kube

/-- A port of a service, by number or by name. -/
structure ServiceBackendPort where
  name : Option String := none
  number : Option Int := none
deriving DecidableEq, Repr, Inhabited

/-- A service and port that a path leads to. -/
structure ServiceBackend where
  name : String := ""
  port : Option ServiceBackendPort := none
deriving DecidableEq, Repr, Inhabited

/-- A reference to an object of another kind that a path leads to. -/
structure ResourceRef where
  apiGroup : Option String := none
  kind : String := ""
  name : String := ""
deriving DecidableEq, Repr

/-- Where a path leads: a service or another resource. -/
structure IngressBackend where
  resource : Option ResourceRef := none
  service : Option ServiceBackend := none
deriving DecidableEq, Repr

/-- One HTTP path of a rule. -/
structure HttpPath where
  backend : IngressBackend := {}
  path : Option String := none
  pathType : String := ""
deriving DecidableEq, Repr

/-- The HTTP paths of a rule. -/
structure HttpRule where
  paths : List HttpPath := []
deriving DecidableEq, Repr

/-- A host and its HTTP paths. -/
structure IngressRule where
  host : Option String := none
  http : Option HttpRule := none
deriving DecidableEq, Repr

/-- TLS settings for a list of hosts. -/
structure IngressTls where
  hosts : Option (List String) := none
  secretName : Option String := none
deriving DecidableEq, Repr

/-- The routing of an ingress. -/
structure IngressSpec where
  defaultBackend : Option IngressBackend := none
  ingressClassName : Option String := none
  rules : Option (List IngressRule) := none
  tls : Option (List IngressTls) := none
deriving DecidableEq, Repr

/-- A port of a load balancer and any fault in opening it. -/
structure IngressPortStatus where
  error : Option String := none
  port : Int := 0
  protocol : String := ""
deriving DecidableEq, Repr

/-- A point where a load balancer receives the traffic of an ingress. -/
structure IngressLoadBalancerIngress where
  hostname : Option String := none
  ip : Option String := none
  ports : Option (List IngressPortStatus) := none
deriving DecidableEq, Repr

/-- The load balancer of an ingress. -/
structure IngressLoadBalancerStatus where
  ingress : Option (List IngressLoadBalancerIngress) := none
deriving DecidableEq, Repr

/-- What is observed of an ingress. -/
structure IngressStatus where
  loadBalancer : Option IngressLoadBalancerStatus := none
deriving DecidableEq, Repr

/-- An ingress object. -/
structure Ingress where
  metadata : ObjectMeta := {}
  spec : Option IngressSpec := none
  status : Option IngressStatus := none
deriving DecidableEq, Repr

/-- Why an ingress is not of the supported shape. -/
inductive InvalidIngress where
  | ruleCount (found : Nat)
  | pathCount (found : Nat)
  | notAService
deriving DecidableEq, Repr

/-- The text of a shape fault. -/
def InvalidIngress.message : InvalidIngress → String
  | .ruleCount n => "ingress must have exactly one rule, found " ++ toString n
  | .pathCount n => "ingress rule must have exactly one HTTP path, found " ++ toString n
  | .notAService => "ingress path backend must reference a service"

namespace Ingress

/-- The rules, none when unset. -/
def rules (ing : Ingress) : List IngressRule :=
  (ing.spec.bind (·.rules)).getD []

/-- The single rule. -/
def rule (ing : Ingress) : Except InvalidIngress IngressRule :=
  match ing.rules with
  | [r] => .ok r
  | rs => .error (.ruleCount rs.length)

/-- The single path of the single rule. -/
def path (ing : Ingress) : Except InvalidIngress HttpPath := do
  let r ← ing.rule
  match (r.http.map (·.paths)).getD [] with
  | [p] => .ok p
  | ps => .error (.pathCount ps.length)

/-- The service the single path leads to. -/
def serviceBackend (ing : Ingress) : Except InvalidIngress ServiceBackend := do
  let p ← ing.path
  match p.backend.service with
  | some s => .ok s
  | none => .error .notAService

/-- Checks the supported shape. -/
def validate (ing : Ingress) : Except InvalidIngress Unit :=
  ing.serviceBackend.map fun _ => ()

/-- The host of the single rule, empty when unset. -/
def host (ing : Ingress) : Except InvalidIngress String :=
  ing.rule.map fun r => r.host.getD ""

/-- Points the first path of the first rule at a service, when there is such a path. -/
def pointFirstPath? (ing : Ingress) (service : ServiceBackend) : Option Ingress :=
  match ing.spec with
  | none => none
  | some spec =>
    match spec.rules with
    | none | some [] => none
    | some (r :: rs) =>
      match r.http with
      | none => none
      | some http =>
        match http.paths with
        | [] => none
        | p :: ps =>
          let p' := { p with backend := { p.backend with service := some service } }
          some { ing with spec := some { spec with
            rules := some ({ r with http := some { http with paths := p' :: ps } } :: rs) } }

/-- Points the single path at a service; the ingress must have the supported shape. An ingress
without a first path is refused as having no path. -/
def setServiceBackend (ing : Ingress) (service : ServiceBackend) : Except InvalidIngress Ingress :=
  match ing.validate with
  | .error e => .error e
  | .ok () =>
    match ing.pointFirstPath? service with
    | some ing' => .ok ing'
    | none => .error (.pathCount 0)

end Ingress

/-- Reads a signed 32-bit decimal number: an optional `+` or `-` and at least one digit, within
range. -/
def parseInt32? (text : String) : Option Int :=
  let digitsOf (cs : List Char) : Option Nat :=
    if cs.isEmpty || !cs.all Char.isDigit then none
    else some (cs.foldl (fun acc d => 10 * acc + (d.toNat - 48)) 0)
  let value : Option Int := match text.toList with
    | '+' :: cs => (digitsOf cs).map Int.ofNat
    | '-' :: cs => (digitsOf cs).map fun n => -(n : Int)
    | cs => (digitsOf cs).map Int.ofNat
  value.filter fun n => decide (-2147483648 ≤ n ∧ n ≤ 2147483647)

/-- The port of a port text: a number when the text reads as one, a name otherwise. -/
def servicePort (portText : String) : ServiceBackendPort :=
  match parseInt32? portText with
  | some n => { number := some n }
  | none => { name := some portText }

/-- A service backend from a service name and a port text. -/
def serviceBackendFor (name portText : String) : ServiceBackend :=
  { name := name, port := some (servicePort portText) }

/-- The text of a port: its name when set and not empty, else its number, else empty. -/
def portText : Option ServiceBackendPort → String
  | some p =>
    match p.name, p.number with
    | some n, number => if n.isEmpty then (number.map toString).getD "" else n
    | none, some number => toString number
    | none, none => ""
  | none => ""

end IngressGuard.Kube
