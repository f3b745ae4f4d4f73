import IngressGuard.Kube.Ingress
import IngressGuard.Kube.Workload
import IngressGuard.Auth.Spec
import IngressGuard.Dex.Message
import IngressGuard.Random.ChaCha

/-!
# The world the controller acts on

Everything the controller reads and changes, as one value: the cluster's stores of ingresses,
per-ingress settings, Secrets, Deployments and Services with counts of writes; the auth backends
by id; the routes that resolve a service to a host and port; one Dex server per API address with
its clients and the number of connections made to it; the addresses the controller already holds
a connection to; faults planned for coming calls; the random generator's stream of 32-byte draws
and how many of them fresh client secrets have taken; and the log of calls made.

A store keeps each key once, in the order keys were first stored.
-/

namespace IngressGuard

open IngressGuard.Kube IngressGuard.Auth IngressGuard.Dex

/-- Where an object lives: its namespace and name. -/
structure ObjectKey where
  ns : String
  name : String
deriving DecidableEq, Repr

/-- The `namespace/name` text of a key. -/
def ObjectKey.text (k : ObjectKey) : String :=
  k.ns ++ "/" ++ k.name

/-- The key of an object from its metadata: its namespace (empty when unset) and the name it is
known by. -/
def Kube.ObjectMeta.key (m : ObjectMeta) : ObjectKey :=
  ⟨m.ns.getD "", m.nameAny⟩

/-- Objects by key, each key once, in the order first stored. -/
abbrev Store (α : Type) := List (ObjectKey × α)

namespace Store

variable {α : Type}

/-- The object at a key. -/
def get? (s : Store α) (k : ObjectKey) : Option α :=
  (s.find? (·.1 == k)).map (·.2)

/-- Whether a key holds an object. -/
def contains (s : Store α) (k : ObjectKey) : Bool :=
  s.any (·.1 == k)

/-- Stores an object, replacing the one at its key in place. -/
def put (s : Store α) (k : ObjectKey) (v : α) : Store α :=
  if s.contains k then s.map fun p => if p.1 == k then (k, v) else p else s ++ [(k, v)]

/-- Removes the object at a key. -/
def erase (s : Store α) (k : ObjectKey) : Store α :=
  s.filter (·.1 != k)

end Store

/-- How many writes each kind of object has had. -/
structure WriteCounts where
  ingresses : Nat := 0
  secrets : Nat := 0
  deployments : Nat := 0
  services : Nat := 0
deriving DecidableEq, Repr

/-- The cluster's objects. -/
structure Cluster where
  ingresses : Store Ingress := []
  ingressAuths : Store IngressAuthSpec := []
  secrets : Store Secret := []
  deployments : Store Deployment := []
  services : Store Service := []
  writes : WriteCounts := {}
deriving DecidableEq, Repr

/-- Where a service is reached: a host and a port number. -/
structure Route where
  host : String
  port : Int
deriving DecidableEq, Repr

/-- A Dex server: the connections made to it and its clients, by id. -/
structure DexServer where
  connects : Nat := 0
  clients : List (String × Client) := []
deriving DecidableEq, Repr

/-- The calls the controller makes to the world. -/
inductive CallKind where
  | getIngress
  | updateIngress
  | getSecret
  | ensureSecret
  | deleteSecret
  | ensureDeployment
  | deleteDeployment
  | ensureService
  | deleteService
  | getService
  | getIngressAuth
  | getAuthBackend
  | routeService
  | dexConnect
  | dexCreateClient
  | dexDeleteClient
deriving DecidableEq, Repr

/-- Every call kind. -/
def CallKind.all : List CallKind :=
  [.getIngress, .updateIngress, .getSecret, .ensureSecret, .deleteSecret, .ensureDeployment,
   .deleteDeployment, .ensureService, .deleteService, .getService, .getIngressAuth,
   .getAuthBackend, .routeService, .dexConnect, .dexCreateClient, .dexDeleteClient]

/-- The name of a call in the log. -/
def CallKind.name : CallKind → String
  | .getIngress => "get_ingress"
  | .updateIngress => "update_ingress"
  | .getSecret => "get_secret"
  | .ensureSecret => "ensure_secret"
  | .deleteSecret => "delete_secret"
  | .ensureDeployment => "ensure_deployment"
  | .deleteDeployment => "delete_deployment"
  | .ensureService => "ensure_service"
  | .deleteService => "delete_service"
  | .getService => "get_service"
  | .getIngressAuth => "get_ingress_auth"
  | .getAuthBackend => "get_auth_backend"
  | .routeService => "get_service_host_and_port"
  | .dexConnect => "dex_connect"
  | .dexCreateClient => "dex_create_client"
  | .dexDeleteClient => "dex_delete_client"

/-- The call kind of a name. -/
def CallKind.ofName? (name : String) : Option CallKind :=
  CallKind.all.find? (·.name == name)

/-- Faults planned for a kind of call: after `skip` calls that go through, `times` calls fail. -/
structure FaultPlan where
  skip : Nat := 0
  times : Nat := 0
deriving DecidableEq, Repr

/-- The world. -/
structure World where
  /-- The namespace the controller keeps its own Secrets in. -/
  home : String := "bilrost"
  cluster : Cluster := {}
  backends : List (String × AuthBackendSpec) := []
  routes : List (String × Route) := []
  dex : List (String × DexServer) := []
  /-- The Dex API addresses the controller holds a connection to. -/
  connected : List String := []
  faults : List (CallKind × FaultPlan) := []
  /-- The random generator's draws of 32 bytes, in the order they are handed out. -/
  draws : Nat → Vector UInt8 32 := ChaCha.draw
  /-- How many client secrets have been drawn. -/
  secretsDrawn : Nat := 0
  /-- The calls made, oldest first. -/
  calls : List String := []

end IngressGuard
