import IngressGuard.World.Failure
import IngressGuard.App

/-!
# Calls into the world

The controller acts through calls, each of which is logged as its name and subject. A call for
which a fault is planned fails with `injected failure in <name>` before it touches anything, and
its log entry says so; otherwise it does its work. Work that fails keeps whatever the calls before
it changed.

The cluster calls behave as an API server: reading a missing ingress fails, updating one fails
unless it exists, `ensure` stores an object whether or not one was there, `delete` removes one if
present; each update, ensure and delete counts as a write, whether or not it changed anything.
-/

namespace IngressGuard

open IngressGuard.Kube IngressGuard.Auth IngressGuard.Dex

/-- Work in the world that may fail. A failure keeps the world as the failed step left it. -/
abbrev Op := ExceptT Failure (StateM World)

namespace Op

/-- Fails with a cause. -/
def fail {α : Type} (cause : Cause) : Op α :=
  throw ⟨cause, []⟩

/-- Names the step a failure interrupted. -/
def within {α : Type} (step : String) (x : Op α) : Op α :=
  tryCatch x fun f => throw { f with steps := step :: f.steps }

/-- Fails when an ingress is outside the supported shape. -/
def ofShape {α : Type} : Except InvalidIngress α → Op α
  | .ok a => pure a
  | .error e => fail (.invalidIngress e)

end Op

/-- Replaces the plan for a kind of call. -/
def setPlan (faults : List (CallKind × FaultPlan)) (kind : CallKind) (plan : FaultPlan) :
    List (CallKind × FaultPlan) :=
  (kind, plan) :: faults.filter (·.1 != kind)

/-- The plan for a kind of call. -/
def planFor (faults : List (CallKind × FaultPlan)) (kind : CallKind) : FaultPlan :=
  (faults.lookup kind).getD {}

/-- Makes a call: logs it, fails it if a fault is planned, and otherwise does its work. -/
def call {α : Type} (kind : CallKind) (subject : String) (work : Op α) : Op α := do
  let w ← get
  let plan := planFor w.faults kind
  let entry := kind.name ++ " " ++ subject
  if 0 < plan.skip then
    set { w with faults := setPlan w.faults kind { plan with skip := plan.skip - 1 },
                 calls := w.calls ++ [entry] }
    work
  else if 0 < plan.times then
    set { w with faults := setPlan w.faults kind { plan with times := plan.times - 1 },
                 calls := w.calls ++ [entry ++ " (injected failure)"] }
    Op.fail (.injected kind)
  else
    set { w with calls := w.calls ++ [entry] }
    work

/-- Changes the cluster. -/
def modifyCluster (f : Cluster → Cluster) : Op Unit :=
  modify fun w => { w with cluster := f w.cluster }

/-! ## Cluster calls -/

/-- Reads an ingress. -/
def getIngress (k : ObjectKey) : Op Ingress :=
  call .getIngress k.text do
    match (← get).cluster.ingresses.get? k with
    | some ing => pure ing
    | none => Op.fail (.ingressNotFound k)

/-- Replaces an existing ingress. -/
def updateIngress (ing : Ingress) : Op Unit :=
  let k := ing.metadata.key
  call .updateIngress k.text do
    if (← get).cluster.ingresses.contains k then
      modifyCluster fun c => { c with ingresses := c.ingresses.put k ing,
                                      writes.ingresses := c.writes.ingresses + 1 }
    else Op.fail (.ingressNotFound k)

/-- Reads the settings named like an ingress. -/
def getIngressAuth (k : ObjectKey) : Op (Option IngressAuthSpec) :=
  call .getIngressAuth k.text do return (← get).cluster.ingressAuths.get? k

/-- Reads a Secret. -/
def getSecret (k : ObjectKey) : Op (Option Secret) :=
  call .getSecret k.text do return (← get).cluster.secrets.get? k

/-- Stores a Secret. -/
def ensureSecret (s : Secret) : Op Unit :=
  let k := s.metadata.key
  call .ensureSecret k.text do
    modifyCluster fun c => { c with secrets := c.secrets.put k s,
                                    writes.secrets := c.writes.secrets + 1 }

/-- Removes a Secret. -/
def deleteSecret (k : ObjectKey) : Op Unit :=
  call .deleteSecret k.text do
    modifyCluster fun c => { c with secrets := c.secrets.erase k,
                                    writes.secrets := c.writes.secrets + 1 }

/-- Stores a Deployment. -/
def ensureDeployment (d : Deployment) : Op Unit :=
  let k := d.metadata.key
  call .ensureDeployment k.text do
    modifyCluster fun c => { c with deployments := c.deployments.put k d,
                                    writes.deployments := c.writes.deployments + 1 }

/-- Removes a Deployment. -/
def deleteDeployment (k : ObjectKey) : Op Unit :=
  call .deleteDeployment k.text do
    modifyCluster fun c => { c with deployments := c.deployments.erase k,
                                    writes.deployments := c.writes.deployments + 1 }

/-- Stores a Service. -/
def ensureService (s : Service) : Op Unit :=
  let k := s.metadata.key
  call .ensureService k.text do
    modifyCluster fun c => { c with services := c.services.put k s,
                                    writes.services := c.writes.services + 1 }

/-- Removes a Service. -/
def deleteService (k : ObjectKey) : Op Unit :=
  call .deleteService k.text do
    modifyCluster fun c => { c with services := c.services.erase k,
                                    writes.services := c.writes.services + 1 }

/-! ## Backends and routes -/

/-- Looks up an auth backend by id. -/
def getAuthBackend (id : String) : Op AuthBackend :=
  call .getAuthBackend id do
    match (← get).backends.lookup id with
    | some spec => pure { id, dex := spec.dex.map fun d => ⟨d.apiAddress, d.publicUrl⟩ }
    | none => Op.fail (.backendNotFound id)

/-- The text naming a service and port in route lookups: `namespace/name:port`. -/
def ServiceRef.routeKey (s : ServiceRef) : String :=
  s.ns ++ "/" ++ s.name ++ ":" ++ s.portText

/-- Where a service is reached. -/
def routeService (s : ServiceRef) : Op Route :=
  call .routeService s.routeKey do
    match (← get).routes.lookup s.routeKey with
    | some r => pure r
    | none => Op.fail (.noRoute s.routeKey)

/-! ## Dex -/

/-- The Dex server at an address; an address never touched has an empty one. -/
def World.dexAt (w : World) (address : String) : DexServer :=
  (w.dex.lookup address).getD {}

/-- Replaces the Dex server at an address, keeping the order addresses were first touched. -/
def World.setDex (w : World) (address : String) (server : DexServer) : World :=
  if w.dex.any (·.1 == address) then
    { w with dex := w.dex.map fun p => if p.1 == address then (address, server) else p }
  else { w with dex := w.dex ++ [(address, server)] }

/-- Opens a connection to the Dex API at an address, which must give a well-formed URI. -/
def dexConnect (address : String) : Op Unit :=
  call .dexConnect address do
    match checkAddress address with
    | .error e => Op.fail (.badDexAddress address e)
    | .ok () =>
      modify fun w =>
        let server := w.dexAt address
        w.setDex address { server with connects := server.connects + 1 }

/-- Creates a client at a Dex server; an existing id is left as it is. -/
def dexCreateClient (address : String) (client : Client) : Op CreateClientResp :=
  call .dexCreateClient (address ++ " " ++ client.id) do
    let w ← get
    let server := w.dexAt address
    if server.clients.any (·.1 == client.id) then
      return { alreadyExists := true }
    else
      set (w.setDex address { server with clients := server.clients ++ [(client.id, client)] })
      return { client := some client }

/-- Deletes a client at a Dex server. -/
def dexDeleteClient (address : String) (id : String) : Op DeleteClientResp :=
  call .dexDeleteClient (address ++ " " ++ id) do
    let w ← get
    let server := w.dexAt address
    let present := server.clients.any (·.1 == id)
    set (w.setDex address { server with clients := server.clients.filter (·.1 != id) })
    return { notFound := !present }

end IngressGuard
