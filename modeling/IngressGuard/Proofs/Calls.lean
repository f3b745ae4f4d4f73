import IngressGuard.Proofs.Logic

/-!
# What each call does

One triple for each call into the world, in the weakest form: a call that goes through does its
work on the world after the call is logged, and the triple asks for exactly what that work needs.
The writes are named (`World.withIngress`, `World.withoutSecret`, ...) so that later statements
can say which object a saga changed. Reads never change the world, and no call but a write to a
store or to a Dex server changes what the invariants of the controller look at.
-/

namespace IngressGuard

open IngressGuard.Kube IngressGuard.Auth IngressGuard.Dex

namespace World

/-- The world with an ingress stored at its own key, counted as a write. -/
def withIngress (w : World) (ing : Ingress) : World :=
  { w with cluster := { w.cluster with
      ingresses := w.cluster.ingresses.put ing.metadata.key ing
      writes.ingresses := w.cluster.writes.ingresses + 1 } }

/-- The world with a Secret stored at its own key, counted as a write. -/
def withSecret (w : World) (s : Secret) : World :=
  { w with cluster := { w.cluster with
      secrets := w.cluster.secrets.put s.metadata.key s
      writes.secrets := w.cluster.writes.secrets + 1 } }

/-- The world without the Secret at a key, counted as a write. -/
def withoutSecret (w : World) (k : ObjectKey) : World :=
  { w with cluster := { w.cluster with
      secrets := w.cluster.secrets.erase k
      writes.secrets := w.cluster.writes.secrets + 1 } }

/-- The world with a Deployment stored at its own key, counted as a write. -/
def withDeployment (w : World) (d : Deployment) : World :=
  { w with cluster := { w.cluster with
      deployments := w.cluster.deployments.put d.metadata.key d
      writes.deployments := w.cluster.writes.deployments + 1 } }

/-- The world without the Deployment at a key, counted as a write. -/
def withoutDeployment (w : World) (k : ObjectKey) : World :=
  { w with cluster := { w.cluster with
      deployments := w.cluster.deployments.erase k
      writes.deployments := w.cluster.writes.deployments + 1 } }

/-- The world with a Service stored at its own key, counted as a write. -/
def withService (w : World) (s : Service) : World :=
  { w with cluster := { w.cluster with
      services := w.cluster.services.put s.metadata.key s
      writes.services := w.cluster.writes.services + 1 } }

/-- The world without the Service at a key, counted as a write. -/
def withoutService (w : World) (k : ObjectKey) : World :=
  { w with cluster := { w.cluster with
      services := w.cluster.services.erase k
      writes.services := w.cluster.writes.services + 1 } }

/-- The world after one more connection to the Dex server at an address. -/
def withConnect (w : World) (address : String) : World :=
  w.setDex address { w.dexAt address with connects := (w.dexAt address).connects + 1 }

/-- The world holding a connection to the Dex API at an address. -/
def withConnected (w : World) (address : String) : World :=
  { w with connected := w.connected ++ [address] }

/-- The world with a client added to the Dex server at an address. -/
def withClient (w : World) (address : String) (client : Client) : World :=
  w.setDex address { w.dexAt address with
    clients := (w.dexAt address).clients ++ [(client.id, client)] }

/-- The world without the clients of an id at the Dex server at an address. -/
def withoutClient (w : World) (address : String) (id : String) : World :=
  w.setDex address { w.dexAt address with
    clients := (w.dexAt address).clients.filter (·.1 != id) }

/-- Whether the Dex server at an address holds a client of an id. -/
def holdsClient (w : World) (address : String) (id : String) : Bool :=
  (w.dexAt address).clients.any (·.1 == id)

@[simp] theorem calls_withIngress (w : World) (ing : Ingress) : (w.withIngress ing).calls = w.calls :=
  rfl

@[simp] theorem calls_setDex (w : World) (address : String) (server : DexServer) :
    (w.setDex address server).calls = w.calls := by
  unfold setDex
  split <;> rfl

@[simp] theorem calls_withConnect (w : World) (address : String) :
    (w.withConnect address).calls = w.calls :=
  calls_setDex _ _ _

@[simp] theorem calls_withConnected (w : World) (address : String) :
    (w.withConnected address).calls = w.calls :=
  rfl

@[simp] theorem calls_withClient (w : World) (address : String) (client : Client) :
    (w.withClient address client).calls = w.calls :=
  calls_setDex _ _ _

@[simp] theorem calls_withoutClient (w : World) (address id : String) :
    (w.withoutClient address id).calls = w.calls :=
  calls_setDex _ _ _

end World

section Leaves

variable {α : Type} {pre err : World → Prop}

theorem modifyCluster_triple {f : Cluster → Cluster} {kind : CallKind} {subject : String}
    {post : Unit → World → Prop} (hcall : CallFine pre err kind subject)
    (hok : ∀ w, pre w → post () { w with cluster := f w.cluster }) :
    Triple pre (call kind subject (modifyCluster f)) post err :=
  Triple.call (Triple.modify hok) hcall

theorem getIngress_triple {k : ObjectKey} {post : Ingress → World → Prop}
    (hcall : CallFine pre err .getIngress k.text)
    (hfound : ∀ w ing, pre w → w.cluster.ingresses.get? k = some ing → post ing w)
    (hmissing : ∀ w, pre w → w.cluster.ingresses.get? k = none → err w) :
    Triple pre (getIngress k) post err := by
  refine Triple.call ?_ hcall
  intro w hw
  rw [exec_bind, exec_get]
  dsimp only
  cases h : w.cluster.ingresses.get? k with
  | none => exact hmissing w hw h
  | some ing => exact hfound w ing hw h

theorem updateIngress_triple {ing : Ingress} {post : Unit → World → Prop}
    (hcall : CallFine pre err .updateIngress ing.metadata.key.text)
    (hok : ∀ w, pre w → w.cluster.ingresses.contains ing.metadata.key → post () (w.withIngress ing))
    (hmissing : ∀ w, pre w → w.cluster.ingresses.contains ing.metadata.key = false → err w) :
    Triple pre (updateIngress ing) post err := by
  refine Triple.call ?_ hcall
  intro w hw
  rw [exec_bind, exec_get]
  dsimp only
  cases h : w.cluster.ingresses.contains ing.metadata.key with
  | false => exact hmissing w hw h
  | true => exact hok w hw h

theorem getIngressAuth_triple {k : ObjectKey} {post : Option IngressAuthSpec → World → Prop}
    (hcall : CallFine pre err .getIngressAuth k.text)
    (hok : ∀ w, pre w → post (w.cluster.ingressAuths.get? k) w) :
    Triple pre (getIngressAuth k) post err :=
  Triple.call (fun w hw => hok w hw) hcall

theorem getSecret_triple {k : ObjectKey} {post : Option Secret → World → Prop}
    (hcall : CallFine pre err .getSecret k.text)
    (hok : ∀ w, pre w → post (w.cluster.secrets.get? k) w) :
    Triple pre (getSecret k) post err :=
  Triple.call (fun w hw => hok w hw) hcall

theorem ensureSecret_triple {s : Secret} {post : Unit → World → Prop}
    (hcall : CallFine pre err .ensureSecret s.metadata.key.text)
    (hok : ∀ w, pre w → post () (w.withSecret s)) :
    Triple pre (ensureSecret s) post err :=
  modifyCluster_triple hcall hok

theorem deleteSecret_triple {k : ObjectKey} {post : Unit → World → Prop}
    (hcall : CallFine pre err .deleteSecret k.text)
    (hok : ∀ w, pre w → post () (w.withoutSecret k)) :
    Triple pre (deleteSecret k) post err :=
  modifyCluster_triple hcall hok

theorem ensureDeployment_triple {d : Deployment} {post : Unit → World → Prop}
    (hcall : CallFine pre err .ensureDeployment d.metadata.key.text)
    (hok : ∀ w, pre w → post () (w.withDeployment d)) :
    Triple pre (ensureDeployment d) post err :=
  modifyCluster_triple hcall hok

theorem deleteDeployment_triple {k : ObjectKey} {post : Unit → World → Prop}
    (hcall : CallFine pre err .deleteDeployment k.text)
    (hok : ∀ w, pre w → post () (w.withoutDeployment k)) :
    Triple pre (deleteDeployment k) post err :=
  modifyCluster_triple hcall hok

theorem ensureService_triple {s : Service} {post : Unit → World → Prop}
    (hcall : CallFine pre err .ensureService s.metadata.key.text)
    (hok : ∀ w, pre w → post () (w.withService s)) :
    Triple pre (ensureService s) post err :=
  modifyCluster_triple hcall hok

theorem deleteService_triple {k : ObjectKey} {post : Unit → World → Prop}
    (hcall : CallFine pre err .deleteService k.text)
    (hok : ∀ w, pre w → post () (w.withoutService k)) :
    Triple pre (deleteService k) post err :=
  modifyCluster_triple hcall hok

theorem getAuthBackend_triple {id : String} {post : AuthBackend → World → Prop}
    (hcall : CallFine pre err .getAuthBackend id)
    (hfound : ∀ w spec, pre w → w.backends.lookup id = some spec →
      post { id, dex := spec.dex.map fun d => ⟨d.apiAddress, d.publicUrl⟩ } w)
    (hmissing : ∀ w, pre w → w.backends.lookup id = none → err w) :
    Triple pre (getAuthBackend id) post err := by
  refine Triple.call ?_ hcall
  intro w hw
  rw [exec_bind, exec_get]
  dsimp only
  cases h : w.backends.lookup id with
  | none => exact hmissing w hw h
  | some spec => exact hfound w spec hw h

theorem routeService_triple {s : ServiceRef} {post : Route → World → Prop}
    (hcall : CallFine pre err .routeService s.routeKey)
    (hfound : ∀ w r, pre w → w.routes.lookup s.routeKey = some r → post r w)
    (hmissing : ∀ w, pre w → w.routes.lookup s.routeKey = none → err w) :
    Triple pre (routeService s) post err := by
  refine Triple.call ?_ hcall
  intro w hw
  rw [exec_bind, exec_get]
  dsimp only
  cases h : w.routes.lookup s.routeKey with
  | none => exact hmissing w hw h
  | some r => exact hfound w r hw h

theorem dexConnect_triple {address : String} {post : Unit → World → Prop}
    (hcall : CallFine pre err .dexConnect address)
    (hok : ∀ w, pre w → checkAddress address = .ok () → post () (w.withConnect address))
    (hbad : ∀ w, pre w → (∃ e, checkAddress address = .error e) → err w) :
    Triple pre (dexConnect address) post err := by
  refine Triple.call ?_ hcall
  intro w hw
  cases h : checkAddress address with
  | error e => exact hbad w hw ⟨e, h⟩
  | ok u => exact hok w hw h

theorem dexCreateClient_triple {address : String} {client : Client}
    {post : CreateClientResp → World → Prop}
    (hcall : CallFine pre err .dexCreateClient (address ++ " " ++ client.id))
    (hheld : ∀ w, pre w → w.holdsClient address client.id = true → post { alreadyExists := true } w)
    (hnew : ∀ w, pre w → w.holdsClient address client.id = false →
      post { client := some client } (w.withClient address client)) :
    Triple pre (dexCreateClient address client) post err := by
  refine Triple.call ?_ hcall
  intro w hw
  rw [exec_bind, exec_get]
  dsimp only
  cases h : w.holdsClient address client.id with
  | true =>
    have h' : (w.dexAt address).clients.any (·.1 == client.id) = true := h
    simp only [h', if_true]
    exact hheld w hw h
  | false =>
    have h' : (w.dexAt address).clients.any (·.1 == client.id) = false := h
    simp only [h', Bool.false_eq_true, if_false, exec_bind, exec_set]
    exact hnew w hw h

theorem dexDeleteClient_triple {address id : String} {post : DeleteClientResp → World → Prop}
    (hcall : CallFine pre err .dexDeleteClient (address ++ " " ++ id))
    (hok : ∀ w, pre w →
      post { notFound := !w.holdsClient address id } (w.withoutClient address id)) :
    Triple pre (dexDeleteClient address id) post err :=
  Triple.call (fun w hw => hok w hw) hcall

theorem freshSecret_triple {post : String → World → Prop}
    (hok : ∀ w, pre w → post (secretOf (w.draws w.secretsDrawn)) { w with secretsDrawn := w.secretsDrawn + 1 }) :
    Triple pre freshSecret post err :=
  fun w hw => hok w hw

end Leaves

/-! ## Calls when no fault is planned

With no planned fault every call goes through, so the cluster calls can be run outright: a read
of a stored ingress returns it, and an update of one stored under the key of the new ingress
writes it. -/

section Quiet

variable {α : Type} {w : World}

theorem exec_call_quiet (hq : w.Quiet) (kind : CallKind) (subject : String) (work : Op α) :
    exec (call kind subject work) w = exec work (w.passCall kind subject) := by
  rw [exec_call, if_neg (hq.not_blocked kind)]

theorem exec_getIngress_stored {k : ObjectKey} {ing : Ingress} (hq : w.Quiet)
    (hs : w.cluster.ingresses.get? k = some ing) :
    exec (getIngress k) w = (.ok ing, w.passCall .getIngress k.text) := by
  rw [getIngress, exec_call_quiet hq, exec_bind, exec_get]
  simp only [World.cluster_passCall, hs]
  rfl

theorem exec_updateIngress_stored {ing : Ingress} (hq : w.Quiet)
    (hc : w.cluster.ingresses.contains ing.metadata.key = true) :
    exec (updateIngress ing) w =
      (.ok (), (w.passCall .updateIngress ing.metadata.key.text).withIngress ing) := by
  rw [updateIngress, exec_call_quiet hq, exec_bind, exec_get]
  simp only [World.cluster_passCall, hc, if_true]
  rfl

end Quiet

end IngressGuard
