import IngressGuard.Proofs.Decision

/-!
# What a step on one ingress writes

The app of the ingress at `k` owns a few cells of the world: the ingress at `k`, the proxy
objects at `k.proxy`, the Secret of its client secret and its clients, of id `k.text`, at every
Dex. `World.SameApp k v w` says that two worlds hold the same in those cells.

`w.Beyond k w₀` says that `w` agrees with `w₀` everywhere else: the surroundings, every
other ingress, Secret, Deployment and Service, the clients of every other id, and which Dex
addresses can be used (`World.Reaches`). A reconciliation of the ingress at `k` keeps it,
whatever ingress it is handed and whatever its calls do (`reconcile_beyond`): besides its own
cells it only opens connections to addresses that could be reached already, draws secrets and
logs calls. So a step on one ingress leaves the cells of every other app alone
(`World.Beyond.sameApp`).
-/

namespace IngressGuard

open IngressGuard.Kube IngressGuard.Dex

namespace World

/-- The clients of an id at the Dex at an address. -/
def clientsOf (w : World) (a id : String) : List (String × Client) :=
  (w.dexAt a).clients.filter (·.1 == id)

/-- A Dex API address can be used: a connection to it is held, or it is well formed, so that
one opens. -/
def Reaches (w : World) (a : String) : Prop :=
  w.connected.contains a = true ∨ checkAddress a = .ok ()

/-- `v` and `w` hold the same in the cells of the app at `k`. -/
structure SameApp (k : ObjectKey) (v w : World) : Prop where
  ingress : v.cluster.ingresses.get? k = w.cluster.ingresses.get? k
  proxySecret : v.cluster.secrets.get? k.proxy = w.cluster.secrets.get? k.proxy
  clientSecret :
    v.cluster.secrets.get? (v.clientSecretKey k.text) = w.cluster.secrets.get? (w.clientSecretKey k.text)
  deployment : v.cluster.deployments.get? k.proxy = w.cluster.deployments.get? k.proxy
  service : v.cluster.services.get? k.proxy = w.cluster.services.get? k.proxy
  clients : ∀ a, v.clientsOf a k.text = w.clientsOf a k.text

/-- `w` agrees with `w₀` outside the cells of the app at `k`, and keeps every ingress under its
own key. -/
structure Beyond (w : World) (k : ObjectKey) (w₀ : World) : Prop where
  surroundings : w.SameSurroundings w₀
  ingresses : ∀ k', k' ≠ k → w.cluster.ingresses.get? k' = w₀.cluster.ingresses.get? k'
  secrets : ∀ k', k' ≠ k.proxy → k' ≠ w₀.clientSecretKey k.text →
    w.cluster.secrets.get? k' = w₀.cluster.secrets.get? k'
  deployments : ∀ k', k' ≠ k.proxy → w.cluster.deployments.get? k' = w₀.cluster.deployments.get? k'
  services : ∀ k', k' ≠ k.proxy → w.cluster.services.get? k' = w₀.cluster.services.get? k'
  clients : ∀ a id, id ≠ k.text → w.clientsOf a id = w₀.clientsOf a id
  reaches : ∀ a, w.Reaches a ↔ w₀.Reaches a
  keyed : w.cluster.WellKeyed

/-! ## Clients and usable addresses under the writes -/

theorem clientsOf_setDex (w : World) (a b id : String) (s : DexServer) :
    (w.setDex a s).clientsOf b id =
      if b = a then s.clients.filter (·.1 == id) else w.clientsOf b id := by
  unfold clientsOf
  rw [dexAt_setDex]
  split <;> rfl

theorem clientsOf_withClient (w : World) (a b id : String) (c : Client) :
    (w.withClient a c).clientsOf b id =
      if b = a ∧ c.id = id then w.clientsOf b id ++ [(c.id, c)] else w.clientsOf b id := by
  unfold withClient
  rw [clientsOf_setDex]
  by_cases hb : b = a
  · subst hb
    by_cases hc : c.id = id <;> simp [clientsOf, hc]
  · simp [hb]

theorem clientsOf_withoutClient (w : World) (a b id id' : String) :
    (w.withoutClient a id').clientsOf b id =
      if b = a ∧ id' = id then [] else w.clientsOf b id := by
  unfold withoutClient
  rw [clientsOf_setDex]
  by_cases hb : b = a
  · subst hb
    by_cases hid : id' = id
    · subst hid
      simp only [and_self, if_true, List.filter_filter]
      exact List.filter_eq_nil_iff.2 fun p _ => by simp
    · simp only [clientsOf, hid, and_false, if_true, if_false, List.filter_filter]
      refine List.filter_congr fun p _ => ?_
      by_cases hp : p.1 = id
      · simp [hp, Ne.symm hid]
      · simp [hp]
  · simp [hb]

theorem clientsOf_withConnect (w : World) (a b id : String) :
    ((w.withConnect a).withConnected a).clientsOf b id = w.clientsOf b id := by
  unfold withConnected withConnect
  change (w.setDex a _).clientsOf b id = _
  rw [clientsOf_setDex]
  split
  · next hb => subst hb; rfl
  · rfl

/-- A Dex holds a client of an id when its clients of that id are not none. -/
theorem holdsClient_eq_not_isEmpty (w : World) (a id : String) :
    w.holdsClient a id = !(w.clientsOf a id).isEmpty := by
  rw [holdsClient, clientsOf, Bool.eq_iff_iff]
  simp [List.any_eq_true, List.filter_eq_nil_iff]

/-- Whether a Dex holds a client of an id depends on the clients of that id only. -/
theorem holdsClient_eq_of_clientsOf {v w : World} {a id : String}
    (h : v.clientsOf a id = w.clientsOf a id) : v.holdsClient a id = w.holdsClient a id := by
  rw [holdsClient_eq_not_isEmpty, holdsClient_eq_not_isEmpty, h]

/-- Connecting to a well-formed address changes which addresses can be used in no way. -/
theorem reaches_withConnect (w : World) {a : String} (ha : checkAddress a = .ok ()) (b : String) :
    ((w.withConnect a).withConnected a).Reaches b ↔ w.Reaches b := by
  unfold Reaches
  have hc : ((w.withConnect a).withConnected a).connected = w.connected ++ [a] := by
    unfold withConnected withConnect
    rw [setDex_eq]
  rw [hc]
  by_cases hb : b = a
  · subst hb
    simp [ha]
  · simp [hb]

theorem SameSurroundings.symm {v w : World} (h : v.SameSurroundings w) : w.SameSurroundings v :=
  ⟨h.1.symm, h.2.1.symm, h.2.2.1.symm, h.2.2.2.symm⟩

theorem SameSurroundings.trans {u v w : World} (h : u.SameSurroundings v)
    (h' : v.SameSurroundings w) : u.SameSurroundings w :=
  ⟨h.1.trans h'.1, h.2.1.trans h'.2.1, h.2.2.1.trans h'.2.2.1, h.2.2.2.trans h'.2.2.2⟩

namespace SameApp

variable {k : ObjectKey} {u v w : World}

theorem symm (h : v.SameApp k w) : w.SameApp k v :=
  ⟨h.1.symm, h.2.symm, h.3.symm, h.4.symm, h.5.symm, fun a => (h.6 a).symm⟩

theorem trans (h : u.SameApp k v) (h' : v.SameApp k w) : u.SameApp k w :=
  ⟨h.1.trans h'.1, h.2.trans h'.2, h.3.trans h'.3, h.4.trans h'.4, h.5.trans h'.5,
    fun a => (h.6 a).trans (h'.6 a)⟩

end SameApp

/-! ## Agreement outside the cells of an app -/

namespace Beyond

variable {k : ObjectKey} {w₀ w : World}

theorem refl (hw : w.cluster.WellKeyed) : w.Beyond k w :=
  ⟨⟨rfl, rfl, rfl, rfl⟩, fun _ _ => rfl, fun _ _ _ => rfl, fun _ _ => rfl, fun _ _ => rfl,
    fun _ _ _ => rfl, fun _ => Iff.rfl, hw⟩

theorem calm : Calm (·.Beyond k w₀) :=
  fun _ _ _ => ⟨fun h => ⟨h.1, h.2, h.3, h.4, h.5, h.6, h.7, h.8⟩,
    fun h => ⟨h.1, h.2, h.3, h.4, h.5, h.6, h.7, h.8⟩⟩

theorem home_eq (h : w.Beyond k w₀) : w.home = w₀.home :=
  h.surroundings.1

theorem clientSecretKey_eq (h : w.Beyond k w₀) (id : String) :
    w.clientSecretKey id = w₀.clientSecretKey id := by
  rw [clientSecretKey, clientSecretKey, h.home_eq]

/-- Writing an edit of the ingress stored at `k`, which keeps its key. -/
theorem withIngress (h : w.Beyond k w₀) {x y : Ingress} (hx : w.cluster.ingresses.get? k = some x)
    (hy : y.metadata.key = x.metadata.key) : (w.withIngress y).Beyond k w₀ := by
  have hkey : y.metadata.key = k := hy.trans (h.keyed k x hx)
  exact { h with
    ingresses := fun k' hk' => by rw [get?_withIngress, if_neg (hkey ▸ hk'), h.ingresses k' hk']
    keyed := wellKeyed_withIngress h.keyed y }

theorem withSecret (h : w.Beyond k w₀) {s : Secret}
    (hs : s.metadata.key = k.proxy ∨ s.metadata.key = w₀.clientSecretKey k.text) :
    (w.withSecret s).Beyond k w₀ :=
  { h with
    secrets := fun k' h₁ h₂ => by
      have hne : k' ≠ s.metadata.key := by rcases hs with hs | hs <;> rw [hs] <;> assumption
      simp [World.withSecret, hne, h.secrets k' h₁ h₂] }

theorem withoutSecret (h : w.Beyond k w₀) {k'' : ObjectKey}
    (hs : k'' = k.proxy ∨ k'' = w₀.clientSecretKey k.text) : (w.withoutSecret k'').Beyond k w₀ :=
  { h with
    secrets := fun k' h₁ h₂ => by
      have hne : k' ≠ k'' := by rcases hs with hs | hs <;> rw [hs] <;> assumption
      simp [World.withoutSecret, hne, h.secrets k' h₁ h₂] }

/-- Storing the Secret of the app's client secret. -/
theorem withClientSecret (h : w.Beyond k w₀) {app : OidcApp} (hid : app.id = k.text) (s : String) :
    (w.withSecret (clientSecretObject w.home app s)).Beyond k w₀ :=
  h.withSecret (.inr (by rw [key_clientSecretObject, h.home_eq, hid]; rfl))

/-- Removing the Secret of the app's client secret. -/
theorem withoutClientSecret (h : w.Beyond k w₀) {id : String} (hid : id = k.text) :
    (w.withoutSecret (w.clientSecretKey id)).Beyond k w₀ :=
  h.withoutSecret (.inr (by rw [clientSecretKey, h.home_eq, hid]; rfl))

theorem withDeployment (h : w.Beyond k w₀) {d : Deployment} (hd : d.metadata.key = k.proxy) :
    (w.withDeployment d).Beyond k w₀ :=
  { h with
    deployments := fun k' hk' => by
      simp [World.withDeployment, hd, hk', h.deployments k' hk'] }

theorem withoutDeployment (h : w.Beyond k w₀) : (w.withoutDeployment k.proxy).Beyond k w₀ :=
  { h with
    deployments := fun k' hk' => by
      simp [World.withoutDeployment, hk', h.deployments k' hk'] }

theorem withService (h : w.Beyond k w₀) {s : Service} (hs : s.metadata.key = k.proxy) :
    (w.withService s).Beyond k w₀ :=
  { h with
    services := fun k' hk' => by
      simp [World.withService, hs, hk', h.services k' hk'] }

theorem withoutService (h : w.Beyond k w₀) : (w.withoutService k.proxy).Beyond k w₀ :=
  { h with
    services := fun k' hk' => by
      simp [World.withoutService, hk', h.services k' hk'] }

/-- Changing the Dex servers keeps the agreement when it keeps the clients of every other id. -/
theorem withDex (h : w.Beyond k w₀) (d : List (String × DexServer))
    (hd : ∀ a id, id ≠ k.text → ({ w with dex := d } : World).clientsOf a id = w.clientsOf a id) :
    ({ w with dex := d } : World).Beyond k w₀ :=
  { h with clients := fun a id hid => by rw [hd a id hid, h.clients a id hid] }

theorem withClient (h : w.Beyond k w₀) (a : String) {c : Client} (hc : c.id = k.text) :
    (w.withClient a c).Beyond k w₀ := by
  have hd : ∀ b id, id ≠ k.text → (w.withClient a c).clientsOf b id = w.clientsOf b id :=
    fun b id hid => by
      rw [clientsOf_withClient, if_neg fun hb : b = a ∧ c.id = id => hid (hb.2 ▸ hc)]
  unfold World.withClient at hd ⊢
  rw [World.setDex_eq] at hd ⊢
  exact h.withDex _ hd

theorem withoutClient (h : w.Beyond k w₀) (a : String) {id : String} (hid : id = k.text) :
    (w.withoutClient a id).Beyond k w₀ := by
  have hd : ∀ b id', id' ≠ k.text → (w.withoutClient a id).clientsOf b id' = w.clientsOf b id' :=
    fun b id' hid' => by
      rw [clientsOf_withoutClient, if_neg fun hb : b = a ∧ id = id' => hid' (hb.2 ▸ hid)]
  unfold World.withoutClient at hd ⊢
  rw [World.setDex_eq] at hd ⊢
  exact h.withDex _ hd

/-- Connecting to a well-formed address. -/
theorem withConnect (h : w.Beyond k w₀) {a : String} (ha : checkAddress a = .ok ()) :
    ((w.withConnect a).withConnected a).Beyond k w₀ := by
  have hclients : ∀ b id, id ≠ k.text →
      ((w.withConnect a).withConnected a).clientsOf b id = w₀.clientsOf b id :=
    fun b id hid => by rw [clientsOf_withConnect, h.clients b id hid]
  have hreaches : ∀ b, ((w.withConnect a).withConnected a).Reaches b ↔ w₀.Reaches b :=
    fun b => (reaches_withConnect w ha b).trans (h.reaches b)
  unfold World.withConnected World.withConnect at hclients hreaches ⊢
  rw [World.setDex_eq] at hclients hreaches ⊢
  exact ⟨h.1, h.2, h.3, h.4, h.5, hclients, hreaches, h.8⟩

theorem withDrawn (h : w.Beyond k w₀) (n : Nat) : ({ w with secretsDrawn := n } : World).Beyond k w₀ :=
  ⟨h.1, h.2, h.3, h.4, h.5, h.6, h.7, h.8⟩

/-- Outside the cells of the app at `k` lie the cells of every app at another key whose client
secret has a Secret of another name. -/
theorem sameApp (h : w.Beyond k w₀) {k' : ObjectKey} (hk : k' ≠ k)
    (hnames : clientSecretName k'.text ≠ clientSecretName k.text) : w₀.SameApp k' w := by
  have hproxy : k'.proxy ≠ k.proxy := fun e => hk (by
    simp only [ObjectKey.proxy, ObjectKey.mk.injEq, proxyName_inj] at e
    cases k; cases k'
    simp_all)
  have hsecret : w₀.clientSecretKey k'.text ≠ w₀.clientSecretKey k.text :=
    fun e => hnames (congrArg ObjectKey.name e)
  refine ⟨(h.ingresses k' hk).symm, (h.secrets _ hproxy (clientSecretKey_ne_proxy _ _).symm).symm,
    ?_, (h.deployments _ hproxy).symm, (h.services _ hproxy).symm,
    fun a => (h.clients a _ fun e => hnames (congrArg clientSecretName e)).symm⟩
  rw [h.clientSecretKey_eq]
  exact (h.secrets _ (clientSecretKey_ne_proxy _ _) hsecret).symm

end Beyond

end World

/-! ## Every saga on the app keeps to its cells -/

section Sagas

variable {k : ObjectKey} {w₀ : World}

theorem ensureMarked_beyond :
    Triple (·.Beyond k w₀) (ensureMarked k) (fun _ => (·.Beyond k w₀)) (·.Beyond k w₀) :=
  ensureMarked_triple (Fine.keep World.Beyond.calm) (fun _ hw _ => hw) (fun _ _ hw _ _ => hw)
    (fun _ _ hw hx _ _ => hw.withIngress hx (Ingress.key_mark _)) (fun _ _ hw _ _ => hw)

theorem ensureUnmarked_beyond :
    Triple (·.Beyond k w₀) (ensureUnmarked k) (fun _ => (·.Beyond k w₀)) (·.Beyond k w₀) :=
  ensureUnmarked_triple (Fine.keep World.Beyond.calm) (fun _ hw _ => hw) (fun _ _ hw _ _ => hw)
    (fun _ _ hw hx _ _ => hw.withIngress hx (Ingress.key_unmark _)) (fun _ _ hw _ _ => hw)

theorem swapBackend_beyond {k' : ObjectKey} (hk : k' = k) (target : ServiceBackend) :
    Triple (·.Beyond k w₀) (swapBackend k' target) (fun _ => (·.Beyond k w₀)) (·.Beyond k w₀) := by
  subst hk
  exact swapBackend_triple (Fine.keep World.Beyond.calm) (fun _ hw _ => hw)
    (fun _ _ _ hw _ _ => hw) (fun _ _ _ hw _ _ _ => hw)
    (fun _ _ _ hw hx _ _ _ => hw.withIngress hx (by rw [Ingress.withBackend_metadata]))
    (fun _ _ hw _ _ => hw)

theorem backupOrGet_beyond {app : App} (hk : app.ingressKey = k) (data : BackupRecord) :
    Triple (·.Beyond k w₀) (backupOrGet app data) (fun _ => (·.Beyond k w₀)) (·.Beyond k w₀) := by
  subst hk
  exact backupOrGet_triple (Fine.keep World.Beyond.calm) (fun _ hw _ => hw)
    (fun _ _ _ _ hw _ _ _ => hw) (fun _ _ _ _ hw _ _ _ => hw)
    (fun _ _ hw hx _ _ => hw.withIngress hx (Ingress.key_annotated _ _ _)) (fun _ _ hw _ _ => hw)

theorem deleteBackup_beyond {app : App} (hk : app.ingressKey = k) :
    Triple (·.Beyond k w₀) (deleteBackup app) (fun _ => (·.Beyond k w₀)) (·.Beyond k w₀) := by
  subst hk
  exact deleteBackup_triple (Fine.keep World.Beyond.calm) (fun _ hw _ => hw)
    (fun _ _ hw _ _ => hw)
    (fun _ _ hw hx _ _ => hw.withIngress hx (Ingress.key_unannotated _ _)) (fun _ _ hw _ _ => hw)

/-- Only connections to well-formed addresses are opened. -/
theorem registererFor_beyond {backend : AuthBackend} :
    Triple (·.Beyond k w₀) (registererFor backend) (fun _ => (·.Beyond k w₀)) (·.Beyond k w₀) :=
  registererFor_triple (Fine.keep World.Beyond.calm) (fun _ _ hw => hw) (fun _ _ _ hw _ => hw)
    (fun _ _ _ hw _ ha => hw.withConnect ha) (fun _ _ _ hw _ _ => hw)

theorem register_beyond {address : String} {app : OidcApp} (hid : app.id = k.text) :
    Triple (·.Beyond k w₀) (register address app) (fun _ => (·.Beyond k w₀)) (·.Beyond k w₀) := by
  have hfine : Fine (·.Beyond k w₀) (·.Beyond k w₀) := Fine.keep World.Beyond.calm
  refine register_triple hfine (fun _ => hfine) (fun _ => hfine) ?reuse ?draw ?store ?delete ?held
    ?new
  case reuse => exact fun _ _ hw _ => hw
  case draw => exact fun _ hw _ => hw.withDrawn _
  -- every write is to a cell of the app: its client secret and its client at the Dex
  case store => exact fun _ s hw => hw.withClientSecret hid s
  case delete => exact fun _ _ hw => hw.withoutClient address hid
  case held => exact fun _ _ hw _ => hw
  case new => exact fun _ _ hw _ => hw.withClient address hid

theorem unregister_beyond {address id : String} (hid : id = k.text) :
    Triple (·.Beyond k w₀) (unregister address id) (fun _ => (·.Beyond k w₀)) (·.Beyond k w₀) :=
  unregister_keeps (Fine.keep World.Beyond.calm) (fun _ hw => hw.withoutClient address hid)
    (fun _ hw => hw.withoutClientSecret hid)

theorem provision_beyond {plan : ProxyPlan} (hk : plan.app.ingressKey = k) :
    Triple (·.Beyond k w₀) (provision plan) (fun _ => (·.Beyond k w₀)) (·.Beyond k w₀) := by
  subst hk
  exact provision_triple (Fine.keep World.Beyond.calm) (fun _ hw => hw.withSecret (.inl rfl))
    (fun _ hw => hw.withDeployment rfl) (fun _ hw => hw.withService rfl)
    ((swapBackend_beyond rfl _).mono (fun _ hw => hw.1) (fun _ _ h => h) (fun _ h => h))

theorem unprovision_beyond {removal : ProxyRemoval}
    (hk : (⟨removal.ingressNs, removal.ingressName⟩ : ObjectKey) = k) :
    Triple (·.Beyond k w₀) (unprovision removal) (fun _ => (·.Beyond k w₀)) (·.Beyond k w₀) := by
  subst hk
  exact unprovision_triple (swapBackend_beyond rfl _) (Fine.keep World.Beyond.calm)
    (fun _ hw => hw.withoutService) (fun _ hw => hw.withoutDeployment)
    (fun _ hw => hw.withoutSecret (.inl rfl))

theorem secureApp_beyond {app : App} (hk : app.ingressKey = k) (hid : app.id = k.text) :
    Triple (·.Beyond k w₀) (secureApp app) (fun _ => (·.Beyond k w₀)) (·.Beyond k w₀) := by
  have hfine : Fine (·.Beyond k w₀) (·.Beyond k w₀) := Fine.keep World.Beyond.calm
  unfold secureApp
  refine Triple.bind (Triple.within _ (getAuthBackend_keeps hfine fun _ hw => hw))
    fun backend => ?_
  refine Triple.bind (Triple.within _ registererFor_beyond) fun address => ?_
  refine Triple.bind (Triple.within _ (register_beyond hid)) fun credentials => ?_
  refine Triple.bind (Triple.within _ (backupOrGet_beyond hk _)) fun backup => ?_
  refine Triple.bind (Triple.within _ (routeService_keeps hfine fun _ hw => hw)) fun route => ?_
  exact Triple.within _ (provision_beyond hk)

theorem rollbackApp_beyond {app : App} (hk : app.ingressKey = k) (hid : app.id = k.text) :
    Triple (·.Beyond k w₀) (rollbackApp app) (fun _ => (·.Beyond k w₀)) (·.Beyond k w₀) := by
  have hfine : Fine (·.Beyond k w₀) (·.Beyond k w₀) := Fine.keep World.Beyond.calm
  unfold rollbackApp
  refine Triple.bind (Triple.within _ (getBackup_keeps hfine fun _ hw => hw)) fun backup => ?_
  cases backup with
  | none => exact Triple.fail fun _ hw => hw
  | some r =>
    refine Triple.bind (Triple.within _ (unprovision_beyond hk)) fun _ => ?_
    refine Triple.bind (Triple.within _ (getAuthBackend_keeps hfine fun _ hw => hw))
      fun backend => ?_
    refine Triple.bind (Triple.within _ registererFor_beyond) fun address => ?_
    refine Triple.bind (Triple.within _ (unregister_beyond hid)) fun _ => ?_
    exact Triple.within _ (deleteBackup_beyond hk)

/-- The app of an ingress sits at the ingress's key, under the key's text. -/
theorem appOf_beyond {ing : Ingress} (hv : ing.validate = .ok ()) :
    Triple (·.Beyond ing.metadata.key w₀) (appOf ing)
      (fun app w => w.Beyond ing.metadata.key w₀ ∧
        (app.ingressKey = ing.metadata.key ∧ app.id = ing.metadata.key.text))
      (·.Beyond ing.metadata.key w₀) :=
  appOf_valid (Fine.keep World.Beyond.calm) hv fun _ _ _ _ _ hw => ⟨hw, rfl, rfl⟩

/-- A reconciliation of an ingress keeps to the cells of its app, whatever ingress it is handed
and whatever its calls do. -/
theorem reconcile_beyond (ing : Ingress) :
    Triple (·.Beyond ing.metadata.key w₀) (reconcile ing) (fun _ => (·.Beyond ing.metadata.key w₀))
      (·.Beyond ing.metadata.key w₀) := by
  refine reconcile_triple ?ignored ?invalid ?clean ?mark ?secure ?rollback
  case ignored => exact fun _ _ _ hw => hw
  case invalid => exact fun _ _ _ hw => hw
  case clean => exact fun _ _ _ _ hw => hw
  case mark => exact fun _ _ _ _ => ensureMarked_beyond
  case secure =>
    intro hv _ _ _
    unfold secureBranch
    refine Triple.bind (appOf_beyond hv) fun app => ?_
    refine Triple.bind (Triple.assume fun happ => Triple.within _ (secureApp_beyond happ.1 happ.2))
      fun _ => ?_
    exact Triple.bind ensureMarked_beyond fun _ => Triple.pure fun _ hw => hw
  case rollback =>
    intro hv _ _ _
    unfold rollbackBranch
    refine Triple.bind (appOf_beyond hv) fun app => ?_
    refine Triple.bind (Triple.assume fun happ => Triple.within _ (rollbackApp_beyond happ.1 happ.2))
      fun _ => ?_
    exact Triple.bind ensureUnmarked_beyond fun _ => Triple.pure fun _ hw => hw

end Sagas

end IngressGuard
