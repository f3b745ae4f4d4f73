import IngressGuard.Proofs.Fixpoint
import IngressGuard.Proofs.RollbackCleanup

/-!
# What a saga on an app writes, and what it reads

A saga on one app writes a few cells of the world: the app's ingress, its proxy objects, the
Secret of its client secret, the clients of the app at one Dex and the connections.
`World.SameOutside` says that two worlds agree everywhere else, and is kept by every write to
those cells. `World.SameOutside.sameObjects` turns it into `World.SameObjects`: two worlds that
agree outside the cells and hold the same thing in each cell hold the same objects.

A run is followed with a condition on its planned faults beside the condition on the world:
`True` for a run any fault may stop, `World.Quiet` for one no fault stops (`FineAbove`).

The reads at the start of a saga (the auth backend, the route of a service, the address of the
Dex) find what the surroundings hold, since no saga writes them. Nothing here is about one saga:
the stages of each saga are in `Securing` and `RollingBack`.
-/

namespace IngressGuard

open IngressGuard.Kube IngressGuard.Dex

namespace World

/-- The connections after connecting to the Dex at `a`, unless one is held. -/
def connectedWith (w : World) (a : String) : List String :=
  if w.connected.contains a then w.connected else w.connected ++ [a]

/-- The client secret registering the app `id` uses: the one stored, else the next one drawn. -/
def secretToUse (w : World) (id : String) : String :=
  (w.storedSecretOf id).getD (secretOf (w.draws w.secretsDrawn))

/-- The Secret of an app's client secret once it is registered with the secret `s`: the one there
when it holds a secret, else a new one holding `s`. -/
def secretWith (w : World) (app : OidcApp) (s : String) : Option Secret :=
  if (w.storedSecretOf app.id).isSome then w.cluster.secrets.get? (w.clientSecretKey app.id)
  else some (clientSecretObject w.home app s)

/-- The clients at the Dex at `a` once an app is registered there with the secret `s`: a client of
the app is added unless one is held. -/
def clientsWith (w : World) (a : String) (app : OidcApp) (s : String) : List (String × Client) :=
  if w.holdsClient a app.id then (w.dexAt a).clients
  else (w.dexAt a).clients ++ [(app.id, clientOf app s)]

/-- The world `v` agrees with `w` outside what an app's sagas write: the ingress at `k`, its
proxy objects, the Secret at `kS` and the clients of the Dex at `a`. The stream of draws is never
written. -/
structure SameOutside (v w : World) (k kS : ObjectKey) (a : String) : Prop where
  surroundings : v.SameSurroundings w
  ingresses : ∀ k', k' ≠ k → v.cluster.ingresses.get? k' = w.cluster.ingresses.get? k'
  secrets : ∀ k', k' ≠ kS → k' ≠ k.proxy → v.cluster.secrets.get? k' = w.cluster.secrets.get? k'
  deployments : ∀ k', k' ≠ k.proxy → v.cluster.deployments.get? k' = w.cluster.deployments.get? k'
  services : ∀ k', k' ≠ k.proxy → v.cluster.services.get? k' = w.cluster.services.get? k'
  clients : ∀ b, b ≠ a → (v.dexAt b).clients = (w.dexAt b).clients
  draws : v.draws = w.draws

namespace SameOutside

variable {v w : World} {k kS : ObjectKey} {a : String}

theorem refl (w : World) (k kS : ObjectKey) (a : String) : w.SameOutside w k kS a :=
  ⟨⟨rfl, rfl, rfl, rfl⟩, fun _ _ => rfl, fun _ _ _ => rfl, fun _ _ => rfl, fun _ _ => rfl,
    fun _ _ => rfl, rfl⟩

theorem calm : Calm fun v => v.SameOutside w k kS a :=
  fun _ _ _ => ⟨fun h => ⟨h.1, h.2, h.3, h.4, h.5, h.6, h.7⟩,
    fun h => ⟨h.1, h.2, h.3, h.4, h.5, h.6, h.7⟩⟩

theorem withIngress (h : v.SameOutside w k kS a) {ing : Ingress} (hk : ing.metadata.key = k) :
    (v.withIngress ing).SameOutside w k kS a :=
  { h with
    ingresses := fun k' hk' => by rw [get?_withIngress, if_neg (hk ▸ hk'), h.ingresses k' hk'] }

theorem withSecret (h : v.SameOutside w k kS a) {s : Secret}
    (hs : s.metadata.key = kS ∨ s.metadata.key = k.proxy) : (v.withSecret s).SameOutside w k kS a :=
  { h with
    secrets := fun k' h₁ h₂ => by
      have hne : k' ≠ s.metadata.key := by rcases hs with hs | hs <;> rw [hs] <;> assumption
      simp [World.withSecret, hne, h.secrets k' h₁ h₂] }

theorem withoutSecret (h : v.SameOutside w k kS a) {k'' : ObjectKey} (hs : k'' = kS ∨ k'' = k.proxy) :
    (v.withoutSecret k'').SameOutside w k kS a :=
  { h with
    secrets := fun k' h₁ h₂ => by
      have hne : k' ≠ k'' := by rcases hs with hs | hs <;> rw [hs] <;> assumption
      simp [World.withoutSecret, hne, h.secrets k' h₁ h₂] }

theorem withDeployment (h : v.SameOutside w k kS a) {d : Deployment}
    (hd : d.metadata.key = k.proxy) : (v.withDeployment d).SameOutside w k kS a :=
  { h with
    deployments := fun k' hk' => by
      simp [World.withDeployment, hd, hk', h.deployments k' hk'] }

theorem withoutDeployment (h : v.SameOutside w k kS a) :
    (v.withoutDeployment k.proxy).SameOutside w k kS a :=
  { h with
    deployments := fun k' hk' => by
      simp [World.withoutDeployment, hk', h.deployments k' hk'] }

theorem withService (h : v.SameOutside w k kS a) {s : Service} (hs : s.metadata.key = k.proxy) :
    (v.withService s).SameOutside w k kS a :=
  { h with
    services := fun k' hk' => by
      simp [World.withService, hs, hk', h.services k' hk'] }

theorem withoutService (h : v.SameOutside w k kS a) :
    (v.withoutService k.proxy).SameOutside w k kS a :=
  { h with
    services := fun k' hk' => by
      simp [World.withoutService, hk', h.services k' hk'] }

/-- Changing the Dex servers keeps the agreement outside when it keeps the clients of every
other Dex. -/
theorem withDex (h : v.SameOutside w k kS a) (d : List (String × DexServer))
    (hd : ∀ b, b ≠ a → ({ v with dex := d } : World).dexAt b = v.dexAt b) :
    ({ v with dex := d } : World).SameOutside w k kS a :=
  { h with clients := fun b hb => by rw [hd b hb, h.clients b hb] }

theorem withClient (h : v.SameOutside w k kS a) (c : Client) :
    (v.withClient a c).SameOutside w k kS a := by
  unfold World.withClient
  rw [World.setDex_eq]
  refine h.withDex _ fun b hb => ?_
  change (v.setDex a _).dexAt b = _
  rw [World.dexAt_setDex, if_neg hb]

theorem withoutClient (h : v.SameOutside w k kS a) (id : String) :
    (v.withoutClient a id).SameOutside w k kS a := by
  unfold World.withoutClient
  rw [World.setDex_eq]
  refine h.withDex _ fun b hb => ?_
  change (v.setDex a _).dexAt b = _
  rw [World.dexAt_setDex, if_neg hb]

theorem withConnect (h : v.SameOutside w k kS a) (b : String) :
    ((v.withConnect b).withConnected b).SameOutside w k kS a := by
  have hclients : ∀ b', b' ≠ a → ((v.withConnect b).dexAt b').clients = (w.dexAt b').clients :=
    fun b' hb' => by rw [clients_withConnect, h.clients b' hb']
  unfold World.withConnected
  unfold World.withConnect at hclients ⊢
  rw [World.setDex_eq] at hclients ⊢
  exact ⟨h.1, h.2, h.3, h.4, h.5, hclients, h.7⟩

theorem withDrawn (h : v.SameOutside w k kS a) (n : Nat) :
    ({ v with secretsDrawn := n } : World).SameOutside w k kS a :=
  ⟨h.1, h.2, h.3, h.4, h.5, h.6, h.7⟩

end SameOutside

end World

/-! ## Conditions carried along a run

A run from a world that already carries part of a saga's writes is followed with the condition
`G` on the planned faults alone: `True` for a run that any fault may stop, `World.Quiet` for one
that no fault stops. -/

/-- A condition that reads the planned faults only. -/
def OnFaults (G : World → Prop) : Prop :=
  ∀ v v', v'.faults = v.faults → G v → G v'

/-- Every calm condition stronger than `P` is fine with `G` beside it, failures ending in `err`. -/
def FineAbove (P G err : World → Prop) : Prop :=
  ∀ Q : World → Prop, Calm Q → (∀ v, Q v → P v) → Fine (fun v => Q v ∧ G v) err

theorem onFaults_true : OnFaults fun _ => True :=
  fun _ _ _ _ => trivial

theorem onFaults_quiet : OnFaults World.Quiet :=
  fun _ _ hf hq => by unfold World.Quiet; rw [hf]; exact hq

/-- With no condition on the faults, a failure keeps every condition stronger than `P`. -/
theorem FineAbove.keep {P : World → Prop} (hP : Calm P) : FineAbove P (fun _ => True) P :=
  fun _ hQ hQP => Fine.of_calm (hQ.and fun _ _ _ => Iff.rfl) (fun v hv => hQP v hv.1) hP

/-- With no fault planned, no call fails. -/
theorem FineAbove.quiet {P err : World → Prop} : FineAbove P World.Quiet err :=
  fun _ hQ _ => Fine.quiet hQ

/-! ## The cells an app's sagas write -/

namespace World

variable {v w : World} {a : String}

@[simp] theorem connected_setDex (w : World) (a : String) (s : DexServer) :
    (w.setDex a s).connected = w.connected := by
  unfold setDex; split <;> rfl
@[simp] theorem faults_setDex (w : World) (a : String) (s : DexServer) :
    (w.setDex a s).faults = w.faults := by
  unfold setDex; split <;> rfl

theorem contains_connectedWith (w : World) (a : String) : (w.connectedWith a).contains a = true := by
  unfold connectedWith
  split
  · assumption
  · simp

theorem connectedWith_of_contains (h : w.connected.contains a = true) :
    w.connectedWith a = w.connected := by
  unfold connectedWith
  rw [if_pos h]

/-- Opening a connection where none is held, from connections that are those of `w` or already
connect to `a`, leaves the connections of `w` connected to `a`. -/
theorem connected_withConnect (hc : v.connected = w.connected ∨ v.connected = w.connectedWith a)
    (hv : v.connected.contains a = false) :
    ((v.withConnect a).withConnected a).connected = w.connectedWith a := by
  have hw : v.connected = w.connected := hc.resolve_right fun h => by
    rw [h, contains_connectedWith] at hv
    cases hv
  unfold connectedWith
  rw [← hw, if_neg (by rw [hv]; exact Bool.false_ne_true)]
  simp [withConnected, withConnect]

theorem holdsClient_congr (h : (v.dexAt a).clients = (w.dexAt a).clients) (id : String) :
    v.holdsClient a id = w.holdsClient a id := by
  simp only [holdsClient, h]

/-- Once an app is registered, the Dex holds a client of it. -/
theorem holdsClient_of_clientsWith {app : OidcApp} {s : String}
    (h : (v.dexAt a).clients = w.clientsWith a app s) : v.holdsClient a app.id = true := by
  unfold clientsWith at h
  split at h
  · rwa [holdsClient_congr h]
  · simp [holdsClient, h]

theorem clientsWith_of_holds {app : OidcApp} {s : String} (h : w.holdsClient a app.id = true) :
    w.clientsWith a app s = (w.dexAt a).clients :=
  if_pos h

theorem clients_withClient (w : World) (a : String) (c : Client) :
    ((w.withClient a c).dexAt a).clients = (w.dexAt a).clients ++ [(c.id, c)] := by
  simp [withClient]

theorem clients_withoutClient (w : World) (a id : String) :
    ((w.withoutClient a id).dexAt a).clients = (w.dexAt a).clients.filter (·.1 != id) := by
  simp [withoutClient]

/-- Under the agreement, no Dex holds a client of an id whose secret is not stored. -/
theorem SecretsAgree.filter_clients (h : w.SecretsAgree) {id : String}
    (hn : w.storedSecretOf id = none) (a : String) :
    (w.dexAt a).clients.filter (·.1 != id) = (w.dexAt a).clients := by
  refine List.filter_eq_self.2 fun xc hmem => ?_
  obtain ⟨x, c⟩ := xc
  have hne : x ≠ id := fun e => by
    subst e
    rw [h a x c hmem] at hn
    cases hn
  simpa using hne

/-- Two worlds that agree outside an app's cells with worlds holding the same objects, and with
each other on the cells, hold the same objects. -/
theorem SameOutside.sameObjects {w₁ w₂ v₁ v₂ : World} {k kS : ObjectKey}
    (h₁ : v₁.SameOutside w₁ k kS a) (h₂ : v₂.SameOutside w₂ k kS a) (hw : w₁.SameObjects w₂)
    (hconnected : v₁.connected = v₂.connected)
    (hingress : v₁.cluster.ingresses.get? k = v₂.cluster.ingresses.get? k)
    (hsecret : v₁.cluster.secrets.get? kS = v₂.cluster.secrets.get? kS)
    (hproxy : v₁.cluster.secrets.get? k.proxy = v₂.cluster.secrets.get? k.proxy)
    (hdeployment : v₁.cluster.deployments.get? k.proxy = v₂.cluster.deployments.get? k.proxy)
    (hservice : v₁.cluster.services.get? k.proxy = v₂.cluster.services.get? k.proxy)
    (hclients : (v₁.dexAt a).clients = (v₂.dexAt a).clients) : v₁.SameObjects v₂ where
  surroundings := by
    obtain ⟨e₁, e₂, e₃, e₄⟩ := h₁.surroundings
    obtain ⟨f₁, f₂, f₃, f₄⟩ := h₂.surroundings
    obtain ⟨g₁, g₂, g₃, g₄⟩ := hw.surroundings
    exact ⟨e₁.trans (g₁.trans f₁.symm), e₂.trans (g₂.trans f₂.symm), e₃.trans (g₃.trans f₃.symm),
      e₄.trans (g₄.trans f₄.symm)⟩
  connected := hconnected
  ingresses k' := by
    by_cases hk : k' = k
    · rw [hk, hingress]
    · rw [h₁.ingresses k' hk, h₂.ingresses k' hk, hw.ingresses k']
  secrets k' := by
    by_cases hs : k' = kS
    · rw [hs, hsecret]
    by_cases hp : k' = k.proxy
    · rw [hp, hproxy]
    rw [h₁.secrets k' hs hp, h₂.secrets k' hs hp, hw.secrets k']
  deployments k' := by
    by_cases hp : k' = k.proxy
    · rw [hp, hdeployment]
    · rw [h₁.deployments k' hp, h₂.deployments k' hp, hw.deployments k']
  services k' := by
    by_cases hp : k' = k.proxy
    · rw [hp, hservice]
    · rw [h₁.services k' hp, h₂.services k' hp, hw.services k']
  clients b := by
    by_cases hb : b = a
    · rw [hb, hclients]
    · rw [h₁.clients b hb, h₂.clients b hb, hw.clients b]

/-- Drawing a secret changes no object. -/
theorem sameObjects_withDrawn (w : World) (n : Nat) :
    w.SameObjects { w with secretsDrawn := n } :=
  ⟨⟨rfl, rfl, rfl, rfl⟩, rfl, fun _ => rfl, fun _ => rfl, fun _ => rfl, fun _ => rfl, fun _ => rfl⟩

theorem secretToUse_withConnect (w : World) (a id : String) :
    ((w.withConnect a).withConnected a).secretToUse id = w.secretToUse id := by
  unfold withConnected withConnect
  rw [setDex_eq]
  rfl

@[simp] theorem secrets_withSecret_self (w : World) (o : Secret) :
    (w.withSecret o).cluster.secrets.get? o.metadata.key = some o := by
  simp [withSecret]

theorem secretToUse_of_stored {id t : String} (h : w.storedSecretOf id = some t) :
    w.secretToUse id = t := by
  rw [secretToUse, h, Option.getD_some]

theorem SameObjects.connectedWith {w₁ w₂ : World} (h : w₁.SameObjects w₂) (a : String) :
    w₁.connectedWith a = w₂.connectedWith a := by
  simp only [World.connectedWith, h.connected]

theorem SameObjects.secretWith {w₁ w₂ : World} (h : w₁.SameObjects w₂) (app : OidcApp) (s : String) :
    w₁.secretWith app s = w₂.secretWith app s := by
  simp only [World.secretWith, h.storedSecretOf, World.clientSecretKey, h.secrets, h.surroundings.1]

theorem SameObjects.clientsWith {w₁ w₂ : World} (h : w₁.SameObjects w₂) (a : String) (app : OidcApp)
    (s : String) : w₁.clientsWith a app s = w₂.clientsWith a app s := by
  simp only [World.clientsWith, h.holdsClient, h.clients]

theorem clientSecretKey_congr (h : v.home = w.home) (id : String) :
    v.clientSecretKey id = w.clientSecretKey id := by
  rw [clientSecretKey, clientSecretKey, h]

end World

/-! ## Reads that find what the surroundings hold -/

section Reads

variable {w : World} {Q G err : World → Prop}

theorem getAuthBackend_found {id : String} {dex : Auth.DexSpec}
    (hfine : Fine (fun v => Q v ∧ G v) err) (hsame : ∀ v, Q v → v.SameSurroundings w)
    (hb : ∃ spec, w.backends.lookup id = some spec ∧ spec.dex = some dex) :
    Triple (fun v => Q v ∧ G v) (getAuthBackend id)
      (fun backend v => (Q v ∧ G v) ∧ backend = ⟨id, some ⟨dex.apiAddress, dex.publicUrl⟩⟩) err := by
  obtain ⟨spec, hspec, hdex⟩ := hb
  refine getAuthBackend_triple (hfine _ _) (fun v spec' hv hl => ⟨hv, ?_⟩) (fun v hv hl => ?_)
  · rw [(hsame v hv.1).2.1, hspec] at hl
    cases hl
    rw [hdex]
    rfl
  · rw [(hsame v hv.1).2.1, hspec] at hl
    cases hl

theorem routeService_found {s : ServiceRef} {route : Route}
    (hfine : Fine (fun v => Q v ∧ G v) err) (hsame : ∀ v, Q v → v.SameSurroundings w)
    (hr : w.routes.lookup s.routeKey = some route) :
    Triple (fun v => Q v ∧ G v) (routeService s) (fun r v => (Q v ∧ G v) ∧ r = route) err := by
  refine routeService_triple (hfine _ _) (fun v r hv hl => ⟨hv, ?_⟩) (fun v hv hl => ?_)
  · rw [(hsame v hv.1).2.2.1, hr] at hl
    exact (Option.some.inj hl).symm
  · rw [(hsame v hv.1).2.2.1, hr] at hl
    cases hl

/-- The registerer of a Dex backend is its address, connected to from connections that are those
of `w` or already connect there, when `w` holds a connection there or the address is well formed. -/
theorem registererFor_found {id : String} {dex : Auth.DexSpec}
    (hfine : Fine (fun v => Q v ∧ G v) err) (hG : OnFaults G)
    (hreach : w.connected.contains dex.apiAddress = true ∨ checkAddress dex.apiAddress = .ok ())
    (hconn : ∀ v, Q v → v.connected = w.connected ∨ v.connected = w.connectedWith dex.apiAddress)
    (hconnect : ∀ v, Q v → v.connected.contains dex.apiAddress = false →
      Q ((v.withConnect dex.apiAddress).withConnected dex.apiAddress)) :
    Triple (fun v => Q v ∧ G v) (registererFor ⟨id, some ⟨dex.apiAddress, dex.publicUrl⟩⟩)
      (fun a v => ((Q v ∧ v.connected = w.connectedWith dex.apiAddress) ∧ G v) ∧
        a = dex.apiAddress) err := by
  refine registererFor_triple hfine ?unknown ?held ?connect ?bad
  case unknown => exact fun h => by cases h
  case held =>
    intro d hd v hv hc
    cases hd
    refine ⟨⟨⟨hv.1, ?_⟩, hv.2⟩, rfl⟩
    rcases hconn v hv.1 with h | h
    · rw [h] at hc ⊢
      exact (World.connectedWith_of_contains hc).symm
    · exact h
  case connect =>
    intro d hd v hv hc _
    cases hd
    exact ⟨⟨⟨hconnect v hv.1 hc, World.connected_withConnect (hconn v hv.1) hc⟩,
      hG v _ (by simp [World.withConnected, World.withConnect]) hv.2⟩, rfl⟩
  case bad =>
    -- the connections are those of `w`, which hold none there, so the address is well formed
    intro d hd v hv hc he
    cases hd
    obtain ⟨e, he⟩ := he
    have hw : v.connected = w.connected := (hconn v hv.1).resolve_right fun h => by
      rw [h, World.contains_connectedWith] at hc
      cases hc
    rw [hw] at hc
    rcases hreach with h | h
    · rw [hc] at h
      cases h
    · rw [h] at he
      cases he

/-- Pointing the path of an ingress at a target, from the ingress `y` or from `y` already pointed
there, leaves it pointed there. -/
theorem swapBackend_pointing {k : ObjectKey} {y : Ingress} {c t : ServiceBackend}
    {P : World → Prop} (hfine : Fine P err)
    (hstored : ∀ v, P v → v.cluster.ingresses.get? k = some y ∨
      v.cluster.ingresses.get? k = some (y.pointedAt c t))
    (hkey : y.metadata.key = k) (hc : y.serviceBackend = .ok c)
    (hwrite : ∀ v, P v → P (v.withIngress (y.pointedAt c t))) :
    Triple P (swapBackend k t)
      (fun _ v => P v ∧ v.cluster.ingresses.get? k = some (y.pointedAt c t)) err := by
  obtain ⟨c', hc', hl'⟩ := Ingress.serviceBackend_pointedAt hc t
  -- what is read is `y`, with the path `c`, or `y` pointed at the target, whose path leads there
  have hread : ∀ (v : World) (x : Ingress) (c'' : ServiceBackend),
      v.cluster.ingresses.get? k = some x → x.serviceBackend = .ok c'' → P v →
      (x = y ∧ c'' = c) ∨ (x = y.pointedAt c t ∧ leadsTo c'' t = true) := by
    intro v x c'' hx hs hv
    rcases hstored v hv with h | h <;> rw [hx, Option.some.injEq] at h <;> rw [h] at hs
    · exact Or.inl ⟨h, Except.ok.inj (hs.symm.trans hc)⟩
    · rw [hc', Except.ok.injEq] at hs
      exact Or.inr ⟨h, hs ▸ hl'⟩
  refine swapBackend_triple hfine (fun v hv h => ?_) (fun v x e hv hx hs => ?_)
    (fun v x c'' hv hx hs hl => ?_) (fun v x c'' hv hx hs hl _ => ?_) (fun v x hv hx hcon => ?_)
  · rcases hstored v hv with h' | h' <;> rw [h] at h' <;> cases h'
  · rcases hstored v hv with h' | h' <;> rw [hx, Option.some.injEq] at h' <;> rw [h'] at hs
    · rw [hc] at hs
      cases hs
    · rw [hc'] at hs
      cases hs
  · -- the path leads to the target already
    refine ⟨hv, ?_⟩
    rcases hread v x c'' hx hs hv with ⟨hxy, hcc⟩ | ⟨hxy, -⟩
    · rw [hx, hxy, Ingress.pointedAt, if_pos (hcc ▸ hl)]
    · rw [hx, hxy]
  · -- the path leads elsewhere: it is the path of `y`, now pointed at the target
    rcases hread v x c'' hx hs hv with ⟨hxy, hcc⟩ | ⟨-, hl''⟩
    · have hpointed : x.withBackend t = y.pointedAt c t := by
        rw [hxy, Ingress.pointedAt, if_neg (by rw [← hcc, hl]; exact Bool.false_ne_true)]
      rw [hpointed]
      refine ⟨hwrite v hv, ?_⟩
      rw [World.get?_withIngress, Ingress.metadata_pointedAt, hkey, if_pos rfl]
    · rw [hl] at hl''
      cases hl''
  · have hkey' : x.metadata.key = k := by
      rcases hstored v hv with h' | h' <;> rw [hx, Option.some.injEq] at h' <;> rw [h']
      · exact hkey
      · rw [Ingress.metadata_pointedAt, hkey]
    rw [hkey', Store.contains_eq_isSome, hx] at hcon
    cases hcon

end Reads

end IngressGuard
