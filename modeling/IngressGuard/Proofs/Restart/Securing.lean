import IngressGuard.Proofs.Restart.Outside

/-!
# Securing, from wherever a run of it stopped

`Securing.Ready` is what securing an app finds in the world it starts from when it can go
through: the backend of kind Dex, the ingress with a path of the supported shape, the record it
keeps and the route of the recorded service. `Securing.Partial` is every world a run of securing
from there leaves, wherever a failed call stopped it, and `Securing.Final` is where a run no
fault stops ends, with the client secret it registered.

`Securing.secureApp_securing` follows a run from any partial world, one stage per step, with the
faults as the condition beside it: a run that fails stays partial, and a run that returns is
final. `Securing.secureApp_ready` gives readiness from any run that returned. The client secret
is the one stored, or the next drawn where none is; `Securing.Partial.drawnFrom` says which draw.
-/

namespace IngressGuard

open IngressGuard.Kube IngressGuard.Dex

/-! ## Securing, from wherever a run of it stopped -/

/-- What securing an app finds in the world it starts from: its auth backend of kind Dex at `dex`,
the ingress `ing` stored for it with the path `cur`, the record it keeps and the route of the
recorded service. -/
structure Securing where
  app : App
  dex : Auth.DexSpec
  ing : Ingress
  cur : ServiceBackend
  record : BackupRecord
  route : Route

namespace Securing

/-- The client securing registers. -/
def oidc (p : Securing) : OidcApp :=
  { id := p.app.id, name := p.app.id, callbackUrl := p.app.callbackUrl }

/-- The proxy plan securing builds with the client secret `s`. -/
def plan (p : Securing) (s : String) : ProxyPlan :=
  (p.app.withRecord p.record).planWith p.dex.publicUrl s p.route

/-- The ingress securing leaves. -/
def secured (p : Securing) : Ingress :=
  p.ing.secured p.cur p.record

/-- What securing needs in the world it starts from to go through when no call fails. -/
structure Ready (p : Securing) (w : World) : Prop where
  backend : ∃ spec, w.backends.lookup p.app.authBackendId = some spec ∧ spec.dex = some p.dex
  reachable : w.connected.contains p.dex.apiAddress = true ∨ checkAddress p.dex.apiAddress = .ok ()
  stored : w.cluster.ingresses.get? p.app.ingressKey = some p.ing
  key : p.ing.metadata.key = p.app.ingressKey
  shape : p.ing.serviceBackend = .ok p.cur
  kept : p.ing.KeepsRecord p.app.currentRecord p.record
  routed : w.routes.lookup (p.app.recordRouteKey p.record) = some p.route

/-- What a run of securing from `w` has left in `v`, wherever it stopped: each cell it writes as in
`w` or as securing sets it. A client secret drawn and stored sits where `w` stored none, and a
client created holds the secret then stored. -/
structure Partial (p : Securing) (w v : World) : Prop where
  outside : v.SameOutside w p.app.ingressKey (w.clientSecretKey p.app.id) p.dex.apiAddress
  connected : v.connected = w.connected ∨ v.connected = w.connectedWith p.dex.apiAddress
  secret : v.cluster.secrets.get? (w.clientSecretKey p.app.id) =
      w.cluster.secrets.get? (w.clientSecretKey p.app.id) ∨
    w.storedSecretOf p.app.id = none ∧ ∃ m, v.cluster.secrets.get? (w.clientSecretKey p.app.id) =
      some (clientSecretObject w.home p.oidc (secretOf (w.draws m)))
  clients : (v.dexAt p.dex.apiAddress).clients = (w.dexAt p.dex.apiAddress).clients ∨
    ∃ t, v.storedSecretOf p.app.id = some t ∧
      (v.dexAt p.dex.apiAddress).clients = w.clientsWith p.dex.apiAddress p.oidc t
  ingress : v.cluster.ingresses.get? p.app.ingressKey = some p.ing ∨
    v.cluster.ingresses.get? p.app.ingressKey = some (p.ing.backedWith p.record) ∨
    v.cluster.ingresses.get? p.app.ingressKey = some p.secured

/-- A run of securing that will register the client secret `s`. -/
def Start (p : Securing) (w : World) (s : String) (v : World) : Prop :=
  p.Partial w v ∧ v.secretToUse p.app.id = s

/-- A run of securing connected to the Dex, that will register the client secret `s`. -/
def Connected (p : Securing) (w : World) (s : String) (v : World) : Prop :=
  p.Start w s v ∧ v.connected = w.connectedWith p.dex.apiAddress

/-- A run of securing that found no client secret stored, as it draws the secret `s`. -/
structure Drawing (p : Securing) (w : World) (s : String) (v : World) : Prop
    extends p.Partial w v where
  connectedTo : v.connected = w.connectedWith p.dex.apiAddress
  none : w.storedSecretOf p.app.id = none
  clientsKept : (v.dexAt p.dex.apiAddress).clients = (w.dexAt p.dex.apiAddress).clients
  drawn : ∃ m, s = secretOf (w.draws m)

/-- A run of securing with the client secret `s` stored, about to create the client. -/
structure SecretStored (p : Securing) (w : World) (s : String) (v : World) : Prop
    extends p.Partial w v where
  connectedTo : v.connected = w.connectedWith p.dex.apiAddress
  secretSet : v.cluster.secrets.get? (w.clientSecretKey p.app.id) = w.secretWith p.oidc s
  stored : v.storedSecretOf p.app.id = some s

/-- A run of securing once the app is registered with the client secret `s`. -/
structure Registered (p : Securing) (w : World) (s : String) (v : World) : Prop
    extends p.SecretStored w s v where
  clientsSet : (v.dexAt p.dex.apiAddress).clients = w.clientsWith p.dex.apiAddress p.oidc s

/-- The ingress carries the backup securing keeps. -/
def BackedUp (p : Securing) (v : World) : Prop :=
  v.cluster.ingresses.get? p.app.ingressKey = some (p.ing.backedWith p.record) ∨
    v.cluster.ingresses.get? p.app.ingressKey = some p.secured

/-- Where securing ends: registered with the client secret `s`, the ingress secured and the proxy
objects of the plan in place. -/
structure Final (p : Securing) (w : World) (s : String) (v : World) : Prop
    extends p.Registered w s v where
  securedAt : v.cluster.ingresses.get? p.app.ingressKey = some p.secured
  proxy : ProxyInPlace (p.plan s).objects v

variable {p : Securing} {w v : World} {s : String}

theorem calm_partial : Calm (p.Partial w) := fun v faults calls =>
  ⟨fun h => { h with outside := (World.SameOutside.calm v faults calls).1 h.outside },
    fun h => { h with outside := (World.SameOutside.calm v faults calls).2 h.outside }⟩

theorem calm_start : Calm (p.Start w s) :=
  calm_partial.and fun _ _ _ => Iff.rfl

theorem calm_connected : Calm (p.Connected w s) :=
  calm_start.and fun _ _ _ => Iff.rfl

theorem calm_drawing : Calm (p.Drawing w s) := fun v faults calls =>
  ⟨fun h => { h with toPartial := (calm_partial v faults calls).1 h.toPartial },
    fun h => { h with toPartial := (calm_partial v faults calls).2 h.toPartial }⟩

theorem calm_secretStored : Calm (p.SecretStored w s) := fun v faults calls =>
  ⟨fun h => { h with toPartial := (calm_partial v faults calls).1 h.toPartial },
    fun h => { h with toPartial := (calm_partial v faults calls).2 h.toPartial }⟩

theorem calm_registered : Calm (p.Registered w s) := fun v faults calls =>
  ⟨fun h => { h with toSecretStored := (calm_secretStored v faults calls).1 h.toSecretStored },
    fun h => { h with toSecretStored := (calm_secretStored v faults calls).2 h.toSecretStored }⟩


@[simp] theorem id_oidc (p : Securing) : p.oidc.id = p.app.id := rfl

theorem key_secretObject (p : Securing) (w : World) (s : String) :
    (clientSecretObject w.home p.oidc s).metadata.key = w.clientSecretKey p.app.id := rfl

/-! ### What a run of securing sees, and how each write moves it on -/

theorem Ready.partial (h : p.Ready w) : p.Partial w w where
  outside := World.SameOutside.refl w _ _ _
  connected := Or.inl rfl
  secret := Or.inl rfl
  clients := Or.inl rfl
  ingress := Or.inl h.stored

/-- Securing leaves the path pointed at the proxy of the app's ingress. -/
theorem Ready.secured_eq (h : p.Ready w) :
    p.secured = (p.ing.backedWith p.record).pointedAt p.cur (proxyBackend p.app.ingress.name) := by
  rw [secured, Ingress.secured, h.key]
  rfl

/-- Each ingress a run of securing leaves is stored under the app's key. -/
theorem Ready.key_of (h : p.Ready w) {x : Ingress}
    (hx : x = p.ing ∨ x = p.ing.backedWith p.record ∨ x = p.secured) :
    x.metadata.key = p.app.ingressKey := by
  rcases hx with rfl | rfl | rfl
  · exact h.key
  · rw [Ingress.key_backedWith, h.key]
  · rw [secured, Ingress.key_secured, h.key]

/-- Each backup a run of securing leaves on the ingress reads as the record kept. -/
theorem Ready.backup_reads (h : p.Ready w) {x : Ingress} {text : String}
    (hx : x = p.ing ∨ x = p.ing.backedWith p.record ∨ x = p.secured)
    (ht : x.annotationValue? backupAnnotationKey = some text) : BackupRecord.ofText text = .ok p.record := by
  obtain ⟨text', ht', hr⟩ := h.kept.backedWith
  rcases hx with rfl | rfl | rfl
  · exact h.kept.read ht
  · rw [ht'] at ht
    cases ht
    exact hr
  · rw [secured, Ingress.secured, Ingress.annotationValue?_pointedAt, ht'] at ht
    cases ht
    exact hr

/-- Once the backup is written it stays on the ingress. -/
theorem Ready.backup_of_backedUp (h : p.Ready w) {x : Ingress}
    (hx : x = p.ing.backedWith p.record ∨ x = p.secured) :
    (x.annotationValue? backupAnnotationKey).isSome := by
  obtain ⟨text, ht, -⟩ := h.kept.backedWith
  rcases hx with rfl | rfl
  · rw [ht]
    rfl
  · rw [secured, Ingress.secured, Ingress.annotationValue?_pointedAt, ht]
    rfl

theorem Partial.homes (h : p.Partial w v) : v.home = w.home :=
  h.outside.surroundings.1

theorem Partial.storedSecretOf_eq (h : p.Partial w v) :
    v.storedSecretOf p.app.id = storedClientSecret (v.cluster.secrets.get? (w.clientSecretKey p.app.id)) := by
  rw [World.storedSecretOf, World.clientSecretKey_congr h.homes]

theorem Partial.cases (h : p.Partial w v) {x : Ingress}
    (hx : v.cluster.ingresses.get? p.app.ingressKey = some x) :
    x = p.ing ∨ x = p.ing.backedWith p.record ∨ x = p.secured := by
  rcases h.ingress with h' | h' | h' <;> rw [hx, Option.some.injEq] at h'
  · exact Or.inl h'
  · exact Or.inr (Or.inl h')
  · exact Or.inr (Or.inr h')

theorem Partial.found (h : p.Partial w v) :
    ∃ x, v.cluster.ingresses.get? p.app.ingressKey = some x ∧
      (x = p.ing ∨ x = p.ing.backedWith p.record ∨ x = p.secured) := by
  rcases h.ingress with h' | h' | h'
  · exact ⟨_, h', Or.inl rfl⟩
  · exact ⟨_, h', Or.inr (Or.inl rfl)⟩
  · exact ⟨_, h', Or.inr (Or.inr rfl)⟩

/-- What a run of securing leaves stored for the app: what `w` stored, or a drawn secret where
`w` stored none. -/
theorem Partial.storedSecret (h : p.Partial w v) :
    v.storedSecretOf p.app.id = w.storedSecretOf p.app.id ∨
      (w.storedSecretOf p.app.id = none ∧
        ∃ m, v.storedSecretOf p.app.id = some (secretOf (w.draws m))) := by
  rcases h.secret with hcell | ⟨hwn, m, hcell⟩
  · left
    rw [h.storedSecretOf_eq, hcell]
    rfl
  · refine Or.inr ⟨hwn, m, ?_⟩
    rw [h.storedSecretOf_eq, hcell, storedClientSecret_secretOf w.home p.oidc _]

/-- Where a run of securing left a secret stored, the cell holds what securing sets there: the
Secret of `w`, or one drawn where `w` stored none. -/
theorem Partial.secretSet (h : p.Partial w v) {t : String}
    (ht : v.storedSecretOf p.app.id = some t) :
    v.cluster.secrets.get? (w.clientSecretKey p.app.id) = w.secretWith p.oidc t := by
  rcases h.secret with hcell | ⟨hwn, m, hcell⟩
  · have hw : w.storedSecretOf p.app.id = some t := by
      rw [← ht, h.storedSecretOf_eq, hcell]
      rfl
    rw [hcell, World.secretWith, id_oidc, hw]
    rfl
  · have htm : t = secretOf (w.draws m) := by
      rw [h.storedSecretOf_eq, hcell, storedClientSecret_secretOf w.home p.oidc _] at ht
      exact (Option.some.inj ht).symm
    rw [hcell, World.secretWith, id_oidc, hwn, htm]
    rfl

theorem Partial.withConnect (h : p.Partial w v) (hc : v.connected.contains p.dex.apiAddress = false) :
    p.Partial w ((v.withConnect p.dex.apiAddress).withConnected p.dex.apiAddress) where
  outside := h.outside.withConnect _
  connected := Or.inr (World.connected_withConnect h.connected hc)
  secret := by simpa using h.secret
  clients := by simpa [World.storedSecretOf, World.clientSecretKey] using h.clients
  ingress := by simpa using h.ingress

theorem Start.withConnect (h : p.Start w s v) (hc : v.connected.contains p.dex.apiAddress = false) :
    p.Start w s ((v.withConnect p.dex.apiAddress).withConnected p.dex.apiAddress) :=
  ⟨h.1.withConnect hc, by rw [World.secretToUse_withConnect]; exact h.2⟩

/-- With no secret stored, the secret to use is the next one drawn; drawing it keeps the run. -/
theorem Connected.drawing (h : p.Connected w s v) (hn : v.storedSecretOf p.app.id = none) :
    secretOf (v.draws v.secretsDrawn) = s ∧
      p.Drawing w s { v with secretsDrawn := v.secretsDrawn + 1 } := by
  obtain ⟨⟨hp, hs⟩, hc⟩ := h
  have hdrawn : secretOf (v.draws v.secretsDrawn) = s := by
    rw [← hs, World.secretToUse, hn, Option.getD_none]
  -- the cell holds what `w` holds, since a drawn secret stored would be read
  have hwn : w.storedSecretOf p.app.id = none := by
    rcases hp.secret with hcell | ⟨hwn, -⟩
    · rw [← hn, World.storedSecretOf, World.storedSecretOf, World.clientSecretKey_congr hp.homes, hcell]
    · exact hwn
  have hkept : (v.dexAt p.dex.apiAddress).clients = (w.dexAt p.dex.apiAddress).clients := by
    rcases hp.clients with hcl | ⟨t, ht, -⟩
    · exact hcl
    · rw [hn] at ht
      cases ht
  exact ⟨hdrawn, { hp with
    outside := hp.outside.withDrawn _
    connectedTo := hc
    none := hwn
    clientsKept := hkept
    drawn := ⟨v.secretsDrawn, by rw [← hp.outside.draws, hdrawn]⟩ }⟩

/-- Storing the drawn secret, in the Secret where `w` stores none. -/
theorem Drawing.withSecret (h : p.Drawing w s v) :
    p.SecretStored w s (v.withSecret (clientSecretObject w.home p.oidc s)) := by
  obtain ⟨m, hm⟩ := h.drawn
  have hcell : (v.withSecret (clientSecretObject w.home p.oidc s)).cluster.secrets.get?
      (w.clientSecretKey p.app.id) = some (clientSecretObject w.home p.oidc s) := by
    rw [← key_secretObject p w s]
    exact World.secrets_withSecret_self v _
  have hstored : (v.withSecret (clientSecretObject w.home p.oidc s)).storedSecretOf p.app.id =
      some s := by
    have hdrawn := @World.storedSecretOf_withDrawn v p.oidc (w.draws m)
    rw [h.homes, ← hm] at hdrawn
    exact hdrawn
  exact { h with
    outside := h.outside.withSecret (Or.inl (key_secretObject p w _))
    secret := Or.inr ⟨h.none, m, by rw [hcell, hm]⟩
    clients := Or.inl h.clientsKept
    secretSet := by rw [hcell, World.secretWith, id_oidc, h.none]; rfl
    stored := hstored }

/-- Deleting the clients of the app at the Dex, where `w` holds none. -/
theorem SecretStored.withoutClient (h : p.SecretStored w s v)
    (hkept : ((v.withoutClient p.dex.apiAddress p.app.id).dexAt p.dex.apiAddress).clients =
      (w.dexAt p.dex.apiAddress).clients) :
    p.SecretStored w s (v.withoutClient p.dex.apiAddress p.app.id) := by
  have hout := h.outside.withoutClient p.app.id
  unfold World.withoutClient at hout hkept ⊢
  rw [World.setDex_eq] at hout hkept ⊢
  exact { h with outside := hout, clients := Or.inl hkept }

/-- Dex holds a client of the app: registering is done. -/
theorem SecretStored.held (h : p.SecretStored w s v)
    (hheld : v.holdsClient p.dex.apiAddress p.app.id = true) : p.Registered w s v := by
  refine { h with clientsSet := ?_ }
  rcases h.clients with hcl | ⟨t, ht, hcl⟩
  · rw [hcl, World.clientsWith_of_holds (by rw [id_oidc, ← World.holdsClient_congr hcl]; exact hheld)]
  · rw [h.stored] at ht
    cases ht
    exact hcl

/-- Dex holds no client of the app: the one created holds the stored secret. -/
theorem SecretStored.withClient (h : p.SecretStored w s v)
    (hnew : v.holdsClient p.dex.apiAddress p.app.id = false) :
    p.Registered w s (v.withClient p.dex.apiAddress (clientOf p.oidc s)) := by
  have hset : ((v.withClient p.dex.apiAddress (clientOf p.oidc s)).dexAt p.dex.apiAddress).clients =
      w.clientsWith p.dex.apiAddress p.oidc s := by
    rw [World.clients_withClient]
    rcases h.clients with hcl | ⟨t, -, hcl⟩
    · have hw : w.holdsClient p.dex.apiAddress p.oidc.id = false := by
        rw [id_oidc, ← World.holdsClient_congr hcl]
        exact hnew
      rw [hcl, World.clientsWith, if_neg (by rw [hw]; exact Bool.false_ne_true)]
      rfl
    · have hheld := World.holdsClient_of_clientsWith hcl
      rw [id_oidc, hnew] at hheld
      cases hheld
  have hout := h.outside.withClient (clientOf p.oidc s)
  unfold World.withClient at hout hset ⊢
  rw [World.setDex_eq] at hout hset ⊢
  exact { h with outside := hout, clients := Or.inr ⟨s, h.stored, hset⟩, clientsSet := hset }

/-- Writing the ingress as securing leaves it. -/
theorem Registered.withIngress (h : p.Registered w s v) (hready : p.Ready w) {x : Ingress}
    (hx : x = p.ing.backedWith p.record ∨ x = p.secured) : p.Registered w s (v.withIngress x) := by
  have hkey := hready.key_of (Or.inr hx)
  refine { h with outside := h.outside.withIngress hkey, ingress := ?_ }
  rw [World.get?_withIngress, if_pos hkey.symm]
  rcases hx with rfl | rfl
  · exact Or.inr (Or.inl rfl)
  · exact Or.inr (Or.inr rfl)

/-- Writing the proxy Secret, which is not the Secret of the client secret. -/
theorem Registered.withProxySecret (h : p.Registered w s v) {o : Secret}
    (ho : o.metadata.key = p.app.ingressKey.proxy) : p.Registered w s (v.withSecret o) := by
  have hcell : (v.withSecret o).cluster.secrets.get? (w.clientSecretKey p.app.id) =
      v.cluster.secrets.get? (w.clientSecretKey p.app.id) := by
    simp [World.withSecret, ho, World.clientSecretKey_ne_proxy]
  have hstored : (v.withSecret o).storedSecretOf p.app.id = v.storedSecretOf p.app.id := by
    rw [World.storedSecretOf_withSecret, if_neg (by rw [ho]; exact World.clientSecretKey_ne_proxy _ _)]
  exact { h with
    outside := h.outside.withSecret (Or.inr ho)
    secret := by rw [hcell]; exact h.secret
    clients := by rw [hstored]; exact h.clients
    secretSet := by rw [hcell]; exact h.secretSet
    stored := by rw [hstored]; exact h.stored }

theorem Registered.withProxyDeployment (h : p.Registered w s v) {d : Deployment}
    (hd : d.metadata.key = p.app.ingressKey.proxy) : p.Registered w s (v.withDeployment d) :=
  { h with outside := h.outside.withDeployment hd }

theorem Registered.withProxyService (h : p.Registered w s v) {o : Service}
    (ho : o.metadata.key = p.app.ingressKey.proxy) : p.Registered w s (v.withService o) :=
  { h with outside := h.outside.withService ho }

/-! ### The steps of securing

Each step is followed with the condition `G` on the planned faults beside the stage it starts
from, failing into `err` (`FineAbove`): `G = True` and `err` the partial securing for a run that
faults may stop, `G = World.Quiet` for a run that no fault stops. -/

section Steps

variable {G err : World → Prop}

/-- Registering from a run of securing: a stored secret is reused; otherwise, with none stored
where `w` stored none, one is drawn and stored, the clients of the app go (there are none), and
the client is created holding it. -/
theorem register_securing (hagree : w.SecretsAgree) (hfine : FineAbove (p.Partial w) G err)
    (hG : OnFaults G) :
    Triple (fun v => p.Connected w s v ∧ G v) (register p.dex.apiAddress p.oidc)
      (fun reg v => (p.Registered w s v ∧ G v) ∧ reg = ⟨p.app.id, s⟩) err := by
  unfold register
  refine Triple.get_bind fun u => (Triple.assume fun hu => ?_).mono
    (fun v hv => ⟨hv.1, by rw [← hv.2]; exact hv.1.1.1.1.homes⟩) (fun _ _ h => h) (fun _ h => h)
  have hkey : (⟨u.home, clientSecretName p.oidc.id⟩ : ObjectKey) = w.clientSecretKey p.app.id := by
    rw [hu]
    rfl
  have hgot : Triple (fun v => p.Connected w s v ∧ G v)
      (getSecret ⟨u.home, clientSecretName p.oidc.id⟩)
      (fun stored v => (p.Connected w s v ∧ G v) ∧
        storedClientSecret stored = v.storedSecretOf p.app.id) err :=
    getSecret_triple (hfine _ calm_connected (fun _ h => h.1.1) _ _) fun v hv => ⟨hv, by
      rw [hkey, hv.1.1.1.storedSecretOf_eq]⟩
  -- Dex holds the client once it is created, whatever it held before
  have hcreate : ∀ c, Triple (fun v => p.SecretStored w c v ∧ G v)
      (do
        let _ ← Op.within "could not create Dex client"
          (dexCreateClient p.dex.apiAddress (clientOf p.oidc c))
        pure ({ clientId := p.oidc.id, clientSecret := c } : Registration))
      (fun reg v => (p.Registered w c v ∧ G v) ∧ reg = ⟨p.app.id, c⟩) err := fun c =>
    Triple.bind (Triple.within _ (dexCreateClient_triple
        (hfine _ calm_secretStored (fun _ h => h.toPartial) _ _)
        (fun v hv hheld => ⟨hv.1.held hheld, hv.2⟩)
        (fun v hv hnew => ⟨hv.1.withClient hnew, hG v _ (by simp [World.withClient]) hv.2⟩)))
      fun _ => Triple.pure fun _ hv => ⟨hv, rfl⟩
  refine Triple.bind (Triple.within _ hgot) fun stored => ?_
  cases hs : storedClientSecret stored with
  | some t =>
    -- the stored secret is the one to use
    have hreuse : Triple (fun v => (p.Connected w s v ∧ G v) ∧ some t = v.storedSecretOf p.app.id)
        (pure t) (fun c v => (p.SecretStored w s v ∧ G v) ∧ c = s) err :=
      Triple.pure fun v hv => by
        obtain ⟨⟨⟨⟨hp, hto⟩, hc⟩, hg⟩, hst⟩ := hv
        have hts : t = s := by rw [← hto, World.secretToUse_of_stored hst.symm]
        rw [hts] at hst
        have hstored : p.SecretStored w s v :=
          { hp with connectedTo := hc, secretSet := hp.secretSet hst.symm, stored := hst.symm }
        exact ⟨⟨hstored, hg⟩, hts⟩
    exact Triple.bind hreuse fun c => Triple.assume fun hc => by
      subst hc
      exact hcreate c
  | none =>
    -- no secret is stored: `s` is the next one drawn
    have hdraw : Triple (fun v => (p.Connected w s v ∧ G v) ∧ none = v.storedSecretOf p.app.id)
        freshSecret (fun c v => (p.Drawing w s v ∧ G v) ∧ c = s) err :=
      freshSecret_triple fun v hv => by
        obtain ⟨⟨hv, hg⟩, hst⟩ := hv
        obtain ⟨hdrawn, hd⟩ := hv.drawing hst.symm
        exact ⟨⟨hd, hG v _ rfl hg⟩, hdrawn⟩
    refine Triple.bind hdraw fun c => Triple.assume fun hc => ?_
    subst hc
    have hstore : Triple (fun v => p.Drawing w c v ∧ G v)
        (ensureSecret (clientSecretObject u.home p.oidc c))
        (fun _ v => (p.SecretStored w c v ∧ w.storedSecretOf p.app.id = none ∧
          (v.dexAt p.dex.apiAddress).clients = (w.dexAt p.dex.apiAddress).clients) ∧ G v) err :=
      ensureSecret_triple (hfine _ calm_drawing (fun _ h => h.toPartial) _ _) fun v hv => by
        rw [hu]
        exact ⟨⟨hv.1.withSecret, hv.1.none, hv.1.clientsKept⟩, hG v _ rfl hv.2⟩
    -- Dex holds no client of the app, so deleting its clients changes none
    have hdelete : Triple (fun v => (p.SecretStored w c v ∧ w.storedSecretOf p.app.id = none ∧
          (v.dexAt p.dex.apiAddress).clients = (w.dexAt p.dex.apiAddress).clients) ∧ G v)
        (dexDeleteClient p.dex.apiAddress p.oidc.id) (fun _ v => p.SecretStored w c v ∧ G v) err :=
      dexDeleteClient_triple
        (hfine _ (calm_secretStored.and fun _ _ _ => Iff.rfl) (fun _ h => h.1.toPartial) _ _)
        fun v hv => by
          obtain ⟨⟨hv, hwn, hcl⟩, hg⟩ := hv
          have hkept : ((v.withoutClient p.dex.apiAddress p.app.id).dexAt p.dex.apiAddress).clients =
              (w.dexAt p.dex.apiAddress).clients := by
            rw [World.clients_withoutClient, hcl, hagree.filter_clients hwn]
          exact ⟨hv.withoutClient hkept, hG _ _ (by simp [World.withoutClient]) hg⟩
    have hsecret : Triple (fun v => p.SecretStored w c v ∧ G v) (pure c)
        (fun a v => (p.SecretStored w c v ∧ G v) ∧ a = c) err :=
      Triple.pure fun _ hv => ⟨hv, rfl⟩
    exact Triple.bind (Triple.within _ hstore) fun _ =>
      Triple.bind (Triple.within _ hdelete) fun _ => Triple.bind hsecret fun a =>
        Triple.assume fun ha => by
          subst ha
          exact hcreate a

/-- Storing the backup from a run of securing: a backup already there reads as the record kept,
and otherwise the ingress is the one first found, which carries none, and the record written is
the one offered. -/
theorem backupOrGet_securing (hready : p.Ready w) (hfine : FineAbove (p.Partial w) G err)
    (hG : OnFaults G) :
    Triple (fun v => p.Registered w s v ∧ G v) (backupOrGet p.app p.app.currentRecord)
      (fun b v => ((p.Registered w s v ∧ p.BackedUp v) ∧ G v) ∧ b = p.record) err := by
  refine backupOrGet_triple (hfine _ calm_registered (fun _ h => h.toPartial))
    (fun v hv h => ?_) (fun v x text r hv hx ht hr => ?_) (fun v x text e hv hx ht he => ?_)
    (fun v x hv hx hnone _ => ?_) (fun v x hv hx hc => ?_)
  · obtain ⟨x, hx, -⟩ := hv.1.found
    rw [h] at hx
    cases hx
  · have hx' := hv.1.cases hx
    rw [hready.backup_reads hx' ht] at hr
    cases hr
    refine ⟨⟨⟨hv.1, ?_⟩, hv.2⟩, rfl⟩
    rw [BackedUp, hx]
    rcases hx' with rfl | rfl | rfl
    · rw [Ingress.backedWith, ht]
      exact Or.inl rfl
    · exact Or.inl rfl
    · exact Or.inr rfl
  · rw [hready.backup_reads (hv.1.cases hx) ht] at he
    cases he
  · -- no backup: the ingress is the one first found
    have hing : x = p.ing := by
      rcases hv.1.cases hx with h | h | h
      · exact h
      all_goals
        have hsome := hready.backup_of_backedUp (x := x) (by rw [h]; simp)
        rw [hnone] at hsome
        cases hsome
    subst hing
    have hrec := hready.kept.offered hnone
    have hwritten : p.ing.annotated backupAnnotationKey p.app.currentRecord.toText =
        p.ing.backedWith p.record := by
      rw [Ingress.backedWith, hnone, hrec]
    rw [hwritten]
    refine ⟨⟨⟨hv.1.withIngress hready (Or.inl rfl), ?_⟩, hG v _ rfl hv.2⟩, hrec.symm⟩
    rw [BackedUp, World.get?_withIngress, if_pos (hready.key_of (Or.inr (Or.inl rfl))).symm]
    exact Or.inl rfl
  · have hkey := hready.key_of (hv.1.cases hx)
    rw [hkey, Store.contains_eq_isSome, hx] at hc
    cases hc

/-- The swap that ends provisioning: the path is pointed at the proxy unless it leads there. -/
theorem swap_securing (hready : p.Ready w) (hfine : FineAbove (p.Partial w) G err)
    (hG : OnFaults G) :
    Triple (fun v => (p.Registered w s v ∧ p.BackedUp v ∧ ProxyInPlace (p.plan s).objects v) ∧ G v)
      (swapBackend p.app.ingressKey (proxyBackend p.app.ingress.name))
      (fun _ v => p.Final w s v ∧ G v) err := by
  have hcalm : Calm fun v => p.Registered w s v ∧ p.BackedUp v ∧ ProxyInPlace (p.plan s).objects v :=
    calm_registered.and fun _ _ _ => Iff.rfl
  have hback : (p.ing.backedWith p.record).serviceBackend = .ok p.cur := by
    rw [Ingress.serviceBackend_backedWith, hready.shape]
  -- the ingress with its backup is swapped to the secured one, or was already
  have hswap := swapBackend_pointing (hfine _ hcalm fun _ h => h.1.toPartial)
    (fun v hv => by rw [← hready.secured_eq]; exact hv.1.2.1)
    (hready.key_of (Or.inr (Or.inl rfl))) hback fun v hv => by
      rw [← hready.secured_eq]
      refine ⟨⟨hv.1.1.withIngress hready (Or.inr rfl), Or.inr ?_, hv.1.2.2⟩, hG v _ rfl hv.2⟩
      rw [World.get?_withIngress, if_pos (hready.key_of (Or.inr (Or.inr rfl))).symm]
  refine hswap.mono (fun _ h => h) (fun _ v h => ⟨?_, h.1.2⟩) fun _ h => h
  refine { h.1.1.1 with securedAt := ?_, proxy := h.1.1.2.2 }
  rw [hready.secured_eq]
  exact h.2

/-- Provisioning from a run of securing with the backup kept: the proxy objects of the plan are
written, and the path is pointed at the proxy. -/
theorem provision_securing (hready : p.Ready w) (hfine : FineAbove (p.Partial w) G err)
    (hG : OnFaults G) :
    Triple (fun v => (p.Registered w s v ∧ p.BackedUp v) ∧ G v) (provision (p.plan s))
      (fun _ v => p.Final w s v ∧ G v) err :=
  provision_triple (hfine _ (calm_registered.and fun _ _ _ => Iff.rfl) fun _ h => h.1.toPartial)
    (fun v hv => ⟨⟨hv.1.1.withProxySecret (secret_key_objects _), hv.1.2⟩, hG v _ rfl hv.2⟩)
    (fun v hv => ⟨⟨hv.1.1.withProxyDeployment (deployment_key_objects _), hv.1.2⟩, hG v _ rfl hv.2⟩)
    (fun v hv => ⟨⟨hv.1.1.withProxyService (service_key_objects _), hv.1.2⟩, hG v _ rfl hv.2⟩)
    ((swap_securing hready hfine hG).mono (fun _ hv => ⟨⟨hv.1.1.1, hv.1.1.2, hv.2⟩, hv.1.2⟩)
      (fun _ _ h => h) (fun _ h => h))

/-- Securing from a partial securing, with `s` the client secret it will register, ends secured. -/
theorem secureApp_securing (hready : p.Ready w) (hagree : w.SecretsAgree)
    (hfine : FineAbove (p.Partial w) G err) (hG : OnFaults G) :
    Triple (fun v => p.Start w s v ∧ G v) (secureApp p.app) (fun _ v => p.Final w s v ∧ G v) err := by
  unfold secureApp
  refine Triple.bind (Triple.within _ (getAuthBackend_found
    (hfine _ calm_start fun _ h => h.1) (fun _ h => h.1.outside.surroundings) hready.backend))
    fun backend => Triple.assume fun hb => ?_
  subst hb
  refine Triple.bind (Triple.within _ (registererFor_found (hfine _ calm_start fun _ h => h.1) hG
    hready.reachable (fun _ h => h.1.connected) fun _ h hc => h.withConnect hc))
    fun a => Triple.assume fun ha => ?_
  subst ha
  refine Triple.bind (Triple.within _ (register_securing hagree hfine hG)) fun credentials =>
    Triple.assume fun hc => ?_
  subst hc
  refine Triple.bind (Triple.within _ (backupOrGet_securing hready hfine hG)) fun backup =>
    Triple.assume fun hb => ?_
  subst hb
  refine Triple.bind (Triple.within _ (routeService_found
    (hfine _ (calm_registered.and fun _ _ _ => Iff.rfl) fun _ h => h.1.toPartial)
    (fun _ h => h.1.outside.surroundings) hready.routed)) fun route => Triple.assume fun hr => ?_
  subst hr
  exact Triple.within _ (provision_securing hready hfine hG)

end Steps

/-! ### Where securing ends -/

theorem key_plan_secret (p : Securing) (s : String) :
    (p.plan s).objects.secret.metadata.key = p.app.ingressKey.proxy := rfl
theorem key_plan_deployment (p : Securing) (s : String) :
    (p.plan s).objects.deployment.metadata.key = p.app.ingressKey.proxy := rfl
theorem key_plan_service (p : Securing) (s : String) :
    (p.plan s).objects.service.metadata.key = p.app.ingressKey.proxy := rfl

/-- Securing with one client secret ends in the same objects from worlds holding the same
objects. -/
theorem Final.sameObjects {w₁ w₂ v₁ v₂ : World} (h₁ : p.Final w₁ s v₁) (h₂ : p.Final w₂ s v₂)
    (hw : w₁.SameObjects w₂) : v₁.SameObjects v₂ := by
  have hkey : w₂.clientSecretKey p.app.id = w₁.clientSecretKey p.app.id :=
    World.clientSecretKey_congr hw.surroundings.1.symm _
  have hout₂ := h₂.outside
  have hset₂ := h₂.secretSet
  rw [hkey] at hout₂ hset₂
  refine h₁.outside.sameObjects hout₂ hw ?_ ?_ ?_ ?_ ?_ ?_ ?_
  · rw [h₁.connectedTo, h₂.connectedTo, hw.connectedWith]
  · rw [h₁.securedAt, h₂.securedAt]
  · rw [h₁.secretSet, hset₂, hw.secretWith]
  · rw [← key_plan_secret p s, h₁.proxy.1, h₂.proxy.1]
  · rw [← key_plan_deployment p s, h₁.proxy.2.1, h₂.proxy.2.1]
  · rw [← key_plan_service p s, h₁.proxy.2.2, h₂.proxy.2.2]
  · rw [h₁.clientsSet, h₂.clientsSet, hw.clientsWith]

/-- The client secret a run of securing will register is the one an uninterrupted run registers
after some number of draws: the secret stored, or the one drawn when none is. -/
theorem Partial.drawnFrom (h : p.Partial w v) :
    ∃ n, ({ w with secretsDrawn := n } : World).secretToUse p.app.id = v.secretToUse p.app.id := by
  rcases h.storedSecret with hstored | ⟨hwn, m, hstored⟩
  · refine ⟨v.secretsDrawn, ?_⟩
    show (w.storedSecretOf p.app.id).getD (secretOf (w.draws v.secretsDrawn)) = _
    rw [World.secretToUse, hstored, h.outside.draws]
  · refine ⟨m, ?_⟩
    show (w.storedSecretOf p.app.id).getD (secretOf (w.draws m)) = _
    rw [hwn, Option.getD_none, World.secretToUse_of_stored hstored]

/-- A run of securing from a world that stores a client secret for the app registers that
secret. -/
theorem Partial.secretToUse_of_stored (h : p.Partial w v) {t : String}
    (ht : w.storedSecretOf p.app.id = some t) : v.secretToUse p.app.id = t := by
  rcases h.storedSecret with hstored | ⟨hwn, -⟩
  · rw [World.secretToUse_of_stored (hstored.trans ht)]
  · rw [ht] at hwn
    cases hwn

theorem Ready.withDrawn (h : p.Ready w) (n : Nat) : p.Ready { w with secretsDrawn := n } :=
  ⟨h.1, h.2, h.3, h.4, h.5, h.6, h.7⟩

theorem Start.of_ready (h : p.Ready w) (faults : List (CallKind × FaultPlan)) :
    p.Start w (w.secretToUse p.app.id) { w with faults } :=
  ⟨(calm_partial w faults w.calls).2 h.partial, rfl⟩

/-- A run of securing that fails, whatever faults it met, leaves a partial securing. -/
theorem Ready.stops (h : p.Ready w) (hagree : w.SecretsAgree) {faults : List (CallKind × FaultPlan)}
    {e : Failure} {v : World} (hx : exec (secureApp p.app) { w with faults } = (.error e, v)) :
    p.Partial w v :=
  (secureApp_securing h hagree (FineAbove.keep calm_partial) onFaults_true).fails
    ⟨Start.of_ready h faults, trivial⟩ hx

/-- From a partial securing, a run that no fault fails returns, having secured the app with the
client secret it was to register. -/
theorem Ready.finishes (h : p.Ready w) (hagree : w.SecretsAgree) (hv : p.Partial w v)
    (hq : v.Quiet) :
    ∃ v', exec (secureApp p.app) v = (.ok (), v') ∧ p.Final w (v.secretToUse p.app.id) v' := by
  obtain ⟨_, v', hx, hfinal, -⟩ :=
    (secureApp_securing h hagree FineAbove.quiet onFaults_quiet).exec_ok ⟨⟨hv, rfl⟩, hq⟩
  exact ⟨v', hx, hfinal⟩

/-- A run of securing that returns, whatever faults it met, found in the world it started from
everything securing needs: the backend of kind Dex, a connection or a well-formed address, the
ingress stored under its key with a path of the supported shape, a readable backup or none, and
the route of the recorded service. -/
theorem secureApp_ready {app : App} (hkeyed : w.cluster.WellKeyed) :
    Triple (fun v => v.SameSurroundings w ∧ v.connected = w.connected ∧
        v.cluster.ingresses = w.cluster.ingresses) (secureApp app)
      (fun _ _ => ∃ p : Securing, p.app = app ∧ p.Ready w) (fun _ => True) := by
  have hP₀ : Calm fun v => v.SameSurroundings w ∧ v.connected = w.connected ∧
      v.cluster.ingresses = w.cluster.ingresses := fun _ _ _ => Iff.rfl
  have hP₁ : Calm fun v => v.SameSurroundings w ∧ v.cluster.ingresses = w.cluster.ingresses :=
    fun _ _ _ => Iff.rfl
  unfold secureApp
  have hbackend : Triple (fun v => v.SameSurroundings w ∧ v.connected = w.connected ∧
        v.cluster.ingresses = w.cluster.ingresses) (getAuthBackend app.authBackendId)
      (fun backend v => (v.SameSurroundings w ∧ v.connected = w.connected ∧
        v.cluster.ingresses = w.cluster.ingresses) ∧ ∃ spec,
          w.backends.lookup app.authBackendId = some spec ∧
          backend.dex = spec.dex.map fun d => ⟨d.apiAddress, d.publicUrl⟩) (fun _ => True) :=
    getAuthBackend_triple (Fine.free hP₀ _ _)
      (fun v spec hv hl => ⟨hv, spec, by rw [← hv.1.2.1]; exact hl, rfl⟩) (fun _ _ _ => trivial)
  refine Triple.bind (Triple.within _ hbackend) fun backend =>
    Triple.assume fun hspec => ?_
  obtain ⟨spec, hspec, hd⟩ := hspec
  -- the connection is held by `w`, or opened to a well-formed address
  have hregisterer : Triple (fun v => v.SameSurroundings w ∧ v.connected = w.connected ∧
        v.cluster.ingresses = w.cluster.ingresses) (registererFor backend)
      (fun a v => (v.SameSurroundings w ∧ v.cluster.ingresses = w.cluster.ingresses) ∧
        ∃ d, spec.dex = some d ∧ a = d.apiAddress ∧
          (w.connected.contains d.apiAddress = true ∨ checkAddress d.apiAddress = .ok ()))
      (fun _ => True) :=
    registererFor_triple (Fine.free hP₀) (fun _ _ _ => trivial)
      (fun dex hdex v hv hc => by
        obtain ⟨d, hsd, he⟩ := dex_of_spec hd hdex
        exact ⟨⟨hv.1, hv.2.2⟩, d, hsd, he, Or.inl (by rw [← he, ← hv.2.1]; exact hc)⟩)
      (fun dex hdex v hv _ hok => by
        obtain ⟨d, hsd, he⟩ := dex_of_spec hd hdex
        exact ⟨⟨hv.1.withConnect _, by simpa using hv.2.2⟩, d, hsd, he,
          Or.inr (by rw [← he]; exact hok)⟩)
      (fun _ _ _ _ _ _ => trivial)
  refine Triple.bind (Triple.within _ hregisterer) fun a =>
    Triple.assume fun hreg => ?_
  obtain ⟨d, hsd, ha, hreach⟩ := hreg
  subst ha
  refine Triple.bind (Triple.within _ (register_keeps (Fine.free hP₁) (fun _ hv => hv)
    (fun _ _ hv => hv) (fun v hv => by rw [World.withoutClient, World.setDex_eq]; exact hv)
    (fun v _ hv => by rw [World.withClient, World.setDex_eq]; exact hv))) fun credentials => ?_
  -- the ingress read is the one stored in `w`; the backup kept is its own or the one offered
  have hbackup : Triple (fun v => v.SameSurroundings w ∧ v.cluster.ingresses = w.cluster.ingresses)
      (backupOrGet app app.currentRecord)
      (fun b v => v.SameSurroundings w ∧ ∃ x, w.cluster.ingresses.get? app.ingressKey = some x ∧
        x.KeepsRecord app.currentRecord b ∧
        v.cluster.ingresses.get? app.ingressKey = some (x.backedWith b)) (fun _ => True) :=
    backupOrGet_triple (Fine.free hP₁) (fun _ _ _ => trivial)
      (fun v x text r hv hx ht hr => ⟨hv.1, x, by rw [← hv.2]; exact hx, Or.inr ⟨text, ht, hr⟩,
        by rw [hx, Ingress.backedWith, ht]⟩)
      (fun _ _ _ _ _ _ _ _ => trivial)
      (fun v x hv hx hnone _ => ⟨hv.1, x, by rw [← hv.2]; exact hx, Or.inl ⟨hnone, rfl⟩, by
        rw [World.get?_withIngress, Ingress.key_annotated,
          hkeyed _ _ (show w.cluster.ingresses.get? app.ingressKey = some x by rw [← hv.2]; exact hx),
          if_pos rfl, Ingress.backedWith, hnone]⟩)
      (fun _ _ _ _ _ => trivial)
  refine Triple.bind (Triple.within _ hbackup) fun b v hb => ?_
  obtain ⟨hsame, x, hx, hkeep, hv⟩ := hb
  have hP₂ : Calm fun v => v.SameSurroundings w ∧
      v.cluster.ingresses.get? app.ingressKey = some (x.backedWith b) := fun _ _ _ => Iff.rfl
  have hroute : Triple (fun v => v.SameSurroundings w ∧
        v.cluster.ingresses.get? app.ingressKey = some (x.backedWith b))
      (routeService (app.withRecord b).ingress.target)
      (fun route v => (v.SameSurroundings w ∧
        v.cluster.ingresses.get? app.ingressKey = some (x.backedWith b)) ∧
        w.routes.lookup (app.recordRouteKey b) = some route) (fun _ => True) :=
    routeService_triple (Fine.free hP₂ _ _) (fun v r hv hl => ⟨hv, by rw [← hv.1.2.2.1]; exact hl⟩)
      (fun _ _ _ => trivial)
  refine (Triple.bind (Triple.within _ hroute) fun route => Triple.assume fun hroute => ?_) v
    ⟨hsame, hv⟩
  -- the swap reads the ingress with its backup, whose path is that of the ingress first read
  have hswap : ∀ o : ProxyObjects, Triple (fun v => (v.SameSurroundings w ∧
        v.cluster.ingresses.get? app.ingressKey = some (x.backedWith b)) ∧ ProxyInPlace o v)
      (swapBackend app.ingressKey (proxyBackend app.ingress.name))
      (fun _ _ => ∃ p : Securing, p.app = app ∧ p.Ready w) (fun _ => True) := fun o => by
    have hready : ∀ c, x.serviceBackend = .ok c → ∃ p : Securing, p.app = app ∧ p.Ready w :=
      fun c hc => ⟨⟨app, d, x, c, b, route⟩, rfl,
        ⟨⟨spec, hspec, hsd⟩, hreach, hx, hkeyed _ _ hx, hc, hkeep, hroute⟩⟩
    refine swapBackend_triple (Fine.free (hP₂.and fun _ _ _ => Iff.rfl)) (fun _ _ _ => trivial)
      (fun _ _ _ _ _ _ => trivial) (fun v y c hv hy hs _ => ?_) (fun v y c hv hy hs _ _ => ?_)
      (fun _ _ _ _ _ => trivial)
    all_goals
      rw [hv.1.2, Option.some.injEq] at hy
      rw [← hy, Ingress.serviceBackend_backedWith] at hs
      exact hready c hs
  exact Triple.within _ (provision_triple (Fine.free hP₂) (fun _ hv => hv) (fun _ hv => hv)
    (fun _ hv => hv) (hswap _))

end Securing

end IngressGuard
