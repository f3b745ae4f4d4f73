import IngressGuard.Proofs.Restart.Outside

/-!
# Rolling back, from wherever a run of it stopped

`RollingBack.Ready` is what rolling an app back finds in the world it starts from when it can go
through: the ingress with a path of the supported shape and a readable backup, and the Dex of the
backend the backup names. `RollingBack.Partial` is every world a run of rolling back from there
leaves, wherever a failed call stopped it, and `RollingBack.Final` is where a run no fault stops
ends: the path pointed back, the backup, the proxy objects, the clients of the app at that Dex
and the Secret of its client secret gone.

Rolling back deletes whatever the proxy objects and the Secret hold, so, unlike securing, its end
does not depend on what a failed run left in them.
-/

namespace IngressGuard

open IngressGuard.Kube IngressGuard.Dex

/-! ## Rolling back, from wherever a run of it stopped -/

/-- What rolling an app back finds in the world it starts from: the ingress `ing` stored for it
with the path `cur`, the record its backup holds, and the Dex of the backend the record names. -/
structure RollingBack where
  app : App
  ing : Ingress
  cur : ServiceBackend
  record : BackupRecord
  dex : Auth.DexSpec

namespace RollingBack

/-- The service the record names, that rolling back points the path at. -/
def target (p : RollingBack) : ServiceBackend :=
  serviceBackendFor p.record.serviceName p.record.servicePortText

/-- The ingress with its path pointed back. -/
def pointed (p : RollingBack) : Ingress :=
  p.ing.pointedAt p.cur p.target

/-- What rolling back needs in the world it starts from to go through when no call fails. -/
structure Ready (p : RollingBack) (w : World) : Prop where
  stored : w.cluster.ingresses.get? p.app.ingressKey = some p.ing
  key : p.ing.metadata.key = p.app.ingressKey
  shape : p.ing.serviceBackend = .ok p.cur
  backup : ∃ text, p.ing.annotationValue? backupAnnotationKey = some text ∧
    BackupRecord.ofText text = .ok p.record
  backend : ∃ spec, w.backends.lookup p.record.authBackendId = some spec ∧ spec.dex = some p.dex
  reachable : w.connected.contains p.dex.apiAddress = true ∨ checkAddress p.dex.apiAddress = .ok ()

/-- What a run of rolling back from `w` has left in `v`, wherever it stopped: the path pointed back
or not yet, the clients of the app at the Dex deleted or not yet. The proxy objects and the Secret
of the client secret, which rolling back deletes whatever they hold, may hold anything. -/
structure Partial (p : RollingBack) (w v : World) : Prop where
  outside : v.SameOutside w p.app.ingressKey (w.clientSecretKey p.app.id) p.dex.apiAddress
  connected : v.connected = w.connected ∨ v.connected = w.connectedWith p.dex.apiAddress
  clients : (v.dexAt p.dex.apiAddress).clients.filter (·.1 != p.app.id) =
    (w.dexAt p.dex.apiAddress).clients.filter (·.1 != p.app.id)
  ingress : v.cluster.ingresses.get? p.app.ingressKey = some p.ing ∨
    v.cluster.ingresses.get? p.app.ingressKey = some p.pointed

/-- A run of rolling back with the path pointed back and the proxy objects gone. -/
structure Unprovisioned (p : RollingBack) (w v : World) : Prop extends p.Partial w v where
  pointedAt : v.cluster.ingresses.get? p.app.ingressKey = some p.pointed
  proxyGone : v.ProxyGone p.app.ingressKey

/-- Where rolling back ends: the path pointed back and the backup dropped; the proxy objects, the
clients of the app at the Dex and the Secret of its client secret gone. -/
structure Final (p : RollingBack) (w v : World) : Prop where
  outside : v.SameOutside w p.app.ingressKey (w.clientSecretKey p.app.id) p.dex.apiAddress
  connectedTo : v.connected = w.connectedWith p.dex.apiAddress
  clientsGone : (v.dexAt p.dex.apiAddress).clients =
    (w.dexAt p.dex.apiAddress).clients.filter (·.1 != p.app.id)
  secretGone : v.cluster.secrets.get? (w.clientSecretKey p.app.id) = none
  proxyGone : v.ProxyGone p.app.ingressKey
  rolledBackAt : v.cluster.ingresses.get? p.app.ingressKey = some (p.ing.rolledBack p.cur p.record)

variable {p : RollingBack} {w v : World}

theorem calm_partial : Calm (p.Partial w) := fun v faults calls =>
  ⟨fun h => { h with outside := (World.SameOutside.calm v faults calls).1 h.outside },
    fun h => { h with outside := (World.SameOutside.calm v faults calls).2 h.outside }⟩

theorem calm_unprovisioned : Calm (p.Unprovisioned w) := fun v faults calls =>
  ⟨fun h => { h with toPartial := (calm_partial v faults calls).1 h.toPartial },
    fun h => { h with toPartial := (calm_partial v faults calls).2 h.toPartial }⟩

theorem Ready.partial (h : p.Ready w) : p.Partial w w where
  outside := World.SameOutside.refl w _ _ _
  connected := Or.inl rfl
  clients := rfl
  ingress := Or.inl h.stored

theorem Partial.homes (h : p.Partial w v) : v.home = w.home :=
  h.outside.surroundings.1

theorem Partial.withConnect (h : p.Partial w v) (hc : v.connected.contains p.dex.apiAddress = false) :
    p.Partial w ((v.withConnect p.dex.apiAddress).withConnected p.dex.apiAddress) where
  outside := h.outside.withConnect _
  connected := Or.inr (World.connected_withConnect h.connected hc)
  clients := by simpa using h.clients
  ingress := by simpa using h.ingress

theorem Unprovisioned.withConnect (h : p.Unprovisioned w v)
    (hc : v.connected.contains p.dex.apiAddress = false) :
    p.Unprovisioned w ((v.withConnect p.dex.apiAddress).withConnected p.dex.apiAddress) where
  toPartial := h.toPartial.withConnect hc
  pointedAt := by simpa using h.pointedAt
  proxyGone := by simpa [World.ProxyGone] using h.proxyGone

/-- Deleting the clients of the app at the Dex keeps the clients that are not the app's. -/
theorem Partial.withoutClient (h : p.Partial w v) :
    p.Partial w (v.withoutClient p.dex.apiAddress p.app.id) := by
  have hclients : ((v.withoutClient p.dex.apiAddress p.app.id).dexAt p.dex.apiAddress).clients.filter
      (·.1 != p.app.id) = (w.dexAt p.dex.apiAddress).clients.filter (·.1 != p.app.id) := by
    rw [World.clients_withoutClient, List.filter_filter, ← h.clients]
    simp
  have hout := h.outside.withoutClient p.app.id
  unfold World.withoutClient at hout hclients ⊢
  rw [World.setDex_eq] at hout hclients ⊢
  exact { h with outside := hout, clients := hclients }

theorem Partial.withoutSecret (h : p.Partial w v) :
    p.Partial w (v.withoutSecret (w.clientSecretKey p.app.id)) :=
  { h with outside := h.outside.withoutSecret (Or.inl rfl) }

theorem Partial.withIngress (h : p.Partial w v) (hready : p.Ready w) :
    p.Partial w (v.withIngress p.pointed) := by
  have hkey : p.pointed.metadata.key = p.app.ingressKey := by
    rw [pointed, Ingress.metadata_pointedAt, hready.key]
  refine { h with outside := h.outside.withIngress hkey, ingress := Or.inr ?_ }
  rw [World.get?_withIngress, if_pos hkey.symm]

theorem Partial.cases (h : p.Partial w v) {x : Ingress}
    (hx : v.cluster.ingresses.get? p.app.ingressKey = some x) : x = p.ing ∨ x = p.pointed := by
  rcases h.ingress with h' | h' <;> rw [hx, Option.some.injEq] at h'
  · exact Or.inl h'
  · exact Or.inr h'

/-- Each ingress a run of rolling back leaves carries the backup it read. -/
theorem backup_of {x : Ingress} (hx : x = p.ing ∨ x = p.pointed) :
    x.annotationValue? backupAnnotationKey = p.ing.annotationValue? backupAnnotationKey := by
  rcases hx with rfl | rfl
  · rfl
  · rw [pointed, Ingress.annotationValue?_pointedAt]

/-! ### The steps of rolling back -/

section Steps

variable {G err : World → Prop}

/-- Reading the backup from a run of rolling back finds the record the ingress first carried. -/
theorem getBackup_rollingBack (hready : p.Ready w) (hfine : FineAbove (p.Partial w) G err) :
    Triple (fun v => p.Partial w v ∧ G v) (getBackup p.app)
      (fun b v => (p.Partial w v ∧ G v) ∧ b = some p.record) err := by
  obtain ⟨text₀, ht₀, hr₀⟩ := hready.backup
  refine getBackup_triple (hfine _ calm_partial fun _ h => h) (fun v hv h => ?_)
    (fun v x text r hv hx ht hr => ?_) (fun v x text e hv hx ht he => ?_)
    (fun v x hv hx hnone => ?_)
  · rcases hv.1.ingress with h' | h' <;> rw [h] at h' <;> cases h'
  · rw [backup_of (hv.1.cases hx), ht₀, Option.some.injEq] at ht
    rw [← ht, hr₀] at hr
    exact ⟨hv, congrArg some (Except.ok.inj hr).symm⟩
  · rw [backup_of (hv.1.cases hx), ht₀, Option.some.injEq] at ht
    rw [← ht, hr₀] at he
    cases he
  · rw [backup_of (hv.1.cases hx), ht₀] at hnone
    cases hnone

/-- Unprovisioning from a run of rolling back points the path back and deletes the proxy
objects. -/
theorem unprovision_rollingBack (hready : p.Ready w) (hfine : FineAbove (p.Partial w) G err)
    (hG : OnFaults G) :
    Triple (fun v => p.Partial w v ∧ G v)
      (unprovision
        { ingressName := p.app.ingress.name, ingressNs := p.app.ingress.ns,
          serviceName := p.record.serviceName, servicePortText := p.record.servicePortText })
      (fun _ v => p.Unprovisioned w v ∧ G v) err := by
  have hpointed : Calm fun v => p.Partial w v ∧
      v.cluster.ingresses.get? p.app.ingressKey = some p.pointed :=
    calm_partial.and fun _ _ _ => Iff.rfl
  unfold unprovision
  have hswap : Triple (fun v => p.Partial w v ∧ G v) (swapBackend p.app.ingressKey p.target)
      (fun _ v => (p.Partial w v ∧ v.cluster.ingresses.get? p.app.ingressKey = some p.pointed) ∧
        G v) err :=
    (swapBackend_pointing (hfine _ calm_partial fun _ h => h) (fun _ hv => hv.1.ingress) hready.key
      hready.shape fun v hv => ⟨hv.1.withIngress hready, hG v _ rfl hv.2⟩).mono (fun _ h => h)
      (fun _ _ h => ⟨⟨h.1.1, h.2⟩, h.1.2⟩) fun _ h => h
  -- the Service, the Deployment and the Secret of the proxy go in turn, each staying gone
  have hservice : Triple (fun v => (p.Partial w v ∧
        v.cluster.ingresses.get? p.app.ingressKey = some p.pointed) ∧ G v)
      (deleteService p.app.ingressKey.proxy)
      (fun _ v => ((p.Partial w v ∧ v.cluster.ingresses.get? p.app.ingressKey = some p.pointed) ∧
        v.cluster.services.get? p.app.ingressKey.proxy = none) ∧ G v) err :=
    deleteService_triple (hfine _ hpointed (fun _ h => h.1) _ _) fun v hv =>
      ⟨⟨⟨{ hv.1.1 with outside := hv.1.1.outside.withoutService }, hv.1.2⟩,
        by simp [World.withoutService]⟩, hG v _ rfl hv.2⟩
  have hdeployment : Triple (fun v => ((p.Partial w v ∧
        v.cluster.ingresses.get? p.app.ingressKey = some p.pointed) ∧
        v.cluster.services.get? p.app.ingressKey.proxy = none) ∧ G v)
      (deleteDeployment p.app.ingressKey.proxy)
      (fun _ v => (((p.Partial w v ∧ v.cluster.ingresses.get? p.app.ingressKey = some p.pointed) ∧
        v.cluster.services.get? p.app.ingressKey.proxy = none) ∧
        v.cluster.deployments.get? p.app.ingressKey.proxy = none) ∧ G v) err :=
    deleteDeployment_triple
      (hfine _ (hpointed.and fun _ _ _ => by exact Iff.rfl) (fun _ h => h.1.1) _ _)
      fun v hv => ⟨⟨⟨⟨{ hv.1.1.1 with outside := hv.1.1.1.outside.withoutDeployment }, hv.1.1.2⟩,
        hv.1.2⟩, by simp [World.withoutDeployment]⟩, hG v _ rfl hv.2⟩
  have hsecret : Triple (fun v => (((p.Partial w v ∧
        v.cluster.ingresses.get? p.app.ingressKey = some p.pointed) ∧
        v.cluster.services.get? p.app.ingressKey.proxy = none) ∧
        v.cluster.deployments.get? p.app.ingressKey.proxy = none) ∧ G v)
      (deleteSecret p.app.ingressKey.proxy) (fun _ v => p.Unprovisioned w v ∧ G v) err :=
    deleteSecret_triple (hfine _ ((hpointed.and fun _ _ _ => by exact Iff.rfl).and
      fun _ _ _ => by exact Iff.rfl) (fun _ h => h.1.1.1) _ _) fun v hv =>
      ⟨{ toPartial := { hv.1.1.1.1 with outside := hv.1.1.1.1.outside.withoutSecret (Or.inr rfl) }
         pointedAt := hv.1.1.1.2
         proxyGone := ⟨by simp [World.withoutSecret], hv.1.2, hv.1.1.2⟩ }, hG v _ rfl hv.2⟩
  exact Triple.bind hswap fun _ => Triple.bind (Triple.within _ hservice) fun _ =>
    Triple.bind (Triple.within _ hdeployment) fun _ => Triple.within _ hsecret

/-- Unregistering from a run of rolling back deletes the clients of the app at the Dex, then the
Secret of its client secret. -/
theorem unregister_rollingBack (hfine : FineAbove (p.Partial w) G err) (hG : OnFaults G) :
    Triple (fun v => (p.Unprovisioned w v ∧ v.connected = w.connectedWith p.dex.apiAddress) ∧ G v)
      (unregister p.dex.apiAddress p.app.id)
      (fun _ v => (((p.Unprovisioned w v ∧ v.connected = w.connectedWith p.dex.apiAddress) ∧
        (v.dexAt p.dex.apiAddress).clients =
          (w.dexAt p.dex.apiAddress).clients.filter (·.1 != p.app.id)) ∧
        v.cluster.secrets.get? (w.clientSecretKey p.app.id) = none) ∧ G v) err := by
  have hconnected : Calm fun v => p.Unprovisioned w v ∧
      v.connected = w.connectedWith p.dex.apiAddress :=
    calm_unprovisioned.and fun _ _ _ => Iff.rfl
  -- between the two deletions the clients are gone and the Secret is not yet
  have hfineQ : Fine (fun v => ((p.Unprovisioned w v ∧
      v.connected = w.connectedWith p.dex.apiAddress) ∧ (v.dexAt p.dex.apiAddress).clients =
        (w.dexAt p.dex.apiAddress).clients.filter (·.1 != p.app.id)) ∧ G v) err :=
    hfine _ (hconnected.and fun _ _ _ => Iff.rfl) fun _ h => h.1.1.toPartial
  refine unregister_triple (hfine _ hconnected fun _ h => h.1.toPartial) hfineQ
    (fun v hv => ⟨⟨⟨?_, by simpa [World.withoutClient] using hv.1.2⟩, ?_⟩,
      hG v _ (by simp [World.withoutClient]) hv.2⟩) (fun v hv => ?_)
  · exact { toPartial := hv.1.1.toPartial.withoutClient
            pointedAt := by simpa using hv.1.1.pointedAt
            proxyGone := by simpa [World.ProxyGone] using hv.1.1.proxyGone }
  · rw [World.clients_withoutClient, hv.1.1.clients]
  · -- the Secret deleted is that of the client secret, no proxy object
    rw [World.clientSecretKey_congr hv.1.1.1.homes]
    have hne : w.clientSecretKey p.app.id ≠ p.app.ingressKey.proxy :=
      World.clientSecretKey_ne_proxy _ _
    have hunprovisioned : p.Unprovisioned w (v.withoutSecret (w.clientSecretKey p.app.id)) :=
      { toPartial := hv.1.1.1.toPartial.withoutSecret
        pointedAt := hv.1.1.1.pointedAt
        proxyGone := ⟨by simpa [World.withoutSecret, Ne.symm hne] using hv.1.1.1.proxyGone.1,
          hv.1.1.1.proxyGone.2.1, hv.1.1.1.proxyGone.2.2⟩ }
    exact ⟨⟨⟨⟨hunprovisioned, hv.1.1.2⟩, hv.1.2⟩, by simp [World.withoutSecret]⟩, hG v _ rfl hv.2⟩

/-- Deleting the backup ends rolling back. -/
theorem deleteBackup_rollingBack (hready : p.Ready w) (hfine : FineAbove (p.Partial w) G err)
    (hG : OnFaults G) :
    Triple (fun v => (((p.Unprovisioned w v ∧ v.connected = w.connectedWith p.dex.apiAddress) ∧
        (v.dexAt p.dex.apiAddress).clients =
          (w.dexAt p.dex.apiAddress).clients.filter (·.1 != p.app.id)) ∧
        v.cluster.secrets.get? (w.clientSecretKey p.app.id) = none) ∧ G v)
      (deleteBackup p.app) (fun _ v => p.Final w v ∧ G v) err := by
  have hcalm : Calm fun v => ((p.Unprovisioned w v ∧ v.connected = w.connectedWith p.dex.apiAddress) ∧
      (v.dexAt p.dex.apiAddress).clients =
        (w.dexAt p.dex.apiAddress).clients.filter (·.1 != p.app.id)) ∧
      v.cluster.secrets.get? (w.clientSecretKey p.app.id) = none :=
    ((calm_unprovisioned.and fun _ _ _ => Iff.rfl).and fun _ _ _ => Iff.rfl).and fun _ _ _ => Iff.rfl
  have hkey : p.pointed.metadata.key = p.app.ingressKey := by
    rw [pointed, Ingress.metadata_pointedAt, hready.key]
  obtain ⟨text₀, ht₀, -⟩ := hready.backup
  refine deleteBackup_triple (hfine _ hcalm fun _ h => h.1.1.1.toPartial) (fun v hv h => ?_)
    (fun v x hv hx hnone => ?_) (fun v x hv hx _ _ => ?_) (fun v x hv hx hc => ?_)
  · rw [hv.1.1.1.1.pointedAt] at h
    cases h
  · rw [hv.1.1.1.1.pointedAt, Option.some.injEq] at hx
    rw [← hx, backup_of (Or.inr rfl), ht₀] at hnone
    cases hnone
  · rw [hv.1.1.1.1.pointedAt, Option.some.injEq] at hx
    rw [← hx]
    obtain ⟨⟨⟨⟨hu, hc⟩, hcl⟩, hs⟩, hg⟩ := hv
    refine ⟨{ outside := hu.outside.withIngress (by rw [Ingress.key_unannotated, hkey])
              connectedTo := hc
              clientsGone := hcl
              secretGone := hs
              proxyGone := hu.proxyGone
              rolledBackAt := ?_ }, hG v _ rfl hg⟩
    rw [World.get?_withIngress, Ingress.key_unannotated, hkey, if_pos rfl]
    rfl
  · rw [hv.1.1.1.1.pointedAt, Option.some.injEq] at hx
    rw [← hx, hkey, Store.contains_eq_isSome, hv.1.1.1.1.pointedAt] at hc
    cases hc

/-- Rolling back from a partial rollback ends rolled back. -/
theorem rollbackApp_rollingBack (hready : p.Ready w) (hfine : FineAbove (p.Partial w) G err)
    (hG : OnFaults G) :
    Triple (fun v => p.Partial w v ∧ G v) (rollbackApp p.app) (fun _ v => p.Final w v ∧ G v) err := by
  unfold rollbackApp
  refine Triple.bind (Triple.within _ (getBackup_rollingBack hready hfine)) fun backup =>
    Triple.assume fun hb => ?_
  subst hb
  refine Triple.bind (Triple.within _ (unprovision_rollingBack hready hfine hG)) fun _ => ?_
  refine Triple.bind (Triple.within _ (getAuthBackend_found
    (hfine _ calm_unprovisioned fun _ h => h.toPartial) (fun _ h => h.outside.surroundings)
    hready.backend)) fun backend => Triple.assume fun hb => ?_
  subst hb
  refine Triple.bind (Triple.within _ (registererFor_found
    (hfine _ calm_unprovisioned fun _ h => h.toPartial) hG hready.reachable
    (fun _ h => h.connected) fun _ h hc => h.withConnect hc)) fun a => Triple.assume fun ha => ?_
  subst ha
  refine Triple.bind (Triple.within _ (unregister_rollingBack hfine hG)) fun _ => ?_
  exact Triple.within _ (deleteBackup_rollingBack hready hfine hG)

end Steps

/-- Rolling back ends in the same objects from worlds holding the same objects. -/
theorem Final.sameObjects {w₁ w₂ v₁ v₂ : World} (h₁ : p.Final w₁ v₁) (h₂ : p.Final w₂ v₂)
    (hw : w₁.SameObjects w₂) : v₁.SameObjects v₂ := by
  have hkey : w₂.clientSecretKey p.app.id = w₁.clientSecretKey p.app.id :=
    World.clientSecretKey_congr hw.surroundings.1.symm _
  have hout₂ := h₂.outside
  have hgone₂ := h₂.secretGone
  rw [hkey] at hout₂ hgone₂
  refine h₁.outside.sameObjects hout₂ hw ?_ ?_ ?_ ?_ ?_ ?_ ?_
  · rw [h₁.connectedTo, h₂.connectedTo, hw.connectedWith]
  · rw [h₁.rolledBackAt, h₂.rolledBackAt]
  · rw [h₁.secretGone, hgone₂]
  · rw [h₁.proxyGone.1, h₂.proxyGone.1]
  · rw [h₁.proxyGone.2.1, h₂.proxyGone.2.1]
  · rw [h₁.proxyGone.2.2, h₂.proxyGone.2.2]
  · rw [h₁.clientsGone, h₂.clientsGone, hw.clients]

/-- A run of rolling back that fails, whatever faults it met, leaves a partial rollback. -/
theorem Ready.stops (h : p.Ready w) {faults : List (CallKind × FaultPlan)} {e : Failure}
    {v : World} (hx : exec (rollbackApp p.app) { w with faults } = (.error e, v)) :
    p.Partial w v :=
  (rollbackApp_rollingBack h (FineAbove.keep calm_partial) onFaults_true).fails
    ⟨(calm_partial w faults w.calls).2 h.partial, trivial⟩ hx

/-- From a partial rollback, a run that no fault fails returns, having rolled the app back. -/
theorem Ready.finishes (h : p.Ready w) (hv : p.Partial w v) (hq : v.Quiet) :
    ∃ v', exec (rollbackApp p.app) v = (.ok (), v') ∧ p.Final w v' := by
  obtain ⟨_, v', hx, hfinal, -⟩ :=
    (rollbackApp_rollingBack h FineAbove.quiet onFaults_quiet).exec_ok ⟨hv, hq⟩
  exact ⟨v', hx, hfinal⟩

/-- A run of rolling back that returns, whatever faults it met, found in the world it started
from everything rolling back needs: the ingress stored under its key with a path of the supported
shape and a readable backup, the backend the backup names of kind Dex, and a connection or a
well-formed address. -/
theorem rollbackApp_ready {app : App} (hkeyed : w.cluster.WellKeyed) :
    Triple (fun v => v.SameSurroundings w ∧ v.connected = w.connected ∧
        v.cluster.ingresses = w.cluster.ingresses) (rollbackApp app)
      (fun _ _ => ∃ p : RollingBack, p.app = app ∧ p.Ready w) (fun _ => True) := by
  have hP₀ : Calm fun v => v.SameSurroundings w ∧ v.connected = w.connected ∧
      v.cluster.ingresses = w.cluster.ingresses := fun _ _ _ => Iff.rfl
  have hP₁ : Calm fun v => v.SameSurroundings w ∧ v.connected = w.connected :=
    fun _ _ _ => Iff.rfl
  unfold rollbackApp
  -- the backup read is that of the ingress stored in `w`
  have hbackup : Triple (fun v => v.SameSurroundings w ∧ v.connected = w.connected ∧
        v.cluster.ingresses = w.cluster.ingresses) (getBackup app)
      (fun b v => (v.SameSurroundings w ∧ v.connected = w.connected ∧
        v.cluster.ingresses = w.cluster.ingresses) ∧ ∀ r, b = some r → ∃ x text,
          w.cluster.ingresses.get? app.ingressKey = some x ∧
          x.annotationValue? backupAnnotationKey = some text ∧ BackupRecord.ofText text = .ok r)
      (fun _ => True) :=
    getBackup_triple (Fine.free hP₀) (fun _ _ _ => trivial)
      (fun v x text r hv hx ht hr => ⟨hv, fun r' hr' => ⟨x, text, by rw [← hv.2.2]; exact hx, ht,
        by rw [hr, Option.some.inj hr']⟩⟩)
      (fun _ _ _ _ _ _ _ _ => trivial) (fun _ _ hv _ _ => ⟨hv, fun _ h => by cases h⟩)
  refine Triple.bind (Triple.within _ hbackup) fun backup => ?_
  cases backup with
  | none => exact Triple.fail fun _ _ => trivial
  | some r =>
  refine Triple.assume fun hread => ?_
  obtain ⟨x, text, hx, ht, hr⟩ := hread r rfl
  -- the path swapped back is that of the ingress read
  have hunprovision : Triple (fun v => v.SameSurroundings w ∧ v.connected = w.connected ∧
        v.cluster.ingresses = w.cluster.ingresses)
      (unprovision
        { ingressName := app.ingress.name, ingressNs := app.ingress.ns,
          serviceName := r.serviceName, servicePortText := r.servicePortText })
      (fun _ v => (v.SameSurroundings w ∧ v.connected = w.connected) ∧
        ∃ cur, x.serviceBackend = .ok cur) (fun _ => True) := by
    refine unprovision_triple ?_ (Fine.free fun _ _ _ => Iff.rfl) (fun _ hv => hv) (fun _ hv => hv)
      (fun _ hv => hv)
    refine swapBackend_triple (Fine.free hP₀) (fun _ _ _ => trivial) (fun _ _ _ _ _ _ => trivial)
      (fun v y c hv hy hs _ => ?_) (fun v y c hv hy hs _ _ => ?_) (fun _ _ _ _ _ => trivial)
    all_goals
      rw [hv.2.2] at hy
      obtain rfl : x = y := Option.some.inj (hx.symm.trans hy)
      exact ⟨⟨hv.1, hv.2.1⟩, c, hs⟩
  refine Triple.bind (Triple.within _ hunprovision) fun _ => Triple.assume fun hcur => ?_
  obtain ⟨cur, hcur⟩ := hcur
  have hbackend : Triple (fun v => v.SameSurroundings w ∧ v.connected = w.connected)
      (getAuthBackend r.authBackendId)
      (fun backend v => (v.SameSurroundings w ∧ v.connected = w.connected) ∧ ∃ spec,
          w.backends.lookup r.authBackendId = some spec ∧
          backend.dex = spec.dex.map fun d => ⟨d.apiAddress, d.publicUrl⟩) (fun _ => True) :=
    getAuthBackend_triple (Fine.free hP₁ _ _)
      (fun v spec hv hl => ⟨hv, spec, by rw [← hv.1.2.1]; exact hl, rfl⟩) (fun _ _ _ => trivial)
  refine Triple.bind (Triple.within _ hbackend) fun backend =>
    Triple.assume fun hspec => ?_
  obtain ⟨spec, hspec, hd⟩ := hspec
  -- the connection is held by `w`, or opened to a well-formed address
  have hregisterer : Triple (fun v => v.SameSurroundings w ∧ v.connected = w.connected)
      (registererFor backend)
      (fun _ v => v.SameSurroundings w ∧ ∃ d, spec.dex = some d ∧
        (w.connected.contains d.apiAddress = true ∨ checkAddress d.apiAddress = .ok ()))
      (fun _ => True) :=
    registererFor_triple (Fine.free hP₁) (fun _ _ _ => trivial)
      (fun dex hdex v hv hc => by
        obtain ⟨d, hsd, he⟩ := dex_of_spec hd hdex
        exact ⟨hv.1, d, hsd, Or.inl (by rw [← he, ← hv.2]; exact hc)⟩)
      (fun dex hdex v hv _ hok => by
        obtain ⟨d, hsd, he⟩ := dex_of_spec hd hdex
        exact ⟨hv.1.withConnect _, d, hsd, Or.inr (by rw [← he]; exact hok)⟩)
      (fun _ _ _ _ _ _ => trivial)
  refine Triple.bind (Triple.within _ hregisterer) fun _ =>
    Triple.assume fun hreg => ?_
  obtain ⟨d, hsd, hreach⟩ := hreg
  have hready : ∃ p : RollingBack, p.app = app ∧ p.Ready w :=
    ⟨⟨app, x, cur, r, d⟩, rfl, ⟨hx, hkeyed _ _ hx, hcur, ⟨text, ht, hr⟩, ⟨spec, hspec, hsd⟩, hreach⟩⟩
  exact Triple.trivial.mono (fun _ h => h) (fun _ _ _ => hready) fun _ h => h

end RollingBack

end IngressGuard
