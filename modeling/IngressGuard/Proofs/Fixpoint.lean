import IngressGuard.Proofs.ClientSecrets
import IngressGuard.Proofs.RoundTrip

/-!
# Reconciliation reaches a fixpoint

Once a reconciliation has secured an ingress, reconciling the ingress it left, with no call
failing, finds everything in place: the backup on the ingress is read back instead of written,
its path already leads to the proxy and its marks are set, the client secret is reused and Dex
answers that the client exists, and the proxy objects written are those already stored. So it
secures again, updates no ingress, and leaves every object as it was. Once a reconciliation has
rolled an ingress back, the next one ignores the ingress or finds it clean, and makes no call.

The first reconciliation may have met planned faults before; only that it returned matters, and
what it left is read off with triples whose failure condition is `True` (`reconcile_secured_leaves`,
`reconcile_rolledBack_leaves`). The second one is followed with the precondition `World.Still`:
no fault planned, no ingress update logged, and the objects of the world it started from
(`reconcile_still`); after a rollback, the unmarked ingress never reaches a call
(`reconcile_released_idle`). `reconcile_reaches_fixpoint` puts the two halves together.
-/

namespace IngressGuard

open IngressGuard.Kube IngressGuard.Dex

/-! ## The ingress as securing leaves it -/

namespace Kube.Ingress

theorem leadsTo_self (t : ServiceBackend) : leadsTo t t = true := by
  simp [leadsTo]

/-- Pointing an ingress of the supported shape at a target leaves its path leading there. -/
theorem serviceBackend_pointedAt {ing : Ingress} {cur : ServiceBackend}
    (hcur : ing.serviceBackend = .ok cur) (t : ServiceBackend) :
    ∃ cur', (ing.pointedAt cur t).serviceBackend = .ok cur' ∧ leadsTo cur' t = true := by
  unfold pointedAt
  split
  · exact ⟨cur, hcur, ‹_›⟩
  · exact ⟨t, serviceBackend_withBackend hcur t, leadsTo_self t⟩

theorem host_withBackend (ing : Ingress) (t : ServiceBackend) :
    (ing.withBackend t).host = ing.host := by
  obtain ⟨metadata, spec, status⟩ := ing
  cases spec with
  | none => rfl
  | some sp =>
    obtain ⟨db, cls, rules, tls⟩ := sp
    cases rules with
    | none => rfl
    | some rs => rcases rs with _ | ⟨r, _ | ⟨r', rs⟩⟩ <;>
      simp [host, rule, Ingress.rules, withBackend, Except.map]

@[simp] theorem host_pointedAt (ing : Ingress) (cur t : ServiceBackend) :
    (ing.pointedAt cur t).host = ing.host := by
  unfold pointedAt
  split
  · rfl
  · exact host_withBackend ing t

@[simp] theorem host_backedWith (ing : Ingress) (r : BackupRecord) :
    (ing.backedWith r).host = ing.host := by
  unfold backedWith
  split <;> rfl

@[simp] theorem host_marked (ing : Ingress) : ing.marked.host = ing.host := by
  unfold marked mark
  split <;> rfl

@[simp] theorem key_marked (ing : Ingress) : ing.marked.metadata.key = ing.metadata.key := by
  unfold marked
  split
  · rfl
  · exact key_mark ing

@[simp] theorem serviceBackend_marked (ing : Ingress) :
    ing.marked.serviceBackend = ing.serviceBackend := by
  unfold marked
  split <;> rfl

theorem isMarked_marked (ing : Ingress) : ing.marked.isMarked = true := by
  unfold marked
  split
  · assumption
  · exact isMarked_mark ing

@[simp] theorem annotationValue?_pointedAt (ing : Ingress) (cur t : ServiceBackend) (key : String) :
    (ing.pointedAt cur t).annotationValue? key = ing.annotationValue? key := by
  simp [Ingress.annotationValue?]

theorem annotationValue?_backedWith {key : String} (hkey : key ≠ backupAnnotationKey)
    (ing : Ingress) (r : BackupRecord) :
    (ing.backedWith r).annotationValue? key = ing.annotationValue? key := by
  unfold backedWith
  split
  · rfl
  · simp [hkey]

theorem annotationValue?_marked {key : String} (hkey : key ≠ handledAnnotationKey) (ing : Ingress) :
    ing.marked.annotationValue? key = ing.annotationValue? key := by
  unfold marked
  split
  · rfl
  · simp [hkey]

theorem annotationValue?_unmarked {key : String} (hkey : key ≠ handledAnnotationKey)
    (ing : Ingress) : ing.unmarked.annotationValue? key = ing.annotationValue? key := by
  unfold unmarked
  split
  · rfl
  · simp [hkey]

@[simp] theorem isDeleting_pointedAt (ing : Ingress) (cur t : ServiceBackend) :
    (ing.pointedAt cur t).isDeleting = ing.isDeleting := by
  simp [isDeleting]

@[simp] theorem isDeleting_backedWith (ing : Ingress) (r : BackupRecord) :
    (ing.backedWith r).isDeleting = ing.isDeleting := by
  unfold backedWith
  split <;> rfl

@[simp] theorem isDeleting_marked (ing : Ingress) : ing.marked.isDeleting = ing.isDeleting := by
  unfold marked
  split
  · rfl
  · exact isDeleting_mark ing

@[simp] theorem isDeleting_unmarked (ing : Ingress) : ing.unmarked.isDeleting = ing.isDeleting := by
  unfold unmarked
  split <;> rfl

/-- Whether an ingress asks to be secured is read off its backend annotation alone. -/
theorem wantsSecurity_congr {ing ing' : Ingress}
    (h : ing'.annotationValue? backendAnnotationKey = ing.annotationValue? backendAnnotationKey) :
    ing'.wantsSecurity = ing.wantsSecurity := by
  simp only [wantsSecurity, h]

/-- The backup an ingress is left with reads as the record kept. -/
theorem KeepsRecord.backedWith {ing : Ingress} {data r : BackupRecord} (h : ing.KeepsRecord data r) :
    ∃ text, (ing.backedWith r).annotationValue? backupAnnotationKey = some text ∧
      BackupRecord.ofText text = .ok r := by
  rcases h with ⟨hnone, -⟩ | ⟨text, ht, hr⟩
  · exact ⟨r.toText, by simp [Ingress.backedWith, hnone], BackupRecord.ofText_toText r⟩
  · exact ⟨text, by simp [Ingress.backedWith, ht], hr⟩

/-- The ingress as securing leaves it with the record `r`: marked as handled, carrying a backup
that reads as `r`, and with its path leading to its proxy. -/
structure Guarded (ing : Ingress) (r : BackupRecord) : Prop where
  marked : ing.isMarked = true
  backup : ∃ text, ing.annotationValue? backupAnnotationKey = some text ∧
    BackupRecord.ofText text = .ok r
  path : ∃ cur, ing.serviceBackend = .ok cur ∧
    leadsTo cur (proxyBackend ing.metadata.key.name) = true

/-- Securing an ingress of the supported shape and marking it leaves it guarded. -/
theorem guarded_secured {ing : Ingress} {cur : ServiceBackend} {data r : BackupRecord}
    (hcur : ing.serviceBackend = .ok cur) (hrec : ing.KeepsRecord data r) :
    (ing.secured cur r).marked.Guarded r where
  marked := isMarked_marked _
  backup := by
    obtain ⟨text, ht, hr⟩ := hrec.backedWith
    refine ⟨text, ?_, hr⟩
    rw [annotationValue?_marked (by decide), secured, annotationValue?_pointedAt, ht]
  path := by
    have hb : (ing.backedWith r).serviceBackend = .ok cur := by rw [serviceBackend_backedWith, hcur]
    obtain ⟨cur', hc, hl⟩ := serviceBackend_pointedAt hb (proxyBackend ing.metadata.key.name)
    exact ⟨cur', by rw [serviceBackend_marked, secured, hc], by simpa [secured] using hl⟩

@[simp] theorem key_secured (ing : Ingress) (cur : ServiceBackend) (r : BackupRecord) :
    (ing.secured cur r).metadata.key = ing.metadata.key := by
  simp [secured]

/-- Securing and marking keep the backend annotation, the deletion and the host. -/
theorem secured_keeps {ing : Ingress} {cur : ServiceBackend} {r : BackupRecord} :
    (ing.secured cur r).marked.wantsSecurity = ing.wantsSecurity ∧
      (ing.secured cur r).marked.isDeleting = ing.isDeleting ∧
      (ing.secured cur r).marked.host = ing.host ∧
      (ing.secured cur r).marked.annotationValue? backendAnnotationKey =
        ing.annotationValue? backendAnnotationKey := by
  have hann : (ing.secured cur r).marked.annotationValue? backendAnnotationKey =
      ing.annotationValue? backendAnnotationKey := by
    rw [annotationValue?_marked (by decide), secured, annotationValue?_pointedAt,
      annotationValue?_backedWith (by decide)]
  exact ⟨wantsSecurity_congr hann, by simp [secured], by simp [secured], hann⟩

@[simp] theorem serviceBackend_unmarked (ing : Ingress) :
    ing.unmarked.serviceBackend = ing.serviceBackend := by
  unfold unmarked
  split <;> rfl

/-- Rolling back and unmarking keep the supported shape, the backend annotation and the deletion. -/
theorem rolledBack_keeps {ing : Ingress} {cur : ServiceBackend} (r : BackupRecord)
    (hcur : ing.serviceBackend = .ok cur) :
    (ing.rolledBack cur r).unmarked.validate = .ok () ∧
      (ing.rolledBack cur r).unmarked.wantsSecurity = ing.wantsSecurity ∧
      (ing.rolledBack cur r).unmarked.isDeleting = ing.isDeleting := by
  have hann : (ing.rolledBack cur r).unmarked.annotationValue? backendAnnotationKey =
      ing.annotationValue? backendAnnotationKey := by
    rw [annotationValue?_unmarked (by decide), rolledBack, annotationValue?_unannotated,
      if_neg (by decide), annotationValue?_pointedAt]
  obtain ⟨cur', hc, -⟩ :=
    serviceBackend_pointedAt hcur (serviceBackendFor r.serviceName r.servicePortText)
  refine ⟨validate_eq_ok.2 ⟨cur', ?_⟩, wantsSecurity_congr hann, ?_⟩
  · rw [serviceBackend_unmarked, rolledBack, serviceBackend_unannotated, hc]
  · rw [isDeleting_unmarked, rolledBack]
    exact isDeleting_pointedAt ing cur _

end Kube.Ingress

/-! ## Securing in place -/

/-- The app with its target replaced by the service a backup records: the app securing puts the
proxy in front of. -/
def App.withRecord (app : App) (r : BackupRecord) : App :=
  { app with ingress := { app.ingress with target := { app.ingress.target with
    name := r.serviceName, portText := r.servicePortText } } }

/-- The proxy plan securing builds for the app it protects, from the backend's issuer, the client
secret and the route of the protected service. -/
def App.planWith (app : App) (issuer secret : String) (route : Route) : ProxyPlan :=
  { url := app.publicUrl
    targetUrl := "http://" ++ route.host ++ ":" ++ toString route.port
    issuerUrl := issuer
    clientId := app.id
    clientSecret := secret
    app }

/-- Securing `app` is in place, with `r` the record kept on its ingress: its auth backend is of
kind Dex at `dex` and the controller holds a connection there; the client secret `secret` is
stored and Dex holds the client; the recorded service has the route `route`; and the proxy objects
of the plan built from these are stored. -/
structure World.SecuredFor (w : World) (app : App) (r : BackupRecord) (dex : Auth.DexSpec)
    (secret : String) (route : Route) : Prop where
  backend : ∃ spec, w.backends.lookup app.authBackendId = some spec ∧ spec.dex = some dex
  connected : w.connected.contains dex.apiAddress = true
  stored : w.storedSecretOf app.id = some secret
  client : w.holdsClient dex.apiAddress app.id = true
  routed : w.routes.lookup (app.recordRouteKey r) = some route
  proxy : ProxyInPlace ((app.withRecord r).planWith dex.publicUrl secret route).objects w

/-- What securing puts in place depends on the app only through the app it protects. -/
theorem World.SecuredFor.of_withRecord {w : World} {app app' : App} {r : BackupRecord}
    {dex : Auth.DexSpec} {secret : String} {route : Route} (h : w.SecuredFor app r dex secret route)
    (he : app.withRecord r = app'.withRecord r) : w.SecuredFor app' r dex secret route where
  backend := congrArg App.authBackendId he ▸ h.backend
  connected := h.connected
  stored := congrArg App.id he ▸ h.stored
  client := congrArg App.id he ▸ h.client
  routed := by
    rw [show app'.recordRouteKey r = (app'.withRecord r).ingress.target.routeKey from rfl, ← he]
    exact h.routed
  proxy := he ▸ h.proxy

/-- The apps of two ingresses under one key naming one backend protect the same app. -/
theorem appWith_withRecord {ing ing' : Ingress} (hkey : ing'.metadata.key = ing.metadata.key)
    (hann : ing'.annotationValue? backendAnnotationKey = ing.annotationValue? backendAnnotationKey)
    (s s' : ServiceBackend) (host : String) (auth : Option Auth.IngressAuthSpec) (r : BackupRecord) :
    (appWith ing' s' host auth).withRecord r = (appWith ing s host auth).withRecord r := by
  simp only [appWith, App.withRecord, hkey, hann]

/-! ## Runs that change nothing -/

namespace World

/-- What no call changes: the home namespace, the auth backends, the routes and the ingress
settings. -/
def SameSurroundings (w v : World) : Prop :=
  w.home = v.home ∧ w.backends = v.backends ∧ w.routes = v.routes ∧
    w.cluster.ingressAuths = v.cluster.ingressAuths

/-- Two worlds hold the same objects: the same ingress, Secret, Deployment and Service at every
key and the same clients at every Dex, under the same surroundings and connections. -/
structure SameObjects (w v : World) : Prop where
  surroundings : w.SameSurroundings v
  connected : w.connected = v.connected
  ingresses : ∀ k, w.cluster.ingresses.get? k = v.cluster.ingresses.get? k
  secrets : ∀ k, w.cluster.secrets.get? k = v.cluster.secrets.get? k
  deployments : ∀ k, w.cluster.deployments.get? k = v.cluster.deployments.get? k
  services : ∀ k, w.cluster.services.get? k = v.cluster.services.get? k
  clients : ∀ a, (w.dexAt a).clients = (v.dexAt a).clients

/-- Every call logged since `log` is of a kind in `ok`. -/
def CallsSince (w : World) (log : List String) (ok : CallKind → Prop) : Prop :=
  ∃ new, w.calls = log ++ new ∧
    ∀ e ∈ new, ∃ kind subject, ok kind ∧ e = kind.name ++ " " ++ subject

/-- A run from `v` that has changed nothing so far: no fault planned, no ingress update logged
since `log`, and the objects of `v`. -/
structure Still (w v : World) (log : List String) : Prop where
  quiet : w.Quiet
  calls : w.CallsSince log (· ≠ .updateIngress)
  same : w.SameObjects v

variable {w v : World} {log : List String}

theorem SameObjects.holdsClient (h : w.SameObjects v) (a id : String) :
    w.holdsClient a id = v.holdsClient a id := by
  simp only [World.holdsClient, h.clients a]

theorem SameObjects.storedSecretOf (h : w.SameObjects v) (id : String) :
    w.storedSecretOf id = v.storedSecretOf id := by
  simp only [World.storedSecretOf, World.clientSecretKey, h.surroundings.1, h.secrets]

/-- Storing a Secret that is already stored changes no object. -/
theorem SameObjects.withSecret (h : w.SameObjects v) {s : Secret}
    (hs : v.cluster.secrets.get? s.metadata.key = some s) : (w.withSecret s).SameObjects v :=
  { h with
    secrets := fun k => by
      by_cases hk : k = s.metadata.key
      · subst hk
        simp [World.withSecret, hs]
      · simp [World.withSecret, hk, h.secrets k] }

theorem SameObjects.withDeployment (h : w.SameObjects v) {d : Deployment}
    (hd : v.cluster.deployments.get? d.metadata.key = some d) :
    (w.withDeployment d).SameObjects v :=
  { h with
    deployments := fun k => by
      by_cases hk : k = d.metadata.key
      · subst hk
        simp [World.withDeployment, hd]
      · simp [World.withDeployment, hk, h.deployments k] }

theorem SameObjects.withService (h : w.SameObjects v) {s : Service}
    (hs : v.cluster.services.get? s.metadata.key = some s) : (w.withService s).SameObjects v :=
  { h with
    services := fun k => by
      by_cases hk : k = s.metadata.key
      · subst hk
        simp [World.withService, hs]
      · simp [World.withService, hk, h.services k] }

/-- A failure-free call of a kind other than an ingress update keeps a run that changed nothing
so far. -/
theorem Still.callFine {kind : CallKind} (hk : kind ≠ .updateIngress) (subject : String) :
    CallFine (fun w => w.Still v log) (fun _ => False) kind subject := by
  refine ⟨fun w hw => ⟨hw.quiet.passCall kind subject, ?_, { hw.same with }⟩,
    fun w hw hb => hw.quiet.not_blocked kind hb⟩
  obtain ⟨new, hcalls, hnew⟩ := hw.calls
  refine ⟨new ++ [kind.name ++ " " ++ subject], by simp [World.passCall, hcalls], fun e he => ?_⟩
  rcases List.mem_append.1 he with he | he
  · exact hnew e he
  · exact ⟨kind, subject, hk, List.mem_singleton.1 he⟩

theorem SameObjects.refl (w : World) : w.SameObjects w :=
  ⟨⟨rfl, rfl, rfl, rfl⟩, rfl, fun _ => rfl, fun _ => rfl, fun _ => rfl, fun _ => rfl, fun _ => rfl⟩

/-- With no fault planned, a run starts having changed nothing. -/
theorem Still.start (hq : w.Quiet) : w.Still w w.calls :=
  ⟨hq, ⟨[], by simp, by simp⟩, SameObjects.refl w⟩

end World

/-! ## The second reconciliation -/

section Still

variable {v : World} {log : List String}

theorem getIngress_still {k : ObjectKey} {ing : Ingress}
    (hv : v.cluster.ingresses.get? k = some ing) :
    Triple (fun w => w.Still v log) (getIngress k) (fun ing' w => w.Still v log ∧ ing' = ing)
      (fun _ => False) :=
  getIngress_triple (World.Still.callFine (by decide) _)
    (fun w ing' hw h => ⟨hw, by rw [hw.same.ingresses, hv] at h; exact (Option.some.inj h).symm⟩)
    (fun w hw h => by rw [hw.same.ingresses, hv] at h; cases h)

theorem ensureMarked_still {k : ObjectKey} {ing : Ingress}
    (hv : v.cluster.ingresses.get? k = some ing) (hm : ing.isMarked = true) :
    Triple (fun w => w.Still v log) (ensureMarked k) (fun _ w => w.Still v log) (fun _ => False) := by
  unfold ensureMarked
  refine Triple.bind (getIngress_still hv) fun ing' => Triple.assume fun h => ?_
  subst h
  rw [if_pos hm]
  exact Triple.pure fun _ hw => hw

theorem swapBackend_still {k : ObjectKey} {target : ServiceBackend} {ing : Ingress}
    {cur : ServiceBackend} (hv : v.cluster.ingresses.get? k = some ing)
    (hcur : ing.serviceBackend = .ok cur) (hlead : leadsTo cur target = true) :
    Triple (fun w => w.Still v log) (swapBackend k target) (fun _ w => w.Still v log)
      (fun _ => False) := by
  unfold swapBackend
  refine Triple.bind (Triple.within _ (getIngress_still hv)) fun ing' => Triple.assume fun h => ?_
  subst h
  rw [hcur]
  simp only [Op.ofShape, pure_bind]
  rw [show (cur.name == target.name && portText cur.port == portText target.port) =
    leadsTo cur target from rfl, hlead, if_pos rfl]
  exact Triple.pure fun _ hw => hw

theorem backupOrGet_still {app : App} {data r : BackupRecord} {ing : Ingress}
    (hv : v.cluster.ingresses.get? app.ingressKey = some ing)
    (hrec : ∃ text, ing.annotationValue? backupAnnotationKey = some text ∧
      BackupRecord.ofText text = .ok r) :
    Triple (fun w => w.Still v log) (backupOrGet app data) (fun b w => w.Still v log ∧ b = r)
      (fun _ => False) := by
  obtain ⟨text, ht, hr⟩ := hrec
  unfold backupOrGet
  refine Triple.bind (Triple.within _ (getIngress_still hv)) fun ing' => Triple.assume fun h => ?_
  subst h
  rw [ht]
  exact readBackup_triple (fun r' hr' _ hw => ⟨hw, by rw [hr] at hr'; exact (Except.ok.inj hr').symm⟩)
    (fun e he => by rw [hr] at he; cases he)

theorem registererFor_held {backend : AuthBackend} {dex : DexBackend} (hd : backend.dex = some dex)
    (hc : v.connected.contains dex.apiUrl = true) :
    Triple (fun w => w.Still v log) (registererFor backend)
      (fun a w => w.Still v log ∧ a = dex.apiUrl) (fun _ => False) := by
  unfold registererFor
  rw [hd]
  refine Triple.get_bind fun u => ?_
  cases hu : u.connected.contains dex.apiUrl with
  | true =>
    rw [if_pos rfl]
    exact Triple.pure fun w hw => ⟨hw.1, rfl⟩
  | false =>
    -- the connection is held, so the branch that opens one is never taken
    intro w hw
    have hheld : u.connected.contains dex.apiUrl = true := by
      rw [← hw.2, hw.1.same.connected]
      exact hc
    rw [hu] at hheld
    cases hheld

theorem register_reuses {address : String} {app : OidcApp} {secret : String}
    (hsecret : v.storedSecretOf app.id = some secret)
    (hheld : v.holdsClient address app.id = true) :
    Triple (fun w => w.Still v log) (register address app)
      (fun reg w => w.Still v log ∧ reg = ⟨app.id, secret⟩) (fun _ => False) := by
  unfold register
  refine Triple.get_bind fun u => Triple.mono
    (?_ : Triple (fun w => w.Still v log ∧ w.home = u.home) _ _ _)
    (fun w hw => ⟨hw.1, congrArg World.home hw.2⟩) (fun _ _ h => h) (fun _ h => h)
  -- the stored secret is read and reused
  have hgot : Triple (fun w => w.Still v log ∧ w.home = u.home)
      (getSecret ⟨u.home, clientSecretName app.id⟩)
      (fun stored w => (w.Still v log ∧ w.home = u.home) ∧ storedClientSecret stored = some secret)
      (fun _ => False) :=
    getSecret_triple ((World.Still.callFine (by decide) _).and_calm fun _ _ _ => Iff.rfl)
      fun w hw => ⟨hw, by
        rw [← hw.2, ← hsecret, ← hw.1.same.storedSecretOf]
        rfl⟩
  refine Triple.bind (Triple.within _ hgot) fun stored => Triple.assume fun hs => ?_
  rw [hs]
  simp only [pure_bind]
  -- Dex answers that the client exists
  have hcreate : Triple (fun w => w.Still v log ∧ w.home = u.home)
      (dexCreateClient address (clientOf { id := app.id, name := app.name, callbackUrl := app.callbackUrl } secret))
      (fun _ w => w.Still v log ∧ w.home = u.home) (fun _ => False) :=
    dexCreateClient_triple ((World.Still.callFine (by decide) _).and_calm fun _ _ _ => Iff.rfl)
      (fun w hw _ => hw) (fun w hw hnew => by
        rw [hw.1.same.holdsClient, id_clientOf, hheld] at hnew
        cases hnew)
  exact Triple.bind (Triple.within _ hcreate) fun _ => Triple.pure fun _ hw => ⟨hw.1, rfl⟩

theorem appOf_still {ing : Ingress} {cur : ServiceBackend} {host : String}
    (hcur : ing.serviceBackend = .ok cur) (hhost : ing.host = .ok host) :
    Triple (fun w => w.Still v log) (appOf ing)
      (fun app w => w.Still v log ∧
        app = appWith ing cur host (v.cluster.ingressAuths.get? ing.metadata.key)) (fun _ => False) :=
  appOf_triple (World.Still.callFine (by decide) _) hcur hhost fun w hw =>
    ⟨hw, by rw [hw.same.surroundings.2.2.2]⟩

/-- Provisioning what is already in place writes the proxy objects over themselves and leaves the
path alone. -/
theorem provision_still {plan : ProxyPlan} {ing : Ingress} {cur : ServiceBackend}
    (hplace : ProxyInPlace plan.objects v)
    (hv : v.cluster.ingresses.get? plan.app.ingressKey = some ing)
    (hcur : ing.serviceBackend = .ok cur)
    (hlead : leadsTo cur (proxyBackend plan.app.ingress.name) = true) :
    Triple (fun w => w.Still v log) (provision plan) (fun _ w => w.Still v log) (fun _ => False) := by
  obtain ⟨hsecret, hdeployment, hservice⟩ := hplace
  unfold provision
  have h₁ : Triple (fun w => w.Still v log) (ensureSecret plan.objects.secret)
      (fun _ w => w.Still v log) (fun _ => False) :=
    ensureSecret_triple (World.Still.callFine (by decide) _) fun w hw =>
      ⟨hw.quiet, hw.calls, hw.same.withSecret hsecret⟩
  have h₂ : Triple (fun w => w.Still v log) (ensureDeployment plan.objects.deployment)
      (fun _ w => w.Still v log) (fun _ => False) :=
    ensureDeployment_triple (World.Still.callFine (by decide) _) fun w hw =>
      ⟨hw.quiet, hw.calls, hw.same.withDeployment hdeployment⟩
  have h₃ : Triple (fun w => w.Still v log) (ensureService plan.objects.service)
      (fun _ w => w.Still v log) (fun _ => False) :=
    ensureService_triple (World.Still.callFine (by decide) _) fun w hw =>
      ⟨hw.quiet, hw.calls, hw.same.withService hservice⟩
  exact Triple.bind (Triple.within _ h₁) fun _ => Triple.bind (Triple.within _ h₂) fun _ =>
    Triple.bind (Triple.within _ h₃) fun _ => swapBackend_still hv hcur hlead

/-- Securing an app whose securing is in place, with its ingress guarded, changes nothing. -/
theorem secureApp_still {app : App} {r : BackupRecord} {dex : Auth.DexSpec} {secret : String}
    {route : Route} {ing : Ingress} {cur : ServiceBackend}
    (hin : v.SecuredFor app r dex secret route)
    (hv : v.cluster.ingresses.get? app.ingressKey = some ing)
    (hrec : ∃ text, ing.annotationValue? backupAnnotationKey = some text ∧
      BackupRecord.ofText text = .ok r)
    (hcur : ing.serviceBackend = .ok cur)
    (hlead : leadsTo cur (proxyBackend app.ingress.name) = true) :
    Triple (fun w => w.Still v log) (secureApp app) (fun _ w => w.Still v log) (fun _ => False) := by
  obtain ⟨spec, hspec, hdex⟩ := hin.backend
  unfold secureApp
  -- every read finds what the first securing found
  have hbackend : Triple (fun w => w.Still v log) (getAuthBackend app.authBackendId)
      (fun backend w => w.Still v log ∧
        backend = ⟨app.authBackendId, some ⟨dex.apiAddress, dex.publicUrl⟩⟩) (fun _ => False) :=
    getAuthBackend_triple (World.Still.callFine (by decide) _)
      (fun w spec' hw hl => ⟨hw, by
        rw [hw.same.surroundings.2.1, hspec] at hl
        cases hl
        rw [hdex]
        rfl⟩)
      (fun w hw hl => by rw [hw.same.surroundings.2.1, hspec] at hl; cases hl)
  refine Triple.bind (Triple.within _ hbackend) fun backend => Triple.assume fun hb => ?_
  subst hb
  refine Triple.bind (Triple.within _ (registererFor_held rfl hin.connected)) fun address =>
    Triple.assume fun ha => ?_
  subst ha
  refine Triple.bind (Triple.within _ (register_reuses hin.stored hin.client)) fun credentials =>
    Triple.assume fun hc => ?_
  subst hc
  refine Triple.bind (Triple.within _ (backupOrGet_still hv hrec)) fun backup =>
    Triple.assume fun hb => ?_
  subst hb
  have hrouted : Triple (fun w => w.Still v log) (routeService (app.withRecord backup).ingress.target)
      (fun route' w => w.Still v log ∧ route' = route) (fun _ => False) :=
    routeService_triple (World.Still.callFine (by decide) _)
      (fun w route' hw h => ⟨hw, by
        rw [hw.same.surroundings.2.2.1] at h
        exact Option.some.inj (h.symm.trans hin.routed)⟩)
      (fun w hw h => by
        rw [hw.same.surroundings.2.2.1] at h
        exact absurd (h.symm.trans hin.routed) (by simp))
  refine Triple.bind (Triple.within _ hrouted) fun route' => Triple.assume fun hr => ?_
  subst hr
  exact Triple.within _ (provision_still hin.proxy hv hcur hlead)

/-- Reconciling an ingress that securing left guarded, in a world where its securing is in place
and with no fault planned, secures it again and changes nothing. -/
theorem reconcile_still {ing : Ingress} {cur : ServiceBackend} {host : String} {r : BackupRecord}
    {dex : Auth.DexSpec} {secret : String} {route : Route}
    (hv : v.cluster.ingresses.get? ing.metadata.key = some ing)
    (hcur : ing.serviceBackend = .ok cur) (hhost : ing.host = .ok host) (hguard : ing.Guarded r)
    (hwant : ing.wantsSecurity = true) (hdel : ing.isDeleting = false)
    (hin : v.SecuredFor (appWith ing cur host (v.cluster.ingressAuths.get? ing.metadata.key)) r dex
      secret route) :
    Triple (fun w => w.Still v log) (reconcile ing) (fun o w => o = .secured ∧ w.Still v log)
      (fun _ => False) := by
  obtain ⟨hmarked, hrec, cur', hcur', hlead⟩ := hguard
  rw [hcur] at hcur'
  cases hcur'
  have hvalid : ing.validate = .ok () := Ingress.validate_eq_ok.2 ⟨cur, hcur⟩
  have hhandled : ing.isHandled = true := by
    simp only [Ingress.isMarked, Bool.and_eq_true, beq_iff_eq] at hmarked
    simp [Ingress.isHandled, hmarked.1]
  -- a marked ingress that asks to be secured goes down the securing branch
  refine reconcile_triple ?ignored ?invalid ?clean ?mark ?secure ?rollback
  case ignored => exact fun h => by rw [hwant] at h; cases h
  case invalid => exact fun e he => by rw [hvalid] at he; cases he
  case clean => exact fun _ h => by rw [hdel] at h; cases h
  case mark => exact fun _ _ _ h => by rw [hhandled] at h; cases h
  case rollback => exact fun _ _ _ h => by simp [hwant, hdel] at h
  case secure =>
    intro _ _ _ _
    unfold secureBranch
    refine Triple.bind (appOf_still hcur hhost) fun app => Triple.assume fun happ => ?_
    subst happ
    refine Triple.bind (Triple.within _ (secureApp_still hin hv hrec hcur hlead)) fun _ => ?_
    exact Triple.bind (ensureMarked_still hv hmarked) fun _ => Triple.pure fun _ hw => ⟨rfl, hw⟩

end Still

/-! ## The first reconciliation, whatever faults it met -/

/-- A condition that ignores log and plan is fine when nothing is asked of failures. -/
theorem Fine.free {P : World → Prop} (hP : Calm P) : Fine P fun _ => True :=
  Fine.of_calm hP (fun _ _ => trivial) fun _ _ _ => Iff.rfl

theorem World.SameSurroundings.withConnect {w v : World} (h : w.SameSurroundings v) (a : String) :
    ((w.withConnect a).withConnected a).SameSurroundings v := by
  unfold World.withConnected World.withConnect
  rw [World.setDex_eq]
  exact h

/-- A registration that returns hands out the secret stored for the client, and Dex holds the
client. -/
theorem register_leaves {address : String} {app : OidcApp} {P : World → Prop} (hP : Calm P)
    (hdraw : ∀ w, P w → P { w with secretsDrawn := w.secretsDrawn + 1 })
    (hsecret : ∀ w s, P w → P (w.withSecret (clientSecretObject w.home app s)))
    (hdex : ∀ w d, P w → P { w with dex := d }) :
    Triple P (register address app)
      (fun reg w => P w ∧ reg.clientId = app.id ∧ w.storedSecretOf app.id = some reg.clientSecret ∧
        w.holdsClient address app.id = true) (fun _ => True) := by
  -- a drawn secret is stored before it is registered; the secret registered is the stored one
  refine @register_triple _ address app P (fun s w => P w ∧ ∃ d, s = secretOf d)
    (fun s w => P w ∧ w.storedSecretOf app.id = some s) _ (Fine.free hP)
    (fun _ => Fine.free (hP.and fun _ _ _ => Iff.rfl)) (fun _ => Fine.free (hP.and fun _ _ _ => Iff.rfl))
    ?reuse ?draw ?store ?delete ?held ?new
  case reuse => exact fun _ _ hw hs => ⟨hw, hs⟩
  case draw => exact fun w hw _ => ⟨hdraw w hw, _, rfl⟩
  case store =>
    rintro w s ⟨hw, d, hd⟩
    rw [hd]
    exact ⟨hsecret w _ hw, World.storedSecretOf_withDrawn app d⟩
  case delete =>
    rintro w s ⟨hw, hs⟩
    refine ⟨?_, by rw [World.storedSecretOf_withoutClient]; exact hs⟩
    rw [World.withoutClient, World.setDex_eq]
    exact hdex w _ hw
  case held =>
    rintro w s ⟨hw, hs⟩ hheld
    exact ⟨hw, rfl, hs, hheld⟩
  case new =>
    rintro w s ⟨hw, hs⟩ -
    refine ⟨?_, rfl, by simpa [World.storedSecretOf, World.clientSecretKey] using hs,
      World.holdsClient_iff.2 ⟨clientOf app s, World.mem_clients_withClient.2 (Or.inr ⟨rfl, rfl, rfl⟩)⟩⟩
    rw [World.withClient, World.setDex_eq]
    exact hdex w _ hw

/-- The registerer found for a backend of kind Dex is its API address, which the controller then
holds a connection to. -/
theorem registererFor_connects {backend : AuthBackend} {P : World → Prop} (hP : Calm P)
    (hconnect : ∀ w a, P w → P ((w.withConnect a).withConnected a)) :
    Triple P (registererFor backend)
      (fun a w => (P w ∧ w.connected.contains a = true) ∧
        ∃ dex, backend.dex = some dex ∧ a = dex.apiUrl) (fun _ => True) :=
  registererFor_triple (Fine.free hP) (fun _ _ _ => trivial)
    (fun dex hd w hw hc => ⟨⟨hw, hc⟩, dex, hd, rfl⟩)
    (fun dex hd w hw _ _ => ⟨⟨hconnect w _ hw, by simp [World.withConnected]⟩, dex, hd, rfl⟩)
    (fun _ _ _ _ _ _ => trivial)

/-- Storing a backup unless one is there keeps the record the ingress carries, or the one offered
when it carries none, whatever faults the calls meet. -/
theorem backupOrGet_kept {app : App} {data : BackupRecord} {ing : Ingress} {P : World → Prop}
    (hP : Calm P) (hwrite : ∀ w ing, P w → P (w.withIngress ing))
    (hkey : ing.metadata.key = app.ingressKey) :
    Triple (fun w => P w ∧ w.cluster.ingresses.get? app.ingressKey = some ing) (backupOrGet app data)
      (fun b w => (P w ∧ w.cluster.ingresses.get? app.ingressKey = some (ing.backedWith b)) ∧
        ing.KeepsRecord data b) (fun _ => True) := by
  refine backupOrGet_triple (Fine.free (hP.and fun _ _ _ => Iff.rfl)) (fun _ _ _ => trivial)
    (fun _ _ text r hw hk ht hr => ?_) (fun _ _ _ _ _ _ _ _ => trivial)
    (fun _ _ hw hk hnone _ => ?_) (fun _ _ _ _ _ => trivial)
  · rw [hw.2] at hk
    cases hk
    exact ⟨⟨hw.1, by rw [hw.2, Ingress.backedWith, ht]⟩, Or.inr ⟨text, ht, hr⟩⟩
  · rw [hw.2] at hk
    cases hk
    refine ⟨⟨hwrite _ _ hw.1, ?_⟩, Or.inl ⟨hnone, rfl⟩⟩
    rw [World.get?_withIngress, Ingress.key_annotated, hkey, if_pos rfl, Ingress.backedWith, hnone]

/-- A securing that returns, whatever faults it met, leaves the ingress secured with the record it
kept, and its securing in place. -/
theorem secureApp_leaves {w₀ : World} {app : App} {ing : Ingress} {cur : ServiceBackend}
    (hkey : ing.metadata.key = app.ingressKey) (hcur : ing.serviceBackend = .ok cur) :
    Triple (fun w => w.SameSurroundings w₀ ∧ w.cluster.ingresses.get? app.ingressKey = some ing)
      (secureApp app)
      (fun _ w => ∃ r dex secret route, ing.KeepsRecord app.currentRecord r ∧
        (w.SameSurroundings w₀ ∧ w.SecuredFor app r dex secret route) ∧
        w.cluster.ingresses.get? app.ingressKey = some (ing.secured cur r))
      (fun _ => True) := by
  have hsame : Calm fun w => w.SameSurroundings w₀ := fun _ _ _ => Iff.rfl
  unfold secureApp
  -- the backend is looked up among the backends, which no call changes
  have hbackend : Triple (fun w => w.SameSurroundings w₀ ∧
        w.cluster.ingresses.get? app.ingressKey = some ing)
      (getAuthBackend app.authBackendId)
      (fun backend w => (w.SameSurroundings w₀ ∧ w.cluster.ingresses.get? app.ingressKey = some ing) ∧
        ∃ spec, w₀.backends.lookup app.authBackendId = some spec ∧
          backend = ⟨app.authBackendId, spec.dex.map fun d => ⟨d.apiAddress, d.publicUrl⟩⟩)
      (fun _ => True) :=
    getAuthBackend_triple (Fine.free (hsame.and fun _ _ _ => Iff.rfl) _ _)
      (fun w spec hw hl => ⟨hw, spec, by rw [← hw.1.2.1]; exact hl, rfl⟩) (fun _ _ _ => trivial)
  refine Triple.bind (Triple.within _ hbackend) fun backend =>
    Triple.assume fun ⟨spec, hspec, hb⟩ => ?_
  subst hb
  refine Triple.bind (Triple.within _ (registererFor_connects (hsame.and fun _ _ _ => Iff.rfl)
    fun w a hw => ⟨hw.1.withConnect a, by simpa using hw.2⟩)) fun a =>
    Triple.assume fun ⟨d, hdd, ha⟩ => ?_
  subst ha
  have hdd' : spec.dex.map (fun d => (⟨d.apiAddress, d.publicUrl⟩ : DexBackend)) = some d := hdd
  obtain ⟨dex, hdex, rfl⟩ := Option.map_eq_some_iff.1 hdd'
  rw [hdex]
  refine Triple.bind (Triple.within _ (register_leaves (fun _ _ _ => Iff.rfl) (fun _ hw => hw)
    (fun _ _ hw => hw) fun _ _ hw => hw)) fun credentials => ?_
  obtain ⟨cid, secret⟩ := credentials
  -- from here on only the ingress and the proxy objects are written
  let Reg : World → Prop := fun w => (w.SameSurroundings w₀ ∧
    w.connected.contains dex.apiAddress = true) ∧ w.storedSecretOf app.id = some secret ∧
    w.holdsClient dex.apiAddress app.id = true
  have hReg : Calm Reg := fun _ _ _ => Iff.rfl
  refine (Triple.assume fun hid => ?_ : Triple (fun w =>
      (Reg w ∧ w.cluster.ingresses.get? app.ingressKey = some ing) ∧ cid = app.id) _ _ _).mono
    (fun w ⟨⟨⟨hs, hi⟩, hc⟩, hid, hsec, hheld⟩ => ⟨⟨⟨⟨hs, hc⟩, hsec, hheld⟩, hi⟩, hid⟩)
    (fun _ _ h => h) (fun _ h => h)
  subst hid
  refine Triple.bind (Triple.within _ (backupOrGet_kept hReg (fun _ _ hw => hw) hkey)) fun backup =>
    Triple.assume fun hrec => ?_
  have hrouted : Triple (fun w => Reg w ∧
        w.cluster.ingresses.get? app.ingressKey = some (ing.backedWith backup))
      (routeService (app.withRecord backup).ingress.target)
      (fun route w => (Reg w ∧
        w.cluster.ingresses.get? app.ingressKey = some (ing.backedWith backup)) ∧
        w₀.routes.lookup (app.recordRouteKey backup) = some route) (fun _ => True) :=
    routeService_triple (Fine.free (hReg.and fun _ _ _ => Iff.rfl) _ _)
      (fun w route hw h => ⟨hw, by rw [← hw.1.1.1.2.2.1]; exact h⟩) (fun _ _ _ => trivial)
  refine Triple.bind (Triple.within _ hrouted) fun route => Triple.assume fun hroute => ?_
  -- the proxy Secret is not the Secret of the client secret
  have hsecretKeep : ∀ w, Reg w →
      Reg (w.withSecret ((app.withRecord backup).planWith dex.publicUrl secret route).objects.secret) :=
    fun w hw => ⟨hw.1, by
      rw [World.storedSecretOf_withSecret, if_neg (by
        rw [secret_key_objects]
        exact World.clientSecretKey_ne_proxy _ _)]
      exact hw.2.1, hw.2.2⟩
  refine Triple.within _ ((provision_stores (Fine.free hReg) (fun _ _ hw => hw) hsecretKeep
    (fun _ hw => hw) (fun _ hw => hw) (rfl : _ = app.ingressKey) (by rw [Ingress.key_backedWith, hkey])
    (by rw [Ingress.serviceBackend_backedWith, hcur])).mono (fun _ hw => hw) (fun _ w hw => ?_)
    (fun _ h => h))
  obtain ⟨⟨⟨⟨hs, hc⟩, hsec, hheld⟩, hplace⟩, hi⟩ := hw
  refine ⟨backup, dex, secret, route, hrec, ⟨hs, ⟨⟨spec, by rw [hs.2.1]; exact hspec, hdex⟩, hc, hsec,
    hheld, by rw [hs.2.2.1]; exact hroute, hplace⟩⟩, ?_⟩
  rw [hi, Ingress.secured, hkey]
  rfl

theorem World.calm_securedFor (app : App) (r : BackupRecord) (dex : Auth.DexSpec) (secret : String)
    (route : Route) : Calm fun w => w.SecuredFor app r dex secret route :=
  fun _ _ _ => ⟨fun h => ⟨h.1, h.2, h.3, h.4, h.5, h.6⟩, fun h => ⟨h.1, h.2, h.3, h.4, h.5, h.6⟩⟩

/-- What securing puts in place is not touched by writes of the ingress. -/
theorem World.SecuredFor.withIngress {w : World} {app : App} {r : BackupRecord} {dex : Auth.DexSpec}
    {secret : String} {route : Route} (h : w.SecuredFor app r dex secret route) (ing : Ingress) :
    (w.withIngress ing).SecuredFor app r dex secret route :=
  ⟨h.1, h.2, h.3, h.4, h.5, h.6⟩

/-- A reconciliation that returns `secured`, whatever faults it met, was handed an ingress of the
supported shape asking to be secured and not being deleted, and leaves it secured with the record
it kept and marked, with its securing in place. -/
theorem reconcile_secured_leaves {w₀ : World} {ing : Ingress} :
    Triple (fun w => w.SameSurroundings w₀ ∧ w.cluster.ingresses.get? ing.metadata.key = some ing)
      (reconcile ing)
      (fun o w => o = .secured → ∃ cur host r dex secret route, ing.serviceBackend = .ok cur ∧
        ing.host = .ok host ∧ ing.wantsSecurity = true ∧ ing.isDeleting = false ∧
        ing.KeepsRecord ⟨ing.authBackendId, cur.name, portText cur.port⟩ r ∧
        (w.SameSurroundings w₀ ∧ w.SecuredFor
          (appWith ing cur host (w₀.cluster.ingressAuths.get? ing.metadata.key)) r dex secret route) ∧
        w.cluster.ingresses.get? ing.metadata.key = some (ing.secured cur r).marked)
      (fun _ => True) := by
  have hP : Calm fun w => w.SameSurroundings w₀ ∧
      w.cluster.ingresses.get? ing.metadata.key = some ing := fun _ _ _ => Iff.rfl
  -- only the securing branch returns `secured`
  refine reconcile_triple ?ignored ?invalid ?clean ?mark ?secure ?rollback
  case ignored => exact fun _ _ _ _ h => by cases h
  case invalid => exact fun _ _ _ _ => trivial
  case clean => exact fun _ _ _ _ _ h => by cases h
  case mark =>
    exact fun _ _ _ _ => Triple.trivial.mono (fun _ h => h) (fun _ _ _ h => by cases h) (fun _ h => h)
  case rollback =>
    exact fun _ _ _ _ => rollbackBranch_returns.mono (fun _ h => h)
      (fun _ _ h h' => by rw [h] at h'; cases h') (fun _ h => h)
  case secure =>
    intro hv hwant hdel _
    obtain ⟨cur, hcur⟩ := Ingress.validate_eq_ok.1 hv
    obtain ⟨host, hhost⟩ := Ingress.host_eq_ok_of_serviceBackend hcur
    unfold secureBranch
    have happ : Triple (fun w => w.SameSurroundings w₀ ∧
          w.cluster.ingresses.get? ing.metadata.key = some ing) (appOf ing)
        (fun app w => (w.SameSurroundings w₀ ∧ w.cluster.ingresses.get? ing.metadata.key = some ing) ∧
          app = appWith ing cur host (w₀.cluster.ingressAuths.get? ing.metadata.key)) (fun _ => True) :=
      appOf_triple (Fine.free hP _ _) hcur hhost fun w hw => ⟨hw, by rw [hw.1.2.2.2]⟩
    refine Triple.bind happ fun app => Triple.assume fun happ => ?_
    subst happ
    refine Triple.bind (Triple.within _ (@secureApp_leaves w₀
      (appWith ing cur host (w₀.cluster.ingressAuths.get? ing.metadata.key)) ing cur rfl hcur)) fun _ => ?_
    -- the marks are ensured on the secured ingress, which leaves the rest in place
    intro w ⟨r, dex, secret, route, hrec, hin, hi⟩
    have hcalm : Calm fun w => w.SameSurroundings w₀ ∧ w.SecuredFor
        (appWith ing cur host (w₀.cluster.ingressAuths.get? ing.metadata.key)) r dex secret route :=
      Calm.and (fun _ _ _ => Iff.rfl) (World.calm_securedFor _ r dex secret route)
    have hmark := ensureMarked_stores (Fine.free hcalm) (fun _ ing' hw => ⟨hw.1, hw.2.withIngress ing'⟩)
      (Ingress.key_secured ing cur r)
    exact (Triple.bind hmark fun _ => Triple.pure fun w hw _ =>
      ⟨cur, host, r, dex, secret, route, hcur, hhost, hwant, hdel, hrec, hw.1, hw.2⟩) w ⟨hin, hi⟩

/-- A rollback that returns, whatever faults it met, leaves the ingress pointed at the service its
backup records and without the backup. -/
theorem rollbackApp_leaves {app : App} {k : ObjectKey} {ing : Ingress} {cur : ServiceBackend}
    (hk : app.ingressKey = k) (hkey : ing.metadata.key = k) (hcur : ing.serviceBackend = .ok cur) :
    Triple (fun w => w.cluster.ingresses.get? k = some ing) (rollbackApp app)
      (fun _ w => ∃ r, w.cluster.ingresses.get? k = some (ing.rolledBack cur r)) (fun _ => True) := by
  subst hk
  have hstore : ∀ x : Ingress, Calm fun w => w.cluster.ingresses.get? app.ingressKey = some x :=
    fun _ _ _ _ => Iff.rfl
  unfold rollbackApp
  have hread : Triple (fun w => w.cluster.ingresses.get? app.ingressKey = some ing) (getBackup app)
      (fun b w => w.cluster.ingresses.get? app.ingressKey = some ing ∧ ∀ r, b = some r →
        ∃ text, ing.annotationValue? backupAnnotationKey = some text ∧
          BackupRecord.ofText text = .ok r) (fun _ => True) :=
    getBackup_triple (Fine.free (hstore ing)) (fun _ _ _ => trivial)
      (fun w ing' text r hw hk ht hr => ⟨hw, fun r' hr' => by
        rw [hw] at hk
        cases hk
        cases hr'
        exact ⟨text, ht, hr⟩⟩)
      (fun _ _ _ _ _ _ _ _ => trivial) (fun _ _ hw _ _ => ⟨hw, fun _ h => by cases h⟩)
  refine Triple.bind (Triple.within _ hread) fun backup => ?_
  cases backup with
  | none => exact Triple.fail fun _ _ => trivial
  | some r =>
    refine (Triple.assume fun hrec => ?_).mono (fun w hw => ⟨hw.1, hw.2 r rfl⟩)
      (fun _ _ h => h) (fun _ h => h)
    -- the path is pointed back at the recorded service; the proxy, the client and its Secret go
    -- without touching the ingress
    let back := ing.pointedAt cur (serviceBackendFor r.serviceName r.servicePortText)
    have hunprovision : Triple (fun w => w.cluster.ingresses.get? app.ingressKey = some ing)
        (unprovision {
          ingressName := app.ingress.name, ingressNs := app.ingress.ns,
          serviceName := r.serviceName, servicePortText := r.servicePortText })
        (fun _ w => w.cluster.ingresses.get? app.ingressKey = some back) (fun _ => True) :=
      (unprovision_stores (Fine.free fun _ _ _ => Iff.rfl) (fun _ _ _ => trivial) rfl hkey hcur
        (fun _ _ => trivial) (fun _ _ => trivial) (fun _ _ => trivial)).mono
        (fun _ hw => ⟨trivial, hw⟩) (fun _ _ hw => hw.2) (fun _ h => h)
    refine Triple.bind (Triple.within _ hunprovision) fun _ => ?_
    have hfine := Fine.free (hstore back)
    refine Triple.bind (Triple.within _ (getAuthBackend_keeps hfine fun _ _ => trivial))
      fun backend => ?_
    refine Triple.bind (Triple.within _ (registererFor_keeps hfine (fun _ _ => trivial)
      fun w a hw => by simpa using hw)) fun a => ?_
    refine Triple.bind (Triple.within _ (unregister_keeps hfine (fun w hw => by simpa using hw)
      fun w hw => hw)) fun _ => ?_
    have hsome : (back.annotationValue? backupAnnotationKey).isSome := by
      obtain ⟨text, ht, -⟩ := hrec
      simp [back, ht]
    exact Triple.within _ ((deleteBackup_stores (Fine.free fun _ _ _ => Iff.rfl)
      (fun _ _ _ => trivial) (by simp [back, hkey]) hsome).mono (fun _ hw => ⟨trivial, hw⟩)
      (fun _ _ hw => ⟨r, hw.2⟩) (fun _ h => h))

/-- A reconciliation that returns `rolledBack`, whatever faults it met, was handed an ingress of the
supported shape that no longer asks to be secured or is being deleted, and leaves it rolled back
and unmarked. -/
theorem reconcile_rolledBack_leaves {ing : Ingress} :
    Triple (fun w => w.cluster.ingresses.get? ing.metadata.key = some ing) (reconcile ing)
      (fun o w => o = .rolledBack → ∃ cur r, ing.serviceBackend = .ok cur ∧
        (ing.wantsSecurity = false ∨ ing.isDeleting = true) ∧
        w.cluster.ingresses.get? ing.metadata.key = some (ing.rolledBack cur r).unmarked)
      (fun _ => True) := by
  have hstore : ∀ x : Ingress, Calm fun w => w.cluster.ingresses.get? ing.metadata.key = some x :=
    fun _ _ _ _ => Iff.rfl
  -- only the rollback branch returns `rolledBack`
  refine reconcile_triple ?ignored ?invalid ?clean ?mark ?secure ?rollback
  case ignored => exact fun _ _ _ _ h => by cases h
  case invalid => exact fun _ _ _ _ => trivial
  case clean => exact fun _ _ _ _ _ h => by cases h
  case mark =>
    exact fun _ _ _ _ => Triple.trivial.mono (fun _ h => h) (fun _ _ _ h => by cases h) (fun _ h => h)
  case secure =>
    exact fun _ _ _ _ => secureBranch_returns.mono (fun _ h => h)
      (fun _ _ h h' => by rw [h] at h'; cases h') (fun _ h => h)
  case rollback =>
    intro hv _ _ hreleased
    obtain ⟨cur, hcur⟩ := Ingress.validate_eq_ok.1 hv
    unfold rollbackBranch
    have happ : Triple (fun w => w.cluster.ingresses.get? ing.metadata.key = some ing) (appOf ing)
        (fun app w => w.cluster.ingresses.get? ing.metadata.key = some ing ∧
          app.ingressKey = ing.metadata.key) (fun _ => True) :=
      appOf_valid (Fine.free (hstore ing)) hv fun _ _ _ _ _ hw => ⟨hw, rfl⟩
    refine Triple.bind happ fun app => Triple.assume fun hk => ?_
    refine Triple.bind (Triple.within _ (rollbackApp_leaves hk rfl hcur)) fun _ => ?_
    -- the marks are removed from the rolled-back ingress
    intro w ⟨r, hi⟩
    have hunmark : Triple (fun w => True ∧ w.cluster.ingresses.get? ing.metadata.key =
          some (ing.rolledBack cur r)) (ensureUnmarked ing.metadata.key)
        (fun _ w => True ∧ w.cluster.ingresses.get? ing.metadata.key =
          some (ing.rolledBack cur r).unmarked) (fun _ => True) :=
      ensureUnmarked_stores (Fine.free fun _ _ _ => Iff.rfl) (fun _ _ _ => trivial)
        (by simp [Ingress.rolledBack])
    exact (Triple.bind hunmark fun _ => Triple.pure fun w hw _ => ⟨cur, r, hcur, hreleased, hw.2⟩) w
      ⟨trivial, hi⟩

/-- An ingress with neither mark that no longer asks to be secured, or is being deleted, is left
alone: reconciling it returns `ignored` or `clean` and makes no call. -/
theorem reconcile_released_idle {ing : Ingress} (hv : ing.validate = .ok ())
    (hhandled : ing.isHandled = false) (hfin : ing.hasSecurityFinalizer = false)
    (hreleased : ing.wantsSecurity = false ∨ ing.isDeleting = true) (v : World) :
    ∃ o, (o = .ignored ∨ o = .clean) ∧ exec (reconcile ing) v = (.ok o, v) := by
  have hidle : Triple (fun w => w = v) (reconcile ing)
      (fun o w => (o = .ignored ∨ o = .clean) ∧ w = v) (fun _ => False) := by
    -- released and unmarked, the ingress never reaches the marking or either saga
    refine reconcile_triple ?ignored ?invalid ?clean ?mark ?secure ?rollback
    case ignored => exact fun _ _ _ hw => ⟨Or.inl rfl, hw⟩
    case invalid => exact fun e he => by rw [hv] at he; cases he
    case clean => exact fun _ _ _ _ hw => ⟨Or.inr rfl, hw⟩
    case mark =>
      intro _ hwant hdel _
      simp [hwant, hdel] at hreleased
    case secure => exact fun _ _ _ h => by rw [hhandled] at h; cases h
    case rollback =>
      intro _ hasks hkeep _
      rw [hhandled] at hasks
      rw [hfin] at hkeep
      simp only [Bool.false_eq_true, or_false] at hasks hkeep
      simp [hasks, hkeep] at hreleased
  obtain ⟨o, w', hx, ho, rfl⟩ := hidle.exec_ok rfl
  exact ⟨o, ho, hx⟩

/-! ## The fixpoint -/

/-- Reconciliation reaches a fixpoint. Once a reconciliation of the stored ingress returns
`secured`, whatever faults it met, reconciling the ingress it left with no fault planned secures
it again, updates no ingress and leaves every ingress, Secret, Deployment, Service and Dex client
as it was. Once one returns `rolledBack`, reconciling the ingress it left returns `ignored` or
`clean` and makes no call, from any world. -/
theorem reconcile_reaches_fixpoint {ing : Ingress} {w w₁ : World} {o : Outcome}
    (hS : w.cluster.ingresses.get? ing.metadata.key = some ing)
    (h₁ : exec (reconcile ing) w = (.ok o, w₁)) :
    (o = .secured → ∃ S₁, w₁.cluster.ingresses.get? ing.metadata.key = some S₁ ∧
      ∀ faults, World.Quiet { w₁ with faults } → ∃ w₂,
        exec (reconcile S₁) { w₁ with faults } = (.ok .secured, w₂) ∧
        w₂.Still { w₁ with faults } w₁.calls) ∧
    (o = .rolledBack → ∃ S₁, w₁.cluster.ingresses.get? ing.metadata.key = some S₁ ∧
      ∀ v, ∃ o', (o' = .ignored ∨ o' = .clean) ∧ exec (reconcile S₁) v = (.ok o', v)) := by
  constructor
  · intro hsec
    obtain ⟨cur, host, r, dex, secret, route, hcur, hhost, hwant, hdel, hrec, ⟨hsame, hin⟩, hi⟩ :=
      reconcile_secured_leaves.returns ⟨⟨rfl, rfl, rfl, rfl⟩, hS⟩ h₁ hsec
    refine ⟨_, hi, fun faults hq => ?_⟩
    -- the ingress securing left is guarded, and names the backend and host it had
    have hguard := Ingress.guarded_secured hcur hrec
    obtain ⟨cur', hcur', -⟩ := hguard.path
    obtain ⟨hwant', hdel', hhost', hann⟩ := @Ingress.secured_keeps ing cur r
    have hkey : (ing.secured cur r).marked.metadata.key = ing.metadata.key := by simp
    -- so the second reconciliation protects the app the first one secured
    have hauth : ({ w₁ with faults } : World).cluster.ingressAuths.get?
        (ing.secured cur r).marked.metadata.key = w.cluster.ingressAuths.get? ing.metadata.key := by
      rw [hkey]
      exact congrArg (fun m => m.get? ing.metadata.key) hsame.2.2.2
    have hin' : ({ w₁ with faults } : World).SecuredFor (appWith (ing.secured cur r).marked cur' host
        (({ w₁ with faults } : World).cluster.ingressAuths.get?
          (ing.secured cur r).marked.metadata.key)) r dex secret route := by
      have h : w₁.SecuredFor (appWith (ing.secured cur r).marked cur' host
          (w.cluster.ingressAuths.get? ing.metadata.key)) r dex secret route :=
        hin.of_withRecord (appWith_withRecord hkey hann cur cur' host _ r).symm
      rw [hauth]
      exact ⟨h.1, h.2, h.3, h.4, h.5, h.6⟩
    have hv : ({ w₁ with faults } : World).cluster.ingresses.get?
        (ing.secured cur r).marked.metadata.key = some (ing.secured cur r).marked := by
      rw [hkey]
      exact hi
    obtain ⟨o', w₂, hx, ho', hstill⟩ := (reconcile_still hv hcur' (hhost'.trans hhost) hguard
      (hwant'.trans hwant) (hdel'.trans hdel) hin').exec_ok (World.Still.start hq)
    subst ho'
    exact ⟨w₂, hx, hstill⟩
  · intro hrb
    obtain ⟨cur, r, hcur, hreleased, hi⟩ := reconcile_rolledBack_leaves.returns hS h₁ hrb
    obtain ⟨hv, hwant, hdel⟩ := Ingress.rolledBack_keeps r hcur
    refine ⟨_, hi, reconcile_released_idle hv (Ingress.isHandled_unmarked _)
      (Ingress.hasSecurityFinalizer_unmarked _) ?_⟩
    rw [hwant, hdel]
    exact hreleased

/-- The sample ingress, marked and then secured with every call going through: reconciling what
securing left, with no fault planned, secures it again and changes nothing. -/
theorem sample_secured_fixpoint :
    ∃ w ing w₁, w.cluster.ingresses.get? ing.metadata.key = some ing ∧
      exec (reconcile ing) w = (.ok .secured, w₁) ∧
      ∃ S₁, w₁.cluster.ingresses.get? ing.metadata.key = some S₁ ∧
        ∀ faults, World.Quiet { w₁ with faults } → ∃ w₂,
          exec (reconcile S₁) { w₁ with faults } = (.ok .secured, w₂) ∧
          w₂.Still { w₁ with faults } w₁.calls := by
  have h := portedIngress_fresh { name := some "http" }
  obtain ⟨_, w₁, -, rfl, hset₁, hstored₁⟩ := Triple.exec_ok
    (reconcile_marksReady h.serviceBackend h.wantsSecurity h.isDeleting h.isHandled)
    ⟨portedWorld_settled _ rfl, rfl⟩
  obtain ⟨_, w₂, hsecured, rfl, -⟩ := Triple.exec_ok h.reconcile_mark ⟨hset₁, hstored₁⟩
  have hS : w₁.cluster.ingresses.get? (portedIngress { name := some "http" }).mark.metadata.key =
      some (portedIngress { name := some "http" }).mark := by
    rw [Ingress.key_mark]
    exact hstored₁
  exact ⟨w₁, _, w₂, hS, hsecured, (reconcile_reaches_fixpoint hS hsecured).1 rfl⟩

end IngressGuard
