import IngressGuard.Proofs.ClientSecrets
import IngressGuard.Proofs.RoundTrip

/-!
# What a completed rollback leaves behind

A rollback points the ingress back at its recorded service and deletes the three proxy objects;
it then removes the app's client from the Dex of the backend its backup names and deletes the
Secret holding the client secret; only then does it drop the backup and the marks. So a
reconciliation that returns `rolledBack` has left no proxy object, no client-secret Secret and no
client of the app at that one Dex, whatever faults were planned and whatever world it ran in
(`reconcile_rolledBack_cleans`). Every other Dex keeps the clients it had.

Securing registers at the Dex of the backend the ingress names at the time, while the backup
keeps the backend of the first securing. Once the backend annotation has named backends at two
Dex addresses, a client stays behind at the other one. Where every backend of Dex kind names one
Dex address and every client is held there (`World.OneDex`), which every step keeps, a rollback
that returns leaves no client of the app at any Dex (`rolledBack_leaves_nothing`).
-/

namespace IngressGuard

open IngressGuard.Kube IngressGuard.Dex

namespace World

/-- None of the proxy objects of the ingress at a key is stored. -/
def ProxyGone (w : World) (k : ObjectKey) : Prop :=
  w.cluster.secrets.get? k.proxy = none ∧ w.cluster.deployments.get? k.proxy = none ∧
    w.cluster.services.get? k.proxy = none

/-- The backup carried by the ingress stored at a key reads as a record. -/
def BackupReads (w : World) (k : ObjectKey) (r : BackupRecord) : Prop :=
  ∃ ing text, w.cluster.ingresses.get? k = some ing ∧
    ing.annotationValue? backupAnnotationKey = some text ∧ BackupRecord.ofText text = .ok r

/-- The home namespace, the backends and the clients of every Dex are those of `w₀`. -/
def SameDex (w w₀ : World) : Prop :=
  w.home = w₀.home ∧ w.backends = w₀.backends ∧ ∀ b, (w.dexAt b).clients = (w₀.dexAt b).clients

/-- What a rollback of the app `id` on the ingress at `k` has left, measured from the world `w₀`
it started in: no proxy object, no client-secret Secret, and no client of the app at the Dex of
the backend the backup named, with every other Dex as it was. -/
structure RolledBackFrom (w w₀ : World) (k : ObjectKey) (id : String) : Prop where
  proxyGone : w.ProxyGone k
  secretGone : w.cluster.secrets.get? (w.clientSecretKey id) = none
  unregistered : ∃ r spec dex, w₀.BackupReads k r ∧
    w₀.backends.lookup r.authBackendId = some spec ∧ spec.dex = some dex ∧
    w.holdsClient dex.apiAddress id = false ∧
    ∀ b, b ≠ dex.apiAddress → (w.dexAt b).clients = (w₀.dexAt b).clients

@[simp] theorem home_withConnected (w : World) (a : String) : (w.withConnected a).home = w.home :=
  rfl
@[simp] theorem backends_withConnected (w : World) (a : String) :
    (w.withConnected a).backends = w.backends := rfl
@[simp] theorem dexAt_withConnected (w : World) (a b : String) :
    (w.withConnected a).dexAt b = w.dexAt b := rfl

theorem SameDex.withConnect {w w₀ : World} (h : w.SameDex w₀) (a : String) :
    ((w.withConnect a).withConnected a).SameDex w₀ :=
  ⟨by simpa using h.1, by simpa using h.2.1, fun b => by simpa using h.2.2 b⟩

theorem RolledBackFrom.withIngress {w w₀ : World} {k : ObjectKey} {id : String}
    (h : w.RolledBackFrom w₀ k id) (ing : Ingress) : (w.withIngress ing).RolledBackFrom w₀ k id :=
  ⟨h.proxyGone, h.secretGone, h.unregistered⟩

end World

theorem calm_rolledBackFrom (w₀ : World) (k : ObjectKey) (id : String) :
    Calm fun w => w.RolledBackFrom w₀ k id :=
  fun _ _ _ => ⟨fun h => ⟨h.1, h.2, h.3⟩, fun h => ⟨h.1, h.2, h.3⟩⟩

/-- The Dex of a backend read from its spec is the one the spec names. -/
theorem dex_of_spec {backend : AuthBackend} {spec : Auth.AuthBackendSpec}
    (hd : backend.dex = spec.dex.map fun d => ⟨d.apiAddress, d.publicUrl⟩) {dex : DexBackend}
    (hdex : backend.dex = some dex) : ∃ d, spec.dex = some d ∧ dex.apiUrl = d.apiAddress := by
  rw [hd] at hdex
  obtain ⟨d, hd', rfl⟩ := Option.map_eq_some_iff.1 hdex
  exact ⟨d, hd', rfl⟩

/-! ## The rollback saga -/

/-- Unprovisioning removes the three proxy objects, and keeps a condition that survives the
ingress write and the removals. -/
theorem unprovision_removes {removal : ProxyRemoval} {P err : World → Prop} (hP : Calm P)
    (herr : ∀ w, P w → err w) (hE : Calm err) (hwrite : ∀ w ing, P w → P (w.withIngress ing))
    (hservice : ∀ w k, P w → P (w.withoutService k))
    (hdeployment : ∀ w k, P w → P (w.withoutDeployment k))
    (hsecret : ∀ w k, P w → P (w.withoutSecret k)) :
    Triple P (unprovision removal)
      (fun _ w => P w ∧ w.ProxyGone ⟨removal.ingressNs, removal.ingressName⟩) err := by
  have hfine : ∀ {Q : World → Prop}, Calm Q → Fine (fun w => P w ∧ Q w) err :=
    fun hQ => Fine.of_calm (hP.and hQ) (fun w hw => herr w hw.1) hE
  let k : ObjectKey := ⟨removal.ingressNs, proxyName removal.ingressName⟩
  unfold unprovision
  refine Triple.bind (swapBackend_keeps (Fine.of_calm hP herr hE) herr hwrite) fun _ => ?_
  -- the Service, the Deployment and the Secret go in turn, each staying gone
  have hsvc : Triple P (deleteService k) (fun _ w => P w ∧ w.cluster.services.get? k = none) err :=
    deleteService_triple (Fine.of_calm hP herr hE _ _)
      fun w hw => ⟨hservice w k hw, by simp [World.withoutService]⟩
  have hdep : Triple (fun w => P w ∧ w.cluster.services.get? k = none) (deleteDeployment k)
      (fun _ w => (P w ∧ w.cluster.services.get? k = none) ∧
        w.cluster.deployments.get? k = none) err :=
    deleteDeployment_triple (hfine (fun _ _ _ => Iff.rfl) _ _)
      fun w hw => ⟨⟨hdeployment w k hw.1, hw.2⟩, by simp [World.withoutDeployment]⟩
  have hsec : Triple (fun w => (P w ∧ w.cluster.services.get? k = none) ∧
        w.cluster.deployments.get? k = none) (deleteSecret k)
      (fun _ w => P w ∧ w.ProxyGone ⟨removal.ingressNs, removal.ingressName⟩) err :=
    deleteSecret_triple ((hfine fun _ _ _ => Iff.rfl).and (fun _ _ _ => Iff.rfl) _ _)
      fun w hw => ⟨hsecret w k hw.1.1, by simp [World.withoutSecret, k, ObjectKey.proxy], hw.2,
        hw.1.2⟩
  exact Triple.bind (Triple.within _ hsvc) fun _ =>
    Triple.bind (Triple.within _ hdep) fun _ => Triple.within _ hsec

/-- Unregistering deletes the client at one Dex and then the Secret of its client secret; every
other Dex keeps its clients and the proxy objects stay gone. -/
theorem unregister_removes (w₀ : World) (k : ObjectKey) {address id : String} :
    Triple (fun w => w.SameDex w₀ ∧ w.ProxyGone k) (unregister address id)
      (fun _ w => w.ProxyGone k ∧ w.cluster.secrets.get? (w.clientSecretKey id) = none ∧
        w.holdsClient address id = false ∧
        ∀ b, b ≠ address → (w.dexAt b).clients = (w₀.dexAt b).clients) (fun _ => True) := by
  have htrue : Calm fun _ => True := fun _ _ _ => Iff.rfl
  have hfineQ : Fine (fun w => w.ProxyGone k ∧ w.home = w₀.home ∧
      w.holdsClient address id = false ∧
      ∀ b, b ≠ address → (w.dexAt b).clients = (w₀.dexAt b).clients) (fun _ => True) :=
    Fine.of_calm (fun _ _ _ => Iff.rfl) (fun _ _ => trivial) htrue
  refine unregister_triple (Fine.of_calm (fun _ _ _ => Iff.rfl) (fun _ _ => trivial) htrue)
    hfineQ ?_ ?_
  · rintro w ⟨hsame, hgone⟩
    refine ⟨by simpa [World.ProxyGone] using hgone, by simpa using hsame.1, ?_, fun b hb => ?_⟩
    · cases hh : (w.withoutClient address id).holdsClient address id with
      | false => rfl
      | true =>
        obtain ⟨client, hmem⟩ := World.holdsClient_iff.1 hh
        exact absurd rfl ((World.mem_clients_withoutClient.1 hmem).2 rfl)
    · simp [World.withoutClient, hb, hsame.2.2 b]
  · rintro w ⟨hgone, -, hheld, hother⟩
    -- the Secret of a client secret is no proxy object
    have hne : w.clientSecretKey id ≠ k.proxy := World.clientSecretKey_ne_proxy _ _
    refine ⟨⟨?_, hgone.2.1, hgone.2.2⟩, ?_, hheld, hother⟩
    · simpa [World.withoutSecret, Ne.symm hne] using hgone.1
    · simp [World.withoutSecret, World.clientSecretKey]

/-- A rollback that returns has removed the proxy objects, the Secret of the client secret, and
the client at the Dex of the backend its backup names, from the ingress as it was when the
rollback started; every other Dex keeps its clients. -/
theorem rollbackApp_cleans {w₀ : World} {app : App} {k : ObjectKey} {id : String}
    (hk : app.ingressKey = k) (hid : app.id = id) :
    Triple (fun w => w.SameDex w₀ ∧ w.cluster.ingresses.get? k = w₀.cluster.ingresses.get? k)
      (rollbackApp app) (fun _ w => w.RolledBackFrom w₀ k id) (fun _ => True) := by
  subst hk hid
  have htrue : Calm fun _ => True := fun _ _ _ => Iff.rfl
  unfold rollbackApp
  -- the backup is read from the ingress as it was
  have hread : Triple (fun w => w.SameDex w₀ ∧
        w.cluster.ingresses.get? app.ingressKey = w₀.cluster.ingresses.get? app.ingressKey)
      (getBackup app)
      (fun b w => w.SameDex w₀ ∧ ∀ r, b = some r → w₀.BackupReads app.ingressKey r)
      (fun _ => True) := by
    refine getBackup_triple (Fine.of_calm (fun _ _ _ => Iff.rfl) (fun _ _ => trivial) htrue)
      (fun _ _ _ => trivial) (fun w ing text r hw hk ht hr => ⟨hw.1, fun r' hr' => ?_⟩)
      (fun _ _ _ _ _ _ _ _ => trivial) (fun _ _ hw _ _ => ⟨hw.1, fun _ h => by cases h⟩)
    cases hr'
    exact ⟨ing, text, hw.2 ▸ hk, ht, hr⟩
  refine Triple.bind (Triple.within _ hread) fun backup => ?_
  cases backup with
  | none => exact Triple.fail fun _ _ => trivial
  | some r =>
    -- from here on the record `r` read from the ingress is fixed
    refine (Triple.assume fun hreads => ?_).mono (fun w hw => ⟨hw.1, hw.2 r rfl⟩)
      (fun _ _ h => h) (fun _ h => h)
    have hsame : Calm fun w => w.SameDex w₀ := fun _ _ _ => Iff.rfl
    have hunprovision : Triple (fun w => w.SameDex w₀)
        (unprovision
          { ingressName := app.ingress.name, ingressNs := app.ingress.ns,
            serviceName := r.serviceName, servicePortText := r.servicePortText })
        (fun _ w => w.SameDex w₀ ∧ w.ProxyGone app.ingressKey) (fun _ => True) :=
      unprovision_removes hsame (fun _ _ => trivial) htrue (fun _ _ hw => hw)
        (fun _ _ hw => hw) (fun _ _ hw => hw) (fun _ _ hw => hw)
    refine Triple.bind (Triple.within _ hunprovision) fun _ => ?_
    have hQ : Calm fun w => w.SameDex w₀ ∧ w.ProxyGone app.ingressKey := fun _ _ _ => Iff.rfl
    -- the backend the record names, and the Dex it names
    have hbackend : Triple (fun w => w.SameDex w₀ ∧ w.ProxyGone app.ingressKey)
        (getAuthBackend r.authBackendId)
        (fun backend w => (w.SameDex w₀ ∧ w.ProxyGone app.ingressKey) ∧
          ∃ spec, w₀.backends.lookup r.authBackendId = some spec ∧
            backend.dex = spec.dex.map fun d => ⟨d.apiAddress, d.publicUrl⟩) (fun _ => True) :=
      getAuthBackend_triple (Fine.of_calm hQ (fun _ _ => trivial) htrue _ _)
        (fun w spec hw hl => ⟨hw, spec, by rw [← hw.1.2.1]; exact hl, rfl⟩)
        (fun _ _ _ => trivial)
    refine Triple.bind (Triple.within _ hbackend) fun backend =>
      Triple.assume fun ⟨spec, hl, hd⟩ => ?_
    have hregisterer : Triple (fun w => w.SameDex w₀ ∧ w.ProxyGone app.ingressKey)
        (registererFor backend)
        (fun a w => (w.SameDex w₀ ∧ w.ProxyGone app.ingressKey) ∧
          ∃ d, spec.dex = some d ∧ a = d.apiAddress) (fun _ => True) :=
      registererFor_triple (Fine.of_calm hQ (fun _ _ => trivial) htrue) (fun _ _ _ => trivial)
        (fun _ hdex _ hw _ => ⟨hw, dex_of_spec hd hdex⟩)
        (fun _ hdex _ hw _ _ =>
          ⟨⟨hw.1.withConnect _, by simpa [World.ProxyGone] using hw.2⟩, dex_of_spec hd hdex⟩)
        (fun _ _ _ _ _ _ => trivial)
    refine Triple.bind (Triple.within _ hregisterer) fun a => Triple.assume fun ⟨d, hsd, ha⟩ => ?_
    subst ha
    -- the client goes at that Dex only, then its Secret
    have hunregister : Triple (fun w => w.SameDex w₀ ∧ w.ProxyGone app.ingressKey)
        (unregister d.apiAddress app.id)
        (fun _ w => w.RolledBackFrom w₀ app.ingressKey app.id) (fun _ => True) :=
      (unregister_removes w₀ app.ingressKey).mono (fun _ hw => hw)
        (fun _ w ⟨hgone, hsecret, hheld, hother⟩ =>
          ⟨hgone, hsecret, r, spec, d, hreads, hl, hsd, hheld, hother⟩) (fun _ h => h)
    refine Triple.bind (Triple.within _ hunregister) fun _ => ?_
    exact Triple.within _ (deleteBackup_keeps
      (Fine.of_calm (calm_rolledBackFrom _ _ _) (fun _ _ => trivial) htrue)
      (fun _ _ => trivial) fun _ ing hw => hw.withIngress ing)

/-- A reconciliation that returns `rolledBack` has left no proxy object of the ingress, no
Secret of its client secret and no client of it at the Dex of the backend its backup named,
with every other Dex as it was; whatever faults were planned. -/
theorem reconcile_rolledBack_cleans {ing : Ingress} {w w' : World}
    (hx : exec (reconcile ing) w = (.ok .rolledBack, w')) :
    w'.RolledBackFrom w ing.metadata.key ing.metadata.key.text := by
  have htrue : Calm fun _ => True := fun _ _ _ => Iff.rfl
  have hpre : Calm fun v => v.SameDex w ∧
      v.cluster.ingresses.get? ing.metadata.key = w.cluster.ingresses.get? ing.metadata.key :=
    fun _ _ _ => Iff.rfl
  have hfine := Fine.of_calm hpre (fun _ _ => trivial) htrue
  have hstep : Triple (fun v => v.SameDex w ∧
        v.cluster.ingresses.get? ing.metadata.key = w.cluster.ingresses.get? ing.metadata.key)
      (reconcile ing)
      (fun o v => o = .rolledBack → v.RolledBackFrom w ing.metadata.key ing.metadata.key.text)
      (fun _ => True) := by
    -- only the rollback branch returns `rolledBack`
    refine reconcile_triple ?ignored ?invalid ?clean ?mark ?secure ?rollback
    case ignored => exact fun _ _ _ _ h => by cases h
    case invalid => exact fun _ _ _ _ => trivial
    case clean => exact fun _ _ _ _ _ h => by cases h
    case mark =>
      exact fun _ _ _ _ => Triple.trivial.mono (fun _ h => h) (fun _ _ _ h => by cases h)
        (fun _ h => h)
    case secure =>
      exact fun _ _ _ _ => secureBranch_returns.mono (fun _ h => h) (fun _ _ h h' => by
        rw [h] at h'; cases h') (fun _ h => h)
    case rollback =>
      intro hv _ _ _
      unfold rollbackBranch
      have happ : Triple (fun v => v.SameDex w ∧
            v.cluster.ingresses.get? ing.metadata.key = w.cluster.ingresses.get? ing.metadata.key)
          (appOf ing) (fun app v => (v.SameDex w ∧
            v.cluster.ingresses.get? ing.metadata.key = w.cluster.ingresses.get? ing.metadata.key) ∧
            app.ingressKey = ing.metadata.key ∧ app.id = ing.metadata.key.text) (fun _ => True) :=
        appOf_valid hfine hv fun _ _ _ _ _ hv' => ⟨hv', rfl, rfl⟩
      refine Triple.bind happ fun app => Triple.assume fun ⟨hk, hid⟩ => ?_
      refine Triple.bind (Triple.within _ (rollbackApp_cleans hk hid)) fun _ => ?_
      exact Triple.bind (ensureUnmarked_keeps
        (Fine.of_calm (calm_rolledBackFrom _ _ _) (fun _ _ => trivial) htrue)
        (fun _ _ => trivial) fun _ ing hv => hv.withIngress ing) fun _ =>
        Triple.pure fun _ hv _ => hv
  exact hstep.returns ⟨⟨rfl, rfl, fun _ => rfl⟩, rfl⟩ hx rfl

/-! ## One Dex address -/

section OneDex

variable {address : String} {ids : String → Prop}

theorem calm_oneDex (address : String) (ids : String → Prop) :
    Calm fun w => w.OneDex address ids :=
  fun _ _ _ => Iff.rfl

/-- Securing an app of an id in `ids` keeps every client at the one Dex: it registers there. -/
theorem secureApp_keepsOneDex (app : App) (hid : ids app.id) :
    Triple (fun w => w.OneDex address ids) (secureApp app) (fun _ w => w.OneDex address ids)
      (fun w => w.OneDex address ids) := by
  have hfine := Fine.keep (calm_oneDex address ids)
  unfold secureApp
  refine Triple.bind (Triple.within _ (getAuthBackend_named hfine (fun _ hw => hw)
    fun _ hw => hw.1)) fun backend => ?_
  refine Triple.bind (Triple.within _ (Triple.assume fun hb => registererFor_named hfine
    (fun _ hw => hw) (fun _ _ hw => hw.withConnect _) hb)) fun a => ?_
  have hregister : Triple (fun w => w.OneDex address ids ∧ a = address)
      (register a { id := app.id, name := app.id, callbackUrl := app.callbackUrl })
      (fun _ w => w.OneDex address ids) (fun w => w.OneDex address ids) :=
    Triple.assume fun ha => by
      subst ha
      exact register_oneDex _ hid
  refine Triple.bind (Triple.within _ hregister) fun _ => ?_
  -- the backup and the proxy write the cluster only
  refine Triple.bind (Triple.within _ (backupOrGet_keeps hfine (fun _ hw => hw)
    fun _ _ hw => hw)) fun _ => ?_
  refine Triple.bind (Triple.within _ (routeService_keeps hfine fun _ hw => hw)) fun _ => ?_
  exact Triple.within _ (provision_triple hfine (fun _ hw => hw) (fun _ hw => hw) (fun _ hw => hw)
    ((swapBackend_keeps hfine (fun _ hw => hw) fun _ _ hw => hw).mono (fun _ hw => hw.1)
      (fun _ _ h => h) (fun _ h => h)))

/-- Rolling back keeps every client at the one Dex: it only deletes clients. -/
theorem rollbackApp_keepsOneDex (app : App) :
    Triple (fun w => w.OneDex address ids) (rollbackApp app) (fun _ w => w.OneDex address ids)
      (fun w => w.OneDex address ids) := by
  have hfine := Fine.keep (calm_oneDex address ids)
  unfold rollbackApp
  refine Triple.bind (Triple.within _ (getBackup_keeps hfine fun _ hw => hw)) fun backup => ?_
  cases backup with
  | none => exact Triple.fail fun _ hw => hw
  | some r =>
    refine Triple.bind (Triple.within _ (unprovision_triple
      (swapBackend_keeps hfine (fun _ hw => hw) fun _ _ hw => hw) hfine
      (fun _ hw => hw) (fun _ hw => hw) (fun _ hw => hw))) fun _ => ?_
    refine Triple.bind (Triple.within _ (getAuthBackend_named hfine (fun _ hw => hw)
      fun _ hw => hw.1)) fun backend => ?_
    refine Triple.bind (Triple.within _ (Triple.assume fun hb => registererFor_named hfine
      (fun _ hw => hw) (fun _ _ hw => hw.withConnect _) hb)) fun a => ?_
    refine Triple.bind (Triple.within _ ((unregister_keeps hfine
      (fun _ hw => hw.withoutClient _ _) fun _ hw => hw).mono (fun _ hw => hw.1)
      (fun _ _ h => h) (fun _ h => h))) fun _ => ?_
    exact Triple.within _ (deleteBackup_keeps hfine (fun _ hw => hw) fun _ _ hw => hw)

/-- Every reconciliation of an ingress whose key is in `ids` keeps every client at the one
Dex. -/
theorem reconcile_keepsOneDex (ing : Ingress) (hid : ids ing.metadata.key.text) :
    Triple (fun w => w.OneDex address ids) (reconcile ing) (fun _ w => w.OneDex address ids)
      (fun w => w.OneDex address ids) := by
  have hfine := Fine.keep (calm_oneDex address ids)
  -- marking and unmarking write the ingress only
  have hmarked : Triple (fun w => w.OneDex address ids) (ensureMarked ing.metadata.key)
      (fun _ w => w.OneDex address ids) (fun w => w.OneDex address ids) :=
    ensureMarked_keeps hfine (fun _ hw => hw) fun _ _ hw => hw
  have hunmarked : Triple (fun w => w.OneDex address ids) (ensureUnmarked ing.metadata.key)
      (fun _ w => w.OneDex address ids) (fun w => w.OneDex address ids) :=
    ensureUnmarked_keeps hfine (fun _ hw => hw) fun _ _ hw => hw
  refine reconcile_triple ?ignored ?invalid ?clean ?mark ?secure ?rollback
  case ignored => exact fun _ _ _ hw => hw
  case invalid => exact fun _ _ _ hw => hw
  case clean => exact fun _ _ _ _ hw => hw
  case mark => exact fun _ _ _ _ => hmarked
  case secure =>
    intro hv _ _ _
    unfold secureBranch
    refine Triple.bind (appOf_id hfine hv) fun app => ?_
    have hsecure : Triple (fun w => w.OneDex address ids ∧ app.id = ing.metadata.key.text)
        (secureApp app) (fun _ w => w.OneDex address ids) (fun w => w.OneDex address ids) :=
      Triple.assume fun happ => secureApp_keepsOneDex app (happ ▸ hid)
    refine Triple.bind (Triple.within _ hsecure) fun _ => ?_
    exact Triple.bind hmarked fun _ => Triple.pure fun _ hw => hw
  case rollback =>
    intro hv _ _ _
    unfold rollbackBranch
    refine Triple.bind (appOf_keeps hfine hv) fun app => ?_
    refine Triple.bind (Triple.within _ (rollbackApp_keepsOneDex app)) fun _ => ?_
    exact Triple.bind hunmarked fun _ => Triple.pure fun _ hw => hw

/-- Every step for apps of ids in `ids` keeps every client at the one Dex: the sagas by the
triples above, the edits from outside because they touch only an ingress. -/
theorem World.OneDex.step {w : World} (h : w.OneDex address ids) {s : Step} (hs : s.Within ids) :
    (s.apply w).OneDex address ids := by
  cases s with
  | handle ing => exact Step.apply_of_triple (reconcile_keepsOneDex ing hs) h
  | secure app => exact Step.apply_of_triple (secureApp_keepsOneDex app hs) h
  | rollback app => exact Step.apply_of_triple (rollbackApp_keepsOneDex app) h
  | setBackend k value =>
    show (w.editIngress k _).OneDex address ids
    unfold World.editIngress
    split <;> exact h
  | setDeletion k stamp =>
    show (w.editIngress k _).OneDex address ids
    unfold World.editIngress
    split <;> exact h
  | plan faults => exact h

/-- Along every run, from a world where every backend of Dex kind names the Dex at `address` and
only that Dex holds clients, it stays so. -/
theorem oneDex_along_runs {ok : World → Step → Prop} {w₀ w : World}
    (h₀ : w₀.OneDex address fun _ => True) (hrun : Reaches ok w₀ w) :
    w.OneDex address fun _ => True :=
  Reaches.invariant (fun w' s (hw : w'.OneDex address fun _ => True) _ =>
    hw.step (by cases s <;> trivial)) h₀ hrun

end OneDex

/-! ## A rollback leaves nothing, with one Dex -/

/-- Along every run from a world where every backend of Dex kind names the Dex at `address` and
only that Dex holds clients, a reconciliation that returns `rolledBack` leaves no proxy object of
the ingress, no Secret of its client secret, and no client of it at any Dex. -/
theorem rolledBack_leaves_nothing {ok : World → Step → Prop} {address : String}
    {w₀ w w' : World} {ing : Ingress} (h₀ : w₀.OneDex address fun _ => True)
    (hrun : Reaches ok w₀ w) (hx : exec (reconcile ing) w = (.ok .rolledBack, w')) :
    w'.RolledBackFrom w ing.metadata.key ing.metadata.key.text ∧
      ∀ a, w'.holdsClient a ing.metadata.key.text = false := by
  have hw := oneDex_along_runs h₀ hrun
  have hclean := reconcile_rolledBack_cleans hx
  refine ⟨hclean, fun a => ?_⟩
  obtain ⟨r, spec, dex, -, hl, hd, hgone, hother⟩ := hclean.unregistered
  -- the backup's backend names the one Dex, and no other Dex holds any client
  have haddr : dex.apiAddress = address := hw.1 _ spec dex hl hd
  by_cases ha : a = dex.apiAddress
  · rw [ha]
    exact hgone
  · cases hh : w'.holdsClient a ing.metadata.key.text with
    | false => rfl
    | true =>
      obtain ⟨client, hmem⟩ := World.holdsClient_iff.1 hh
      rw [hother a ha] at hmem
      exact absurd ((hw.2 a _ client hmem).1.trans haddr.symm) ha

theorem portedWorld_oneDex (port : ServiceBackendPort) :
    (portedWorld port).OneDex "dex:5557" fun _ => True := by
  refine ⟨fun id spec dex hl hd => ?_, fun a id client hmem => ?_⟩
  · simp only [portedWorld, List.lookup_cons, List.lookup_nil] at hl
    split at hl
    · cases hl
      cases hd
      rfl
    · cases hl
  · simp [World.dexAt, portedWorld] at hmem

/-- The sample ingress, marked, secured, released and rolled back with every call going through:
the rollback leaves nothing behind. -/
theorem sample_rollback_leaves_nothing :
    (portedWorld { name := some "http" }).OneDex "dex:5557" (fun _ => True) ∧
      ∃ w ing w', Reaches (fun _ _ => True) (portedWorld { name := some "http" }) w ∧
        exec (reconcile ing) w = (.ok .rolledBack, w') ∧
        (w'.RolledBackFrom w ing.metadata.key ing.metadata.key.text ∧
          ∀ a, w'.holdsClient a ing.metadata.key.text = false) := by
  have h₀ := portedWorld_oneDex { name := some "http" }
  obtain ⟨w₁, w₂, hsecured, hrolled, -⟩ := secure_release_result .dropBackend 0
    (portedIngress_fresh { name := some "http" }) rfl (portedWorld_settled _ rfl)
  cases hrolled with
  | cons ing _ hx hnil =>
    cases hnil
    have hrun : Reaches (fun _ _ => True) (portedWorld { name := some "http" })
        ((Release.dropBackend.step (portedIngress { name := some "http" }).metadata.key).apply w₁) :=
      (hsecured.reaches fun _ _ => trivial).trans (.step _ trivial (.refl _))
    exact ⟨h₀, _, ing, _, hrun, hx, rolledBack_leaves_nothing h₀ hrun hx⟩

end IngressGuard
