import IngressGuard.Proofs.RoundTrip

/-!
# An ingress leads to its proxy only while the proxy is there

The securing saga records the service an ingress routes to in its backup annotation, creates the
proxy Secret, Deployment and Service, and only then points the ingress at the proxy; the rollback
points the ingress back at the recorded service before it deletes anything, and drops the backup
last. `ProxySafe` is what that order keeps of the cluster: every ingress that leads to its own
proxy service carries a backup and has all three proxy objects, and no backup that can be read
names the proxy. A planned fault may stop a saga at any call, and what it did before stays; the
invariant holds in every world it stops in.

The saga takes the service to record from the ingress it was handed, which may be a stale copy.
Handed a copy that still leads to the proxy while the stored ingress has no backup (it was rolled
back since), it records the proxy itself, and the next rollback points the ingress at a proxy it
then deletes. `ProxyStep` leaves out exactly those reconciliations. Along every run of the others,
of outside edits of the backend annotation and of the deletion timestamp, and of new fault plans,
`ProxySafe` holds in every world reached (`proxySafe_along_runs`).
-/

namespace IngressGuard

open IngressGuard.Kube

namespace Kube.Ingress

/-- The single path of the ingress leads to a service of a name. -/
def LeadsTo (ing : Ingress) (name : String) : Prop :=
  ∃ s, ing.serviceBackend = .ok s ∧ s.name = name

/-- The ingress carries a backup annotation. -/
def HasBackup (ing : Ingress) : Prop :=
  (ing.annotationValue? backupAnnotationKey).isSome

/-- No backup of the ingress that can be read names a service of a name. -/
def BackupAvoids (ing : Ingress) (name : String) : Prop :=
  ∀ text r, ing.annotationValue? backupAnnotationKey = some text →
    BackupRecord.ofText text = .ok r → r.serviceName ≠ name

end Kube.Ingress

namespace Cluster

/-- The proxy Secret, Deployment and Service of the ingress at a key all exist. -/
def HasProxy (c : Cluster) (k : ObjectKey) : Prop :=
  (c.secrets.get? k.proxy).isSome ∧ (c.deployments.get? k.proxy).isSome ∧
    (c.services.get? k.proxy).isSome

/-- What the cluster keeps of the ingress stored at a key. -/
def SafeAt (c : Cluster) (k : ObjectKey) (ing : Ingress) : Prop :=
  (ing.LeadsTo (proxyName k.name) → ing.HasBackup ∧ c.HasProxy k) ∧
    ing.BackupAvoids (proxyName k.name)

/-- No stored ingress that leads to its proxy has its proxy objects at a key. -/
def SparesProxies (c : Cluster) (x : ObjectKey) : Prop :=
  ∀ k ing, c.ingresses.get? k = some ing → ing.LeadsTo (proxyName k.name) → k.proxy ≠ x

/-- The ingress stored at a key, if any, does not lead to its proxy. -/
def AwayFromProxy (c : Cluster) (k : ObjectKey) : Prop :=
  ∀ ing, c.ingresses.get? k = some ing → ¬ ing.LeadsTo (proxyName k.name)

/-- The ingress stored at a key carries a backup. -/
def Backed (c : Cluster) (k : ObjectKey) : Prop :=
  ∃ ing, c.ingresses.get? k = some ing ∧ ing.HasBackup

/-- Rewriting an ingress without touching its path or its backup keeps what is kept of it. -/
theorem SafeAt.congr {c c' : Cluster} {k : ObjectKey} {ing ing' : Ingress} (h : c.SafeAt k ing)
    (hp : c.HasProxy k → c'.HasProxy k) (hpath : ing'.serviceBackend = ing.serviceBackend)
    (hbackup : ing'.annotationValue? backupAnnotationKey = ing.annotationValue? backupAnnotationKey) :
    c'.SafeAt k ing' := by
  obtain ⟨hA, hB⟩ := h
  refine ⟨fun ⟨s, hs, hn⟩ => ?_, fun text r ht hr => hB text r (hbackup ▸ ht) hr⟩
  obtain ⟨hb, hprox⟩ := hA ⟨s, hpath ▸ hs, hn⟩
  exact ⟨by rw [Ingress.HasBackup, hbackup]; exact hb, hp hprox⟩

/-- The client-secret Secrets never stand where a proxy's objects do. -/
theorem sparesProxies_clientSecret (c : Cluster) (home id : String) :
    c.SparesProxies ⟨home, clientSecretName id⟩ :=
  fun k _ _ _ h => clientSecretName_ne_proxyName id k.name (congrArg ObjectKey.name h).symm

/-- Proxy names are distinct across ingresses, so an ingress away from its proxy spares the key
of its proxy objects. -/
theorem sparesProxies_proxy {c : Cluster} {k₀ : ObjectKey} (h : c.AwayFromProxy k₀) :
    c.SparesProxies k₀.proxy := by
  intro k ing hk hl heq
  have hkey : k = k₀ := by
    obtain ⟨ns, name⟩ := k
    obtain ⟨ns₀, name₀⟩ := k₀
    simp only [ObjectKey.proxy, ObjectKey.mk.injEq, proxyName_inj] at heq
    rw [heq.1, heq.2]
  subst hkey
  exact h ing hk hl

end Cluster

/-- The proxy invariant: the store is well keyed, and every stored ingress is kept safe. -/
structure ProxySafe (c : Cluster) : Prop where
  wellKeyed : c.WellKeyed
  safe : ∀ k ing, c.ingresses.get? k = some ing → c.SafeAt k ing

theorem calm_proxySafe : Calm fun w => ProxySafe w.cluster :=
  fun _ _ _ => Iff.rfl

namespace ProxySafe

variable {w : World}

/-- Changes that leave the ingresses alone and keep the proxy objects of every ingress that
leads to its proxy. -/
theorem of_proxies {c c' : Cluster} (h : ProxySafe c) (hi : c'.ingresses = c.ingresses)
    (hp : ∀ k ing, c.ingresses.get? k = some ing → ing.LeadsTo (proxyName k.name) →
      c.HasProxy k → c'.HasProxy k) :
    ProxySafe c' := by
  refine ⟨fun k ing hk => h.wellKeyed k ing (hi ▸ hk), fun k ing hk => ?_⟩
  rw [hi] at hk
  obtain ⟨hA, hB⟩ := h.safe k ing hk
  exact ⟨fun hl => ⟨(hA hl).1, hp k ing hk hl (hA hl).2⟩, hB⟩

theorem withSecret (h : ProxySafe w.cluster) (s : Secret) : ProxySafe (w.withSecret s).cluster :=
  h.of_proxies rfl fun _ _ _ _ hp => ⟨Store.isSome_get?_put _ _ _ _ hp.1, hp.2⟩

theorem withDeployment (h : ProxySafe w.cluster) (d : Deployment) :
    ProxySafe (w.withDeployment d).cluster :=
  h.of_proxies rfl fun _ _ _ _ hp => ⟨hp.1, Store.isSome_get?_put _ _ _ _ hp.2.1, hp.2.2⟩

theorem withService (h : ProxySafe w.cluster) (s : Service) : ProxySafe (w.withService s).cluster :=
  h.of_proxies rfl fun _ _ _ _ hp => ⟨hp.1, hp.2.1, Store.isSome_get?_put _ _ _ _ hp.2.2⟩

theorem withoutSecret (h : ProxySafe w.cluster) {x : ObjectKey} (hx : w.cluster.SparesProxies x) :
    ProxySafe (w.withoutSecret x).cluster :=
  h.of_proxies rfl fun k ing hk hl hp =>
    ⟨(Store.get?_erase_of_ne _ _ _ (hx k ing hk hl)).symm ▸ hp.1, hp.2⟩

theorem withoutDeployment (h : ProxySafe w.cluster) {x : ObjectKey}
    (hx : w.cluster.SparesProxies x) : ProxySafe (w.withoutDeployment x).cluster :=
  h.of_proxies rfl fun k ing hk hl hp =>
    ⟨hp.1, (Store.get?_erase_of_ne _ _ _ (hx k ing hk hl)).symm ▸ hp.2.1, hp.2.2⟩

theorem withoutService (h : ProxySafe w.cluster) {x : ObjectKey} (hx : w.cluster.SparesProxies x) :
    ProxySafe (w.withoutService x).cluster :=
  h.of_proxies rfl fun k ing hk hl hp =>
    ⟨hp.1, hp.2.1, (Store.get?_erase_of_ne _ _ _ (hx k ing hk hl)).symm ▸ hp.2.2⟩

/-- Writing an ingress that is kept safe where it is stored. -/
theorem withIngress (h : ProxySafe w.cluster) {ing : Ingress}
    (hsafe : w.cluster.SafeAt ing.metadata.key ing) : ProxySafe (w.withIngress ing).cluster := by
  refine ⟨World.wellKeyed_withIngress h.wellKeyed ing, fun k ing' hk => ?_⟩
  rw [World.get?_withIngress] at hk
  split at hk
  next heq =>
    cases hk
    exact heq ▸ hsafe
  next => exact h.safe k ing' hk

/-- Rewriting a stored ingress without touching its key, its path or its backup. -/
theorem rewrite (h : ProxySafe w.cluster) {k : ObjectKey} {ing ing' : Ingress}
    (hk : w.cluster.ingresses.get? k = some ing) (hkey : ing'.metadata.key = ing.metadata.key)
    (hpath : ing'.serviceBackend = ing.serviceBackend)
    (hbackup : ing'.annotationValue? backupAnnotationKey = ing.annotationValue? backupAnnotationKey) :
    ProxySafe (w.withIngress ing').cluster := by
  refine h.withIngress ?_
  rw [hkey, h.wellKeyed k ing hk]
  exact (h.safe k ing hk).congr id hpath hbackup

/-- Recording a backup on an ingress that has none, for a service other than its proxy. -/
theorem recordBackup (h : ProxySafe w.cluster) {k : ObjectKey} {ing : Ingress} {r : BackupRecord}
    (hk : w.cluster.ingresses.get? k = some ing)
    (hnone : ing.annotationValue? backupAnnotationKey = none) (hr : r.serviceName ≠ proxyName k.name) :
    ProxySafe (w.withIngress (ing.annotated backupAnnotationKey r.toText)).cluster := by
  refine h.withIngress ?_
  rw [Ingress.key_annotated, h.wellKeyed k ing hk]
  refine ⟨fun hl => ?_, fun text r' ht hr' => ?_⟩
  · -- an ingress leading to its proxy would carry a backup already
    have hb := ((h.safe k ing hk).1 hl).1
    simp [Ingress.HasBackup, hnone] at hb
  · simp only [Ingress.annotationValue?_annotated, if_true, Option.some.injEq] at ht
    subst ht
    rw [BackupRecord.ofText_toText, Except.ok.injEq] at hr'
    exact hr' ▸ hr

/-- Pointing an ingress that carries a backup anywhere, once its proxy objects exist. -/
theorem pointBacked (h : ProxySafe w.cluster) {k : ObjectKey} {ing : Ingress}
    (hk : w.cluster.ingresses.get? k = some ing) (hb : ing.HasBackup) (hp : w.cluster.HasProxy k)
    (t : ServiceBackend) : ProxySafe (w.withIngress (ing.withBackend t)).cluster := by
  refine h.withIngress ?_
  rw [Ingress.withBackend_metadata, h.wellKeyed k ing hk]
  exact ⟨fun _ => ⟨hb, hp⟩, (h.safe k ing hk).2⟩

/-- Pointing an ingress of the supported shape at a service other than its proxy. -/
theorem pointAway (h : ProxySafe w.cluster) {k : ObjectKey} {ing : Ingress} {cur t : ServiceBackend}
    (hk : w.cluster.ingresses.get? k = some ing) (hcur : ing.serviceBackend = .ok cur)
    (ht : t.name ≠ proxyName k.name) : ProxySafe (w.withIngress (ing.withBackend t)).cluster := by
  refine h.withIngress ?_
  rw [Ingress.withBackend_metadata, h.wellKeyed k ing hk]
  refine ⟨fun ⟨s, hs, hn⟩ => ?_, (h.safe k ing hk).2⟩
  rw [Ingress.serviceBackend_withBackend hcur, Except.ok.injEq] at hs
  exact absurd (hs ▸ hn) ht

/-- Dropping the backup of an ingress away from its proxy. -/
theorem dropBackup (h : ProxySafe w.cluster) {k : ObjectKey} {ing : Ingress}
    (hk : w.cluster.ingresses.get? k = some ing) (haway : ¬ ing.LeadsTo (proxyName k.name)) :
    ProxySafe (w.withIngress (ing.unannotated backupAnnotationKey)).cluster := by
  refine h.withIngress ?_
  rw [Ingress.key_unannotated, h.wellKeyed k ing hk]
  refine ⟨fun hl => absurd hl haway, fun text r ht _ => ?_⟩
  simp at ht

/-- An outside edit that keeps the key, the path and the backup of the ingress it changes. -/
theorem editIngress (h : ProxySafe w.cluster) (k : ObjectKey) {f : Ingress → Ingress}
    (hkey : ∀ ing, (f ing).metadata.key = ing.metadata.key)
    (hpath : ∀ ing, (f ing).serviceBackend = ing.serviceBackend)
    (hbackup : ∀ ing, (f ing).annotationValue? backupAnnotationKey =
      ing.annotationValue? backupAnnotationKey) :
    ProxySafe (w.editIngress k f).cluster := by
  refine ⟨World.wellKeyed_editIngress h.wellKeyed k hkey, fun k' ing' hk' => ?_⟩
  rw [World.get?_editIngress] at hk'
  have hp : w.cluster.HasProxy k' → (w.editIngress k f).cluster.HasProxy k' := by
    simp [Cluster.HasProxy]
  split at hk'
  next heq =>
    obtain ⟨ing, hk, rfl⟩ := Option.map_eq_some_iff.1 hk'
    subst heq
    exact (h.safe k' ing hk).congr hp (hpath ing) (hbackup ing)
  next => exact (h.safe k' ing' hk').congr hp rfl rfl

end ProxySafe

/-! ## The sagas -/

section Sagas

/-- The cluster condition of every stage below. -/
abbrev SafeWorld (w : World) : Prop := ProxySafe w.cluster

theorem ensureMarked_proxySafe (k : ObjectKey) :
    Triple SafeWorld (ensureMarked k) (fun _ => SafeWorld) SafeWorld :=
  ensureMarked_triple (Fine.keep calm_proxySafe) (fun _ hw _ => hw) (fun _ _ hw _ _ => hw)
    (fun _ ing hw hk _ _ => hw.rewrite hk (Ingress.key_mark ing) (Ingress.serviceBackend_mark ing)
      (by simp [backupAnnotationKey, handledAnnotationKey]))
    (fun _ _ hw _ _ => hw)

theorem ensureUnmarked_proxySafe (k : ObjectKey) :
    Triple SafeWorld (ensureUnmarked k) (fun _ => SafeWorld) SafeWorld :=
  ensureUnmarked_triple (Fine.keep calm_proxySafe) (fun _ hw _ => hw) (fun _ _ hw _ _ => hw)
    (fun _ ing hw hk _ _ => hw.rewrite hk (Ingress.key_unmark ing) (Ingress.serviceBackend_unmark ing)
      (by simp [backupAnnotationKey, handledAnnotationKey]))
    (fun _ _ hw _ _ => hw)

/-- What securing needs besides the invariant: an ingress without a backup does not already have
the app's target as its proxy. -/
def TargetAvoidsProxy (app : App) (c : Cluster) : Prop :=
  ∀ ing, c.ingresses.get? app.ingressKey = some ing → ¬ ing.HasBackup →
    app.ingress.target.name ≠ proxyName app.ingress.name

theorem ProxyInPlace.hasProxy {o : ProxyObjects} {k : ObjectKey} {w : World}
    (h : ProxyInPlace o w) (hs : o.secret.metadata.key = k.proxy)
    (hd : o.deployment.metadata.key = k.proxy) (hv : o.service.metadata.key = k.proxy) :
    w.cluster.HasProxy k := by
  obtain ⟨h₁, h₂, h₃⟩ := h
  rw [hs] at h₁
  rw [hd] at h₂
  rw [hv] at h₃
  simp [Cluster.HasProxy, h₁, h₂, h₃]

/-- The last stage of securing: an ingress with a backup is pointed at its proxy once the proxy
objects are in place. -/
theorem swapBackend_backed {o : ProxyObjects} {k : ObjectKey} {target : ServiceBackend}
    (hs : o.secret.metadata.key = k.proxy) (hd : o.deployment.metadata.key = k.proxy)
    (hv : o.service.metadata.key = k.proxy) :
    Triple (fun w => (SafeWorld w ∧ w.cluster.Backed k) ∧ ProxyInPlace o w) (swapBackend k target)
      (fun _ => SafeWorld) SafeWorld := by
  have hfine : Fine (fun w => (SafeWorld w ∧ w.cluster.Backed k) ∧ ProxyInPlace o w) SafeWorld :=
    Fine.of_calm (fun _ _ _ => Iff.rfl) (fun _ hw => hw.1.1) calm_proxySafe
  refine swapBackend_triple hfine (fun _ hw _ => hw.1.1) (fun _ _ _ hw _ _ => hw.1.1)
    (fun _ _ _ hw _ _ _ => hw.1.1) (fun w ing _ hw hk _ _ _ => ?_) (fun _ _ hw _ _ => hw.1.1)
  obtain ⟨⟨hsafe, ing', hk', hb⟩, hplace⟩ := hw
  rw [hk] at hk'
  cases hk'
  exact hsafe.pointBacked hk hb (hplace.hasProxy hs hd hv) _

/-- Securing keeps the invariant, given an app whose target is not the proxy of an ingress
without a backup. -/
theorem secureApp_proxySafe (app : App) :
    Triple (fun w => SafeWorld w ∧ TargetAvoidsProxy app w.cluster) (secureApp app)
      (fun _ => SafeWorld) SafeWorld := by
  have hfine : Fine (fun w => SafeWorld w ∧ TargetAvoidsProxy app w.cluster) SafeWorld :=
    Fine.of_calm (fun _ _ _ => Iff.rfl) (fun _ hw => hw.1) calm_proxySafe
  have hfineB : Fine (fun w => SafeWorld w ∧ w.cluster.Backed app.ingressKey) SafeWorld :=
    Fine.of_calm (fun _ _ _ => Iff.rfl) (fun _ hw => hw.1) calm_proxySafe
  -- the backup is read or recorded before anything points at the proxy
  have hbackup : Triple (fun w => SafeWorld w ∧ TargetAvoidsProxy app w.cluster)
      (backupOrGet app ⟨app.authBackendId, app.ingress.target.name, app.ingress.target.portText⟩)
      (fun _ w => SafeWorld w ∧ w.cluster.Backed app.ingressKey) SafeWorld :=
    backupOrGet_triple hfine (fun _ hw _ => hw.1)
      (fun _ ing _ _ hw hk ht _ => ⟨hw.1, ing, hk, by simp [Ingress.HasBackup, ht]⟩)
      (fun _ _ _ _ hw _ _ _ => hw.1)
      (fun _ ing hw hk hnone _ =>
        ⟨hw.1.recordBackup hk hnone (hw.2 ing hk (by simp [Ingress.HasBackup, hnone])),
          by simp [Cluster.Backed, Ingress.HasBackup, hw.1.wellKeyed _ ing hk]⟩)
      (fun _ _ hw _ _ => hw.1)
  unfold secureApp
  refine Triple.bind (Triple.within _ (getAuthBackend_keeps hfine (fun _ hw => hw.1)))
    fun backend => ?_
  refine Triple.bind (Triple.within _ (registererFor_keeps hfine (fun _ hw => hw.1)
    (fun _ _ hw => by simpa [SafeWorld] using hw))) fun address => ?_
  refine Triple.bind (Triple.within _ (register_keeps hfine (fun _ hw => hw)
    (fun _ _ hw => ⟨hw.1.withSecret _, hw.2⟩) (fun _ hw => by simpa [SafeWorld] using hw)
    (fun _ _ hw => by simpa [SafeWorld] using hw))) fun credentials => ?_
  refine Triple.bind (Triple.within _ hbackup) fun backup => ?_
  refine Triple.bind (Triple.within _ (routeService_keeps hfineB (fun _ hw => hw.1)))
    fun route => ?_
  exact Triple.within _ (provision_triple hfineB (fun _ hw => ⟨hw.1.withSecret _, hw.2⟩)
    (fun _ hw => ⟨hw.1.withDeployment _, hw.2⟩) (fun _ hw => ⟨hw.1.withService _, hw.2⟩)
    (swapBackend_backed rfl rfl rfl))

/-- The first stage of a rollback: the ingress is pointed at a service other than its proxy. -/
theorem swapBackend_away {k : ObjectKey} {target : ServiceBackend}
    (ht : target.name ≠ proxyName k.name) :
    Triple SafeWorld (swapBackend k target) (fun _ w => SafeWorld w ∧ w.cluster.AwayFromProxy k)
      SafeWorld := by
  refine swapBackend_triple (Fine.keep calm_proxySafe) (fun _ hw _ => hw) (fun _ _ _ hw _ _ => hw)
    (fun w ing cur hw hk hcur hl => ⟨hw, fun ing' hk' ⟨s, hs, hn⟩ => ?_⟩)
    (fun w ing cur hw hk hcur _ _ => ⟨hw.pointAway hk hcur ht, fun ing' hk' ⟨s, hs, hn⟩ => ?_⟩)
    (fun _ _ hw _ _ => hw)
  · -- the path already leads to the target, which is not the proxy
    rw [hk] at hk'
    cases hk'
    rw [hcur, Except.ok.injEq] at hs
    subst hs
    simp only [leadsTo, Bool.and_eq_true, beq_iff_eq] at hl
    exact ht (hl.1 ▸ hn)
  · have hkey := hw.wellKeyed k ing hk
    simp only [World.get?_withIngress, Ingress.withBackend_metadata, hkey, if_true,
      Option.some.injEq] at hk'
    subst hk'
    rw [Ingress.serviceBackend_withBackend hcur, Except.ok.injEq] at hs
    exact ht (hs ▸ hn)

/-- Rolling back keeps the invariant. -/
theorem rollbackApp_proxySafe (app : App) :
    Triple SafeWorld (rollbackApp app) (fun _ => SafeWorld) SafeWorld := by
  have hfine := Fine.keep calm_proxySafe
  have hfineA : Fine (fun w => SafeWorld w ∧ w.cluster.AwayFromProxy app.ingressKey) SafeWorld :=
    Fine.of_calm (fun _ _ _ => Iff.rfl) (fun _ hw => hw.1) calm_proxySafe
  have hread : Triple SafeWorld (getBackup app)
      (fun b w => SafeWorld w ∧ ∀ r, b = some r → r.serviceName ≠ proxyName app.ingress.name)
      SafeWorld :=
    getBackup_triple hfine (fun _ hw _ => hw)
      (fun _ ing text r hw hk ht hr =>
        ⟨hw, fun r' hr' => Option.some.inj hr' ▸ (hw.safe _ ing hk).2 text r ht hr⟩)
      (fun _ _ _ _ hw _ _ _ => hw) (fun _ _ hw _ _ => ⟨hw, fun _ h => nomatch h⟩)
  unfold rollbackApp
  refine Triple.bind (Triple.within _ hread) fun backup => ?_
  cases backup with
  | none => exact Triple.fail fun _ hw => hw.1
  | some r =>
    by_cases hr : r.serviceName = proxyName app.ingress.name
    · exact fun _ hw => absurd hr (hw.2 r rfl)
    refine Triple.mono (?_ : Triple SafeWorld _ _ _) (fun _ hw => hw.1) (fun _ _ h => h)
      (fun _ h => h)
    -- the ingress is pointed back first, so the proxy objects it no longer leads to can go
    have hunprovision : Triple SafeWorld
        (unprovision
          { ingressName := app.ingress.name, ingressNs := app.ingress.ns,
            serviceName := r.serviceName, servicePortText := r.servicePortText })
        (fun _ w => SafeWorld w ∧ w.cluster.AwayFromProxy app.ingressKey) SafeWorld :=
      unprovision_triple (swapBackend_away hr) hfineA
        (fun _ hw => ⟨hw.1.withoutService (Cluster.sparesProxies_proxy hw.2), hw.2⟩)
        (fun _ hw => ⟨hw.1.withoutDeployment (Cluster.sparesProxies_proxy hw.2), hw.2⟩)
        (fun _ hw => ⟨hw.1.withoutSecret (Cluster.sparesProxies_proxy hw.2), hw.2⟩)
    refine Triple.bind (Triple.within _ hunprovision) fun _ => ?_
    refine Triple.bind (Triple.within _ (getAuthBackend_keeps hfineA (fun _ hw => hw.1)))
      fun backend => ?_
    refine Triple.bind (Triple.within _ (registererFor_keeps hfineA (fun _ hw => hw.1)
      (fun _ _ hw => by simpa [SafeWorld] using hw))) fun address => ?_
    refine Triple.bind (Triple.within _ (unregister_keeps hfineA (fun _ hw => by simpa [SafeWorld] using hw)
      (fun _ hw => ⟨hw.1.withoutSecret (Cluster.sparesProxies_clientSecret _ _ _), hw.2⟩)))
      fun _ => ?_
    -- the backup goes last, once nothing leads to the proxy
    exact Triple.within _ (deleteBackup_triple hfineA (fun _ hw _ => hw.1) (fun _ _ hw _ _ => hw.1)
      (fun _ ing hw hk _ _ => hw.1.dropBackup hk (hw.2 ing hk)) (fun _ _ hw _ _ => hw.1))

/-- A reconciliation keeps the invariant when an ingress handed to it that leads to its proxy
finds the stored ingress with a backup. -/
theorem reconcile_proxySafe (ing : Ingress) :
    Triple (fun w => SafeWorld w ∧
        (ing.LeadsTo (proxyName ing.metadata.key.name) → w.cluster.Backed ing.metadata.key))
      (reconcile ing) (fun _ => SafeWorld) SafeWorld := by
  have hfine : Fine (fun w => SafeWorld w ∧
      (ing.LeadsTo (proxyName ing.metadata.key.name) → w.cluster.Backed ing.metadata.key))
      SafeWorld :=
    Fine.of_calm (fun _ _ _ => Iff.rfl) (fun _ hw => hw.1) calm_proxySafe
  refine reconcile_triple ?ignored ?invalid ?clean ?mark ?secure ?rollback
  case ignored => exact fun _ _ _ hw => hw.1
  case invalid => exact fun _ _ _ hw => hw.1
  case clean => exact fun _ _ _ _ hw => hw.1
  case mark =>
    exact fun _ _ _ _ => (ensureMarked_proxySafe _).mono (fun _ hw => hw.1) (fun _ _ h => h)
      (fun _ h => h)
  case secure =>
    intro hv _ _ _
    -- the app's target is the path of the ingress handed in, so the condition on the step is
    -- what securing needs
    have happ : Triple _ (appOf ing) (fun app w => SafeWorld w ∧ TargetAvoidsProxy app w.cluster)
        SafeWorld :=
      appOf_valid hfine hv fun s _ hs _ w hw => ⟨hw.1, fun stored hk hnb hn => by
        obtain ⟨st, hst, hb⟩ := hw.2 ⟨s, hs, hn⟩
        exact hnb (Option.some.inj (hk.symm.trans hst) ▸ hb)⟩
    unfold secureBranch
    refine Triple.bind happ fun app => ?_
    refine Triple.bind (Triple.within _ (secureApp_proxySafe app)) fun _ => ?_
    exact Triple.bind (ensureMarked_proxySafe _) fun _ => Triple.pure fun _ hw => hw
  case rollback =>
    intro hv _ _ _
    have happ : Triple _ (appOf ing) (fun _ => SafeWorld) SafeWorld :=
      appOf_valid hfine hv fun _ _ _ _ _ hw => hw.1
    unfold rollbackBranch
    refine Triple.bind happ fun app => ?_
    refine Triple.bind (Triple.within _ (rollbackApp_proxySafe app)) fun _ => ?_
    exact Triple.bind (ensureUnmarked_proxySafe _) fun _ => Triple.pure fun _ hw => hw

end Sagas

/-! ## Runs -/

/-- The steps that keep the invariant: a reconciliation handed an ingress that leads to its
proxy is made only while the stored ingress carries a backup, and the sagas are not started
directly; outside edits and fault plans come at any time. -/
def ProxyStep (w : World) : Step → Prop
  | .handle ing =>
    ing.LeadsTo (proxyName ing.metadata.key.name) → w.cluster.Backed ing.metadata.key
  | .setBackend _ _ | .setDeletion _ _ | .plan _ => True
  | .secure _ | .rollback _ => False

theorem ProxySafe.step {w : World} {s : Step} (h : ProxySafe w.cluster) (hs : ProxyStep w s) :
    ProxySafe (s.apply w).cluster := by
  cases s with
  | handle ing => exact Step.apply_of_triple (reconcile_proxySafe ing) ⟨h, hs⟩
  | secure app => exact hs.elim
  | rollback app => exact hs.elim
  | setBackend k value =>
    -- the backend annotation is neither the path nor the backup
    refine h.editIngress k (fun ing => ?_) (fun ing => ?_) (fun ing => ?_) <;>
      cases value <;> simp [Ingress.withAuthBackend, backupAnnotationKey, backendAnnotationKey]
  | setDeletion k stamp => exact h.editIngress k (fun _ => rfl) (fun _ => rfl) (fun _ => rfl)
  | plan faults => exact h

/-- In a safe cluster, reconciling the stored ingress is an allowed step: where it leads to its
proxy, it carries a backup. -/
theorem ProxySafe.proxyStep_stored {w : World} {k : ObjectKey} {ing : Ingress}
    (h : ProxySafe w.cluster) (hk : w.cluster.ingresses.get? k = some ing) :
    ProxyStep w (.handle ing) := by
  have hkey : ing.metadata.key = k := h.wellKeyed k ing hk
  intro hl
  rw [hkey] at hl ⊢
  exact ⟨ing, hk, ((h.safe k ing hk).1 hl).1⟩

/-- Reconciling the stored ingress again and again, from a safe cluster, is a run of allowed
steps. -/
theorem Handled.proxyReaches {k : ObjectKey} {os : List Outcome} {w w' : World}
    (h : Handled k os w w') (hw : ProxySafe w.cluster) : Reaches ProxyStep w w' := by
  induction h with
  | nil w => exact .refl w
  | @cons _ _ w w₁ _ ing hk hx _ ih =>
    have hs := hw.proxyStep_stored hk
    -- the step keeps the cluster safe, so the rest of the run starts from a safe cluster too
    have hw₁ : ProxySafe w₁.cluster := by
      have := hw.step hs
      rwa [Step.apply, hx] at this
    refine .step (.handle ing) hs ?_
    rw [Step.apply, hx]
    exact ih hw₁

/-- Along every run of allowed steps, an ingress that leads to its own proxy service carries a
backup and has its proxy Secret, Deployment and Service, and no backup names the proxy. -/
theorem proxySafe_along_runs {w₀ w : World} (h₀ : ProxySafe w₀.cluster)
    (hrun : Reaches ProxyStep w₀ w) : ProxySafe w.cluster :=
  Reaches.invariant (fun w _ (hw : ProxySafe w.cluster) hs => hw.step hs) h₀ hrun

theorem portedIngress_away (port : ServiceBackendPort) :
    ¬ (portedIngress port).LeadsTo (proxyName "web") := by
  rintro ⟨s, hs, hn⟩
  have hweb : (portedIngress port).serviceBackend = .ok { name := "web", port := some port } := rfl
  rw [hweb, Except.ok.injEq] at hs
  subst hs
  exact absurd hn (show "web" ≠ proxyName "web" by decide)

theorem portedWorld_proxySafe (port : ServiceBackendPort) : ProxySafe (portedWorld port).cluster := by
  refine ⟨portedWorld_wellKeyed port, fun k ing hk => ?_⟩
  obtain ⟨rfl, rfl⟩ := portedWorld_stored hk
  exact ⟨fun hl => absurd hl (portedIngress_away port), fun text r ht => by cases ht⟩

/-- The ingress `shop/web` of `portedWorld` marked, secured, released by removing its backend
annotation and rolled back: released, it still leads to its proxy and carries its backup, and the
cluster is safe there and after the rollback. -/
theorem ported_run_proxySafe :
    ∃ w₁ w₂, Reaches ProxyStep (portedWorld { name := some "http" }) w₁ ∧
      Reaches ProxyStep w₁ w₂ ∧
      (∃ ing, w₁.cluster.ingresses.get? ⟨"shop", "web"⟩ = some ing ∧
        ing.LeadsTo (proxyName "web") ∧ ing.HasBackup) ∧
      ProxySafe w₁.cluster ∧ ProxySafe w₂.cluster := by
  have h₀ := portedWorld_proxySafe { name := some "http" }
  have hfresh := portedIngress_fresh { name := some "http" }
  obtain ⟨w₁, hsecured, hset₁, hreleased⟩ := secure_then_release .dropBackend 0 hfresh rfl
    (portedWorld_settled _ rfl)
  obtain ⟨_, w₂, hrolled, -⟩ := Triple.exec_ok (hfresh.reconcile_released .dropBackend)
    ⟨hset₁, hreleased⟩
  -- marked and secured from a safe cluster, then released by an edit, then rolled back
  have hrun₁ : Reaches ProxyStep (portedWorld { name := some "http" })
      ((Release.dropBackend.step ⟨"shop", "web"⟩).apply w₁) :=
    (hsecured.proxyReaches h₀).trans
      (.step (Release.dropBackend.step ⟨"shop", "web"⟩) trivial (.refl _))
  have hsafe₁ := proxySafe_along_runs h₀ hrun₁
  have hrun₂ : Reaches ProxyStep ((Release.dropBackend.step ⟨"shop", "web"⟩).apply w₁) w₂ :=
    (Handled.cons _ hreleased hrolled (.nil w₂)).proxyReaches hsafe₁
  refine ⟨_, w₂, hrun₁, hrun₂, ⟨_, hreleased, ?_, ?_⟩, hsafe₁,
    proxySafe_along_runs h₀ (hrun₁.trans hrun₂)⟩
  · exact ⟨_, by rw [Release.serviceBackend_apply, hfresh.serviceBackend_securedWith], rfl⟩
  · rw [Ingress.HasBackup, Release.backup_apply_securedWith]
    rfl

end IngressGuard
