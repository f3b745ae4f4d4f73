import IngressGuard.Proofs.QuietSagas
import IngressGuard.Proofs.PortText

/-!
# Securing an ingress and releasing it

An ingress the controller has not touched yet (`Ingress.Fresh`) is marked by its first
reconciliation and secured by the next: the backup records the service its path leads to, by
name and port text, and the path points at the proxy (`Ingress.securedWith`). Reconciling it
again changes nothing. Once it is released from outside, by removing its backend annotation or
by requesting its deletion (`Release`), the next reconciliation rolls it back. The stored
ingress is then the released one with its path pointed at the service read back from the
backup, `ServiceBackend.restored`, and with an absent annotation map or finalizer list made
present and empty (`Ingress.normalized`): that is `secure_release_result`.

The port comes back through its text, so the round trip gives back the released ingress exactly
when the port reads back as itself (`secure_release_round_trip`). A port given by a number, or
by a name that does not read as a number, does, and these are the ports the Kubernetes API server
accepts; a port given by both a number and a name, which it refuses, comes back by its name alone
(`numbered_named_port_changed`).
-/

namespace IngressGuard

open IngressGuard.Kube

/-- An edit from outside that releases a secured ingress: its backend annotation removed, or its
deletion requested. -/
inductive Release where
  | dropBackend
  | delete (stamp : Time)

namespace Release

/-- The ingress released. -/
def apply : Release → Ingress → Ingress
  | .dropBackend, ing => ing.withAuthBackend none
  | .delete stamp, ing => ing.withDeletion (some stamp)

/-- The step of a run that releases the ingress stored at a key. -/
def step : Release → ObjectKey → Step
  | .dropBackend, k => .setBackend k none
  | .delete stamp, k => .setDeletion k (some stamp)

variable (e : Release) (ing : Ingress)

theorem step_apply (k : ObjectKey) (w : World) : (e.step k).apply w = w.editIngress k e.apply := by
  cases e <;> rfl

@[simp] theorem key_apply : (e.apply ing).metadata.key = ing.metadata.key := by
  cases e <;> rfl

@[simp] theorem serviceBackend_apply : (e.apply ing).serviceBackend = ing.serviceBackend := by
  cases e <;> rfl

@[simp] theorem hasSecurityFinalizer_apply :
    (e.apply ing).hasSecurityFinalizer = ing.hasSecurityFinalizer := by
  cases e <;> rfl

theorem apply_withBackend (t : ServiceBackend) :
    e.apply (ing.withBackend t) = (e.apply ing).withBackend t := by
  cases e <;> rfl

/-- Releasing touches neither the handled annotation nor the backup. -/
theorem annotationValue?_apply {key : String} (hkey : key ≠ backendAnnotationKey) :
    (e.apply ing).annotationValue? key = ing.annotationValue? key := by
  cases e
  · simp [apply, Ingress.withAuthBackend, hkey]
  · rfl

/-- A released ingress no longer asks to be secured, or is being deleted. -/
theorem releases : (e.apply ing).wantsSecurity = false ∨ (e.apply ing).isDeleting = true := by
  cases e
  · left
    simp [apply, Ingress.withAuthBackend, Ingress.wantsSecurity]
  · right
    rfl

end Release

namespace Kube.Ingress

/-- The ingress with an absent annotation map or finalizer list made present and empty. -/
def normalized (ing : Ingress) : Ingress :=
  { ing with metadata := { ing.metadata with
      annotations := some (ing.metadata.annotations.getD [])
      finalizers := some (ing.metadata.finalizers.getD []) } }

@[simp] theorem serviceBackend_normalized (ing : Ingress) :
    ing.normalized.serviceBackend = ing.serviceBackend := rfl

theorem normalized_withBackend (ing : Ingress) (t : ServiceBackend) :
    (ing.withBackend t).normalized = ing.normalized.withBackend t := rfl

/-- Pointing the path elsewhere is seen in the normal form: it stays the same exactly when the
path already led there. -/
theorem withBackend_normalized_eq_iff {ing : Ingress} {s : ServiceBackend}
    (h : ing.serviceBackend = .ok s) (t : ServiceBackend) :
    (ing.withBackend t).normalized = ing.normalized ↔ t = s := by
  constructor
  · intro heq
    have hpath := congrArg serviceBackend heq
    rw [serviceBackend_normalized, serviceBackend_normalized, serviceBackend_withBackend h, h]
      at hpath
    exact Except.ok.inj hpath
  · rintro rfl
    rw [withBackend_self h]

/-- An ingress the controller has not touched yet, asking to be secured by the auth backend `b`:
of the supported shape with its path leading to `s`, which is not its proxy. -/
structure Fresh (ing : Ingress) (s : ServiceBackend) (b : String) : Prop where
  serviceBackend : ing.serviceBackend = .ok s
  backend : ing.annotationValue? backendAnnotationKey = some b
  backend_ne : b ≠ ""
  unhandled : ing.annotationValue? handledAnnotationKey = none
  unbacked : ing.annotationValue? backupAnnotationKey = none
  noFinalizer : ing.hasSecurityFinalizer = false
  notDeleting : ing.metadata.deletionTimestamp = none
  awayFromProxy : s.name ≠ proxyName ing.metadata.key.name

/-- The ingress as first secured with the record `r`: marked, carrying the backup, and pointed
at its proxy. -/
def securedWith (ing : Ingress) (r : BackupRecord) : Ingress :=
  (ing.mark.annotated backupAnnotationKey r.toText).withBackend (proxyBackend ing.metadata.key.name)

@[simp] theorem key_securedWith (ing : Ingress) (r : BackupRecord) :
    (ing.securedWith r).metadata.key = ing.metadata.key := by
  simp [securedWith]

@[simp] theorem annotationValue?_withBackend (ing : Ingress) (t : ServiceBackend) (key : String) :
    (ing.withBackend t).annotationValue? key = ing.annotationValue? key := rfl

@[simp] theorem hasSecurityFinalizer_withBackend (ing : Ingress) (t : ServiceBackend) :
    (ing.withBackend t).hasSecurityFinalizer = ing.hasSecurityFinalizer := rfl

@[simp] theorem isDeleting_withBackend (ing : Ingress) (t : ServiceBackend) :
    (ing.withBackend t).isDeleting = ing.isDeleting := rfl

@[simp] theorem isDeleting_annotated (ing : Ingress) (key value : String) :
    (ing.annotated key value).isDeleting = ing.isDeleting := rfl

@[simp] theorem isHandled_mark (ing : Ingress) : ing.mark.isHandled = true := by
  simp [isHandled]

@[simp] theorem isDeleting_mark (ing : Ingress) : ing.mark.isDeleting = ing.isDeleting := by
  unfold mark isDeleting
  split <;> rfl

@[simp] theorem wantsSecurity_mark (ing : Ingress) : ing.mark.wantsSecurity = ing.wantsSecurity := by
  simp +decide [wantsSecurity]

/-- The service a path to `s` leads to, as routes name it. -/
def upstreamRef (ing : Ingress) (s : ServiceBackend) : ServiceRef :=
  ⟨s.name, ing.metadata.key.ns, portText s.port⟩

theorem isMarked_mark (ing : Ingress) : ing.mark.isMarked = true := by
  simp [isMarked, hasSecurityFinalizer_mark, handledValue]

/-- The marks set before securing are still there once secured. -/
theorem isMarked_securedWith (ing : Ingress) (r : BackupRecord) :
    (ing.securedWith r).isMarked = true := by
  have h := isMarked_mark ing
  unfold isMarked at h ⊢
  simpa +decide [securedWith] using h

/-- Securing again keeps the secured ingress as it is: the backup it carries is kept and its
path already leads to the proxy. -/
theorem secured_securedWith (ing : Ingress) (r : BackupRecord) :
    ((ing.securedWith r).secured (proxyBackend ing.metadata.key.name) r).marked =
      ing.securedWith r := by
  have hbacked : (ing.securedWith r).backedWith r = ing.securedWith r := by
    have hbackup : (ing.securedWith r).annotationValue? backupAnnotationKey = some r.toText := by
      simp [securedWith]
    rw [backedWith, hbackup]
  have hself : leadsTo (proxyBackend ing.metadata.key.name) (proxyBackend ing.metadata.key.name) =
      true := by
    simp [leadsTo]
  rw [secured, hbacked, key_securedWith, pointedAt, if_pos hself,
    marked, if_pos (isMarked_securedWith ing r)]

end Kube.Ingress

/-- The backup record of a path to `s` secured by the auth backend `b`. -/
def Kube.ServiceBackend.recordFor (s : ServiceBackend) (b : String) : BackupRecord :=
  ⟨b, s.name, portText s.port⟩

/-- The service backend read back from the name and port text a backup records. -/
def Kube.ServiceBackend.restored (s : ServiceBackend) : ServiceBackend :=
  serviceBackendFor s.name (portText s.port)

theorem Kube.ServiceBackend.serviceBackendFor_recordFor (s : ServiceBackend) (b : String) :
    serviceBackendFor (s.recordFor b).serviceName (s.recordFor b).servicePortText = s.restored :=
  rfl

/-- The routes reach a service. -/
def ServiceRef.Routed (ref : ServiceRef) (routes : List (String × Route)) : Prop :=
  (routes.lookup ref.routeKey).isSome

namespace Kube.Ingress.Fresh

variable {ing : Ingress} {s : ServiceBackend} {b : String}

theorem wantsSecurity (h : ing.Fresh s b) : ing.wantsSecurity = true := by
  simp [Ingress.wantsSecurity, h.backend, h.backend_ne]

theorem isHandled (h : ing.Fresh s b) : ing.isHandled = false := by
  simp [Ingress.isHandled, h.unhandled]

theorem isDeleting (h : ing.Fresh s b) : ing.isDeleting = false := by
  simp [Ingress.isDeleting, h.notDeleting]

theorem authBackendId_mark (h : ing.Fresh s b) : ing.mark.authBackendId = b := by
  simp +decide [Ingress.authBackendId, h.backend]

/-- The marked ingress is secured: the record of its path is written and the path points at
the proxy. -/
theorem secured_mark (h : ing.Fresh s b) :
    (ing.mark.secured s (s.recordFor b)).marked = ing.securedWith (s.recordFor b) := by
  have hbacked : ing.mark.backedWith (s.recordFor b) =
      ing.mark.annotated backupAnnotationKey (s.recordFor b).toText := by
    rw [Ingress.backedWith, Ingress.annotationValue?_mark, if_neg (by decide), h.unbacked]
  have haway : leadsTo s (proxyBackend ing.metadata.key.name) = false := by
    simp [leadsTo, proxyBackend, serviceBackendFor, h.awayFromProxy]
  have hsecured : ing.mark.secured s (s.recordFor b) = ing.securedWith (s.recordFor b) := by
    rw [Ingress.secured, hbacked, Ingress.key_mark, Ingress.pointedAt, haway]
    rfl
  rw [hsecured, Ingress.marked, if_pos (Ingress.isMarked_securedWith ing _)]

theorem serviceBackend_securedWith (h : ing.Fresh s b) (r : BackupRecord) :
    (ing.securedWith r).serviceBackend = .ok (proxyBackend ing.metadata.key.name) :=
  Ingress.serviceBackend_withBackend (by simpa using h.serviceBackend) _

/-- Marking, writing a backup, releasing, and then removing the backup and the marks, leaves
the released ingress, with its annotation map and finalizer list present. -/
theorem clear_apply_marked (h : ing.Fresh s b) (e : Release) (text : String) :
    ((e.apply (ing.mark.annotated backupAnnotationKey text)).unannotated backupAnnotationKey).unmark =
      (e.apply ing).normalized := by
  have hmark : ing.mark = { ing with metadata :=
      (ing.metadata.annotate handledAnnotationKey handledValue).addFinalizer securityFinalizer } := by
    simp [Ingress.mark, h.noFinalizer]
  have hunhandled : (ing.metadata.annotations.getD []).get? handledAnnotationKey = none := by
    rw [ObjectMeta.get?_annotations_getD]
    exact h.unhandled
  have hunbacked : (ing.metadata.annotations.getD []).get? backupAnnotationKey = none := by
    rw [ObjectMeta.get?_annotations_getD]
    exact h.unbacked
  -- the finalizer appended by marking is the only copy, so removing it gives the list back
  have hfinalizers : (ing.metadata.finalizers.getD [] ++ [securityFinalizer]).filter
      (· != securityFinalizer) = ing.metadata.finalizers.getD [] := by
    have hsec : securityFinalizer ∉ ing.metadata.finalizers.getD [] := by
      simpa [Ingress.hasSecurityFinalizer, ObjectMeta.hasFinalizer] using h.noFinalizer
    rw [List.filter_append, List.filter_eq_self.2 fun f hf => by
      simpa using ne_of_mem_of_not_mem hf hsec]
    simp
  rw [hmark]
  cases e with
  | dropBackend =>
    simp only [Release.apply, Ingress.withAuthBackend, Ingress.annotated, Ingress.unannotated,
      Ingress.unmark, Ingress.normalized, ObjectMeta.annotate, ObjectMeta.unannotate,
      ObjectMeta.addFinalizer, ObjectMeta.removeFinalizer, Option.getD_some]
    -- the backend annotation is removed between the two marks; removals commute
    rw [StringMap.erase_comm _ backendAnnotationKey backupAnnotationKey,
      StringMap.erase_comm _ backendAnnotationKey handledAnnotationKey,
      StringMap.erase_erase_insert_insert _ hunhandled hunbacked, hfinalizers]
  | delete stamp =>
    simp only [Release.apply, Ingress.withDeletion, Ingress.annotated, Ingress.unannotated,
      Ingress.unmark, Ingress.normalized, ObjectMeta.annotate, ObjectMeta.unannotate,
      ObjectMeta.addFinalizer, ObjectMeta.removeFinalizer, Option.getD_some]
    rw [StringMap.erase_erase_insert_insert _ hunhandled hunbacked, hfinalizers]

/-- Rolling back the released secured ingress points its path at the service read back from the
backup, and removes the backup and the marks. -/
theorem rolledBack_apply (h : ing.Fresh s b) (e : Release) :
    ((e.apply (ing.securedWith (s.recordFor b))).rolledBack (proxyBackend ing.metadata.key.name)
      (s.recordFor b)).unmarked = ((e.apply ing).withBackend s.restored).normalized := by
  have haway : leadsTo (proxyBackend ing.metadata.key.name) s.restored = false := by
    simp [leadsTo, proxyBackend, ServiceBackend.restored, serviceBackendFor,
      Ne.symm h.awayFromProxy]
  have hpointed : (e.apply (ing.securedWith (s.recordFor b))).rolledBack
      (proxyBackend ing.metadata.key.name) (s.recordFor b) =
      ((e.apply (ing.securedWith (s.recordFor b))).withBackend s.restored).unannotated
        backupAnnotationKey := by
    rw [Ingress.rolledBack, ServiceBackend.serviceBackendFor_recordFor, Ingress.pointedAt, haway]
    rfl
  -- the handled annotation is still there, so unmarking removes the marks
  have hhandled : (((e.apply (ing.securedWith (s.recordFor b))).withBackend s.restored).unannotated
      backupAnnotationKey).isUnmarked = false := by
    have hkey : handledAnnotationKey ≠ backendAnnotationKey := by decide
    simp +decide [Ingress.isUnmarked, Ingress.isHandled, Release.annotationValue?_apply _ _ hkey,
      Ingress.securedWith]
  rw [hpointed, Ingress.unmarked, if_neg (by simp [hhandled]), Ingress.securedWith,
    Release.apply_withBackend]
  calc (((((e.apply (ing.mark.annotated backupAnnotationKey (s.recordFor b).toText)).withBackend
          (proxyBackend ing.metadata.key.name)).withBackend s.restored).unannotated
          backupAnnotationKey).unmark)
      = ((((e.apply (ing.mark.annotated backupAnnotationKey (s.recordFor b).toText)).unannotated
          backupAnnotationKey).unmark).withBackend (proxyBackend ing.metadata.key.name)).withBackend
          s.restored := rfl
    _ = ((e.apply ing).normalized.withBackend (proxyBackend ing.metadata.key.name)).withBackend
          s.restored := by rw [clear_apply_marked h]
    _ = ((e.apply ing).withBackend s.restored).normalized := by
          rw [Ingress.withBackend_withBackend, Ingress.normalized_withBackend]

/-! ### The reconciliations of the round trip -/

variable {dex : Auth.DexSpec}

/-- The second reconciliation secures the marked ingress. -/
theorem reconcile_mark (h : ing.Fresh s b) :
    Triple (fun w => w.Settled b dex (ing.upstreamRef s).Routed ∧
        w.cluster.ingresses.get? ing.metadata.key = some ing.mark)
      (reconcile ing.mark)
      (fun o w => o = .secured ∧ w.Settled b dex (ing.upstreamRef s).Routed ∧
        w.cluster.ingresses.get? ing.metadata.key = some (ing.securedWith (s.recordFor b)))
      (fun _ => False) := by
  have hrec : ing.mark.KeepsRecord ⟨ing.mark.authBackendId, s.name, portText s.port⟩
      (s.recordFor b) := by
    left
    refine ⟨by simpa +decide using h.unbacked, ?_⟩
    rw [h.authBackendId_mark]
    rfl
  have hsecure : Triple (fun w => w.Settled b dex (ing.upstreamRef s).Routed ∧
        w.cluster.ingresses.get? ing.mark.metadata.key = some ing.mark) (reconcile ing.mark)
      (fun o w => o = .secured ∧ w.Settled b dex (ing.upstreamRef s).Routed ∧
        w.cluster.ingresses.get? ing.mark.metadata.key = some (ing.mark.secured s (s.recordFor b)).marked)
      (fun _ => False) :=
    reconcile_secures h.authBackendId_mark (by simpa using h.serviceBackend)
      (by simpa using h.wantsSecurity) (by simpa using h.isDeleting) (Ingress.isHandled_mark ing)
      hrec fun rs hr => by
        rw [Ingress.key_mark]
        exact hr
  refine hsecure.mono (fun w hw => ⟨hw.1, by simpa using hw.2⟩) (fun o w ho => ⟨ho.1, ho.2.1, ?_⟩)
    (fun _ h => h)
  rw [← h.secured_mark]
  simpa using ho.2.2

end Kube.Ingress.Fresh

namespace Release

variable (e : Release) (ing : Ingress) (r : BackupRecord)

/-- A released secured ingress still carries its backup and both marks. -/
theorem backup_apply_securedWith :
    (e.apply (ing.securedWith r)).annotationValue? backupAnnotationKey = some r.toText := by
  rw [annotationValue?_apply _ _ (by decide)]
  simp [Ingress.securedWith]

theorem isHandled_apply_securedWith : (e.apply (ing.securedWith r)).isHandled = true := by
  rw [Ingress.isHandled, annotationValue?_apply _ _ (by decide)]
  simp +decide [Ingress.securedWith]

theorem hasSecurityFinalizer_apply_securedWith :
    (e.apply (ing.securedWith r)).hasSecurityFinalizer = true := by
  simp [Ingress.securedWith, Ingress.hasSecurityFinalizer_mark]

end Release

namespace Kube.Ingress.Fresh

variable {ing : Ingress} {s : ServiceBackend} {b : String} {dex : Auth.DexSpec}

/-- Reconciling the secured ingress again changes nothing. -/
theorem reconcile_securedWith (h : ing.Fresh s b) :
    Triple (fun w => w.Settled b dex (ing.upstreamRef s).Routed ∧
        w.cluster.ingresses.get? ing.metadata.key = some (ing.securedWith (s.recordFor b)))
      (reconcile (ing.securedWith (s.recordFor b)))
      (fun o w => o = .secured ∧ w.Settled b dex (ing.upstreamRef s).Routed ∧
        w.cluster.ingresses.get? ing.metadata.key = some (ing.securedWith (s.recordFor b)))
      (fun _ => False) := by
  have hrec : (ing.securedWith (s.recordFor b)).KeepsRecord
      ⟨(ing.securedWith (s.recordFor b)).authBackendId, (proxyBackend ing.metadata.key.name).name,
        portText (proxyBackend ing.metadata.key.name).port⟩ (s.recordFor b) :=
    Or.inr ⟨(s.recordFor b).toText, by simp [Ingress.securedWith], BackupRecord.ofText_toText _⟩
  have hsecure : Triple (fun w => w.Settled b dex (ing.upstreamRef s).Routed ∧
        w.cluster.ingresses.get? (ing.securedWith (s.recordFor b)).metadata.key =
          some (ing.securedWith (s.recordFor b)))
      (reconcile (ing.securedWith (s.recordFor b)))
      (fun o w => o = .secured ∧ w.Settled b dex (ing.upstreamRef s).Routed ∧
        w.cluster.ingresses.get? (ing.securedWith (s.recordFor b)).metadata.key =
          some (((ing.securedWith (s.recordFor b)).secured (proxyBackend ing.metadata.key.name)
            (s.recordFor b)).marked))
      (fun _ => False) :=
    reconcile_secures
      (by simpa +decide [Ingress.authBackendId, Ingress.securedWith] using h.authBackendId_mark)
      (h.serviceBackend_securedWith _)
      (by simpa +decide [Ingress.wantsSecurity, Ingress.securedWith] using h.wantsSecurity)
      (by simpa [Ingress.securedWith] using h.isDeleting)
      (by simp +decide [Ingress.isHandled, Ingress.securedWith]) hrec fun rs hr => by
        rw [Ingress.key_securedWith]
        exact hr
  refine hsecure.mono (fun w hw => ⟨hw.1, by simpa using hw.2⟩) (fun o w ho => ⟨ho.1, ho.2.1, ?_⟩)
    (fun _ h => h)
  rw [← Ingress.secured_securedWith ing (s.recordFor b)]
  simpa using ho.2.2

/-- Once released, the secured ingress is rolled back to the released one, pointed at the
service read back from its backup. -/
theorem reconcile_released (h : ing.Fresh s b) (e : Release) :
    Triple (fun w => w.Settled b dex (ing.upstreamRef s).Routed ∧
        w.cluster.ingresses.get? ing.metadata.key = some (e.apply (ing.securedWith (s.recordFor b))))
      (reconcile (e.apply (ing.securedWith (s.recordFor b))))
      (fun o w => o = .rolledBack ∧ w.Settled b dex (ing.upstreamRef s).Routed ∧
        w.cluster.ingresses.get? ing.metadata.key =
          some ((e.apply ing).withBackend s.restored).normalized)
      (fun _ => False) := by
  have hroll : Triple (fun w => w.Settled b dex (ing.upstreamRef s).Routed ∧
        w.cluster.ingresses.get? (e.apply (ing.securedWith (s.recordFor b))).metadata.key =
          some (e.apply (ing.securedWith (s.recordFor b))))
      (reconcile (e.apply (ing.securedWith (s.recordFor b))))
      (fun o w => o = .rolledBack ∧ w.Settled b dex (ing.upstreamRef s).Routed ∧
        w.cluster.ingresses.get? (e.apply (ing.securedWith (s.recordFor b))).metadata.key =
          some ((e.apply (ing.securedWith (s.recordFor b))).rolledBack
            (proxyBackend ing.metadata.key.name) (s.recordFor b)).unmarked)
      (fun _ => False) :=
    reconcile_rollsBack (by rw [Release.serviceBackend_apply]; exact h.serviceBackend_securedWith _)
      (Or.inr (e.isHandled_apply_securedWith ing (s.recordFor b)))
      (Or.inr (e.hasSecurityFinalizer_apply_securedWith ing (s.recordFor b))) (e.releases _)
      ⟨_, e.backup_apply_securedWith ing (s.recordFor b), BackupRecord.ofText_toText _⟩
  refine hroll.mono (fun w hw => ⟨hw.1, by simpa using hw.2⟩) (fun o w ho => ⟨ho.1, ho.2.1, ?_⟩)
    (fun _ h => h)
  rw [← h.rolledBack_apply e]
  simpa using ho.2.2

end Kube.Ingress.Fresh

/-! ## The round trip -/

section RoundTrip

variable {ing : Ingress} {s : ServiceBackend} {b : String} {dex : Auth.DexSpec} {w₀ : World}

/-- Marked, secured `n + 1` times and released, with every call going through, a fresh ingress
is stored released in its secured form, in settled surroundings. -/
theorem secure_then_release (e : Release) (n : Nat) (h : ing.Fresh s b)
    (hstored : w₀.cluster.ingresses.get? ing.metadata.key = some ing)
    (hset : w₀.Settled b dex (ing.upstreamRef s).Routed) :
    ∃ w₁, Handled ing.metadata.key (.markedReady :: List.replicate (n + 1) .secured) w₀ w₁ ∧
      ((e.step ing.metadata.key).apply w₁).Settled b dex (ing.upstreamRef s).Routed ∧
      ((e.step ing.metadata.key).apply w₁).cluster.ingresses.get? ing.metadata.key =
        some (e.apply (ing.securedWith (s.recordFor b))) := by
  obtain ⟨_, w₁, hmarked, rfl, hset₁, hstored₁⟩ := Triple.exec_ok
    (reconcile_marksReady h.serviceBackend h.wantsSecurity h.isDeleting h.isHandled) ⟨hset, hstored⟩
  obtain ⟨_, w₂, hsecured, rfl, hset₂, hstored₂⟩ := Triple.exec_ok h.reconcile_mark ⟨hset₁, hstored₁⟩
  obtain ⟨w₃, hagain, hset₃, hstored₃⟩ := Handled.replicate h.reconcile_securedWith n hset₂ hstored₂
  refine ⟨w₃, .cons ing hstored hmarked (.cons ing.mark hstored₁ hsecured hagain), ?_, ?_⟩
  · -- the release edits the stored ingress and nothing the sagas need
    rw [Release.step_apply]
    exact hset₃.editIngress _ _
  · rw [Release.step_apply, World.get?_editIngress, if_pos rfl, hstored₃]
    rfl

/-- Marked, secured `n + 1` times, released and rolled back, with every call going through, a
fresh ingress comes back as the released one with its path pointed at the service read back
from its backup. -/
theorem secure_release_result (e : Release) (n : Nat) (h : ing.Fresh s b)
    (hstored : w₀.cluster.ingresses.get? ing.metadata.key = some ing)
    (hset : w₀.Settled b dex (ing.upstreamRef s).Routed) :
    ∃ w₁ w₂, Handled ing.metadata.key (.markedReady :: List.replicate (n + 1) .secured) w₀ w₁ ∧
      Handled ing.metadata.key [.rolledBack] ((e.step ing.metadata.key).apply w₁) w₂ ∧
      w₂.cluster.ingresses.get? ing.metadata.key =
        some ((e.apply ing).withBackend s.restored).normalized := by
  obtain ⟨w₁, hsecured, hset₁, hreleased⟩ := secure_then_release e n h hstored hset
  obtain ⟨_, w₂, hrolled, rfl, -, hstored₂⟩ := Triple.exec_ok (h.reconcile_released e)
    ⟨hset₁, hreleased⟩
  exact ⟨w₁, w₂, hsecured, .cons _ hreleased hrolled (.nil w₂), hstored₂⟩

/-- Marked, secured `n + 1` times, released and rolled back, with every call going through, a
fresh ingress comes back as the released one with its path pointed at `serviceBackendFor` of the
service's name and port text, with absent maps made empty. So it is given back exactly as
released when, and only when, the port reads back from its own text, as every port of one field
does: a number, or a name that reads as no number. -/
theorem secure_release_round_trip (e : Release) (n : Nat) (h : ing.Fresh s b)
    (hstored : w₀.cluster.ingresses.get? ing.metadata.key = some ing)
    (hset : w₀.Settled b dex (ing.upstreamRef s).Routed) :
    ∃ w₁ w₂, Handled ing.metadata.key (.markedReady :: List.replicate (n + 1) .secured) w₀ w₁ ∧
      Handled ing.metadata.key [.rolledBack] ((e.step ing.metadata.key).apply w₁) w₂ ∧
      w₂.cluster.ingresses.get? ing.metadata.key =
        some ((e.apply ing).withBackend (serviceBackendFor s.name (portText s.port))).normalized ∧
      (w₂.cluster.ingresses.get? ing.metadata.key = some (e.apply ing).normalized ↔
        serviceBackendFor s.name (portText s.port) = s) ∧
      ∀ q, s.port = some q → q.OneField →
        w₂.cluster.ingresses.get? ing.metadata.key = some (e.apply ing).normalized := by
  obtain ⟨w₁, w₂, hsecured, hrolled, hstored₂⟩ := secure_release_result e n h hstored hset
  -- the released ingress is given back exactly when its path is
  have hiff : w₂.cluster.ingresses.get? ing.metadata.key = some (e.apply ing).normalized ↔
      serviceBackendFor s.name (portText s.port) = s := by
    rw [hstored₂, Option.some.injEq]
    exact Ingress.withBackend_normalized_eq_iff (by simpa using h.serviceBackend) s.restored
  refine ⟨w₁, w₂, hsecured, hrolled, hstored₂, hiff, fun q hq hone => hiff.2 ?_⟩
  -- a port of one field reads back from its text
  obtain ⟨name, port⟩ := s
  cases hq
  rw [serviceBackendFor, servicePort_portText hone]

end RoundTrip

/-- An ingress `shop/web` asking to be secured by the backend `dex`, routing to the service `web`
by the port `port`. -/
def portedIngress (port : ServiceBackendPort) : Ingress where
  metadata :=
    { name := some "web", ns := some "shop", annotations := some [(backendAnnotationKey, "dex")] }
  spec := some
    { rules := some [
        { host := some "web.example"
          http := some
            { paths := [
                { backend := { service := some { name := "web", port := some port } }
                  pathType := "Prefix" }] } }] }

/-- A cluster holding that ingress only, the backend `dex` of a Dex the controller is connected
to, and a route to the service `web` by the port text `http`. -/
def portedWorld (port : ServiceBackendPort) : World :=
  { cluster := { ingresses := [(⟨"shop", "web"⟩, portedIngress port)] }
    backends := [("dex", { dex := some ⟨"dex:5557", "https://dex.example"⟩ })]
    routes := [("shop/web:http", ⟨"web.shop", 8080⟩)]
    connected := ["dex:5557"] }

theorem key_portedIngress (port : ServiceBackendPort) :
    (portedIngress port).metadata.key = ⟨"shop", "web"⟩ := rfl

/-- `portedWorld` stores `portedIngress` under `shop/web` and nothing else. -/
theorem portedWorld_stored {port : ServiceBackendPort} {k : ObjectKey} {ing : Ingress}
    (hk : (portedWorld port).cluster.ingresses.get? k = some ing) :
    k = ⟨"shop", "web"⟩ ∧ ing = portedIngress port := by
  simp only [portedWorld, Store.get?_cons, Store.get?_nil] at hk
  split at hk
  next heq =>
    cases hk
    exact ⟨heq.symm, rfl⟩
  next => cases hk

theorem portedWorld_wellKeyed (port : ServiceBackendPort) :
    (portedWorld port).cluster.WellKeyed := by
  intro k ing hk
  obtain ⟨rfl, rfl⟩ := portedWorld_stored hk
  rfl

theorem portedIngress_fresh (port : ServiceBackendPort) :
    (portedIngress port).Fresh ⟨"web", some port⟩ "dex" where
  serviceBackend := rfl
  backend := rfl
  backend_ne := by decide
  unhandled := by
    change StringMap.get? [(backendAnnotationKey, "dex")] handledAnnotationKey = none
    decide
  unbacked := by
    change StringMap.get? [(backendAnnotationKey, "dex")] backupAnnotationKey = none
    decide
  noFinalizer := rfl
  notDeleting := rfl
  awayFromProxy := by
    change "web" ≠ proxyName "web"
    decide

theorem portedWorld_settled (port : ServiceBackendPort) (hport : portText (some port) = "http") :
    (portedWorld port).Settled "dex" ⟨"dex:5557", "https://dex.example"⟩
      ((portedIngress port).upstreamRef ⟨"web", some port⟩).Routed := by
  have hquiet : (portedWorld port).Quiet := fun _ hp => by simp [portedWorld] at hp
  refine ⟨hquiet, ⟨_, rfl, rfl⟩, Or.inl rfl, ?_⟩
  simp only [ServiceRef.Routed, Ingress.upstreamRef, hport]
  rfl

/-- A port given by its name alone comes back as it was. -/
theorem named_port_restored :
    ∃ w₁ w₂, Handled ⟨"shop", "web"⟩ [.markedReady, .secured] (portedWorld { name := some "http" }) w₁ ∧
      Handled ⟨"shop", "web"⟩ [.rolledBack]
        ((Release.dropBackend.step ⟨"shop", "web"⟩).apply w₁) w₂ ∧
      w₂.cluster.ingresses.get? ⟨"shop", "web"⟩ =
        some (Release.dropBackend.apply (portedIngress { name := some "http" })).normalized := by
  obtain ⟨w₁, w₂, hsecured, hrolled, -, -, hone⟩ := secure_release_round_trip .dropBackend 0
    (portedIngress_fresh { name := some "http" }) rfl (portedWorld_settled _ rfl)
  exact ⟨w₁, w₂, hsecured, hrolled, hone _ rfl (.inr ⟨"http", rfl, by decide, by decide⟩)⟩

/-- A port given by both a number and a name comes back by its name alone, so the ingress is not
given back as it was. -/
theorem numbered_named_port_changed :
    ∃ w₁ w₂, Handled ⟨"shop", "web"⟩ [.markedReady, .secured]
        (portedWorld { number := some 80, name := some "http" }) w₁ ∧
      Handled ⟨"shop", "web"⟩ [.rolledBack]
        ((Release.dropBackend.step ⟨"shop", "web"⟩).apply w₁) w₂ ∧
      w₂.cluster.ingresses.get? ⟨"shop", "web"⟩ ≠
        some (Release.dropBackend.apply (portedIngress { number := some 80, name := some "http" })).normalized := by
  obtain ⟨w₁, w₂, hsecured, hrolled, hstored⟩ := secure_release_result .dropBackend 0
    (portedIngress_fresh { number := some 80, name := some "http" }) rfl (portedWorld_settled _ rfl)
  refine ⟨w₁, w₂, hsecured, hrolled, ?_⟩
  rw [key_portedIngress] at hstored
  rw [hstored, Ne, Option.some.injEq, Ingress.withBackend_normalized_eq_iff rfl]
  decide

end IngressGuard
