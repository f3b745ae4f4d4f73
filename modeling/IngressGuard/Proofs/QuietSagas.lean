import IngressGuard.Proofs.Runs

/-!
# The sagas when no call fails

With no planned fault, and with what an app needs around it in place (its auth backend, of kind
Dex at an address the controller holds a connection to or can open one to), every call goes
through and the sagas return. What they leave of the stored ingress is then exact: securing
keeps the backup it finds or records the current target, and points the single path at the
proxy; rolling back points the path at the recorded service and drops the backup; the marks are
set or removed unless they already are. A swap writes only when the path leads elsewhere, which
`Ingress.pointedAt` keeps as a case.

Each triple here has the failure condition `False`, so by `Triple.exec_ok` the saga returns.
-/

namespace IngressGuard

open IngressGuard.Kube IngressGuard.Dex

/-- The surroundings of an app's sagas: no planned fault; its auth backend `id` of kind Dex at
`dex`, whose address the controller holds a connection to or can open one to; and routes with a
property `R`. -/
def World.Settled (w : World) (id : String) (dex : Auth.DexSpec)
    (R : List (String × Route) → Prop) : Prop :=
  w.Quiet ∧ (∃ spec, w.backends.lookup id = some spec ∧ spec.dex = some dex) ∧
    (w.connected.contains dex.apiAddress = true ∨ checkAddress dex.apiAddress = .ok ()) ∧
    R w.routes

namespace World.Settled

variable {w : World} {id : String} {dex : Auth.DexSpec} {R : List (String × Route) → Prop}

theorem passCall (h : w.Settled id dex R) (kind : CallKind) (subject : String) :
    (w.passCall kind subject).Settled id dex R :=
  ⟨h.1.passCall kind subject, h.2⟩

theorem setDex (h : w.Settled id dex R) (a : String) (s : DexServer) :
    (w.setDex a s).Settled id dex R := by
  rw [World.setDex_eq]
  exact h

theorem editIngress (h : w.Settled id dex R) (k : ObjectKey) (f : Ingress → Ingress) :
    (w.editIngress k f).Settled id dex R := by
  unfold World.editIngress
  split
  · exact h
  · exact h

theorem withConnected (h : w.Settled id dex R) (a : String) :
    (w.withConnected a).Settled id dex R :=
  ⟨h.1, h.2.1, h.2.2.1.imp_left fun hc => by simp at hc; simp [World.withConnected, hc], h.2.2.2⟩

end World.Settled

/-- In settled surroundings no call fails, and the calls keep them. -/
theorem World.Settled.fine {id : String} {dex : Auth.DexSpec} {R : List (String × Route) → Prop} :
    Fine (fun w => w.Settled id dex R) (fun _ => False) :=
  fun kind subject => ⟨fun _ hw => hw.passCall kind subject,
    fun _ hw hb => absurd hb (hw.1.not_blocked kind)⟩

theorem Fine.settled {id : String} {dex : Auth.DexSpec} {R : List (String × Route) → Prop}
    {P : World → Prop} (hP : Calm P) : Fine (fun w => w.Settled id dex R ∧ P w) (fun _ => False) :=
  World.Settled.fine.and hP

/-- The service backend of an ingress's proxy. -/
def proxyBackend (ingress : String) : ServiceBackend :=
  serviceBackendFor (proxyName ingress) proxyPortName

namespace Kube.Ingress

/-- The ingress pointed at a service, unless its path `cur` leads there already. -/
def pointedAt (ing : Ingress) (cur target : ServiceBackend) : Ingress :=
  if leadsTo cur target then ing else ing.withBackend target

/-- The ingress with a backup: the one it carries, or the record `r` written as one. -/
def backedWith (ing : Ingress) (r : BackupRecord) : Ingress :=
  match ing.annotationValue? backupAnnotationKey with
  | some _ => ing
  | none => ing.annotated backupAnnotationKey r.toText

/-- The record kept for the ingress when `data` is offered: `data` itself when it carries no
backup, else the backup it carries, which must read. -/
def KeepsRecord (ing : Ingress) (data r : BackupRecord) : Prop :=
  (ing.annotationValue? backupAnnotationKey = none ∧ r = data) ∨
    ∃ text, ing.annotationValue? backupAnnotationKey = some text ∧ BackupRecord.ofText text = .ok r

@[simp] theorem metadata_pointedAt (ing : Ingress) (cur target : ServiceBackend) :
    (ing.pointedAt cur target).metadata = ing.metadata := by
  unfold pointedAt
  split <;> rfl

@[simp] theorem key_backedWith (ing : Ingress) (r : BackupRecord) :
    (ing.backedWith r).metadata.key = ing.metadata.key := by
  unfold backedWith
  split <;> rfl

theorem serviceBackend_backedWith (ing : Ingress) (r : BackupRecord) :
    (ing.backedWith r).serviceBackend = ing.serviceBackend := by
  unfold backedWith
  split <;> rfl

/-- A backup the ingress carries reads as the record kept. -/
theorem KeepsRecord.read {ing : Ingress} {data r : BackupRecord} (h : ing.KeepsRecord data r)
    {text : String} (ht : ing.annotationValue? backupAnnotationKey = some text) :
    BackupRecord.ofText text = .ok r := by
  rcases h with ⟨hnone, -⟩ | ⟨text', ht', hr'⟩
  · rw [hnone] at ht
    cases ht
  · rw [ht'] at ht
    cases ht
    exact hr'

/-- With no backup carried, the record kept is the one offered. -/
theorem KeepsRecord.offered {ing : Ingress} {data r : BackupRecord} (h : ing.KeepsRecord data r)
    (hnone : ing.annotationValue? backupAnnotationKey = none) : r = data := by
  rcases h with ⟨-, hr⟩ | ⟨text', ht', -⟩
  · exact hr
  · rw [hnone] at ht'
    cases ht'

/-- The auth backend the ingress names, empty when it names none. -/
def authBackendId (ing : Ingress) : String :=
  (ing.annotationValue? backendAnnotationKey).getD ""

/-- The ingress as marking leaves it. -/
def marked (ing : Ingress) : Ingress :=
  if ing.isMarked then ing else ing.mark

/-- The ingress as unmarking leaves it. -/
def unmarked (ing : Ingress) : Ingress :=
  if ing.isUnmarked then ing else ing.unmark

/-- Unmarking leaves neither mark. -/
theorem isHandled_unmarked (ing : Ingress) : ing.unmarked.isHandled = false := by
  unfold unmarked
  split
  next hu =>
    simp only [isUnmarked, Bool.and_eq_true, Bool.not_eq_eq_eq_not, Bool.not_true] at hu
    exact hu.1
  next => simp +decide [isHandled]

theorem hasSecurityFinalizer_unmarked (ing : Ingress) :
    ing.unmarked.hasSecurityFinalizer = false := by
  unfold unmarked
  split
  next hu =>
    simp only [isUnmarked, Bool.and_eq_true, Bool.not_eq_eq_eq_not, Bool.not_true] at hu
    exact hu.2
  next => exact hasSecurityFinalizer_unmark ing

/-- The ingress as securing leaves it, from the path `cur` and the record `r` kept. -/
def secured (ing : Ingress) (cur : ServiceBackend) (r : BackupRecord) : Ingress :=
  (ing.backedWith r).pointedAt cur (proxyBackend ing.metadata.key.name)

/-- The ingress as rolling back leaves it, from the path `cur` and the record `r` read. -/
def rolledBack (ing : Ingress) (cur : ServiceBackend) (r : BackupRecord) : Ingress :=
  (ing.pointedAt cur (serviceBackendFor r.serviceName r.servicePortText)).unannotated
    backupAnnotationKey

end Kube.Ingress

/-- The record securing offers: the app's backend and the service it currently routes to. -/
def App.currentRecord (app : App) : BackupRecord :=
  ⟨app.authBackendId, app.ingress.target.name, app.ingress.target.portText⟩

/-- The route key securing looks up once it keeps the record `r`. -/
def App.recordRouteKey (app : App) (r : BackupRecord) : String :=
  ({ app.ingress.target with name := r.serviceName, portText := r.servicePortText } : ServiceRef).routeKey

/-! ## What the sagas leave of the stored ingress

The steps that write the stored ingress, followed in any surroundings `P` that the calls respect
and that every ingress write keeps. Their failures other than planned faults contradict what is
stored, so these triples hold whatever the failure condition, and the sagas below use them with no
fault planned as well as with any. -/

section Stores

variable {P err : World → Prop} (hfine : Fine P err)
include hfine

theorem getBackup_stores {app : App} {r : BackupRecord} {ing : Ingress}
    (hrec : ∃ text, ing.annotationValue? backupAnnotationKey = some text ∧
      BackupRecord.ofText text = .ok r) :
    Triple (fun w => P w ∧ w.cluster.ingresses.get? app.ingressKey = some ing) (getBackup app)
      (fun b w => (P w ∧ w.cluster.ingresses.get? app.ingressKey = some ing) ∧ b = some r) err := by
  obtain ⟨text', ht', hr'⟩ := hrec
  refine getBackup_triple (hfine.and fun _ _ _ => Iff.rfl) (fun _ hw h => ?_)
    (fun _ _ text r'' hw hk ht hr => ?_) (fun _ _ text e hw hk ht he => ?_)
    (fun _ _ hw hk hnone => ?_) <;>
    first
    | (rw [hw.2] at h; cases h)
    | (rw [hw.2] at hk; cases hk)
  · rw [ht'] at ht
    cases ht
    rw [hr'] at hr
    cases hr
    exact ⟨hw, rfl⟩
  · rw [ht'] at ht
    cases ht
    rw [hr'] at he
    cases he
  · rw [ht'] at hnone
    cases hnone

variable (hwrite : ∀ w ing, P w → P (w.withIngress ing))
include hwrite

/-- A swap leaves the ingress pointed at the target. -/
theorem swapBackend_stores {k : ObjectKey} {target : ServiceBackend} {ing : Ingress}
    {cur : ServiceBackend} (hkey : ing.metadata.key = k) (hcur : ing.serviceBackend = .ok cur) :
    Triple (fun w => P w ∧ w.cluster.ingresses.get? k = some ing) (swapBackend k target)
      (fun _ w => P w ∧ w.cluster.ingresses.get? k = some (ing.pointedAt cur target)) err := by
  refine swapBackend_triple (hfine.and fun _ _ _ => Iff.rfl) (fun _ hw h => ?_)
    (fun _ _ _ hw hk h => ?_) (fun _ _ _ hw hk hs hl => ?_) (fun _ _ _ hw hk hs hl _ => ?_)
    (fun _ _ hw hk hc => ?_)
  · rw [hw.2] at h
    cases h
  · rw [hw.2] at hk
    cases hk
    rw [hcur] at h
    cases h
  · rw [hw.2] at hk
    cases hk
    rw [hcur] at hs
    cases hs
    refine ⟨hw.1, ?_⟩
    rw [hw.2, Ingress.pointedAt, if_pos hl]
  · rw [hw.2] at hk
    cases hk
    rw [hcur] at hs
    cases hs
    refine ⟨hwrite _ _ hw.1, ?_⟩
    rw [World.get?_withIngress, Ingress.withBackend_metadata, hkey, if_pos rfl, Ingress.pointedAt,
      if_neg (by simp [hl])]
  · rw [hw.2] at hk
    cases hk
    rw [hkey, Store.contains_eq_isSome, hw.2] at hc
    cases hc

theorem backupOrGet_stores {app : App} {data r : BackupRecord} {ing : Ingress}
    (hkey : ing.metadata.key = app.ingressKey) (hrec : ing.KeepsRecord data r) :
    Triple (fun w => P w ∧ w.cluster.ingresses.get? app.ingressKey = some ing)
      (backupOrGet app data)
      (fun b w => (P w ∧ w.cluster.ingresses.get? app.ingressKey = some (ing.backedWith r)) ∧ b = r)
      err := by
  refine backupOrGet_triple (hfine.and fun _ _ _ => Iff.rfl) (fun _ hw h => ?_)
    (fun _ _ text r' hw hk ht hr => ?_) (fun _ _ text e hw hk ht he => ?_)
    (fun _ _ hw hk hnone _ => ?_) (fun _ _ hw hk hc => ?_)
  · rw [hw.2] at h
    cases h
  · -- a backup is there: it is the record kept
    rw [hw.2] at hk
    cases hk
    rw [hrec.read ht] at hr
    cases hr
    exact ⟨⟨hw.1, by rw [hw.2, Ingress.backedWith, ht]⟩, rfl⟩
  · rw [hw.2] at hk
    cases hk
    rw [hrec.read ht] at he
    cases he
  · -- none is there: the offered record is written and kept
    rw [hw.2] at hk
    cases hk
    obtain rfl := hrec.offered hnone
    refine ⟨⟨hwrite _ _ hw.1, ?_⟩, rfl⟩
    rw [World.get?_withIngress, Ingress.key_annotated, hkey, if_pos rfl, Ingress.backedWith, hnone]
  · rw [hw.2] at hk
    cases hk
    rw [hkey, Store.contains_eq_isSome, hw.2] at hc
    cases hc

theorem deleteBackup_stores {app : App} {ing : Ingress} (hkey : ing.metadata.key = app.ingressKey)
    (hsome : (ing.annotationValue? backupAnnotationKey).isSome) :
    Triple (fun w => P w ∧ w.cluster.ingresses.get? app.ingressKey = some ing)
      (deleteBackup app)
      (fun _ w => P w ∧
        w.cluster.ingresses.get? app.ingressKey = some (ing.unannotated backupAnnotationKey)) err := by
  refine deleteBackup_triple (hfine.and fun _ _ _ => Iff.rfl) (fun _ hw h => ?_)
    (fun _ _ hw hk hnone => ?_) (fun _ _ hw hk _ _ => ?_) (fun _ _ hw hk hc => ?_) <;>
    first
    | (rw [hw.2] at h; cases h)
    | (rw [hw.2] at hk; cases hk)
  · rw [hnone] at hsome
    cases hsome
  · refine ⟨hwrite _ _ hw.1, ?_⟩
    rw [World.get?_withIngress, Ingress.key_unannotated, hkey, if_pos rfl]
  · rw [hkey, Store.contains_eq_isSome, hw.2] at hc
    cases hc

theorem ensureMarked_stores {k : ObjectKey} {ing : Ingress} (hkey : ing.metadata.key = k) :
    Triple (fun w => P w ∧ w.cluster.ingresses.get? k = some ing) (ensureMarked k)
      (fun _ w => P w ∧ w.cluster.ingresses.get? k = some ing.marked) err := by
  refine ensureMarked_triple (hfine.and fun _ _ _ => Iff.rfl) (fun _ hw h => ?_)
    (fun _ _ hw hk hm => ?_) (fun _ _ hw hk hm _ => ?_) (fun _ _ hw hk hc => ?_) <;>
    first
    | (rw [hw.2] at h; cases h)
    | (rw [hw.2] at hk; cases hk)
  · exact ⟨hw.1, by rw [hw.2, Ingress.marked, if_pos hm]⟩
  · refine ⟨hwrite _ _ hw.1, ?_⟩
    rw [World.get?_withIngress, Ingress.key_mark, hkey, if_pos rfl, Ingress.marked,
      if_neg (by simp [hm])]
  · rw [hkey, Store.contains_eq_isSome, hw.2] at hc
    cases hc

theorem ensureUnmarked_stores {k : ObjectKey} {ing : Ingress} (hkey : ing.metadata.key = k) :
    Triple (fun w => P w ∧ w.cluster.ingresses.get? k = some ing) (ensureUnmarked k)
      (fun _ w => P w ∧ w.cluster.ingresses.get? k = some ing.unmarked) err := by
  refine ensureUnmarked_triple (hfine.and fun _ _ _ => Iff.rfl) (fun _ hw h => ?_)
    (fun _ _ hw hk hm => ?_) (fun _ _ hw hk hm _ => ?_) (fun _ _ hw hk hc => ?_) <;>
    first
    | (rw [hw.2] at h; cases h)
    | (rw [hw.2] at hk; cases hk)
  · exact ⟨hw.1, by rw [hw.2, Ingress.unmarked, if_pos hm]⟩
  · refine ⟨hwrite _ _ hw.1, ?_⟩
    rw [World.get?_withIngress, Ingress.key_unmark, hkey, if_pos rfl, Ingress.unmarked,
      if_neg (by simp [hm])]
  · rw [hkey, Store.contains_eq_isSome, hw.2] at hc
    cases hc

/-- Provisioning stores the proxy objects of its plan and points the ingress at the proxy. -/
theorem provision_stores {plan : ProxyPlan} {k : ObjectKey} {ing : Ingress} {cur : ServiceBackend}
    (hsecret : ∀ w, P w → P (w.withSecret plan.objects.secret))
    (hdeployment : ∀ w, P w → P (w.withDeployment plan.objects.deployment))
    (hservice : ∀ w, P w → P (w.withService plan.objects.service))
    (hk : plan.app.ingressKey = k) (hkey : ing.metadata.key = k)
    (hcur : ing.serviceBackend = .ok cur) :
    Triple (fun w => P w ∧ w.cluster.ingresses.get? k = some ing) (provision plan)
      (fun _ w => (P w ∧ ProxyInPlace plan.objects w) ∧ w.cluster.ingresses.get? k =
        some (ing.pointedAt cur (proxyBackend plan.app.ingress.name))) err := by
  subst hk
  -- the swap writes the ingress only, so the proxy objects stay in place
  have hswap : Triple (fun w => (P w ∧ ProxyInPlace plan.objects w) ∧
        w.cluster.ingresses.get? plan.app.ingressKey = some ing)
      (swapBackend plan.app.ingressKey (proxyBackend plan.app.ingress.name))
      (fun _ w => (P w ∧ ProxyInPlace plan.objects w) ∧ w.cluster.ingresses.get? plan.app.ingressKey =
        some (ing.pointedAt cur (proxyBackend plan.app.ingress.name))) err :=
    swapBackend_stores (hfine.and fun _ _ _ => Iff.rfl)
      (fun w _ (hw : P w ∧ ProxyInPlace plan.objects w) => ⟨hwrite _ _ hw.1, hw.2⟩) hkey hcur
  exact provision_triple (hfine.and fun _ _ _ => Iff.rfl) (fun w hw => ⟨hsecret w hw.1, hw.2⟩)
    (fun w hw => ⟨hdeployment w hw.1, hw.2⟩) (fun w hw => ⟨hservice w hw.1, hw.2⟩)
    (hswap.mono (fun _ hw => ⟨⟨hw.1.1, hw.2⟩, hw.1.2⟩) (fun _ _ h => h) (fun _ h => h))

theorem unprovision_stores {removal : ProxyRemoval} {k : ObjectKey} {ing : Ingress}
    {cur : ServiceBackend} (hk : (⟨removal.ingressNs, removal.ingressName⟩ : ObjectKey) = k)
    (hkey : ing.metadata.key = k) (hcur : ing.serviceBackend = .ok cur)
    (hservice : ∀ w, P w → P (w.withoutService ⟨removal.ingressNs, proxyName removal.ingressName⟩))
    (hdeployment : ∀ w, P w →
      P (w.withoutDeployment ⟨removal.ingressNs, proxyName removal.ingressName⟩))
    (hsecret : ∀ w, P w → P (w.withoutSecret ⟨removal.ingressNs, proxyName removal.ingressName⟩)) :
    Triple (fun w => P w ∧ w.cluster.ingresses.get? k = some ing) (unprovision removal)
      (fun _ w => P w ∧ w.cluster.ingresses.get? k =
        some (ing.pointedAt cur (serviceBackendFor removal.serviceName removal.servicePortText)))
      err := by
  subst hk
  exact unprovision_triple (swapBackend_stores hfine hwrite hkey hcur)
    (hfine.and fun _ _ _ => Iff.rfl) (fun w hw => ⟨hservice w hw.1, hw.2⟩)
    (fun w hw => ⟨hdeployment w hw.1, hw.2⟩) (fun w hw => ⟨hsecret w hw.1, hw.2⟩)

end Stores

section Settled

variable {id : String} {dex : Auth.DexSpec} {R : List (String × Route) → Prop}

theorem getAuthBackend_settled {P : World → Prop} (hP : Calm P) :
    Triple (fun w => w.Settled id dex R ∧ P w) (getAuthBackend id)
      (fun backend w => (w.Settled id dex R ∧ P w) ∧
        backend.dex = some ⟨dex.apiAddress, dex.publicUrl⟩) (fun _ => False) := by
  refine getAuthBackend_triple (Fine.settled hP _ _) (fun w spec hw hl => ⟨hw, ?_⟩)
    (fun w hw hl => ?_)
  · obtain ⟨spec', hl', hd⟩ := hw.1.2.1
    rw [hl] at hl'
    cases hl'
    simp [hd]
  · obtain ⟨spec', hl', -⟩ := hw.1.2.1
    rw [hl] at hl'
    cases hl'

theorem registererFor_settled {backend : AuthBackend} {P : World → Prop} (hP : Calm P)
    (hconnect : ∀ w a, P w → P ((w.withConnect a).withConnected a))
    (hd : backend.dex = some ⟨dex.apiAddress, dex.publicUrl⟩) :
    Triple (fun w => w.Settled id dex R ∧ P w) (registererFor backend)
      (fun a w => (w.Settled id dex R ∧ P w) ∧ a = dex.apiAddress) (fun _ => False) := by
  refine registererFor_triple (Fine.settled hP) ?unknown ?held ?connect ?bad
  case unknown => exact fun h => by rw [hd] at h; cases h
  case held =>
    intro d hd' w hw _
    rw [hd] at hd'
    cases hd'
    exact ⟨hw, rfl⟩
  case connect =>
    intro d hd' w hw _ _
    rw [hd] at hd'
    cases hd'
    exact ⟨⟨(hw.1.setDex _ _).withConnected _, hconnect w _ hw.2⟩, rfl⟩
  case bad =>
    -- an address neither held nor well formed is not settled
    intro d hd' w hw hc hbad
    rw [hd] at hd'
    cases hd'
    obtain ⟨e, he⟩ := hbad
    rcases hw.1.2.2.1 with h | h
    · rw [hc] at h
      cases h
    · rw [h] at he
      cases he

theorem register_settled {address : String} {app : OidcApp} {P : World → Prop} (hP : Calm P)
    (hdrawn : ∀ w, P w → P { w with secretsDrawn := w.secretsDrawn + 1 })
    (hsecret : ∀ w s, P w → P (w.withSecret s)) (hdex : ∀ w d, P w → P { w with dex := d }) :
    Triple (fun w => w.Settled id dex R ∧ P w) (register address app)
      (fun _ w => w.Settled id dex R ∧ P w) (fun _ => False) :=
  register_keeps (Fine.settled hP) (fun w hw => ⟨hw.1, hdrawn w hw.2⟩)
    (fun w _ hw => ⟨hw.1, hsecret w _ hw.2⟩)
    (fun w hw => ⟨hw.1.setDex _ _, by rw [World.withoutClient, World.setDex_eq]; exact hdex w _ hw.2⟩)
    (fun w _ hw => ⟨hw.1.setDex _ _, by rw [World.withClient, World.setDex_eq]; exact hdex w _ hw.2⟩)

theorem unregister_settled {address appId : String} {P : World → Prop} (hP : Calm P)
    (hsecret : ∀ w k, P w → P (w.withoutSecret k)) (hdex : ∀ w d, P w → P { w with dex := d }) :
    Triple (fun w => w.Settled id dex R ∧ P w) (unregister address appId)
      (fun _ w => w.Settled id dex R ∧ P w) (fun _ => False) :=
  unregister_keeps (Fine.settled hP)
    (fun w hw => ⟨hw.1.setDex _ _, by rw [World.withoutClient, World.setDex_eq]; exact hdex w _ hw.2⟩)
    (fun w hw => ⟨hw.1, hsecret w _ hw.2⟩)

/-- Securing returns, keeps the backup or records the current target, and points the ingress at
its proxy. -/
theorem secureApp_settled {app : App} {ing : Ingress} {cur : ServiceBackend} {r : BackupRecord}
    (hkey : ing.metadata.key = app.ingressKey) (hcur : ing.serviceBackend = .ok cur)
    (hrec : ing.KeepsRecord app.currentRecord r)
    (hroute : ∀ rs, R rs → (rs.lookup (app.recordRouteKey r)).isSome) :
    Triple (fun w => w.Settled app.authBackendId dex R ∧
        w.cluster.ingresses.get? app.ingressKey = some ing)
      (secureApp app)
      (fun _ w => w.Settled app.authBackendId dex R ∧ w.cluster.ingresses.get? app.ingressKey =
        some ((ing.backedWith r).pointedAt cur (proxyBackend app.ingress.name)))
      (fun _ => False) := by
  unfold secureApp
  refine Triple.bind (Triple.within _ (getAuthBackend_settled fun _ _ _ => Iff.rfl))
    fun backend => Triple.assume fun hd => ?_
  refine Triple.bind (Triple.within _ (registererFor_settled (fun _ _ _ => Iff.rfl)
    (fun _ _ hw => by simpa using hw) hd)) fun address => Triple.assume fun _ => ?_
  refine Triple.bind (Triple.within _ (register_settled (fun _ _ _ => Iff.rfl) (fun _ hw => hw)
    (fun _ _ hw => hw) (fun _ _ hw => hw))) fun credentials => ?_
  refine Triple.bind (Triple.within _
    (backupOrGet_stores World.Settled.fine (fun _ _ hw => hw) hkey hrec)) fun backup =>
    Triple.assume fun hb => ?_
  subst hb
  -- the route of the service the kept record names is found
  have hrouted : Triple (fun w => w.Settled app.authBackendId dex R ∧
        w.cluster.ingresses.get? app.ingressKey = some (ing.backedWith backup))
      (routeService
        { app.ingress.target with name := backup.serviceName, portText := backup.servicePortText })
      (fun _ w => w.Settled app.authBackendId dex R ∧
        w.cluster.ingresses.get? app.ingressKey = some (ing.backedWith backup)) (fun _ => False) :=
    routeService_triple (Fine.settled (fun _ _ _ => Iff.rfl) _ _) (fun _ _ hw _ => hw)
      fun _ hw h => by
        have hfound := hroute _ hw.1.2.2.2
        rw [App.recordRouteKey, h] at hfound
        cases hfound
  refine Triple.bind (Triple.within _ hrouted) fun route => ?_
  exact Triple.within _ ((provision_stores World.Settled.fine (fun _ _ hw => hw) (fun _ hw => hw)
    (fun _ hw => hw) (fun _ hw => hw) (rfl : _ = app.ingressKey) (by rw [Ingress.key_backedWith, hkey])
    (by rw [Ingress.serviceBackend_backedWith, hcur])).mono (fun _ hw => hw)
    (fun _ _ hw => ⟨hw.1.1, hw.2⟩) (fun _ h => h))

/-- Rolling back returns, points the ingress at the recorded service and drops the backup. -/
theorem rollbackApp_settled {app : App} {ing : Ingress} {cur : ServiceBackend} {r : BackupRecord}
    (hkey : ing.metadata.key = app.ingressKey) (hcur : ing.serviceBackend = .ok cur)
    (hrec : ∃ text, ing.annotationValue? backupAnnotationKey = some text ∧
      BackupRecord.ofText text = .ok r) :
    Triple (fun w => w.Settled r.authBackendId dex R ∧
        w.cluster.ingresses.get? app.ingressKey = some ing)
      (rollbackApp app)
      (fun _ w => w.Settled r.authBackendId dex R ∧ w.cluster.ingresses.get? app.ingressKey =
        some ((ing.pointedAt cur (serviceBackendFor r.serviceName r.servicePortText)).unannotated
          backupAnnotationKey))
      (fun _ => False) := by
  have hsome : ((ing.pointedAt cur (serviceBackendFor r.serviceName r.servicePortText)).annotationValue?
      backupAnnotationKey).isSome := by
    obtain ⟨text, ht, -⟩ := hrec
    rw [Ingress.annotationValue?, Ingress.metadata_pointedAt, ← Ingress.annotationValue?, ht]
    rfl
  unfold rollbackApp
  refine Triple.bind (Triple.within _ (getBackup_stores World.Settled.fine hrec)) fun backup =>
    Triple.assume fun hb => ?_
  subst hb
  refine Triple.bind (Triple.within _ (unprovision_stores World.Settled.fine (fun _ _ hw => hw) rfl
    hkey hcur (fun _ hw => hw) (fun _ hw => hw) (fun _ hw => hw))) fun _ => ?_
  refine Triple.bind (Triple.within _ (getAuthBackend_settled fun _ _ _ => Iff.rfl))
    fun backend => Triple.assume fun hd => ?_
  refine Triple.bind (Triple.within _ (registererFor_settled (fun _ _ _ => Iff.rfl)
    (fun _ _ hw => by simpa using hw) hd)) fun address => Triple.assume fun _ => ?_
  refine Triple.bind (Triple.within _ (unregister_settled (fun _ _ _ => Iff.rfl)
    (fun _ _ hw => hw) (fun _ _ hw => hw))) fun _ => ?_
  exact Triple.within _ (deleteBackup_stores World.Settled.fine (fun _ _ hw => hw)
    (by rw [Ingress.metadata_pointedAt, hkey]) hsome)

/-! ## Reconciliations -/

@[simp] theorem appWith_ingressKey (ing : Ingress) (s : ServiceBackend) (host : String)
    (auth : Option Auth.IngressAuthSpec) : (appWith ing s host auth).ingressKey = ing.metadata.key :=
  rfl

/-- The app of an ingress of the supported shape is read without failing. -/
theorem appOf_settled {P : World → Prop} (hP : Calm P) {ing : Ingress} {cur : ServiceBackend}
    (hcur : ing.serviceBackend = .ok cur) :
    Triple (fun w => w.Settled id dex R ∧ P w) (appOf ing)
      (fun app w => (w.Settled id dex R ∧ P w) ∧ ∃ host auth, app = appWith ing cur host auth)
      (fun _ => False) :=
  appOf_valid (Fine.settled hP) (Ingress.validate_eq_ok.2 ⟨cur, hcur⟩) fun s host hs _ w hw => by
    rw [hcur] at hs
    cases hs
    exact ⟨hw, host, _, rfl⟩

/-- A new ingress asking to be secured is marked, and nothing else is done. -/
theorem reconcile_marksReady {ing : Ingress} {cur : ServiceBackend}
    (hcur : ing.serviceBackend = .ok cur) (hwant : ing.wantsSecurity = true)
    (hdel : ing.isDeleting = false) (hnew : ing.isHandled = false) :
    Triple (fun w => w.Settled id dex R ∧ w.cluster.ingresses.get? ing.metadata.key = some ing)
      (reconcile ing)
      (fun o w => o = .markedReady ∧ w.Settled id dex R ∧
        w.cluster.ingresses.get? ing.metadata.key = some ing.mark)
      (fun _ => False) := by
  have hv : ing.validate = .ok () := Ingress.validate_eq_ok.2 ⟨cur, hcur⟩
  -- a marked ingress carries the handled annotation
  have hunmarked : ing.isMarked = false := by
    simp only [Ingress.isHandled, Option.isSome_eq_false_iff, Option.isNone_iff_eq_none] at hnew
    simp [Ingress.isMarked, hnew]
  refine reconcile_triple ?ignored ?invalid ?clean ?mark ?secure ?rollback
  case ignored => exact fun h => by rw [hwant] at h; cases h
  case invalid => exact fun e he => by rw [hv] at he; cases he
  case clean => exact fun _ h => by rw [hdel] at h; cases h
  case secure => exact fun _ _ _ h => by rw [hnew] at h; cases h
  case rollback => exact fun _ _ _ h => by simp [hwant, hdel] at h
  case mark =>
    intro _ _ _ _
    exact (ensureMarked_stores World.Settled.fine (fun _ _ hw => hw) rfl).mono (fun _ hw => hw)
      (fun _ _ hw => ⟨rfl, hw.1, by rw [hw.2, Ingress.marked, if_neg (by simp [hunmarked])]⟩)
      (fun _ h => h)

/-- A handled ingress asking to be secured is secured: the backup it carries is kept, or the
target it leads to recorded, its path points at its proxy, and the marks are ensured. -/
theorem reconcile_secures {ing : Ingress} {cur : ServiceBackend} {r : BackupRecord}
    (hid : ing.authBackendId = id) (hcur : ing.serviceBackend = .ok cur)
    (hwant : ing.wantsSecurity = true)
    (hdel : ing.isDeleting = false) (hhandled : ing.isHandled = true)
    (hrec : ing.KeepsRecord ⟨ing.authBackendId, cur.name, portText cur.port⟩ r)
    (hroute : ∀ rs, R rs →
      (rs.lookup (⟨r.serviceName, ing.metadata.key.ns, r.servicePortText⟩ : ServiceRef).routeKey).isSome) :
    Triple (fun w => w.Settled id dex R ∧ w.cluster.ingresses.get? ing.metadata.key = some ing)
      (reconcile ing)
      (fun o w => o = .secured ∧ w.Settled id dex R ∧
        w.cluster.ingresses.get? ing.metadata.key = some (ing.secured cur r).marked)
      (fun _ => False) := by
  subst hid
  have hv : ing.validate = .ok () := Ingress.validate_eq_ok.2 ⟨cur, hcur⟩
  refine reconcile_triple ?ignored ?invalid ?clean ?mark ?secure ?rollback
  case ignored => exact fun h => by rw [hwant] at h; cases h
  case invalid => exact fun e he => by rw [hv] at he; cases he
  case clean => exact fun _ h => by rw [hdel] at h; cases h
  case mark => exact fun _ _ _ h => by rw [hhandled] at h; cases h
  case rollback => exact fun _ _ _ h => by simp [hwant, hdel] at h
  case secure =>
    intro _ _ _ _
    unfold secureBranch
    refine Triple.bind (appOf_settled (fun _ _ _ => Iff.rfl) hcur) fun app =>
      Triple.assume fun ⟨host, auth, happ⟩ => ?_
    subst happ
    refine Triple.bind (Triple.within _
      (secureApp_settled (by rfl) hcur (by exact hrec) (by exact hroute) :
        Triple _ (secureApp (appWith ing cur host auth)) _ _)) fun _ => ?_
    exact Triple.bind (ensureMarked_stores World.Settled.fine (fun _ _ hw => hw)
      (by simp [Ingress.key_backedWith])) fun _ =>
      Triple.pure fun _ hw => ⟨rfl, hw⟩

/-- A handled ingress released (its backend annotation gone or its deletion requested) is rolled
back: its path points at the recorded service, the backup goes, and the marks are removed. -/
theorem reconcile_rollsBack {ing : Ingress} {cur : ServiceBackend} {r : BackupRecord}
    (hcur : ing.serviceBackend = .ok cur)
    (hasks : ing.wantsSecurity = true ∨ ing.isHandled = true)
    (hheld : ing.isDeleting = false ∨ ing.hasSecurityFinalizer = true)
    (hreleased : ing.wantsSecurity = false ∨ ing.isDeleting = true)
    (hrec : ∃ text, ing.annotationValue? backupAnnotationKey = some text ∧
      BackupRecord.ofText text = .ok r) :
    Triple (fun w => w.Settled r.authBackendId dex R ∧
        w.cluster.ingresses.get? ing.metadata.key = some ing)
      (reconcile ing)
      (fun o w => o = .rolledBack ∧ w.Settled r.authBackendId dex R ∧
        w.cluster.ingresses.get? ing.metadata.key = some (ing.rolledBack cur r).unmarked)
      (fun _ => False) := by
  have hv : ing.validate = .ok () := Ingress.validate_eq_ok.2 ⟨cur, hcur⟩
  -- the decision goes to the rollback branch: every other branch contradicts one hypothesis
  refine reconcile_triple ?ignored ?invalid ?clean ?mark ?secure ?rollback
  case ignored => exact fun h h' => absurd hasks (by simp [h, h'])
  case invalid => exact fun e he => by rw [hv] at he; cases he
  case clean => exact fun _ h h' => absurd hheld (by simp [h, h'])
  case mark => exact fun _ h h' _ => absurd hreleased (by simp [h, h'])
  case secure => exact fun _ h h' _ => absurd hreleased (by simp [h, h'])
  case rollback =>
    intro _ _ _ _
    unfold rollbackBranch
    refine Triple.bind (appOf_settled (fun _ _ _ => Iff.rfl) hcur) fun app =>
      Triple.assume fun ⟨host, auth, happ⟩ => ?_
    subst happ
    refine Triple.bind (Triple.within _
      (rollbackApp_settled (by rfl) hcur hrec : Triple _ (rollbackApp (appWith ing cur host auth)) _ _)) fun _ => ?_
    exact Triple.bind (ensureUnmarked_stores World.Settled.fine (fun _ _ hw => hw) (by simp)) fun _ =>
      Triple.pure fun _ hw => ⟨rfl, hw⟩

end Settled

end IngressGuard
