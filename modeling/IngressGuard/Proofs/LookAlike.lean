import IngressGuard.Proofs.Lockstep
import IngressGuard.Proofs.Restart.Outside

/-!
# What a step on one ingress reads

A reconciliation of the ingress at `k` reads the cells of the app at `k`, the surroundings and
which Dex addresses can be used, and, when it registers the app, the client secret it would
register with. `World.LookAlike k m n v w` relates two worlds that agree on all but the secret,
are quiet and keep every ingress under its own key, and whose write counts are apart by fixed
amounts: those of `v` raised by `m` are those of `w` raised by `n`. Every call of such a step
keeps the relation, written on both sides, so the reconciliation runs in lockstep from two such
worlds that would also hand the app the same client secret (`reconcile_lockstep`): it returns
the same or fails the same, and leaves two worlds related again. The worlds may differ anywhere
else: in the cells of other apps, the secrets drawn so far, the connections held and the log.

Only securing hands out the client secret. Every step of marking and rolling back, and every read
of securing, is stated once for any relation that agrees on what it reads and survives what it
writes (`AppSteady`), so that other relations between worlds reuse them.
-/

namespace IngressGuard

open IngressGuard.Kube IngressGuard.Dex

namespace WriteCounts

instance : Add WriteCounts :=
  ⟨fun c d => ⟨c.ingresses + d.ingresses, c.secrets + d.secrets, c.deployments + d.deployments,
    c.services + d.services⟩⟩

@[simp] theorem mk_add_mk (a b c d a' b' c' d' : Nat) :
    (⟨a, b, c, d⟩ + ⟨a', b', c', d'⟩ : WriteCounts) = ⟨a + a', b + b', c + c', d + d'⟩ := rfl

theorem add_comm (c d : WriteCounts) : c + d = d + c := by
  cases c; cases d
  simp only [mk_add_mk, mk.injEq]
  omega

theorem add_right_cancel {c d e : WriteCounts} (h : c + e = d + e) : c = d := by
  cases c; cases d; cases e
  simp only [mk_add_mk, mk.injEq] at h ⊢
  omega

/-- Counts apart by fixed amounts stay apart by them when both are raised alike. -/
theorem add_shift {a b m n : WriteCounts} (d : WriteCounts) (h : a + m = b + n) :
    a + d + m = b + d + n := by
  cases a; cases b; cases m; cases n; cases d
  simp only [mk_add_mk, mk.injEq] at h ⊢
  omega

end WriteCounts

theorem Store.get?_put_congr {α : Type} {s t : Store α} {k k' : ObjectKey} {x : α}
    (h : s.get? k' = t.get? k') : (s.put k x).get? k' = (t.put k x).get? k' := by
  rw [Store.get?_put, Store.get?_put, h]

theorem Store.get?_erase_congr {α : Type} {s t : Store α} {k k' : ObjectKey}
    (h : s.get? k' = t.get? k') : (s.erase k).get? k' = (t.erase k).get? k' := by
  rw [Store.get?_erase, Store.get?_erase, h]

theorem Kube.Ingress.key_of_setServiceBackend {ing ing' : Ingress} {t : ServiceBackend}
    (h : ing.setServiceBackend t = .ok ing') : ing'.metadata.key = ing.metadata.key := by
  rw [Ingress.eq_withBackend_of_setServiceBackend h]
  rfl

/-- A steady relation between worlds that read alike to a step on the ingress at `k` in all but
the client secrets: they agree on the stored ingress, the surroundings, the usable Dex addresses
and whether each Dex holds the app's client, and the left one keeps every ingress under its own
key. The writes of such a step that carry no secret, made alike on both sides, keep it, and so
does a connection opened on either side. Rolling an app back needs no more. -/
structure AppSteady (R : World → World → Prop) (k : ObjectKey) : Prop extends Steady R where
  ingress : ∀ v w, R v w → v.cluster.ingresses.get? k = w.cluster.ingresses.get? k
  keyed : ∀ v w, R v w → v.cluster.WellKeyed
  surroundings : ∀ v w, R v w → v.SameSurroundings w
  reaches : ∀ v w a, R v w → (v.Reaches a ↔ w.Reaches a)
  clients : ∀ v w a, R v w → v.holdsClient a k.text = w.holdsClient a k.text
  withIngress : ∀ v w ing, R v w → R (v.withIngress ing) (w.withIngress ing)
  withoutSecret : ∀ v w k', R v w → R (v.withoutSecret k') (w.withoutSecret k')
  withoutDeployment : ∀ v w k', R v w → R (v.withoutDeployment k') (w.withoutDeployment k')
  withoutService : ∀ v w k', R v w → R (v.withoutService k') (w.withoutService k')
  withoutClient : ∀ v w a, R v w → R (v.withoutClient a k.text) (w.withoutClient a k.text)
  connectLeft : ∀ v w a, R v w → checkAddress a = .ok () → R ((v.withConnect a).withConnected a) w
  connectRight : ∀ v w a, R v w → checkAddress a = .ok () → R v ((w.withConnect a).withConnected a)

namespace World

/-- `v` and `w` look alike to a step on the ingress at `k`: they hold the same in the cells of
the app at `k` and have the same surroundings and usable Dex addresses; both are quiet and keep
every ingress under its own key; and the write counts of `v` raised by `m` are those of `w`
raised by `n`. -/
structure LookAlike (k : ObjectKey) (m n : WriteCounts) (v w : World) : Prop where
  app : v.SameApp k w
  surroundings : v.SameSurroundings w
  reaches : ∀ a, v.Reaches a ↔ w.Reaches a
  writes : v.cluster.writes + m = w.cluster.writes + n
  keyedLeft : v.cluster.WellKeyed
  keyedRight : w.cluster.WellKeyed
  quietLeft : v.Quiet
  quietRight : w.Quiet

namespace LookAlike

variable {k : ObjectKey} {m n : WriteCounts} {v w : World}

theorem clientSecretKey_eq (h : LookAlike k m n v w) (id : String) :
    v.clientSecretKey id = w.clientSecretKey id := by
  rw [clientSecretKey, clientSecretKey, h.surroundings.1]

theorem holdsClient_eq (h : LookAlike k m n v w) (a : String) :
    v.holdsClient a k.text = w.holdsClient a k.text :=
  holdsClient_eq_of_clientsOf (h.app.clients a)

theorem steady : Steady (LookAlike k m n) where
  quiet _ _ h := ⟨h.quietLeft, h.quietRight⟩
  passLeft _ _ kind subject h :=
    { h with
      app := ⟨h.app.1, h.app.2, h.app.3, h.app.4, h.app.5, h.app.6⟩
      quietLeft := h.quietLeft.passCall kind subject }
  passRight _ _ kind subject h :=
    { h with
      app := ⟨h.app.1, h.app.2, h.app.3, h.app.4, h.app.5, h.app.6⟩
      quietRight := h.quietRight.passCall kind subject }

theorem refl (hk : w.cluster.WellKeyed) (hq : w.Quiet) (m : WriteCounts) : LookAlike k m m w w :=
  ⟨⟨rfl, rfl, rfl, rfl, rfl, fun _ => rfl⟩, ⟨rfl, rfl, rfl, rfl⟩, fun _ => Iff.rfl, rfl, hk, hk,
    hq, hq⟩

theorem symm (h : LookAlike k m n v w) : LookAlike k n m w v where
  app := h.app.symm
  surroundings := h.surroundings.symm
  reaches a := (h.reaches a).symm
  writes := h.writes.symm
  keyedLeft := h.keyedRight
  keyedRight := h.keyedLeft
  quietLeft := h.quietRight
  quietRight := h.quietLeft

/-! ### The writes of a step, made on both sides -/

theorem withIngress (h : LookAlike k m n v w) (y : Ingress) :
    LookAlike k m n (v.withIngress y) (w.withIngress y) :=
  { h with
    app := ⟨by simp only [get?_withIngress, h.app.ingress], h.app.2, h.app.3, h.app.4, h.app.5,
      h.app.6⟩
    writes := WriteCounts.add_shift ⟨1, 0, 0, 0⟩ h.writes
    keyedLeft := wellKeyed_withIngress h.keyedLeft y
    keyedRight := wellKeyed_withIngress h.keyedRight y }

theorem withSecret (h : LookAlike k m n v w) (s : Secret) :
    LookAlike k m n (v.withSecret s) (w.withSecret s) :=
  { h with
    app := ⟨h.app.1, Store.get?_put_congr h.app.2, by
        change (v.cluster.secrets.put s.metadata.key s).get? (v.clientSecretKey k.text) =
          (w.cluster.secrets.put s.metadata.key s).get? (w.clientSecretKey k.text)
        rw [Store.get?_put, Store.get?_put, h.app.clientSecret, h.clientSecretKey_eq],
      h.app.4, h.app.5, h.app.6⟩
    writes := WriteCounts.add_shift ⟨0, 1, 0, 0⟩ h.writes }

theorem withoutSecret (h : LookAlike k m n v w) (k' : ObjectKey) :
    LookAlike k m n (v.withoutSecret k') (w.withoutSecret k') :=
  { h with
    app := ⟨h.app.1, Store.get?_erase_congr h.app.2, by
        change (v.cluster.secrets.erase k').get? (v.clientSecretKey k.text) =
          (w.cluster.secrets.erase k').get? (w.clientSecretKey k.text)
        rw [Store.get?_erase, Store.get?_erase, h.app.clientSecret, h.clientSecretKey_eq],
      h.app.4, h.app.5, h.app.6⟩
    writes := WriteCounts.add_shift ⟨0, 1, 0, 0⟩ h.writes }

theorem withDeployment (h : LookAlike k m n v w) (d : Deployment) :
    LookAlike k m n (v.withDeployment d) (w.withDeployment d) :=
  { h with
    app := ⟨h.app.1, h.app.2, h.app.3, Store.get?_put_congr h.app.4, h.app.5, h.app.6⟩
    writes := WriteCounts.add_shift ⟨0, 0, 1, 0⟩ h.writes }

theorem withoutDeployment (h : LookAlike k m n v w) (k' : ObjectKey) :
    LookAlike k m n (v.withoutDeployment k') (w.withoutDeployment k') :=
  { h with
    app := ⟨h.app.1, h.app.2, h.app.3, Store.get?_erase_congr h.app.4, h.app.5, h.app.6⟩
    writes := WriteCounts.add_shift ⟨0, 0, 1, 0⟩ h.writes }

theorem withService (h : LookAlike k m n v w) (s : Service) :
    LookAlike k m n (v.withService s) (w.withService s) :=
  { h with
    app := ⟨h.app.1, h.app.2, h.app.3, h.app.4, Store.get?_put_congr h.app.5, h.app.6⟩
    writes := WriteCounts.add_shift ⟨0, 0, 0, 1⟩ h.writes }

theorem withoutService (h : LookAlike k m n v w) (k' : ObjectKey) :
    LookAlike k m n (v.withoutService k') (w.withoutService k') :=
  { h with
    app := ⟨h.app.1, h.app.2, h.app.3, h.app.4, Store.get?_erase_congr h.app.5, h.app.6⟩
    writes := WriteCounts.add_shift ⟨0, 0, 0, 1⟩ h.writes }

/-- Changing the Dex servers on both sides keeps the relation when it keeps the app's clients
alike. -/
theorem withDex (h : LookAlike k m n v w) {dv dw : List (String × DexServer)}
    (hclients : ∀ b, ({ v with dex := dv } : World).clientsOf b k.text =
      ({ w with dex := dw } : World).clientsOf b k.text) :
    LookAlike k m n { v with dex := dv } { w with dex := dw } :=
  { h with app := ⟨h.app.1, h.app.2, h.app.3, h.app.4, h.app.5, hclients⟩ }

theorem withClient (h : LookAlike k m n v w) (a : String) (c : Client) :
    LookAlike k m n (v.withClient a c) (w.withClient a c) := by
  have hclients : ∀ b, (v.withClient a c).clientsOf b k.text = (w.withClient a c).clientsOf b k.text :=
    fun b => by rw [clientsOf_withClient, clientsOf_withClient, h.app.clients b]
  unfold World.withClient at hclients ⊢
  rw [World.setDex_eq v, World.setDex_eq w] at hclients ⊢
  exact h.withDex hclients

theorem withoutClient (h : LookAlike k m n v w) (a id : String) :
    LookAlike k m n (v.withoutClient a id) (w.withoutClient a id) := by
  have hclients :
      ∀ b, (v.withoutClient a id).clientsOf b k.text = (w.withoutClient a id).clientsOf b k.text :=
    fun b => by rw [clientsOf_withoutClient, clientsOf_withoutClient, h.app.clients b]
  unfold World.withoutClient at hclients ⊢
  rw [World.setDex_eq v, World.setDex_eq w] at hclients ⊢
  exact h.withDex hclients

theorem withDrawn (h : LookAlike k m n v w) (i j : Nat) :
    LookAlike k m n { v with secretsDrawn := i } { w with secretsDrawn := j } :=
  { h with app := ⟨h.app.1, h.app.2, h.app.3, h.app.4, h.app.5, h.app.6⟩ }

/-! ### A connection opened on one side only -/

theorem connectLeft (h : LookAlike k m n v w) {a : String} (ha : checkAddress a = .ok ()) :
    LookAlike k m n ((v.withConnect a).withConnected a) w := by
  have hclients : ∀ b, ((v.withConnect a).withConnected a).clientsOf b k.text = w.clientsOf b k.text :=
    fun b => by rw [clientsOf_withConnect, h.app.clients b]
  have hreaches : ∀ b, ((v.withConnect a).withConnected a).Reaches b ↔ w.Reaches b :=
    fun b => (reaches_withConnect v ha b).trans (h.reaches b)
  unfold World.withConnected World.withConnect at hclients hreaches ⊢
  rw [World.setDex_eq v] at hclients hreaches ⊢
  exact { h with app := ⟨h.app.1, h.app.2, h.app.3, h.app.4, h.app.5, hclients⟩, reaches := hreaches }

theorem connectRight (h : LookAlike k m n v w) {a : String} (ha : checkAddress a = .ok ()) :
    LookAlike k m n v ((w.withConnect a).withConnected a) :=
  (h.symm.connectLeft ha).symm

theorem appSteady : AppSteady (LookAlike k m n) k where
  toSteady := steady
  ingress _ _ h := h.app.ingress
  keyed _ _ h := h.keyedLeft
  surroundings _ _ h := h.surroundings
  reaches _ _ a h := h.reaches a
  clients _ _ a h := h.holdsClient_eq a
  withIngress _ _ y h := h.withIngress y
  withoutSecret _ _ k' h := h.withoutSecret k'
  withoutDeployment _ _ k' h := h.withoutDeployment k'
  withoutService _ _ k' h := h.withoutService k'
  withoutClient _ _ a h := h.withoutClient a k.text
  connectLeft _ _ _ h ha := h.connectLeft ha
  connectRight _ _ _ h ha := h.connectRight ha

end LookAlike

/-- Two worlds that look alike to a step on the ingress at `k` and would hand its app the same
client secret. -/
def LookAlikeDrawing (k : ObjectKey) (m n : WriteCounts) (v w : World) : Prop :=
  LookAlike k m n v w ∧ v.secretToUse k.text = w.secretToUse k.text

theorem LookAlikeDrawing.steady {k : ObjectKey} {m n : WriteCounts} :
    Steady (LookAlikeDrawing k m n) where
  quiet v w h := LookAlike.steady.quiet v w h.1
  passLeft v w kind subject h := ⟨LookAlike.steady.passLeft v w kind subject h.1, h.2⟩
  passRight v w kind subject h := ⟨LookAlike.steady.passRight v w kind subject h.1, h.2⟩

end World

open World

/-! ## The sagas in lockstep

Every step but registering and provisioning reads and writes alike under any relation steady for
the app (`AppSteady`), so rolling back and marking run in lockstep under each of them. Securing
also hands out a client secret, which `LookAlikeDrawing` makes the same on both sides. -/

section Sagas

variable {R : World → World → Prop} {k : ObjectKey}

theorem AppSteady.contains_eq (hR : AppSteady R k) {v w : World} (h : R v w) :
    v.cluster.ingresses.contains k = w.cluster.ingresses.contains k := by
  rw [Store.contains_eq_isSome, Store.contains_eq_isSome, hR.ingress v w h]

/-- Reading the stored ingress of the app, which sits under the app's key. -/
theorem getIngress_keyed (hR : AppSteady R k) :
    Lockstep R (getIngress k) (fun ing v w => R v w ∧ ing.metadata.key = k) R :=
  (getIngress_lockstep hR.toSteady hR.ingress).mono (fun _ _ h => h)
    (fun ing _ _ h => ⟨h.1, hR.keyed _ _ h.1 k ing h.2⟩) (fun _ _ h => h)

/-- Writing an ingress under the app's key. -/
theorem updateIngress_keyed (hR : AppSteady R k) {ing : Ingress} (hk : ing.metadata.key = k) :
    Lockstep R (updateIngress ing) (fun _ => R) R :=
  updateIngress_lockstep hR.toSteady (fun _ _ h => by rw [hk]; exact hR.contains_eq h)
    fun v w h => hR.withIngress v w ing h

theorem readBackup_lockstep (text : String) : Lockstep R (readBackup text) (fun _ => R) R := by
  unfold readBackup
  refine Lockstep.within _ ?_
  split
  · exact Lockstep.pure fun _ _ h => h
  · exact Lockstep.fail fun _ _ h => h

theorem ensureMarked_lockstep (hR : AppSteady R k) :
    Lockstep R (ensureMarked k) (fun _ => R) R := by
  unfold ensureMarked
  refine Lockstep.bind (getIngress_keyed hR) fun ing => Lockstep.assume fun hk => ?_
  split
  · exact Lockstep.pure fun _ _ h => h
  · exact Lockstep.within _ (updateIngress_keyed hR (by rw [Ingress.key_mark, hk]))

theorem ensureUnmarked_lockstep (hR : AppSteady R k) :
    Lockstep R (ensureUnmarked k) (fun _ => R) R := by
  unfold ensureUnmarked
  refine Lockstep.bind (getIngress_keyed hR) fun ing => Lockstep.assume fun hk => ?_
  split
  · exact Lockstep.pure fun _ _ h => h
  · exact Lockstep.within _ (updateIngress_keyed hR (by rw [Ingress.key_unmark, hk]))

theorem swapBackend_lockstep (hR : AppSteady R k) {k' : ObjectKey} (hk : k' = k)
    (target : ServiceBackend) : Lockstep R (swapBackend k' target) (fun _ => R) R := by
  subst hk
  unfold swapBackend
  refine Lockstep.bind (Lockstep.within _ (getIngress_keyed hR)) fun ing =>
    Lockstep.assume fun hk => ?_
  refine Lockstep.bind (Lockstep.ofShape (fun _ _ _ _ h => h) fun _ _ h _ => h) fun cur => ?_
  split
  · exact Lockstep.pure fun _ _ h => h
  · have hset : Lockstep R (Op.ofShape (ing.setServiceBackend target))
        (fun ing' v w => R v w ∧ ing.setServiceBackend target = .ok ing') R :=
      Lockstep.ofShape (fun _ he _ _ h => ⟨h, he⟩) fun _ _ h _ => h
    refine Lockstep.bind hset fun ing' => Lockstep.assume fun he => ?_
    exact Lockstep.within _
      (updateIngress_keyed hR (by rw [Ingress.key_of_setServiceBackend he, hk]))

theorem backupOrGet_lockstep (hR : AppSteady R k) {app : App} (hk : app.ingressKey = k)
    (data : BackupRecord) : Lockstep R (backupOrGet app data) (fun _ => R) R := by
  unfold backupOrGet
  rw [hk]
  refine Lockstep.bind (Lockstep.within _ (getIngress_keyed hR)) fun ing =>
    Lockstep.assume fun hkey => ?_
  split
  · exact readBackup_lockstep _
  · exact Lockstep.bind (Lockstep.within _ (updateIngress_keyed hR (by simpa using hkey)))
      fun _ => Lockstep.pure fun _ _ h => h

theorem getBackup_lockstep (hR : AppSteady R k) {app : App} (hk : app.ingressKey = k) :
    Lockstep R (getBackup app) (fun _ => R) R := by
  unfold getBackup
  rw [hk]
  refine Lockstep.bind (Lockstep.within _ (getIngress_keyed hR)) fun ing =>
    Lockstep.assume fun _ => ?_
  split
  · exact Lockstep.map (readBackup_lockstep _)
  · exact Lockstep.pure fun _ _ h => h

theorem deleteBackup_lockstep (hR : AppSteady R k) {app : App} (hk : app.ingressKey = k) :
    Lockstep R (deleteBackup app) (fun _ => R) R := by
  unfold deleteBackup
  rw [hk]
  refine Lockstep.bind (Lockstep.within _ (getIngress_keyed hR)) fun ing =>
    Lockstep.assume fun hkey => ?_
  split
  · exact Lockstep.pure fun _ _ h => h
  · exact Lockstep.within _ (updateIngress_keyed hR (by simpa using hkey))

/-- The app of an ingress is read alike, sits at the ingress's key under the key's text, and
names the auth backend the ingress names. -/
theorem appOf_lockstep (hR : Steady R)
    (hauth : ∀ v w, R v w → v.cluster.ingressAuths = w.cluster.ingressAuths) (ing : Ingress) :
    Lockstep R (appOf ing)
      (fun app v w => R v w ∧ (app.ingressKey = ing.metadata.key ∧ app.id = ing.metadata.key.text ∧
        app.authBackendId = ing.authBackendId))
      R := by
  unfold appOf
  refine Lockstep.bind (Lockstep.ofShape (fun _ _ _ _ h => h) fun _ _ h _ => h) fun backend => ?_
  refine Lockstep.bind (Lockstep.within _ (getIngressAuth_lockstep hR fun v w h => by
    rw [hauth v w h])) fun auth => ?_
  refine Lockstep.bind (Lockstep.ofShape (fun _ _ _ _ h => h) fun _ _ h _ => h) fun host => ?_
  exact Lockstep.pure fun _ _ h => ⟨h, rfl, rfl, rfl⟩

/-- The registerer of a backend is found alike. -/
theorem registererFor_alike (hR : AppSteady R k) {backend : AuthBackend} :
    Lockstep R (registererFor backend) (fun _ => R) R :=
  registererFor_lockstep hR.toSteady hR.reaches hR.connectLeft hR.connectRight

theorem unregister_lockstep (hR : AppSteady R k) {address id : String} (hid : id = k.text) :
    Lockstep R (unregister address id) (fun _ => R) R := by
  subst hid
  unfold unregister
  refine Lockstep.bind (Lockstep.within _ (dexDeleteClient_lockstep hR.toSteady
    (fun v w h => hR.clients v w address h) fun v w h => hR.withoutClient v w address h))
    fun _ => ?_
  refine Lockstep.get_bind (fun v w h => by dsimp only; rw [(hR.surroundings v w h).1]) fun u => ?_
  refine (Lockstep.within _ ?_).mono (fun _ _ h => h.1) (fun _ _ _ h => h) (fun _ _ h => h)
  exact modifyCluster_lockstep hR.toSteady fun v w h => hR.withoutSecret v w _ h

theorem unprovision_lockstep (hR : AppSteady R k) {removal : ProxyRemoval}
    (hk : (⟨removal.ingressNs, removal.ingressName⟩ : ObjectKey) = k) :
    Lockstep R (unprovision removal) (fun _ => R) R := by
  unfold unprovision
  refine Lockstep.bind (swapBackend_lockstep hR hk _) fun _ => ?_
  refine Lockstep.bind (Lockstep.within _ (modifyCluster_lockstep hR.toSteady
    fun v w h => hR.withoutService v w _ h)) fun _ => ?_
  refine Lockstep.bind (Lockstep.within _ (modifyCluster_lockstep hR.toSteady
    fun v w h => hR.withoutDeployment v w _ h)) fun _ => ?_
  exact Lockstep.within _ (modifyCluster_lockstep hR.toSteady
    fun v w h => hR.withoutSecret v w _ h)

theorem rollbackApp_lockstep (hR : AppSteady R k) {app : App} (hk : app.ingressKey = k)
    (hid : app.id = k.text) : Lockstep R (rollbackApp app) (fun _ => R) R := by
  unfold rollbackApp
  refine Lockstep.bind (Lockstep.within _ (getBackup_lockstep hR hk)) fun backup => ?_
  cases backup with
  | none => exact Lockstep.fail fun _ _ h => h
  | some r =>
    refine Lockstep.bind (Lockstep.within _ (unprovision_lockstep hR hk)) fun _ => ?_
    refine Lockstep.bind (Lockstep.within _ (getAuthBackend_lockstep hR.toSteady
      fun v w h => (hR.surroundings v w h).2.1)) fun backend => ?_
    refine Lockstep.bind (Lockstep.within _ (registererFor_alike hR)) fun address => ?_
    refine Lockstep.bind (Lockstep.within _ (unregister_lockstep hR hid)) fun _ => ?_
    exact Lockstep.within _ (deleteBackup_lockstep hR hk)

theorem rollbackBranch_lockstep {ing : Ingress} (hR : AppSteady R ing.metadata.key) :
    Lockstep R (rollbackBranch ing) (fun _ => R) R := by
  unfold rollbackBranch
  refine Lockstep.bind (appOf_lockstep hR.toSteady (fun v w h => (hR.surroundings v w h).2.2.2) ing)
    fun app => Lockstep.assume fun happ => ?_
  refine Lockstep.bind (Lockstep.within _ (rollbackApp_lockstep hR happ.1 happ.2.1)) fun _ => ?_
  exact Lockstep.bind (ensureUnmarked_lockstep hR) fun _ => Lockstep.pure fun _ _ h => h

/-- A reconciliation of an ingress runs in lockstep from worlds related by `R`, which are related
by `T`, steady for the app, when securing does: every other way reads only what `T` fixes. -/
theorem reconcile_lockstep_of {T : World → World → Prop} {ing : Ingress}
    (hT : AppSteady T ing.metadata.key) (hR : ∀ v w, R v w → T v w)
    (hsecure : ing.validate = .ok () → ing.wantsSecurity = true → ing.isDeleting = false →
      ing.isHandled = true → Lockstep R (secureBranch ing) (fun _ => T) T) :
    Lockstep R (reconcile ing) (fun _ => T) T := by
  -- the decision reads the ingress as seen only, so both sides take the same way
  by_cases hact : ing.wantsSecurity = true ∨ ing.isHandled = true
  · cases hv : ing.validate with
    | error e =>
      intro v w h
      rw [exec_reconcile_invalid hact hv, exec_reconcile_invalid hact hv]
      exact ⟨rfl, hR v w h⟩
    | ok u =>
      by_cases hclean : ing.isDeleting = true ∧ ing.hasSecurityFinalizer = false
      · rw [reconcile_clean hact hv hclean.1 hclean.2]
        exact Lockstep.pure hR
      by_cases hsec : ing.wantsSecurity = true ∧ ing.isDeleting = false
      · cases hh : ing.isHandled
        · rw [reconcile_new hv hsec.1 hsec.2 hh]
          exact Lockstep.bind ((ensureMarked_lockstep hT).mono hR (fun _ _ _ h => h)
            (fun _ _ h => h)) fun _ => Lockstep.pure fun _ _ h => h
        · rw [reconcile_handled hv hsec.1 hsec.2 hh]
          exact hsecure hv hsec.1 hsec.2 hh
      · have hkeep : ing.isDeleting = false ∨ ing.hasSecurityFinalizer = true := by
          revert hclean
          cases ing.isDeleting <;> cases ing.hasSecurityFinalizer <;> simp
        have hrel : ing.wantsSecurity = false ∨ ing.isDeleting = true := by
          revert hsec
          cases ing.wantsSecurity <;> cases ing.isDeleting <;> simp
        rw [reconcile_released hv hact hkeep hrel]
        exact (rollbackBranch_lockstep hT).mono hR (fun _ _ _ h => h) (fun _ _ h => h)
  · simp only [not_or, Bool.not_eq_true] at hact
    rw [reconcile_unasked hact.1 hact.2]
    exact Lockstep.pure hR

end Sagas

/-! ## Securing in lockstep -/

section Securing

variable {k : ObjectKey} {m n : WriteCounts}

/-- Registration hands out the same client secret on both sides: the one stored, or the next one
drawn, which the relation makes the same. -/
theorem register_lockstep {address : String} {app : OidcApp} (hid : app.id = k.text) :
    Lockstep (LookAlikeDrawing k m n) (register address app) (fun _ => LookAlike k m n)
      (LookAlike k m n) := by
  unfold register
  refine Lockstep.get_bind (fun v w h => by dsimp only; rw [h.1.surroundings.1]) fun u => ?_
  dsimp only
  -- the home read fixes the key of the Secret of the client secret
  let K : ObjectKey := ⟨u.home, clientSecretName app.id⟩
  have hsteady : Steady fun v w => LookAlikeDrawing k m n v w ∧ v.home = u.home :=
    LookAlikeDrawing.steady.and_left fun _ _ _ h => h
  have hkeys : ∀ v w, LookAlikeDrawing k m n v w ∧ v.home = u.home →
      v.clientSecretKey k.text = K ∧ w.clientSecretKey k.text = K := fun v w h => by
    have hvu : v.home = u.home := h.2
    have hvw : v.home = w.home := h.1.1.surroundings.1
    refine ⟨?_, ?_⟩
    · simp only [World.clientSecretKey, K, hid, hvu]
    · simp only [World.clientSecretKey, K, hid, ← hvw, hvu]
  have hread : Lockstep (fun v w => LookAlikeDrawing k m n v w ∧ v.home = u.home) (getSecret K)
      (fun s v w => LookAlike k m n v w ∧
        (storedClientSecret s = none → secretOf (v.draws v.secretsDrawn) = secretOf (w.draws w.secretsDrawn)))
      (LookAlike k m n) := by
    refine (getSecret_lockstep hsteady fun v w h => ?_).mono (fun _ _ h => h) (fun s v w h => ?_)
      (fun _ _ h => h.1.1)
    · obtain ⟨hv, hw⟩ := hkeys v w h
      have hsame := h.1.1.app.clientSecret
      rwa [hv, hw] at hsame
    · obtain ⟨⟨⟨hlook, hsecret⟩, hhome⟩, hs⟩ := h
      refine ⟨hlook, fun hnone => ?_⟩
      obtain ⟨hv, hw⟩ := hkeys v w ⟨⟨hlook, hsecret⟩, hhome⟩
      -- with no secret stored on either side, the secret to use is the next one drawn
      have hsv : v.storedSecretOf k.text = none := by
        rw [storedSecretOf, hv, hs, hnone]
      have hsw : w.storedSecretOf k.text = none := by
        rw [storedSecretOf, ← hlook.app.clientSecret, hv, hs, hnone]
      simpa [secretToUse, hsv, hsw] using hsecret
  refine Lockstep.bind ((Lockstep.within _ hread).mono (fun _ _ h => ⟨h.1, congrArg World.home h.2⟩)
    (fun _ _ _ h => h) (fun _ _ h => h)) fun stored => ?_
  have hcreate : ∀ s, Lockstep (LookAlike k m n)
      (do
        let _ ← Op.within "could not create Dex client" (dexCreateClient address
          { id := app.id, name := app.name, secret := s, redirectUris := [app.callbackUrl] })
        pure ({ clientId := app.id, clientSecret := s } : Registration))
      (fun _ => LookAlike k m n) (LookAlike k m n) := fun s =>
    Lockstep.bind (Lockstep.within _ (dexCreateClient_lockstep LookAlike.steady
      (fun _ _ h => by rw [hid]; exact h.holdsClient_eq address) fun _ _ h => h.withClient _ _))
      fun _ => Lockstep.pure fun _ _ h => h
  -- on the side of the result, the relation now knows which way the stored secret went
  cases storedClientSecret stored with
  | some s => exact Lockstep.bind (Lockstep.pure fun _ _ h => h.1) hcreate
  | none =>
    refine Lockstep.bind ((freshSecret_lockstep fun _ _ h => h.withDrawn _ _).mono
      (fun _ _ h => ⟨h.1, h.2 rfl⟩) (fun _ _ _ h => h) (fun _ _ h => h)) fun s => ?_
    refine Lockstep.bind (Lockstep.within _ (modifyCluster_lockstep LookAlike.steady
      fun _ _ h => h.withSecret _)) fun _ => ?_
    refine Lockstep.bind (Lockstep.within _ (dexDeleteClient_lockstep LookAlike.steady
      (fun _ _ h => by rw [hid]; exact h.holdsClient_eq address) fun _ _ h => h.withoutClient _ _))
      fun _ => ?_
    exact Lockstep.bind (Lockstep.pure fun _ _ h => h) hcreate

theorem provision_lockstep {plan : ProxyPlan} (hk : plan.app.ingressKey = k) :
    Lockstep (LookAlike k m n) (provision plan) (fun _ => LookAlike k m n) (LookAlike k m n) := by
  unfold provision
  refine Lockstep.bind (Lockstep.within _ (modifyCluster_lockstep LookAlike.steady
    fun _ _ h => h.withSecret _)) fun _ => ?_
  refine Lockstep.bind (Lockstep.within _ (modifyCluster_lockstep LookAlike.steady
    fun _ _ h => h.withDeployment _)) fun _ => ?_
  refine Lockstep.bind (Lockstep.within _ (modifyCluster_lockstep LookAlike.steady
    fun _ _ h => h.withService _)) fun _ => ?_
  exact swapBackend_lockstep LookAlike.appSteady hk _

/-- Securing the app runs in lockstep; the client secret is the one thing it needs beyond the
relation, and only until it registers. -/
theorem secureApp_lockstep {app : App} (hk : app.ingressKey = k) (hid : app.id = k.text) :
    Lockstep (LookAlikeDrawing k m n) (secureApp app) (fun _ => LookAlike k m n)
      (LookAlike k m n) := by
  unfold secureApp
  refine Lockstep.bind ((Lockstep.within _ (getAuthBackend_lockstep LookAlikeDrawing.steady
    fun _ _ h => h.1.surroundings.2.1)).mono (fun _ _ h => h) (fun _ _ _ h => h)
    (fun _ _ h => h.1)) fun backend => ?_
  refine Lockstep.bind ((Lockstep.within _ (registererFor_lockstep LookAlikeDrawing.steady
    (fun _ _ a h => h.1.reaches a)
    (fun _ _ _ h ha => ⟨h.1.connectLeft ha, by rw [secretToUse_withConnect]; exact h.2⟩)
    (fun _ _ _ h ha => ⟨h.1.connectRight ha, by rw [secretToUse_withConnect]; exact h.2⟩))).mono
    (fun _ _ h => h) (fun _ _ _ h => h) (fun _ _ h => h.1)) fun address => ?_
  refine Lockstep.bind (Lockstep.within _ (register_lockstep hid)) fun credentials => ?_
  refine Lockstep.bind (Lockstep.within _ (backupOrGet_lockstep LookAlike.appSteady hk _))
    fun backup => ?_
  refine Lockstep.bind (Lockstep.within _ (routeService_lockstep LookAlike.steady
    fun _ _ h => h.surroundings.2.2.1)) fun route => ?_
  exact Lockstep.within _ (provision_lockstep hk)

theorem secureBranch_lockstep (ing : Ingress) :
    Lockstep (LookAlikeDrawing ing.metadata.key m n) (secureBranch ing)
      (fun _ => LookAlike ing.metadata.key m n) (LookAlike ing.metadata.key m n) := by
  unfold secureBranch
  refine Lockstep.bind ((appOf_lockstep LookAlikeDrawing.steady
    (fun _ _ h => h.1.surroundings.2.2.2) ing).mono (fun _ _ h => h) (fun _ _ _ h => h)
    (fun _ _ h => h.1)) fun app => Lockstep.assume fun happ => ?_
  refine Lockstep.bind (Lockstep.within _ (secureApp_lockstep happ.1 happ.2.1)) fun _ => ?_
  exact Lockstep.bind (ensureMarked_lockstep LookAlike.appSteady) fun _ =>
    Lockstep.pure fun _ _ h => h

/-- A reconciliation of an ingress runs in lockstep from two worlds that look alike to it and
would hand its app the same client secret: the same outcome or the same failure, and two worlds
that look alike again. -/
theorem reconcile_lockstep (ing : Ingress) :
    Lockstep (LookAlikeDrawing ing.metadata.key m n) (reconcile ing)
      (fun _ => LookAlike ing.metadata.key m n) (LookAlike ing.metadata.key m n) :=
  reconcile_lockstep_of LookAlike.appSteady (fun _ _ h => h.1) fun _ _ _ _ =>
    secureBranch_lockstep ing

end Securing

end IngressGuard
