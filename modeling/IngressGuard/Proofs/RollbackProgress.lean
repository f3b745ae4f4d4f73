import IngressGuard.Proofs.RoundTrip

/-!
# Rollback once calls stop failing

The controller sets the handled annotation and its finalizer together and removes them
together, and nothing else writes them. So from a store where they agree on every ingress, they
agree in every state a run reaches, whatever the calls do and whatever is edited from outside
(`marksAgree_along_runs`).

A stored ingress with a rollback to do (its deletion requested while it holds the finalizer, or
handled with no backend named) is then rolled back by the next reconciliation in which no call
fails, and loses both marks, which lets a deletion through (`rollback_completes`). That needs the
backup the rollback reads back. An ingress marked and released before it was ever secured has
none: every reconciliation of it fails before writing anything (`reconcile_missingBackup`), so
it keeps its marks, and a deletion stays held back for good (`marked_release_stuck`).
-/

namespace IngressGuard

open IngressGuard.Kube

namespace Kube.Ingress

/-- The handled annotation and the finalizer are both there or both absent. -/
def MarksAgree (ing : Ingress) : Prop :=
  ing.isHandled = ing.hasSecurityFinalizer

/-- The ingress has a rollback to do: its deletion was requested while it holds the finalizer,
or it is handled and names no backend. -/
def RequestsRollback (ing : Ingress) : Prop :=
  (ing.hasSecurityFinalizer = true ∧ ing.isDeleting = true) ∨
    (ing.isHandled = true ∧ ing.wantsSecurity = false)

theorem marksAgree_mark (ing : Ingress) : ing.mark.MarksAgree := by
  simp [MarksAgree, hasSecurityFinalizer_mark]

theorem marksAgree_unmark (ing : Ingress) : ing.unmark.MarksAgree := by
  simp +decide [MarksAgree, isHandled, hasSecurityFinalizer_unmark]

namespace MarksAgree

variable {ing : Ingress}

theorem annotated (h : ing.MarksAgree) {key : String} (hkey : key ≠ handledAnnotationKey)
    (value : String) : (ing.annotated key value).MarksAgree := by
  simpa [MarksAgree, isHandled, Ne.symm hkey] using h

theorem unannotated (h : ing.MarksAgree) {key : String} (hkey : key ≠ handledAnnotationKey) :
    (ing.unannotated key).MarksAgree := by
  simpa [MarksAgree, isHandled, Ne.symm hkey] using h

theorem withBackend (h : ing.MarksAgree) (t : ServiceBackend) : (ing.withBackend t).MarksAgree :=
  h

theorem withAuthBackend (h : ing.MarksAgree) (value : Option String) :
    (ing.withAuthBackend value).MarksAgree := by
  cases value with
  | some v => exact h.annotated (by decide) v
  | none => exact h.unannotated (by decide)

theorem withDeletion (h : ing.MarksAgree) (stamp : Option Time) :
    (ing.withDeletion stamp).MarksAgree :=
  h

end MarksAgree

end Kube.Ingress

/-- Every ingress is stored under its own key, with its marks in agreement. -/
structure Cluster.MarksAgree (c : Cluster) : Prop where
  wellKeyed : c.WellKeyed
  agree : ∀ k ing, c.ingresses.get? k = some ing → ing.MarksAgree

namespace Cluster.MarksAgree

variable {w : World}

theorem withIngress (h : w.cluster.MarksAgree) {ing : Ingress} (hing : ing.MarksAgree) :
    (w.withIngress ing).cluster.MarksAgree where
  wellKeyed := World.wellKeyed_withIngress h.wellKeyed ing
  agree k ing' hk := by
    rw [World.get?_withIngress] at hk
    split at hk
    · cases hk
      exact hing
    · exact h.agree k ing' hk

/-- An edit from outside that keeps names and marks keeps the agreement. -/
theorem editIngress (h : w.cluster.MarksAgree) (k : ObjectKey) {f : Ingress → Ingress}
    (hkey : ∀ ing, (f ing).metadata.key = ing.metadata.key)
    (hf : ∀ ing, ing.MarksAgree → (f ing).MarksAgree) : (w.editIngress k f).cluster.MarksAgree where
  wellKeyed := World.wellKeyed_editIngress h.wellKeyed k hkey
  agree k' ing hk := by
    rw [World.get?_editIngress] at hk
    split at hk
    · obtain ⟨ing₀, hk₀, rfl⟩ := Option.map_eq_some_iff.1 hk
      exact hf ing₀ (h.agree k ing₀ hk₀)
    · exact h.agree k' ing hk

/-- The agreement reads the ingresses only. -/
theorem congr {c c' : Cluster} (h : c.MarksAgree) (he : c'.ingresses = c.ingresses) :
    c'.MarksAgree where
  wellKeyed k ing hk := h.wellKeyed k ing (he ▸ hk)
  agree k ing hk := h.agree k ing (he ▸ hk)

end Cluster.MarksAgree

theorem calm_marksAgree : Calm fun w => w.cluster.MarksAgree :=
  fun _ _ _ => Iff.rfl

/-! ## Every saga keeps the marks in agreement

Each ingress a saga writes is the stored one marked, unmarked, with its backup written or
removed, or pointed elsewhere; the other writes leave the ingresses alone. -/

section Sagas

theorem ensureMarked_marksAgree (k : ObjectKey) :
    Triple (fun w => w.cluster.MarksAgree) (ensureMarked k) (fun _ w => w.cluster.MarksAgree)
      (fun w => w.cluster.MarksAgree) :=
  ensureMarked_triple (Fine.keep calm_marksAgree) (fun _ hw _ => hw) (fun _ _ hw _ _ => hw)
    (fun _ ing hw _ _ _ => hw.withIngress ing.marksAgree_mark) (fun _ _ hw _ _ => hw)

theorem ensureUnmarked_marksAgree (k : ObjectKey) :
    Triple (fun w => w.cluster.MarksAgree) (ensureUnmarked k) (fun _ w => w.cluster.MarksAgree)
      (fun w => w.cluster.MarksAgree) :=
  ensureUnmarked_triple (Fine.keep calm_marksAgree) (fun _ hw _ => hw) (fun _ _ hw _ _ => hw)
    (fun _ ing hw _ _ _ => hw.withIngress ing.marksAgree_unmark) (fun _ _ hw _ _ => hw)

theorem swapBackend_marksAgree (k : ObjectKey) (target : ServiceBackend) :
    Triple (fun w => w.cluster.MarksAgree) (swapBackend k target) (fun _ w => w.cluster.MarksAgree)
      (fun w => w.cluster.MarksAgree) :=
  swapBackend_triple (Fine.keep calm_marksAgree) (fun _ hw _ => hw) (fun _ _ _ hw _ _ => hw)
    (fun _ _ _ hw _ _ _ => hw)
    (fun _ ing _ hw hk _ _ _ => hw.withIngress ((hw.agree _ ing hk).withBackend target))
    (fun _ _ hw _ _ => hw)

theorem secureApp_marksAgree (app : App) :
    Triple (fun w => w.cluster.MarksAgree) (secureApp app) (fun _ w => w.cluster.MarksAgree)
      (fun w => w.cluster.MarksAgree) := by
  have hfine := Fine.keep calm_marksAgree
  -- the backup is written on the stored ingress, which keeps its marks
  have hbackup : Triple (fun w => w.cluster.MarksAgree)
      (backupOrGet app ⟨app.authBackendId, app.ingress.target.name, app.ingress.target.portText⟩)
      (fun _ w => w.cluster.MarksAgree) (fun w => w.cluster.MarksAgree) :=
    backupOrGet_triple hfine (fun _ hw _ => hw) (fun _ _ _ _ hw _ _ _ => hw)
      (fun _ _ _ _ hw _ _ _ => hw)
      (fun _ ing hw hk _ _ => hw.withIngress ((hw.agree _ ing hk).annotated (by decide) _))
      (fun _ _ hw _ _ => hw)
  unfold secureApp
  refine Triple.bind (Triple.within _ (getAuthBackend_keeps hfine fun _ hw => hw))
    fun backend => ?_
  refine Triple.bind (Triple.within _ (registererFor_keeps hfine (fun _ hw => hw)
    fun _ _ hw => by simpa using hw)) fun address => ?_
  refine Triple.bind (Triple.within _ (register_keeps hfine (fun _ hw => hw)
    (fun _ _ hw => hw.congr rfl) (fun _ hw => by simpa using hw) (fun _ _ hw => by simpa using hw)))
    fun credentials => ?_
  refine Triple.bind (Triple.within _ hbackup) fun backup => ?_
  refine Triple.bind (Triple.within _ (routeService_keeps hfine fun _ hw => hw)) fun route => ?_
  exact Triple.within _ (provision_triple hfine (fun _ hw => hw.congr rfl) (fun _ hw => hw.congr rfl)
    (fun _ hw => hw.congr rfl)
    ((swapBackend_marksAgree _ _).mono (fun _ hw => hw.1) (fun _ _ h => h) (fun _ h => h)))

theorem rollbackApp_marksAgree (app : App) :
    Triple (fun w => w.cluster.MarksAgree) (rollbackApp app) (fun _ w => w.cluster.MarksAgree)
      (fun w => w.cluster.MarksAgree) := by
  have hfine := Fine.keep calm_marksAgree
  have hread : Triple (fun w => w.cluster.MarksAgree) (getBackup app)
      (fun _ w => w.cluster.MarksAgree) (fun w => w.cluster.MarksAgree) :=
    getBackup_keeps hfine fun _ hw => hw
  -- the backup is removed from the stored ingress, which keeps its marks
  have hdelete : Triple (fun w => w.cluster.MarksAgree) (deleteBackup app)
      (fun _ w => w.cluster.MarksAgree) (fun w => w.cluster.MarksAgree) :=
    deleteBackup_triple hfine (fun _ hw _ => hw) (fun _ _ hw _ _ => hw)
      (fun _ ing hw hk _ _ => hw.withIngress ((hw.agree _ ing hk).unannotated (by decide)))
      (fun _ _ hw _ _ => hw)
  unfold rollbackApp
  refine Triple.bind (Triple.within _ hread) fun backup => ?_
  cases backup with
  | none => exact Triple.fail fun _ hw => hw
  | some r =>
    refine Triple.bind (Triple.within _ (unprovision_triple (swapBackend_marksAgree _ _) hfine
      (fun _ hw => hw.congr rfl) (fun _ hw => hw.congr rfl) (fun _ hw => hw.congr rfl))) fun _ => ?_
    refine Triple.bind (Triple.within _ (getAuthBackend_keeps hfine fun _ hw => hw))
      fun backend => ?_
    refine Triple.bind (Triple.within _ (registererFor_keeps hfine (fun _ hw => hw)
      fun _ _ hw => by simpa using hw)) fun address => ?_
    refine Triple.bind (Triple.within _ (unregister_keeps hfine (fun _ hw => by simpa using hw)
      (fun _ hw => hw.congr rfl))) fun _ => ?_
    exact Triple.within _ hdelete

/-- Every reconciliation keeps the marks in agreement, whatever ingress it is handed and
whatever its calls do. -/
theorem reconcile_marksAgree (ing : Ingress) :
    Triple (fun w => w.cluster.MarksAgree) (reconcile ing) (fun _ w => w.cluster.MarksAgree)
      (fun w => w.cluster.MarksAgree) := by
  have hfine := Fine.keep calm_marksAgree
  refine reconcile_triple ?ignored ?invalid ?clean ?mark ?secure ?rollback
  case ignored => exact fun _ _ _ hw => hw
  case invalid => exact fun _ _ _ hw => hw
  case clean => exact fun _ _ _ _ hw => hw
  case mark => exact fun _ _ _ _ => ensureMarked_marksAgree _
  case secure =>
    intro hv _ _ _
    unfold secureBranch
    refine Triple.bind (appOf_keeps hfine hv) fun app => ?_
    refine Triple.bind (Triple.within _ (secureApp_marksAgree app)) fun _ => ?_
    exact Triple.bind (ensureMarked_marksAgree _) fun _ => Triple.pure fun _ hw => hw
  case rollback =>
    intro hv _ _ _
    unfold rollbackBranch
    refine Triple.bind (appOf_keeps hfine hv) fun app => ?_
    refine Triple.bind (Triple.within _ (rollbackApp_marksAgree app)) fun _ => ?_
    exact Triple.bind (ensureUnmarked_marksAgree _) fun _ => Triple.pure fun _ hw => hw

end Sagas

/-- Every step keeps the marks in agreement: the sagas by the triples above, the edits from
outside because they touch neither mark nor name. -/
theorem Cluster.MarksAgree.step {w : World} (h : w.cluster.MarksAgree) (s : Step) :
    (s.apply w).cluster.MarksAgree := by
  cases s with
  | handle ing => exact Step.apply_of_triple (reconcile_marksAgree ing) h
  | secure app => exact Step.apply_of_triple (secureApp_marksAgree app) h
  | rollback app => exact Step.apply_of_triple (rollbackApp_marksAgree app) h
  | setBackend k value =>
    exact h.editIngress k (fun _ => by cases value <;> rfl) fun _ hi => hi.withAuthBackend value
  | setDeletion k stamp => exact h.editIngress k (fun _ => rfl) fun _ hi => hi.withDeletion stamp
  | plan faults => exact h

/-- Along every run, from a store where the marks agree, they still agree. -/
theorem marksAgree_along_runs {ok : World → Step → Prop} {w₀ w : World}
    (h₀ : w₀.cluster.MarksAgree) (hrun : Reaches ok w₀ w) : w.cluster.MarksAgree :=
  Reaches.invariant (fun w s (hw : w.cluster.MarksAgree) _ => hw.step s) h₀ hrun

/-! ## Rolling back -/

/-- With its marks in agreement, an ingress with a rollback to do goes down the rollback branch
of a reconciliation: it is not ignored, not clean already, and not to be secured. -/
theorem Kube.Ingress.RequestsRollback.decides {ing : Ingress} (hreq : ing.RequestsRollback)
    (hm : ing.MarksAgree) :
    (ing.wantsSecurity = true ∨ ing.isHandled = true) ∧
      (ing.isDeleting = false ∨ ing.hasSecurityFinalizer = true) ∧
      (ing.wantsSecurity = false ∨ ing.isDeleting = true) := by
  unfold Ingress.MarksAgree at hm
  rcases hreq with ⟨hfin, hdel⟩ | ⟨hhandled, hwant⟩
  · exact ⟨Or.inr (hm.trans hfin), Or.inr hfin, Or.inr hdel⟩
  · exact ⟨Or.inr hhandled, Or.inr (hm ▸ hhandled), Or.inl hwant⟩

/-- From a store where every ingress has its marks in agreement, along any run: a stored ingress
with a rollback to do, of the supported shape and carrying a backup that reads, is rolled back
by the next reconciliation in which no call fails, and loses both marks. -/
theorem rollback_completes {ok : World → Step → Prop} {w₀ w : World} {k : ObjectKey}
    {ing : Ingress} {cur : ServiceBackend} {r : BackupRecord} {dex : Auth.DexSpec}
    (h₀ : w₀.cluster.MarksAgree) (hrun : Reaches ok w₀ w)
    (hk : w.cluster.ingresses.get? k = some ing) (hreq : ing.RequestsRollback)
    (hcur : ing.serviceBackend = .ok cur)
    (hrec : ∃ text, ing.annotationValue? backupAnnotationKey = some text ∧
      BackupRecord.ofText text = .ok r)
    (hset : w.Settled r.authBackendId dex fun _ => True) :
    ∃ w', Handled k [.rolledBack] w w' ∧ ∃ ing', w'.cluster.ingresses.get? k = some ing' ∧
      ing'.isHandled = false ∧ ing'.hasSecurityFinalizer = false := by
  have hagree := marksAgree_along_runs h₀ hrun
  obtain rfl := hagree.wellKeyed k ing hk
  obtain ⟨hasks, hheld, hreleased⟩ := hreq.decides (hagree.agree _ ing hk)
  obtain ⟨_, w', hx, rfl, -, hk'⟩ := Triple.exec_ok
    (reconcile_rollsBack hcur hasks hheld hreleased hrec) ⟨hset, hk⟩
  exact ⟨w', .cons ing hk hx (.nil w'), _, hk', Ingress.isHandled_unmarked _,
    Ingress.hasSecurityFinalizer_unmarked _⟩

/-- A reconciliation that decides to roll back an ingress stored without a backup fails before
writing anything, whatever its calls do. -/
theorem reconcile_missingBackup {ing : Ingress} (hv : ing.validate = .ok ())
    (hasks : ing.wantsSecurity = true ∨ ing.isHandled = true)
    (hheld : ing.isDeleting = false ∨ ing.hasSecurityFinalizer = true)
    (hreleased : ing.wantsSecurity = false ∨ ing.isDeleting = true)
    (hnone : ing.annotationValue? backupAnnotationKey = none) :
    Triple (fun w => w.cluster.ingresses.get? ing.metadata.key = some ing) (reconcile ing)
      (fun _ _ => False) (fun w => w.cluster.ingresses.get? ing.metadata.key = some ing) := by
  have hfine : Fine (fun w => w.cluster.ingresses.get? ing.metadata.key = some ing)
      (fun w => w.cluster.ingresses.get? ing.metadata.key = some ing) :=
    Fine.keep fun _ _ _ => Iff.rfl
  -- the flags rule out every way but rolling back
  refine reconcile_triple ?ignored ?invalid ?clean ?mark ?secure ?rollback
  case ignored => exact fun h h' => absurd hasks (by simp [h, h'])
  case invalid =>
    intro e he
    rw [hv] at he
    cases he
  case clean => exact fun _ h h' => absurd hheld (by simp [h, h'])
  case mark => exact fun _ h h' _ => absurd hreleased (by simp [h, h'])
  case secure => exact fun _ h h' _ => absurd hreleased (by simp [h, h'])
  case rollback =>
    intro _ _ _ _
    unfold rollbackBranch
    have happ : Triple (fun w => w.cluster.ingresses.get? ing.metadata.key = some ing) (appOf ing)
        (fun app w => w.cluster.ingresses.get? ing.metadata.key = some ing ∧
          app.ingressKey = ing.metadata.key)
        (fun w => w.cluster.ingresses.get? ing.metadata.key = some ing) :=
      appOf_valid hfine hv fun _ _ _ _ _ hw => ⟨hw, rfl⟩
    refine Triple.bind happ fun app => Triple.assume fun hkey => ?_
    -- the backup is read from the stored ingress, which carries none
    have hread : Triple (fun w => w.cluster.ingresses.get? ing.metadata.key = some ing)
        (getBackup app)
        (fun b w => w.cluster.ingresses.get? ing.metadata.key = some ing ∧ b = none)
        (fun w => w.cluster.ingresses.get? ing.metadata.key = some ing) := by
      refine getBackup_triple hfine (fun _ hw h => ?_) (fun _ ing' _ _ hw hk ht _ => ?_)
        (fun _ ing' _ _ hw hk ht _ => ?_) (fun _ _ hw _ _ => ⟨hw, rfl⟩)
      · rw [hkey, hw] at h
        cases h
      all_goals
        rw [hkey, hw] at hk
        cases hk
        rw [hnone] at ht
        cases ht
    have hfail : Triple (fun w => w.cluster.ingresses.get? ing.metadata.key = some ing)
        (rollbackApp app) (fun _ _ => False)
        (fun w => w.cluster.ingresses.get? ing.metadata.key = some ing) := by
      unfold rollbackApp
      refine Triple.bind (Triple.within _ hread) fun backup => Triple.assume fun hb => ?_
      subst hb
      exact Triple.fail fun _ hw => hw
    exact Triple.bind (Triple.within _ hfail) fun _ _ h => False.elim h

theorem portedWorld_marksAgree (port : ServiceBackendPort) :
    (portedWorld port).cluster.MarksAgree := by
  have hfresh := portedIngress_fresh port
  refine ⟨portedWorld_wellKeyed port, fun k ing hk => ?_⟩
  obtain ⟨-, rfl⟩ := portedWorld_stored hk
  exact hfresh.isHandled.trans hfresh.noFinalizer.symm

/-- Marked, and released before it was secured, the ingress has a rollback to do but no backup:
with no call failing, its reconciliation fails and leaves it as it was, so it is never rolled
back. -/
theorem marked_release_stuck :
    (portedWorld { name := some "http" }).cluster.MarksAgree ∧
      ∃ w ing, Reaches (fun _ _ => True) (portedWorld { name := some "http" }) w ∧
        w.cluster.ingresses.get? ⟨"shop", "web"⟩ = some ing ∧ ing.RequestsRollback ∧
        w.Settled "dex" ⟨"dex:5557", "https://dex.example"⟩ (fun _ => True) ∧
        ∃ e w', exec (reconcile ing) w = (.error e, w') ∧
          w'.cluster.ingresses.get? ⟨"shop", "web"⟩ = some ing := by
  have hfresh := portedIngress_fresh { name := some "http" }
  obtain ⟨_, w₁, hx, rfl, hset₁, hk₁⟩ := Triple.exec_ok (reconcile_marksReady
    hfresh.serviceBackend hfresh.wantsSecurity hfresh.isDeleting hfresh.isHandled)
    ⟨portedWorld_settled _ rfl, rfl⟩
  rw [key_portedIngress] at hk₁
  -- the backend annotation is removed before the ingress is secured
  have hk₂ : ((Step.setBackend ⟨"shop", "web"⟩ none).apply w₁).cluster.ingresses.get?
      ⟨"shop", "web"⟩ = some ((portedIngress { name := some "http" }).mark.withAuthBackend none) := by
    rw [Step.apply, World.get?_editIngress, if_pos rfl, hk₁]
    rfl
  have hrun : Reaches (fun _ _ => True) (portedWorld { name := some "http" })
      ((Step.setBackend ⟨"shop", "web"⟩ none).apply w₁) := by
    refine .step (.handle (portedIngress { name := some "http" })) trivial ?_
    rw [Step.apply, hx]
    exact .step _ trivial (.refl _)
  have hreq : ((portedIngress { name := some "http" }).mark.withAuthBackend none).RequestsRollback :=
    Or.inr ⟨by decide, by decide⟩
  have hagree : ((portedIngress { name := some "http" }).mark.withAuthBackend none).MarksAgree :=
    (Ingress.marksAgree_mark _).withAuthBackend none
  obtain ⟨hasks, hheld, hreleased⟩ := hreq.decides hagree
  have hnone : ((portedIngress { name := some "http" }).mark.withAuthBackend none).annotationValue?
      backupAnnotationKey = none := by
    decide
  obtain ⟨e, w', hx', hk'⟩ := Triple.exec_error (reconcile_missingBackup
    (Ingress.validate_eq_ok.2 ⟨_, by simpa [Ingress.withAuthBackend] using hfresh.serviceBackend⟩)
    hasks hheld hreleased hnone) hk₂
  have hset₂ := hset₁.editIngress ⟨"shop", "web"⟩ (·.withAuthBackend none)
  exact ⟨portedWorld_marksAgree _, _, _, hrun, hk₂, hreq,
    ⟨hset₂.1, hset₂.2.1, hset₂.2.2.1, trivial⟩, e, w', hx', hk'⟩

/-- Marked, secured and released, the ingress is rolled back by its next reconciliation. -/
theorem secured_release_rolls_back :
    ∃ w, Reaches (fun _ _ => True) (portedWorld { name := some "http" }) w ∧
      ∃ w', Handled ⟨"shop", "web"⟩ [.rolledBack] w w' ∧
        ∃ ing', w'.cluster.ingresses.get? ⟨"shop", "web"⟩ = some ing' ∧
          ing'.isHandled = false ∧ ing'.hasSecurityFinalizer = false := by
  have hfresh := portedIngress_fresh { name := some "http" }
  obtain ⟨w₁, hsecured, hset, hk⟩ := secure_then_release .dropBackend 0 hfresh rfl
    (portedWorld_settled _ rfl)
  have hrun : Reaches (fun _ _ => True) (portedWorld { name := some "http" })
      ((Release.dropBackend.step ⟨"shop", "web"⟩).apply w₁) :=
    (hsecured.reaches fun _ _ => trivial).trans (.step _ trivial (.refl _))
  have hreq : (Release.dropBackend.apply ((portedIngress { name := some "http" }).securedWith
      (ServiceBackend.recordFor ⟨"web", some { name := some "http" }⟩ "dex"))).RequestsRollback :=
    Or.inr ⟨Release.isHandled_apply_securedWith _ _ _, by decide⟩
  exact ⟨_, hrun, rollback_completes (portedWorld_marksAgree _) hrun hk hreq
    (by rw [Release.serviceBackend_apply]; exact hfresh.serviceBackend_securedWith _)
    ⟨_, Release.backup_apply_securedWith _ _ _, BackupRecord.ofText_toText _⟩
    ⟨hset.1, hset.2.1, hset.2.2.1, trivial⟩⟩

end IngressGuard
