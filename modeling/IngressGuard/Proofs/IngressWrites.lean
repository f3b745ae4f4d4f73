import IngressGuard.Proofs.RollbackProgress
import Mathlib.Logic.Relation

/-!
# Every ingress write edits the stored ingress it has just read

Five writers change a stored ingress: storing the backup, removing it, pointing the single path
elsewhere, marking and unmarking. Each reads the stored ingress, makes its one change, and writes
the result back; the reconciliation's own copy, possibly stale, is never written. `Ingress.Edited`
says what each change does and keeps, without the writers' code: the backup annotation added
where there is none or removed where there is one, the service of the single path replaced by one
it does not lead to, the handled annotation set with the security finalizer appended where it is
absent, or both marks removed; every other annotation, the other finalizers in their order, the
rest of the metadata, the spec and the status kept, an absent map or list read as an empty one.

Seen from the stored ingresses, a reconciliation is then a chain of moves (`World.IngressMove`):
calls that write no ingress, and writes of the ingress stored under its own key, edited once. This
holds whatever ingress the reconciliation is handed, whatever it returns and whatever its calls do
(`reconcile_writes_fresh_edits`), in a store that keeps every ingress under its own key. So no
write made earlier in a run is lost, and the marks, set together and removed together, keep
agreeing.
-/

namespace IngressGuard

open IngressGuard.Kube

namespace Kube.Ingress

/-- The finalizers listed, an absent list read as an empty one. -/
def finalizerList (ing : Ingress) : List String :=
  ing.metadata.finalizers.getD []

/-- The metadata without its annotations and finalizers: the name, the namespace, the labels, the
deletion time and every other field. -/
def restOfMetadata (ing : Ingress) : ObjectMeta :=
  { ing.metadata with annotations := none, finalizers := none }

/-- `y` agrees with `x` on every annotation but `key`, on the rest of the metadata and on the
status. -/
structure SameBut (x y : Ingress) (key : String) : Prop where
  rest : y.restOfMetadata = x.restOfMetadata
  status : y.status = x.status
  annotations : ∀ k, k ≠ key → y.annotationValue? k = x.annotationValue? k

/-- The ways a reconciliation changes a stored ingress `x` into `y`, each made only where it
changes something, with everything it does not name kept. -/
inductive Edited (x : Ingress) : Ingress → Prop
  /-- The backup annotation added where there is none. -/
  | addBackup {y : Ingress} {text : String} (hnone : x.annotationValue? backupAnnotationKey = none)
      (hsame : x.SameBut y backupAnnotationKey)
      (hset : y.annotationValue? backupAnnotationKey = some text)
      (hfin : y.metadata.finalizers = x.metadata.finalizers) (hspec : y.spec = x.spec) : Edited x y
  /-- The backup annotation removed where there is one. -/
  | removeBackup {y : Ingress} (hsome : (x.annotationValue? backupAnnotationKey).isSome)
      (hsame : x.SameBut y backupAnnotationKey)
      (hset : y.annotationValue? backupAnnotationKey = none)
      (hfin : y.metadata.finalizers = x.metadata.finalizers) (hspec : y.spec = x.spec) : Edited x y
  /-- The service of the single path replaced by one it does not lead to; pointed anywhere, the
  two ingresses are the same. -/
  | pointAt {y : Ingress} {cur target : ServiceBackend} (hcur : x.serviceBackend = .ok cur)
      (hto : leadsTo cur target = false) (hset : y.serviceBackend = .ok target)
      (hrest : ∀ t, y.withBackend t = x.withBackend t) : Edited x y
  /-- The handled annotation set, and the security finalizer appended where it is absent. -/
  | mark {y : Ingress} (hm : x.isMarked = false) (hsame : x.SameBut y handledAnnotationKey)
      (hset : y.annotationValue? handledAnnotationKey = some handledValue)
      (hfin : y.finalizerList = if x.hasSecurityFinalizer then x.finalizerList
        else x.finalizerList ++ [securityFinalizer])
      (hspec : y.spec = x.spec) : Edited x y
  /-- The handled annotation and every security finalizer removed. -/
  | unmark {y : Ingress} (hu : x.isUnmarked = false) (hsame : x.SameBut y handledAnnotationKey)
      (hset : y.annotationValue? handledAnnotationKey = none)
      (hfin : y.finalizerList = x.finalizerList.filter (· != securityFinalizer))
      (hspec : y.spec = x.spec) : Edited x y

theorem SameBut.key {x y : Ingress} {key : String} (h : x.SameBut y key) :
    y.metadata.key = x.metadata.key := by
  have hkey := congrArg ObjectMeta.key h.rest
  exact hkey

/-- An edit of another annotation keeps the handled one. -/
theorem SameBut.isHandled {x y : Ingress} {key : String} (h : x.SameBut y key)
    (hkey : handledAnnotationKey ≠ key) : y.isHandled = x.isHandled := by
  unfold Ingress.isHandled
  rw [h.annotations handledAnnotationKey hkey]

/-- An edit keeps the name and the namespace. -/
theorem Edited.key {x y : Ingress} (h : x.Edited y) : y.metadata.key = x.metadata.key := by
  cases h with
  | addBackup _ hsame => exact hsame.key
  | removeBackup _ hsame => exact hsame.key
  | pointAt _ _ _ hrest => exact congrArg (fun i => i.metadata.key) (hrest default)
  | mark _ hsame => exact hsame.key
  | unmark _ hsame => exact hsame.key

/-! ## The writers' changes are edits -/

theorem edited_annotated {x : Ingress} (hnone : x.annotationValue? backupAnnotationKey = none)
    (text : String) : x.Edited (x.annotated backupAnnotationKey text) :=
  .addBackup hnone ⟨rfl, rfl, fun k hk => by simp [hk]⟩
    (show (x.annotated backupAnnotationKey text).annotationValue? backupAnnotationKey = some text
      by simp) rfl rfl

theorem edited_unannotated {x : Ingress}
    (hsome : (x.annotationValue? backupAnnotationKey).isSome) :
    x.Edited (x.unannotated backupAnnotationKey) :=
  .removeBackup hsome ⟨rfl, rfl, fun k hk => by simp [hk]⟩ (by simp) rfl rfl

theorem edited_withBackend {x : Ingress} {cur target : ServiceBackend}
    (hcur : x.serviceBackend = .ok cur) (hto : leadsTo cur target = false) :
    x.Edited (x.withBackend target) :=
  .pointAt hcur hto (serviceBackend_withBackend hcur target) fun t => withBackend_withBackend x target t

theorem edited_mark {x : Ingress} (hm : x.isMarked = false) : x.Edited x.mark := by
  have hsame : x.SameBut x.mark handledAnnotationKey := by
    refine ⟨?_, rfl, fun k hk => by simp [hk]⟩
    unfold mark
    split <;> rfl
  refine .mark hm hsame (by simp) ?_ rfl
  unfold mark finalizerList
  split
  next => rfl
  next => simp [ObjectMeta.addFinalizer, ObjectMeta.annotate]

theorem edited_unmark {x : Ingress} (hu : x.isUnmarked = false) : x.Edited x.unmark :=
  .unmark hu ⟨rfl, rfl, fun k hk => by simp [hk]⟩ (by simp) rfl rfl

/-- An edit keeps the handled annotation and the security finalizer in agreement. -/
theorem Edited.marksAgree {x y : Ingress} (h : x.Edited y) (hx : x.MarksAgree) : y.MarksAgree := by
  cases h with
  | addBackup _ hsame _ hfin =>
    have hf : y.hasSecurityFinalizer = x.hasSecurityFinalizer := by
      simp only [hasSecurityFinalizer, ObjectMeta.hasFinalizer, hfin]
    rw [MarksAgree, hsame.isHandled (by decide), hf]
    exact hx
  | removeBackup _ hsame _ hfin =>
    have hf : y.hasSecurityFinalizer = x.hasSecurityFinalizer := by
      simp only [hasSecurityFinalizer, ObjectMeta.hasFinalizer, hfin]
    rw [MarksAgree, hsame.isHandled (by decide), hf]
    exact hx
  | pointAt _ _ _ hrest =>
    have hmeta : y.metadata = x.metadata := congrArg (fun i => i.metadata) (hrest default)
    simpa only [MarksAgree, isHandled, hasSecurityFinalizer, annotationValue?, hmeta] using hx
  | mark _ _ hset hfin =>
    have hf : y.hasSecurityFinalizer = true := by
      simp only [hasSecurityFinalizer, ObjectMeta.hasFinalizer]
      change y.finalizerList.contains securityFinalizer = true
      rw [hfin]
      split
      next hx' => simpa [hasSecurityFinalizer, ObjectMeta.hasFinalizer, finalizerList] using hx'
      next => simp
    simp [MarksAgree, isHandled, hset, hf]
  | unmark _ _ hset hfin =>
    have hf : y.hasSecurityFinalizer = false := by
      simp only [hasSecurityFinalizer, ObjectMeta.hasFinalizer]
      change y.finalizerList.contains securityFinalizer = false
      rw [hfin]
      simp
    simp [MarksAgree, isHandled, hset, hf]

end Kube.Ingress

/-! ## Moves -/

namespace World

/-- One call of a reconciliation as the stored ingresses see it: a call that writes no ingress
leaves them, and the count of their writes, as they were; an update writes the ingress stored
under its own key, as read just before, edited once. -/
inductive IngressMove : World → World → Prop
  | other {w w' : World} (hstore : w'.cluster.ingresses = w.cluster.ingresses)
      (hcount : w'.cluster.writes.ingresses = w.cluster.writes.ingresses) : IngressMove w w'
  | write {w : World} {x y : Ingress} (hx : w.cluster.ingresses.get? x.metadata.key = some x)
      (hedit : x.Edited y) : IngressMove w (w.withIngress y)

/-- `w` follows from `w₀` by moves, and stores every ingress under its own key. -/
structure MovedFrom (w w₀ : World) : Prop where
  moves : Relation.ReflTransGen IngressMove w₀ w
  wellKeyed : w.cluster.WellKeyed

variable {w w' w₀ : World}

/-- A change that leaves the stored ingresses and their write count is a move. -/
theorem MovedFrom.keep (h : w.MovedFrom w₀) (hstore : w'.cluster.ingresses = w.cluster.ingresses)
    (hcount : w'.cluster.writes.ingresses = w.cluster.writes.ingresses) : w'.MovedFrom w₀ :=
  ⟨h.moves.tail (.other hstore hcount), fun k ing hk => h.wellKeyed k ing (hstore ▸ hk)⟩

/-- Writing an edit of the ingress stored at a key is a move. -/
theorem MovedFrom.write (h : w.MovedFrom w₀) {k : ObjectKey} {x y : Ingress}
    (hx : w.cluster.ingresses.get? k = some x) (hedit : x.Edited y) :
    (w.withIngress y).MovedFrom w₀ := by
  have hkey : x.metadata.key = k := h.wellKeyed k x hx
  subst hkey
  exact ⟨h.moves.tail (.write hx hedit), wellKeyed_withIngress h.wellKeyed y⟩

/-- Every move keeps the marks in agreement. -/
theorem IngressMove.marksAgree (hm : IngressMove w w') (h : w.cluster.MarksAgree) :
    w'.cluster.MarksAgree := by
  cases hm with
  | other hstore => exact h.congr hstore
  | write hx hedit => exact h.withIngress (hedit.marksAgree (h.agree _ _ hx))

/-- So does every chain of moves. -/
theorem marksAgree_of_moves (hm : Relation.ReflTransGen IngressMove w₀ w)
    (h : w₀.cluster.MarksAgree) : w.cluster.MarksAgree := by
  induction hm with
  | refl => exact h
  | tail _ hstep ih => exact hstep.marksAgree ih

end World

theorem calm_movedFrom (w₀ : World) : Calm fun w => w.MovedFrom w₀ :=
  fun _ _ _ => ⟨fun h => h.keep rfl rfl, fun h => h.keep rfl rfl⟩

/-! ## Every saga moves

Each writer reads the stored ingress and writes it back edited; every other call leaves the
ingresses alone. -/

section Sagas

variable {w₀ : World}

theorem ensureMarked_moves (k : ObjectKey) :
    Triple (·.MovedFrom w₀) (ensureMarked k) (fun _ w => w.MovedFrom w₀) (·.MovedFrom w₀) :=
  ensureMarked_triple (Fine.keep (calm_movedFrom w₀)) (fun _ hw _ => hw) (fun _ _ hw _ _ => hw)
    (fun _ _ hw hx hm _ => hw.write hx (Ingress.edited_mark hm)) (fun _ _ hw _ _ => hw)

theorem ensureUnmarked_moves (k : ObjectKey) :
    Triple (·.MovedFrom w₀) (ensureUnmarked k) (fun _ w => w.MovedFrom w₀) (·.MovedFrom w₀) :=
  ensureUnmarked_triple (Fine.keep (calm_movedFrom w₀)) (fun _ hw _ => hw) (fun _ _ hw _ _ => hw)
    (fun _ _ hw hx hu _ => hw.write hx (Ingress.edited_unmark hu)) (fun _ _ hw _ _ => hw)

theorem swapBackend_moves (k : ObjectKey) (target : ServiceBackend) :
    Triple (·.MovedFrom w₀) (swapBackend k target) (fun _ w => w.MovedFrom w₀) (·.MovedFrom w₀) :=
  swapBackend_triple (Fine.keep (calm_movedFrom w₀)) (fun _ hw _ => hw) (fun _ _ _ hw _ _ => hw)
    (fun _ _ _ hw _ _ _ => hw)
    (fun _ _ _ hw hx hcur hto _ => hw.write hx (Ingress.edited_withBackend hcur hto))
    (fun _ _ hw _ _ => hw)

theorem backupOrGet_moves (app : App) (data : BackupRecord) :
    Triple (·.MovedFrom w₀) (backupOrGet app data) (fun _ w => w.MovedFrom w₀) (·.MovedFrom w₀) :=
  backupOrGet_triple (Fine.keep (calm_movedFrom w₀)) (fun _ hw _ => hw)
    (fun _ _ _ _ hw _ _ _ => hw) (fun _ _ _ _ hw _ _ _ => hw)
    (fun _ _ hw hx hnone _ => hw.write hx (Ingress.edited_annotated hnone _))
    (fun _ _ hw _ _ => hw)

theorem deleteBackup_moves (app : App) :
    Triple (·.MovedFrom w₀) (deleteBackup app) (fun _ w => w.MovedFrom w₀) (·.MovedFrom w₀) :=
  deleteBackup_triple (Fine.keep (calm_movedFrom w₀)) (fun _ hw _ => hw) (fun _ _ hw _ _ => hw)
    (fun _ _ hw hx hsome _ => hw.write hx (Ingress.edited_unannotated hsome))
    (fun _ _ hw _ _ => hw)

theorem secureApp_moves (app : App) :
    Triple (·.MovedFrom w₀) (secureApp app) (fun _ w => w.MovedFrom w₀) (·.MovedFrom w₀) := by
  have hfine := Fine.keep (calm_movedFrom w₀)
  unfold secureApp
  refine Triple.bind (Triple.within _ (getAuthBackend_keeps hfine fun _ hw => hw))
    fun backend => ?_
  refine Triple.bind (Triple.within _ (registererFor_keeps hfine (fun _ hw => hw)
    fun _ _ hw => hw.keep (by simp) (by simp))) fun address => ?_
  refine Triple.bind (Triple.within _ (register_keeps hfine (fun _ hw => hw.keep rfl rfl)
    (fun _ _ hw => hw.keep rfl rfl) (fun _ hw => hw.keep (by simp) (by simp))
    (fun _ _ hw => hw.keep (by simp) (by simp))))
    fun credentials => ?_
  refine Triple.bind (Triple.within _ (backupOrGet_moves app _)) fun backup => ?_
  refine Triple.bind (Triple.within _ (routeService_keeps hfine fun _ hw => hw)) fun route => ?_
  exact Triple.within _ (provision_triple hfine (fun _ hw => hw.keep rfl rfl)
    (fun _ hw => hw.keep rfl rfl) (fun _ hw => hw.keep rfl rfl)
    ((swapBackend_moves _ _).mono (fun _ hw => hw.1) (fun _ _ h => h) (fun _ h => h)))

theorem rollbackApp_moves (app : App) :
    Triple (·.MovedFrom w₀) (rollbackApp app) (fun _ w => w.MovedFrom w₀) (·.MovedFrom w₀) := by
  have hfine := Fine.keep (calm_movedFrom w₀)
  unfold rollbackApp
  refine Triple.bind (Triple.within _ (getBackup_keeps hfine fun _ hw => hw)) fun backup => ?_
  cases backup with
  | none => exact Triple.fail fun _ hw => hw
  | some r =>
    refine Triple.bind (Triple.within _ (unprovision_triple (swapBackend_moves _ _) hfine
      (fun _ hw => hw.keep rfl rfl) (fun _ hw => hw.keep rfl rfl) (fun _ hw => hw.keep rfl rfl)))
      fun _ => ?_
    refine Triple.bind (Triple.within _ (getAuthBackend_keeps hfine fun _ hw => hw))
      fun backend => ?_
    refine Triple.bind (Triple.within _ (registererFor_keeps hfine (fun _ hw => hw)
      fun _ _ hw => hw.keep (by simp) (by simp))) fun address => ?_
    refine Triple.bind (Triple.within _ (unregister_keeps hfine
      (fun _ hw => hw.keep (by simp) (by simp)) (fun _ hw => hw.keep rfl rfl))) fun _ => ?_
    exact Triple.within _ (deleteBackup_moves app)

/-- A reconciliation moves, whatever ingress it is handed and whatever its calls do. -/
theorem reconcile_moves (ing : Ingress) :
    Triple (·.MovedFrom w₀) (reconcile ing) (fun _ w => w.MovedFrom w₀) (·.MovedFrom w₀) := by
  have hfine := Fine.keep (calm_movedFrom w₀)
  refine reconcile_triple ?ignored ?invalid ?clean ?mark ?secure ?rollback
  case ignored => exact fun _ _ _ hw => hw
  case invalid => exact fun _ _ _ hw => hw
  case clean => exact fun _ _ _ _ hw => hw
  case mark => exact fun _ _ _ _ => ensureMarked_moves _
  case secure =>
    intro hv _ _ _
    unfold secureBranch
    refine Triple.bind (appOf_keeps hfine hv) fun app => ?_
    refine Triple.bind (Triple.within _ (secureApp_moves app)) fun _ => ?_
    exact Triple.bind (ensureMarked_moves _) fun _ => Triple.pure fun _ hw => hw
  case rollback =>
    intro hv _ _ _
    unfold rollbackBranch
    refine Triple.bind (appOf_keeps hfine hv) fun app => ?_
    refine Triple.bind (Triple.within _ (rollbackApp_moves app)) fun _ => ?_
    exact Triple.bind (ensureUnmarked_moves _) fun _ => Triple.pure fun _ hw => hw

end Sagas

/-- Every ingress write of a reconciliation is a minimal read-modify-write of the fresh stored
ingress: from a store that keeps every ingress under its own key, whatever ingress it is handed,
whatever it returns and whatever its calls do, the reconciliation is a chain of calls that write
no ingress and of writes of the ingress stored under its own key, edited once. So the marks keep
agreeing through it, and through every run from a store where they agree. -/
theorem reconcile_writes_fresh_edits (ing : Ingress) {w : World} (hw : w.cluster.WellKeyed) :
    Relation.ReflTransGen World.IngressMove w (exec (reconcile ing) w).2 ∧
      (w.cluster.MarksAgree → (exec (reconcile ing) w).2.cluster.MarksAgree) ∧
      ∀ {ok : World → Step → Prop} {w₀ w' : World}, w₀.cluster.MarksAgree → Reaches ok w₀ w' →
        w'.cluster.MarksAgree := by
  have hstart : w.MovedFrom w := ⟨.refl, hw⟩
  have hmoves := (Step.apply_of_triple (reconcile_moves ing) hstart).moves
  exact ⟨hmoves, World.marksAgree_of_moves hmoves, fun h₀ hrun => marksAgree_along_runs h₀ hrun⟩

/-- The sample world keeps its one ingress under its own key, and reconciling that ingress is a
chain of moves. -/
theorem sample_reconcile_writes_fresh_edits :
    (portedWorld { name := some "http" }).cluster.WellKeyed ∧
      (Relation.ReflTransGen World.IngressMove (portedWorld { name := some "http" })
          (exec (reconcile (portedIngress { name := some "http" }))
            (portedWorld { name := some "http" })).2 ∧
        ((portedWorld { name := some "http" }).cluster.MarksAgree →
          (exec (reconcile (portedIngress { name := some "http" }))
            (portedWorld { name := some "http" })).2.cluster.MarksAgree) ∧
        ∀ {ok : World → Step → Prop} {w₀ w' : World}, w₀.cluster.MarksAgree → Reaches ok w₀ w' →
          w'.cluster.MarksAgree) :=
  ⟨(portedWorld_marksAgree _).wellKeyed,
    reconcile_writes_fresh_edits _ (portedWorld_marksAgree _).wellKeyed⟩

end IngressGuard
