import IngressGuard.Proofs.Sagas

/-!
# Runs of the controller

A run is a sequence of steps: a reconciliation of an ingress as the controller saw it (the stored
object or any other, such as a stale copy), a saga started directly for an app, an edit made to
a stored ingress from outside (its backend annotation, its deletion timestamp), or a new plan of
faults for the calls to come. `Reaches ok w w'` says that `w'` is reached from `w` by steps each
of which `ok` allows in the world it starts from; `Reaches.invariant` turns a condition kept by
every allowed step into one that holds all along a run.

A store that keeps every ingress under its own key (`Cluster.WellKeyed`) stays so, whatever is
written.
-/

namespace IngressGuard

open IngressGuard.Kube

/-- Every stored ingress is stored under its own key. -/
def Cluster.WellKeyed (c : Cluster) : Prop :=
  ∀ k ing, c.ingresses.get? k = some ing → ing.metadata.key = k

namespace World

/-- The world with the ingress stored at a key changed from outside, if there is one. Edits
made outside the controller are not counted as its writes. -/
def editIngress (w : World) (k : ObjectKey) (f : Ingress → Ingress) : World :=
  match w.cluster.ingresses.get? k with
  | some ing => { w with cluster := { w.cluster with ingresses := w.cluster.ingresses.put k (f ing) } }
  | none => w

theorem get?_editIngress (w : World) (k k' : ObjectKey) (f : Ingress → Ingress) :
    (w.editIngress k f).cluster.ingresses.get? k' =
      if k' = k then (w.cluster.ingresses.get? k).map f else w.cluster.ingresses.get? k' := by
  unfold editIngress
  cases hk : w.cluster.ingresses.get? k with
  | none =>
    by_cases h : k' = k
    · subst h
      simp [hk]
    · simp [h]
  | some ing => simp

@[simp] theorem secrets_editIngress (w : World) (k : ObjectKey) (f : Ingress → Ingress) :
    (w.editIngress k f).cluster.secrets = w.cluster.secrets := by
  unfold editIngress; split <;> rfl
@[simp] theorem deployments_editIngress (w : World) (k : ObjectKey) (f : Ingress → Ingress) :
    (w.editIngress k f).cluster.deployments = w.cluster.deployments := by
  unfold editIngress; split <;> rfl
@[simp] theorem services_editIngress (w : World) (k : ObjectKey) (f : Ingress → Ingress) :
    (w.editIngress k f).cluster.services = w.cluster.services := by
  unfold editIngress; split <;> rfl
@[simp] theorem home_editIngress (w : World) (k : ObjectKey) (f : Ingress → Ingress) :
    (w.editIngress k f).home = w.home := by
  unfold editIngress; split <;> rfl
@[simp] theorem dex_editIngress (w : World) (k : ObjectKey) (f : Ingress → Ingress) :
    (w.editIngress k f).dex = w.dex := by
  unfold editIngress; split <;> rfl

/-- Writing an ingress stores it under its own key. -/
theorem wellKeyed_withIngress {w : World} (h : w.cluster.WellKeyed) (ing : Ingress) :
    (w.withIngress ing).cluster.WellKeyed := by
  intro k ing' hk
  simp only [World.withIngress, Store.get?_put] at hk
  split at hk
  next heq =>
    cases hk
    exact heq.symm
  next => exact h k ing' hk

/-- An edit from outside that keeps the name and namespace keeps the store well keyed. -/
theorem wellKeyed_editIngress {w : World} (h : w.cluster.WellKeyed) (k : ObjectKey)
    {f : Ingress → Ingress} (hf : ∀ ing, (f ing).metadata.key = ing.metadata.key) :
    (w.editIngress k f).cluster.WellKeyed := by
  unfold World.editIngress
  cases hk : w.cluster.ingresses.get? k with
  | none => exact h
  | some ing =>
    intro k' ing' hk'
    simp only [Store.get?_put] at hk'
    split at hk'
    next heq =>
      cases hk'
      rw [hf, h k ing hk]
      exact heq.symm
    next => exact h k' ing' hk'

end World

/-- One step of a run. -/
inductive Step where
  /-- A reconciliation of an ingress as the controller saw it. -/
  | handle (ing : Ingress)
  /-- The securing saga, started directly for an app. -/
  | secure (app : App)
  /-- The rollback saga, started directly for an app. -/
  | rollback (app : App)
  /-- An edit from outside setting (or removing) the backend annotation of a stored ingress. -/
  | setBackend (k : ObjectKey) (value : Option String)
  /-- An edit from outside setting (or clearing) the deletion timestamp of a stored ingress. -/
  | setDeletion (k : ObjectKey) (stamp : Option Time)
  /-- A new plan of faults for the calls to come. -/
  | plan (faults : List (CallKind × FaultPlan))

namespace Kube.Ingress

/-- The ingress with its backend annotation set to a value, or removed. -/
def withAuthBackend (ing : Ingress) : Option String → Ingress
  | some v => ing.annotated backendAnnotationKey v
  | none => ing.unannotated backendAnnotationKey

/-- The ingress with its deletion timestamp set, or cleared. -/
def withDeletion (ing : Ingress) (stamp : Option Time) : Ingress :=
  { ing with metadata := { ing.metadata with deletionTimestamp := stamp } }

end Kube.Ingress

/-- The world after a step; a saga that fails leaves whatever it did before the failure. -/
def Step.apply : Step → World → World
  | .handle ing, w => (exec (reconcile ing) w).2
  | .secure app, w => (exec (secureApp app) w).2
  | .rollback app, w => (exec (rollbackApp app) w).2
  | .setBackend k value, w => w.editIngress k (·.withAuthBackend value)
  | .setDeletion k stamp, w => w.editIngress k (·.withDeletion stamp)
  | .plan faults, w => { w with faults }

/-- `w'` is reached from `w` by steps that `ok` allows in the world each starts from. -/
inductive Reaches (ok : World → Step → Prop) : World → World → Prop
  | refl (w : World) : Reaches ok w w
  | step {w w' : World} (s : Step) : ok w s → Reaches ok (s.apply w) w' → Reaches ok w w'

/-- A condition kept by every allowed step holds all along a run. -/
theorem Reaches.invariant {ok : World → Step → Prop} {I : World → Prop}
    (hstep : ∀ w s, I w → ok w s → I (s.apply w)) {w w' : World} (hw : I w)
    (hrun : Reaches ok w w') : I w' := by
  induction hrun with
  | refl => exact hw
  | step s hs _ ih => exact ih (hstep _ s hw hs)

theorem Reaches.trans {ok : World → Step → Prop} {w w' w'' : World} (h : Reaches ok w w')
    (h' : Reaches ok w' w'') : Reaches ok w w'' := by
  induction h with
  | refl => exact h'
  | step s hs _ ih => exact .step s hs (ih h')

/-- `w'` follows from `w` by reconciling the ingress stored at `k` once for each outcome of the
list, each time with that outcome. -/
inductive Handled (k : ObjectKey) : List Outcome → World → World → Prop
  | nil (w : World) : Handled k [] w w
  | cons {o : Outcome} {os : List Outcome} {w w' w'' : World} (ing : Ingress) :
      w.cluster.ingresses.get? k = some ing → exec (reconcile ing) w = (.ok o, w') →
      Handled k os w' w'' → Handled k (o :: os) w w''

theorem Handled.append {k : ObjectKey} {os os' : List Outcome} {w w' w'' : World}
    (h : Handled k os w w') (h' : Handled k os' w' w'') : Handled k (os ++ os') w w'' := by
  induction h with
  | nil => exact h'
  | cons ing hk hx _ ih => exact .cons ing hk hx (ih h')

/-- Reconciling the stored ingress is a step of a run wherever reconciliations are allowed. -/
theorem Handled.reaches {k : ObjectKey} {os : List Outcome} {w w' : World}
    {ok : World → Step → Prop} (h : Handled k os w w') (hok : ∀ w ing, ok w (.handle ing)) :
    Reaches ok w w' := by
  induction h with
  | nil w => exact .refl w
  | @cons _ _ w w₁ _ ing _ hx _ ih =>
    refine .step (.handle ing) (hok w ing) ?_
    rw [Step.apply, hx]
    exact ih

/-- A reconciliation of the stored ingress that keeps it in place and keeps a condition on the
world, returning one outcome, can be repeated any number of times. -/
theorem Handled.replicate {k : ObjectKey} {ing : Ingress} {o : Outcome} {P : World → Prop}
    (hstep : Triple (fun w => P w ∧ w.cluster.ingresses.get? k = some ing) (reconcile ing)
      (fun o' w => o' = o ∧ P w ∧ w.cluster.ingresses.get? k = some ing) (fun _ => False))
    (m : Nat) {w : World} (hw : P w) (hk : w.cluster.ingresses.get? k = some ing) :
    ∃ w', Handled k (List.replicate m o) w w' ∧ P w' ∧ w'.cluster.ingresses.get? k = some ing := by
  induction m generalizing w with
  | zero => exact ⟨w, .nil w, hw, hk⟩
  | succ m ih =>
    obtain ⟨_, w₁, hx, rfl, hw₁, hk₁⟩ := Triple.exec_ok hstep ⟨hw, hk⟩
    obtain ⟨w', hrun, hw', hk'⟩ := ih hw₁ hk₁
    exact ⟨w', .cons ing hk hx hrun, hw', hk'⟩

/-- What a saga ends in, whether it returns or fails. -/
theorem Step.apply_of_triple {P I : World → Prop} {α : Type} {x : Op α} {w : World}
    (h : Triple P x (fun _ => I) I) (hw : P w) : I (exec x w).2 := by
  have := h w hw
  revert this
  rcases exec x w with ⟨_ | a, w'⟩ <;> exact id

end IngressGuard
