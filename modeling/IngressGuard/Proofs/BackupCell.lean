import IngressGuard.Proofs.BackendSwap

/-!
# The backup of an app is a cell that is set once

Seen through its annotation, the backup of an app is a cell holding at most one record: absent
reads as empty, the text of a record as that record (`World.BackupHolds`). The three calls on it
behave as the calls of a cell that is set only when empty (`BackupCall.onCell`): storing keeps a
record already there and answers it, and otherwise keeps and answers the one offered; reading
answers what is held; deleting empties the cell.

From a world whose stored ingress holds `c`, each call answers as the cell does, and writes the
ingress exactly when the cell changes, with only the backup annotation changed
(`BackupCall.op_refines`); a call that fails leaves the cluster as it was, and with no fault
planned none fails (`BackupCall.op_returns`). Along any sequence of calls, with changes of other
parts of the world between them, the calls that returned answer as the cell does when given the
same calls (`BackupRun.refines`).
-/

namespace IngressGuard

open IngressGuard.Kube

/-- The calls on the backup of an app. -/
inductive BackupCall where
  | backupOrGet (data : BackupRecord)
  | get
  | delete
deriving DecidableEq, Repr

/-- What a call on the backup answers. -/
inductive BackupAnswer where
  | kept (r : BackupRecord)
  | read (r : Option BackupRecord)
  | deleted
deriving DecidableEq, Repr

namespace BackupCall

/-- A call on the backup of an app, as the controller makes it. -/
def op (app : App) : BackupCall → Op BackupAnswer
  | .backupOrGet data => BackupAnswer.kept <$> IngressGuard.backupOrGet app data
  | .get => BackupAnswer.read <$> getBackup app
  | .delete => (fun _ => BackupAnswer.deleted) <$> deleteBackup app

/-- A call on a cell that is set only when empty: the answer, and what the cell holds after. -/
def onCell : BackupCall → Option BackupRecord → BackupAnswer × Option BackupRecord
  | .backupOrGet _, some r => (.kept r, some r)
  | .backupOrGet data, none => (.kept data, some data)
  | .get, c => (.read c, c)
  | .delete, _ => (.deleted, none)

/-- Calls on the cell in turn: their answers, and what the cell holds at the end. -/
def runCell : List BackupCall → Option BackupRecord → List BackupAnswer × Option BackupRecord
  | [], c => ([], c)
  | call :: calls, c =>
    ((call.onCell c).1 :: (runCell calls (call.onCell c).2).1, (runCell calls (call.onCell c).2).2)

end BackupCall

/-- The ingress with its backup annotation holding `c`: the text of the record, or none. -/
def Kube.Ingress.withBackup (ing : Ingress) : Option BackupRecord → Ingress
  | some r => ing.annotated backupAnnotationKey r.toText
  | none => ing.unannotated backupAnnotationKey

@[simp] theorem Kube.Ingress.key_withBackup (ing : Ingress) (c : Option BackupRecord) :
    (ing.withBackup c).metadata.key = ing.metadata.key := by
  cases c <;> rfl

@[simp] theorem Kube.Ingress.backup_withBackup (ing : Ingress) (c : Option BackupRecord) :
    (ing.withBackup c).annotationValue? backupAnnotationKey = c.map BackupRecord.toText := by
  cases c <;> simp [Ingress.withBackup]

/-- The cluster after a call on the cell: as it was when the cell keeps its content, else with the
ingress written once, holding the new content. -/
def World.backupWritten (w : World) (ing : Ingress) (c c' : Option BackupRecord) : Cluster :=
  if c' = c then w.cluster else (w.withIngress (ing.withBackup c')).cluster

/-- The backup of the ingress at `k` holds `c`: the ingress is stored under its own key, and its
backup annotation is absent for `none` and the text of `r` for `some r`. -/
def World.BackupHolds (w : World) (k : ObjectKey) (c : Option BackupRecord) : Prop :=
  ∃ ing, w.cluster.ingresses.get? k = some ing ∧ ing.metadata.key = k ∧
    ing.annotationValue? backupAnnotationKey = c.map BackupRecord.toText

namespace World.BackupHolds

variable {w w' : World} {k : ObjectKey} {c : Option BackupRecord}

theorem of_cluster (h : w.BackupHolds k c) (hc : w'.cluster = w.cluster) : w'.BackupHolds k c := by
  unfold World.BackupHolds
  rw [hc]
  exact h

theorem withBackup {ing : Ingress} (hkey : ing.metadata.key = k) (c : Option BackupRecord)
    (hc : w'.cluster = (w.withIngress (ing.withBackup c)).cluster) : w'.BackupHolds k c :=
  ⟨ing.withBackup c, by rw [hc, World.get?_withIngress, Ingress.key_withBackup, hkey, if_pos rfl],
    by rw [Ingress.key_withBackup, hkey], Ingress.backup_withBackup ing c⟩

/-- After a call, the cell holds its new content: the cluster is the one the cell's change
writes. -/
theorem written {ing : Ingress} {c' : Option BackupRecord}
    (hs : w.cluster.ingresses.get? k = some ing) (hkey : ing.metadata.key = k)
    (hc : ing.annotationValue? backupAnnotationKey = c.map BackupRecord.toText)
    (hw : w'.cluster = w.backupWritten ing c c') : w'.BackupHolds k c' := by
  unfold World.backupWritten at hw
  split at hw
  · next heq =>
    subst heq
    exact of_cluster ⟨ing, hs, hkey, hc⟩ hw
  · exact withBackup hkey c' hw

end World.BackupHolds

/-! ## One call -/

section Calls

variable {w : World} {app : App} {ing : Ingress} {c : Option BackupRecord}

/-- A stored text reads as the record it holds. -/
theorem text_reads {text : String} (hc : ing.annotationValue? backupAnnotationKey = c.map BackupRecord.toText)
    (ht : ing.annotationValue? backupAnnotationKey = some text) :
    ∃ r, c = some r ∧ BackupRecord.ofText text = .ok r := by
  cases c with
  | none =>
    rw [hc] at ht
    cases ht
  | some r =>
    rw [hc] at ht
    cases ht
    exact ⟨r, rfl, BackupRecord.ofText_toText r⟩

variable {G err : World → Prop} (hfine : Fine (fun v => v.cluster = w.cluster ∧ G v) err)
  (hs : w.cluster.ingresses.get? app.ingressKey = some ing)
  (hkey : ing.metadata.key = app.ingressKey)
  (hc : ing.annotationValue? backupAnnotationKey = c.map BackupRecord.toText)
include hfine hs hkey hc

/-! Each call is followed from a world with the cluster of `w`, beside a condition `G` on the
planned faults that the calls keep; a call failed by a fault ends in `err`. Every other failure
contradicts what is stored. -/

theorem backupOrGet_cell (data : BackupRecord) :
    Triple (fun v => v.cluster = w.cluster ∧ G v) (backupOrGet app data)
      (fun r v => BackupAnswer.kept r = ((BackupCall.backupOrGet data).onCell c).1 ∧
        v.cluster = w.backupWritten ing c ((BackupCall.backupOrGet data).onCell c).2) err := by
  refine backupOrGet_triple hfine (fun v hv h => ?_) (fun v ing' text r hv hs' ht hr => ?_)
    (fun v ing' text e hv hs' ht he => ?_) (fun v ing' hv hs' hnone _ => ?_)
    (fun v ing' hv hs' hcon => ?_)
  · rw [hv.1, hs] at h
    cases h
  · -- a record is held: it is read back and nothing is written
    rw [hv.1, hs] at hs'
    cases hs'
    obtain ⟨r', rfl, hr'⟩ := text_reads hc ht
    rw [hr'] at hr
    cases hr
    exact ⟨rfl, by simp [World.backupWritten, BackupCall.onCell, hv.1]⟩
  · rw [hv.1, hs] at hs'
    cases hs'
    obtain ⟨r', rfl, hr'⟩ := text_reads hc ht
    rw [hr'] at he
    cases he
  · -- the cell is empty: the record offered is written
    rw [hv.1, hs] at hs'
    cases hs'
    cases c with
    | some r => simp [hc] at hnone
    | none =>
      refine ⟨rfl, ?_⟩
      simp only [World.backupWritten, BackupCall.onCell, reduceCtorEq, if_false]
      unfold World.withIngress
      rw [hv.1]
      rfl
  · rw [hv.1, hs] at hs'
    cases hs'
    rw [hkey, Store.contains_eq_isSome, hv.1, hs] at hcon
    cases hcon

omit hkey in
theorem getBackup_cell :
    Triple (fun v => v.cluster = w.cluster ∧ G v) (getBackup app)
      (fun r v => BackupAnswer.read r = (BackupCall.get.onCell c).1 ∧
        v.cluster = w.backupWritten ing c (BackupCall.get.onCell c).2) err := by
  refine getBackup_triple hfine (fun v hv h => ?_) (fun v ing' text r hv hs' ht hr => ?_)
    (fun v ing' text e hv hs' ht he => ?_) (fun v ing' hv hs' hnone => ?_)
  · rw [hv.1, hs] at h
    cases h
  · rw [hv.1, hs] at hs'
    cases hs'
    obtain ⟨r', rfl, hr'⟩ := text_reads hc ht
    rw [hr'] at hr
    cases hr
    exact ⟨rfl, by simp [World.backupWritten, BackupCall.onCell, hv.1]⟩
  · rw [hv.1, hs] at hs'
    cases hs'
    obtain ⟨r', rfl, hr'⟩ := text_reads hc ht
    rw [hr'] at he
    cases he
  · rw [hv.1, hs] at hs'
    cases hs'
    cases c with
    | some r => simp [hc] at hnone
    | none => exact ⟨rfl, by simp [World.backupWritten, BackupCall.onCell, hv.1]⟩

theorem deleteBackup_cell :
    Triple (fun v => v.cluster = w.cluster ∧ G v) (deleteBackup app)
      (fun _ v => BackupAnswer.deleted = (BackupCall.delete.onCell c).1 ∧
        v.cluster = w.backupWritten ing c (BackupCall.delete.onCell c).2) err := by
  refine deleteBackup_triple hfine (fun v hv h => ?_) (fun v ing' hv hs' hnone => ?_)
    (fun v ing' hv hs' hsome _ => ?_) (fun v ing' hv hs' hcon => ?_)
  · rw [hv.1, hs] at h
    cases h
  · -- nothing is held: nothing is written
    rw [hv.1, hs] at hs'
    cases hs'
    cases c with
    | some r => simp [hc] at hnone
    | none => exact ⟨rfl, by simp [World.backupWritten, BackupCall.onCell, hv.1]⟩
  · -- a record is held: the annotation is removed
    rw [hv.1, hs] at hs'
    cases hs'
    cases c with
    | none => simp [hc] at hsome
    | some r =>
      refine ⟨rfl, ?_⟩
      simp only [World.backupWritten, BackupCall.onCell, reduceCtorEq, if_false]
      unfold World.withIngress
      rw [hv.1]
      rfl
  · rw [hv.1, hs] at hs'
    cases hs'
    rw [hkey, Store.contains_eq_isSome, hv.1, hs] at hcon
    cases hcon

/-- A call on the cell from a world whose stored ingress `ing` holds `c` answers as the cell does,
and leaves the cluster as the cell's change writes it. -/
theorem BackupCall.op_cell (call : BackupCall) :
    Triple (fun v => v.cluster = w.cluster ∧ G v) (call.op app)
      (fun a v => a = (call.onCell c).1 ∧ v.cluster = w.backupWritten ing c (call.onCell c).2)
      err := by
  cases call with
  | backupOrGet data => exact Triple.map (backupOrGet_cell hfine hs hkey hc data)
  | get => exact Triple.map (getBackup_cell hfine hs hc)
  | delete => exact Triple.map (deleteBackup_cell hfine hs hkey hc)

end Calls

/-- One call on the backup of an app, from a world whose stored ingress `ing` holds `c`: a call that
returns answers as the cell does, and writes the ingress once, with the new content, exactly when
the content changes; a call that fails leaves the cluster as it was, and fails only when a fault is
planned. -/
theorem BackupCall.op_refines (call : BackupCall) {w : World} {app : App} {ing : Ingress}
    {c : Option BackupRecord} (hs : w.cluster.ingresses.get? app.ingressKey = some ing)
    (hkey : ing.metadata.key = app.ingressKey)
    (hc : ing.annotationValue? backupAnnotationKey = c.map BackupRecord.toText) :
    (∀ a w', exec (call.op app) w = (.ok a, w') →
      a = (call.onCell c).1 ∧ w'.cluster = w.backupWritten ing c (call.onCell c).2) ∧
    (∀ e w', exec (call.op app) w = (.error e, w') → w'.cluster = w.cluster ∧ ¬ w.Quiet) := by
  have hcalm : Calm fun v => v.cluster = w.cluster := fun _ _ _ => Iff.rfl
  -- under any faults a failure keeps the cluster; with none planned no call fails
  have hany : Triple (fun v => v.cluster = w.cluster ∧ True) (call.op app)
      (fun a v => a = (call.onCell c).1 ∧ v.cluster = w.backupWritten ing c (call.onCell c).2)
      (fun v => v.cluster = w.cluster) :=
    call.op_cell (Fine.of_calm (hcalm.and fun _ _ _ => Iff.rfl) (fun _ hv => hv.1) hcalm) hs hkey hc
  have hquiet : Triple (fun v => v.cluster = w.cluster ∧ v.Quiet) (call.op app)
      (fun a v => a = (call.onCell c).1 ∧ v.cluster = w.backupWritten ing c (call.onCell c).2)
      (fun _ => False) :=
    call.op_cell (Fine.quiet hcalm) hs hkey hc
  refine ⟨fun a w' h => hany.returns ⟨rfl, trivial⟩ h, fun e w' h => ⟨hany.fails ⟨rfl, trivial⟩ h, ?_⟩⟩
  intro hq
  exact hquiet.fails ⟨rfl, hq⟩ h

/-! ## Runs of calls -/

/-- Calls on the backup of an app in turn, with changes of the world between them that leave the
backup as it is: the calls that returned, each with its answer, and the world at the end. A call
that failed answers nothing. -/
inductive BackupRun (app : App) : World → List (BackupCall × BackupAnswer) → World → Prop
  | done (w : World) : BackupRun app w [] w
  | answered {w w₁ w₂ : World} {log : List (BackupCall × BackupAnswer)} (call : BackupCall)
      (a : BackupAnswer) : exec (call.op app) w = (.ok a, w₁) → BackupRun app w₁ log w₂ →
      BackupRun app w ((call, a) :: log) w₂
  | failed {w w₁ w₂ : World} {log : List (BackupCall × BackupAnswer)} (call : BackupCall)
      (e : Failure) : exec (call.op app) w = (.error e, w₁) → BackupRun app w₁ log w₂ →
      BackupRun app w log w₂
  | other {w w₁ w₂ : World} {log : List (BackupCall × BackupAnswer)} :
      (∀ c, w.BackupHolds app.ingressKey c → w₁.BackupHolds app.ingressKey c) →
      BackupRun app w₁ log w₂ → BackupRun app w log w₂

/-- Along a run from a world whose backup holds `c`, the calls that returned answered as the cell
does when given the same calls from `c`, and the backup holds what the cell holds after them. -/
theorem BackupRun.refines {app : App} {w w' : World} {log : List (BackupCall × BackupAnswer)}
    (hrun : BackupRun app w log w') {c : Option BackupRecord} (hc : w.BackupHolds app.ingressKey c) :
    log.map Prod.snd = (BackupCall.runCell (log.map Prod.fst) c).1 ∧
      w'.BackupHolds app.ingressKey (BackupCall.runCell (log.map Prod.fst) c).2 := by
  induction hrun generalizing c with
  | done w => exact ⟨rfl, hc⟩
  | answered call a h _ ih =>
    -- the call answers as the cell, and the cell moves on to its new content
    obtain ⟨ing, hs, hkey, hcing⟩ := hc
    obtain ⟨ha, hcl⟩ := (call.op_refines hs hkey hcing).1 a _ h
    obtain ⟨hanswers, hholds⟩ := ih (World.BackupHolds.written hs hkey hcing hcl)
    simp only [List.map_cons, BackupCall.runCell]
    exact ⟨by rw [ha, hanswers], hholds⟩
  | failed call e h _ ih =>
    obtain ⟨ing, hs, hkey, hcing⟩ := hc
    exact ih (World.BackupHolds.of_cluster ⟨ing, hs, hkey, hcing⟩
      ((call.op_refines hs hkey hcing).2 e _ h).1)
  | other hkeep _ ih => exact ih (hkeep c hc)

/-- The backup of an app is a cell that is set only when empty. A record is written so that it
reads back as itself, whatever its strings hold. From a world that stores the app's ingress under
its own key with its backup holding `c`: a call that returns answers as the cell does, and writes
the ingress once, with the new content, exactly when the content changes; a call that fails
leaves the cluster as it was, and none fails when no fault is planned; and along any run of calls,
with changes that leave the backup as it is between them, the calls that returned answer as the
cell does when given them in turn. -/
theorem backup_refines_setOnce_cell (app : App) {w : World} {ing : Ingress}
    {c : Option BackupRecord} (hs : w.cluster.ingresses.get? app.ingressKey = some ing)
    (hkey : ing.metadata.key = app.ingressKey)
    (hc : ing.annotationValue? backupAnnotationKey = c.map BackupRecord.toText) :
    (∀ r : BackupRecord, BackupRecord.ofText r.toText = .ok r) ∧
    (∀ call : BackupCall,
      (∀ a w', exec (call.op app) w = (.ok a, w') →
        a = (call.onCell c).1 ∧ w'.cluster = w.backupWritten ing c (call.onCell c).2) ∧
      (∀ e w', exec (call.op app) w = (.error e, w') → w'.cluster = w.cluster ∧ ¬ w.Quiet)) ∧
    (∀ log w', BackupRun app w log w' →
      log.map Prod.snd = (BackupCall.runCell (log.map Prod.fst) c).1 ∧
        w'.BackupHolds app.ingressKey (BackupCall.runCell (log.map Prod.fst) c).2) :=
  ⟨BackupRecord.ofText_toText, fun call => call.op_refines hs hkey hc,
    fun _ _ hrun => hrun.refines ⟨ing, hs, hkey, hc⟩⟩

/-- The sample ingress carries no backup: its cell is empty, and the calls on it behave as the
cell's. -/
theorem sample_backup_cell :
    (portedWorld { name := some "http" }).cluster.ingresses.get?
        ({ ingress := { name := "web", ns := "shop" } } : App).ingressKey =
      some (portedIngress { name := some "http" }) ∧
    (portedIngress { name := some "http" }).metadata.key =
      ({ ingress := { name := "web", ns := "shop" } } : App).ingressKey ∧
    (portedIngress { name := some "http" }).annotationValue? backupAnnotationKey =
      (none : Option BackupRecord).map BackupRecord.toText ∧
    (∀ r : BackupRecord, BackupRecord.ofText r.toText = .ok r) ∧
    (∀ call : BackupCall,
      (∀ a w', exec (call.op { ingress := { name := "web", ns := "shop" } })
          (portedWorld { name := some "http" }) = (.ok a, w') →
        a = (call.onCell none).1 ∧
          w'.cluster = (portedWorld { name := some "http" }).backupWritten
            (portedIngress { name := some "http" }) none (call.onCell none).2) ∧
      (∀ e w', exec (call.op { ingress := { name := "web", ns := "shop" } })
          (portedWorld { name := some "http" }) = (.error e, w') →
        w'.cluster = (portedWorld { name := some "http" }).cluster ∧
          ¬ (portedWorld { name := some "http" }).Quiet)) ∧
    (∀ log w', BackupRun { ingress := { name := "web", ns := "shop" } }
        (portedWorld { name := some "http" }) log w' →
      log.map Prod.snd = (BackupCall.runCell (log.map Prod.fst) none).1 ∧
        w'.BackupHolds ({ ingress := { name := "web", ns := "shop" } } : App).ingressKey
          (BackupCall.runCell (log.map Prod.fst) none).2) := by
  have hs : (portedWorld { name := some "http" }).cluster.ingresses.get?
      ({ ingress := { name := "web", ns := "shop" } } : App).ingressKey =
      some (portedIngress { name := some "http" }) := rfl
  have hc : (portedIngress { name := some "http" }).annotationValue? backupAnnotationKey =
      (none : Option BackupRecord).map BackupRecord.toText := by
    change StringMap.get? [(backendAnnotationKey, "dex")] backupAnnotationKey = none
    decide
  exact ⟨hs, rfl, hc, backup_refines_setOnce_cell _ hs rfl hc⟩

end IngressGuard
