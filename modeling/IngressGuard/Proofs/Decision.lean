import IngressGuard.Proofs.IngressWrites
import IngressGuard.Proofs.Fixpoint

/-!
# What a reconciliation decides, and from what

A reconciliation decides what to do from the ingress it is handed, which may be a stale copy of
the stored one, and from nothing else: whether it names a backend (a non-empty backend
annotation), whether it is ready (the handled annotation, whatever its value), whether its
deletion was requested and whether it carries the security finalizer (anywhere in its list), and,
in between, whether it has the supported shape. These flags are stated here on the annotation
map, the finalizer list and the rules themselves, apart from the code that reads them.

The decision is a table (`reconcile_follows_flags`). An ingress asking for nothing is ignored, one
of another shape rejected and one being deleted without the finalizer found clean, each without a
call; past these every way makes a call, so no other run leaves the world as it was. A new
ingress is marked on the stored ingress read afresh, with one write exactly when a mark is
missing there, whatever the copy handed in carries. A ready one is secured and a released one
rolled back, each ending, whenever it returns, with the stored ingress marked or unmarked.
-/

namespace IngressGuard

open IngressGuard.Kube

/-! ## The flags of an ingress -/

namespace Kube.Ingress

/-- The ingress names an auth backend: its backend annotation is set to a non-empty value. -/
def NamesBackend (ing : Ingress) : Prop :=
  ∃ v, ing.annotationValue? backendAnnotationKey = some v ∧ v ≠ ""

/-- The ingress carries the handled annotation, whatever its value. -/
def Ready (ing : Ingress) : Prop :=
  ∃ v, ing.annotationValue? handledAnnotationKey = some v

/-- The deletion of the ingress was requested. -/
def DeleteRequested (ing : Ingress) : Prop :=
  ∃ t, ing.metadata.deletionTimestamp = some t

/-- The security finalizer is among the finalizers, wherever and however often it stands. -/
def Finalized (ing : Ingress) : Prop :=
  securityFinalizer ∈ ing.finalizerList

/-- Marked as handled: the handled annotation says `true` and the security finalizer is there. -/
def Marked (ing : Ingress) : Prop :=
  ing.annotationValue? handledAnnotationKey = some handledValue ∧ ing.Finalized

/-- Carrying neither mark. -/
def Unmarked (ing : Ingress) : Prop :=
  ¬ ing.Ready ∧ ¬ ing.Finalized

/-- The supported shape: exactly one rule, with exactly one HTTP path, backed by a service. -/
def Supported (ing : Ingress) : Prop :=
  ∃ r p s, ing.rules = [r] ∧ (r.http.map (·.paths)).getD [] = [p] ∧
    p.backend.service = some s

theorem wantsSecurity_iff {ing : Ingress} : ing.wantsSecurity = true ↔ ing.NamesBackend := by
  unfold wantsSecurity NamesBackend
  cases ing.annotationValue? backendAnnotationKey with
  | none => simp
  | some v => simp

theorem isHandled_iff {ing : Ingress} : ing.isHandled = true ↔ ing.Ready :=
  Option.isSome_iff_exists

theorem isDeleting_iff {ing : Ingress} : ing.isDeleting = true ↔ ing.DeleteRequested :=
  Option.isSome_iff_exists

theorem hasSecurityFinalizer_iff {ing : Ingress} :
    ing.hasSecurityFinalizer = true ↔ ing.Finalized := by
  simp [hasSecurityFinalizer, ObjectMeta.hasFinalizer, Finalized, finalizerList]

theorem isMarked_iff {ing : Ingress} : ing.isMarked = true ↔ ing.Marked := by
  simp [isMarked, Marked, hasSecurityFinalizer_iff]

theorem isUnmarked_iff {ing : Ingress} : ing.isUnmarked = true ↔ ing.Unmarked := by
  simp [isUnmarked, Unmarked, ← isHandled_iff, ← hasSecurityFinalizer_iff]

/-- The shape check passes exactly on the supported shape. -/
theorem validate_ok_iff {ing : Ingress} : ing.validate = .ok () ↔ ing.Supported := by
  rw [validate_eq_ok]
  constructor
  · rintro ⟨s, hs⟩
    obtain ⟨p, hp, hps⟩ := serviceBackend_eq_ok.1 hs
    obtain ⟨r, hr, hpaths⟩ := path_eq_ok.1 hp
    exact ⟨r, p, s, hr, hpaths, hps⟩
  · rintro ⟨r, p, s, hr, hpaths, hps⟩
    exact ⟨s, serviceBackend_eq_ok.2 ⟨p, path_eq_ok.2 ⟨r, hr, hpaths⟩, hps⟩⟩

instance (ing : Ingress) : Decidable ing.NamesBackend := decidable_of_iff _ wantsSecurity_iff
instance (ing : Ingress) : Decidable ing.Ready := decidable_of_iff _ isHandled_iff
instance (ing : Ingress) : Decidable ing.DeleteRequested := decidable_of_iff _ isDeleting_iff
instance (ing : Ingress) : Decidable ing.Finalized := decidable_of_iff _ hasSecurityFinalizer_iff
instance (ing : Ingress) : Decidable ing.Marked := decidable_of_iff _ isMarked_iff
instance (ing : Ingress) : Decidable ing.Unmarked := decidable_of_iff _ isUnmarked_iff
instance (ing : Ingress) : Decidable ing.Supported :=
  match h : ing.validate with
  | .ok () => isTrue (validate_ok_iff.1 h)
  | .error _ => isFalse fun hs => by rw [validate_ok_iff.2 hs] at h; cases h

/-- A handled annotation of any value makes the ingress ready, but only `true` marks it. -/
example : let ing : Ingress :=
      { metadata := { annotations := some [(handledAnnotationKey, "false")],
                      finalizers := some [securityFinalizer] } }
    ing.Ready ∧ ¬ ing.Marked := by
  decide

theorem isUnmarked_unmark (ing : Ingress) : ing.unmark.isUnmarked = true := by
  simp +decide [isUnmarked, isHandled, hasSecurityFinalizer_unmark]

end Kube.Ingress

/-! ## The decision, way by way -/

section Decision

variable {I : Ingress}

theorem reconcile_unasked (hw : I.wantsSecurity = false) (hh : I.isHandled = false) :
    reconcile I = pure .ignored := by
  unfold reconcile
  rw [if_pos (by simp [hw, hh])]

theorem exec_reconcile_invalid {e : InvalidIngress}
    (hact : I.wantsSecurity = true ∨ I.isHandled = true) (he : I.validate = .error e)
    (w : World) :
    exec (reconcile I) w = (.error ⟨.invalidIngress e, []⟩, w) := by
  unfold reconcile
  rw [if_neg (by cases hact <;> simp [*]), he]
  simp only [Op.ofShape]
  rw [exec_bind, exec_fail]

theorem reconcile_clean (hact : I.wantsSecurity = true ∨ I.isHandled = true)
    (hv : I.validate = .ok ()) (hdel : I.isDeleting = true)
    (hfin : I.hasSecurityFinalizer = false) :
    reconcile I = pure .clean := by
  unfold reconcile
  rw [if_neg (by cases hact <;> simp [*]), hv]
  simp only [Op.ofShape, pure_bind]
  rw [if_pos (by simp [hdel, hfin])]

theorem reconcile_new (hv : I.validate = .ok ()) (hw : I.wantsSecurity = true)
    (hdel : I.isDeleting = false) (hh : I.isHandled = false) :
    reconcile I = (do ensureMarked I.metadata.key; pure .markedReady) := by
  unfold reconcile
  rw [if_neg (by simp [hw]), hv]
  simp only [Op.ofShape, pure_bind]
  rw [if_neg (by simp [hdel]), if_pos (by simp [hw, hdel]), if_pos (by simp [hh])]

theorem reconcile_handled (hv : I.validate = .ok ()) (hw : I.wantsSecurity = true)
    (hdel : I.isDeleting = false) (hh : I.isHandled = true) : reconcile I = secureBranch I := by
  unfold reconcile
  rw [if_neg (by simp [hw]), hv]
  simp only [Op.ofShape, pure_bind]
  rw [if_neg (by simp [hdel]), if_pos (by simp [hw, hdel]), if_neg (by simp [hh])]
  rfl

theorem reconcile_released (hv : I.validate = .ok ())
    (hact : I.wantsSecurity = true ∨ I.isHandled = true)
    (hkeep : I.isDeleting = false ∨ I.hasSecurityFinalizer = true)
    (hrel : I.wantsSecurity = false ∨ I.isDeleting = true) : reconcile I = rollbackBranch I := by
  unfold reconcile
  rw [if_neg (by cases hact <;> simp [*]), hv]
  simp only [Op.ofShape, pure_bind]
  rw [if_neg (by cases hkeep <;> simp [*]), if_neg (by cases hrel <;> simp [*])]
  rfl

end Decision

/-! ## Every call is logged -/

/-- The log holds at least `n` calls. -/
def World.Logged (n : Nat) (w : World) : Prop :=
  n ≤ w.calls.length

section Logged

variable {α : Type} {n : Nat} {w : World}

theorem World.Logged.passCall (h : w.Logged n) (kind : CallKind) (subject : String) :
    (w.passCall kind subject).Logged (n + 1) := by
  simp only [World.Logged, World.calls_passCall, List.length_append, List.length_singleton]
  exact Nat.succ_le_succ h

theorem World.Logged.failCall (h : w.Logged n) (kind : CallKind) (subject : String) :
    (w.failCall kind subject).Logged (n + 1) := by
  simp only [World.Logged, World.calls_failCall, List.length_append, List.length_singleton]
  exact Nat.succ_le_succ h

/-- A change that keeps the log keeps what it holds. -/
theorem World.Logged.of_calls {w' : World} (h : w.Logged n) (he : w'.calls = w.calls) :
    w'.Logged n := by
  unfold World.Logged
  rw [he]
  exact h

theorem fine_logged (n : Nat) : Fine (World.Logged n) (World.Logged n) := fun kind subject =>
  ⟨fun _ hw => Nat.le_of_succ_le (hw.passCall kind subject),
    fun _ hw _ => Nat.le_of_succ_le (hw.failCall kind subject)⟩

/-- A call is logged, whether it goes through or a planned fault fails it. -/
theorem Triple.call_logged {work : Op α} {post : α → World → Prop} {kind : CallKind}
    {subject : String} (hwork : Triple (World.Logged (n + 1)) work post (World.Logged (n + 1))) :
    Triple (World.Logged n) (IngressGuard.call kind subject work) post (World.Logged (n + 1)) := by
  intro w hw
  rw [exec_call]
  split
  · exact hw.failCall kind subject
  · exact hwork _ (hw.passCall kind subject)

theorem getIngress_logged {k : ObjectKey} :
    Triple (World.Logged n) (getIngress k) (fun _ => World.Logged (n + 1))
      (World.Logged (n + 1)) := by
  refine Triple.call_logged fun w hw => ?_
  rw [exec_bind, exec_get]
  dsimp only
  cases w.cluster.ingresses.get? k <;> exact hw

theorem ensureMarked_logged {k : ObjectKey} :
    Triple (World.Logged n) (ensureMarked k) (fun _ => World.Logged (n + 1))
      (World.Logged (n + 1)) := by
  unfold ensureMarked
  refine Triple.bind getIngress_logged fun ing => ?_
  split
  · exact Triple.pure fun _ hw => hw
  · exact Triple.within _
      (updateIngress_triple (fine_logged _ _ _) (fun _ hw _ => hw) (fun _ hw _ => hw))

theorem getIngressAuth_logged {k : ObjectKey} :
    Triple (World.Logged n) (getIngressAuth k) (fun _ => World.Logged (n + 1))
      (World.Logged (n + 1)) :=
  Triple.call_logged fun _ hw => hw

/-- Past the shape check, working out the app reads the ingress's settings: one call. -/
theorem appOf_logged {I : Ingress} (hv : I.validate = .ok ()) :
    Triple (World.Logged n) (appOf I) (fun _ => World.Logged (n + 1)) (World.Logged (n + 1)) := by
  obtain ⟨s, hs⟩ := Ingress.validate_eq_ok.1 hv
  obtain ⟨h, hh⟩ := Ingress.host_eq_ok_of_serviceBackend hs
  unfold appOf
  rw [hs, hh]
  simp only [Op.ofShape, pure_bind]
  exact Triple.bind (Triple.within _ getIngressAuth_logged) fun _ =>
    Triple.pure fun _ hw => hw

theorem secureApp_logged (app : App) :
    Triple (World.Logged n) (secureApp app) (fun _ => World.Logged n) (World.Logged n) := by
  have hfine := fine_logged n
  unfold secureApp
  refine Triple.bind (Triple.within _ (getAuthBackend_keeps hfine fun _ hw => hw))
    fun backend => ?_
  refine Triple.bind (Triple.within _ (registererFor_keeps hfine (fun _ hw => hw)
    fun _ _ hw => hw.of_calls (by simp))) fun address => ?_
  refine Triple.bind (Triple.within _ (register_keeps hfine (fun _ hw => hw)
    (fun _ _ hw => hw) (fun _ hw => hw.of_calls (by simp)) (fun _ _ hw => hw.of_calls (by simp))))
    fun credentials => ?_
  refine Triple.bind (Triple.within _ (backupOrGet_keeps hfine (fun _ hw => hw)
    fun _ _ hw => hw)) fun backup => ?_
  refine Triple.bind (Triple.within _ (routeService_keeps hfine fun _ hw => hw)) fun route => ?_
  exact Triple.within _ (provision_triple hfine (fun _ hw => hw) (fun _ hw => hw) (fun _ hw => hw)
    ((swapBackend_keeps hfine (fun _ hw => hw) fun _ _ hw => hw).mono (fun _ hw => hw.1)
      (fun _ _ h => h) (fun _ h => h)))

theorem rollbackApp_logged (app : App) :
    Triple (World.Logged n) (rollbackApp app) (fun _ => World.Logged n) (World.Logged n) := by
  have hfine := fine_logged n
  unfold rollbackApp
  refine Triple.bind (Triple.within _ (getBackup_keeps hfine fun _ hw => hw)) fun backup => ?_
  cases backup with
  | none => exact Triple.fail fun _ hw => hw
  | some r =>
    refine Triple.bind (Triple.within _ (unprovision_triple
      (swapBackend_keeps hfine (fun _ hw => hw) fun _ _ hw => hw) hfine
      (fun _ hw => hw) (fun _ hw => hw) (fun _ hw => hw))) fun _ => ?_
    refine Triple.bind (Triple.within _ (getAuthBackend_keeps hfine fun _ hw => hw))
      fun backend => ?_
    refine Triple.bind (Triple.within _ (registererFor_keeps hfine (fun _ hw => hw)
      fun _ _ hw => hw.of_calls (by simp))) fun address => ?_
    refine Triple.bind (Triple.within _ (unregister_keeps hfine (fun _ hw => hw.of_calls (by simp))
      (fun _ hw => hw))) fun _ => ?_
    exact Triple.within _ (deleteBackup_keeps hfine (fun _ hw => hw) fun _ _ hw => hw)

theorem secureBranch_logged {I : Ingress} (hv : I.validate = .ok ()) :
    Triple (World.Logged n) (secureBranch I) (fun o w => o = .secured ∧ w.Logged (n + 1))
      (World.Logged (n + 1)) := by
  have hfine := fine_logged (n + 1)
  unfold secureBranch
  refine Triple.bind (appOf_logged hv) fun app => ?_
  refine Triple.bind (Triple.within _ (secureApp_logged app)) fun _ => ?_
  exact Triple.bind (ensureMarked_keeps hfine (fun _ hw => hw) fun _ _ hw => hw) fun _ =>
    Triple.pure fun _ hw => ⟨rfl, hw⟩

theorem rollbackBranch_logged {I : Ingress} (hv : I.validate = .ok ()) :
    Triple (World.Logged n) (rollbackBranch I) (fun o w => o = .rolledBack ∧ w.Logged (n + 1))
      (World.Logged (n + 1)) := by
  have hfine := fine_logged (n + 1)
  unfold rollbackBranch
  refine Triple.bind (appOf_logged hv) fun app => ?_
  refine Triple.bind (Triple.within _ (rollbackApp_logged app)) fun _ => ?_
  exact Triple.bind (ensureUnmarked_keeps hfine (fun _ hw => hw) fun _ _ hw => hw) fun _ =>
    Triple.pure fun _ hw => ⟨rfl, hw⟩

/-- Past the shape check, a reconciliation finds the ingress clean, or makes a call. -/
theorem reconcile_logs_unless_clean {I : Ingress} (n : Nat) (hv : I.validate = .ok ())
    (hact : I.wantsSecurity = true ∨ I.isHandled = true) :
    Triple (World.Logged n) (reconcile I)
      (fun o w => (o = .clean ∧ I.isDeleting = true ∧ I.hasSecurityFinalizer = false) ∨
        (o ≠ .clean ∧ w.Logged (n + 1)))
      (World.Logged (n + 1)) := by
  refine reconcile_triple ?ignored ?invalid ?clean ?mark ?secure ?rollback
  case ignored =>
    intro hw hh
    rw [hw, hh] at hact
    cases hact <;> contradiction
  case invalid =>
    intro e he
    rw [hv] at he
    cases he
  case clean => exact fun _ hdel hfin _ _ => .inl ⟨rfl, hdel, hfin⟩
  -- every other way makes a call before it returns
  case mark =>
    exact fun _ _ _ _ => ensureMarked_logged.mono (fun _ hw => hw)
      (fun _ _ hw => .inr ⟨by decide, hw⟩) (fun _ hw => hw)
  case secure =>
    exact fun _ _ _ _ => (secureBranch_logged hv).mono (fun _ hw => hw)
      (fun _ _ hw => .inr ⟨by rw [hw.1]; decide, hw.2⟩) (fun _ hw => hw)
  case rollback =>
    exact fun _ _ _ _ => (rollbackBranch_logged hv).mono (fun _ hw => hw)
      (fun _ _ hw => .inr ⟨by rw [hw.1]; decide, hw.2⟩) (fun _ hw => hw)

end Logged

/-! ## The marks left on the stored ingress -/

section Marks

variable {w₀ : World}

theorem ensureMarked_marks (k : ObjectKey) :
    Triple (·.MovedFrom w₀) (ensureMarked k)
      (fun _ w => ∃ S, w.cluster.ingresses.get? k = some S ∧ S.Marked) (fun _ => True) :=
  ensureMarked_triple (Fine.free (calm_movedFrom w₀)) (fun _ _ _ => trivial)
    (fun _ ing _ hk hm => ⟨ing, hk, Ingress.isMarked_iff.1 hm⟩)
    (fun _ ing hw hk _ _ => ⟨ing.mark,
      by rw [World.get?_withIngress, Ingress.key_mark, hw.wellKeyed _ _ hk, if_pos rfl],
      Ingress.isMarked_iff.1 (Ingress.isMarked_mark ing)⟩)
    (fun _ _ _ _ _ => trivial)

theorem ensureUnmarked_unmarks (k : ObjectKey) :
    Triple (·.MovedFrom w₀) (ensureUnmarked k)
      (fun _ w => ∃ S, w.cluster.ingresses.get? k = some S ∧ S.Unmarked) (fun _ => True) :=
  ensureUnmarked_triple (Fine.free (calm_movedFrom w₀)) (fun _ _ _ => trivial)
    (fun _ ing _ hk hu => ⟨ing, hk, Ingress.isUnmarked_iff.1 hu⟩)
    (fun _ ing hw hk _ _ => ⟨ing.unmark,
      by rw [World.get?_withIngress, Ingress.key_unmark, hw.wellKeyed _ _ hk, if_pos rfl],
      Ingress.isUnmarked_iff.1 (Ingress.isUnmarked_unmark ing)⟩)
    (fun _ _ _ _ _ => trivial)

/-- Securing, whenever it returns, leaves the stored ingress marked. -/
theorem secureBranch_marks {I : Ingress} (hv : I.validate = .ok ()) :
    Triple (·.MovedFrom w₀) (secureBranch I)
      (fun o w => o = .secured ∧
        ∃ S, w.cluster.ingresses.get? I.metadata.key = some S ∧ S.Marked)
      (fun _ => True) := by
  unfold secureBranch
  refine Triple.bind (appOf_keeps (Fine.free (calm_movedFrom w₀)) hv) fun app => ?_
  refine Triple.bind (Triple.within _ ((secureApp_moves app).mono (fun _ hw => hw)
    (fun _ _ hw => hw) (fun _ _ => trivial))) fun _ => ?_
  exact Triple.bind (ensureMarked_marks _) fun _ => Triple.pure fun _ hw => ⟨rfl, hw⟩

/-- Rolling back, whenever it returns, leaves the stored ingress unmarked. -/
theorem rollbackBranch_unmarks {I : Ingress} (hv : I.validate = .ok ()) :
    Triple (·.MovedFrom w₀) (rollbackBranch I)
      (fun o w => o = .rolledBack ∧
        ∃ S, w.cluster.ingresses.get? I.metadata.key = some S ∧ S.Unmarked)
      (fun _ => True) := by
  unfold rollbackBranch
  refine Triple.bind (appOf_keeps (Fine.free (calm_movedFrom w₀)) hv) fun app => ?_
  refine Triple.bind (Triple.within _ ((rollbackApp_moves app).mono (fun _ hw => hw)
    (fun _ _ hw => hw) (fun _ _ => trivial))) fun _ => ?_
  exact Triple.bind (ensureUnmarked_unmarks _) fun _ => Triple.pure fun _ hw => ⟨rfl, hw⟩

/-- With no fault planned, marking reads the stored ingress and writes it back marked, unless it
is marked already. -/
theorem exec_ensureMarked_stored {w : World} {k : ObjectKey} {S : Ingress} (hq : w.Quiet)
    (hs : w.cluster.ingresses.get? k = some S) (hkey : S.metadata.key = k) :
    exec (ensureMarked k) w =
      (.ok (), if S.isMarked then w.passCall .getIngress k.text
        else ((w.passCall .getIngress k.text).passCall .updateIngress k.text).withIngress S.mark) :=
    by
  have hc : (w.passCall .getIngress k.text).cluster.ingresses.contains S.mark.metadata.key := by
    rw [World.cluster_passCall, Ingress.key_mark, hkey, Store.contains_eq_isSome, hs]
    rfl
  rw [ensureMarked, exec_bind, exec_getIngress_stored hq hs]
  dsimp only
  cases hm : S.isMarked with
  | true => rw [if_pos rfl, if_pos rfl, exec_pure]
  | false =>
    rw [if_neg Bool.false_ne_true, if_neg Bool.false_ne_true, exec_within,
      exec_updateIngress_stored (hq.passCall _ _) hc, Ingress.key_mark, hkey]

end Marks

/-! ## The decision table -/

section Table

variable {I : Ingress} {w : World}

/-- An ingress that names a backend or is ready is of one of the two kinds the reconciliation
acts on. -/
theorem asks_of_flags (hact : I.NamesBackend ∨ I.Ready) :
    I.wantsSecurity = true ∨ I.isHandled = true := by
  rwa [Ingress.wantsSecurity_iff, Ingress.isHandled_iff]

/-- Past the shape check, a reconciliation that leaves the world as it found it has found the
ingress clean: every other way makes a call. -/
theorem reconcile_unchanged (hv : I.validate = .ok ())
    (hact : I.wantsSecurity = true ∨ I.isHandled = true) {r : Except Failure Outcome}
    (h : exec (reconcile I) w = (r, w)) :
    r = .ok .clean ∧ I.isDeleting = true ∧ I.hasSecurityFinalizer = false := by
  have hrun := reconcile_logs_unless_clean w.calls.length hv hact w (Nat.le_refl _)
  rw [h] at hrun
  cases r with
  | error f => exact absurd hrun (Nat.not_succ_le_self _)
  | ok o =>
    rcases hrun with ⟨rfl, hdel, hfin⟩ | ⟨-, hlog⟩
    · exact ⟨rfl, hdel, hfin⟩
    · exact absurd hlog (Nat.not_succ_le_self _)

/-- An ingress is ignored, with no call, exactly when it neither names a backend nor is ready. -/
theorem reconcile_ignores_iff :
    exec (reconcile I) w = (.ok .ignored, w) ↔ ¬ I.NamesBackend ∧ ¬ I.Ready := by
  constructor
  · intro h
    rw [← not_or]
    intro hasks
    have hact := asks_of_flags hasks
    cases hv : I.validate with
    | error e =>
      rw [exec_reconcile_invalid hact hv] at h
      cases h
    | ok u => cases (reconcile_unchanged hv hact h).1
  · rintro ⟨hnames, hready⟩
    rw [reconcile_unasked (by rwa [← Bool.not_eq_true, Ingress.wantsSecurity_iff])
      (by rwa [← Bool.not_eq_true, Ingress.isHandled_iff]), exec_pure]

/-- Of the ingresses that ask for something, those of another shape are rejected as invalid with
no call, and only those. -/
theorem reconcile_rejects_iff (hact : I.NamesBackend ∨ I.Ready) :
    (∃ f, exec (reconcile I) w = (.error f, w) ∧ f.classOf = .invalidIngress) ↔
      ¬ I.Supported := by
  rw [← Ingress.validate_ok_iff]
  constructor
  · rintro ⟨f, h, -⟩ hv
    cases (reconcile_unchanged hv (asks_of_flags hact) h).1
  · intro hv
    cases he : I.validate with
    | error e => exact ⟨_, exec_reconcile_invalid (asks_of_flags hact) he w, rfl⟩
    | ok u => exact absurd he hv

/-- Of those of the supported shape, those being deleted without the finalizer are clean with no
call, and only those. -/
theorem reconcile_clean_iff (hact : I.NamesBackend ∨ I.Ready) (hsup : I.Supported) :
    exec (reconcile I) w = (.ok .clean, w) ↔ I.DeleteRequested ∧ ¬ I.Finalized := by
  have hv := Ingress.validate_ok_iff.2 hsup
  rw [← Ingress.isDeleting_iff, ← Ingress.hasSecurityFinalizer_iff, Bool.not_eq_true]
  constructor
  · intro h
    exact (reconcile_unchanged hv (asks_of_flags hact) h).2
  · rintro ⟨hdel, hfin⟩
    rw [reconcile_clean (asks_of_flags hact) hv hdel hfin, exec_pure]

/-- A new ingress asking to be secured is marked, on the stored ingress read afresh and however
the ingress handed in is marked: one read, and one write exactly when the stored ingress lacks a
mark. -/
theorem reconcile_marks_stored {S : Ingress} (hkeyed : w.cluster.WellKeyed)
    (hS : w.cluster.ingresses.get? I.metadata.key = some S) (hq : w.Quiet)
    (hnames : I.NamesBackend) (hdel : ¬ I.DeleteRequested) (hready : ¬ I.Ready)
    (hsup : I.Supported) :
    ∃ w', exec (reconcile I) w = (.ok .markedReady, w') ∧
      w'.cluster = (if S.Marked then w.cluster else (w.withIngress S.mark).cluster) ∧
      w'.cluster.ingresses.get? I.metadata.key = some S.marked ∧ S.marked.Marked ∧
      w'.cluster.writes.ingresses = w.cluster.writes.ingresses + (if S.Marked then 0 else 1) ∧
      w'.calls = w.calls ++ (("get_ingress " ++ I.metadata.key.text) ::
        if S.Marked then [] else ["update_ingress " ++ I.metadata.key.text]) := by
  have hkey : S.metadata.key = I.metadata.key := hkeyed _ _ hS
  rw [reconcile_new (Ingress.validate_ok_iff.2 hsup) (Ingress.wantsSecurity_iff.2 hnames)
    (by rwa [← Bool.not_eq_true, Ingress.isDeleting_iff])
    (by rwa [← Bool.not_eq_true, Ingress.isHandled_iff]), exec_bind,
    exec_ensureMarked_stored hq hS hkey]
  refine ⟨_, rfl, ?_⟩
  have hmarked := Ingress.isMarked_iff.1 (Ingress.isMarked_marked S)
  by_cases hm : S.Marked
  · have hself : S.marked = S := by rw [Ingress.marked, if_pos (Ingress.isMarked_iff.2 hm)]
    rw [if_pos (Ingress.isMarked_iff.2 hm), if_pos hm, if_pos hm, if_pos hm]
    refine ⟨rfl, by rw [World.cluster_passCall, hS, hself], hmarked, rfl, ?_⟩
    simp only [World.calls_passCall]
    rfl
  · have hm' : S.isMarked = false := by rwa [← Bool.not_eq_true, Ingress.isMarked_iff]
    have hself : S.marked = S.mark := by rw [Ingress.marked, if_neg (by rw [hm']; decide)]
    rw [if_neg (by rw [hm']; decide), if_neg hm, if_neg hm, if_neg hm]
    refine ⟨rfl, by rw [World.get?_withIngress, Ingress.key_mark, hkey, if_pos rfl, hself],
      hmarked, rfl, ?_⟩
    simp only [World.calls_withIngress, World.calls_passCall, List.append_assoc]
    rfl

/-- A ready ingress asking to be secured is secured: the reconciliation is the securing saga on
the app the ingress describes, and whenever it returns the stored ingress is marked. -/
theorem reconcile_secures_ready (hkeyed : w.cluster.WellKeyed) (hnames : I.NamesBackend)
    (hdel : ¬ I.DeleteRequested) (hready : I.Ready) (hsup : I.Supported) :
    reconcile I = secureBranch I ∧ ∀ o w', exec (reconcile I) w = (.ok o, w') →
      o = .secured ∧ ∃ S, w'.cluster.ingresses.get? I.metadata.key = some S ∧ S.Marked := by
  have hv := Ingress.validate_ok_iff.2 hsup
  have heq := reconcile_handled hv (Ingress.wantsSecurity_iff.2 hnames)
    (by rwa [← Bool.not_eq_true, Ingress.isDeleting_iff]) (Ingress.isHandled_iff.2 hready)
  refine ⟨heq, fun o w' h => ?_⟩
  have hstart : w.MovedFrom w := ⟨.refl, hkeyed⟩
  rw [heq] at h
  exact (secureBranch_marks hv).returns hstart h

/-- Every other ingress that asks for something, is of the supported shape and is not clean is
rolled back, and whenever that returns the stored ingress carries neither mark. -/
theorem reconcile_rollsBack_released (hkeyed : w.cluster.WellKeyed)
    (hact : I.NamesBackend ∨ I.Ready) (hsup : I.Supported)
    (hdirty : ¬ (I.DeleteRequested ∧ ¬ I.Finalized))
    (hrel : ¬ I.NamesBackend ∨ I.DeleteRequested) :
    reconcile I = rollbackBranch I ∧ ∀ o w', exec (reconcile I) w = (.ok o, w') →
      o = .rolledBack ∧
        ∃ S, w'.cluster.ingresses.get? I.metadata.key = some S ∧ S.Unmarked := by
  have hv := Ingress.validate_ok_iff.2 hsup
  have hkeep : I.isDeleting = false ∨ I.hasSecurityFinalizer = true := by
    rw [← Ingress.isDeleting_iff, ← Ingress.hasSecurityFinalizer_iff, not_and,
      Classical.not_not] at hdirty
    cases hd : I.isDeleting with
    | false => exact .inl rfl
    | true => exact .inr (hdirty hd)
  have hrel' : I.wantsSecurity = false ∨ I.isDeleting = true := by
    rwa [← Bool.not_eq_true, Ingress.wantsSecurity_iff, Ingress.isDeleting_iff]
  have heq := reconcile_released hv (asks_of_flags hact) hkeep hrel'
  refine ⟨heq, fun o w' h => ?_⟩
  have hstart : w.MovedFrom w := ⟨.refl, hkeyed⟩
  rw [heq] at h
  exact (rollbackBranch_unmarks hv).returns hstart h

/-- What a reconciliation does is decided by the ingress it is handed, and the marks it leaves are
read off the stored ingress. In a store that keeps every ingress under its own key, with `S`
stored under the key of `I`:

* `I` is ignored with no call exactly when it neither names a backend nor is ready;
* otherwise it is rejected as invalid with no call exactly when it is not of the supported shape;
* otherwise it is found clean with no call exactly when its deletion was requested and it lacks
  the finalizer;
* a new `I` asking to be secured is marked: with no fault planned the stored ingress ends as `S`
  marked, written once exactly when `S` was not marked, with no call but the read and that write;
* a ready `I` asking to be secured runs the securing saga on its app, and every other `I` the
  rollback; whenever these return, the stored ingress is marked, or unmarked. -/
theorem reconcile_follows_flags {w : World} {I S : Ingress} (hkeyed : w.cluster.WellKeyed)
    (hS : w.cluster.ingresses.get? I.metadata.key = some S) :
    (exec (reconcile I) w = (.ok .ignored, w) ↔ ¬ I.NamesBackend ∧ ¬ I.Ready) ∧
    (I.NamesBackend ∨ I.Ready →
      ((∃ f, exec (reconcile I) w = (.error f, w) ∧ f.classOf = .invalidIngress) ↔
        ¬ I.Supported)) ∧
    (I.NamesBackend ∨ I.Ready → I.Supported →
      (exec (reconcile I) w = (.ok .clean, w) ↔ I.DeleteRequested ∧ ¬ I.Finalized)) ∧
    (w.Quiet → I.NamesBackend → ¬ I.DeleteRequested → ¬ I.Ready → I.Supported →
      ∃ w', exec (reconcile I) w = (.ok .markedReady, w') ∧
        w'.cluster = (if S.Marked then w.cluster else (w.withIngress S.mark).cluster) ∧
        w'.cluster.ingresses.get? I.metadata.key = some S.marked ∧ S.marked.Marked ∧
        w'.cluster.writes.ingresses = w.cluster.writes.ingresses + (if S.Marked then 0 else 1) ∧
        w'.calls = w.calls ++ (("get_ingress " ++ I.metadata.key.text) ::
          if S.Marked then [] else ["update_ingress " ++ I.metadata.key.text])) ∧
    (I.NamesBackend → ¬ I.DeleteRequested → I.Ready → I.Supported →
      reconcile I = secureBranch I ∧ ∀ o w', exec (reconcile I) w = (.ok o, w') →
        o = .secured ∧
          ∃ S', w'.cluster.ingresses.get? I.metadata.key = some S' ∧ S'.Marked) ∧
    (I.NamesBackend ∨ I.Ready → I.Supported → ¬ (I.DeleteRequested ∧ ¬ I.Finalized) →
      ¬ I.NamesBackend ∨ I.DeleteRequested →
      reconcile I = rollbackBranch I ∧ ∀ o w', exec (reconcile I) w = (.ok o, w') →
        o = .rolledBack ∧
          ∃ S', w'.cluster.ingresses.get? I.metadata.key = some S' ∧ S'.Unmarked) :=
  ⟨reconcile_ignores_iff, reconcile_rejects_iff, reconcile_clean_iff,
    reconcile_marks_stored hkeyed hS, reconcile_secures_ready hkeyed,
    reconcile_rollsBack_released hkeyed⟩

/-- The sample world keeps its one ingress under its own key, and the table applies to it. -/
theorem sample_reconcile_follows_flags :
    (portedWorld { name := some "http" }).cluster.WellKeyed ∧
    (portedWorld { name := some "http" }).cluster.ingresses.get?
      (portedIngress { name := some "http" }).metadata.key = some (portedIngress { name := some "http" }) ∧
    (exec (reconcile (portedIngress { name := some "http" })) (portedWorld { name := some "http" }) =
        (.ok .ignored, (portedWorld { name := some "http" })) ↔
      ¬ (portedIngress { name := some "http" }).NamesBackend ∧
        ¬ (portedIngress { name := some "http" }).Ready) ∧
    ((portedIngress { name := some "http" }).NamesBackend ∨
        (portedIngress { name := some "http" }).Ready →
      ((∃ f, exec (reconcile (portedIngress { name := some "http" }))
            (portedWorld { name := some "http" }) = (.error f, (portedWorld { name := some "http" })) ∧
          f.classOf = .invalidIngress) ↔
        ¬ (portedIngress { name := some "http" }).Supported)) ∧
    ((portedIngress { name := some "http" }).NamesBackend ∨
        (portedIngress { name := some "http" }).Ready →
      (portedIngress { name := some "http" }).Supported →
      (exec (reconcile (portedIngress { name := some "http" })) (portedWorld { name := some "http" }) =
          (.ok .clean, (portedWorld { name := some "http" })) ↔
        (portedIngress { name := some "http" }).DeleteRequested ∧
          ¬ (portedIngress { name := some "http" }).Finalized)) ∧
    ((portedWorld { name := some "http" }).Quiet →
      (portedIngress { name := some "http" }).NamesBackend →
      ¬ (portedIngress { name := some "http" }).DeleteRequested →
      ¬ (portedIngress { name := some "http" }).Ready →
      (portedIngress { name := some "http" }).Supported →
      ∃ w', exec (reconcile (portedIngress { name := some "http" })) (portedWorld { name := some "http" }) =
          (.ok .markedReady, w') ∧
        w'.cluster = (if (portedIngress { name := some "http" }).Marked then
            (portedWorld { name := some "http" }).cluster
          else ((portedWorld { name := some "http" }).withIngress
            (portedIngress { name := some "http" }).mark).cluster) ∧
        w'.cluster.ingresses.get? (portedIngress { name := some "http" }).metadata.key =
          some (portedIngress { name := some "http" }).marked ∧
        (portedIngress { name := some "http" }).marked.Marked ∧
        w'.cluster.writes.ingresses =
          (portedWorld { name := some "http" }).cluster.writes.ingresses +
            (if (portedIngress { name := some "http" }).Marked then 0 else 1) ∧
        w'.calls = (portedWorld { name := some "http" }).calls ++
          (("get_ingress " ++ (portedIngress { name := some "http" }).metadata.key.text) ::
            if (portedIngress { name := some "http" }).Marked then []
            else ["update_ingress " ++ (portedIngress { name := some "http" }).metadata.key.text])) ∧
    ((portedIngress { name := some "http" }).NamesBackend →
      ¬ (portedIngress { name := some "http" }).DeleteRequested →
      (portedIngress { name := some "http" }).Ready →
      (portedIngress { name := some "http" }).Supported →
      reconcile (portedIngress { name := some "http" }) = secureBranch (portedIngress { name := some "http" }) ∧
        ∀ o w', exec (reconcile (portedIngress { name := some "http" })) (portedWorld { name := some "http" }) = (.ok o, w') →
          o = .secured ∧
            ∃ S', w'.cluster.ingresses.get? (portedIngress { name := some "http" }).metadata.key = some S' ∧
              S'.Marked) ∧
    ((portedIngress { name := some "http" }).NamesBackend ∨
        (portedIngress { name := some "http" }).Ready →
      (portedIngress { name := some "http" }).Supported →
      ¬ ((portedIngress { name := some "http" }).DeleteRequested ∧
        ¬ (portedIngress { name := some "http" }).Finalized) →
      ¬ (portedIngress { name := some "http" }).NamesBackend ∨
        (portedIngress { name := some "http" }).DeleteRequested →
      reconcile (portedIngress { name := some "http" }) = rollbackBranch (portedIngress { name := some "http" }) ∧
        ∀ o w', exec (reconcile (portedIngress { name := some "http" })) (portedWorld { name := some "http" }) = (.ok o, w') →
          o = .rolledBack ∧
            ∃ S', w'.cluster.ingresses.get? (portedIngress { name := some "http" }).metadata.key = some S' ∧
              S'.Unmarked) := by
  have hkeyed := (portedWorld_marksAgree { name := some "http" }).wellKeyed
  exact ⟨hkeyed, rfl, reconcile_follows_flags hkeyed rfl⟩

end Table

end IngressGuard
