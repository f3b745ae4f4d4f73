import IngressGuard.Reconcile

/-!
# Triples over world operations

An operation runs from a world to an outcome and the world it leaves; a failure keeps whatever the
steps before it changed. `Triple pre x post err` says that from every world in `pre` the
operation `x` either returns `a` in a world in `post a` or fails in a world in `err`. The rules
below take a triple apart along the operation's own structure (`pure`, `bind`, the step names of
`within`, reads and updates of the world), so that a proof about a saga follows the saga's text.

A call first consults the planned faults. It either goes through, after which only the log and
the plan have moved (`World.passCall`), or it is failed before it touches anything
(`World.failCall`). A condition that ignores log and plan (`Calm`) is thus kept by every call
that is failed, and a world with no failing fault planned (`World.Quiet`) lets every call through
and stays so.
-/

namespace IngressGuard

section Exec

variable {ε σ α β : Type}

/-- Runs a computation that may fail over a state: its outcome and the state it leaves. -/
def exec (x : ExceptT ε (StateM σ) α) (s : σ) : Except ε α × σ :=
  x.run.run s

theorem exec_pure (a : α) (s : σ) : exec (pure a : ExceptT ε (StateM σ) α) s = (.ok a, s) := rfl

theorem exec_throw (e : ε) (s : σ) : exec (throw e : ExceptT ε (StateM σ) α) s = (.error e, s) :=
  rfl

theorem exec_get (s : σ) : exec (get : ExceptT ε (StateM σ) σ) s = (.ok s, s) := rfl

theorem exec_set (s s' : σ) : exec (set s' : ExceptT ε (StateM σ) Unit) s = (.ok (), s') := rfl

theorem exec_modify (f : σ → σ) (s : σ) :
    exec (modify f : ExceptT ε (StateM σ) Unit) s = (.ok (), f s) := rfl

theorem exec_bind (x : ExceptT ε (StateM σ) α) (f : α → ExceptT ε (StateM σ) β) (s : σ) :
    exec (x >>= f) s = match exec x s with
      | (.ok a, s') => exec (f a) s'
      | (.error e, s') => (.error e, s') := by
  simp only [exec, ExceptT.run_bind, StateT.run_bind]
  rcases h : x.run.run s with ⟨_ | a, s'⟩ <;> rfl

theorem exec_map (f : α → β) (x : ExceptT ε (StateM σ) α) (s : σ) :
    exec (f <$> x) s = match exec x s with
      | (.ok a, s') => (.ok (f a), s')
      | (.error e, s') => (.error e, s') := by
  simp only [exec, ExceptT.run_map, StateT.run_map]
  rcases x.run.run s with ⟨_ | a, s'⟩ <;> rfl

theorem exec_tryCatch (x : ExceptT ε (StateM σ) α) (handler : ε → ExceptT ε (StateM σ) α) (s : σ) :
    exec (tryCatch x handler) s = match exec x s with
      | (.ok a, s') => (.ok a, s')
      | (.error e, s') => exec (handler e) s' := by
  show (ExceptT.tryCatch x handler).run.run s = _
  unfold exec
  rcases h : x.run.run s with ⟨_ | a, s'⟩ <;>
  · simp only [ExceptT.tryCatch, ExceptT.run_mk, StateT.run_bind]
    erw [h]
    rfl

end Exec

theorem exec_fail {α : Type} (cause : Cause) (w : World) :
    exec (Op.fail cause : Op α) w = (.error ⟨cause, []⟩, w) := rfl

theorem exec_within {α : Type} (step : String) (x : Op α) (w : World) :
    exec (Op.within step x) w = match exec x w with
      | (.ok a, w') => (.ok a, w')
      | (.error f, w') => (.error { f with steps := step :: f.steps }, w') := by
  rw [Op.within, exec_tryCatch]
  rcases exec x w with ⟨_ | a, w'⟩ <;> rfl

/-! ## Calls -/

namespace World

/-- The next call of a kind is failed by a planned fault. -/
def Blocked (w : World) (kind : CallKind) : Prop :=
  (planFor w.faults kind).skip = 0 ∧ 0 < (planFor w.faults kind).times

/-- The world after a call that goes through: logged, and one planned pass used up. -/
def passCall (w : World) (kind : CallKind) (subject : String) : World :=
  let plan := planFor w.faults kind
  { w with
    faults := if 0 < plan.skip then setPlan w.faults kind { plan with skip := plan.skip - 1 }
      else w.faults
    calls := w.calls ++ [kind.name ++ " " ++ subject] }

@[simp] theorem cluster_passCall (w : World) (kind : CallKind) (subject : String) :
    (w.passCall kind subject).cluster = w.cluster := rfl

@[simp] theorem calls_passCall (w : World) (kind : CallKind) (subject : String) :
    (w.passCall kind subject).calls = w.calls ++ [kind.name ++ " " ++ subject] := rfl

/-- The world after a call that a planned fault fails: logged, and one planned failure used up. -/
def failCall (w : World) (kind : CallKind) (subject : String) : World :=
  let plan := planFor w.faults kind
  { w with
    faults := setPlan w.faults kind { plan with times := plan.times - 1 }
    calls := w.calls ++ [kind.name ++ " " ++ subject ++ " (injected failure)"] }

@[simp] theorem calls_failCall (w : World) (kind : CallKind) (subject : String) :
    (w.failCall kind subject).calls = w.calls ++ [kind.name ++ " " ++ subject ++ " (injected failure)"] :=
  rfl

instance (w : World) (kind : CallKind) : Decidable (w.Blocked kind) :=
  inferInstanceAs (Decidable (_ ∧ _))

/-- No planned fault fails a call. -/
def Quiet (w : World) : Prop :=
  ∀ p ∈ w.faults, p.2.times = 0

theorem Quiet.planFor_times {w : World} (hq : w.Quiet) (kind : CallKind) :
    (planFor w.faults kind).times = 0 := by
  unfold planFor
  cases h : w.faults.lookup kind with
  | none => rfl
  | some plan =>
    obtain ⟨l₁, l₂, hl, -⟩ := List.lookup_eq_some_iff.1 h
    exact hq (kind, plan) (by simp [hl])

theorem Quiet.not_blocked {w : World} (hq : w.Quiet) (kind : CallKind) : ¬ w.Blocked kind := by
  intro hb
  have := hq.planFor_times kind
  exact absurd hb.2 (by omega)

theorem Quiet.passCall {w : World} (hq : w.Quiet) (kind : CallKind) (subject : String) :
    (w.passCall kind subject).Quiet := by
  intro p hp
  simp only [World.passCall] at hp
  split at hp
  · simp only [setPlan, List.mem_cons, List.mem_filter] at hp
    rcases hp with rfl | ⟨hp, -⟩
    · exact hq.planFor_times kind
    · exact hq p hp
  · exact hq p hp

end World

/-- A condition that ignores the log and the planned faults. -/
def Calm (P : World → Prop) : Prop :=
  ∀ w faults calls, P { w with faults, calls } ↔ P w

theorem Calm.passCall {P : World → Prop} (hP : Calm P) {w : World} (kind : CallKind)
    (subject : String) : P (w.passCall kind subject) ↔ P w :=
  hP w _ _

theorem Calm.failCall {P : World → Prop} (hP : Calm P) {w : World} (kind : CallKind)
    (subject : String) : P (w.failCall kind subject) ↔ P w :=
  hP w _ _

theorem Calm.and {P Q : World → Prop} (hP : Calm P) (hQ : Calm Q) : Calm fun w => P w ∧ Q w :=
  fun w faults calls => and_congr (hP w faults calls) (hQ w faults calls)

theorem exec_call {α : Type} (kind : CallKind) (subject : String) (work : Op α) (w : World) :
    exec (call kind subject work) w =
      if w.Blocked kind then (.error ⟨.injected kind, []⟩, w.failCall kind subject)
      else exec work (w.passCall kind subject) := by
  rw [call, exec_bind, exec_get]
  unfold World.Blocked World.passCall World.failCall
  by_cases hs : 0 < (planFor w.faults kind).skip
  · simp only [hs, if_true, Nat.ne_of_gt hs, false_and, if_false, exec_bind, exec_set]
  · by_cases ht : 0 < (planFor w.faults kind).times
    · simp only [ht, if_true, Nat.eq_zero_of_not_pos hs, Nat.lt_irrefl, if_false, and_self,
        exec_bind, exec_set, exec_fail]
    · simp only [hs, ht, if_false, and_false, exec_bind, exec_set]

/-- What a call needs of its surroundings: the condition survives the call going through, and a
call failed by a planned fault ends in the failure condition. -/
def CallFine (pre err : World → Prop) (kind : CallKind) (subject : String) : Prop :=
  (∀ w, pre w → pre (w.passCall kind subject)) ∧
    ∀ w, pre w → w.Blocked kind → err (w.failCall kind subject)

/-! ## Triples -/

/-- Where a run ends: a result in `post`, or a failure in a world in `err`. -/
def Ends {α : Type} (post : α → World → Prop) (err : World → Prop) :
    Except Failure α × World → Prop
  | (.ok a, w) => post a w
  | (.error _, w) => err w

/-- From every world in `pre`, `x` returns `a` in a world in `post a` or fails in one in `err`. -/
def Triple {α : Type} (pre : World → Prop) (x : Op α) (post : α → World → Prop)
    (err : World → Prop) : Prop :=
  ∀ w, pre w → Ends post err (exec x w)

namespace Triple

variable {α β : Type} {pre pre' : World → Prop} {post post' : α → World → Prop}
  {err err' : World → Prop}

theorem mono {x : Op α} (h : Triple pre x post err) (hpre : ∀ w, pre' w → pre w)
    (hpost : ∀ a w, post a w → post' a w) (herr : ∀ w, err w → err' w) :
    Triple pre' x post' err' := by
  intro w hw
  have := h w (hpre w hw)
  revert this
  rcases exec x w with ⟨_ | a, w'⟩
  · exact herr w'
  · exact hpost a w'

theorem pure {a : α} (h : ∀ w, pre w → post a w) : Triple pre (Pure.pure a) post err :=
  fun w hw => h w hw

theorem fail {cause : Cause} (h : ∀ w, pre w → err w) : Triple pre (Op.fail cause : Op α) post err :=
  fun w hw => h w hw

theorem bind {x : Op α} {f : α → Op β} {mid : α → World → Prop} {post : β → World → Prop}
    (hx : Triple pre x mid err) (hf : ∀ a, Triple (mid a) (f a) post err) :
    Triple pre (x >>= f) post err := by
  intro w hw
  have := hx w hw
  rw [exec_bind]
  revert this
  rcases exec x w with ⟨_ | a, w'⟩
  · exact id
  · exact hf a w'

theorem map {x : Op α} {f : α → β} {post : β → World → Prop}
    (h : Triple pre x (fun a => post (f a)) err) : Triple pre (f <$> x) post err := by
  intro w hw
  have := h w hw
  rw [exec_map]
  revert this
  rcases exec x w with ⟨_ | a, w'⟩ <;> exact id

theorem fail_bind {cause : Cause} {f : α → Op β} {post : β → World → Prop}
    (h : ∀ w, pre w → err w) : Triple pre (Op.fail cause >>= f) post err := by
  intro w hw
  rw [exec_bind, exec_fail]
  exact h w hw

theorem within {x : Op α} (step : String) (h : Triple pre x post err) :
    Triple pre (Op.within step x) post err := by
  intro w hw
  have := h w hw
  rw [exec_within]
  revert this
  rcases exec x w with ⟨_ | a, w'⟩ <;> exact id

theorem get_bind {f : World → Op α} (h : ∀ v, Triple (fun w => pre w ∧ w = v) (f v) post err) :
    Triple pre (get >>= f) post err := by
  intro w hw
  rw [exec_bind, exec_get]
  exact h w w ⟨hw, rfl⟩

theorem modify {f : World → World} {post : Unit → World → Prop} (h : ∀ w, pre w → post () (f w)) :
    Triple pre (MonadState.modifyGet fun w => ((), f w) : Op Unit) post err :=
  fun w hw => h w hw

/-- A fact about no world in the precondition may be assumed. -/
theorem assume {x : Op α} {Φ : Prop} (h : Φ → Triple pre x post err) : Triple (fun w => pre w ∧ Φ) x post err :=
  fun w hw => h hw.2 w hw.1

/-- A saga that cannot fail returns. -/
theorem exec_ok {x : Op α} (h : Triple pre x post fun _ => False) {w : World} (hw : pre w) :
    ∃ a w', exec x w = (.ok a, w') ∧ post a w' := by
  have := h w hw
  revert this
  rcases exec x w with ⟨_ | a, w'⟩
  · exact False.elim
  · exact fun hpost => ⟨a, w', rfl, hpost⟩

/-- A saga that cannot return fails. -/
theorem exec_error {x : Op α} (h : Triple pre x (fun _ _ => False) err) {w : World} (hw : pre w) :
    ∃ e w', exec x w = (.error e, w') ∧ err w' := by
  have := h w hw
  revert this
  rcases exec x w with ⟨e | _, w'⟩
  · exact fun herr => ⟨e, w', rfl, herr⟩
  · exact False.elim

/-- A saga that returned ends in its postcondition. -/
theorem returns {x : Op α} (h : Triple pre x post err) {w w' : World} {a : α} (hw : pre w)
    (hx : exec x w = (.ok a, w')) : post a w' := by
  have := h w hw
  rw [hx] at this
  exact this

/-- A saga that failed ends in its failure condition. -/
theorem fails {x : Op α} (h : Triple pre x post err) {w w' : World} {e : Failure} (hw : pre w)
    (hx : exec x w = (.error e, w')) : err w' := by
  have := h w hw
  rw [hx] at this
  exact this

/-- A saga whose result and failure lead to one condition ends in it, however it ends. -/
theorem lands {Q : World → Prop} {x : Op α} (h : Triple pre x (fun _ => Q) Q) {w w' : World}
    {r : Except Failure α} (hw : pre w) (hx : exec x w = (r, w')) : Q w' := by
  have := h w hw
  rw [hx] at this
  cases r <;> exact this

/-- Every outcome satisfies the trivial conditions. -/
theorem trivial {x : Op α} : Triple pre x (fun _ _ => True) (fun _ => True) := by
  intro w _
  rcases exec x w with ⟨_ | a, w'⟩ <;> exact True.intro

/-- Two triples of one saga hold together, since the saga runs one way from each world. -/
theorem and {x : Op α} {pre₂ : World → Prop} {post₂ : α → World → Prop} {err₂ : World → Prop}
    (h : Triple pre x post err) (h₂ : Triple pre₂ x post₂ err₂) :
    Triple (fun w => pre w ∧ pre₂ w) x (fun a w => post a w ∧ post₂ a w)
      (fun w => err w ∧ err₂ w) := by
  intro w hw
  have h₁ := h w hw.1
  have h₂' := h₂ w hw.2
  revert h₁ h₂'
  rcases exec x w with ⟨_ | a, w'⟩
  · exact And.intro
  · exact And.intro

theorem ofShape {e : Except Kube.InvalidIngress α} (hok : ∀ a, e = .ok a → ∀ w, pre w → post a w)
    (herr : ∀ w, pre w → (∃ i, e = .error i) → err w) : Triple pre (Op.ofShape e) post err := by
  cases e with
  | ok a => exact fun w hw => hok a rfl w hw
  | error i => exact fun w hw => herr w hw ⟨i, rfl⟩

/-- A call: its work runs after the call is logged, unless a planned fault fails it. -/
theorem call {work : Op α} {kind : CallKind} {subject : String} (hwork : Triple pre work post err)
    (hcall : CallFine pre err kind subject) :
    Triple pre (IngressGuard.call kind subject work) post err := by
  intro w hw
  rw [exec_call]
  split
  · exact hcall.2 w hw ‹_›
  · exact hwork _ (hcall.1 w hw)

end Triple

namespace CallFine

variable {P err : World → Prop} {kind : CallKind} {subject : String}

/-- A condition that ignores log and plan can be carried past a call. -/
theorem and_calm {F : World → Prop} (h : CallFine P err kind subject) (hF : Calm F) :
    CallFine (fun w => P w ∧ F w) err kind subject :=
  ⟨fun w hw => ⟨h.1 w hw.1, (hF.passCall kind subject).2 hw.2⟩, fun w hw hb => h.2 w hw.1 hb⟩

/-- A condition that ignores log and plan, and that the failure condition follows from. -/
theorem calm (hP : Calm P) (herr : ∀ w, P w → err w) (hE : Calm err) :
    CallFine P err kind subject :=
  ⟨fun _ hw => (hP.passCall kind subject).2 hw,
    fun _ hw _ => (hE.failCall kind subject).2 (herr _ hw)⟩

/-- In a quiet world every call goes through. -/
theorem quiet (hP : Calm P) : CallFine (fun w => P w ∧ w.Quiet) err kind subject :=
  ⟨fun _ hw => ⟨(hP.passCall kind subject).2 hw.1, hw.2.passCall kind subject⟩,
    fun _ hw hb => absurd hb (hw.2.not_blocked kind)⟩

end CallFine

/-- Every call from a world in `pre` goes through keeping `pre` or is failed into `err`. -/
def Fine (pre err : World → Prop) : Prop :=
  ∀ kind subject, CallFine pre err kind subject

namespace Fine

variable {P err : World → Prop}

theorem and {F : World → Prop} (h : Fine P err) (hF : Calm F) : Fine (fun w => P w ∧ F w) err :=
  fun kind subject => (h kind subject).and_calm hF

/-- A condition that ignores log and plan, and that the failure condition follows from. -/
theorem of_calm (hP : Calm P) (herr : ∀ w, P w → err w) (hE : Calm err) : Fine P err :=
  fun _ _ => CallFine.calm hP herr hE

/-- An invariant that ignores log and plan, kept also by the calls that fail. -/
theorem keep (hP : Calm P) : Fine P P :=
  of_calm hP (fun _ hw => hw) hP

/-- In a quiet world no call fails. -/
theorem quiet (hP : Calm P) : Fine (fun w => P w ∧ w.Quiet) err :=
  fun _ _ => CallFine.quiet hP

end Fine

end IngressGuard
