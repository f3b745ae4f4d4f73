import IngressGuard.Proofs.AppCells
import IngressGuard.Proofs.RegistererPool

/-!
# Two runs of one operation

`Lockstep R x S E` says that `x`, run from two worlds related by `R`, ends alike on both sides:
it returns the same value in worlds related by `S`, or fails with the same failure in worlds
related by `E`. The rules follow those of `Triple`, taking an operation apart along its `pure`,
`bind` and `within`; a call from two quiet worlds goes through on both sides. A triple on each
side can be carried beside the relation (`Lockstep.and_triples`), so that what one run keeps on
its own need not be proved again for two.
-/

namespace IngressGuard

/-- Two ends of runs alike: the same value with `S` between the worlds, or the same failure with
`E` between them. -/
def EndsAlike {α : Type} (S : α → World → World → Prop) (E : World → World → Prop) :
    Except Failure α × World → Except Failure α × World → Prop
  | (.ok a, v), (.ok b, w) => a = b ∧ S a v w
  | (.error e, v), (.error f, w) => e = f ∧ E v w
  | _, _ => False

/-- A relation between quiet worlds that a call going through on either side keeps. -/
structure Steady (R : World → World → Prop) : Prop where
  quiet : ∀ v w, R v w → v.Quiet ∧ w.Quiet
  passLeft : ∀ v w kind subject, R v w → R (v.passCall kind subject) w
  passRight : ∀ v w kind subject, R v w → R v (w.passCall kind subject)

theorem Steady.passCall {R : World → World → Prop} (hR : Steady R) {v w : World} (h : R v w)
    (kind : CallKind) (subject : String) : R (v.passCall kind subject) (w.passCall kind subject) :=
  hR.passRight _ _ kind subject (hR.passLeft v w kind subject h)

/-- A fact about the left world that every call going through keeps can be carried beside a
steady relation. -/
theorem Steady.and_left {R : World → World → Prop} (hR : Steady R) {P : World → Prop}
    (hP : ∀ v kind subject, P v → P (v.passCall kind subject)) :
    Steady fun v w => R v w ∧ P v where
  quiet v w h := hR.quiet v w h.1
  passLeft v w kind subject h := ⟨hR.passLeft v w kind subject h.1, hP v kind subject h.2⟩
  passRight v w kind subject h := ⟨hR.passRight v w kind subject h.1, h.2⟩

/-- From any two worlds related by `R`, `x` ends alike. -/
def Lockstep {α : Type} (R : World → World → Prop) (x : Op α) (S : α → World → World → Prop)
    (E : World → World → Prop) : Prop :=
  ∀ v w, R v w → EndsAlike S E (exec x v) (exec x w)

namespace Lockstep

variable {α β : Type} {R R' : World → World → Prop} {S S' : α → World → World → Prop}
  {E E' : World → World → Prop}

theorem mono {x : Op α} (h : Lockstep R x S E) (hR : ∀ v w, R' v w → R v w)
    (hS : ∀ a v w, S a v w → S' a v w) (hE : ∀ v w, E v w → E' v w) : Lockstep R' x S' E' := by
  intro v w hvw
  have := h v w (hR v w hvw)
  revert this
  rcases exec x v with ⟨e | a, v'⟩ <;> rcases exec x w with ⟨f | b, w'⟩
  · exact fun h => ⟨h.1, hE v' w' h.2⟩
  · exact id
  · exact id
  · exact fun h => ⟨h.1, hS a v' w' h.2⟩

theorem pure {a : α} (h : ∀ v w, R v w → S a v w) : Lockstep R (Pure.pure a) S E :=
  fun v w hvw => ⟨rfl, h v w hvw⟩

theorem fail {cause : Cause} (h : ∀ v w, R v w → E v w) : Lockstep R (Op.fail cause : Op α) S E :=
  fun v w hvw => ⟨rfl, h v w hvw⟩

theorem bind {x : Op α} {f : α → Op β} {M : α → World → World → Prop}
    {S : β → World → World → Prop} (hx : Lockstep R x M E) (hf : ∀ a, Lockstep (M a) (f a) S E) :
    Lockstep R (x >>= f) S E := by
  intro v w hvw
  have := hx v w hvw
  rw [exec_bind, exec_bind]
  revert this
  rcases exec x v with ⟨e | a, v'⟩ <;> rcases exec x w with ⟨f | b, w'⟩
  · exact id
  · exact False.elim
  · exact False.elim
  · intro h
    obtain ⟨rfl, hM⟩ := h
    exact hf a v' w' hM

theorem map {x : Op α} {f : α → β} {S : β → World → World → Prop}
    (h : Lockstep R x (fun a => S (f a)) E) : Lockstep R (f <$> x) S E := by
  intro v w hvw
  have := h v w hvw
  rw [exec_map, exec_map]
  revert this
  rcases exec x v with ⟨e | a, v'⟩ <;> rcases exec x w with ⟨f | b, w'⟩
  · exact id
  · exact False.elim
  · exact False.elim
  · intro h
    obtain ⟨rfl, hS⟩ := h
    exact ⟨rfl, hS⟩

theorem within {x : Op α} (step : String) (h : Lockstep R x S E) :
    Lockstep R (Op.within step x) S E := by
  intro v w hvw
  have := h v w hvw
  rw [exec_within, exec_within]
  revert this
  rcases exec x v with ⟨e | a, v'⟩ <;> rcases exec x w with ⟨f | b, w'⟩
  · intro h
    obtain ⟨rfl, hE⟩ := h
    exact ⟨rfl, hE⟩
  · exact False.elim
  · exact False.elim
  · exact id

theorem fail_bind {cause : Cause} {f : α → Op β} {S : β → World → World → Prop}
    (h : ∀ v w, R v w → E v w) : Lockstep R (Op.fail cause >>= f) S E := by
  intro v w hvw
  rw [exec_bind, exec_bind, exec_fail, exec_fail]
  exact ⟨rfl, h v w hvw⟩

theorem ofShape {e : Except Kube.InvalidIngress α} (hok : ∀ a, e = .ok a → ∀ v w, R v w → S a v w)
    (herr : ∀ v w, R v w → (∃ i, e = .error i) → E v w) : Lockstep R (Op.ofShape e) S E := by
  cases e with
  | ok a => exact pure (hok a rfl)
  | error i => exact fail fun v w hvw => herr v w hvw ⟨i, rfl⟩

/-- A read of the world whose continuation is the same from both related worlds. -/
theorem get_bind {F : World → Op α} (hF : ∀ v w, R v w → F v = F w)
    (h : ∀ u, Lockstep (fun v w => R v w ∧ v = u) (F u) S E) : Lockstep R (get >>= F) S E := by
  intro v w hvw
  rw [exec_bind, exec_get, exec_bind, exec_get]
  show EndsAlike S E (exec (F v) v) (exec (F w) w)
  rw [← hF v w hvw]
  exact h v v w ⟨hvw, rfl⟩

/-- A modification of the world, related on both sides. -/
theorem modify {f : World → World} {S : Unit → World → World → Prop}
    (h : ∀ v w, R v w → S () (f v) (f w)) :
    Lockstep R (MonadState.modifyGet fun w => ((), f w) : Op Unit) S E :=
  fun v w hvw => ⟨rfl, h v w hvw⟩

/-- A call from two worlds related steadily goes through on both sides. -/
theorem call {work : Op α} {kind : CallKind} {subject : String} (hR : Steady R)
    (hwork : Lockstep R work S E) : Lockstep R (IngressGuard.call kind subject work) S E := by
  intro v w hvw
  rw [exec_call_quiet (hR.quiet v w hvw).1, exec_call_quiet (hR.quiet v w hvw).2]
  exact hwork _ _ (hR.passCall hvw kind subject)

/-- A fact about no world in the relation may be assumed. -/
theorem assume {x : Op α} {Φ : Prop} (h : Φ → Lockstep R x S E) :
    Lockstep (fun v w => R v w ∧ Φ) x S E :=
  fun v w hvw => h hvw.2 v w hvw.1

/-- A triple on each side is carried beside the relation. -/
theorem and_triples {x : Op α} {P Q : World → Prop} {post post' : α → World → Prop}
    {err err' : World → Prop} (h : Lockstep R x S E) (hv : Triple P x post err)
    (hw : Triple Q x post' err') :
    Lockstep (fun v w => R v w ∧ P v ∧ Q w) x (fun a v w => S a v w ∧ post a v ∧ post' a w)
      (fun v w => E v w ∧ err v ∧ err' w) := by
  intro v w hvw
  have h₁ := h v w hvw.1
  have h₂ := hv v hvw.2.1
  have h₃ := hw w hvw.2.2
  revert h₁ h₂ h₃
  rcases exec x v with ⟨e | a, v'⟩ <;> rcases exec x w with ⟨f | b, w'⟩
  · exact fun h₁ h₂ h₃ => ⟨h₁.1, h₁.2, h₂, h₃⟩
  · exact fun h₁ => False.elim h₁
  · exact fun h₁ => False.elim h₁
  · intro h₁ h₂ h₃
    obtain ⟨rfl, hS⟩ := h₁
    exact ⟨rfl, hS, h₂, h₃⟩

/-- Runs in lockstep give the same result. -/
theorem result_eq {x : Op α} (h : Lockstep R x S E) {v w : World} (hvw : R v w) :
    (exec x v).1 = (exec x w).1 := by
  have := h v w hvw
  revert this
  rcases exec x v with ⟨e | a, v'⟩ <;> rcases exec x w with ⟨f | b, w'⟩
  · exact fun h => congrArg Except.error h.1
  · exact False.elim
  · exact False.elim
  · exact fun h => congrArg Except.ok h.1

/-- Runs in lockstep whose result and failure relations both give `T` end in worlds related by
`T`. -/
theorem lands {x : Op α} {T : World → World → Prop} (h : Lockstep R x (fun _ => T) T)
    {v w : World} (hvw : R v w) : T (exec x v).2 (exec x w).2 := by
  have := h v w hvw
  revert this
  rcases exec x v with ⟨e | a, v'⟩ <;> rcases exec x w with ⟨f | b, w'⟩
  · exact fun h => h.2
  · exact False.elim
  · exact False.elim
  · exact fun h => h.2

end Lockstep

/-! ## The calls in lockstep

A call runs alike from two worlds related steadily when the two agree on what it reads, and the
relation survives what it writes on both sides. Registering at a Dex is the one call whose two
runs may differ: one side may hold a connection that the other still opens. -/

section Calls

open IngressGuard.Kube IngressGuard.Dex

variable {R : World → World → Prop}

theorem modifyCluster_lockstep {f : Cluster → Cluster} {kind : CallKind} {subject : String}
    (hR : Steady R)
    (hok : ∀ v w, R v w → R { v with cluster := f v.cluster } { w with cluster := f w.cluster }) :
    Lockstep R (call kind subject (modifyCluster f)) (fun _ => R) R :=
  Lockstep.call hR (Lockstep.modify hok)

theorem getIngress_lockstep {k : ObjectKey} (hR : Steady R)
    (hk : ∀ v w, R v w → v.cluster.ingresses.get? k = w.cluster.ingresses.get? k) :
    Lockstep R (getIngress k) (fun ing v w => R v w ∧ v.cluster.ingresses.get? k = some ing) R := by
  refine Lockstep.call hR fun v w hvw => ?_
  rw [exec_bind, exec_get, exec_bind, exec_get]
  dsimp only
  rw [← hk v w hvw]
  cases h : v.cluster.ingresses.get? k with
  | none => exact ⟨rfl, hvw⟩
  | some ing => exact ⟨rfl, hvw, h⟩

theorem updateIngress_lockstep {ing : Ingress} (hR : Steady R)
    (hc : ∀ v w, R v w →
      v.cluster.ingresses.contains ing.metadata.key = w.cluster.ingresses.contains ing.metadata.key)
    (hok : ∀ v w, R v w → R (v.withIngress ing) (w.withIngress ing)) :
    Lockstep R (updateIngress ing) (fun _ => R) R := by
  refine Lockstep.call hR fun v w hvw => ?_
  rw [exec_bind, exec_get, exec_bind, exec_get]
  dsimp only
  rw [← hc v w hvw]
  cases v.cluster.ingresses.contains ing.metadata.key with
  | false => exact ⟨rfl, hvw⟩
  | true => exact ⟨rfl, hok v w hvw⟩

theorem getIngressAuth_lockstep {k : ObjectKey} (hR : Steady R)
    (hk : ∀ v w, R v w → v.cluster.ingressAuths.get? k = w.cluster.ingressAuths.get? k) :
    Lockstep R (getIngressAuth k) (fun _ => R) R :=
  Lockstep.call hR fun v w hvw => ⟨hk v w hvw, hvw⟩

theorem getSecret_lockstep {k : ObjectKey} (hR : Steady R)
    (hk : ∀ v w, R v w → v.cluster.secrets.get? k = w.cluster.secrets.get? k) :
    Lockstep R (getSecret k) (fun s v w => R v w ∧ v.cluster.secrets.get? k = s) R :=
  Lockstep.call hR fun v w hvw => ⟨hk v w hvw, hvw, rfl⟩

theorem getAuthBackend_lockstep {id : String} (hR : Steady R)
    (hb : ∀ v w, R v w → v.backends = w.backends) :
    Lockstep R (getAuthBackend id) (fun _ => R) R := by
  refine Lockstep.call hR fun v w hvw => ?_
  rw [exec_bind, exec_get, exec_bind, exec_get]
  dsimp only
  rw [← hb v w hvw]
  cases v.backends.lookup id with
  | none => exact ⟨rfl, hvw⟩
  | some spec => exact ⟨rfl, hvw⟩

theorem routeService_lockstep {s : ServiceRef} (hR : Steady R)
    (hr : ∀ v w, R v w → v.routes = w.routes) :
    Lockstep R (routeService s) (fun _ => R) R := by
  refine Lockstep.call hR fun v w hvw => ?_
  rw [exec_bind, exec_get, exec_bind, exec_get]
  dsimp only
  rw [← hr v w hvw]
  cases v.routes.lookup s.routeKey with
  | none => exact ⟨rfl, hvw⟩
  | some r => exact ⟨rfl, hvw⟩

theorem dexCreateClient_lockstep {address : String} {client : Client} (hR : Steady R)
    (hheld : ∀ v w, R v w → v.holdsClient address client.id = w.holdsClient address client.id)
    (hok : ∀ v w, R v w → R (v.withClient address client) (w.withClient address client)) :
    Lockstep R (dexCreateClient address client) (fun _ => R) R := by
  refine Lockstep.call hR fun v w hvw => ?_
  rw [exec_bind, exec_get, exec_bind, exec_get]
  dsimp only
  have hv : (v.dexAt address).clients.any (·.1 == client.id) = v.holdsClient address client.id := rfl
  have hw : (w.dexAt address).clients.any (·.1 == client.id) = w.holdsClient address client.id := rfl
  rw [hv, hw, ← hheld v w hvw]
  cases v.holdsClient address client.id with
  | true => exact ⟨rfl, hvw⟩
  | false => exact ⟨rfl, hok v w hvw⟩

theorem dexDeleteClient_lockstep {address id : String} (hR : Steady R)
    (hheld : ∀ v w, R v w → v.holdsClient address id = w.holdsClient address id)
    (hok : ∀ v w, R v w → R (v.withoutClient address id) (w.withoutClient address id)) :
    Lockstep R (dexDeleteClient address id) (fun _ => R) R :=
  Lockstep.call hR fun v w hvw => ⟨by rw [← World.holdsClient, hheld v w hvw]; rfl, hok v w hvw⟩

/-- Both sides draw the next secret, which is the same on both. -/
theorem freshSecret_lockstep {E : World → World → Prop}
    (hok : ∀ v w, R v w → R { v with secretsDrawn := v.secretsDrawn + 1 }
      { w with secretsDrawn := w.secretsDrawn + 1 }) :
    Lockstep (fun v w => R v w ∧ secretOf (v.draws v.secretsDrawn) = secretOf (w.draws w.secretsDrawn)) freshSecret
      (fun _ => R) E :=
  fun v w hvw => ⟨hvw.2, hok v w hvw.1⟩

section Registerer

variable {backend : AuthBackend} {dex : DexBackend} {w : World}

theorem exec_registererFor_held (hd : backend.dex = some dex)
    (hc : w.connected.contains dex.apiUrl = true) :
    exec (registererFor backend) w = (.ok dex.apiUrl, w) :=
  exec_registererFor_pooled hd (List.contains_iff_mem.1 hc)

theorem exec_registererFor_connect (hd : backend.dex = some dex) (hq : w.Quiet)
    (hc : w.connected.contains dex.apiUrl = false) (ha : checkAddress dex.apiUrl = .ok ()) :
    exec (registererFor backend) w =
      (.ok dex.apiUrl,
        ((w.passCall .dexConnect dex.apiUrl).withConnect dex.apiUrl).withConnected dex.apiUrl) :=
  exec_registererFor_connected hd (by simpa using hc) (exec_dexConnect_ok (hq.not_blocked _) ha)

theorem exec_registererFor_bad {e : UriError} (hd : backend.dex = some dex) (hq : w.Quiet)
    (hc : w.connected.contains dex.apiUrl = false) (ha : checkAddress dex.apiUrl = .error e) :
    exec (registererFor backend) w =
      (.error ⟨.badDexAddress dex.apiUrl e, []⟩, w.passCall .dexConnect dex.apiUrl) :=
  exec_registererFor_refused hd (by simpa using hc) (exec_dexConnect_bad (hq.not_blocked _) ha)

/-- The registerer of a backend is found alike when the same Dex addresses can be used on both
sides: a side that holds no connection opens one, to an address that is then well formed. -/
theorem registererFor_lockstep (hR : Steady R) (hreach : ∀ v w a, R v w → (v.Reaches a ↔ w.Reaches a))
    (hleft : ∀ v w a, R v w → checkAddress a = .ok () → R ((v.withConnect a).withConnected a) w)
    (hright : ∀ v w a, R v w → checkAddress a = .ok () → R v ((w.withConnect a).withConnected a)) :
    Lockstep R (registererFor backend) (fun _ => R) R := by
  cases hd : backend.dex with
  | none =>
    unfold registererFor
    rw [hd]
    exact Lockstep.fail fun v w hvw => hvw
  | some dex =>
    intro v w hvw
    obtain ⟨hqv, hqw⟩ := hR.quiet v w hvw
    cases hv : v.connected.contains dex.apiUrl <;> cases hw : w.connected.contains dex.apiUrl
    · cases ha : checkAddress dex.apiUrl with
      | error e =>
        rw [exec_registererFor_bad hd hqv hv ha, exec_registererFor_bad hd hqw hw ha]
        exact ⟨rfl, hR.passCall hvw _ _⟩
      | ok u =>
        rw [exec_registererFor_connect hd hqv hv ha, exec_registererFor_connect hd hqw hw ha]
        exact ⟨rfl, hright _ _ _ (hleft _ _ _ (hR.passCall hvw _ _) ha) ha⟩
    · have ha : checkAddress dex.apiUrl = .ok () :=
        ((hreach v w _ hvw).2 (.inl hw)).resolve_left (by rw [hv]; exact Bool.false_ne_true)
      rw [exec_registererFor_connect hd hqv hv ha, exec_registererFor_held hd hw]
      exact ⟨rfl, hleft _ _ _ (hR.passLeft _ _ _ _ hvw) ha⟩
    · have ha : checkAddress dex.apiUrl = .ok () :=
        ((hreach v w _ hvw).1 (.inl hv)).resolve_left (by rw [hw]; exact Bool.false_ne_true)
      rw [exec_registererFor_held hd hv, exec_registererFor_connect hd hqw hw ha]
      exact ⟨rfl, hright _ _ _ (hR.passRight _ _ _ _ hvw) ha⟩
    · rw [exec_registererFor_held hd hv, exec_registererFor_held hd hw]
      exact ⟨rfl, hvw⟩

end Registerer

end Calls

end IngressGuard
