import IngressGuard.Proofs.FreshSecrets

/-!
# Runs that differ only in the values of secrets

A step reads whether a client secret is stored, never what it is: the value is only handed on, to
the Secret of the client secret, to the proxy's Secret and Deployment, and to the Dex client.
`World.SameButSecrets` relates two worlds that may differ in those values and in the draws still
to come, and agree on everything else a step reads or writes. A reconciliation of any ingress runs
alike from two such worlds (`reconcile_sameButSecrets`): it returns the same on both sides and
leaves them differing in secret values only, though each side may register a secret of its own.

Registering and provisioning hand different values to the two sides, so their runs are followed
as runs of two operations (`Coupled`), whose results may differ; every other step runs in
lockstep under the relation, by the lemmas stated once for any relation steady for the app.
-/

namespace IngressGuard

open IngressGuard.Kube IngressGuard.Dex

/-! ## Runs of two operations side by side -/

/-- Two ends of runs of two operations: values and worlds related by `Q`, or the same failure with
`E` between the worlds. -/
def EndsCoupled {α β : Type} (Q : α → β → World → World → Prop) (E : World → World → Prop) :
    Except Failure α × World → Except Failure β × World → Prop
  | (.ok a, v), (.ok b, w) => Q a b v w
  | (.error e, v), (.error f, w) => e = f ∧ E v w
  | _, _ => False

/-- From any two worlds related by `R`, `x` run from the left one and `y` from the right one end
coupled. -/
def Coupled {α β : Type} (R : World → World → Prop) (x : Op α) (y : Op β)
    (Q : α → β → World → World → Prop) (E : World → World → Prop) : Prop :=
  ∀ v w, R v w → EndsCoupled Q E (exec x v) (exec y w)

namespace Coupled

variable {α β γ δ : Type} {R : World → World → Prop} {Q : α → β → World → World → Prop}
  {E : World → World → Prop}

/-- Two runs of one operation in lockstep are coupled, with equal results. -/
theorem of_lockstep {x : Op α} {S : α → World → World → Prop} (h : Lockstep R x S E) :
    Coupled R x x (fun a b v w => a = b ∧ S a v w) E := by
  intro v w hvw
  have := h v w hvw
  revert this
  rcases exec x v with ⟨e | a, v'⟩ <;> rcases exec x w with ⟨f | b, w'⟩ <;> exact id

/-- Two coupled runs of one operation that returns nothing run in lockstep. -/
theorem lockstep {x : Op Unit} {S : World → World → Prop} (h : Coupled R x x (fun _ _ => S) E) :
    Lockstep R x (fun _ => S) E := by
  intro v w hvw
  have := h v w hvw
  revert this
  rcases exec x v with ⟨e | a, v'⟩ <;> rcases exec x w with ⟨f | b, w'⟩
  · exact id
  · exact id
  · exact id
  · exact fun h => ⟨rfl, h⟩

theorem mono {x : Op α} {y : Op β} {R' : World → World → Prop}
    {Q' : α → β → World → World → Prop} {E' : World → World → Prop} (h : Coupled R x y Q E)
    (hR : ∀ v w, R' v w → R v w) (hQ : ∀ a b v w, Q a b v w → Q' a b v w)
    (hE : ∀ v w, E v w → E' v w) : Coupled R' x y Q' E' := by
  intro v w hvw
  have := h v w (hR v w hvw)
  revert this
  rcases exec x v with ⟨e | a, v'⟩ <;> rcases exec y w with ⟨f | b, w'⟩
  · exact fun h => ⟨h.1, hE v' w' h.2⟩
  · exact id
  · exact id
  · exact hQ a b v' w'

theorem pure {a : α} {b : β} (h : ∀ v w, R v w → Q a b v w) :
    Coupled R (Pure.pure a) (Pure.pure b) Q E :=
  h

theorem bind {x : Op α} {y : Op β} {f : α → Op γ} {g : β → Op δ}
    {M : α → β → World → World → Prop} {Q : γ → δ → World → World → Prop}
    (hxy : Coupled R x y M E) (hfg : ∀ a b, Coupled (M a b) (f a) (g b) Q E) :
    Coupled R (x >>= f) (y >>= g) Q E := by
  intro v w hvw
  have := hxy v w hvw
  rw [exec_bind, exec_bind]
  revert this
  rcases exec x v with ⟨e | a, v'⟩ <;> rcases exec y w with ⟨f | b, w'⟩
  · exact id
  · exact False.elim
  · exact False.elim
  · exact hfg a b v' w'

/-- A step run alike on both sides, then two operations coupled. -/
theorem lockstep_bind {x : Op α} {f : α → Op γ} {g : α → Op δ} {M : α → World → World → Prop}
    {Q : γ → δ → World → World → Prop} (hx : Lockstep R x M E)
    (hfg : ∀ a, Coupled (M a) (f a) (g a) Q E) : Coupled R (x >>= f) (x >>= g) Q E := by
  refine bind (of_lockstep hx) fun a b v w h => ?_
  obtain ⟨rfl, hM⟩ := h
  exact hfg a v w hM

theorem within {x : Op α} {y : Op β} (step : String) (h : Coupled R x y Q E) :
    Coupled R (Op.within step x) (Op.within step y) Q E := by
  intro v w hvw
  have := h v w hvw
  rw [exec_within, exec_within]
  revert this
  rcases exec x v with ⟨e | a, v'⟩ <;> rcases exec y w with ⟨f | b, w'⟩
  · intro h
    obtain ⟨rfl, hE⟩ := h
    exact ⟨rfl, hE⟩
  · exact False.elim
  · exact False.elim
  · exact id

/-- A fact about no world in the relation may be assumed. -/
theorem assume {x : Op α} {y : Op β} {Φ : Prop} (h : Φ → Coupled R x y Q E) :
    Coupled (fun v w => R v w ∧ Φ) x y Q E :=
  fun v w hvw => h hvw.2 v w hvw.1

/-- A call from two worlds related steadily goes through on both sides, whatever each names. -/
theorem call {work : Op α} {work' : Op β} {kind : CallKind} {subject subject' : String}
    (hR : Steady R) (h : Coupled R work work' Q E) :
    Coupled R (IngressGuard.call kind subject work) (IngressGuard.call kind subject' work') Q E := by
  intro v w hvw
  rw [exec_call_quiet (hR.quiet v w hvw).1, exec_call_quiet (hR.quiet v w hvw).2]
  exact h _ _ (hR.passRight _ _ kind subject' (hR.passLeft v w kind subject hvw))

/-- A read of the world whose continuation is the same from both related worlds. -/
theorem get_bind {F : World → Op α} {Q : α → α → World → World → Prop}
    (hF : ∀ v w, R v w → F v = F w) (h : ∀ u, Coupled R (F u) (F u) Q E) :
    Coupled R (get >>= F) (get >>= F) Q E := by
  intro v w hvw
  rw [exec_bind, exec_get, exec_bind, exec_get]
  show EndsCoupled Q E (exec (F v) v) (exec (F w) w)
  rw [← hF v w hvw]
  exact h v v w hvw

end Coupled

/-! ## The calls that hand on different values -/

section Calls

variable {R : World → World → Prop}

theorem modifyCluster_coupled {f g : Cluster → Cluster} {kind : CallKind}
    {subject subject' : String} (hR : Steady R)
    (hok : ∀ v w, R v w → R { v with cluster := f v.cluster } { w with cluster := g w.cluster }) :
    Coupled R (call kind subject (modifyCluster f)) (call kind subject' (modifyCluster g))
      (fun _ _ => R) R :=
  Coupled.call hR hok

theorem getSecret_coupled {k : ObjectKey} (hR : Steady R) :
    Coupled R (getSecret k) (getSecret k)
      (fun s s' v w => R v w ∧ v.cluster.secrets.get? k = s ∧ w.cluster.secrets.get? k = s') R :=
  Coupled.call hR fun _ _ hvw => ⟨hvw, rfl, rfl⟩

/-- Two clients of one id, created alike when the Dex holds a client of that id on both sides or
on neither. -/
theorem dexCreateClient_coupled {address : String} {c c' : Client} (hid : c.id = c'.id)
    (hR : Steady R)
    (hheld : ∀ v w, R v w → v.holdsClient address c.id = w.holdsClient address c.id)
    (hok : ∀ v w, R v w → R (v.withClient address c) (w.withClient address c')) :
    Coupled R (dexCreateClient address c) (dexCreateClient address c') (fun _ _ => R) R := by
  refine Coupled.call hR fun v w hvw => ?_
  rw [exec_bind, exec_get, exec_bind, exec_get]
  dsimp only
  have hv : (v.dexAt address).clients.any (·.1 == c.id) = v.holdsClient address c.id := rfl
  have hw : (w.dexAt address).clients.any (·.1 == c'.id) = w.holdsClient address c.id := by
    rw [← hid]
    rfl
  rw [hv, hw, ← hheld v w hvw]
  cases v.holdsClient address c.id with
  | true => exact hvw
  | false => exact hok v w hvw

end Calls

/-! ## Worlds that differ in secret values only -/

namespace World

/-- `v` and `w` differ at most in the values of secrets: in the draws still to come, and in what
the Secrets, the proxy Deployments and the Dex clients hold. They agree on every ingress and
Service, on which Secrets and Deployments exist and which Secrets hold a client secret, on how
many clients of each id each Dex holds, on the surroundings, the usable Dex addresses and the
write counts; both are quiet and keep every ingress under its own key. -/
structure SameButSecrets (v w : World) : Prop where
  ingresses : ∀ k, v.cluster.ingresses.get? k = w.cluster.ingresses.get? k
  services : ∀ k, v.cluster.services.get? k = w.cluster.services.get? k
  secrets : ∀ k, (v.cluster.secrets.get? k).isSome = (w.cluster.secrets.get? k).isSome
  stored : ∀ k, (storedClientSecret (v.cluster.secrets.get? k)).isSome =
    (storedClientSecret (w.cluster.secrets.get? k)).isSome
  deployments : ∀ k, (v.cluster.deployments.get? k).isSome = (w.cluster.deployments.get? k).isSome
  clients : ∀ a id, (v.clientsOf a id).length = (w.clientsOf a id).length
  surroundings : v.SameSurroundings w
  reaches : ∀ a, v.Reaches a ↔ w.Reaches a
  writes : v.cluster.writes = w.cluster.writes
  keyedLeft : v.cluster.WellKeyed
  keyedRight : w.cluster.WellKeyed
  quietLeft : v.Quiet
  quietRight : w.Quiet

theorem Store.isSome_put_congr {α β : Type} {s : Store α} {t : Store β} {k k' : ObjectKey}
    {x : α} {y : β} (h : (s.get? k').isSome = (t.get? k').isSome) :
    ((s.put k x).get? k').isSome = ((t.put k y).get? k').isSome := by
  rw [Store.get?_put, Store.get?_put]
  by_cases hk : k' = k <;> simp [hk, h]

theorem Store.isSome_erase_congr {α β : Type} {s : Store α} {t : Store β} {k k' : ObjectKey}
    (h : (s.get? k').isSome = (t.get? k').isSome) :
    ((s.erase k).get? k').isSome = ((t.erase k).get? k').isSome := by
  rw [Store.get?_erase, Store.get?_erase]
  by_cases hk : k' = k <;> simp [hk, h]

namespace SameButSecrets

variable {u v w : World}

theorem holdsClient_eq (h : SameButSecrets v w) (a id : String) :
    v.holdsClient a id = w.holdsClient a id := by
  have hlen := h.clients a id
  rw [holdsClient_eq_not_isEmpty, holdsClient_eq_not_isEmpty]
  cases hv : v.clientsOf a id <;> cases hw : w.clientsOf a id <;> simp_all

theorem steady : Steady SameButSecrets where
  quiet _ _ h := ⟨h.quietLeft, h.quietRight⟩
  passLeft _ _ kind subject h := { h with quietLeft := h.quietLeft.passCall kind subject }
  passRight _ _ kind subject h := { h with quietRight := h.quietRight.passCall kind subject }

theorem symm (h : SameButSecrets v w) : SameButSecrets w v where
  ingresses k := (h.ingresses k).symm
  services k := (h.services k).symm
  secrets k := (h.secrets k).symm
  stored k := (h.stored k).symm
  deployments k := (h.deployments k).symm
  clients a id := (h.clients a id).symm
  surroundings := h.surroundings.symm
  reaches a := (h.reaches a).symm
  writes := h.writes.symm
  keyedLeft := h.keyedRight
  keyedRight := h.keyedLeft
  quietLeft := h.quietRight
  quietRight := h.quietLeft

theorem trans (h : SameButSecrets u v) (h' : SameButSecrets v w) : SameButSecrets u w where
  ingresses k := (h.ingresses k).trans (h'.ingresses k)
  services k := (h.services k).trans (h'.services k)
  secrets k := (h.secrets k).trans (h'.secrets k)
  stored k := (h.stored k).trans (h'.stored k)
  deployments k := (h.deployments k).trans (h'.deployments k)
  clients a id := (h.clients a id).trans (h'.clients a id)
  surroundings := h.surroundings.trans h'.surroundings
  reaches a := (h.reaches a).trans (h'.reaches a)
  writes := h.writes.trans h'.writes
  keyedLeft := h.keyedLeft
  keyedRight := h'.keyedRight
  quietLeft := h.quietLeft
  quietRight := h'.quietRight

/-! ### The writes of a step, each side with its own values -/

theorem withIngress (h : SameButSecrets v w) (y : Ingress) :
    SameButSecrets (v.withIngress y) (w.withIngress y) :=
  { h with
    ingresses := fun k => by simp only [get?_withIngress, h.ingresses k]
    writes := congrArg (· + (⟨1, 0, 0, 0⟩ : WriteCounts)) h.writes
    keyedLeft := wellKeyed_withIngress h.keyedLeft y
    keyedRight := wellKeyed_withIngress h.keyedRight y }

/-- Two Secrets under one key, which hold a client secret both or neither. -/
theorem withSecrets (h : SameButSecrets v w) {s s' : Secret}
    (hkey : s.metadata.key = s'.metadata.key)
    (hstored : (storedClientSecret (some s)).isSome = (storedClientSecret (some s')).isSome) :
    SameButSecrets (v.withSecret s) (w.withSecret s') :=
  { h with
    secrets := fun k => by
      simp only [withSecret, hkey]
      exact Store.isSome_put_congr (h.secrets k)
    stored := fun k => by
      simp only [withSecret, Store.get?_put, hkey]
      by_cases hk : k = s'.metadata.key
      · simp only [if_pos hk, hstored]
      · simp only [if_neg hk, h.stored k]
    writes := congrArg (· + (⟨0, 1, 0, 0⟩ : WriteCounts)) h.writes }

theorem withoutSecret (h : SameButSecrets v w) (k' : ObjectKey) :
    SameButSecrets (v.withoutSecret k') (w.withoutSecret k') :=
  { h with
    secrets := fun k => Store.isSome_erase_congr (h.secrets k)
    stored := fun k => by
      simp only [World.withoutSecret, Store.get?_erase]
      by_cases hk : k = k'
      · simp only [if_pos hk]
      · simp only [if_neg hk, h.stored k]
    writes := congrArg (· + (⟨0, 1, 0, 0⟩ : WriteCounts)) h.writes }

/-- Two Deployments under one key. -/
theorem withDeployments (h : SameButSecrets v w) {d d' : Deployment}
    (hkey : d.metadata.key = d'.metadata.key) :
    SameButSecrets (v.withDeployment d) (w.withDeployment d') :=
  { h with
    deployments := fun k => by
      simp only [withDeployment, hkey]
      exact Store.isSome_put_congr (h.deployments k)
    writes := congrArg (· + (⟨0, 0, 1, 0⟩ : WriteCounts)) h.writes }

theorem withoutDeployment (h : SameButSecrets v w) (k' : ObjectKey) :
    SameButSecrets (v.withoutDeployment k') (w.withoutDeployment k') :=
  { h with
    deployments := fun k => Store.isSome_erase_congr (h.deployments k)
    writes := congrArg (· + (⟨0, 0, 1, 0⟩ : WriteCounts)) h.writes }

theorem withService (h : SameButSecrets v w) (s : Service) :
    SameButSecrets (v.withService s) (w.withService s) :=
  { h with
    services := fun k => Store.get?_put_congr (h.services k)
    writes := congrArg (· + (⟨0, 0, 0, 1⟩ : WriteCounts)) h.writes }

theorem withoutService (h : SameButSecrets v w) (k' : ObjectKey) :
    SameButSecrets (v.withoutService k') (w.withoutService k') :=
  { h with
    services := fun k => Store.get?_erase_congr (h.services k)
    writes := congrArg (· + (⟨0, 0, 0, 1⟩ : WriteCounts)) h.writes }

/-- Two clients of one id, added at one Dex. -/
theorem withClients (h : SameButSecrets v w) (a : String) {c c' : Client} (hid : c.id = c'.id) :
    SameButSecrets (v.withClient a c) (w.withClient a c') := by
  have hclients : ∀ b id,
      ((v.withClient a c).clientsOf b id).length = ((w.withClient a c').clientsOf b id).length :=
    fun b id => by
      rw [clientsOf_withClient, clientsOf_withClient, ← hid]
      split <;> simp [h.clients b id]
  unfold World.withClient at hclients ⊢
  rw [World.setDex_eq v, World.setDex_eq w] at hclients ⊢
  exact { h with clients := hclients }

theorem withoutClient (h : SameButSecrets v w) (a id : String) :
    SameButSecrets (v.withoutClient a id) (w.withoutClient a id) := by
  have hclients : ∀ b id',
      ((v.withoutClient a id).clientsOf b id').length =
        ((w.withoutClient a id).clientsOf b id').length :=
    fun b id' => by
      rw [clientsOf_withoutClient, clientsOf_withoutClient]
      split
      · rfl
      · exact h.clients b id'
  unfold World.withoutClient at hclients ⊢
  rw [World.setDex_eq v, World.setDex_eq w] at hclients ⊢
  exact { h with clients := hclients }

theorem withDrawn (h : SameButSecrets v w) (i j : Nat) :
    SameButSecrets { v with secretsDrawn := i } { w with secretsDrawn := j } :=
  { h with }

/-! ### A connection opened on one side only -/

theorem connectLeft (h : SameButSecrets v w) {a : String} (ha : checkAddress a = .ok ()) :
    SameButSecrets ((v.withConnect a).withConnected a) w := by
  have hclients : ∀ b id,
      (((v.withConnect a).withConnected a).clientsOf b id).length = (w.clientsOf b id).length :=
    fun b id => by rw [clientsOf_withConnect, h.clients b id]
  have hreaches : ∀ b, ((v.withConnect a).withConnected a).Reaches b ↔ w.Reaches b :=
    fun b => (reaches_withConnect v ha b).trans (h.reaches b)
  unfold World.withConnected World.withConnect at hclients hreaches ⊢
  rw [World.setDex_eq v] at hclients hreaches ⊢
  exact { h with clients := hclients, reaches := hreaches }

theorem connectRight (h : SameButSecrets v w) {a : String} (ha : checkAddress a = .ok ()) :
    SameButSecrets v ((w.withConnect a).withConnected a) :=
  (h.symm.connectLeft ha).symm

theorem appSteady (k : ObjectKey) : AppSteady SameButSecrets k where
  toSteady := steady
  ingress _ _ h := h.ingresses k
  keyed _ _ h := h.keyedLeft
  surroundings _ _ h := h.surroundings
  reaches _ _ a h := h.reaches a
  clients _ _ a h := h.holdsClient_eq a k.text
  withIngress _ _ y h := h.withIngress y
  withoutSecret _ _ k' h := h.withoutSecret k'
  withoutDeployment _ _ k' h := h.withoutDeployment k'
  withoutService _ _ k' h := h.withoutService k'
  withoutClient _ _ a h := h.withoutClient a k.text
  connectLeft _ _ _ h ha := h.connectLeft ha
  connectRight _ _ _ h ha := h.connectRight ha

end SameButSecrets

end World

open World

/-! ## The sagas, blind to the values of secrets -/

section Sagas

/-- The proxy's Secret holds no client secret. -/
theorem storedClientSecret_proxy (plan : ProxyPlan) :
    storedClientSecret (some plan.objects.secret) = none := by
  simp [storedClientSecret, ProxyPlan.objects, clientSecretKey, List.lookup_cons]

/-- The proxy's Service depends on the app alone. -/
theorem service_objects_eq {plan plan' : ProxyPlan} (h : plan.app = plan'.app) :
    plan.objects.service = plan'.objects.service := by
  simp only [ProxyPlan.objects, h]

/-- Each side draws its own next secret. -/
theorem freshSecret_coupled :
    Coupled SameButSecrets freshSecret freshSecret
      (fun s s' v w => SameButSecrets v w ∧ (∃ d, s = secretOf d) ∧ ∃ d, s' = secretOf d)
      SameButSecrets :=
  fun _ _ h => ⟨h.withDrawn _ _, ⟨_, rfl⟩, ⟨_, rfl⟩⟩

/-- Registering reads whether a client secret is stored, not its value: both sides take the same
way, each registering the secret it holds or draws. -/
theorem register_coupled {address : String} {app : OidcApp} :
    Coupled SameButSecrets (register address app) (register address app)
      (fun _ _ => SameButSecrets) SameButSecrets := by
  unfold register
  refine Coupled.get_bind (fun v w h => by dsimp only; rw [h.surroundings.1]) fun u => ?_
  dsimp only
  -- whether the Secret holds a client secret agrees on both sides
  have hread : Coupled SameButSecrets (getSecret ⟨u.home, clientSecretName app.id⟩)
      (getSecret ⟨u.home, clientSecretName app.id⟩)
      (fun s s' v w => SameButSecrets v w ∧
        (storedClientSecret s).isSome = (storedClientSecret s').isSome) SameButSecrets := by
    refine (getSecret_coupled SameButSecrets.steady).mono (fun _ _ h => h) (fun s s' v w h => ?_)
      (fun _ _ h => h)
    obtain ⟨h, rfl, rfl⟩ := h
    exact ⟨h, h.stored _⟩
  have hcreate : ∀ s s' : String, Coupled SameButSecrets
      (do
        let _ ← Op.within "could not create Dex client" (dexCreateClient address
          { id := app.id, name := app.name, secret := s, redirectUris := [app.callbackUrl] })
        Pure.pure ({ clientId := app.id, clientSecret := s } : Registration))
      (do
        let _ ← Op.within "could not create Dex client" (dexCreateClient address
          { id := app.id, name := app.name, secret := s', redirectUris := [app.callbackUrl] })
        Pure.pure ({ clientId := app.id, clientSecret := s' } : Registration))
      (fun _ _ => SameButSecrets) SameButSecrets := fun s s' =>
    Coupled.bind (Coupled.within _ (dexCreateClient_coupled rfl SameButSecrets.steady
      (fun _ _ h => h.holdsClient_eq address app.id) fun _ _ h => h.withClients address rfl))
      fun _ _ => Coupled.pure fun _ _ h => h
  refine Coupled.bind (Coupled.within _ hread) fun stored stored' => ?_
  -- both sides reuse the secret they hold, or both draw one and store it
  cases hs : storedClientSecret stored <;> cases hs' : storedClientSecret stored'
  case none.none =>
    refine Coupled.bind (freshSecret_coupled.mono (fun _ _ h => h.1) (fun _ _ _ _ h => h)
      (fun _ _ h => h)) fun s s' => Coupled.assume fun hdrawn => ?_
    obtain ⟨⟨d, rfl⟩, d', rfl⟩ := hdrawn
    refine Coupled.bind (Coupled.within _ (modifyCluster_coupled SameButSecrets.steady
      fun _ _ h => h.withSecrets rfl (by
        simp only [storedClientSecret_secretOf, Option.isSome_some]))) fun _ _ => ?_
    refine Coupled.lockstep_bind (Lockstep.within _ (dexDeleteClient_lockstep
      SameButSecrets.steady (fun _ _ h => h.holdsClient_eq address app.id)
      fun _ _ h => h.withoutClient address app.id)) fun _ => ?_
    exact Coupled.bind (Coupled.pure fun _ _ h => h) hcreate
  case none.some => exact fun _ _ h => absurd h.2 (by simp)
  case some.none => exact fun _ _ h => absurd h.2 (by simp)
  case some.some => exact Coupled.bind (Coupled.pure fun _ _ h => h.1) hcreate

/-- Provisioning two plans for one app: the proxy's Secrets and Deployments differ in what they
hold only, and its Service and the ingress are the same. -/
theorem provision_coupled {k : ObjectKey} {plan plan' : ProxyPlan} (happ : plan.app = plan'.app)
    (hk : plan.app.ingressKey = k) :
    Coupled SameButSecrets (provision plan) (provision plan') (fun _ _ => SameButSecrets)
      SameButSecrets := by
  unfold provision
  refine Coupled.bind (Coupled.within _ (modifyCluster_coupled SameButSecrets.steady
    fun _ _ h => h.withSecrets (by simp [happ])
      (by rw [storedClientSecret_proxy, storedClientSecret_proxy]))) fun _ _ => ?_
  refine Coupled.bind (Coupled.within _ (modifyCluster_coupled SameButSecrets.steady
    fun _ _ h => h.withDeployments (by simp [happ]))) fun _ _ => ?_
  rw [← service_objects_eq happ, ← happ]
  refine Coupled.lockstep_bind (Lockstep.within _ (modifyCluster_lockstep SameButSecrets.steady
    fun _ _ h => h.withService _)) fun _ => ?_
  exact (Coupled.of_lockstep (swapBackend_lockstep (SameButSecrets.appSteady k) hk _)).mono
    (fun _ _ h => h) (fun _ _ _ _ h => h.2) (fun _ _ h => h)

/-- Securing an app runs alike from two worlds that differ in secret values only. -/
theorem secureApp_sameButSecrets {k : ObjectKey} {app : App} (hk : app.ingressKey = k) :
    Lockstep SameButSecrets (secureApp app) (fun _ => SameButSecrets) SameButSecrets := by
  refine Coupled.lockstep ?_
  unfold secureApp
  refine Coupled.lockstep_bind (Lockstep.within _ (getAuthBackend_lockstep SameButSecrets.steady
    fun _ _ h => h.surroundings.2.1)) fun backend => ?_
  refine Coupled.lockstep_bind (Lockstep.within _
    (registererFor_alike (SameButSecrets.appSteady k))) fun address => ?_
  refine Coupled.bind (Coupled.within _ register_coupled) fun _ _ => ?_
  refine Coupled.lockstep_bind (Lockstep.within _
    (backupOrGet_lockstep (SameButSecrets.appSteady k) hk _)) fun backup => ?_
  refine Coupled.lockstep_bind (Lockstep.within _ (routeService_lockstep SameButSecrets.steady
    fun _ _ h => h.surroundings.2.2.1)) fun route => ?_
  exact Coupled.within _ (provision_coupled rfl hk)

theorem secureBranch_sameButSecrets (ing : Ingress) :
    Lockstep SameButSecrets (secureBranch ing) (fun _ => SameButSecrets) SameButSecrets := by
  unfold secureBranch
  refine Lockstep.bind (appOf_lockstep SameButSecrets.steady (fun _ _ h => h.surroundings.2.2.2)
    ing) fun app => Lockstep.assume fun happ => ?_
  refine Lockstep.bind (Lockstep.within _ (secureApp_sameButSecrets happ.1)) fun _ => ?_
  exact Lockstep.bind (ensureMarked_lockstep (SameButSecrets.appSteady _)) fun _ =>
    Lockstep.pure fun _ _ h => h

/-- A reconciliation runs alike from two worlds that differ in secret values only: the same
outcome or the same failure, and two worlds that again differ in secret values only. -/
theorem reconcile_sameButSecrets (ing : Ingress) :
    Lockstep SameButSecrets (reconcile ing) (fun _ => SameButSecrets) SameButSecrets :=
  reconcile_lockstep_of (SameButSecrets.appSteady _) (fun _ _ h => h) fun _ _ _ _ =>
    secureBranch_sameButSecrets ing

end Sagas

end IngressGuard
