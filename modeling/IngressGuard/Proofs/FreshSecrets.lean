import IngressGuard.Proofs.LookAlike

/-!
# When a step draws a fresh client secret

A fresh client secret is drawn in one place only: registering an app that has no client secret
stored. Registering comes after the app's auth backend has been looked up and found to be a Dex
the world can use (`World.Serves`). So a step on an ingress from a quiet world draws one secret
exactly when the step secures the ingress, its auth backend serves and no client secret is stored
for its app (`Ingress.DrawsIn`), and none otherwise (`handle_secretsDrawn`); no step changes the
stream the secrets are drawn from (`handle_draws`).

A step that draws nothing never reads the next draw. It runs in lockstep from two worlds that
look alike to it, whatever secret each would hand out next (`reconcile_lockstep_undrawn`): securing
an app whose backend does not serve fails before it registers, on both sides alike.
-/

namespace IngressGuard

open IngressGuard.Kube IngressGuard.Dex

namespace World

/-- The world can register apps of the auth backend `id`: the backend is a Dex whose address the
world can use. -/
def Serves (w : World) (id : String) : Prop :=
  ∃ spec dex, w.backends.lookup id = some spec ∧ spec.dex = some dex ∧ w.Reaches dex.apiAddress

/-- `v` draws from the stream of `u` and has taken `d` more draws than `u`. -/
def DrawnSince (u : World) (d : Nat) (v : World) : Prop :=
  v.draws = u.draws ∧ v.secretsDrawn = u.secretsDrawn + d

/-- `v` agrees with `u` on what securing an app of the backend `id` and the id `appId` reads
before it registers: whether the backend serves and which client secret is stored for the app;
and it has drawn as `u`. -/
def ReadsLike (u : World) (id appId : String) (v : World) : Prop :=
  u.DrawnSince 0 v ∧ (v.Serves id ↔ u.Serves id) ∧ v.storedSecretOf appId = u.storedSecretOf appId

variable {u v : World} {d : Nat} {id appId : String}

theorem calm_drawnSince (u : World) (d : Nat) : Calm (u.DrawnSince d) :=
  fun _ _ _ => Iff.rfl

theorem calm_readsLike (u : World) (id appId : String) : Calm (u.ReadsLike id appId) :=
  fun _ _ _ => Iff.rfl

theorem ReadsLike.refl (u : World) (id appId : String) : u.ReadsLike id appId u :=
  ⟨⟨rfl, rfl⟩, Iff.rfl, rfl⟩

theorem DrawnSince.draw (h : u.DrawnSince d v) :
    u.DrawnSince (d + 1) { v with secretsDrawn := v.secretsDrawn + 1 } :=
  ⟨h.1, by simp only [h.2, Nat.add_assoc]⟩

/-- Changing a Dex server draws nothing. -/
theorem DrawnSince.setDex (h : u.DrawnSince d v) (a : String) (s : DexServer) :
    u.DrawnSince d (v.setDex a s) := by
  rw [setDex_eq]
  exact h

/-- Where the backend is found, it serves exactly when its Dex's address can be used. -/
theorem serves_of_lookup {spec : Auth.AuthBackendSpec} {dex : Auth.DexSpec}
    (hl : v.backends.lookup id = some spec) (hd : spec.dex = some dex) :
    v.Serves id ↔ v.Reaches dex.apiAddress := by
  refine ⟨fun h => ?_, fun h => ⟨spec, dex, hl, hd, h⟩⟩
  obtain ⟨spec', dex', hl', hd', hr⟩ := h
  rw [hl] at hl'
  cases hl'
  rw [hd] at hd'
  cases hd'
  exact hr

/-- Connecting to a well-formed address changes which backends serve in no way. -/
theorem serves_withConnect (w : World) {a : String} (ha : checkAddress a = .ok ()) (id : String) :
    ((w.withConnect a).withConnected a).Serves id ↔ w.Serves id := by
  have hb : ((w.withConnect a).withConnected a).backends = w.backends := backends_setDex w a _
  unfold Serves
  simp only [hb, reaches_withConnect w ha]

theorem ReadsLike.withConnect (h : u.ReadsLike id appId v) {a : String}
    (ha : checkAddress a = .ok ()) : u.ReadsLike id appId ((v.withConnect a).withConnected a) := by
  refine ⟨h.1.setDex a _, (serves_withConnect v ha id).trans h.2.1, ?_⟩
  unfold World.withConnected World.withConnect
  rw [setDex_eq]
  exact h.2.2

theorem Quiet.withConnect (hq : v.Quiet) (a : String) : ((v.withConnect a).withConnected a).Quiet := by
  unfold World.withConnected World.withConnect
  rw [setDex_eq]
  exact hq

/-- Worlds with the same cells of an app hand it the same client secret when one is stored. -/
theorem SameApp.secretToUse_eq_of_stored {k : ObjectKey} {w : World} (h : v.SameApp k w)
    (hs : (v.storedSecretOf k.text).isSome) : v.secretToUse k.text = w.secretToUse k.text := by
  have hstored : v.storedSecretOf k.text = w.storedSecretOf k.text := by
    rw [storedSecretOf, storedSecretOf, h.clientSecret]
  obtain ⟨s, hsv⟩ := Option.isSome_iff_exists.1 hs
  rw [secretToUse_of_stored hsv, secretToUse_of_stored (hstored ▸ hsv)]

/-- A world that has drawn `d` more than `v` from its stream, with the cells of an app as in `v`,
hands the app the secret stored in `v`, or else the draw `d` places past where `v` stands. -/
theorem SameApp.secretToUse_drawnSince {k : ObjectKey} {w : World} (h : v.SameApp k w)
    (hd : v.DrawnSince d w) :
    w.secretToUse k.text = (v.storedSecretOf k.text).getD (secretOf (v.draws (v.secretsDrawn + d))) := by
  rw [secretToUse, hd.1, hd.2, storedSecretOf, storedSecretOf, h.clientSecret]

end World

open World

/-- Handling the ingress from `w` draws a fresh client secret: the ingress has the supported
shape, asks for security, is not being deleted and is handled, so the step secures it; its auth
backend serves in `w`; and no client secret is stored for its app. -/
def Kube.Ingress.DrawsIn (ing : Ingress) (w : World) : Prop :=
  ing.validate = .ok () ∧ ing.wantsSecurity = true ∧ ing.isDeleting = false ∧
    ing.isHandled = true ∧ w.Serves ing.authBackendId ∧ w.storedSecretOf ing.metadata.key.text = none

/-- A step on another app, at a key whose client secret has a Secret of another name, leaves
whether the ingress draws as it was: the step keeps the backends, the usable addresses and the
ingress's cells. -/
theorem Kube.Ingress.drawsIn_beyond {ing : Ingress} {k : ObjectKey} {v w : World}
    (h : v.Beyond k w) (hk : ing.metadata.key ≠ k)
    (hnames : clientSecretName ing.metadata.key.text ≠ clientSecretName k.text) :
    ing.DrawsIn v ↔ ing.DrawsIn w := by
  have hserves : v.Serves ing.authBackendId ↔ w.Serves ing.authBackendId := by
    unfold Serves
    simp only [h.surroundings.2.1, h.reaches]
  have hstored : v.storedSecretOf ing.metadata.key.text = w.storedSecretOf ing.metadata.key.text := by
    rw [storedSecretOf, storedSecretOf, (h.sameApp hk hnames).clientSecret]
  unfold Kube.Ingress.DrawsIn
  rw [hserves, hstored]

/-! ## Counting the draws of a step -/

section Counting

variable {u : World} {d : Nat}

/-- Registering with a client secret stored draws none. -/
theorem register_reuses_drawn {address : String} {app : OidcApp} :
    Triple (fun v => u.DrawnSince d v ∧ (v.storedSecretOf app.id).isSome) (register address app)
      (fun _ => u.DrawnSince d) (u.DrawnSince d) := by
  have hfine : Fine (u.DrawnSince d) (u.DrawnSince d) := Fine.keep (calm_drawnSince u d)
  refine @register_triple _ address app _ (fun _ _ => False) (fun _ => u.DrawnSince d) _
    (Fine.of_calm (fun _ _ _ => Iff.rfl) (fun _ hw => hw.1) (calm_drawnSince u d))
    (fun _ => Fine.of_calm (fun _ _ _ => Iff.rfl) (fun _ h => h.elim) (calm_drawnSince u d))
    (fun _ => hfine) ?reuse ?draw ?store ?delete ?held ?new
  case reuse => exact fun _ _ hw _ => hw.1
  case draw =>
    -- the stored secret is what registering reads, so it finds one
    intro w hw hnone
    have hsome := hw.2
    rw [storedSecretOf, hnone] at hsome
    cases hsome
  case store => exact fun _ _ h => h.elim
  -- the Dex writes change no draw
  case delete => exact fun _ _ hw => hw.setDex _ _
  case held => exact fun _ _ hw _ => hw
  case new => exact fun _ _ hw _ => hw.setDex _ _

/-- Registering with no client secret stored, from a quiet world, draws one. -/
theorem register_draws_drawn {address : String} {app : OidcApp} :
    Triple (fun v => (u.DrawnSince d v ∧ v.storedSecretOf app.id = none) ∧ v.Quiet)
      (register address app) (fun _ => u.DrawnSince (d + 1)) (u.DrawnSince (d + 1)) := by
  have hfine : Fine (u.DrawnSince (d + 1)) (u.DrawnSince (d + 1)) :=
    Fine.keep (calm_drawnSince u (d + 1))
  refine @register_triple _ address app _ (fun _ => u.DrawnSince (d + 1))
    (fun _ => u.DrawnSince (d + 1)) _
    (Fine.quiet ((calm_drawnSince u d).and fun _ _ _ => Iff.rfl)) (fun _ => hfine)
    (fun _ => hfine) ?reuse ?draw ?store ?delete ?held ?new
  case reuse =>
    -- none is stored, so registering finds none to reuse
    intro w s hw hs
    have hnone := hw.1.2
    rw [storedSecretOf, hs] at hnone
    cases hnone
  case draw => exact fun _ hw _ => hw.1.1.draw
  case store => exact fun _ _ hw => hw
  case delete => exact fun _ _ hw => hw.setDex _ _
  case held => exact fun _ _ hw _ => hw
  case new => exact fun _ _ hw _ => hw.setDex _ _

/-- The backend looked up is the one the world names under the id. -/
theorem getAuthBackend_looksUp {pre err : World → Prop} {id : String} (hfine : Fine pre err)
    (hmissing : ∀ w, pre w → w.backends.lookup id = none → err w) :
    Triple pre (getAuthBackend id)
      (fun backend w => pre w ∧ ∃ spec, w.backends.lookup id = some spec ∧
        backend.dex = spec.dex.map fun d => ⟨d.apiAddress, d.publicUrl⟩) err :=
  getAuthBackend_triple (hfine _ _) (fun _ spec hw hl => ⟨hw, spec, hl, rfl⟩) hmissing

/-- A registerer is found for the backend looked up under `id` only where that backend serves. -/
theorem registererFor_serves {pre err : World → Prop} {id : String} {backend : AuthBackend}
    (hfine : Fine pre err)
    (hconnect : ∀ w a, pre w → checkAddress a = .ok () → pre ((w.withConnect a).withConnected a))
    (hunserved : ∀ w, pre w → ¬ w.Serves id → err w) :
    Triple (fun w => pre w ∧ ∃ spec, w.backends.lookup id = some spec ∧
        backend.dex = spec.dex.map fun d => ⟨d.apiAddress, d.publicUrl⟩)
      (registererFor backend) (fun _ w => pre w ∧ w.Serves id) err := by
  -- the Dex of the backend is the Dex of the spec found, at the same address
  have hspec : ∀ w : World, (∃ spec, w.backends.lookup id = some spec ∧
      backend.dex = spec.dex.map fun d => ⟨d.apiAddress, d.publicUrl⟩) → ∀ dex,
      backend.dex = some dex → (w.Serves id ↔ w.Reaches dex.apiUrl) := by
    intro w hw dex hd
    obtain ⟨spec, hl, hb⟩ := hw
    rw [hd] at hb
    obtain ⟨d, hsd, hdex⟩ := Option.map_eq_some_iff.1 hb.symm
    rw [serves_of_lookup hl hsd, ← hdex]
  refine registererFor_triple (hfine.and fun _ _ _ => Iff.rfl) ?unknown ?held ?connect ?bad
  case unknown =>
    -- a backend of no Dex does not serve
    intro hd w hw
    obtain ⟨spec, hl, hb⟩ := hw.2
    refine hunserved w hw.1 fun hs => ?_
    obtain ⟨spec', dex', hl', hd', -⟩ := hs
    rw [hl] at hl'
    cases hl'
    rw [hd, hd'] at hb
    cases hb
  case held => exact fun dex hd w hw hc => ⟨hw.1, (hspec w hw.2 dex hd).2 (.inl hc)⟩
  case connect =>
    intro dex hd w hw _ ha
    refine ⟨hconnect w _ hw.1 ha, ?_⟩
    rw [serves_withConnect w ha]
    exact (hspec w hw.2 dex hd).2 (.inr ha)
  case bad =>
    -- an address neither held nor well formed cannot be used
    intro dex hd w hw hc ha
    refine hunserved w hw.1 fun hs => ?_
    obtain ⟨e, he⟩ := ha
    rcases (hspec w hw.2 dex hd).1 hs with hc' | ha'
    · rw [hc] at hc'
      cases hc'
    · rw [he] at ha'
      cases ha'

/-- A condition that ignores log and plan and that no write of rolling back touches is kept by
rolling back. -/
theorem rollbackApp_keeps {P : World → Prop} (hP : Calm P) {app : App}
    (hwrite : ∀ w ing, P w → P (w.withIngress ing))
    (hservice : ∀ w k, P w → P (w.withoutService k))
    (hdeployment : ∀ w k, P w → P (w.withoutDeployment k))
    (hsecret : ∀ w k, P w → P (w.withoutSecret k))
    (hconnect : ∀ w a, P w → P ((w.withConnect a).withConnected a))
    (hclient : ∀ w a id, P w → P (w.withoutClient a id)) :
    Triple P (rollbackApp app) (fun _ => P) P := by
  have hfine : Fine P P := Fine.keep hP
  unfold rollbackApp
  refine Triple.bind (Triple.within _ (getBackup_keeps hfine fun _ hw => hw)) fun backup => ?_
  cases backup with
  | none => exact Triple.fail fun _ hw => hw
  | some r =>
    refine Triple.bind (Triple.within _ (unprovision_triple
      (swapBackend_keeps hfine (fun _ hw => hw) hwrite) hfine (fun w hw => hservice w _ hw)
      (fun w hw => hdeployment w _ hw) (fun w hw => hsecret w _ hw))) fun _ => ?_
    refine Triple.bind (Triple.within _ (getAuthBackend_keeps hfine fun _ hw => hw))
      fun backend => ?_
    refine Triple.bind (Triple.within _ (registererFor_keeps hfine (fun _ hw => hw) hconnect))
      fun address => ?_
    refine Triple.bind (Triple.within _ (unregister_keeps hfine (fun w hw => hclient w _ _ hw)
      (fun w hw => hsecret w _ hw))) fun _ => ?_
    exact Triple.within _ (deleteBackup_keeps hfine (fun _ hw => hw) hwrite)

/-- Securing an app from a quiet world draws one client secret when its backend serves and no
client secret is stored for it, and none otherwise: `d` is that count. -/
theorem secureApp_draws {app : App}
    (hd : (u.Serves app.authBackendId ∧ u.storedSecretOf app.id = none → d = 1) ∧
      (¬ (u.Serves app.authBackendId ∧ u.storedSecretOf app.id = none) → d = 0)) :
    Triple (fun v => u.ReadsLike app.authBackendId app.id v ∧ v.Quiet) (secureApp app)
      (fun _ => u.DrawnSince d) (u.DrawnSince d) := by
  have hfineQ : Fine (fun v => u.ReadsLike app.authBackendId app.id v ∧ v.Quiet) (u.DrawnSince d) :=
    Fine.quiet (calm_readsLike u _ _)
  have hfine : Fine (u.DrawnSince d) (u.DrawnSince d) := Fine.keep (calm_drawnSince u d)
  -- a failure before registering means the backend does not serve, so nothing is to be drawn
  have hunserved : ∀ v, u.ReadsLike app.authBackendId app.id v ∧ v.Quiet →
      ¬ v.Serves app.authBackendId → u.DrawnSince d v := fun v hv hns => by
    rw [hd.2 fun h => hns (hv.1.2.1.2 h.1)]
    exact hv.1.1
  unfold secureApp
  have hmissing : ∀ v, u.ReadsLike app.authBackendId app.id v ∧ v.Quiet →
      v.backends.lookup app.authBackendId = none → u.DrawnSince d v := fun v hv hl =>
    hunserved v hv fun hs => by
      obtain ⟨_, _, hl', _⟩ := hs
      rw [hl] at hl'
      cases hl'
  refine Triple.bind (Triple.within _ (getAuthBackend_looksUp hfineQ hmissing)) fun backend => ?_
  refine Triple.bind (Triple.within _ (registererFor_serves hfineQ
    (fun v a hv ha => ⟨hv.1.withConnect ha, hv.2.withConnect a⟩) hunserved)) fun address => ?_
  refine Triple.bind (Triple.within _
    (show Triple _ _ (fun _ => u.DrawnSince d) (u.DrawnSince d) from ?_)) fun credentials => ?_
  · -- registering draws exactly when no secret is stored, the backend serving by now
    cases hs : u.storedSecretOf app.id with
    | none =>
      intro v hv
      rw [hd.1 ⟨hv.1.1.2.1.1 hv.2, hs⟩]
      exact register_draws_drawn v ⟨⟨hv.1.1.1, by rw [hv.1.1.2.2, hs]⟩, hv.1.2⟩
    | some s =>
      rw [hd.2 fun h => by rw [hs] at h; cases h.2]
      refine register_reuses_drawn.mono (fun v hv => ⟨hv.1.1.1, ?_⟩) (fun _ _ h => h)
        (fun _ h => h)
      rw [hv.1.1.2.2, hs]
      rfl
  refine Triple.bind (Triple.within _ (backupOrGet_keeps hfine (fun _ hw => hw)
    fun _ _ hw => hw)) fun backup => ?_
  refine Triple.bind (Triple.within _ (routeService_keeps hfine fun _ hw => hw)) fun route => ?_
  exact Triple.within _ (provision_triple hfine (fun _ hw => hw) (fun _ hw => hw) (fun _ hw => hw)
    ((swapBackend_keeps hfine (fun _ hw => hw) fun _ _ hw => hw).mono (fun _ hw => hw.1)
      (fun _ _ h => h) (fun _ h => h)))

/-- The app of a valid ingress is named by the ingress's key and names its auth backend. -/
theorem appOf_names {pre err : World → Prop} {ing : Ingress} (hfine : Fine pre err)
    (hv : ing.validate = .ok ()) :
    Triple pre (appOf ing)
      (fun app w => pre w ∧ (app.authBackendId = ing.authBackendId ∧ app.id = ing.metadata.key.text))
      err :=
  appOf_valid hfine hv fun _ _ _ _ _ hw => ⟨hw, rfl, rfl⟩

/-- A reconciliation from a quiet world draws one client secret when the ingress draws there,
and none otherwise: `d` is that count. -/
theorem reconcile_draws (ing : Ingress)
    (hd : (ing.DrawsIn u → d = 1) ∧ (¬ ing.DrawsIn u → d = 0)) :
    Triple (fun v => u.ReadsLike ing.authBackendId ing.metadata.key.text v ∧ v.Quiet)
      (reconcile ing) (fun _ => u.DrawnSince d) (u.DrawnSince d) := by
  have hfineQ : Fine (fun v => u.ReadsLike ing.authBackendId ing.metadata.key.text v ∧ v.Quiet)
      (u.DrawnSince d) := Fine.quiet (calm_readsLike u _ _)
  have hfine : Fine (u.DrawnSince d) (u.DrawnSince d) := Fine.keep (calm_drawnSince u d)
  -- every way but securing rules out drawing, and then nothing is drawn
  have hnone : ¬ ing.DrawsIn u → ∀ v, u.ReadsLike ing.authBackendId ing.metadata.key.text v ∧
      v.Quiet → u.DrawnSince d v := fun hn v hv => by
    rw [hd.2 hn]
    exact hv.1.1
  refine reconcile_triple ?ignored ?invalid ?clean ?mark ?secure ?rollback
  case ignored =>
    intro hwants _ v hv
    exact hnone (fun h => by rw [h.2.1] at hwants; cases hwants) v hv
  case invalid =>
    intro e he v hv
    exact hnone (fun h => by rw [h.1] at he; cases he) v hv
  case clean =>
    intro _ hdel _ v hv
    exact hnone (fun h => by rw [h.2.2.1] at hdel; cases hdel) v hv
  case mark =>
    intro _ _ _ hh
    refine (ensureMarked_keeps hfine (fun _ hw => hw) fun _ _ hw => hw).mono
      (hnone fun h => ?_) (fun _ _ hw => hw) (fun _ hw => hw)
    rw [h.2.2.2.1] at hh
    cases hh
  case secure =>
    intro hv hw hdel hh
    unfold secureBranch
    refine Triple.bind (appOf_names hfineQ hv) fun app => Triple.assume fun happ => ?_
    -- securing the app reads the ingress's backend and the stored secret of its app
    have hdapp : (u.Serves app.authBackendId ∧ u.storedSecretOf app.id = none → d = 1) ∧
        (¬ (u.Serves app.authBackendId ∧ u.storedSecretOf app.id = none) → d = 0) := by
      rw [happ.1, happ.2]
      exact ⟨fun h => hd.1 ⟨hv, hw, hdel, hh, h⟩, fun h => hd.2 fun h' => h h'.2.2.2.2⟩
    rw [← happ.1, ← happ.2]
    refine Triple.bind (Triple.within _ (secureApp_draws hdapp)) fun _ => ?_
    exact Triple.bind (ensureMarked_keeps hfine (fun _ hw => hw) fun _ _ hw => hw) fun _ =>
      Triple.pure fun _ hw => hw
  case rollback =>
    intro hv _ _ hoff
    have hn : ¬ ing.DrawsIn u := fun h => by
      rcases hoff with hoff | hoff
      · rw [h.2.1] at hoff; cases hoff
      · rw [h.2.2.1] at hoff; cases hoff
    refine Triple.mono ?_ (hnone hn) (fun _ _ hw => hw) (fun _ hw => hw)
    unfold rollbackBranch
    refine Triple.bind (appOf_keeps hfine hv) fun app => ?_
    refine Triple.bind (Triple.within _ (rollbackApp_keeps (calm_drawnSince u d)
      (fun _ _ hw => hw) (fun _ _ hw => hw) (fun _ _ hw => hw) (fun _ _ hw => hw)
      (fun _ _ hw => hw.setDex _ _) (fun _ _ _ hw => hw.setDex _ _))) fun _ => ?_
    exact Triple.bind (ensureUnmarked_keeps hfine (fun _ hw => hw) fun _ _ hw => hw) fun _ =>
      Triple.pure fun _ hw => hw

/-- A step on an ingress from a quiet world keeps the stream of draws and takes one draw from it
when the ingress draws there, none otherwise. -/
theorem handle_drawnSince (ing : Ingress) {w : World} (hq : w.Quiet)
    (hd : (ing.DrawsIn w → d = 1) ∧ (¬ ing.DrawsIn w → d = 0)) :
    w.DrawnSince d ((Step.handle ing).apply w) :=
  Triple.lands (reconcile_draws ing hd) ⟨ReadsLike.refl w _ _, hq⟩ rfl

end Counting

/-! ## Steps that draw nothing run alike -/

section Undrawn

variable {k : ObjectKey} {m n : WriteCounts}

/-- Looking alike, with a backend that does not serve on the left, is kept by every call. -/
theorem steady_unserved (id : String) : Steady fun v w => LookAlike k m n v w ∧ ¬ v.Serves id :=
  LookAlike.steady.and_left fun _ _ _ h => h

/-- Securing an app whose backend does not serve fails alike on both sides before it registers,
whatever secret each side would draw. -/
theorem secureApp_lockstep_unserved {app : App} :
    Lockstep (fun v w => LookAlike k m n v w ∧ ¬ v.Serves app.authBackendId) (secureApp app)
      (fun _ => LookAlike k m n) (LookAlike k m n) := by
  -- the left side is followed on its own: quiet, its backend not serving
  have hfine : Fine (fun v => ¬ v.Serves app.authBackendId ∧ v.Quiet) (fun _ => True) :=
    Fine.quiet fun _ _ _ => Iff.rfl
  unfold secureApp
  refine Lockstep.bind (((Lockstep.within _ (getAuthBackend_lockstep LookAlike.steady
    fun _ _ h => h.surroundings.2.1)).and_triples
    (Triple.within _ (getAuthBackend_looksUp hfine fun _ _ _ => trivial))
    (Triple.trivial : Triple (fun _ => True) _ _ _)).mono
    (fun _ _ h => ⟨h.1, ⟨h.2, h.1.quietLeft⟩, trivial⟩) (fun _ _ _ h => h) (fun _ _ h => h.1))
    fun backend => ?_
  refine Lockstep.bind (((Lockstep.within _ (registererFor_alike LookAlike.appSteady)).and_triples
    (Triple.within _ (registererFor_serves hfine
      (fun v a hv ha => ⟨fun hs => hv.1 ((serves_withConnect v ha _).1 hs), hv.2.withConnect a⟩)
      fun _ _ _ => trivial))
    (Triple.trivial : Triple (fun _ => True) _ _ _)).mono
    (fun _ _ h => h) (fun _ _ _ h => h) (fun _ _ h => h.1)) fun address => ?_
  -- a registerer found on the left means the backend serves there after all
  exact fun v w h => (h.2.1.1.1 h.2.1.2).elim

/-- Securing in a reconciliation, with the ingress's backend not serving on the left. -/
theorem secureBranch_lockstep_unserved (ing : Ingress) :
    Lockstep (fun v w => LookAlike ing.metadata.key m n v w ∧ ¬ v.Serves ing.authBackendId)
      (secureBranch ing) (fun _ => LookAlike ing.metadata.key m n)
      (LookAlike ing.metadata.key m n) := by
  unfold secureBranch
  refine Lockstep.bind ((appOf_lockstep (steady_unserved _) (fun _ _ h => h.1.surroundings.2.2.2)
    ing).mono (fun _ _ h => h) (fun _ _ _ h => h) (fun _ _ h => h.1))
    fun app => Lockstep.assume fun happ => ?_
  rw [← happ.2.2]
  refine Lockstep.bind (Lockstep.within _ secureApp_lockstep_unserved) fun _ => ?_
  exact Lockstep.bind (ensureMarked_lockstep LookAlike.appSteady) fun _ =>
    Lockstep.pure fun _ _ h => h

/-- A reconciliation runs in lockstep from two worlds that look alike to it when they would hand
its app the same client secret, or when the ingress draws none on the left. -/
theorem reconcile_lockstep_undrawn (ing : Ingress) :
    Lockstep (fun v w => LookAlike ing.metadata.key m n v w ∧
        (v.secretToUse ing.metadata.key.text = w.secretToUse ing.metadata.key.text ∨
          ¬ ing.DrawsIn v))
      (reconcile ing) (fun _ => LookAlike ing.metadata.key m n)
      (LookAlike ing.metadata.key m n) := by
  refine reconcile_lockstep_of LookAlike.appSteady (fun _ _ h => h.1) fun hv hw hdel hh v w h => ?_
  obtain ⟨hlook, hsame | hnot⟩ := h
  · exact secureBranch_lockstep ing v w ⟨hlook, hsame⟩
  -- securing that draws nothing: the backend does not serve, or the stored secret is handed out
  by_cases hs : v.Serves ing.authBackendId
  · cases hst : v.storedSecretOf ing.metadata.key.text with
    | none => exact (hnot ⟨hv, hw, hdel, hh, hs, hst⟩).elim
    | some t =>
      exact secureBranch_lockstep ing v w
        ⟨hlook, hlook.app.secretToUse_eq_of_stored (by rw [hst]; rfl)⟩
  · exact secureBranch_lockstep_unserved ing v w ⟨hlook, hs⟩

end Undrawn

end IngressGuard
