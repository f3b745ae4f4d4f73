import IngressGuard.Proofs.Restart.Securing
import IngressGuard.Proofs.Restart.RollingBack
import IngressGuard.Proofs.RollbackProgress

/-!
# The sagas can be restarted

A saga stopped by a failed call leaves behind part of what it was writing. Both sagas can be run
again from there: with no call failing, the second run returns and leaves the objects that one
uninterrupted run from the first world leaves, up to the value of a freshly drawn client secret.

The argument is in three parts. What a saga writes is a few cells: the app's ingress, its proxy
objects, the Secret of its client secret, the clients at one Dex and the connections; everything
else stays as it was (`World.SameOutside`). A run that fails, whatever faults it met, leaves each
cell as it found it or as the saga sets it (`Securing.Partial`, `RollingBack.Partial`). From any
such world, a run that no fault fails sets every cell (`Securing.Final`, `RollingBack.Final`),
and two worlds with every cell set hold the same objects. The secret is the one exception:
securing reuses a stored secret, so it draws a new one only where none is stored, and a draw the
failed run made before storing its secret is lost.

Securing needs the agreement between Dex and the stored secrets (`World.SecretsAgree`): a client
of the app held without its secret stored would be kept by Dex with its old secret. Both sagas
need their ingress stored under its own key, as every store keeps it.
-/

namespace IngressGuard

open IngressGuard.Kube IngressGuard.Dex

/-! ## Restarting a saga -/

/-- A saga restarts from `w` into worlds `E` holds of: whenever a run of it from `w` fails, under
any faults, a run with no fault from where it stopped returns into a world `E` holds of. -/
def Restartable (x : Op Unit) (w : World) (E : World → Prop) : Prop :=
  ∀ (faults faults' : List (CallKind × FaultPlan)) (e : Failure) (v : World),
    exec x { w with faults } = (.error e, v) → ({ v with faults := faults' } : World).Quiet →
    ∃ v', exec x { v with faults := faults' } = (.ok (), v') ∧ E v'

/-- Securing restarts from a world whose clients agree with the stored secrets, when an
uninterrupted run from it returns: the rerun ends in the objects of an uninterrupted run that
draws the client secret the rerun registers, and in those of the uninterrupted run from the world
itself when that world stores a client secret for the app. -/
theorem secureApp_restartable {app : App} {w wB : World} (hagree : w.SecretsAgree)
    (hkeyed : w.cluster.WellKeyed) (hq : w.Quiet) (hB : exec (secureApp app) w = (.ok (), wB)) :
    Restartable (secureApp app) w fun wC =>
      (∃ n wB', exec (secureApp app) { w with secretsDrawn := n } = (.ok (), wB') ∧
        wC.SameObjects wB') ∧
      ((w.storedSecretOf app.id).isSome → wC.SameObjects wB) := by
  obtain ⟨p, rfl, hready⟩ :=
    (Securing.secureApp_ready hkeyed).returns ⟨⟨rfl, rfl, rfl, rfl⟩, rfl, rfl⟩ hB
  intro faults faults' e wA hA hq'
  -- the failed run left a partial securing, whatever faults the rerun is given
  have hpartial : p.Partial w { wA with faults := faults' } :=
    (Securing.calm_partial wA faults' wA.calls).2 (hready.stops hagree hA)
  obtain ⟨wC, hC, hfinal⟩ := hready.finishes hagree hpartial hq'
  refine ⟨wC, hC, ?_, fun hs => ?_⟩
  · -- the uninterrupted run after `n` draws registers the secret the rerun registers
    obtain ⟨n, hn⟩ := hpartial.drawnFrom
    obtain ⟨wB', hB', hfinalB⟩ :=
      (hready.withDrawn n).finishes hagree (hready.withDrawn n).partial hq
    rw [hn] at hfinalB
    exact ⟨n, wB', hB', hfinal.sameObjects hfinalB (World.sameObjects_withDrawn w n)⟩
  · -- both runs register the secret stored
    obtain ⟨t, ht⟩ := Option.isSome_iff_exists.1 hs
    obtain ⟨wB', hB', hfinalB⟩ := hready.finishes hagree hready.partial hq
    rw [hB] at hB'
    obtain rfl := (Prod.mk.inj hB').2
    rw [World.secretToUse_of_stored ht] at hfinalB
    rw [hpartial.secretToUse_of_stored ht] at hfinal
    exact hfinal.sameObjects hfinalB (World.SameObjects.refl w)

/-- Rolling back restarts from any world an uninterrupted run from returns: the rerun ends in the
objects of that run. -/
theorem rollbackApp_restartable {app : App} {w wB : World} (hkeyed : w.cluster.WellKeyed)
    (hq : w.Quiet) (hB : exec (rollbackApp app) w = (.ok (), wB)) :
    Restartable (rollbackApp app) w fun wC => wC.SameObjects wB := by
  obtain ⟨p, rfl, hready⟩ :=
    (RollingBack.rollbackApp_ready hkeyed).returns ⟨⟨rfl, rfl, rfl, rfl⟩, rfl, rfl⟩ hB
  intro faults faults' e wA hA hq'
  have hpartial : p.Partial w { wA with faults := faults' } :=
    (RollingBack.calm_partial wA faults' wA.calls).2 (hready.stops hA)
  obtain ⟨wC, hC, hfinal⟩ := hready.finishes hpartial hq'
  obtain ⟨wB', hB', hfinalB⟩ := hready.finishes hready.partial hq
  rw [hB] at hB'
  obtain rfl := (Prod.mk.inj hB').2
  exact ⟨wC, hC, hfinal.sameObjects hfinalB (World.SameObjects.refl w)⟩

/-- Both sagas can be restarted. From a world whose clients agree with the stored secrets and from
which an uninterrupted run of a saga returns, whenever a run of that saga fails under any faults,
a rerun with no fault from where it stopped returns into the objects of an uninterrupted run: for
rolling back, the run from the world; for securing, one that draws the client secret the rerun
registers, and the run from the world when the world stores a client secret. -/
theorem sagas_restart {app : App} {w : World} (hagree : w.SecretsAgree)
    (hkeyed : w.cluster.WellKeyed) (hq : w.Quiet) :
    (∀ wB, exec (secureApp app) w = (.ok (), wB) → Restartable (secureApp app) w fun wC =>
      (∃ n wB', exec (secureApp app) { w with secretsDrawn := n } = (.ok (), wB') ∧
        wC.SameObjects wB') ∧
      ((w.storedSecretOf app.id).isSome → wC.SameObjects wB)) ∧
    (∀ wB, exec (rollbackApp app) w = (.ok (), wB) →
      Restartable (rollbackApp app) w fun wC => wC.SameObjects wB) :=
  ⟨fun _ hB => secureApp_restartable hagree hkeyed hq hB,
    fun _ hB => rollbackApp_restartable hkeyed hq hB⟩

/-- The app of the sample ingress. -/
def portedApp : App :=
  { id := "shop/web", authBackendId := "dex", host := "web.example"
    ingress := { name := "web", ns := "shop",
                 target := { name := "web", ns := "shop", portText := "http" } } }

/-- In the sample world, whose Dex holds no client yet, both sagas for the app of the sample
ingress can be restarted. -/
theorem sample_sagas_restart :
    (portedWorld { name := some "http" }).SecretsAgree ∧
    (portedWorld { name := some "http" }).cluster.WellKeyed ∧
    (portedWorld { name := some "http" }).Quiet ∧
    (∀ wB, exec (secureApp portedApp) (portedWorld { name := some "http" }) = (.ok (), wB) →
      Restartable (secureApp portedApp) (portedWorld { name := some "http" }) fun wC =>
        (∃ n wB', exec (secureApp portedApp)
            { portedWorld { name := some "http" } with secretsDrawn := n } = (.ok (), wB') ∧
          wC.SameObjects wB') ∧
        (((portedWorld { name := some "http" }).storedSecretOf portedApp.id).isSome →
          wC.SameObjects wB)) ∧
    (∀ wB, exec (rollbackApp portedApp) (portedWorld { name := some "http" }) = (.ok (), wB) →
      Restartable (rollbackApp portedApp) (portedWorld { name := some "http" })
        fun wC => wC.SameObjects wB) := by
  have hagree : (portedWorld { name := some "http" }).SecretsAgree := fun a id client hmem => by
    simp [World.dexAt, portedWorld] at hmem
  have hkeyed := (portedWorld_marksAgree { name := some "http" }).wellKeyed
  have hq : (portedWorld { name := some "http" }).Quiet := fun _ hp => by simp [portedWorld] at hp
  exact ⟨hagree, hkeyed, hq, sagas_restart hagree hkeyed hq⟩

end IngressGuard
