import Mathlib.Data.List.Basic
import IngressGuard.Proofs.SecretValues

/-!
# Handling two ingresses in either order

A step on the ingress at `kA` keeps to the cells of its app (`reconcile_beyond`) and reads only
those, the surroundings and which Dex addresses it can use (`reconcile_lockstep`). So a step on
another app, at `kB`, changes nothing it reads, and the two steps can be taken in either order
with the same results and the same objects at the end (`handling_commutes`), as long as their
cells are apart: the keys differ, and so do the names of the Secrets of their client secrets.

There is one thing both steps can read and change: the stream of draws that fresh client secrets
come from. An app with no client secret stored is registered with the next draw, so when both
steps draw one, each app gets the draw of its place in the handling order, and the two orders
leave different client secrets (`handling_order_exchanges_secrets`). That is the only difference:
handling `kB` first from the world whose next two draws are exchanged ends as handling `kA` first
does, and since no step reads a secret's value (`reconcile_sameButSecrets`), the two orders from
the world itself return the same and end with the same objects but for the secrets they hold.
When at most one of the steps draws, the two orders end alike from the world itself.
-/

namespace IngressGuard

open IngressGuard.Kube

/-- Neither the namespace nor the name of the key holds a `/`. -/
def ObjectKey.Plain (k : ObjectKey) : Prop :=
  '/' ∉ k.ns.toList ∧ '/' ∉ k.name.toList

instance (k : ObjectKey) : Decidable k.Plain :=
  inferInstanceAs (Decidable (_ ∧ _))

/-- A plain key is the only key with its text: the text splits at its one `/`. -/
theorem ObjectKey.eq_of_text_eq {k k' : ObjectKey} (hk : k.Plain) (h : k.text = k'.text) :
    k = k' := by
  have hl : k.ns.toList ++ '/' :: k.name.toList = k'.ns.toList ++ '/' :: k'.name.toList := by
    simpa [ObjectKey.text, String.toList_append] using congrArg String.toList h
  obtain ⟨hns, -, hname⟩ := (List.append_cons_inj_of_notMem hk.1 hk.2).1 hl
  cases k
  cases k'
  simp only [ObjectKey.mk.injEq]
  exact ⟨String.toList_inj.1 hns, String.toList_inj.1 hname⟩

namespace World

/-- Two worlds hold the same objects and have counted the same writes: the same ingress, Secret,
Deployment and Service at every key, and the same clients of every id at every Dex. -/
structure HoldSame (v w : World) : Prop where
  ingresses : ∀ k, v.cluster.ingresses.get? k = w.cluster.ingresses.get? k
  secrets : ∀ k, v.cluster.secrets.get? k = w.cluster.secrets.get? k
  deployments : ∀ k, v.cluster.deployments.get? k = w.cluster.deployments.get? k
  services : ∀ k, v.cluster.services.get? k = w.cluster.services.get? k
  clients : ∀ a id, v.clientsOf a id = w.clientsOf a id
  writes : v.cluster.writes = w.cluster.writes

variable {k : ObjectKey} {u v w : World}

/-- The world `w` drawing from the stream `f` instead. -/
def withDraws (w : World) (f : Nat → Vector UInt8 32) : World :=
  { w with draws := f }

/-- The world with its next two draws exchanged. -/
def exchangeNextDraws (w : World) : World :=
  w.withDraws fun i =>
    if i = w.secretsDrawn then w.draws (w.secretsDrawn + 1)
    else if i = w.secretsDrawn + 1 then w.draws w.secretsDrawn else w.draws i

@[simp] theorem draws_withDraws (w : World) (f : Nat → Vector UInt8 32) :
    (w.withDraws f).draws = f := rfl

@[simp] theorem secretsDrawn_withDraws (w : World) (f : Nat → Vector UInt8 32) :
    (w.withDraws f).secretsDrawn = w.secretsDrawn := rfl

@[simp] theorem storedSecretOf_withDraws (w : World) (f : Nat → Vector UInt8 32) (id : String) :
    (w.withDraws f).storedSecretOf id = w.storedSecretOf id := rfl

/-- Outside the cells of an app, the stream of draws is not looked at. -/
theorem Beyond.of_withDraws {f : Nat → Vector UInt8 32} (h : v.Beyond k (w.withDraws f)) :
    v.Beyond k w :=
  ⟨h.1, h.2, h.3, h.4, h.5, h.6, h.7, h.8⟩

/-- Looking alike to a step does not look at the stream of draws. -/
theorem LookAlike.withDraws {m n : WriteCounts} (h : LookAlike k m n v w)
    (f : Nat → Vector UInt8 32) : LookAlike k m n v (w.withDraws f) :=
  { h with app := ⟨h.app.1, h.app.2, h.app.3, h.app.4, h.app.5, h.app.6⟩ }

/-- A world drawing from another stream differs from it in secret values only. -/
theorem SameButSecrets.of_withDraws (hk : w.cluster.WellKeyed) (hq : w.Quiet)
    (f : Nat → Vector UInt8 32) : (w.withDraws f).SameButSecrets w :=
  ⟨fun _ => rfl, fun _ => rfl, fun _ => rfl, fun _ => rfl, fun _ => rfl, fun _ _ => rfl,
    ⟨rfl, rfl, rfl, rfl⟩, fun _ => Iff.rfl, rfl, hk, hk, hq, hq⟩

/-- A world and the one a step on another app has led it to look alike to a step on this app,
with the write counts of each raised by those of the other. -/
theorem LookAlike.of_beyond {k' : ObjectKey} (h : w.Beyond k' v) (hk : k ≠ k')
    (hnames : clientSecretName k.text ≠ clientSecretName k'.text) (hv : v.cluster.WellKeyed)
    (hqv : v.Quiet) (hqw : w.Quiet) : LookAlike k w.cluster.writes v.cluster.writes v w where
  app := h.sameApp hk hnames
  surroundings := h.surroundings.symm
  reaches a := (h.reaches a).symm
  writes := WriteCounts.add_comm _ _
  keyedLeft := hv
  keyedRight := h.keyed
  quietLeft := hqv
  quietRight := hqw

/-- Two worlds that hold the same in the cells of the apps at `kA` and `kB`, and that agree with
a third outside them, each having been led from it by a step on one app and then one on the
other, hold the same. -/
theorem HoldSame.of_cells {kA kB : ObjectKey} {v₁ w₁ : World} (hv₁ : v₁.Beyond kA u)
    (hv : v.Beyond kB v₁) (hw₁ : w₁.Beyond kB u) (hw : w.Beyond kA w₁) (hA : v.SameApp kA w)
    (hB : v.SameApp kB w) (hwrites : v.cluster.writes = w.cluster.writes) : v.HoldSame w where
  ingresses k := by
    by_cases ha : k = kA
    · rw [ha]; exact hA.ingress
    by_cases hb : k = kB
    · rw [hb]; exact hB.ingress
    rw [hv.ingresses k hb, hv₁.ingresses k ha, hw.ingresses k ha, hw₁.ingresses k hb]
  secrets k := by
    -- all four worlds keep the home of `u`, where the Secrets of client secrets are
    have hvk : ∀ id, v.clientSecretKey id = u.clientSecretKey id := fun id => by
      rw [hv.clientSecretKey_eq, hv₁.clientSecretKey_eq]
    have hwk : ∀ id, w.clientSecretKey id = u.clientSecretKey id := fun id => by
      rw [hw.clientSecretKey_eq, hw₁.clientSecretKey_eq]
    by_cases ha : k = kA.proxy
    · rw [ha]; exact hA.proxySecret
    by_cases hb : k = kB.proxy
    · rw [hb]; exact hB.proxySecret
    by_cases hca : k = u.clientSecretKey kA.text
    · have hsame := hA.clientSecret
      rw [hvk, hwk, ← hca] at hsame
      exact hsame
    by_cases hcb : k = u.clientSecretKey kB.text
    · have hsame := hB.clientSecret
      rw [hvk, hwk, ← hcb] at hsame
      exact hsame
    have hcb₁ : k ≠ v₁.clientSecretKey kB.text := by rw [hv₁.clientSecretKey_eq]; exact hcb
    have hca₁ : k ≠ w₁.clientSecretKey kA.text := by rw [hw₁.clientSecretKey_eq]; exact hca
    rw [hv.secrets k hb hcb₁, hv₁.secrets k ha hca, hw.secrets k ha hca₁, hw₁.secrets k hb hcb]
  deployments k := by
    by_cases ha : k = kA.proxy
    · rw [ha]; exact hA.deployment
    by_cases hb : k = kB.proxy
    · rw [hb]; exact hB.deployment
    rw [hv.deployments k hb, hv₁.deployments k ha, hw.deployments k ha, hw₁.deployments k hb]
  services k := by
    by_cases ha : k = kA.proxy
    · rw [ha]; exact hA.service
    by_cases hb : k = kB.proxy
    · rw [hb]; exact hB.service
    rw [hv.services k hb, hv₁.services k ha, hw.services k ha, hw₁.services k hb]
  clients a id := by
    by_cases ha : id = kA.text
    · rw [ha]; exact hA.clients a
    by_cases hb : id = kB.text
    · rw [hb]; exact hB.clients a
    rw [hv.clients a id hb, hv₁.clients a id ha, hw.clients a id ha, hw₁.clients a id hb]
  writes := hwrites

/-- Two worlds that hold the same objects, under the same surroundings and usable Dex addresses,
differ in secret values only. -/
theorem HoldSame.sameButSecrets (h : v.HoldSame w) (hs : v.SameSurroundings w)
    (hr : ∀ a, v.Reaches a ↔ w.Reaches a) (hkv : v.cluster.WellKeyed) (hkw : w.cluster.WellKeyed)
    (hqv : v.Quiet) (hqw : w.Quiet) : v.SameButSecrets w where
  ingresses := h.ingresses
  services := h.services
  secrets k := by rw [h.secrets k]
  stored k := by rw [h.secrets k]
  deployments k := by rw [h.deployments k]
  clients a id := by rw [h.clients a id]
  surroundings := hs
  reaches := hr
  writes := h.writes
  keyedLeft := hkv
  keyedRight := hkw
  quietLeft := hqv
  quietRight := hqw

end World

open World

/-! ## One step, two steps -/

section Steps

variable {w : World}

/-- A step on an ingress keeps to the cells of its app. -/
theorem handle_beyond (ing : Ingress) (hw : w.cluster.WellKeyed) :
    ((Step.handle ing).apply w).Beyond ing.metadata.key w :=
  Triple.lands (reconcile_beyond ing) (Beyond.refl hw) rfl

/-- A step on an ingress from a quiet world leaves it quiet: it runs in lockstep with itself. -/
theorem handle_quiet (ing : Ingress) (hw : w.cluster.WellKeyed) (hq : w.Quiet) :
    ((Step.handle ing).apply w).Quiet :=
  ((reconcile_lockstep ing).lands ⟨LookAlike.refl hw hq w.cluster.writes, rfl⟩).quietLeft

/-- A step on another app that draws nothing leaves the client secret this app would be handed as
it was. -/
theorem secretToUse_handle_other {A B : Ingress} (hkey : A.metadata.key ≠ B.metadata.key)
    (hnames : clientSecretName A.metadata.key.text ≠ clientSecretName B.metadata.key.text)
    (hkeyed : w.cluster.WellKeyed) (hquiet : w.Quiet) (hn : ¬ B.DrawsIn w) :
    ((Step.handle B).apply w).secretToUse A.metadata.key.text = w.secretToUse A.metadata.key.text :=
  ((handle_beyond B hkeyed).sameApp hkey hnames).secretToUse_drawnSince
    (handle_drawnSince B hquiet ⟨fun h => absurd h hn, fun _ => rfl⟩)

/-- Handling `A` then `B` from `v` and handling `B` then `A` from `w` end alike: each step
returns the same in both places, and both orders end in worlds that hold the same objects and
have counted the same writes. -/
structure HandledAlike (A B : Ingress) (v w : World) : Prop where
  resultA : (exec (reconcile A) v).1 = (exec (reconcile A) ((Step.handle B).apply w)).1
  resultB : (exec (reconcile B) ((Step.handle A).apply v)).1 = (exec (reconcile B) w).1
  holdSame : ((Step.handle B).apply ((Step.handle A).apply v)).HoldSame
    ((Step.handle A).apply ((Step.handle B).apply w))

/-- The two orders, from `w` and from `w` drawing from the stream `f`, end alike when each step
taken second would hand its app the secret it is handed when taken first, or draws nothing. -/
theorem handledAlike_of {A B : Ingress} (hkey : A.metadata.key ≠ B.metadata.key)
    (hnames : clientSecretName A.metadata.key.text ≠ clientSecretName B.metadata.key.text)
    (hkeyed : w.cluster.WellKeyed) (hquiet : w.Quiet) (f : Nat → Vector UInt8 32)
    (hA : w.secretToUse A.metadata.key.text =
        ((Step.handle B).apply (w.withDraws f)).secretToUse A.metadata.key.text ∨ ¬ A.DrawsIn w)
    (hB : ((Step.handle A).apply w).secretToUse B.metadata.key.text =
        (w.withDraws f).secretToUse B.metadata.key.text ∨ ¬ B.DrawsIn ((Step.handle A).apply w)) :
    HandledAlike A B w (w.withDraws f) := by
  -- each step keeps to the cells of its app, first or second
  have fA := handle_beyond A hkeyed
  have fB : ((Step.handle B).apply (w.withDraws f)).Beyond B.metadata.key (w.withDraws f) :=
    handle_beyond B hkeyed
  have fBA := handle_beyond B fA.keyed
  have fAB := handle_beyond A fB.keyed
  -- the step on `A` from `w` and from where the step on `B` led, and the step on `B` likewise
  have lA0 : LookAlike A.metadata.key _ _ w ((Step.handle B).apply (w.withDraws f)) :=
    LookAlike.of_beyond fB.of_withDraws hkey hnames hkeyed hquiet (handle_quiet B hkeyed hquiet)
  have lB0 : LookAlike B.metadata.key _ _ ((Step.handle A).apply w) (w.withDraws f) :=
    (LookAlike.of_beyond fA (Ne.symm hkey) (Ne.symm hnames) hkeyed hquiet
      (handle_quiet A hkeyed hquiet)).symm.withDraws f
  have lA : LookAlike A.metadata.key _ _ ((Step.handle A).apply w)
      ((Step.handle A).apply ((Step.handle B).apply (w.withDraws f))) :=
    (reconcile_lockstep_undrawn A).lands ⟨lA0, hA⟩
  have lB : LookAlike B.metadata.key _ _ ((Step.handle B).apply ((Step.handle A).apply w))
      ((Step.handle B).apply (w.withDraws f)) :=
    (reconcile_lockstep_undrawn B).lands ⟨lB0, hB⟩
  -- the write counts of both orders exceed those of `w` by the same
  have hwrites : ((Step.handle B).apply ((Step.handle A).apply w)).cluster.writes +
      w.cluster.writes = ((Step.handle A).apply ((Step.handle B).apply (w.withDraws f))).cluster.writes +
      w.cluster.writes := by
    rw [lB.writes, WriteCounts.add_comm, lA.writes]
  refine ⟨(reconcile_lockstep_undrawn A).result_eq ⟨lA0, hA⟩,
    (reconcile_lockstep_undrawn B).result_eq ⟨lB0, hB⟩, ?_⟩
  exact HoldSame.of_cells fA fBA fB.of_withDraws fAB ((fBA.sameApp hkey hnames).symm.trans lA.app)
    (lB.app.trans (fAB.sameApp (Ne.symm hkey) (Ne.symm hnames)))
    (WriteCounts.add_right_cancel hwrites)

/-- Handling `A` then `B` and handling `B` then `A`, both from `w`, return the same on each
ingress and end in worlds that differ in secret values only. -/
structure OrdersAgree (A B : Ingress) (w : World) : Prop where
  resultA : (exec (reconcile A) w).1 = (exec (reconcile A) ((Step.handle B).apply w)).1
  resultB : (exec (reconcile B) ((Step.handle A).apply w)).1 = (exec (reconcile B) w).1
  sameButSecrets : ((Step.handle B).apply ((Step.handle A).apply w)).SameButSecrets
    ((Step.handle A).apply ((Step.handle B).apply w))

/-- When the two orders end alike from `w` and from `w` drawing from another stream, they agree
from `w` itself but for secret values: the stream steers no step. -/
theorem OrdersAgree.of_handledAlike {A B : Ingress} (hkeyed : w.cluster.WellKeyed)
    (hquiet : w.Quiet) {f : Nat → Vector UInt8 32} (h : HandledAlike A B w (w.withDraws f)) :
    OrdersAgree A B w := by
  -- handling `B` then `A` runs alike from `w` drawing from `f` and from `w`
  have bB := (reconcile_sameButSecrets B).lands (SameButSecrets.of_withDraws hkeyed hquiet f)
  have bAB := (reconcile_sameButSecrets A).lands bB
  -- both orders keep the surroundings and usable addresses of `w`
  have fA := handle_beyond A hkeyed
  have fBA := handle_beyond B fA.keyed
  have fB : ((Step.handle B).apply (w.withDraws f)).Beyond B.metadata.key (w.withDraws f) :=
    handle_beyond B hkeyed
  have fAB := handle_beyond A fB.keyed
  refine ⟨h.resultA.trans ((reconcile_sameButSecrets A).result_eq bB),
    h.resultB.trans ((reconcile_sameButSecrets B).result_eq
      (SameButSecrets.of_withDraws hkeyed hquiet f)), ?_⟩
  refine (h.holdSame.sameButSecrets ?_ ?_ fBA.keyed fAB.keyed ?_ ?_).trans bAB
  · exact (fBA.surroundings.trans fA.surroundings).trans
      (fAB.surroundings.trans fB.of_withDraws.surroundings).symm
  · exact fun a => ((fBA.reaches a).trans (fA.reaches a)).trans
      ((fAB.reaches a).trans (fB.of_withDraws.reaches a)).symm
  · exact handle_quiet B fA.keyed (handle_quiet A hkeyed hquiet)
  · exact handle_quiet A fB.keyed (handle_quiet B hkeyed hquiet)

/-- Steps on two ingresses at different keys, whose client secrets have Secrets of different
names, can be taken in either order, from a quiet world that keeps every ingress under its own
key. Both orders from that world return the same on each ingress and end with the same ingresses,
Services and write counts, differing at most in the values of secrets. When at most one of the
steps draws a fresh client secret, the two orders end holding the same objects. When both draw,
each app gets the draw of its place in the order, and handling `B` first ends so from the world
whose next two draws are exchanged. And a step on the one ingress leaves the cells of the other's
app alone, from any world. -/
theorem handling_commutes {A B : Ingress} (hkey : A.metadata.key ≠ B.metadata.key)
    (hplain : A.metadata.key.Plain)
    (hnames : SecretNamesApart fun id => id = A.metadata.key.text ∨ id = B.metadata.key.text)
    (hkeyed : w.cluster.WellKeyed) (hquiet : w.Quiet) :
    OrdersAgree A B w ∧
    (¬ (A.DrawsIn w ∧ B.DrawsIn w) → HandledAlike A B w w) ∧
    (A.DrawsIn w → B.DrawsIn w → HandledAlike A B w w.exchangeNextDraws) ∧
    ∀ v : World, v.cluster.WellKeyed → v.SameApp B.metadata.key ((Step.handle A).apply v) := by
  have hnamesAB : clientSecretName A.metadata.key.text ≠ clientSecretName B.metadata.key.text :=
    fun h => hkey (ObjectKey.eq_of_text_eq hplain (hnames _ _ (.inl rfl) (.inr rfl) h))
  have hone : ¬ (A.DrawsIn w ∧ B.DrawsIn w) → HandledAlike A B w w := by
    intro hboth
    -- the step that draws nothing leaves the other app's secret as it was
    refine handledAlike_of hkey hnamesAB hkeyed hquiet w.draws ?_ ?_
    · by_cases hBd : B.DrawsIn w
      · exact .inr fun hAd => hboth ⟨hAd, hBd⟩
      · exact .inl (secretToUse_handle_other hkey hnamesAB hkeyed hquiet hBd).symm
    · by_cases hAd : A.DrawsIn w
      · exact .inr fun hBd => hboth ⟨hAd,
          (Ingress.drawsIn_beyond (handle_beyond A hkeyed) (Ne.symm hkey) (Ne.symm hnamesAB)).1 hBd⟩
      · exact .inl (secretToUse_handle_other (Ne.symm hkey) (Ne.symm hnamesAB) hkeyed hquiet hAd)
  have htwo : A.DrawsIn w → B.DrawsIn w → HandledAlike A B w w.exchangeNextDraws := by
    intro hAd hBd
    -- each app is handed the draw of its place in the order, which the exchange keeps
    have fA := handle_beyond A hkeyed
    have fB := handle_beyond B (show w.exchangeNextDraws.cluster.WellKeyed from hkeyed)
    have hfA := handle_drawnSince A hquiet ⟨fun _ => rfl, fun h => absurd hAd h⟩
    have hfB := handle_drawnSince B (show w.exchangeNextDraws.Quiet from hquiet)
      ⟨fun _ => rfl, fun h => absurd hBd h⟩
    refine handledAlike_of hkey hnamesAB hkeyed hquiet _ (.inl ?_) (.inl ?_)
    · show w.secretToUse A.metadata.key.text =
        ((Step.handle B).apply w.exchangeNextDraws).secretToUse A.metadata.key.text
      rw [(fB.sameApp hkey hnamesAB).secretToUse_drawnSince hfB, secretToUse]
      simp [exchangeNextDraws, hAd.2.2.2.2.2]
    · show ((Step.handle A).apply w).secretToUse B.metadata.key.text =
        w.exchangeNextDraws.secretToUse B.metadata.key.text
      rw [(fA.sameApp (Ne.symm hkey) (Ne.symm hnamesAB)).secretToUse_drawnSince hfA, secretToUse]
      simp [exchangeNextDraws, hBd.2.2.2.2.2]
  -- either way the two orders end alike from `w` drawing from some stream
  have hagree : OrdersAgree A B w := by
    by_cases hboth : A.DrawsIn w ∧ B.DrawsIn w
    · exact OrdersAgree.of_handledAlike hkeyed hquiet (htwo hboth.1 hboth.2)
    · exact OrdersAgree.of_handledAlike hkeyed hquiet
        (show HandledAlike A B w (w.withDraws w.draws) from hone hboth)
  exact ⟨hagree, hone, htwo,
    fun v hv => (handle_beyond A hv).sameApp (Ne.symm hkey) (Ne.symm hnamesAB)⟩

end Steps

/-! ## Two apps of one namespace -/

/-- An ingress of the namespace `shop` asking for a Dex backend, marked as handled, that sends
its host to the Service of its own name. -/
def pairIngress (name : String) : Ingress where
  metadata :=
    { name := some name, ns := some "shop",
      annotations := some [(backendAnnotationKey, "dex"), (handledAnnotationKey, handledValue)],
      finalizers := some [securityFinalizer] }
  spec := some
    { rules := some [
        { host := some (name ++ ".example")
          http := some
            { paths := [
                { backend :=
                    { service := some { name := name, port := some { name := some "http" } } }
                  pathType := "Prefix" }] } }] }

/-- The ingresses `shop/a` and `shop/b`, one Dex backend and routes to both Services. -/
def pairWorld : World :=
  { cluster :=
      { ingresses := [(⟨"shop", "a"⟩, pairIngress "a"), (⟨"shop", "b"⟩, pairIngress "b")] }
    backends := [("dex", { dex := some ⟨"dex:5557", "https://dex.example"⟩ })]
    routes := [("shop/a:http", ⟨"a.shop", 8080⟩), ("shop/b:http", ⟨"b.shop", 8081⟩)]
    connected := ["dex:5557"] }

theorem pairWorld_wellKeyed : pairWorld.cluster.WellKeyed := by
  intro k ing hk
  simp only [pairWorld, Store.get?_cons, Store.get?_nil] at hk
  split at hk
  next heq =>
    cases hk
    exact heq ▸ rfl
  next =>
    split at hk
    next heq =>
      cases hk
      exact heq ▸ rfl
    next => cases hk

theorem pair_secretNamesApart :
    SecretNamesApart fun id => id = (pairIngress "a").metadata.key.text ∨
      id = (pairIngress "b").metadata.key.text := by
  intro x y hx hy h
  rcases hx with rfl | rfl <;> rcases hy with rfl | rfl
  · rfl
  · exact absurd h (by decide +kernel)
  · exact absurd h (by decide +kernel)
  · rfl

theorem pairWorld_quiet : pairWorld.Quiet :=
  fun _ hp => absurd hp List.not_mem_nil

theorem pairIngress_plain : (pairIngress "a").metadata.key.Plain := by decide

theorem pairIngress_keys : (pairIngress "a").metadata.key ≠ (pairIngress "b").metadata.key := by
  decide

/-- The same world with the client secret of the app `shop/a` stored. -/
def keptWorld : World :=
  { pairWorld with
    cluster := { pairWorld.cluster with
      secrets := [(pairWorld.clientSecretKey "shop/a",
        clientSecretObject pairWorld.home ⟨"shop/a", "a", "https://a.example/callback"⟩ "kept")] } }

/-- In `keptWorld` only `shop/b` draws a client secret, and the two orders end alike; in
`pairWorld` both draw, and the two orders agree but for secret values, and end alike once the
next two draws are exchanged. -/
theorem pair_handling_commutes :
    ¬ ((pairIngress "a").DrawsIn keptWorld ∧ (pairIngress "b").DrawsIn keptWorld) ∧
    HandledAlike (pairIngress "a") (pairIngress "b") keptWorld keptWorld ∧
    (pairIngress "a").DrawsIn pairWorld ∧ (pairIngress "b").DrawsIn pairWorld ∧
    OrdersAgree (pairIngress "a") (pairIngress "b") pairWorld ∧
    HandledAlike (pairIngress "a") (pairIngress "b") pairWorld pairWorld.exchangeNextDraws := by
  have hdrawA : (pairIngress "a").DrawsIn pairWorld :=
    ⟨rfl, rfl, rfl, rfl, ⟨_, _, rfl, rfl, .inl rfl⟩, rfl⟩
  have hdrawB : (pairIngress "b").DrawsIn pairWorld :=
    ⟨rfl, rfl, rfl, rfl, ⟨_, _, rfl, rfl, .inl rfl⟩, rfl⟩
  -- the client secret of `shop/a` is stored in `keptWorld`, so its step draws none
  have hkept : ¬ ((pairIngress "a").DrawsIn keptWorld ∧ (pairIngress "b").DrawsIn keptWorld) :=
    fun h => absurd h.1.2.2.2.2.2 (by decide +kernel)
  have hkeyed : keptWorld.cluster.WellKeyed := pairWorld_wellKeyed
  have hquiet : keptWorld.Quiet := pairWorld_quiet
  have hpair := handling_commutes pairIngress_keys pairIngress_plain pair_secretNamesApart
    pairWorld_wellKeyed pairWorld_quiet
  exact ⟨hkept, (handling_commutes pairIngress_keys pairIngress_plain pair_secretNamesApart hkeyed
    hquiet).2.1 hkept, hdrawA, hdrawB, hpair.1, hpair.2.2.1 hdrawA hdrawB⟩

/-- When both apps draw a client secret, the order decides which app gets which, so the two
orders leave different Secrets for `shop/a`, though the keys, their texts and the world meet
every other condition. -/
theorem handling_order_exchanges_secrets :
    (pairIngress "a").metadata.key ≠ (pairIngress "b").metadata.key ∧
    (pairIngress "a").metadata.key.Plain ∧ (pairIngress "b").metadata.key.Plain ∧
    (SecretNamesApart fun id => id = (pairIngress "a").metadata.key.text ∨
      id = (pairIngress "b").metadata.key.text) ∧
    pairWorld.cluster.WellKeyed ∧ pairWorld.Quiet ∧
    ¬ ((Step.handle (pairIngress "b")).apply
        ((Step.handle (pairIngress "a")).apply pairWorld)).HoldSame
      ((Step.handle (pairIngress "a")).apply
        ((Step.handle (pairIngress "b")).apply pairWorld)) := by
  have hsecret :
      ((Step.handle (pairIngress "b")).apply
          ((Step.handle (pairIngress "a")).apply pairWorld)).cluster.secrets.get?
        (pairWorld.clientSecretKey "shop/a") ≠
      ((Step.handle (pairIngress "a")).apply
          ((Step.handle (pairIngress "b")).apply pairWorld)).cluster.secrets.get?
        (pairWorld.clientSecretKey "shop/a") := by
    decide +kernel
  exact ⟨pairIngress_keys, pairIngress_plain, by decide, pair_secretNamesApart, pairWorld_wellKeyed,
    pairWorld_quiet, fun h => hsecret (h.secrets _)⟩

end IngressGuard
