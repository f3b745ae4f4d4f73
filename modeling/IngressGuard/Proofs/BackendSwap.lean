import IngressGuard.Proofs.Fixpoint
import IngressGuard.Proofs.RollbackProgress

/-!
# Pointing an ingress elsewhere is an idempotent conditional write

A swap reads the stored ingress, checks its shape on what it read, and compares where the single
path leads with the target by service name and port text (`leadsTo`), not by the port's
structure: a port named `80` and a target numbered `80` compare equal. It writes only when they
differ, and then the path leads to the target itself.

With no fault planned the swap is run outright (`exec_swapBackend_invalid`, `..._same`,
`..._elsewhere`). Whatever faults are planned, a swap that returned leaves the path leading to its
target (`swapBackend_leads`), and a swap to where the path leads writes nothing
(`swapBackend_writes_nothing`). So a second swap to one target, a second provisioning and a second
unprovisioning write no ingress: `swapBackend_conditional_write` gathers all of it.
-/

namespace IngressGuard

open IngressGuard.Kube

theorem leadsTo_iff (cur target : ServiceBackend) :
    leadsTo cur target = true ↔
      (cur.name, portText cur.port) = (target.name, portText target.port) := by
  simp [leadsTo]

/-! ## A swap with no fault planned -/

section Quiet

variable {w : World} {k : ObjectKey} {S : Ingress} {cur : ServiceBackend} (target : ServiceBackend)

theorem exec_swapBackend_invalid {e : InvalidIngress} (hq : w.Quiet)
    (hS : w.cluster.ingresses.get? k = some S) (he : S.serviceBackend = .error e) :
    exec (swapBackend k target) w =
      (.error ⟨.invalidIngress e, []⟩, w.passCall .getIngress k.text) := by
  rw [swapBackend, exec_bind, exec_within, exec_getIngress_stored hq hS]
  dsimp only
  rw [exec_bind, he]
  rfl

theorem exec_swapBackend_same (hq : w.Quiet) (hS : w.cluster.ingresses.get? k = some S)
    (hcur : S.serviceBackend = .ok cur) (hl : leadsTo cur target = true) :
    exec (swapBackend k target) w = (.ok (), w.passCall .getIngress k.text) := by
  rw [swapBackend, exec_bind, exec_within, exec_getIngress_stored hq hS]
  dsimp only
  rw [exec_bind, hcur]
  simp only [Op.ofShape, exec_pure]
  rw [show (cur.name == target.name && portText cur.port == portText target.port) =
    leadsTo cur target from rfl, hl]
  rfl

theorem exec_swapBackend_elsewhere (hq : w.Quiet) (hS : w.cluster.ingresses.get? k = some S)
    (hkey : S.metadata.key = k) (hcur : S.serviceBackend = .ok cur)
    (hl : leadsTo cur target = false) :
    exec (swapBackend k target) w =
      (.ok (), ((w.passCall .getIngress k.text).passCall .updateIngress k.text).withIngress
        (S.withBackend target)) := by
  rw [swapBackend, exec_bind, exec_within, exec_getIngress_stored hq hS]
  dsimp only
  rw [exec_bind, hcur]
  simp only [Op.ofShape, exec_pure]
  rw [show (cur.name == target.name && portText cur.port == portText target.port) =
    leadsTo cur target from rfl, hl]
  simp only [Bool.false_eq_true, if_false]
  rw [Ingress.setServiceBackend_eq hcur, exec_bind]
  simp only [exec_pure]
  -- the update goes to the key just read, which holds the ingress
  rw [exec_within, exec_updateIngress_stored (hq.passCall _ _)]
  · simp [hkey]
  · simp [hkey, Store.contains_eq_isSome, hS]

end Quiet

/-! ## Swaps under any faults -/

/-- The ingress stored at `k` has the supported shape and its path leads to `target`, by service
name and port text. -/
def Cluster.PathLeads (c : Cluster) (k : ObjectKey) (target : ServiceBackend) : Prop :=
  ∃ ing cur, c.ingresses.get? k = some ing ∧ ing.serviceBackend = .ok cur ∧
    leadsTo cur target = true

theorem Cluster.PathLeads.of_ingresses {c c' : Cluster} {k : ObjectKey} {target : ServiceBackend}
    (h : c.PathLeads k target) (he : c'.ingresses = c.ingresses) : c'.PathLeads k target := by
  unfold Cluster.PathLeads
  rw [he]
  exact h

theorem Cluster.PathLeads.withBackend {w : World} {k : ObjectKey} {target : ServiceBackend}
    {ing : Ingress} {cur : ServiceBackend} (hkey : ing.metadata.key = k)
    (hcur : ing.serviceBackend = .ok cur) :
    (w.withIngress (ing.withBackend target)).cluster.PathLeads k target :=
  ⟨_, target, by rw [World.get?_withIngress, Ingress.withBackend_metadata, hkey, if_pos rfl],
    Ingress.serviceBackend_withBackend hcur target, Ingress.leadsTo_self target⟩

/-- A swap that returns leaves the path leading to its target, whatever failed before. -/
theorem swapBackend_leads {k : ObjectKey} {target : ServiceBackend} :
    Triple (fun w => w.cluster.WellKeyed) (swapBackend k target)
      (fun _ w => w.cluster.WellKeyed ∧ w.cluster.PathLeads k target) (fun _ => True) := by
  refine swapBackend_triple (Fine.free fun _ _ _ => Iff.rfl) (fun _ _ _ => trivial)
    (fun _ _ _ _ _ _ => trivial) (fun w ing cur hw hs hcur hl => ⟨hw, ing, cur, hs, hcur, hl⟩)
    (fun w ing cur hw hs hcur _ _ => ⟨World.wellKeyed_withIngress hw _, ?_⟩)
    (fun _ _ _ _ _ => trivial)
  exact Cluster.PathLeads.withBackend (hw k ing hs) hcur

/-- A swap to where the path already leads writes nothing, whatever fails: every condition that
ignores log and plan, and under which the path leads there, is kept. -/
theorem swapBackend_writes_nothing {k : ObjectKey} {target : ServiceBackend} {P : World → Prop}
    (hP : Calm P) (hleads : ∀ w, P w → w.cluster.PathLeads k target) :
    Triple P (swapBackend k target) (fun _ => P) P := by
  refine swapBackend_triple (Fine.keep hP) (fun w hw h => ?_) (fun _ _ _ hw _ _ => hw)
    (fun _ _ _ hw _ _ _ => hw) (fun w ing cur hw hs hcur hl _ => ?_) (fun _ _ hw _ _ => hw)
  · obtain ⟨ing, cur, hs, -⟩ := hleads w hw
    rw [hs] at h
    cases h
  · -- the ingress read is the one that leads there, so the write is never reached
    obtain ⟨ing', cur', hs', hcur', hl'⟩ := hleads w hw
    rw [hs] at hs'
    cases hs'
    rw [hcur] at hcur'
    cases hcur'
    rw [hl] at hl'
    cases hl'

/-! ## Provisioning and unprovisioning again -/

/-- The world holds the ingresses of `c`, with as many ingress writes counted. -/
def World.IngressesAs (w : World) (c : Cluster) : Prop :=
  w.cluster.ingresses = c.ingresses ∧ w.cluster.writes.ingresses = c.writes.ingresses

theorem provision_leads {plan : ProxyPlan} :
    Triple (fun w => w.cluster.WellKeyed) (provision plan)
      (fun _ w => w.cluster.PathLeads plan.app.ingressKey (proxyBackend plan.app.ingress.name))
      (fun _ => True) :=
  provision_triple (Fine.free fun _ _ _ => Iff.rfl) (fun _ hw => hw) (fun _ hw => hw)
    (fun _ hw => hw) (swapBackend_leads.mono (fun _ hw => hw.1) (fun _ _ h => h.2) (fun _ h => h))

/-- Provisioning where the path leads to the proxy writes no ingress, whatever fails. -/
theorem provision_again {plan : ProxyPlan} {c : Cluster}
    (hc : c.PathLeads plan.app.ingressKey (proxyBackend plan.app.ingress.name)) :
    Triple (fun w => w.IngressesAs c) (provision plan) (fun _ w => w.IngressesAs c)
      (fun w => w.IngressesAs c) :=
  provision_triple (Fine.keep fun _ _ _ => Iff.rfl) (fun _ hw => hw) (fun _ hw => hw)
    (fun _ hw => hw) ((swapBackend_writes_nothing (fun _ _ _ => Iff.rfl)
      fun _ hw => hc.of_ingresses hw.1).mono (fun _ hw => hw.1) (fun _ _ h => h) (fun _ h => h))

theorem unprovision_leads {removal : ProxyRemoval} :
    Triple (fun w => w.cluster.WellKeyed) (unprovision removal)
      (fun _ w => w.cluster.PathLeads ⟨removal.ingressNs, removal.ingressName⟩
        (serviceBackendFor removal.serviceName removal.servicePortText)) (fun _ => True) :=
  (unprovision_triple swapBackend_leads (Fine.free fun _ _ _ => Iff.rfl) (fun _ hw => hw)
    (fun _ hw => hw) (fun _ hw => hw)).mono (fun _ hw => hw) (fun _ _ h => h.2) (fun _ h => h)

/-- Unprovisioning where the path leads to the recorded service writes no ingress, whatever
fails. -/
theorem unprovision_again {removal : ProxyRemoval} {c : Cluster}
    (hc : c.PathLeads ⟨removal.ingressNs, removal.ingressName⟩
      (serviceBackendFor removal.serviceName removal.servicePortText)) :
    Triple (fun w => w.IngressesAs c) (unprovision removal) (fun _ w => w.IngressesAs c)
      (fun w => w.IngressesAs c) :=
  unprovision_triple (swapBackend_writes_nothing (fun _ _ _ => Iff.rfl)
      fun _ hw => hc.of_ingresses hw.1) (Fine.keep fun _ _ _ => Iff.rfl)
    (fun _ hw => hw) (fun _ hw => hw) (fun _ hw => hw)

/-- A swap is an idempotent conditional write. In a store that keeps every ingress under its own
key, with the ingress `S` stored at `k`: with no fault planned, an `S` outside the supported shape
fails the swap as an invalid ingress after reading it, and nothing is written; otherwise `S` is
written once, pointed at the target, exactly when its path leads elsewhere by service name and
port text, and else nothing is written. Whatever faults are planned, once a swap, a provisioning
or an unprovisioning has returned, running it again writes no ingress. -/
theorem swapBackend_conditional_write {w : World} {k : ObjectKey} {S : Ingress}
    (target : ServiceBackend) (hkeyed : w.cluster.WellKeyed)
    (hS : w.cluster.ingresses.get? k = some S) :
    (w.Quiet → ∀ e, S.serviceBackend = .error e →
      ∃ f w', exec (swapBackend k target) w = (.error f, w') ∧ f.classOf = .invalidIngress ∧
        w'.cluster = w.cluster ∧ w'.calls = w.calls ++ ["get_ingress " ++ k.text]) ∧
    (w.Quiet → ∀ cur, S.serviceBackend = .ok cur →
      ∃ w', exec (swapBackend k target) w = (.ok (), w') ∧
        if (cur.name, portText cur.port) = (target.name, portText target.port) then
          w'.cluster = w.cluster ∧ w'.calls = w.calls ++ ["get_ingress " ++ k.text]
        else
          w'.cluster = (w.withIngress (S.withBackend target)).cluster ∧
          (S.withBackend target).serviceBackend = .ok target ∧
          w'.calls = w.calls ++ ["get_ingress " ++ k.text, "update_ingress " ++ k.text]) ∧
    (∀ w' r w'', exec (swapBackend k target) w = (.ok (), w') →
      exec (swapBackend k target) w' = (r, w'') → w''.cluster = w'.cluster) ∧
    (∀ plan w' r w'', exec (provision plan) w = (.ok (), w') →
      exec (provision plan) w' = (r, w'') → w''.IngressesAs w'.cluster) ∧
    (∀ removal w' r w'', exec (unprovision removal) w = (.ok (), w') →
      exec (unprovision removal) w' = (r, w'') → w''.IngressesAs w'.cluster) := by
  have hkey : S.metadata.key = k := hkeyed k S hS
  refine ⟨fun hq e he => ⟨_, _, exec_swapBackend_invalid target hq hS he, rfl, rfl, rfl⟩,
    fun hq cur hcur => ?_, fun w' r w'' h₁ h₂ => ?_, fun plan w' r w'' h₁ h₂ => ?_,
    fun removal w' r w'' h₁ h₂ => ?_⟩
  · cases hl : leadsTo cur target with
    | true =>
      refine ⟨_, exec_swapBackend_same target hq hS hcur hl, ?_⟩
      rw [if_pos ((leadsTo_iff cur target).1 hl)]
      exact ⟨rfl, rfl⟩
    | false =>
      refine ⟨_, exec_swapBackend_elsewhere target hq hS hkey hcur hl, ?_⟩
      rw [if_neg fun h => by simp [(leadsTo_iff cur target).2 h] at hl]
      refine ⟨rfl, Ingress.serviceBackend_withBackend hcur target, ?_⟩
      simp only [World.calls_withIngress, World.calls_passCall, List.append_assoc]
      rfl
  · have hleads := (swapBackend_leads.returns hkeyed h₁).2
    have hnothing : Triple (fun v => v.cluster = w'.cluster) (swapBackend k target)
        (fun _ v => v.cluster = w'.cluster) (fun v => v.cluster = w'.cluster) :=
      swapBackend_writes_nothing (fun _ _ _ => Iff.rfl) fun v hv => hv ▸ hleads
    exact hnothing.lands rfl h₂
  · exact (provision_again (provision_leads.returns hkeyed h₁)).lands ⟨rfl, rfl⟩ h₂
  · exact (unprovision_again (unprovision_leads.returns hkeyed h₁)).lands ⟨rfl, rfl⟩ h₂

/-- The sample ingress, stored under its own key, pointed at its proxy. -/
theorem sample_swap_conditional_write :
    (portedWorld { name := some "http" }).cluster.WellKeyed ∧
    (portedWorld { name := some "http" }).cluster.ingresses.get? ⟨"shop", "web"⟩ =
      some (portedIngress { name := some "http" }) ∧
    ((portedWorld { name := some "http" }).Quiet → ∀ e,
      (portedIngress { name := some "http" }).serviceBackend = .error e →
      ∃ f w', exec (swapBackend ⟨"shop", "web"⟩ (proxyBackend "web"))
          (portedWorld { name := some "http" }) = (.error f, w') ∧
        f.classOf = .invalidIngress ∧ w'.cluster = (portedWorld { name := some "http" }).cluster ∧
        w'.calls = (portedWorld { name := some "http" }).calls ++ ["get_ingress " ++ "shop/web"]) ∧
    ((portedWorld { name := some "http" }).Quiet → ∀ cur,
      (portedIngress { name := some "http" }).serviceBackend = .ok cur →
      ∃ w', exec (swapBackend ⟨"shop", "web"⟩ (proxyBackend "web"))
          (portedWorld { name := some "http" }) = (.ok (), w') ∧
        if (cur.name, portText cur.port) =
            ((proxyBackend "web").name, portText (proxyBackend "web").port) then
          w'.cluster = (portedWorld { name := some "http" }).cluster ∧
          w'.calls = (portedWorld { name := some "http" }).calls ++ ["get_ingress " ++ "shop/web"]
        else
          w'.cluster = ((portedWorld { name := some "http" }).withIngress
            ((portedIngress { name := some "http" }).withBackend (proxyBackend "web"))).cluster ∧
          ((portedIngress { name := some "http" }).withBackend (proxyBackend "web")).serviceBackend =
            .ok (proxyBackend "web") ∧
          w'.calls = (portedWorld { name := some "http" }).calls ++
            ["get_ingress " ++ "shop/web", "update_ingress " ++ "shop/web"]) ∧
    (∀ w' r w'', exec (swapBackend ⟨"shop", "web"⟩ (proxyBackend "web"))
        (portedWorld { name := some "http" }) = (.ok (), w') →
      exec (swapBackend ⟨"shop", "web"⟩ (proxyBackend "web")) w' = (r, w'') →
        w''.cluster = w'.cluster) ∧
    (∀ plan w' r w'', exec (provision plan) (portedWorld { name := some "http" }) = (.ok (), w') →
      exec (provision plan) w' = (r, w'') → w''.IngressesAs w'.cluster) ∧
    (∀ removal w' r w'',
      exec (unprovision removal) (portedWorld { name := some "http" }) = (.ok (), w') →
      exec (unprovision removal) w' = (r, w'') → w''.IngressesAs w'.cluster) :=
  have hkeyed := (portedWorld_marksAgree { name := some "http" }).wellKeyed
  ⟨hkeyed, rfl, swapBackend_conditional_write (proxyBackend "web") hkeyed rfl⟩

end IngressGuard
