import IngressGuard.Proofs.Objects

/-!
# Pointing an ingress at another service

`setServiceBackend` checks the supported shape and then walks to the first path of the first
rule, refusing an ingress without such a path as having none. The walk never refuses: the check
has already found exactly one rule holding exactly one path. So replacing the backend fails
exactly when validation fails, with validation's own fault, and hands back no ingress then;
otherwise it changes the service of that one path and nothing else, and the result keeps the
supported shape, leads to the new service and keeps its host.
-/

namespace IngressGuard.Kube.Ingress

/-- `ing'` is `ing` with the service of its single path, and nothing else, set to `s`. -/
def Repointed (ing : Ingress) (s : ServiceBackend) (ing' : Ingress) : Prop :=
  ∃ spec r http p, ing.spec = some spec ∧ spec.rules = some [r] ∧ r.http = some http ∧
    http.paths = [p] ∧
    ing' = { ing with spec := some { spec with rules := some [{ r with http := some {
      http with paths := [{ p with backend := { p.backend with service := some s } }] } }] } }

section Repointed

variable {ing ing' : Ingress} {s : ServiceBackend}

theorem Repointed.serviceBackend (h : ing.Repointed s ing') : ing'.serviceBackend = .ok s := by
  obtain ⟨spec, r, http, p, -, -, -, -, rfl⟩ := h
  simp [serviceBackend, path, rule, rules, bind, Except.bind]

theorem Repointed.validate (h : ing.Repointed s ing') : ing'.validate = .ok () :=
  validate_eq_ok.2 ⟨s, h.serviceBackend⟩

theorem Repointed.host (h : ing.Repointed s ing') : ing'.host = ing.host := by
  obtain ⟨spec, r, http, p, hspec, hrules, -, -, rfl⟩ := h
  simp [host, rule, rules, hspec, hrules, Except.map]

end Repointed

section Swap

variable {ing : Ingress} {s : ServiceBackend}

/-- Replacing the backend of an ingress outside the supported shape fails as validation does. -/
theorem setServiceBackend_of_validate_error {e : InvalidIngress} (h : ing.validate = .error e) :
    ing.setServiceBackend s = .error e := by
  unfold setServiceBackend
  rw [h]

/-- A replacement that fails has failed validation: the walk to the first path never refuses. -/
theorem validate_of_setServiceBackend_error {e : InvalidIngress}
    (h : ing.setServiceBackend s = .error e) : ing.validate = .error e := by
  unfold setServiceBackend at h
  split at h
  · rename_i e' hv
    cases h
    exact hv
  · rename_i hv
    obtain ⟨s₀, hs₀⟩ := validate_eq_ok.1 hv
    simp [pointFirstPath?_eq hs₀ s] at h

/-- A replacement that goes through sets the service of the single path and nothing else. -/
theorem repointed_of_setServiceBackend {ing' : Ingress} (h : ing.setServiceBackend s = .ok ing') :
    ing.Repointed s ing' := by
  unfold setServiceBackend at h
  split at h
  · cases h
  · rename_i hv
    obtain ⟨s₀, hs₀⟩ := validate_eq_ok.1 hv
    obtain ⟨spec, r, http, p, hspec, hrules, hhttp, hpaths, -⟩ := spec_of_serviceBackend hs₀
    simp only [pointFirstPath?, hspec, hrules, hhttp, hpaths, Except.ok.injEq] at h
    exact ⟨spec, r, http, p, hspec, hrules, hhttp, hpaths, h.symm⟩

end Swap

/-- Replacing the backend agrees with validation. It fails exactly when validation fails, with the
same fault (a rule count, a path count or a backend that is no service), so its own refusal of an
ingress without a first path is never reached. When it goes through, the new ingress leads to the
given service, passes validation, keeps its host, and differs from the old one only in the
service of its single path. -/
theorem setServiceBackend_agrees_with_validate (ing : Ingress) (s : ServiceBackend) :
    (∀ e, ing.setServiceBackend s = .error e ↔ ing.validate = .error e) ∧
    ∀ ing', ing.setServiceBackend s = .ok ing' →
      ing'.serviceBackend = .ok s ∧ ing'.validate = .ok () ∧ ing'.host = ing.host ∧
        ing.Repointed s ing' := by
  refine ⟨fun e => ⟨validate_of_setServiceBackend_error, setServiceBackend_of_validate_error⟩,
    fun ing' h => ?_⟩
  have hr := repointed_of_setServiceBackend h
  exact ⟨hr.serviceBackend, hr.validate, hr.host, hr⟩

/-- The ingress of the shape tests: one rule for `my.app.slok.dev`, with one path to port `http`
of the service `internal-app`. -/
def shapeTestIngress : Ingress where
  spec := some { rules := some [{ host := some "my.app.slok.dev", http := some { paths :=
    [{ backend := { service := some (serviceBackendFor "internal-app" "http") }, path := some "/",
       pathType := "Prefix" }] } }] }

/-- The ingress of the shape tests, pointed at its proxy, keeps its host. -/
theorem shape_test_ingress_repointed :
    let t := serviceBackendFor "my-app-bilrost-proxy" "http"
    shapeTestIngress.setServiceBackend t = .ok (shapeTestIngress.withBackend t) ∧
      (shapeTestIngress.withBackend t).serviceBackend = .ok t ∧
      (shapeTestIngress.withBackend t).host = .ok "my.app.slok.dev" := by
  intro t
  have hs : shapeTestIngress.serviceBackend = .ok (serviceBackendFor "internal-app" "http") := rfl
  have hset := setServiceBackend_eq hs t
  obtain ⟨hback, -, hhost, -⟩ := (setServiceBackend_agrees_with_validate shapeTestIngress t).2 _ hset
  exact ⟨hset, hback, hhost.trans rfl⟩

end IngressGuard.Kube.Ingress
