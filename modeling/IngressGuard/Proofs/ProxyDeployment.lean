import IngressGuard.Proofs.QuietSagas

/-!
# The proxy Deployment follows the per-ingress settings

The settings named like an ingress may override the proxy's replica count, image and compute
resources, and name the scopes to ask for. Each override passes two checks on its way: once when
the settings become the app's proxy settings, and again when the Deployment is built. Seen from
the settings alone, the proxy Deployment runs

* the given replica count when it is set and positive, else one;
* the given image when it is set and not empty, else the default image;
* the given resources when they set requests or limits, each kept only when it is not empty,
  else the default requests of `15m` of CPU and `20Mi` of memory with no limits;
* with one scope argument, the given scopes joined by spaces when there are any, else
  `openid email profile groups offline_access`.

`Kube.Deployment.FollowsSettings` states this without the builder's code, and
`objects_followsSettings` shows that the two checks together give it. Along a reconciliation the
settings are never written and the only Deployment stored is the proxy's, so a reconciliation that
secures an ingress leaves its proxy Deployment following the settings stored under the ingress's
name when it started, and stores no other (`reconcile_deploys_settings`).
-/

namespace IngressGuard

open IngressGuard.Kube

/-! ## What the settings ask for -/

namespace Auth

/-- The overrides for the proxy, when there are settings and they give some. -/
def proxyOverrides (auth : Option IngressAuthSpec) : Option ProxyOverrides :=
  auth.bind (·.proxy)

/-- The replica count settings ask for: theirs when set and positive, else one. -/
def wantedReplicas (auth : Option IngressAuthSpec) : Int :=
  match (proxyOverrides auth).bind (·.replicas) with
  | some n => if 0 < n then n else 1
  | none => 1

/-- The image settings ask for: theirs when set and not empty, else the default image. -/
def wantedImage (auth : Option IngressAuthSpec) : String :=
  match (proxyOverrides auth).bind (·.image) with
  | some image => if image = "" then defaultImage else image
  | none => defaultImage

/-- The resources settings set: when they give requests or limits, each of them that is not
empty. -/
def setResources (auth : Option IngressAuthSpec) : Option ResourceRequirements :=
  ((proxyOverrides auth).bind (·.resources)).bind fun r =>
    if r.requests = [] ∧ r.limits = [] then none
    else some { requests := if r.requests = [] then none else some r.requests
                limits := if r.limits = [] then none else some r.limits }

/-- The resources settings ask for: those they set, else requests of `15m` of CPU and `20Mi` of
memory, with no limits. -/
def wantedResources (auth : Option IngressAuthSpec) : ResourceRequirements :=
  (setResources auth).getD { requests := some [("cpu", "15m"), ("memory", "20Mi")] }

/-- The scopes settings ask for, as one text: theirs joined by spaces when they name any, else
`openid email profile groups offline_access`. -/
def wantedScope (auth : Option IngressAuthSpec) : String :=
  match auth.bind (·.scopeOrClaims) with
  | some (scope :: scopes) => " ".intercalate (scope :: scopes)
  | _ => "openid email profile groups offline_access"

end Auth

/-- An argument that sets the scopes the proxy asks for. -/
def isScopeArg (arg : String) : Bool :=
  "--scope=".toList.isPrefixOf arg.toList

namespace Kube

/-- A proxy container as settings ask for it: their image and resources, and one argument that sets
the scopes, to theirs. -/
structure Container.FollowsSettings (auth : Option Auth.IngressAuthSpec) (c : Container) :
    Prop where
  image : c.image = some (Auth.wantedImage auth)
  resources : c.resources = some (Auth.wantedResources auth)
  scope : ∃ args, c.args = some args ∧ args.filter isScopeArg = ["--scope=" ++ Auth.wantedScope auth]

/-- A proxy Deployment as settings ask for it: their replica count, and a single container that
follows them. -/
structure Deployment.FollowsSettings (auth : Option Auth.IngressAuthSpec) (d : Deployment) :
    Prop where
  replicas : d.replicas = some (Auth.wantedReplicas auth)
  container : ∃ c, d.containers = [c] ∧ c.FollowsSettings auth

end Kube

/-! ## The two checks give what the settings ask for

The app's proxy settings keep an override only when it passes its check, and the builder checks
it again before falling back to its default; a check made twice is made once. -/

section Settings

variable (auth : Option Auth.IngressAuthSpec)

theorem proxy_settings :
    ((auth.map proxySettingsOf).getD {}).proxy = (Auth.proxyOverrides auth).map fun p =>
      { image := p.image.filter (!·.isEmpty), replicas := p.replicas.filter (0 < ·),
        resources := p.resources.bind (·.toRequirements) } := by
  cases auth <;> rfl

theorem replicas_settings :
    ((((auth.map proxySettingsOf).getD {}).proxy.bind (·.replicas)).filter (0 < ·)).getD 1 =
      Auth.wantedReplicas auth := by
  rw [proxy_settings, Auth.wantedReplicas]
  rcases Auth.proxyOverrides auth with _ | ⟨image, _ | n, resources⟩
  · rfl
  · rfl
  · by_cases hn : 0 < n <;> simp [Option.filter_some, hn]

theorem image_settings :
    ((((auth.map proxySettingsOf).getD {}).proxy.bind (·.image)).filter (!·.isEmpty)).getD
      defaultImage = Auth.wantedImage auth := by
  rw [proxy_settings, Auth.wantedImage]
  rcases Auth.proxyOverrides auth with _ | ⟨_ | image, replicas, resources⟩
  · rfl
  · rfl
  · by_cases he : image = "" <;> simp [Option.filter_some, he]

theorem toRequirements_eq (r : Auth.Resources) :
    r.toRequirements = if r.requests = [] ∧ r.limits = [] then none
      else some { requests := if r.requests = [] then none else some r.requests
                  limits := if r.limits = [] then none else some r.limits } := by
  simp [Auth.Resources.toRequirements, List.isEmpty_iff]

theorem resources_settings :
    (((auth.map proxySettingsOf).getD {}).proxy.bind (·.resources)).getD defaultResources =
      Auth.wantedResources auth := by
  rw [proxy_settings, Auth.wantedResources, Auth.setResources]
  rcases Auth.proxyOverrides auth with _ | ⟨image, replicas, _ | r⟩
  · rfl
  · rfl
  · simp only [Option.map_some, Option.bind_some, toRequirements_eq]
    rfl

theorem scope_settings :
    " ".intercalate (if ((auth.map proxySettingsOf).getD {}).scopes.isEmpty then defaultScopes
      else ((auth.map proxySettingsOf).getD {}).scopes) = Auth.wantedScope auth := by
  rcases auth with _ | ⟨_ | _ | ⟨scope, scopes⟩, proxy⟩
  · rfl
  · rfl
  · rfl
  · rfl

end Settings

/-- Of the proxy's arguments, one sets the scopes: the app's, or the default ones when it names
none. -/
theorem filter_proxyArgs (plan : ProxyPlan) :
    (proxyArgs plan).filter isScopeArg = ["--scope=" ++ " ".intercalate
      (if plan.app.settings.scopes.isEmpty then defaultScopes else plan.app.settings.scopes)] := by
  simp [proxyArgs, isScopeArg, String.toList_append, List.isPrefixOf_cons_cons]

/-- The Deployment built for an app whose proxy settings come from `auth` follows `auth`. -/
theorem objects_followsSettings {plan : ProxyPlan} {auth : Option Auth.IngressAuthSpec}
    (h : plan.app.settings = (auth.map proxySettingsOf).getD {}) :
    plan.objects.deployment.FollowsSettings auth := by
  refine ⟨?_, _, rfl, ⟨?_, ?_, proxyArgs plan, rfl, ?_⟩⟩
  · show some (((plan.app.settings.proxy.bind (·.replicas)).filter (0 < ·)).getD 1) = _
    rw [h, replicas_settings]
  · show some (((plan.app.settings.proxy.bind (·.image)).filter (!·.isEmpty)).getD defaultImage) = _
    rw [h, image_settings]
  · show some ((plan.app.settings.proxy.bind (·.resources)).getD defaultResources) = _
    rw [h, resources_settings]
  · rw [filter_proxyArgs, h, scope_settings]

/-! ## Along a reconciliation -/

namespace World

/-- The Deployments of `w` are those of `w₀`, but for the proxy Deployment of the ingress at `k`,
which follows `auth`; and `w` stores the settings `w₀` stores. -/
structure DeploymentsFrom (w w₀ : World) (k : ObjectKey) (auth : Option Auth.IngressAuthSpec) :
    Prop where
  auths : w.cluster.ingressAuths = w₀.cluster.ingressAuths
  deployments : ∀ k' d, w.cluster.deployments.get? k' = some d →
    w₀.cluster.deployments.get? k' = some d ∨ (k' = k.proxy ∧ d.FollowsSettings auth)

variable {w w' w₀ : World} {k : ObjectKey} {auth : Option Auth.IngressAuthSpec}

theorem DeploymentsFrom.start (w : World) (k : ObjectKey) (auth : Option Auth.IngressAuthSpec) :
    w.DeploymentsFrom w k auth :=
  ⟨rfl, fun _ _ h => .inl h⟩

theorem DeploymentsFrom.keep (h : w.DeploymentsFrom w₀ k auth)
    (hd : w'.cluster.deployments = w.cluster.deployments)
    (ha : w'.cluster.ingressAuths = w.cluster.ingressAuths) : w'.DeploymentsFrom w₀ k auth :=
  ⟨ha.trans h.auths, fun k' d hk' => h.deployments k' d (hd ▸ hk')⟩

/-- Storing the proxy Deployment, when it follows the settings, keeps the condition. -/
theorem DeploymentsFrom.withDeployment (h : w.DeploymentsFrom w₀ k auth) {d : Deployment}
    (hk : d.metadata.key = k.proxy) (hd : d.FollowsSettings auth) :
    (w.withDeployment d).DeploymentsFrom w₀ k auth := by
  refine ⟨h.auths, fun k' d' hk' => ?_⟩
  simp only [World.withDeployment, Store.get?_put] at hk'
  split at hk'
  · rename_i hkey
    cases hk'
    exact .inr ⟨hkey.trans hk, hd⟩
  · exact h.deployments k' d' hk'

/-- So does removing a Deployment. -/
theorem DeploymentsFrom.withoutDeployment (h : w.DeploymentsFrom w₀ k auth) (k' : ObjectKey) :
    (w.withoutDeployment k').DeploymentsFrom w₀ k auth := by
  refine ⟨h.auths, fun k'' d hk'' => h.deployments k'' d ?_⟩
  simp only [World.withoutDeployment, Store.get?_erase] at hk''
  split at hk''
  · cases hk''
  · exact hk''

theorem calm_deploymentsFrom (w₀ : World) (k : ObjectKey) (auth : Option Auth.IngressAuthSpec) :
    Calm (·.DeploymentsFrom w₀ k auth) :=
  fun _ _ _ => ⟨fun h => h.keep rfl rfl, fun h => h.keep rfl rfl⟩

/-- The proxy Deployment of the ingress at `k` is stored and follows `auth`. -/
def ProxyDeployed (w : World) (k : ObjectKey) (auth : Option Auth.IngressAuthSpec) : Prop :=
  ∃ d, w.cluster.deployments.get? k.proxy = some d ∧ d.FollowsSettings auth

theorem calm_proxyDeployed (k : ObjectKey) (auth : Option Auth.IngressAuthSpec) :
    Calm (·.ProxyDeployed k auth) :=
  fun _ _ _ => Iff.rfl

end World

section Sagas

variable {w₀ : World} {k : ObjectKey} {auth : Option Auth.IngressAuthSpec}

/-- Provisioning the proxy of an app whose settings come from `auth` stores its Deployment,
following `auth`, and no other; when it returns, that Deployment is in place. -/
theorem provision_deploys {plan : ProxyPlan} (hk : plan.app.ingressKey = k)
    (hs : plan.app.settings = (auth.map proxySettingsOf).getD {}) :
    Triple (·.DeploymentsFrom w₀ k auth) (provision plan)
      (fun _ w => w.DeploymentsFrom w₀ k auth ∧ w.ProxyDeployed k auth)
      (·.DeploymentsFrom w₀ k auth) := by
  have hcalm := World.calm_deploymentsFrom w₀ k auth
  have hkey : plan.objects.deployment.metadata.key = k.proxy := by
    rw [deployment_key_objects, hk]
  have hplaced : Calm fun w => w.cluster.deployments.get? k.proxy = some plan.objects.deployment :=
    fun _ _ _ => Iff.rfl
  refine provision_triple (Fine.keep hcalm) (fun _ hw => hw.keep rfl rfl)
    (fun _ hw => hw.withDeployment hkey (objects_followsSettings hs))
    (fun _ hw => hw.keep rfl rfl) ?_
  -- once the proxy objects are in place, pointing the ingress at them writes the ingress only
  refine (swapBackend_keeps (Fine.of_calm (hcalm.and hplaced) (fun _ hw => hw.1) hcalm)
    (fun _ hw => hw.1) fun _ _ hw => ⟨hw.1.keep rfl rfl, hw.2⟩).mono
    (fun w hw => ⟨hw.1, ?_⟩) (fun _ w hw => ⟨hw.1, _, hw.2, objects_followsSettings hs⟩)
    (fun _ h => h)
  rw [← hkey]
  exact hw.2.2.1

/-- Securing an app whose proxy settings come from `auth` stores its proxy Deployment, following
`auth`, and no other Deployment, whatever its calls do; when it returns, that Deployment is in
place. -/
theorem secureApp_deploys {app : App} (hk : app.ingressKey = k)
    (hs : app.settings = (auth.map proxySettingsOf).getD {}) :
    Triple (·.DeploymentsFrom w₀ k auth) (secureApp app)
      (fun _ w => w.DeploymentsFrom w₀ k auth ∧ w.ProxyDeployed k auth)
      (·.DeploymentsFrom w₀ k auth) := by
  have hfine := Fine.keep (World.calm_deploymentsFrom w₀ k auth)
  unfold secureApp
  refine Triple.bind (Triple.within _ (getAuthBackend_keeps hfine fun _ hw => hw))
    fun backend => ?_
  refine Triple.bind (Triple.within _ (registererFor_keeps hfine (fun _ hw => hw)
    fun _ _ hw => hw.keep (by simp) (by simp))) fun address => ?_
  refine Triple.bind (Triple.within _ (register_keeps hfine (fun _ hw => hw.keep rfl rfl)
    (fun _ _ hw => hw.keep rfl rfl) (fun _ hw => hw.keep (by simp) (by simp))
    (fun _ _ hw => hw.keep (by simp) (by simp)))) fun credentials => ?_
  refine Triple.bind (Triple.within _ (backupOrGet_keeps hfine (fun _ hw => hw)
    fun _ _ hw => hw.keep rfl rfl)) fun backup => ?_
  refine Triple.bind (Triple.within _ (routeService_keeps hfine fun _ hw => hw)) fun route => ?_
  exact Triple.within _ (provision_deploys hk hs)

/-- Rolling an app back stores no Deployment: it only removes the proxy's. -/
theorem rollbackApp_deploys (app : App) :
    Triple (·.DeploymentsFrom w₀ k auth) (rollbackApp app)
      (fun _ w => w.DeploymentsFrom w₀ k auth) (·.DeploymentsFrom w₀ k auth) := by
  have hfine := Fine.keep (World.calm_deploymentsFrom w₀ k auth)
  unfold rollbackApp
  refine Triple.bind (Triple.within _ (getBackup_keeps hfine fun _ hw => hw)) fun backup => ?_
  cases backup with
  | none => exact Triple.fail fun _ hw => hw
  | some r =>
    refine Triple.bind (Triple.within _ (unprovision_triple
      (swapBackend_keeps hfine (fun _ hw => hw) fun _ _ hw => hw.keep rfl rfl) hfine
      (fun _ hw => hw.keep rfl rfl) (fun _ hw => hw.withoutDeployment _)
      (fun _ hw => hw.keep rfl rfl))) fun _ => ?_
    refine Triple.bind (Triple.within _ (getAuthBackend_keeps hfine fun _ hw => hw))
      fun backend => ?_
    refine Triple.bind (Triple.within _ (registererFor_keeps hfine (fun _ hw => hw)
      fun _ _ hw => hw.keep (by simp) (by simp))) fun address => ?_
    refine Triple.bind (Triple.within _ (unregister_keeps hfine
      (fun _ hw => hw.keep (by simp) (by simp)) (fun _ hw => hw.keep rfl rfl))) fun _ => ?_
    exact Triple.within _ (deleteBackup_keeps hfine (fun _ hw => hw) fun _ _ hw => hw.keep rfl rfl)

/-- A reconciliation stores no Deployment but the proxy's of the ingress it is handed, following
the settings stored under the ingress's name; when it secures the ingress, that Deployment is in
place. -/
theorem reconcile_deploys (ing : Ingress) (w₀ : World) :
    Triple (·.DeploymentsFrom w₀ ing.metadata.key (w₀.cluster.ingressAuths.get? ing.metadata.key))
      (reconcile ing)
      (fun o w => w.DeploymentsFrom w₀ ing.metadata.key
          (w₀.cluster.ingressAuths.get? ing.metadata.key) ∧
        (o = .secured → w.ProxyDeployed ing.metadata.key
          (w₀.cluster.ingressAuths.get? ing.metadata.key)))
      (·.DeploymentsFrom w₀ ing.metadata.key (w₀.cluster.ingressAuths.get? ing.metadata.key)) := by
  have hcalm := World.calm_deploymentsFrom w₀ ing.metadata.key
    (w₀.cluster.ingressAuths.get? ing.metadata.key)
  have hfine := Fine.keep hcalm
  refine reconcile_triple ?ignored ?invalid ?clean ?mark ?secure ?rollback
  -- no way but securing returns `secured`
  case ignored => exact fun _ _ _ hw => ⟨hw, fun h => by cases h⟩
  case invalid => exact fun _ _ _ hw => hw
  case clean => exact fun _ _ _ _ hw => ⟨hw, fun h => by cases h⟩
  case mark =>
    exact fun _ _ _ _ => (ensureMarked_keeps hfine (fun _ hw => hw) fun _ _ hw => hw.keep rfl rfl).mono
      (fun _ h => h) (fun _ _ hw => ⟨hw, fun h => by cases h⟩) (fun _ h => h)
  case secure =>
    intro hv _ _ _
    unfold secureBranch
    -- the app is read with the settings stored at the start, which nothing writes
    have happ : Triple (·.DeploymentsFrom w₀ ing.metadata.key
          (w₀.cluster.ingressAuths.get? ing.metadata.key)) (appOf ing)
        (fun app w => w.DeploymentsFrom w₀ ing.metadata.key
            (w₀.cluster.ingressAuths.get? ing.metadata.key) ∧
          (app.ingressKey = ing.metadata.key ∧ app.settings =
            ((w₀.cluster.ingressAuths.get? ing.metadata.key).map proxySettingsOf).getD {}))
        (·.DeploymentsFrom w₀ ing.metadata.key (w₀.cluster.ingressAuths.get? ing.metadata.key)) :=
      appOf_valid hfine hv fun _ _ _ _ w hw => ⟨hw, rfl, by rw [appWith, hw.auths]⟩
    refine Triple.bind happ fun app => Triple.assume fun happ' => ?_
    obtain ⟨hk, hs⟩ := happ'
    refine Triple.bind (Triple.within _ (secureApp_deploys hk hs)) fun _ => ?_
    have hplaced := World.calm_proxyDeployed ing.metadata.key
      (w₀.cluster.ingressAuths.get? ing.metadata.key)
    refine Triple.bind (ensureMarked_keeps (Fine.of_calm (hcalm.and hplaced) (fun _ hw => hw.1) hcalm)
      (fun _ hw => hw.1) fun _ _ hw => ⟨hw.1.keep rfl rfl, hw.2⟩) fun _ => ?_
    exact Triple.pure fun _ hw => ⟨hw.1, fun _ => hw.2⟩
  case rollback =>
    intro hv _ _ _
    unfold rollbackBranch
    refine Triple.bind (appOf_keeps hfine hv) fun app => ?_
    refine Triple.bind (Triple.within _ (rollbackApp_deploys app)) fun _ => ?_
    refine Triple.bind (ensureUnmarked_keeps hfine (fun _ hw => hw) fun _ _ hw => hw.keep rfl rfl)
      fun _ => ?_
    exact Triple.pure fun _ hw => ⟨hw, fun h => by cases h⟩

end Sagas

/-- The proxy Deployment follows the settings named like its ingress. Whatever ingress a
reconciliation is handed and whatever its calls do, a reconciliation that secures the ingress
leaves the proxy Deployment in place, following the settings stored under the ingress's name (or
their absence): their replica count when set and positive, else one; their image when set and not
empty, else the default image; the requests and limits they set, each only when not empty, else
requests of `15m` of CPU and `20Mi` of memory; and one scope argument, their scopes joined by
spaces when they name any, else `openid email profile groups offline_access`. Every Deployment a
reconciliation stores is that one. -/
theorem reconcile_deploys_settings (ing : Ingress) (w : World) :
    ((exec (reconcile ing) w).1 = .ok .secured →
      ∃ d, (exec (reconcile ing) w).2.cluster.deployments.get? ing.metadata.key.proxy = some d ∧
        d.FollowsSettings (w.cluster.ingressAuths.get? ing.metadata.key)) ∧
    ∀ k d, (exec (reconcile ing) w).2.cluster.deployments.get? k = some d →
      w.cluster.deployments.get? k = some d ∨
        (k = ing.metadata.key.proxy ∧ d.FollowsSettings (w.cluster.ingressAuths.get? ing.metadata.key)) := by
  have hends := reconcile_deploys ing w w (World.DeploymentsFrom.start w _ _)
  revert hends
  rcases exec (reconcile ing) w with ⟨e | o, w'⟩
  · intro hw'
    exact ⟨fun h => (by cases h), hw'.deployments⟩
  · intro hw'
    exact ⟨fun h => hw'.2 (Except.ok.inj h), hw'.1.deployments⟩

end IngressGuard
