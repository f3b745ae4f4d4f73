import IngressGuard.Proofs.Objects
import IngressGuard.Proofs.BackupText

/-!
# One specification for each step of the sagas

Every function the reconciliation is built from gets one triple, stated by the outcomes it can
have: what the function read, what it wrote, and where it fails. Callers chain these triples
along the saga's text and never unfold the function again. A caller names the condition it
carries (`pre`, and for the longer functions the conditions between their stages) and the
condition a failure leaves (`err`), and `Fine pre err` says that the calls themselves, which may
be failed by a planned fault, respect both.

`reconcile_triple` is the decision of a reconciliation: the condition under which each of its
outcomes is reached and the work done on the way there.
-/

namespace IngressGuard

open IngressGuard.Kube IngressGuard.Dex

section Specs

variable {pre err : World → Prop}

/-- A read of a stored ingress, remembering what was read. -/
theorem getIngress_found {k : ObjectKey} (hfine : Fine pre err)
    (hmissing : ∀ w, pre w → w.cluster.ingresses.get? k = none → err w) :
    Triple pre (getIngress k) (fun ing w => pre w ∧ w.cluster.ingresses.get? k = some ing) err :=
  getIngress_triple (hfine _ _) (fun _ _ hw h => ⟨hw, h⟩) hmissing

/-- A write of an ingress read from the store under the key it was read from. -/
theorem updateIngress_read {k : ObjectKey} {ing ing' : Ingress} (post : Unit → World → Prop)
    (hfine : Fine pre err) (hkey : ing'.metadata.key = ing.metadata.key)
    (hok : ∀ w, pre w → w.cluster.ingresses.get? k = some ing →
      w.cluster.ingresses.contains ing.metadata.key = true → post () (w.withIngress ing'))
    (hgone : ∀ w ing, pre w → w.cluster.ingresses.get? k = some ing →
      w.cluster.ingresses.contains ing.metadata.key = false → err w) :
    Triple (fun w => pre w ∧ w.cluster.ingresses.get? k = some ing) (updateIngress ing') post err :=
  updateIngress_triple ((hfine.and fun _ _ _ => Iff.rfl) _ _)
    (fun w hw hc => hok w hw.1 hw.2 (hkey ▸ hc)) (fun w hw hc => hgone w ing hw.1 hw.2 (hkey ▸ hc))

theorem ensureMarked_triple {k : ObjectKey} {post : Unit → World → Prop} (hfine : Fine pre err)
    (hmissing : ∀ w, pre w → w.cluster.ingresses.get? k = none → err w)
    (hmarked : ∀ w ing, pre w → w.cluster.ingresses.get? k = some ing → ing.isMarked = true →
      post () w)
    (hmark : ∀ w ing, pre w → w.cluster.ingresses.get? k = some ing → ing.isMarked = false →
      w.cluster.ingresses.contains ing.metadata.key = true → post () (w.withIngress ing.mark))
    (hgone : ∀ w ing, pre w → w.cluster.ingresses.get? k = some ing →
      w.cluster.ingresses.contains ing.metadata.key = false → err w) :
    Triple pre (ensureMarked k) post err := by
  refine Triple.bind (getIngress_found hfine hmissing) fun ing => ?_
  cases hm : ing.isMarked with
  | true =>
    rw [if_pos rfl]
    exact Triple.pure fun w hw => hmarked w ing hw.1 hw.2 hm
  | false =>
    rw [if_neg Bool.false_ne_true]
    exact Triple.within _ (updateIngress_read _ hfine (Ingress.key_mark ing)
      (fun w hw hs hc => hmark w ing hw hs hm hc) hgone)

theorem ensureUnmarked_triple {k : ObjectKey} {post : Unit → World → Prop} (hfine : Fine pre err)
    (hmissing : ∀ w, pre w → w.cluster.ingresses.get? k = none → err w)
    (hunmarked : ∀ w ing, pre w → w.cluster.ingresses.get? k = some ing → ing.isUnmarked = true →
      post () w)
    (hunmark : ∀ w ing, pre w → w.cluster.ingresses.get? k = some ing → ing.isUnmarked = false →
      w.cluster.ingresses.contains ing.metadata.key = true → post () (w.withIngress ing.unmark))
    (hgone : ∀ w ing, pre w → w.cluster.ingresses.get? k = some ing →
      w.cluster.ingresses.contains ing.metadata.key = false → err w) :
    Triple pre (ensureUnmarked k) post err := by
  refine Triple.bind (getIngress_found hfine hmissing) fun ing => ?_
  cases hm : ing.isUnmarked with
  | true =>
    rw [if_pos rfl]
    exact Triple.pure fun w hw => hunmarked w ing hw.1 hw.2 hm
  | false =>
    rw [if_neg Bool.false_ne_true]
    exact Triple.within _ (updateIngress_read _ hfine (Ingress.key_unmark ing)
      (fun w hw hs hc => hunmark w ing hw hs hm hc) hgone)

theorem readBackup_triple {text : String} {post : BackupRecord → World → Prop}
    (hok : ∀ r, BackupRecord.ofText text = .ok r → ∀ w, pre w → post r w)
    (hbad : ∀ e, BackupRecord.ofText text = .error e → ∀ w, pre w → err w) :
    Triple pre (readBackup text) post err := by
  refine Triple.within _ ?_
  cases h : BackupRecord.ofText text with
  | ok r => exact Triple.pure fun w hw => hok r h w hw
  | error e => exact Triple.fail fun w hw => hbad e h w hw

theorem backupOrGet_triple {app : App} {data : BackupRecord} {post : BackupRecord → World → Prop}
    (hfine : Fine pre err)
    (hmissing : ∀ w, pre w → w.cluster.ingresses.get? app.ingressKey = none → err w)
    (hfound : ∀ w ing text r, pre w → w.cluster.ingresses.get? app.ingressKey = some ing →
      ing.annotationValue? backupAnnotationKey = some text → BackupRecord.ofText text = .ok r →
      post r w)
    (hbad : ∀ w ing text e, pre w → w.cluster.ingresses.get? app.ingressKey = some ing →
      ing.annotationValue? backupAnnotationKey = some text → BackupRecord.ofText text = .error e →
      err w)
    (hstore : ∀ w ing, pre w → w.cluster.ingresses.get? app.ingressKey = some ing →
      ing.annotationValue? backupAnnotationKey = none →
      w.cluster.ingresses.contains ing.metadata.key = true →
      post data (w.withIngress (ing.annotated backupAnnotationKey data.toText)))
    (hgone : ∀ w ing, pre w → w.cluster.ingresses.get? app.ingressKey = some ing →
      w.cluster.ingresses.contains ing.metadata.key = false → err w) :
    Triple pre (backupOrGet app data) post err := by
  refine Triple.bind (Triple.within _ (getIngress_found hfine hmissing)) fun ing => ?_
  cases ha : ing.annotationValue? backupAnnotationKey with
  | some text =>
    exact readBackup_triple (fun r hr w hw => hfound w ing text r hw.1 hw.2 ha hr)
      (fun e he w hw => hbad w ing text e hw.1 hw.2 ha he)
  | none =>
    refine Triple.bind (Triple.within _ (updateIngress_read (fun _ => post data) hfine
      (Ingress.key_annotated ing backupAnnotationKey data.toText)
      (fun w hw hs hc => hstore w ing hw hs ha hc) hgone)) fun _ => ?_
    exact Triple.pure fun w hw => hw

theorem getBackup_triple {app : App} {post : Option BackupRecord → World → Prop}
    (hfine : Fine pre err)
    (hmissing : ∀ w, pre w → w.cluster.ingresses.get? app.ingressKey = none → err w)
    (hfound : ∀ w ing text r, pre w → w.cluster.ingresses.get? app.ingressKey = some ing →
      ing.annotationValue? backupAnnotationKey = some text → BackupRecord.ofText text = .ok r →
      post (some r) w)
    (hbad : ∀ w ing text e, pre w → w.cluster.ingresses.get? app.ingressKey = some ing →
      ing.annotationValue? backupAnnotationKey = some text → BackupRecord.ofText text = .error e →
      err w)
    (hnone : ∀ w ing, pre w → w.cluster.ingresses.get? app.ingressKey = some ing →
      ing.annotationValue? backupAnnotationKey = none → post none w) :
    Triple pre (getBackup app) post err := by
  refine Triple.bind (Triple.within _ (getIngress_found hfine hmissing)) fun ing => ?_
  cases ha : ing.annotationValue? backupAnnotationKey with
  | some text =>
    exact Triple.map (readBackup_triple (fun r hr w hw => hfound w ing text r hw.1 hw.2 ha hr)
      (fun e he w hw => hbad w ing text e hw.1 hw.2 ha he))
  | none => exact Triple.pure fun w hw => hnone w ing hw.1 hw.2 ha

theorem deleteBackup_triple {app : App} {post : Unit → World → Prop} (hfine : Fine pre err)
    (hmissing : ∀ w, pre w → w.cluster.ingresses.get? app.ingressKey = none → err w)
    (hnone : ∀ w ing, pre w → w.cluster.ingresses.get? app.ingressKey = some ing →
      ing.annotationValue? backupAnnotationKey = none → post () w)
    (hremove : ∀ w ing, pre w → w.cluster.ingresses.get? app.ingressKey = some ing →
      (ing.annotationValue? backupAnnotationKey).isSome →
      w.cluster.ingresses.contains ing.metadata.key = true →
      post () (w.withIngress (ing.unannotated backupAnnotationKey)))
    (hgone : ∀ w ing, pre w → w.cluster.ingresses.get? app.ingressKey = some ing →
      w.cluster.ingresses.contains ing.metadata.key = false → err w) :
    Triple pre (deleteBackup app) post err := by
  refine Triple.bind (Triple.within _ (getIngress_found hfine hmissing)) fun ing => ?_
  cases ha : ing.annotationValue? backupAnnotationKey with
  | none => exact Triple.pure fun w hw => hnone w ing hw.1 hw.2 ha
  | some text =>
    exact Triple.within _ (updateIngress_read _ hfine (Ingress.key_unannotated ing backupAnnotationKey)
      (fun w hw hs hc => hremove w ing hw hs (by simp [ha]) hc) hgone)

/-- Whether a path already leads where a swap would point it: same service name and port text. -/
def leadsTo (current target : ServiceBackend) : Bool :=
  current.name == target.name && portText current.port == portText target.port

theorem swapBackend_triple {k : ObjectKey} {target : ServiceBackend} {post : Unit → World → Prop}
    (hfine : Fine pre err)
    (hmissing : ∀ w, pre w → w.cluster.ingresses.get? k = none → err w)
    (hshape : ∀ w ing e, pre w → w.cluster.ingresses.get? k = some ing →
      ing.serviceBackend = .error e → err w)
    (hsame : ∀ w ing cur, pre w → w.cluster.ingresses.get? k = some ing →
      ing.serviceBackend = .ok cur → leadsTo cur target = true → post () w)
    (hswap : ∀ w ing cur, pre w → w.cluster.ingresses.get? k = some ing →
      ing.serviceBackend = .ok cur → leadsTo cur target = false →
      w.cluster.ingresses.contains ing.metadata.key = true →
      post () (w.withIngress (ing.withBackend target)))
    (hgone : ∀ w ing, pre w → w.cluster.ingresses.get? k = some ing →
      w.cluster.ingresses.contains ing.metadata.key = false → err w) :
    Triple pre (swapBackend k target) post err := by
  refine Triple.bind (Triple.within _ (getIngress_found hfine hmissing)) fun ing => ?_
  cases hs : ing.serviceBackend with
  | error e =>
    simp only [Op.ofShape]
    exact Triple.fail_bind fun w hw => hshape w ing e hw.1 hw.2 hs
  | ok cur =>
    simp only [Op.ofShape, pure_bind]
    rw [show (cur.name == target.name && portText cur.port == portText target.port) =
      leadsTo cur target from rfl]
    cases hl : leadsTo cur target with
    | true =>
      rw [if_pos rfl]
      exact Triple.pure fun w hw => hsame w ing cur hw.1 hw.2 hs hl
    | false =>
      rw [if_neg Bool.false_ne_true, Ingress.setServiceBackend_eq hs]
      simp only [pure_bind]
      exact Triple.within _ (updateIngress_read _ hfine rfl
        (fun w hw hs' hc => hswap w ing cur hw hs' hs hl hc) hgone)

/-- The app an ingress describes, from its service, host and proxy settings. -/
def appWith (ing : Ingress) (backend : ServiceBackend) (host : String)
    (auth : Option Auth.IngressAuthSpec) : App :=
  { id := ing.metadata.key.text
    authBackendId := (ing.annotationValue? backendAnnotationKey).getD ""
    host
    ingress := { name := ing.metadata.key.name, ns := ing.metadata.key.ns,
                 target := { name := backend.name, ns := ing.metadata.key.ns,
                             portText := portText backend.port } }
    settings := (auth.map proxySettingsOf).getD {} }

theorem appOf_triple {ing : Ingress} {s : ServiceBackend} {h : String} {post : App → World → Prop}
    (hcall : CallFine pre err .getIngressAuth ing.metadata.key.text) (hs : ing.serviceBackend = .ok s)
    (hh : ing.host = .ok h)
    (hok : ∀ w, pre w → post (appWith ing s h (w.cluster.ingressAuths.get? ing.metadata.key)) w) :
    Triple pre (appOf ing) post err := by
  unfold appOf
  rw [hs, hh]
  simp only [Op.ofShape, pure_bind]
  have hread : Triple pre (getIngressAuth ing.metadata.key)
      (fun auth w => pre w ∧ auth = w.cluster.ingressAuths.get? ing.metadata.key) err :=
    getIngressAuth_triple hcall fun w hw => ⟨hw, rfl⟩
  refine Triple.bind (Triple.within _ hread) fun auth => Triple.pure fun w hw => ?_
  rw [hw.2]
  exact hok w hw.1

/-- The app of an ingress of the supported shape: its service and host are known. -/
theorem appOf_valid {ing : Ingress} {post : App → World → Prop} (hfine : Fine pre err)
    (hv : ing.validate = .ok ())
    (hok : ∀ s h, ing.serviceBackend = .ok s → ing.host = .ok h → ∀ w, pre w →
      post (appWith ing s h (w.cluster.ingressAuths.get? ing.metadata.key)) w) :
    Triple pre (appOf ing) post err := by
  obtain ⟨s, hs⟩ := Ingress.validate_eq_ok.1 hv
  obtain ⟨h, hh⟩ := Ingress.host_eq_ok_of_serviceBackend hs
  exact appOf_triple (hfine _ _) hs hh (hok s h hs hh)

theorem appOf_keeps {ing : Ingress} {P : World → Prop} (hfine : Fine P err)
    (hv : ing.validate = .ok ()) : Triple P (appOf ing) (fun _ => P) err :=
  appOf_valid hfine hv fun _ _ _ _ _ hw => hw

theorem registererFor_triple {backend : AuthBackend} {post : String → World → Prop}
    (hfine : Fine pre err)
    (hunknown : backend.dex = none → ∀ w, pre w → err w)
    (hheld : ∀ dex, backend.dex = some dex → ∀ w, pre w → w.connected.contains dex.apiUrl = true →
      post dex.apiUrl w)
    (hconnect : ∀ dex, backend.dex = some dex → ∀ w, pre w →
      w.connected.contains dex.apiUrl = false → checkAddress dex.apiUrl = .ok () →
      post dex.apiUrl ((w.withConnect dex.apiUrl).withConnected dex.apiUrl))
    (hbad : ∀ dex, backend.dex = some dex → ∀ w, pre w → w.connected.contains dex.apiUrl = false →
      (∃ e, checkAddress dex.apiUrl = .error e) → err w) :
    Triple pre (registererFor backend) post err := by
  unfold registererFor
  cases hd : backend.dex with
  | none => exact Triple.fail fun w hw => hunknown hd w hw
  | some dex =>
    refine Triple.get_bind fun v => ?_
    cases hc : v.connected.contains dex.apiUrl with
    | true =>
      rw [if_pos rfl]
      exact Triple.pure fun w hw => hheld dex hd w hw.1 (hw.2 ▸ hc)
    | false =>
      rw [if_neg Bool.false_ne_true]
      have hconnect' : Triple (fun w => pre w ∧ w.connected.contains dex.apiUrl = false)
          (dexConnect dex.apiUrl) (fun _ w => post dex.apiUrl (w.withConnected dex.apiUrl)) err :=
        dexConnect_triple ((hfine.and fun _ _ _ => Iff.rfl) _ _)
          (fun w hw ha => hconnect dex hd w hw.1 hw.2 ha) (fun w hw ha => hbad dex hd w hw.1 hw.2 ha)
      refine (Triple.bind hconnect' fun _ => ?_).mono (fun w hw => ⟨hw.1, hw.2 ▸ hc⟩)
        (fun _ _ h => h) (fun _ h => h)
      exact Triple.bind (Triple.modify fun w hw => hw) fun _ => Triple.pure fun w hw => hw

/-- The client a registration creates. -/
def clientOf (app : OidcApp) (secret : String) : Client :=
  { id := app.id, name := app.name, secret, redirectUris := [app.callbackUrl] }

/-- The key of the Secret holding an app's client secret. -/
def World.clientSecretKey (w : World) (appId : String) : ObjectKey :=
  ⟨w.home, clientSecretName appId⟩

/-- Registration in three stages: `F s` after a fresh secret `s` is drawn, `S s` once the secret
to register with is settled. -/
theorem register_triple {address : String} {app : OidcApp} {P : World → Prop}
    {F S : String → World → Prop} {post : Registration → World → Prop}
    (hfine : Fine P err) (hfineF : ∀ s, Fine (F s) err) (hfineS : ∀ s, Fine (S s) err)
    (hreuse : ∀ w s, P w →
      storedClientSecret (w.cluster.secrets.get? (w.clientSecretKey app.id)) = some s → S s w)
    (hdraw : ∀ w, P w → storedClientSecret (w.cluster.secrets.get? (w.clientSecretKey app.id)) = none →
      F (secretOf (w.draws w.secretsDrawn)) { w with secretsDrawn := w.secretsDrawn + 1 })
    (hstore : ∀ w s, F s w → S s (w.withSecret (clientSecretObject w.home app s)))
    (hdelete : ∀ w s, S s w → S s (w.withoutClient address app.id))
    (hheld : ∀ w s, S s w → w.holdsClient address app.id = true → post ⟨app.id, s⟩ w)
    (hnew : ∀ w s, S s w → w.holdsClient address app.id = false →
      post ⟨app.id, s⟩ (w.withClient address (clientOf app s))) :
    Triple P (register address app) post err := by
  unfold register
  refine Triple.get_bind fun v => Triple.mono
    (?_ : Triple (fun w => P w ∧ w.home = v.home) _ post err)
    (fun w hw => ⟨hw.1, congrArg World.home hw.2⟩) (fun _ _ h => h) (fun _ h => h)
  -- the home namespace never changes, so the Secret is looked up and written at one key
  have hgot : Triple (fun w => P w ∧ w.home = v.home) (getSecret ⟨v.home, clientSecretName app.id⟩)
      (fun stored w => (P w ∧ w.home = v.home) ∧
        stored = w.cluster.secrets.get? (w.clientSecretKey app.id)) err :=
    getSecret_triple ((hfine.and fun _ _ _ => Iff.rfl) _ _)
      fun w hw => ⟨hw, by rw [World.clientSecretKey, hw.2]⟩
  have hcreate : ∀ s, Triple (fun w => S s w ∧ w.home = v.home)
      (do
        let _ ← Op.within "could not create Dex client" (dexCreateClient address (clientOf app s))
        pure { clientId := app.id, clientSecret := s }) post err := fun s =>
    Triple.bind (Triple.within _ (dexCreateClient_triple (((hfineS s).and fun _ _ _ => Iff.rfl) _ _)
      (fun w hw hh => hheld w s hw.1 hh) (fun w hw hh => hnew w s hw.1 hh)))
      fun _ => Triple.pure fun w hw => hw
  refine Triple.bind (Triple.within _ hgot) fun stored => ?_
  cases hs : storedClientSecret stored with
  | some s =>
    exact Triple.bind (Triple.pure fun w hw => ⟨hreuse w s hw.1.1 (hw.2 ▸ hs), hw.1.2⟩) hcreate
  | none =>
    have hdrawn : Triple (fun w => (P w ∧ w.home = v.home) ∧
        stored = w.cluster.secrets.get? (w.clientSecretKey app.id)) freshSecret
        (fun s w => F s w ∧ w.home = v.home) err :=
      freshSecret_triple fun w hw => ⟨hdraw w hw.1.1 (hw.2 ▸ hs), hw.1.2⟩
    refine Triple.bind hdrawn fun s => ?_
    have hstored : Triple (fun w => F s w ∧ w.home = v.home)
        (ensureSecret (clientSecretObject v.home app s)) (fun _ w => S s w ∧ w.home = v.home) err :=
      ensureSecret_triple (((hfineF s).and fun _ _ _ => Iff.rfl) _ _)
        fun w hw => ⟨hw.2 ▸ hstore w s hw.1, hw.2⟩
    have hdeleted : Triple (fun w => S s w ∧ w.home = v.home) (dexDeleteClient address app.id)
        (fun _ w => S s w ∧ w.home = v.home) err :=
      dexDeleteClient_triple (((hfineS s).and fun _ _ _ => Iff.rfl) _ _)
        fun w hw => ⟨hdelete w s hw.1, by simp [World.withoutClient, hw.2]⟩
    exact Triple.bind (Triple.within _ hstored) fun _ =>
      Triple.bind (Triple.within _ hdeleted) fun _ => Triple.bind (Triple.pure fun w hw => hw) hcreate

theorem unregister_triple {address appId : String} {P Q : World → Prop}
    {post : Unit → World → Prop} (hfine : Fine P err) (hfineQ : Fine Q err)
    (hclient : ∀ w, P w → Q (w.withoutClient address appId))
    (hsecret : ∀ w, Q w → post () (w.withoutSecret (w.clientSecretKey appId))) :
    Triple P (unregister address appId) post err := by
  unfold unregister
  have hdeleted : Triple P (dexDeleteClient address appId) (fun _ => Q) err :=
    dexDeleteClient_triple (hfine _ _) fun w hw => hclient w hw
  refine Triple.bind (Triple.within _ hdeleted) fun _ => Triple.get_bind fun v => ?_
  have hremoved : Triple (fun w => Q w ∧ w.home = v.home)
      (deleteSecret ⟨v.home, clientSecretName appId⟩) post err :=
    deleteSecret_triple ((hfineQ.and fun _ _ _ => Iff.rfl) _ _)
      fun w hw => by simpa [World.clientSecretKey, hw.2] using hsecret w hw.1
  exact (Triple.within _ hremoved).mono (fun w hw => ⟨hw.1, congrArg World.home hw.2⟩)
    (fun _ _ h => h) (fun _ h => h)

theorem getAuthBackend_keeps {id : String} {P : World → Prop} (hfine : Fine P err)
    (herr : ∀ w, P w → err w) : Triple P (getAuthBackend id) (fun _ => P) err :=
  getAuthBackend_triple (hfine _ _) (fun _ _ hw _ => hw) (fun w hw _ => herr w hw)

theorem routeService_keeps {s : ServiceRef} {P : World → Prop} (hfine : Fine P err)
    (herr : ∀ w, P w → err w) : Triple P (routeService s) (fun _ => P) err :=
  routeService_triple (hfine _ _) (fun _ _ hw _ => hw) (fun w hw _ => herr w hw)

theorem registererFor_keeps {backend : AuthBackend} {P : World → Prop} (hfine : Fine P err)
    (herr : ∀ w, P w → err w) (hconnect : ∀ w a, P w → P ((w.withConnect a).withConnected a)) :
    Triple P (registererFor backend) (fun _ => P) err :=
  registererFor_triple hfine (fun _ w hw => herr w hw) (fun _ _ _ hw _ => hw)
    (fun _ _ w hw _ _ => hconnect w _ hw) (fun _ _ w hw _ _ => herr w hw)

/-- In a world whose backends of Dex kind all name the Dex at `address`, a backend looked up names
that Dex if it names one. -/
theorem getAuthBackend_named {id address : String} {P : World → Prop} (hfine : Fine P err)
    (herr : ∀ w, P w → err w)
    (hnames : ∀ w, P w → ∀ id spec dex, w.backends.lookup id = some spec → spec.dex = some dex →
      dex.apiAddress = address) :
    Triple P (getAuthBackend id)
      (fun backend w => P w ∧ ∀ dex, backend.dex = some dex → dex.apiUrl = address) err := by
  refine getAuthBackend_triple (hfine _ _) (fun w spec hw hl => ⟨hw, fun dex hd => ?_⟩)
    fun w hw _ => herr w hw
  obtain ⟨d, hd', rfl⟩ := Option.map_eq_some_iff.1 hd
  exact hnames w hw id spec d hl hd'

/-- A backend naming the Dex at `address` is registered at that address. -/
theorem registererFor_named {backend : AuthBackend} {address : String} {P : World → Prop}
    (hfine : Fine P err) (herr : ∀ w, P w → err w)
    (hconnect : ∀ w a, P w → P ((w.withConnect a).withConnected a))
    (hb : ∀ dex, backend.dex = some dex → dex.apiUrl = address) :
    Triple P (registererFor backend) (fun a w => P w ∧ a = address) err :=
  registererFor_triple hfine (fun _ w hw => herr w hw) (fun dex hd _ hw _ => ⟨hw, hb dex hd⟩)
    (fun dex hd w hw _ _ => ⟨hconnect w _ hw, hb dex hd⟩) (fun _ _ w hw _ _ => herr w hw)

theorem register_keeps {address : String} {app : OidcApp} {P : World → Prop} (hfine : Fine P err)
    (hdraw : ∀ w, P w → P { w with secretsDrawn := w.secretsDrawn + 1 })
    (hstore : ∀ w s, P w → P (w.withSecret (clientSecretObject w.home app s)))
    (hdelete : ∀ w, P w → P (w.withoutClient address app.id))
    (hcreate : ∀ w c, P w → P (w.withClient address c)) :
    Triple P (register address app) (fun _ => P) err := by
  refine register_triple hfine (fun _ => hfine) (fun _ => hfine) ?reuse ?draw ?store ?delete ?held
    ?new
  case reuse => exact fun _ _ hw _ => hw
  case draw => exact fun w hw _ => hdraw w hw
  case store => exact fun w s hw => hstore w s hw
  case delete => exact fun w _ hw => hdelete w hw
  case held => exact fun _ _ hw _ => hw
  case new => exact fun w _ hw _ => hcreate w _ hw

theorem unregister_keeps {address appId : String} {P : World → Prop} (hfine : Fine P err)
    (hdelete : ∀ w, P w → P (w.withoutClient address appId))
    (hsecret : ∀ w, P w → P (w.withoutSecret (w.clientSecretKey appId))) :
    Triple P (unregister address appId) (fun _ => P) err :=
  unregister_triple hfine hfine hdelete hsecret

/-! The sagas on an ingress write nothing but the ingress: a condition that survives every
write of an ingress is kept by them. -/

section IngressWrites

variable {P : World → Prop} (hfine : Fine P err) (herr : ∀ w, P w → err w)
  (hwrite : ∀ w ing, P w → P (w.withIngress ing))
include hfine herr

theorem getBackup_keeps {app : App} : Triple P (getBackup app) (fun _ => P) err :=
  getBackup_triple hfine (fun w hw _ => herr w hw) (fun _ _ _ _ hw _ _ _ => hw)
    (fun w _ _ _ hw _ _ _ => herr w hw) (fun _ _ hw _ _ => hw)

include hwrite

theorem ensureMarked_keeps {k : ObjectKey} : Triple P (ensureMarked k) (fun _ => P) err :=
  ensureMarked_triple hfine (fun w hw _ => herr w hw) (fun _ _ hw _ _ => hw)
    (fun w _ hw _ _ _ => hwrite w _ hw) (fun w _ hw _ _ => herr w hw)

theorem ensureUnmarked_keeps {k : ObjectKey} : Triple P (ensureUnmarked k) (fun _ => P) err :=
  ensureUnmarked_triple hfine (fun w hw _ => herr w hw) (fun _ _ hw _ _ => hw)
    (fun w _ hw _ _ _ => hwrite w _ hw) (fun w _ hw _ _ => herr w hw)

theorem backupOrGet_keeps {app : App} {data : BackupRecord} :
    Triple P (backupOrGet app data) (fun _ => P) err :=
  backupOrGet_triple hfine (fun w hw _ => herr w hw) (fun _ _ _ _ hw _ _ _ => hw)
    (fun w _ _ _ hw _ _ _ => herr w hw) (fun w _ hw _ _ _ => hwrite w _ hw)
    (fun w _ hw _ _ => herr w hw)

theorem deleteBackup_keeps {app : App} : Triple P (deleteBackup app) (fun _ => P) err :=
  deleteBackup_triple hfine (fun w hw _ => herr w hw) (fun _ _ hw _ _ => hw)
    (fun w _ hw _ _ _ => hwrite w _ hw) (fun w _ hw _ _ => herr w hw)

theorem swapBackend_keeps {k : ObjectKey} {target : ServiceBackend} :
    Triple P (swapBackend k target) (fun _ => P) err :=
  swapBackend_triple hfine (fun w hw _ => herr w hw) (fun w _ _ hw _ _ => herr w hw)
    (fun _ _ _ hw _ _ _ => hw) (fun w _ _ hw _ _ _ _ => hwrite w _ hw)
    (fun w _ hw _ _ => herr w hw)

end IngressWrites

/-- The proxy objects of a plan, each stored at its key. -/
def ProxyInPlace (o : ProxyObjects) (w : World) : Prop :=
  w.cluster.secrets.get? o.secret.metadata.key = some o.secret ∧
    w.cluster.deployments.get? o.deployment.metadata.key = some o.deployment ∧
    w.cluster.services.get? o.service.metadata.key = some o.service

/-- The key of the proxy objects of the ingress at a key. -/
def ObjectKey.proxy (k : ObjectKey) : ObjectKey :=
  ⟨k.ns, proxyName k.name⟩

@[simp] theorem secret_key_objects (plan : ProxyPlan) :
    plan.objects.secret.metadata.key = plan.app.ingressKey.proxy := rfl
@[simp] theorem deployment_key_objects (plan : ProxyPlan) :
    plan.objects.deployment.metadata.key = plan.app.ingressKey.proxy := rfl
@[simp] theorem service_key_objects (plan : ProxyPlan) :
    plan.objects.service.metadata.key = plan.app.ingressKey.proxy := rfl

theorem provision_triple {plan : ProxyPlan} {post : Unit → World → Prop} (hfine : Fine pre err)
    (hsecret : ∀ w, pre w → pre (w.withSecret plan.objects.secret))
    (hdeployment : ∀ w, pre w → pre (w.withDeployment plan.objects.deployment))
    (hservice : ∀ w, pre w → pre (w.withService plan.objects.service))
    (hswap : Triple (fun w => pre w ∧ ProxyInPlace plan.objects w)
      (swapBackend ⟨plan.app.ingress.ns, plan.app.ingress.name⟩
        (serviceBackendFor (proxyName plan.app.ingress.name) proxyPortName)) post err) :
    Triple pre (provision plan) post err := by
  unfold provision
  have h₁ : Triple pre (ensureSecret plan.objects.secret)
      (fun _ w => pre w ∧ w.cluster.secrets.get? plan.objects.secret.metadata.key =
        some plan.objects.secret) err :=
    ensureSecret_triple (hfine _ _) fun w hw => ⟨hsecret w hw, by simp [World.withSecret]⟩
  have h₂ : Triple (fun w => pre w ∧ w.cluster.secrets.get? plan.objects.secret.metadata.key =
        some plan.objects.secret) (ensureDeployment plan.objects.deployment)
      (fun _ w => pre w ∧ w.cluster.secrets.get? plan.objects.secret.metadata.key =
        some plan.objects.secret ∧ w.cluster.deployments.get? plan.objects.deployment.metadata.key =
        some plan.objects.deployment) err :=
    ensureDeployment_triple ((hfine.and fun _ _ _ => Iff.rfl) _ _)
      fun w hw => ⟨hdeployment w hw.1, hw.2, by simp [World.withDeployment]⟩
  have h₃ : Triple (fun w => pre w ∧ w.cluster.secrets.get? plan.objects.secret.metadata.key =
        some plan.objects.secret ∧ w.cluster.deployments.get? plan.objects.deployment.metadata.key =
        some plan.objects.deployment) (ensureService plan.objects.service)
      (fun _ w => pre w ∧ ProxyInPlace plan.objects w) err :=
    ensureService_triple ((hfine.and fun _ _ _ => Iff.rfl) _ _)
      fun w hw => ⟨hservice w hw.1, hw.2.1, hw.2.2, by simp [World.withService]⟩
  exact Triple.bind (Triple.within _ h₁) fun _ => Triple.bind (Triple.within _ h₂) fun _ =>
    Triple.bind (Triple.within _ h₃) fun _ => hswap

theorem unprovision_triple {removal : ProxyRemoval} {mid : World → Prop}
    (hswap : Triple pre (swapBackend ⟨removal.ingressNs, removal.ingressName⟩
      (serviceBackendFor removal.serviceName removal.servicePortText)) (fun _ => mid) err)
    (hfine : Fine mid err)
    (hservice : ∀ w, mid w → mid (w.withoutService ⟨removal.ingressNs, proxyName removal.ingressName⟩))
    (hdeployment : ∀ w, mid w →
      mid (w.withoutDeployment ⟨removal.ingressNs, proxyName removal.ingressName⟩))
    (hsecret : ∀ w, mid w → mid (w.withoutSecret ⟨removal.ingressNs, proxyName removal.ingressName⟩)) :
    Triple pre (unprovision removal) (fun _ => mid) err := by
  unfold unprovision
  exact Triple.bind hswap fun _ =>
    Triple.bind (Triple.within _ (deleteService_triple (hfine _ _) hservice)) fun _ =>
    Triple.bind (Triple.within _ (deleteDeployment_triple (hfine _ _) hdeployment)) fun _ =>
    Triple.within _ (deleteSecret_triple (hfine _ _) hsecret)

/-- What a reconciliation does to secure an ingress it marked before. -/
def secureBranch (ing : Ingress) : Op Outcome := do
  let app ← appOf ing
  Op.within "could not secure app" (secureApp app)
  ensureMarked ing.metadata.key
  pure .secured

/-- What a reconciliation does to roll an ingress back. -/
def rollbackBranch (ing : Ingress) : Op Outcome := do
  let app ← appOf ing
  Op.within "could not rollback app security" (rollbackApp app)
  ensureUnmarked ing.metadata.key
  pure .rolledBack

/-- Securing in a reconciliation ends in `secured` whenever it returns. -/
theorem secureBranch_returns {ing : Ingress} :
    Triple pre (secureBranch ing) (fun o _ => o = .secured) (fun _ => True) := by
  unfold secureBranch
  exact Triple.bind Triple.trivial fun _ => Triple.bind Triple.trivial fun _ =>
    Triple.bind Triple.trivial fun _ => Triple.pure fun _ _ => rfl

/-- Rolling back in a reconciliation ends in `rolledBack` whenever it returns. -/
theorem rollbackBranch_returns {ing : Ingress} :
    Triple pre (rollbackBranch ing) (fun o _ => o = .rolledBack) (fun _ => True) := by
  unfold rollbackBranch
  exact Triple.bind Triple.trivial fun _ => Triple.bind Triple.trivial fun _ =>
    Triple.bind Triple.trivial fun _ => Triple.pure fun _ _ => rfl

/-- The decision of a reconciliation: each way it can go, with the conditions that lead there. -/
theorem reconcile_triple {ing : Ingress} {post : Outcome → World → Prop}
    (hignored : ing.wantsSecurity = false → ing.isHandled = false → ∀ w, pre w → post .ignored w)
    (hinvalid : ∀ e, ing.validate = .error e → ∀ w, pre w → err w)
    (hclean : ing.validate = .ok () → ing.isDeleting = true → ing.hasSecurityFinalizer = false →
      ∀ w, pre w → post .clean w)
    (hmark : ing.validate = .ok () → ing.wantsSecurity = true → ing.isDeleting = false →
      ing.isHandled = false → Triple pre (ensureMarked ing.metadata.key) (fun _ => post .markedReady) err)
    (hsecure : ing.validate = .ok () → ing.wantsSecurity = true → ing.isDeleting = false →
      ing.isHandled = true → Triple pre (secureBranch ing) post err)
    (hrollback : ing.validate = .ok () → (ing.wantsSecurity = true ∨ ing.isHandled = true) →
      (ing.isDeleting = false ∨ ing.hasSecurityFinalizer = true) →
      (ing.wantsSecurity = false ∨ ing.isDeleting = true) → Triple pre (rollbackBranch ing) post err) :
    Triple pre (reconcile ing) post err := by
  unfold reconcile
  dsimp only
  by_cases hskip : (!ing.wantsSecurity && !ing.isHandled) = true
  · rw [if_pos hskip]
    simp only [Bool.and_eq_true, Bool.not_eq_eq_eq_not, Bool.not_true] at hskip
    exact Triple.pure fun w hw => hignored hskip.1 hskip.2 w hw
  rw [if_neg hskip]
  cases hv : ing.validate with
  | error e =>
    simp only [Op.ofShape]
    exact Triple.fail_bind fun w hw => hinvalid e hv w hw
  | ok u =>
    simp only [Op.ofShape, pure_bind]
    by_cases hdone : (ing.isDeleting && !ing.hasSecurityFinalizer) = true
    · rw [if_pos hdone]
      simp only [Bool.and_eq_true, Bool.not_eq_eq_eq_not, Bool.not_true] at hdone
      exact Triple.pure fun w hw => hclean hv hdone.1 hdone.2 w hw
    rw [if_neg hdone]
    by_cases hwant : (ing.wantsSecurity && !ing.isDeleting) = true
    · rw [if_pos hwant]
      simp only [Bool.and_eq_true, Bool.not_eq_eq_eq_not, Bool.not_true] at hwant
      by_cases hnew : (!ing.isHandled) = true
      · rw [if_pos hnew]
        simp only [Bool.not_eq_eq_eq_not, Bool.not_true] at hnew
        exact Triple.bind (hmark hv hwant.1 hwant.2 hnew) fun _ => Triple.pure fun w hw => hw
      · rw [if_neg hnew]
        simp only [Bool.not_eq_eq_eq_not, Bool.not_true, Bool.not_eq_false] at hnew
        exact hsecure hv hwant.1 hwant.2 (by simpa using hnew)
    · rw [if_neg hwant]
      refine hrollback hv ?_ ?_ ?_
      · revert hskip
        cases ing.wantsSecurity <;> cases ing.isHandled <;> simp
      · revert hdone
        cases ing.isDeleting <;> cases ing.hasSecurityFinalizer <;> simp
      · revert hwant
        cases ing.wantsSecurity <;> cases ing.isDeleting <;> simp

end Specs

end IngressGuard
