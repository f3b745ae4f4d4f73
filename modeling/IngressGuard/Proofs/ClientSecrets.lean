import IngressGuard.Proofs.RoundTrip
import IngressGuard.Proofs.AsciiText

/-!
# Client secrets in agreement with Dex

Dex keeps the secret of a client it already holds, so the controller keeps each client's secret
in a Secret of its own namespace and registers with the secret stored there. What makes this
work is an agreement (`World.SecretsAgree`): every client that a Dex server holds has its secret
stored, non-empty, in the Secret named for its id.

Registering keeps the agreement wherever it runs. A stored secret is reused. A fresh secret is
stored only where the Secret holds none, so where no held client has its Secret, and any old
client of the id is deleted before the new one is created. A registration that returns hands out
the secret that Dex now holds for the client.

Unregistering deletes the client at one address and then the Secret of its id. That keeps the
agreement only when no Dex elsewhere holds a client of the id, and no other held id has a Secret
of the same name. A rollback unregisters at the backend its record names, which need not be the
backend the app was last registered at. So the agreement is kept along runs in which every Dex
backend names one Dex server (`World.OneDex`) and the ids the steps act for have Secrets of
distinct names (`SecretNamesApart`).
-/

namespace IngressGuard

open IngressGuard.Kube IngressGuard.Dex

/-! ## Drawn secrets read back

A drawn secret is unpadded base64url text, so ASCII, and it is never empty; its UTF-8 bytes read
back with replacement are the secret itself. -/

section Drawn

/-- Each ASCII byte is read as the character it encodes. -/
theorem decodeLossy_go_ascii (cs : List Char) (h : ∀ c ∈ cs, c.toNat < 128) (fuel : Nat)
    (hfuel : cs.length ≤ fuel) (acc : List Char) :
    Utf8.decodeLossy.go fuel (cs.map fun c => c.toNat.toUInt8) acc = acc.reverse ++ cs := by
  induction cs generalizing fuel acc with
  | nil => cases fuel <;> simp [Utf8.decodeLossy.go]
  | cons c cs ih =>
    obtain ⟨fuel, rfl⟩ : ∃ n, fuel = n + 1 := ⟨fuel - 1, by simp at hfuel; omega⟩
    have hc := h c (by simp)
    have hb : c.toNat.toUInt8.toNat = c.toNat := by simp; omega
    have hlt : c.toNat.toUInt8 < 0x80 := by
      rw [UInt8.lt_iff_toNat_lt, hb]
      exact hc
    rw [List.map_cons, Utf8.decodeLossy.go, if_pos hlt, hb, Char.ofNat_toNat,
      ih (fun d hd => h d (by simp [hd])) fuel (by simpa using hfuel)]
    simp

theorem decodeLossy_utf8_of_ascii {s : String} (h : ∀ c ∈ s.toList, c.toNat < 128) :
    Utf8.decodeLossy (Bytes.utf8 s) = s := by
  have hbytes : Bytes.utf8 s = s.toList.map fun c => c.toNat.toUInt8 := by
    rw [Bytes.utf8, String.toUTF8_eq_toByteArray, ← String.utf8Encode_toList,
      ByteArray.toList_eq_data_toList, utf8Encode_of_ascii _ h]
  rw [Utf8.decodeLossy, hbytes, decodeLossy_go_ascii _ h _ (by simp)]
  simp

theorem Base64Url.symbol_mem_alphabet (n : Nat) : Base64Url.symbol n ∈ Base64Url.alphabet := by
  have hlen : Base64Url.alphabet.length = 64 := by decide
  have hlt : n % 64 < Base64Url.alphabet.length := by
    rw [hlen]
    exact Nat.mod_lt _ (by decide)
  unfold Base64Url.symbol
  rw [List.getD_eq_getElem?_getD, List.getElem?_eq_getElem hlt, Option.getD_some]
  exact List.getElem_mem hlt

theorem Base64Url.symbol_ascii (n : Nat) : (Base64Url.symbol n).toNat < 128 := by
  -- checked as one boolean over the sixty-four characters
  have hcheck : Base64Url.alphabet.all (fun c => decide (c.toNat < 128)) = true := by decide
  exact of_decide_eq_true (List.all_eq_true.1 hcheck _ (Base64Url.symbol_mem_alphabet n))

/-- Every character of an encoding is the symbol of some value. -/
theorem Base64Url.forall_mem_encode {P : Char → Prop} (hP : ∀ n, P (Base64Url.symbol n))
    (bytes : List UInt8) : ∀ c ∈ (Base64Url.encode bytes).toList, P c := by
  fun_induction Base64Url.encode bytes with
  | case1 a b c rest n ih =>
    intro d hd
    simp only [String.toList_append, String.toList_ofList, List.mem_append, List.mem_cons,
      List.not_mem_nil, or_false] at hd
    rcases hd with (rfl | rfl | rfl | rfl) | hd
    all_goals first | exact hP _ | exact ih d hd
  | case2 a b n =>
    intro d hd
    simp only [String.toList_ofList, List.mem_cons, List.not_mem_nil, or_false] at hd
    rcases hd with rfl | rfl | rfl <;> exact hP _
  | case3 a n =>
    intro d hd
    simp only [String.toList_ofList, List.mem_cons, List.not_mem_nil, or_false] at hd
    rcases hd with rfl | rfl <;> exact hP _
  | case4 => simp

theorem Base64Url.encode_ascii (bytes : List UInt8) :
    ∀ c ∈ (Base64Url.encode bytes).toList, c.toNat < 128 :=
  Base64Url.forall_mem_encode Base64Url.symbol_ascii bytes

theorem Base64Url.encode_ne_empty {bytes : List UInt8} (h : bytes ≠ []) :
    Base64Url.encode bytes ≠ "" := by
  match bytes, h with
  | a :: b :: c :: rest, _ => simp [Base64Url.encode, ← String.toList_inj]
  | [a, b], _ => simp [Base64Url.encode, ← String.toList_inj]
  | [a], _ => simp [Base64Url.encode, ← String.toList_inj]

theorem secretOf_ascii (d : Vector UInt8 32) : ∀ c ∈ (secretOf d).toList, c.toNat < 128 :=
  Base64Url.encode_ascii _

theorem secretOf_ne_empty (d : Vector UInt8 32) : secretOf d ≠ "" := by
  apply Base64Url.encode_ne_empty
  exact List.ne_nil_of_length_pos (by simp)

/-- A drawn secret, once stored, reads back as itself. -/
theorem storedClientSecret_secretOf (home : String) (app : OidcApp) (d : Vector UInt8 32) :
    storedClientSecret (some (clientSecretObject home app (secretOf d))) = some (secretOf d) := by
  simp [storedClientSecret, clientSecretObject, clientSecretKey,
    decodeLossy_utf8_of_ascii (secretOf_ascii d), secretOf_ne_empty]

end Drawn

/-! ## The agreement -/

namespace World

/-- The secret stored for the client of an id, when its Secret holds a non-empty one. -/
def storedSecretOf (w : World) (id : String) : Option String :=
  storedClientSecret (w.cluster.secrets.get? (w.clientSecretKey id))

/-- Every client that a Dex server holds has its secret stored under its id. -/
def SecretsAgree (w : World) : Prop :=
  ∀ a id client, (id, client) ∈ (w.dexAt a).clients → w.storedSecretOf id = some client.secret

/-- The Dex at an address holds a client of the id, and every client of that id it holds has
the secret. -/
def HoldsWith (w : World) (address id secret : String) : Prop :=
  (∃ client, (id, client) ∈ (w.dexAt address).clients) ∧
    ∀ client, (id, client) ∈ (w.dexAt address).clients → client.secret = secret

/-- Every backend of Dex kind names the Dex at `address`, and only that Dex holds clients, all
of ids in `ids`. -/
def OneDex (w : World) (address : String) (ids : String → Prop) : Prop :=
  (∀ id spec dex, w.backends.lookup id = some spec → spec.dex = some dex →
    dex.apiAddress = address) ∧
    ∀ a id client, (id, client) ∈ (w.dexAt a).clients → a = address ∧ ids id

/-- The agreement, in the setting of one Dex server. -/
def AgreesAt (w : World) (address : String) (ids : String → Prop) : Prop :=
  w.SecretsAgree ∧ w.OneDex address ids

/-- The proxy Secret of an app's ingress hands the proxy a client secret. -/
def ProxyHolds (w : World) (app : App) (secret : String) : Prop :=
  ∃ s, w.cluster.secrets.get? app.ingressKey.proxy = some s ∧
    (s.data.bind (·.lookup "OIDC_CLIENT_SECRET")) = some (Bytes.utf8 secret)

end World

/-- Distinct ids in `ids` have Secrets of distinct names. -/
def SecretNamesApart (ids : String → Prop) : Prop :=
  ∀ x y, ids x → ids y → clientSecretName x = clientSecretName y → x = y

/-! ## Clients and Secrets under the writes -/

namespace World

variable {w : World}

@[simp] theorem home_withClient (w : World) (a : String) (c : Client) :
    (w.withClient a c).home = w.home := home_setDex w a _
@[simp] theorem home_withoutClient (w : World) (a id : String) :
    (w.withoutClient a id).home = w.home := home_setDex w a _
@[simp] theorem home_withConnect (w : World) (a : String) : (w.withConnect a).home = w.home :=
  home_setDex w a _
@[simp] theorem backends_withClient (w : World) (a : String) (c : Client) :
    (w.withClient a c).backends = w.backends := backends_setDex w a _
@[simp] theorem backends_withoutClient (w : World) (a id : String) :
    (w.withoutClient a id).backends = w.backends := backends_setDex w a _
@[simp] theorem backends_withConnect (w : World) (a : String) :
    (w.withConnect a).backends = w.backends := backends_setDex w a _

@[simp] theorem clients_withConnect (w : World) (a b : String) :
    ((w.withConnect a).dexAt b).clients = (w.dexAt b).clients := by
  unfold withConnect
  rw [dexAt_setDex]
  split
  · next h => subst h; rfl
  · rfl

theorem mem_clients_withClient {a b id : String} {c client : Client} :
    (id, client) ∈ ((w.withClient a c).dexAt b).clients ↔
      (id, client) ∈ (w.dexAt b).clients ∨ (b = a ∧ id = c.id ∧ client = c) := by
  unfold withClient
  rw [dexAt_setDex]
  by_cases h : b = a
  · subst h
    simp
  · simp [h]

theorem mem_clients_withoutClient {a b id x : String} {client : Client} :
    (x, client) ∈ ((w.withoutClient a id).dexAt b).clients ↔
      (x, client) ∈ (w.dexAt b).clients ∧ (b = a → x ≠ id) := by
  unfold withoutClient
  rw [dexAt_setDex]
  by_cases h : b = a
  · subst h
    simp
  · simp [h]

theorem holdsClient_iff {a id : String} :
    w.holdsClient a id = true ↔ ∃ client, (id, client) ∈ (w.dexAt a).clients := by
  simp only [holdsClient, List.any_eq_true, beq_iff_eq]
  constructor
  · rintro ⟨⟨x, client⟩, hmem, rfl⟩
    exact ⟨client, hmem⟩
  · rintro ⟨client, hmem⟩
    exact ⟨_, hmem, rfl⟩

theorem storedSecretOf_withSecret (s : Secret) (id : String) :
    (w.withSecret s).storedSecretOf id =
      if w.clientSecretKey id = s.metadata.key then storedClientSecret (some s)
      else w.storedSecretOf id := by
  unfold storedSecretOf
  split <;> simp_all [withSecret, clientSecretKey]

theorem storedSecretOf_withoutSecret (k : ObjectKey) (id : String) :
    (w.withoutSecret k).storedSecretOf id =
      if w.clientSecretKey id = k then none else w.storedSecretOf id := by
  unfold storedSecretOf
  split <;> simp_all [withoutSecret, clientSecretKey, storedClientSecret]

@[simp] theorem storedSecretOf_withoutClient (a id x : String) :
    (w.withoutClient a id).storedSecretOf x = w.storedSecretOf x := by
  simp [storedSecretOf, clientSecretKey]

theorem key_clientSecretObject (home : String) (app : OidcApp) (s : String) :
    (clientSecretObject home app s).metadata.key = ⟨home, clientSecretName app.id⟩ := rfl

/-- A drawn secret, stored in the Secret of its app, is the app's stored secret. -/
theorem storedSecretOf_withDrawn (app : OidcApp) (d : Vector UInt8 32) :
    (w.withSecret (clientSecretObject w.home app (secretOf d))).storedSecretOf app.id =
      some (secretOf d) := by
  have hkey : w.clientSecretKey app.id = (clientSecretObject w.home app (secretOf d)).metadata.key :=
    rfl
  rw [storedSecretOf_withSecret, if_pos hkey]
  exact storedClientSecret_secretOf _ _ _

/-- No proxy Secret is the Secret of a client. -/
theorem clientSecretKey_ne_proxy (id : String) (k : ObjectKey) : w.clientSecretKey id ≠ k.proxy :=
  fun h => clientSecretName_ne_proxyName id k.name (congrArg ObjectKey.name h)

end World

namespace World.SecretsAgree

variable {w : World}

theorem withClient (h : w.SecretsAgree) {a : String} {c : Client}
    (hc : w.storedSecretOf c.id = some c.secret) : (w.withClient a c).SecretsAgree := by
  intro b id client hmem
  rcases mem_clients_withClient.1 hmem with hold | ⟨-, rfl, rfl⟩
  · simpa [storedSecretOf, clientSecretKey] using h b id client hold
  · simpa [storedSecretOf, clientSecretKey] using hc

theorem withoutClient (h : w.SecretsAgree) (a id : String) : (w.withoutClient a id).SecretsAgree := by
  intro b x client hmem
  rw [storedSecretOf_withoutClient]
  exact h b x client (mem_clients_withoutClient.1 hmem).1

theorem withConnect (h : w.SecretsAgree) (a : String) : (w.withConnect a).SecretsAgree := by
  intro b id client hmem
  rw [clients_withConnect] at hmem
  simpa [storedSecretOf, clientSecretKey] using h b id client hmem

/-- Storing a Secret that no held client has keeps the agreement. -/
theorem withSecret (h : w.SecretsAgree) {s : Secret}
    (hs : ∀ a id client, (id, client) ∈ (w.dexAt a).clients → w.clientSecretKey id ≠ s.metadata.key) :
    (w.withSecret s).SecretsAgree := by
  intro a id client hmem
  rw [storedSecretOf_withSecret, if_neg (hs a id client hmem)]
  exact h a id client hmem

/-- Deleting a Secret that no held client has keeps the agreement. -/
theorem withoutSecret (h : w.SecretsAgree) {k : ObjectKey}
    (hk : ∀ a id client, (id, client) ∈ (w.dexAt a).clients → w.clientSecretKey id ≠ k) :
    (w.withoutSecret k).SecretsAgree := by
  intro a id client hmem
  rw [storedSecretOf_withoutSecret, if_neg (hk a id client hmem)]
  exact h a id client hmem

/-- The Secret of an id that holds no secret is the Secret of no held client, so a fresh secret
may be stored there. -/
theorem withFresh (h : w.SecretsAgree) {app : OidcApp} {s : String}
    (hnone : w.storedSecretOf app.id = none) :
    (w.withSecret (clientSecretObject w.home app s)).SecretsAgree := by
  refine h.withSecret fun a id client hmem hkey => ?_
  have hsame : w.storedSecretOf id = w.storedSecretOf app.id := by
    rw [key_clientSecretObject] at hkey
    unfold storedSecretOf
    rw [hkey]
    rfl
  rw [h a id client hmem, hnone] at hsame
  exact Option.some_ne_none _ hsame

end World.SecretsAgree

namespace World.OneDex

variable {w : World} {address : String} {ids : String → Prop}

theorem withClient (h : w.OneDex address ids) {c : Client} (hid : ids c.id) :
    (w.withClient address c).OneDex address ids := by
  refine ⟨by simpa using h.1, fun a id client hmem => ?_⟩
  rcases mem_clients_withClient.1 hmem with hold | ⟨rfl, rfl, -⟩
  · exact h.2 a id client hold
  · exact ⟨rfl, hid⟩

theorem withoutClient (h : w.OneDex address ids) (a id : String) :
    (w.withoutClient a id).OneDex address ids :=
  ⟨by simpa using h.1, fun b x client hmem => h.2 b x client (mem_clients_withoutClient.1 hmem).1⟩

theorem withConnect (h : w.OneDex address ids) (a : String) :
    (w.withConnect a).OneDex address ids :=
  ⟨by simpa using h.1, fun b id client hmem => h.2 b id client (by simpa using hmem)⟩

end World.OneDex

theorem calm_secretsAgree : Calm fun w => w.SecretsAgree :=
  fun _ _ _ => Iff.rfl

theorem calm_agreesAt (address : String) (ids : String → Prop) :
    Calm fun w => w.AgreesAt address ids :=
  fun _ _ _ => Iff.rfl

/-! ## Registering and unregistering -/

@[simp] theorem id_clientOf (app : OidcApp) (s : String) : (clientOf app s).id = app.id := rfl
@[simp] theorem secret_clientOf (app : OidcApp) (s : String) : (clientOf app s).secret = s := rfl

section Registry

/-- Registering keeps the agreement, wherever it runs, and a registration that returns hands
out the secret that the Dex at its address holds for the client. -/
theorem register_holds (address : String) (app : OidcApp) :
    Triple (fun w => w.SecretsAgree) (register address app)
      (fun reg w => w.SecretsAgree ∧ reg.clientId = app.id ∧
        w.HoldsWith address app.id reg.clientSecret)
      (fun w => w.SecretsAgree) := by
  have hfine := Fine.keep calm_secretsAgree
  -- a drawn secret is stored where no secret was; the secret to register with is the stored one
  refine @register_triple _ address app _
    (fun s w => w.SecretsAgree ∧ w.storedSecretOf app.id = none ∧ ∃ d, s = secretOf d)
    (fun s w => w.SecretsAgree ∧ w.storedSecretOf app.id = some s) _
    hfine (fun _ => Fine.of_calm (fun _ _ _ => Iff.rfl) (fun _ hw => hw.1) calm_secretsAgree)
    (fun _ => Fine.of_calm (fun _ _ _ => Iff.rfl) (fun _ hw => hw.1) calm_secretsAgree)
    ?reuse ?draw ?store ?delete ?held ?new
  case reuse => exact fun _ _ hw hs => ⟨hw, hs⟩
  case draw => exact fun _ hw hs => ⟨hw, hs, _, rfl⟩
  case store =>
    intro w s hF
    obtain ⟨hw, hnone, d, hd⟩ := hF
    rw [hd]
    exact ⟨hw.withFresh hnone, World.storedSecretOf_withDrawn app d⟩
  case delete =>
    rintro w s ⟨hw, hs⟩
    exact ⟨hw.withoutClient _ _, by rw [World.storedSecretOf_withoutClient]; exact hs⟩
  case held =>
    rintro w s ⟨hw, hs⟩ hheld
    refine ⟨hw, rfl, World.holdsClient_iff.1 hheld, fun client hmem => ?_⟩
    have hstored := hw address app.id client hmem
    rw [hs] at hstored
    exact (Option.some.inj hstored).symm
  case new =>
    rintro w s ⟨hw, hs⟩ hnew
    refine ⟨hw.withClient hs, rfl, ⟨clientOf app s, ?_⟩, fun client hmem => ?_⟩
    · exact World.mem_clients_withClient.2 (Or.inr ⟨rfl, rfl, rfl⟩)
    · rcases World.mem_clients_withClient.1 hmem with hold | ⟨-, -, rfl⟩
      · exact absurd (World.holdsClient_iff.2 ⟨client, hold⟩) (by simp [hnew])
      · rfl

variable {address : String} {ids : String → Prop}

/-- Registering an app of an id in `ids` at the one Dex keeps the setting. -/
theorem register_oneDex (app : OidcApp) (hid : ids app.id) :
    Triple (fun w => w.OneDex address ids) (register address app) (fun _ w => w.OneDex address ids)
      (fun w => w.OneDex address ids) := by
  have hfine : Fine (fun w => w.OneDex address ids) (fun w => w.OneDex address ids) :=
    Fine.keep fun _ _ _ => Iff.rfl
  refine register_triple hfine (fun _ => hfine) (fun _ => hfine) ?reuse ?draw ?store ?delete ?held
    ?new
  case reuse => exact fun _ _ hw _ => hw
  -- drawing and storing a secret touch no Dex
  case draw => exact fun _ hw _ => hw
  case store => exact fun _ _ hw => hw
  -- the client is deleted and created at the one Dex, under an id in `ids`
  case delete => exact fun _ _ hw => hw.withoutClient _ _
  case held => exact fun _ _ hw _ => hw
  case new => exact fun _ _ hw _ => hw.withClient hid

theorem register_agrees (app : OidcApp) (hid : ids app.id) :
    Triple (fun w => w.AgreesAt address ids) (register address app)
      (fun _ w => w.AgreesAt address ids) (fun w => w.AgreesAt address ids) :=
  ((register_holds address app).and (register_oneDex app hid)).mono (fun _ hw => hw)
    (fun _ _ hw => ⟨hw.1.1, hw.2⟩) (fun _ hw => hw)

/-- Unregistering at the one Dex an app of an id in `ids` keeps the agreement: no Dex holds a
client of the id once it is deleted there, and no other held id has its Secret. -/
theorem unregister_agrees (hnames : SecretNamesApart ids) {appId : String} (hid : ids appId) :
    Triple (fun w => w.AgreesAt address ids) (unregister address appId)
      (fun _ w => w.AgreesAt address ids) (fun w => w.AgreesAt address ids) := by
  have hfine := Fine.keep (calm_agreesAt address ids)
  have hfineQ : Fine (fun w => w.AgreesAt address ids ∧
      ∀ a client, (appId, client) ∉ (w.dexAt a).clients) (fun w => w.AgreesAt address ids) :=
    Fine.of_calm (fun _ _ _ => Iff.rfl) (fun _ hw => hw.1) (calm_agreesAt address ids)
  refine unregister_triple hfine hfineQ ?_ ?_
  · rintro w ⟨hagree, hone⟩
    refine ⟨⟨hagree.withoutClient _ _, hone.withoutClient _ _⟩, fun a client hmem => ?_⟩
    obtain ⟨hold, hne⟩ := World.mem_clients_withoutClient.1 hmem
    exact hne (hone.2 a appId client hold).1 rfl
  · rintro w ⟨⟨hagree, hone⟩, hgone⟩
    refine ⟨hagree.withoutSecret fun a id client hmem hkey => ?_, hone⟩
    have hname : clientSecretName id = clientSecretName appId := congrArg ObjectKey.name hkey
    obtain rfl := hnames id appId (hone.2 a id client hmem).2 hid hname
    exact hgone a client hmem

end Registry

/-! ## The sagas -/

section Sagas

variable {address : String} {ids : String → Prop}

/-- In the setting of one Dex, a backend looked up names that Dex if it names one. -/
theorem getAuthBackend_oneDex (id : String) :
    Triple (fun w => w.AgreesAt address ids) (getAuthBackend id)
      (fun backend w => w.AgreesAt address ids ∧
        ∀ dex, backend.dex = some dex → dex.apiUrl = address)
      (fun w => w.AgreesAt address ids) := by
  refine getAuthBackend_triple (Fine.keep (calm_agreesAt address ids) _ _) ?_ fun _ hw _ => hw
  intro w spec hw hl
  refine ⟨hw, fun dex hd => ?_⟩
  obtain ⟨d, hd', rfl⟩ := Option.map_eq_some_iff.1 hd
  exact hw.2.1 id spec d hl hd'

theorem registererFor_oneDex {backend : AuthBackend}
    (hb : ∀ dex, backend.dex = some dex → dex.apiUrl = address) :
    Triple (fun w => w.AgreesAt address ids) (registererFor backend)
      (fun a w => w.AgreesAt address ids ∧ a = address) (fun w => w.AgreesAt address ids) :=
  registererFor_triple (Fine.keep (calm_agreesAt address ids)) (fun _ _ hw => hw)
    (fun dex hd _ hw _ => ⟨hw, hb dex hd⟩)
    (fun dex hd _ hw _ _ => ⟨⟨hw.1.withConnect _, hw.2.withConnect _⟩, hb dex hd⟩)
    (fun _ _ _ hw _ _ => hw)

/-- Securing an app of an id in `ids` keeps the agreement: it registers at the one Dex, and
its other writes are the app's ingress and its proxy objects. -/
theorem secureApp_agrees (app : App) (hid : ids app.id) :
    Triple (fun w => w.AgreesAt address ids) (secureApp app)
      (fun _ w => w.AgreesAt address ids) (fun w => w.AgreesAt address ids) := by
  have hfine := Fine.keep (calm_agreesAt address ids)
  unfold secureApp
  refine Triple.bind (Triple.within _ (getAuthBackend_oneDex _)) fun backend => ?_
  refine Triple.bind (Triple.within _ (Triple.assume fun hb => registererFor_oneDex hb))
    fun a => ?_
  have hregister : Triple (fun w => w.AgreesAt address ids ∧ a = address)
      (register a { id := app.id, name := app.id, callbackUrl := app.callbackUrl })
      (fun _ w => w.AgreesAt address ids) (fun w => w.AgreesAt address ids) :=
    Triple.assume fun ha => by subst ha; exact register_agrees _ hid
  refine Triple.bind (Triple.within _ hregister) fun _ => ?_
  -- the backup and the swap write the ingress only
  refine Triple.bind (Triple.within _ (backupOrGet_keeps hfine (fun _ hw => hw) fun _ _ hw => hw))
    fun backup => ?_
  refine Triple.bind (Triple.within _ (routeService_keeps hfine fun _ hw => hw)) fun route => ?_
  -- the proxy Secret is no client's Secret
  exact Triple.within _ (provision_triple hfine
    (fun _ hw => ⟨hw.1.withSecret fun _ _ _ _ => World.clientSecretKey_ne_proxy _ app.ingressKey,
      hw.2⟩)
    (fun _ hw => hw) (fun _ hw => hw)
    ((swapBackend_keeps hfine (fun _ hw => hw) fun _ _ hw => hw).mono (fun _ hw => hw.1)
      (fun _ _ h => h) (fun _ h => h)))

/-- Rolling back an app of an id in `ids` keeps the agreement: it unregisters at the one Dex,
and its other writes are the app's ingress and its proxy objects. -/
theorem rollbackApp_agrees (hnames : SecretNamesApart ids) (app : App) (hid : ids app.id) :
    Triple (fun w => w.AgreesAt address ids) (rollbackApp app)
      (fun _ w => w.AgreesAt address ids) (fun w => w.AgreesAt address ids) := by
  have hfine := Fine.keep (calm_agreesAt address ids)
  unfold rollbackApp
  refine Triple.bind (Triple.within _ (getBackup_keeps hfine fun _ hw => hw)) fun backup => ?_
  cases backup with
  | none => exact Triple.fail fun _ hw => hw
  | some r =>
    refine Triple.bind (Triple.within _ (unprovision_triple
      (swapBackend_keeps hfine (fun _ hw => hw) fun _ _ hw => hw) hfine
      (fun _ hw => hw) (fun _ hw => hw)
      (fun _ hw => ⟨hw.1.withoutSecret fun _ _ _ _ => World.clientSecretKey_ne_proxy _
        ⟨app.ingress.ns, app.ingress.name⟩, hw.2⟩))) fun _ => ?_
    refine Triple.bind (Triple.within _ (getAuthBackend_oneDex _)) fun backend => ?_
    refine Triple.bind (Triple.within _ (Triple.assume fun hb => registererFor_oneDex hb))
      fun a => ?_
    have hunregister : Triple (fun w => w.AgreesAt address ids ∧ a = address)
        (unregister a app.id) (fun _ w => w.AgreesAt address ids)
        (fun w => w.AgreesAt address ids) :=
      Triple.assume fun ha => by subst ha; exact unregister_agrees hnames hid
    refine Triple.bind (Triple.within _ hunregister) fun _ => ?_
    exact Triple.within _ (deleteBackup_keeps hfine (fun _ hw => hw) fun _ _ hw => hw)

/-- The app of an ingress has the ingress's key for its id. -/
theorem appOf_id {ing : Ingress} {P err : World → Prop} (hfine : Fine P err)
    (hv : ing.validate = .ok ()) :
    Triple P (appOf ing) (fun app w => P w ∧ app.id = ing.metadata.key.text) err :=
  appOf_valid hfine hv fun _ _ _ _ _ hw => ⟨hw, rfl⟩

/-- Every reconciliation of an ingress whose key is in `ids` keeps the agreement. -/
theorem reconcile_agrees (hnames : SecretNamesApart ids) (ing : Ingress)
    (hid : ids ing.metadata.key.text) :
    Triple (fun w => w.AgreesAt address ids) (reconcile ing)
      (fun _ w => w.AgreesAt address ids) (fun w => w.AgreesAt address ids) := by
  have hfine := Fine.keep (calm_agreesAt address ids)
  -- marking and unmarking write the ingress only
  have hmarked : Triple (fun w => w.AgreesAt address ids) (ensureMarked ing.metadata.key)
      (fun _ w => w.AgreesAt address ids) (fun w => w.AgreesAt address ids) :=
    ensureMarked_keeps hfine (fun _ hw => hw) fun _ _ hw => hw
  have hunmarked : Triple (fun w => w.AgreesAt address ids) (ensureUnmarked ing.metadata.key)
      (fun _ w => w.AgreesAt address ids) (fun w => w.AgreesAt address ids) :=
    ensureUnmarked_keeps hfine (fun _ hw => hw) fun _ _ hw => hw
  refine reconcile_triple ?ignored ?invalid ?clean ?mark ?secure ?rollback
  case ignored => exact fun _ _ _ hw => hw
  case invalid => exact fun _ _ _ hw => hw
  case clean => exact fun _ _ _ _ hw => hw
  case mark => exact fun _ _ _ _ => hmarked
  case secure =>
    intro hv _ _ _
    unfold secureBranch
    refine Triple.bind (appOf_id hfine hv) fun app => ?_
    have hsecure : Triple (fun w => w.AgreesAt address ids ∧ app.id = ing.metadata.key.text)
        (secureApp app) (fun _ w => w.AgreesAt address ids) (fun w => w.AgreesAt address ids) :=
      Triple.assume fun happ => secureApp_agrees app (happ ▸ hid)
    refine Triple.bind (Triple.within _ hsecure) fun _ => ?_
    exact Triple.bind hmarked fun _ => Triple.pure fun _ hw => hw
  case rollback =>
    intro hv _ _ _
    unfold rollbackBranch
    refine Triple.bind (appOf_id hfine hv) fun app => ?_
    have hrollback : Triple (fun w => w.AgreesAt address ids ∧ app.id = ing.metadata.key.text)
        (rollbackApp app) (fun _ w => w.AgreesAt address ids) (fun w => w.AgreesAt address ids) :=
      Triple.assume fun happ => rollbackApp_agrees hnames app (happ ▸ hid)
    refine Triple.bind (Triple.within _ hrollback) fun _ => ?_
    exact Triple.bind hunmarked fun _ => Triple.pure fun _ hw => hw

end Sagas

/-! ## Runs -/

/-- The apps a step acts for have ids in `ids`; the edits from outside and new plans of faults
act for none. -/
def Step.Within (ids : String → Prop) : Step → Prop
  | .handle ing => ids ing.metadata.key.text
  | .secure app => ids app.id
  | .rollback app => ids app.id
  | _ => True

/-- Every step for apps of ids in `ids` keeps the agreement in the setting of one Dex: the sagas
by the triples above, the edits from outside because they touch only an ingress. -/
theorem World.AgreesAt.step {w : World} {address : String} {ids : String → Prop}
    (hnames : SecretNamesApart ids) (h : w.AgreesAt address ids) {s : Step} (hs : s.Within ids) :
    (s.apply w).AgreesAt address ids := by
  cases s with
  | handle ing => exact Step.apply_of_triple (reconcile_agrees hnames ing hs) h
  | secure app => exact Step.apply_of_triple (secureApp_agrees app hs) h
  | rollback app => exact Step.apply_of_triple (rollbackApp_agrees hnames app hs) h
  | setBackend k value =>
    show (w.editIngress k _).AgreesAt address ids
    unfold World.editIngress
    split <;> exact h
  | setDeletion k stamp =>
    show (w.editIngress k _).AgreesAt address ids
    unfold World.editIngress
    split <;> exact h
  | plan faults => exact h

/-- Along every run of steps for apps of ids in `ids`, from a world in agreement in the setting
of one Dex, the agreement holds. -/
theorem agreesAt_along_runs {address : String} {ids : String → Prop} {w₀ w : World}
    (hnames : SecretNamesApart ids) (h₀ : w₀.AgreesAt address ids)
    (hrun : Reaches (fun _ s => s.Within ids) w₀ w) : w.AgreesAt address ids :=
  Reaches.invariant (fun w' _ (hw : w'.AgreesAt address ids) hs => hw.step hnames hs) h₀ hrun

/-! ## What the proxy is given -/

/-- The proxy objects of a plan, in place, hand the proxy the plan's client secret. -/
theorem ProxyInPlace.proxyHolds {plan : ProxyPlan} {w : World} (h : ProxyInPlace plan.objects w) :
    w.ProxyHolds plan.app plan.clientSecret := by
  have hne : ("OIDC_CLIENT_SECRET" == "OIDC_CLIENT_ID") = false := by decide
  exact ⟨plan.objects.secret, h.1, by simp [ProxyPlan.objects, List.lookup_cons, hne]⟩

section Provisioned

variable {address : String} {ids : String → Prop}

theorem calm_holdsWith (address id secret : String) :
    Calm fun w => w.HoldsWith address id secret :=
  fun _ _ _ => Iff.rfl

/-- A swap writes the ingress only: the clients Dex holds and the proxy objects in place stay. -/
theorem swapBackend_holds {o : ProxyObjects} {k : ObjectKey} {target : ServiceBackend}
    {address id secret : String} :
    Triple (fun w => w.HoldsWith address id secret ∧ ProxyInPlace o w) (swapBackend k target)
      (fun _ w => w.HoldsWith address id secret ∧ ProxyInPlace o w) (fun _ => True) :=
  swapBackend_keeps (Fine.of_calm (fun _ _ _ => Iff.rfl) (fun _ _ => trivial) fun _ _ _ => Iff.rfl)
    (fun _ _ => trivial) fun _ _ hw => hw

/-- A securing that returns, from a world in agreement where every Dex backend names the Dex at
`address`, leaves the app's proxy Secret handing out the secret that Dex holds for the app's
client. -/
theorem secureApp_provisions_held (app : App) :
    Triple (fun w => w.AgreesAt address ids) (secureApp app)
      (fun _ w => ∃ secret, w.HoldsWith address app.id secret ∧ w.ProxyHolds app secret)
      (fun _ => True) := by
  have hfine : ∀ secret, Fine (fun w => w.HoldsWith address app.id secret) (fun _ => True) :=
    fun secret => Fine.of_calm (calm_holdsWith _ _ _) (fun _ _ => trivial) fun _ _ _ => Iff.rfl
  unfold secureApp
  refine Triple.bind (Triple.within _ ((getAuthBackend_oneDex _).mono (fun _ hw => hw)
    (fun _ _ h => h) (fun _ _ => trivial))) fun backend => ?_
  refine Triple.bind (Triple.within _ (Triple.assume fun hb =>
    (registererFor_oneDex hb).mono (fun _ hw => hw) (fun _ _ h => h) (fun _ _ => trivial)))
    fun a => ?_
  -- from here on only the Dex that registered the client matters, and no later step touches it
  have hregister : Triple (fun w => w.AgreesAt address ids ∧ a = address)
      (register a { id := app.id, name := app.id, callbackUrl := app.callbackUrl })
      (fun reg w => w.HoldsWith address app.id reg.clientSecret) (fun _ => True) :=
    Triple.assume fun ha => by
      subst ha
      exact (register_holds _ _).mono (fun _ hw => hw.1) (fun _ _ h => h.2.2) (fun _ _ => trivial)
  refine Triple.bind (Triple.within _ hregister) fun credentials => ?_
  have hkeep := hfine credentials.clientSecret
  refine Triple.bind (Triple.within _ (backupOrGet_keeps hkeep (fun _ _ => trivial)
    fun _ _ hw => hw)) fun backup => ?_
  refine Triple.bind (Triple.within _ (routeService_keeps hkeep fun _ _ => trivial))
    fun route => ?_
  exact Triple.within _ (provision_triple hkeep (fun _ hw => hw) (fun _ hw => hw) (fun _ hw => hw)
    (swapBackend_holds.mono (fun _ hw => hw) (fun _ _ hw => ⟨_, hw.1, hw.2.proxyHolds⟩)
      (fun _ h => h)))

end Provisioned

/-! ## The agreement along runs, and what it gives -/

/-- In the setting of one Dex server, along every run of steps for apps of ids whose Secrets have
distinct names, the client secrets agree with Dex; so a registration that returns, and a securing
that returns, hand out exactly the secret that Dex holds for the client. -/
theorem client_secrets_agree {address : String} {ids : String → Prop} {w₀ w : World}
    (hnames : SecretNamesApart ids) (h₀ : w₀.SecretsAgree) (hone : w₀.OneDex address ids)
    (hrun : Reaches (fun _ s => s.Within ids) w₀ w) :
    w.SecretsAgree ∧
      (∀ a app reg w', exec (register a app) w = (.ok reg, w') →
        reg.clientId = app.id ∧ w'.HoldsWith a app.id reg.clientSecret) ∧
      (∀ app w', exec (secureApp app) w = (.ok (), w') →
        ∃ secret, w'.HoldsWith address app.id secret ∧ w'.ProxyHolds app secret) := by
  have hagree : w.AgreesAt address ids := agreesAt_along_runs hnames ⟨h₀, hone⟩ hrun
  refine ⟨hagree.1, fun a app reg w' hx => ?_, fun app w' hx => ?_⟩
  · obtain ⟨-, hid, hheld⟩ := (register_holds a app).returns hagree.1 hx
    exact ⟨hid, hheld⟩
  · exact (secureApp_provisions_held app).returns hagree hx

/-- A sample app, as a client. -/
def sampleClient : OidcApp :=
  { id := "shop/web", name := "shop/web", callbackUrl := "https://web.shop/oauth2/callback" }

/-- A world with one Dex backend, whose Dex holds the sample client under the first drawn secret,
stored in its Secret. -/
def sampleClientWorld : World :=
  (({ backends := [("dex", { dex := some ⟨"dex:5557", "https://dex.shop"⟩ })] } : World).withSecret
    (clientSecretObject "bilrost" sampleClient (secretOf (ChaCha.draw 0)))).withClient "dex:5557"
    (clientOf sampleClient (secretOf (ChaCha.draw 0)))

/-- `shop/web` of `portedWorld`, with a second backend `dex2` naming the same Dex. -/
def switchWorld : World :=
  { portedWorld { name := some "http" } with
    backends := [("dex", { dex := some ⟨"dex:5557", "https://dex.example"⟩ }),
      ("dex2", { dex := some ⟨"dex:5557", "https://dex.example"⟩ })] }

/-- `shop/web` as stored once secured by `dex`. -/
def switchSecured : Ingress :=
  (portedIngress { name := some "http" }).securedWith
    (ServiceBackend.recordFor ⟨"web", some { name := some "http" }⟩ "dex")

theorem switchWorld_secretsAgree : switchWorld.SecretsAgree := by
  intro a id client hmem
  simp [World.dexAt, switchWorld, portedWorld] at hmem

theorem switchWorld_oneDex : switchWorld.OneDex "dex:5557" (· = "shop/web") := by
  refine ⟨fun id spec dex hl hd => ?_, fun a id client hmem => ?_⟩
  · simp only [switchWorld, List.lookup_cons, List.lookup_nil] at hl
    split at hl
    · cases hl
      cases hd
      rfl
    · split at hl
      · cases hl
        cases hd
        rfl
      · cases hl
  · simp [World.dexAt, switchWorld, portedWorld] at hmem

/-- `shop/web` marked and secured by `dex`, switched to `dex2` at the same Dex and secured again,
then released and rolled back, each reconciliation handed the ingress stored at the time: the
run keeps the client secrets in agreement with Dex. -/
theorem switched_run_secrets_agree :
    let w₁ := (Step.handle (portedIngress { name := some "http" })).apply switchWorld
    let w₂ := (Step.handle (portedIngress { name := some "http" }).mark).apply w₁
    let w₃ := (Step.setBackend ⟨"shop", "web"⟩ (some "dex2")).apply w₂
    let w₄ := (Step.handle (switchSecured.withAuthBackend (some "dex2"))).apply w₃
    let w₅ := (Step.setBackend ⟨"shop", "web"⟩ none).apply w₄
    let w₆ := (Step.handle (switchSecured.withAuthBackend none)).apply w₅
    (exec (reconcile (portedIngress { name := some "http" }).mark) w₁).1 = .ok .secured ∧
    w₃.cluster.ingresses.get? ⟨"shop", "web"⟩ = some (switchSecured.withAuthBackend (some "dex2")) ∧
    (exec (reconcile (switchSecured.withAuthBackend (some "dex2"))) w₃).1 = .ok .secured ∧
    w₅.cluster.ingresses.get? ⟨"shop", "web"⟩ = some (switchSecured.withAuthBackend none) ∧
    (exec (reconcile (switchSecured.withAuthBackend none)) w₅).1 = .ok .rolledBack ∧
    SecretNamesApart (· = "shop/web") ∧ switchWorld.SecretsAgree ∧
      switchWorld.OneDex "dex:5557" (· = "shop/web") ∧
      (w₆.SecretsAgree ∧
        (∀ a app reg w', exec (register a app) w₆ = (.ok reg, w') →
          reg.clientId = app.id ∧ w'.HoldsWith a app.id reg.clientSecret) ∧
        (∀ app w', exec (secureApp app) w₆ = (.ok (), w') →
          ∃ secret, w'.HoldsWith "dex:5557" app.id secret ∧ w'.ProxyHolds app secret)) := by
  intro w₁ w₂ w₃ w₄ w₅ w₆
  have hnames : SecretNamesApart (· = "shop/web") := fun x y hx hy _ => hx.trans hy.symm
  -- every step acts for `shop/web`
  have hweb : ∀ ing : Ingress, ing.metadata.key = ⟨"shop", "web"⟩ →
      Step.Within (· = "shop/web") (.handle ing) := fun ing h => by
    show ing.metadata.key.text = "shop/web"
    rw [h]
    decide
  have hrun : Reaches (fun _ s => s.Within (· = "shop/web")) switchWorld w₆ :=
    .step (.handle (portedIngress { name := some "http" })) (hweb _ (by decide))
      (.step (.handle (portedIngress { name := some "http" }).mark) (hweb _ (by decide))
      (.step (.setBackend ⟨"shop", "web"⟩ (some "dex2")) trivial
      (.step (.handle (switchSecured.withAuthBackend (some "dex2"))) (hweb _ (by decide))
      (.step (.setBackend ⟨"shop", "web"⟩ none) trivial
      (.step (.handle (switchSecured.withAuthBackend none)) (hweb _ (by decide)) (.refl _))))))
  exact ⟨by decide +kernel, by decide +kernel, by decide +kernel, by decide +kernel,
    by decide +kernel, hnames, switchWorld_secretsAgree, switchWorld_oneDex,
    client_secrets_agree hnames switchWorld_secretsAgree switchWorld_oneDex hrun⟩

end IngressGuard
