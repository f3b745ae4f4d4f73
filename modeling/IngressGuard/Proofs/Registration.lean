import IngressGuard.Proofs.ClientSecrets

/-!
# Registering an app, call by call

Registering makes a short, fixed sequence of calls, chosen by the Secret it reads first. A stored
secret (the Secret exists, its data holds the key `clientSecret`, and the value read as UTF-8 with
replacement is not empty) is reused: the client is created with it, and nothing is stored or
deleted. In every other case a fresh secret is drawn and stored in the Secret, the client of the
id is deleted, and the client is created with the fresh secret. A call that a planned fault fails
ends registering with its failure, and no later call is made.

`runSteps` takes such a sequence of steps; `register_reuses_or_rotates` says that registering is
the run of the steps its case prescribes. Each call of registering is simulated by its step
(`exec_within_step`), so the two cases follow the code call by call.
-/

namespace IngressGuard

open IngressGuard.Kube IngressGuard.Dex

/-! ### Steps and their runs -/

/-- A call of the client registry, with its arguments. -/
inductive RegistryCall where
  | getSecret (k : ObjectKey)
  | ensureSecret (s : Secret)
  | deleteClient (address id : String)
  | createClient (address : String) (client : Client)

namespace RegistryCall

/-- The kind of call. -/
def kind : RegistryCall → CallKind
  | getSecret _ => .getSecret
  | ensureSecret _ => .ensureSecret
  | deleteClient _ _ => .dexDeleteClient
  | createClient _ _ => .dexCreateClient

/-- What the call is logged about. -/
def subject : RegistryCall → String
  | getSecret k => k.text
  | ensureSecret s => s.metadata.key.text
  | deleteClient address id => address ++ " " ++ id
  | createClient address client => address ++ " " ++ client.id

/-- The step of registering that a failure of the call names. -/
def context : RegistryCall → String
  | getSecret _ => "could not get client secret"
  | ensureSecret _ => "could not store client secret"
  | deleteClient _ _ => "could not delete Dex client"
  | createClient _ _ => "could not create Dex client"

/-- What the call does to the world once it has gone through; Dex leaves a client it already
holds as it is. -/
def effect : RegistryCall → World → World
  | getSecret _, w => w
  | ensureSecret s, w => w.withSecret s
  | deleteClient address id, w => w.withoutClient address id
  | createClient address client, w =>
    if w.holdsClient address client.id then w else w.withClient address client

/-- The log entry of a call that goes through. -/
def entry (c : RegistryCall) : String :=
  c.kind.name ++ " " ++ c.subject

end RegistryCall

/-- A step of registering: a call, or drawing a fresh secret, which is no call. -/
inductive RegistryStep where
  | call (c : RegistryCall)
  | drawSecret

/-- The call a step makes, if it is one. -/
def RegistryStep.call? : RegistryStep → Option RegistryCall
  | .call c => some c
  | .drawSecret => none

/-- Takes steps one after another. A call that a planned fault fails ends the run with its
failure, named by the step it interrupted, and no later step is taken. -/
def runSteps : List RegistryStep → World → Option Failure × World
  | [], w => (none, w)
  | .drawSecret :: rest, w => runSteps rest { w with secretsDrawn := w.secretsDrawn + 1 }
  | .call c :: rest, w =>
    if w.Blocked c.kind then (some ⟨.injected c.kind, [c.context]⟩, w.failCall c.kind c.subject)
    else runSteps rest (c.effect (w.passCall c.kind c.subject))

/-- The outcome of a run that hands out `a` unless a call failed. -/
def settle {α : Type} : Option Failure × World → α → Except Failure α × World
  | (none, w), a => (.ok a, w)
  | (some f, w), _ => (.error f, w)

@[simp] theorem RegistryCall.calls_effect (c : RegistryCall) (w : World) :
    (c.effect w).calls = w.calls := by
  cases c with
  | getSecret k => rfl
  | ensureSecret s => rfl
  | deleteClient address id => exact World.calls_withoutClient w address id
  | createClient address client =>
    simp only [RegistryCall.effect]
    split
    · rfl
    · exact World.calls_withClient w address client

/-- A run that goes through logs every call among its steps, in order. -/
theorem calls_runSteps_of_none {steps : List RegistryStep} {w w' : World}
    (h : runSteps steps w = (none, w')) :
    w'.calls = w.calls ++ (steps.filterMap RegistryStep.call?).map RegistryCall.entry := by
  induction steps generalizing w with
  | nil =>
    cases h
    simp
  | cons s rest ih =>
    cases s with
    | drawSecret =>
      rw [runSteps] at h
      rw [ih h]
      rfl
    | call c =>
      rw [runSteps] at h
      split at h
      · cases h
      · rw [ih h, RegistryCall.calls_effect, World.calls_passCall]
        simp [RegistryStep.call?, RegistryCall.entry]

/-- A run that fails stops at its first failed call: the steps before it went through, a planned
fault failed the call, and no step after it was taken. -/
theorem runSteps_eq_some {steps : List RegistryStep} {w w' : World} {f : Failure}
    (h : runSteps steps w = (some f, w')) :
    ∃ done c rest w₁, steps = done ++ .call c :: rest ∧ runSteps done w = (none, w₁) ∧
      w₁.Blocked c.kind ∧ f = ⟨.injected c.kind, [c.context]⟩ ∧
      w' = w₁.failCall c.kind c.subject := by
  induction steps generalizing w with
  | nil => cases h
  | cons s rest ih =>
    cases s with
    | drawSecret =>
      rw [runSteps] at h
      obtain ⟨done, c, after, w₁, rfl, hdone, hb, hf, hw⟩ := ih h
      exact ⟨.drawSecret :: done, c, after, w₁, rfl, hdone, hb, hf, hw⟩
    | call c =>
      rw [runSteps] at h
      split at h
      · rename_i hb
        cases h
        exact ⟨[], c, rest, w, rfl, rfl, hb, rfl, rfl⟩
      · rename_i hb
        obtain ⟨done, c', after, w₁, rfl, hdone, hb', hf, hw⟩ := ih h
        refine ⟨.call c :: done, c', after, w₁, rfl, ?_, hb', hf, hw⟩
        rw [runSteps, if_neg hb, hdone]

/-! ### The calls of registering -/

/-- A call made within a step: failed by a planned fault, it ends the run named by the step;
otherwise the run goes on from what the call returned. -/
theorem exec_within_bind {α β : Type} (step : String) {x : Op α} (f : α → Op β)
    {kind : CallKind} {subject : String} {w w₁ : World} {a : α}
    (hx : exec x w =
      if w.Blocked kind then (.error ⟨.injected kind, []⟩, w.failCall kind subject)
      else (.ok a, w₁)) :
    exec (Op.within step x >>= f) w =
      if w.Blocked kind then (.error ⟨.injected kind, [step]⟩, w.failCall kind subject)
      else exec (f a) w₁ := by
  rw [exec_bind, exec_within, hx]
  by_cases hb : w.Blocked kind
  · rw [if_pos hb, if_pos hb]
  · rw [if_neg hb, if_neg hb]

section Calls

variable {w : World}

theorem exec_getSecret (k : ObjectKey) :
    exec (getSecret k) w =
      if w.Blocked .getSecret then
        (.error ⟨.injected .getSecret, []⟩, w.failCall .getSecret k.text)
      else (.ok (w.cluster.secrets.get? k), (RegistryCall.getSecret k).effect
        (w.passCall .getSecret k.text)) := by
  rw [getSecret, exec_call]
  rfl

theorem exec_ensureSecret (s : Secret) :
    exec (ensureSecret s) w =
      if w.Blocked .ensureSecret then
        (.error ⟨.injected .ensureSecret, []⟩, w.failCall .ensureSecret s.metadata.key.text)
      else (.ok (), (RegistryCall.ensureSecret s).effect
        (w.passCall .ensureSecret s.metadata.key.text)) := by
  rw [ensureSecret, exec_call]
  rfl

theorem exec_dexDeleteClient (address id : String) :
    exec (dexDeleteClient address id) w =
      if w.Blocked .dexDeleteClient then
        (.error ⟨.injected .dexDeleteClient, []⟩,
          w.failCall .dexDeleteClient (address ++ " " ++ id))
      else
        let w₁ := w.passCall .dexDeleteClient (address ++ " " ++ id)
        (.ok { notFound := !w₁.holdsClient address id },
          (RegistryCall.deleteClient address id).effect w₁) := by
  rw [dexDeleteClient, exec_call]
  rfl

theorem exec_dexCreateClient (address : String) (client : Client) :
    exec (dexCreateClient address client) w =
      if w.Blocked .dexCreateClient then
        (.error ⟨.injected .dexCreateClient, []⟩,
          w.failCall .dexCreateClient (address ++ " " ++ client.id))
      else
        let w₁ := w.passCall .dexCreateClient (address ++ " " ++ client.id)
        (.ok (if w₁.holdsClient address client.id then { alreadyExists := true }
            else { client := some client }),
          (RegistryCall.createClient address client).effect w₁) := by
  rw [dexCreateClient, exec_call]
  split
  · rfl
  · rw [exec_bind, exec_get]
    simp only [RegistryCall.effect, World.holdsClient]
    split
    · rename_i h
      simp only [h]
      rfl
    · rename_i h
      simp only [h]
      rfl

end Calls

/-! ### Registering, call by call -/

/-- One call step: a call made within its step of registering runs as the step does, the rest of
registering following it as the rest of the steps. -/
theorem exec_within_step {α β : Type} (c : RegistryCall) {x : Op α} {f : α → Op β}
    {rest : List RegistryStep} {b : β} {w : World} {a : α}
    (hx : exec x w = if w.Blocked c.kind then
        (.error ⟨.injected c.kind, []⟩, w.failCall c.kind c.subject)
      else (.ok a, c.effect (w.passCall c.kind c.subject)))
    (hf : exec (f a) (c.effect (w.passCall c.kind c.subject)) =
      settle (runSteps rest (c.effect (w.passCall c.kind c.subject))) b) :
    exec (Op.within c.context x >>= f) w = settle (runSteps (.call c :: rest) w) b := by
  rw [exec_within_bind _ _ hx]
  by_cases hb : w.Blocked c.kind
  · rw [if_pos hb]
    simp only [runSteps, hb, ↓reduceIte, settle]
  · rw [if_neg hb, hf]
    simp only [runSteps, hb, ↓reduceIte]

theorem exec_pure_settle {β : Type} (b : β) (w : World) :
    exec (pure b : Op β) w = settle (runSteps [] w) b := rfl

theorem exec_freshSecret (w : World) :
    exec freshSecret w =
      (.ok (secretOf (w.draws w.secretsDrawn)), { w with secretsDrawn := w.secretsDrawn + 1 }) := by
  unfold freshSecret
  rw [exec_bind, exec_get]
  simp only
  rw [exec_bind, exec_set]
  simp only
  rw [exec_pure]

/-- Creating the client with a secret and handing the secret out. -/
theorem exec_create_step (address : String) (app : OidcApp) (s : String) (w : World) :
    exec (Op.within "could not create Dex client" (dexCreateClient address (clientOf app s)) >>=
        fun _ => pure ({ clientId := app.id, clientSecret := s } : Registration)) w =
      settle (runSteps [.call (.createClient address (clientOf app s))] w) ⟨app.id, s⟩ := by
  refine exec_within_step (.createClient address (clientOf app s)) (exec_dexCreateClient _ _) ?_
  exact exec_pure_settle _ _

theorem exec_register_reuse {address : String} {app : OidcApp} {w : World} {v : String}
    (hs : storedClientSecret (w.cluster.secrets.get? (w.clientSecretKey app.id)) = some v) :
    exec (register address app) w =
      settle (runSteps [.call (.getSecret (w.clientSecretKey app.id)),
        .call (.createClient address (clientOf app v))] w) ⟨app.id, v⟩ := by
  unfold register
  rw [exec_bind, exec_get]
  refine exec_within_step (.getSecret _) (exec_getSecret _) ?_
  have hs' : storedClientSecret (w.cluster.secrets.get? ⟨w.home, clientSecretName app.id⟩) =
      some v := hs
  simp only [hs', pure_bind]
  exact exec_create_step address app v _

theorem exec_register_fresh {address : String} {app : OidcApp} {w : World}
    (hs : storedClientSecret (w.cluster.secrets.get? (w.clientSecretKey app.id)) = none) :
    exec (register address app) w =
      settle (runSteps [.call (.getSecret (w.clientSecretKey app.id)), .drawSecret,
        .call (.ensureSecret (clientSecretObject w.home app (secretOf (w.draws w.secretsDrawn)))),
        .call (.deleteClient address app.id),
        .call (.createClient address (clientOf app (secretOf (w.draws w.secretsDrawn))))] w)
        ⟨app.id, secretOf (w.draws w.secretsDrawn)⟩ := by
  unfold register
  rw [exec_bind, exec_get]
  refine exec_within_step (.getSecret _) (exec_getSecret _) ?_
  have hs' : storedClientSecret (w.cluster.secrets.get? ⟨w.home, clientSecretName app.id⟩) =
      none := hs
  simp only [hs']
  rw [exec_bind, exec_freshSecret, runSteps]
  refine exec_within_step (.ensureSecret _) (exec_ensureSecret _) ?_
  refine exec_within_step (.deleteClient address app.id) (exec_dexDeleteClient _ _) ?_
  simp only [pure_bind]
  exact exec_create_step address app _ _

/-! ### Stored and fresh secrets -/

/-- Three bytes become four characters, and a last one or two bytes two or three. -/
theorem Base64Url.length_encode (bytes : List UInt8) :
    (Base64Url.encode bytes).length = (4 * bytes.length + 2) / 3 := by
  fun_induction Base64Url.encode bytes with
  | case1 a b c rest n ih =>
    rw [String.length_append, ih, String.length_ofList, List.length_cons, List.length_cons,
      List.length_cons]
    simp only [List.length_cons, List.length_nil]
    omega
  | case2 a b n => simp
  | case3 a n => simp
  | case4 => simp

/-- A fresh secret is 43 characters of the base64url alphabet. -/
theorem length_secretOf (d : Vector UInt8 32) : (secretOf d).length = 43 := by
  rw [secretOf, Base64Url.length_encode, Vector.length_toList]

theorem mem_alphabet_secretOf (d : Vector UInt8 32) :
    ∀ c ∈ (secretOf d).toList, c ∈ Base64Url.alphabet :=
  Base64Url.forall_mem_encode Base64Url.symbol_mem_alphabet _

/-- A Secret whose data holds a value under the key, not empty once read, has that secret
stored. -/
theorem storedClientSecret_of_lookup {sec : Secret} {data : List (String × List UInt8)}
    {bytes : List UInt8} (hdata : sec.data = some data)
    (hkey : data.lookup clientSecretKey = some bytes) (hne : Utf8.decodeLossy bytes ≠ "") :
    storedClientSecret (some sec) = some (Utf8.decodeLossy bytes) := by
  simp [storedClientSecret, hdata, hkey, hne]

/-- No secret is stored where there is no Secret, no data, no value under the key, or a value
that reads as empty. -/
theorem storedClientSecret_eq_none {secret : Option Secret}
    (h : ∀ sec data bytes, secret = some sec → sec.data = some data →
      data.lookup clientSecretKey = some bytes → Utf8.decodeLossy bytes = "") :
    storedClientSecret secret = none := by
  unfold storedClientSecret
  cases hs : secret with
  | none => rfl
  | some sec =>
    cases hd : sec.data with
    | none => simp [hd]
    | some data =>
      cases hk : data.lookup clientSecretKey with
      | none => simp [hd, hk]
      | some bytes => simp [hd, hk, h sec data bytes hs hd hk]

/-- Registering reuses a stored secret and otherwise rotates it. With a stored secret (the Secret
exists, its data holds the key, and the value read as UTF-8 with replacement is not empty) it
reads the Secret and creates the client with that secret. Otherwise it reads the Secret, draws a
fresh secret of 43 base64url characters, stores it, deletes the client and creates it with the
fresh secret. It hands out the secret unless a call failed; a failed call ends it. -/
theorem register_reuses_or_rotates (address : String) (app : OidcApp) (w : World) :
    let k := w.clientSecretKey app.id
    (∀ sec data bytes, w.cluster.secrets.get? k = some sec → sec.data = some data →
      data.lookup clientSecretKey = some bytes → Utf8.decodeLossy bytes ≠ "" →
      exec (register address app) w =
        settle (runSteps [.call (.getSecret k),
          .call (.createClient address (clientOf app (Utf8.decodeLossy bytes)))] w)
          ⟨app.id, Utf8.decodeLossy bytes⟩) ∧
    ((∀ sec data bytes, w.cluster.secrets.get? k = some sec → sec.data = some data →
        data.lookup clientSecretKey = some bytes → Utf8.decodeLossy bytes = "") →
      let g := secretOf (w.draws w.secretsDrawn)
      g.length = 43 ∧ (∀ c ∈ g.toList, c ∈ Base64Url.alphabet) ∧
      exec (register address app) w =
        settle (runSteps [.call (.getSecret k), .drawSecret,
          .call (.ensureSecret (clientSecretObject w.home app g)),
          .call (.deleteClient address app.id), .call (.createClient address (clientOf app g))] w)
          ⟨app.id, g⟩) := by
  intro k
  refine ⟨fun sec data bytes hsec hdata hkey hne => ?_, fun hnone => ?_⟩
  · have hs : storedClientSecret (w.cluster.secrets.get? k) = some (Utf8.decodeLossy bytes) := by
      rw [hsec]
      exact storedClientSecret_of_lookup hdata hkey hne
    exact exec_register_reuse hs
  · exact ⟨length_secretOf _, mem_alphabet_secretOf _,
      exec_register_fresh (storedClientSecret_eq_none hnone)⟩

/-- The sample client's world holds its secret, which registering reuses; a world without Secrets
draws the first fresh secret. -/
theorem sample_registrations_reuse_and_rotate :
    (sampleClientWorld.cluster.secrets.get? (sampleClientWorld.clientSecretKey sampleClient.id) =
        some (clientSecretObject "bilrost" sampleClient (secretOf (ChaCha.draw 0))) ∧
      Utf8.decodeLossy (Bytes.utf8 (secretOf (ChaCha.draw 0))) = secretOf (ChaCha.draw 0) ∧ secretOf (ChaCha.draw 0) ≠ "" ∧
      exec (register "dex:5557" sampleClient) sampleClientWorld =
        settle (runSteps [.call (.getSecret (sampleClientWorld.clientSecretKey sampleClient.id)),
          .call (.createClient "dex:5557" (clientOf sampleClient (secretOf (ChaCha.draw 0))))]
          sampleClientWorld) ⟨sampleClient.id, secretOf (ChaCha.draw 0)⟩) ∧
    (({} : World).cluster.secrets.get? (({} : World).clientSecretKey sampleClient.id) = none ∧
      (secretOf (ChaCha.draw 0)).length = 43 ∧
      exec (register "dex:5557" sampleClient) {} =
        settle (runSteps [.call (.getSecret (({} : World).clientSecretKey sampleClient.id)),
          .drawSecret, .call (.ensureSecret (clientSecretObject "bilrost" sampleClient
            (secretOf (ChaCha.draw 0)))), .call (.deleteClient "dex:5557" sampleClient.id),
          .call (.createClient "dex:5557" (clientOf sampleClient (secretOf (ChaCha.draw 0))))] {})
          ⟨sampleClient.id, secretOf (ChaCha.draw 0)⟩) := by
  have hsec : sampleClientWorld.cluster.secrets.get? (sampleClientWorld.clientSecretKey
      sampleClient.id) = some (clientSecretObject "bilrost" sampleClient (secretOf (ChaCha.draw 0))) := by
    simp [sampleClientWorld, World.clientSecretKey, World.withSecret, World.key_clientSecretObject]
  have hdecode : Utf8.decodeLossy (Bytes.utf8 (secretOf (ChaCha.draw 0))) = secretOf (ChaCha.draw 0) :=
    decodeLossy_utf8_of_ascii (secretOf_ascii _)
  have hne : Utf8.decodeLossy (Bytes.utf8 (secretOf (ChaCha.draw 0))) ≠ "" := by
    rw [hdecode]
    exact secretOf_ne_empty _
  have hkey : [(clientSecretKey, Bytes.utf8 (secretOf (ChaCha.draw 0)))].lookup clientSecretKey =
      some (Bytes.utf8 (secretOf (ChaCha.draw 0))) := by
    rw [List.lookup_cons, beq_self_eq_true]
  have hreuse := (register_reuses_or_rotates "dex:5557" sampleClient sampleClientWorld).1 _ _ _
    hsec rfl hkey hne
  rw [hdecode] at hreuse
  have hnone : ({} : World).cluster.secrets.get? (({} : World).clientSecretKey sampleClient.id) =
      none := rfl
  have hrotate := (register_reuses_or_rotates "dex:5557" sampleClient {}).2
    fun sec data bytes hget => by rw [hnone] at hget; cases hget
  exact ⟨⟨hsec, hdecode, secretOf_ne_empty _, hreuse⟩,
    ⟨hnone, hrotate.1, hrotate.2.2⟩⟩

end IngressGuard
