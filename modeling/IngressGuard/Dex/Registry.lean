import IngressGuard.World.Calls
import IngressGuard.Kube.Labels
import IngressGuard.Digest.Sha256
import IngressGuard.Bytes

/-!
# Registering apps as Dex clients

Each app is an OAuth2 client at the Dex server of its auth backend. The client secret is kept in a
Secret of the controller's own namespace, named `bilrost-dex-cli-` and 32 hexadecimal digits of the
digest of the app id, under the key `clientSecret`.

Registering reuses a stored secret when its value, read as UTF-8 with replacement, is not empty.
Otherwise a fresh secret is stored first and any client of that id is deleted, so that Dex never
keeps an old secret; then the client is created (an existing client is left as it is).
Unregistering deletes the client and then its Secret.

A fresh client secret is the next 32-byte draw of the world's random stream, written in unpadded
base64url: the URL-safe alphabet (`A`–`Z`, `a`–`z`, `0`–`9`, `-`, `_`) without `=` padding, each
three bytes four characters read six bits at a time from the most significant bit, and a last one
or two bytes two or three characters. Every secret drawn counts, also one whose storing then
fails.

Registerers are kept per Dex API address: the first registration through an address connects to
it, later ones reuse the connection whatever backend they come from. A backend of unknown kind has
no registerer, and a failed connection is not kept.
-/

namespace IngressGuard.Base64Url

/-- The sixty-four characters, by their six-bit value. -/
def alphabet : List Char :=
  "ABCDEFGHIJKLMNOPQRSTUVWXYZabcdefghijklmnopqrstuvwxyz0123456789-_".toList

/-- The character of a six-bit value. -/
def symbol (n : Nat) : Char :=
  alphabet.getD (n % 64) 'A'

/-- The text of a byte sequence. -/
def encode : List UInt8 → String
  | a :: b :: c :: rest =>
    let n := a.toNat * 65536 + b.toNat * 256 + c.toNat
    String.ofList [symbol (n / 262144), symbol (n / 4096), symbol (n / 64), symbol n] ++
      encode rest
  | [a, b] =>
    let n := a.toNat * 65536 + b.toNat * 256
    String.ofList [symbol (n / 262144), symbol (n / 4096), symbol (n / 64)]
  | [a] =>
    let n := a.toNat * 65536
    String.ofList [symbol (n / 262144), symbol (n / 4096)]
  | [] => ""

end IngressGuard.Base64Url

namespace IngressGuard

open IngressGuard.Kube IngressGuard.Dex

/-- The name of the Secret holding an app's client secret. -/
def clientSecretName (appId : String) : String :=
  "bilrost-dex-cli-" ++ Sha256.shortHex (Bytes.utf8 appId)

/-- The key of the client secret in its Secret. -/
def clientSecretKey : String := "clientSecret"

/-- The annotation naming the client a Secret belongs to. -/
def clientIdAnnotationKey : String := "bilrost.slok.dev/dex-client-id"

/-- The stored client secret of a Secret, when it has a non-empty one. -/
def storedClientSecret (secret : Option Secret) : Option String :=
  (((secret.bind (·.data)).bind (·.lookup clientSecretKey)).map Utf8.decodeLossy).filter
    (!·.isEmpty)

/-- The Secret holding an app's client secret. -/
def clientSecretObject (home : String) (app : OidcApp) (clientSecret : String) : Secret :=
  let name := clientSecretName app.id
  { metadata := { name := some name, ns := some home,
                  labels := some (standardLabels name "bilrost" "dex-client-data"),
                  annotations := some [(clientIdAnnotationKey, app.id)] }
    data := some [(clientSecretKey, Bytes.utf8 clientSecret)] }

/-- The client secret made of 32 drawn bytes. -/
def secretOf (bytes : Vector UInt8 32) : String :=
  Base64Url.encode bytes.toList

/-- Hands out the next fresh client secret. -/
def freshSecret : Op String := do
  let w ← get
  set { w with secretsDrawn := w.secretsDrawn + 1 }
  pure (secretOf (w.draws w.secretsDrawn))

/-- Registers an app as a client of the Dex server at an address. -/
def register (address : String) (app : OidcApp) : Op Registration := do
  let home := (← get).home
  let k : ObjectKey := ⟨home, clientSecretName app.id⟩
  let stored ← Op.within "could not get client secret" (getSecret k)
  let clientSecret ← match storedClientSecret stored with
    | some s => pure s
    | none => do
      let s ← freshSecret
      Op.within "could not store client secret" (ensureSecret (clientSecretObject home app s))
      let _ ← Op.within "could not delete Dex client" (dexDeleteClient address app.id)
      pure s
  let _ ← Op.within "could not create Dex client" (dexCreateClient address
    { id := app.id, name := app.name, secret := clientSecret, redirectUris := [app.callbackUrl] })
  pure { clientId := app.id, clientSecret }

/-- Removes an app's client and its Secret. -/
def unregister (address : String) (appId : String) : Op Unit := do
  let _ ← Op.within "could not delete Dex client" (dexDeleteClient address appId)
  let home := (← get).home
  Op.within "could not delete client secret" (deleteSecret ⟨home, clientSecretName appId⟩)

/-- The Dex API address to register an auth backend's apps at, connecting on first use. -/
def registererFor (backend : AuthBackend) : Op String := do
  match backend.dex with
  | none => Op.fail (.unknownBackendKind backend.id)
  | some dex =>
    if (← get).connected.contains dex.apiUrl then pure dex.apiUrl
    else
      dexConnect dex.apiUrl
      modify fun w => { w with connected := w.connected ++ [dex.apiUrl] }
      pure dex.apiUrl

end IngressGuard
