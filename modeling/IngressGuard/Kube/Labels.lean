import IngressGuard.Kube.Meta
import IngressGuard.Text.Base32Hex
import IngressGuard.Text.Quoted

/-!
# Labels of managed objects

Objects the controller creates carry the standard labels: managed by `bilrost`, the application
name, the component and the instance. Proxy objects also carry a source label naming the ingress
they serve. A label value may only hold letters, digits, `-`, `_` and `.`, so the source label is
the text `namespace/name` written in lowercase unpadded base32hex (an empty namespace is
`default`); reading it back checks the encoding, the UTF-8 text, and that the text is a namespace
and a non-empty name separated by one slash.
-/

namespace IngressGuard.Kube

/-- The label naming the tool that manages an object. -/
def managedByLabel : String := "app.kubernetes.io/managed-by"
/-- The label naming the application. -/
def nameLabel : String := "app.kubernetes.io/name"
/-- The label naming the application's component. -/
def componentLabel : String := "app.kubernetes.io/component"
/-- The label naming the instance. -/
def instanceLabel : String := "app.kubernetes.io/instance"
/-- The label naming the ingress a proxy object serves. -/
def sourceLabel : String := "bilrost.slok.dev/src"

/-- The standard labels of a managed object. -/
def standardLabels (instanceName name component : String) : StringMap :=
  StringMap.ofList [(managedByLabel, "bilrost"), (nameLabel, name), (componentLabel, component),
    (instanceLabel, instanceName)]

/-- The namespace an empty one stands for. -/
def defaultNamespace (ns : String) : String :=
  if ns.isEmpty then "default" else ns

/-- The source label value of an ingress. -/
def encodeSource (ns name : String) : String :=
  Base32Hex.encode (Bytes.utf8 (defaultNamespace ns ++ "/" ++ name))

/-- Why a source label value cannot be read. -/
inductive SourceError where
  | notBase32Hex (value : String) (cause : Base32Hex.DecodeError)
  | notUtf8 (value : String)
  | notNamespacedName (value : String)
deriving DecidableEq, Repr

/-- The text of a source label fault. -/
def SourceError.message : SourceError → String
  | .notBase32Hex v e =>
    "source label value " ++ Quoted.quote v ++ " is not base32hex: " ++ e.message
  | .notUtf8 v => "source label value " ++ Quoted.quote v ++ " is not UTF-8"
  | .notNamespacedName v =>
    "source label value " ++ Quoted.quote v ++ " does not decode to <namespace>/<name>"

/-- Reads a source label value back into a namespace (empty read as `default`) and a name. -/
def decodeSource (value : String) : Except SourceError (String × String) := do
  let bytes ← (Base32Hex.decode (Bytes.utf8 value)).mapError (.notBase32Hex value)
  let text ← match String.fromUTF8? (ByteArray.mk bytes.toArray) with
    | some t => pure t
    | none => throw (.notUtf8 value)
  match text.splitOn "/" with
  | [ns, name] => if name.isEmpty then throw (.notNamespacedName value) else
      pure (defaultNamespace ns, name)
  | _ => throw (.notNamespacedName value)

/-- The labels of the proxy objects of an ingress. -/
def proxyLabels (instanceName ns ingress : String) : StringMap :=
  (standardLabels instanceName "oauth2-proxy" "proxy").insert sourceLabel (encodeSource ns ingress)

end IngressGuard.Kube
