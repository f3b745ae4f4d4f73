import IngressGuard.Json.Decode
import IngressGuard.Kube.Ingress
import IngressGuard.Kube.Workload
import IngressGuard.Bytes

/-!
# Kubernetes objects as JSON

The JSON forms of the objects, as the Kubernetes API writes them: top-level objects carry
`apiVersion` and `kind`, absent optional fields are left out, and a present but empty map or list
is written. Secret data is shown as text, each value's bytes read as UTF-8 with replacement.

Reading accepts the same forms, leniently: only objects are read, members are looked at in the
order of their names, unknown members are ignored, `null` stands for an absent field, and a
required field that is absent or `null` takes its empty value. A mismatch names the type that was
expected by its Kubernetes name, such as `ObjectMeta`. A top-level object must name its own
`apiVersion` and `kind` when it names them at all.
-/

namespace IngressGuard.Kube

open IngressGuard.Json

/-! ## Writing -/

/-- The JSON form of a managed-fields record. -/
def ManagedFieldsEntry.toJson (e : ManagedFieldsEntry) : Json :=
  Json.object [
    ("apiVersion", e.apiVersion.map .str), ("fieldsType", e.fieldsType.map .str),
    ("fieldsV1", e.fieldsV1), ("manager", e.manager.map .str),
    ("operation", e.operation.map .str), ("subresource", e.subresource.map .str),
    ("time", e.time.map fun t => .str t.render)]

/-- The JSON form of an owner reference. -/
def OwnerReference.toJson (o : OwnerReference) : Json :=
  Json.object [
    ("apiVersion", some (.str o.apiVersion)),
    ("blockOwnerDeletion", o.blockOwnerDeletion.map .bool),
    ("controller", o.controller.map .bool), ("kind", some (.str o.kind)),
    ("name", some (.str o.name)), ("uid", some (.str o.uid))]

/-- The JSON form of metadata. -/
def ObjectMeta.toJson (m : ObjectMeta) : Json :=
  Json.object [
    ("annotations", m.annotations.map Json.strMap),
    ("creationTimestamp", m.creationTimestamp.map fun t => .str t.render),
    ("deletionGracePeriodSeconds", m.deletionGracePeriodSeconds.map .num),
    ("deletionTimestamp", m.deletionTimestamp.map fun t => .str t.render),
    ("finalizers", m.finalizers.map Json.strs),
    ("generateName", m.generateName.map .str),
    ("generation", m.generation.map .num),
    ("labels", m.labels.map Json.strMap),
    ("managedFields", m.managedFields.map fun es => .arr (es.map (·.toJson))),
    ("name", m.name.map .str),
    ("namespace", m.ns.map .str),
    ("ownerReferences", m.ownerReferences.map fun os => .arr (os.map (·.toJson))),
    ("resourceVersion", m.resourceVersion.map .str),
    ("selfLink", m.selfLink.map .str),
    ("uid", m.uid.map .str)]

/-- The JSON form of a service port. -/
def ServiceBackendPort.toJson (p : ServiceBackendPort) : Json :=
  Json.object [("name", p.name.map .str), ("number", p.number.map .num)]

/-- The JSON form of a service backend. -/
def ServiceBackend.toJson (s : ServiceBackend) : Json :=
  Json.object [("name", some (.str s.name)), ("port", s.port.map (·.toJson))]

/-- The JSON form of a path backend. -/
def IngressBackend.toJson (b : IngressBackend) : Json :=
  Json.object [
    ("resource", b.resource.map fun r => Json.object [
      ("apiGroup", r.apiGroup.map .str), ("kind", some (.str r.kind)),
      ("name", some (.str r.name))]),
    ("service", b.service.map (·.toJson))]

/-- The JSON form of an HTTP path. -/
def HttpPath.toJson (p : HttpPath) : Json :=
  Json.object [("backend", some p.backend.toJson), ("path", p.path.map .str),
    ("pathType", some (.str p.pathType))]

/-- The JSON form of a rule. -/
def IngressRule.toJson (r : IngressRule) : Json :=
  Json.object [("host", r.host.map .str),
    ("http", r.http.map fun h => Json.object [("paths", some (.arr (h.paths.map (·.toJson))))])]

/-- The JSON form of an ingress's routing. -/
def IngressSpec.toJson (s : IngressSpec) : Json :=
  Json.object [
    ("defaultBackend", s.defaultBackend.map (·.toJson)),
    ("ingressClassName", s.ingressClassName.map .str),
    ("rules", s.rules.map fun rs => .arr (rs.map (·.toJson))),
    ("tls", s.tls.map fun ts => .arr (ts.map fun t =>
      Json.object [("hosts", t.hosts.map Json.strs), ("secretName", t.secretName.map .str)]))]

/-- The JSON form of what is observed of an ingress. -/
def IngressStatus.toJson (s : IngressStatus) : Json :=
  let port (p : IngressPortStatus) : Json :=
    Json.object [("error", p.error.map .str), ("port", some (.num p.port)),
      ("protocol", some (.str p.protocol))]
  let point (i : IngressLoadBalancerIngress) : Json :=
    Json.object [("hostname", i.hostname.map .str), ("ip", i.ip.map .str),
      ("ports", i.ports.map fun ps => .arr (ps.map port))]
  Json.object [("loadBalancer", s.loadBalancer.map fun lb =>
    Json.object [("ingress", lb.ingress.map fun is => .arr (is.map point))])]

/-- The JSON form of an ingress. -/
def Ingress.toJson (ing : Ingress) : Json :=
  Json.object [("apiVersion", some (.str "networking.k8s.io/v1")), ("kind", some (.str "Ingress")),
    ("metadata", some ing.metadata.toJson), ("spec", ing.spec.map (·.toJson)),
    ("status", ing.status.map (·.toJson))]

/-- The JSON form of resource requirements. -/
def ResourceRequirements.toJson (r : ResourceRequirements) : Json :=
  Json.object [
    ("claims", r.claims.map fun cs => .arr (cs.map fun c =>
      Json.object [("name", some (.str c.name)), ("request", c.request.map .str)])),
    ("limits", r.limits.map Json.strMap), ("requests", r.requests.map Json.strMap)]

/-- The JSON form of a Secret, its data shown as text. -/
def Secret.toJson (s : Secret) : Json :=
  Json.object [("apiVersion", some (.str "v1")), ("kind", some (.str "Secret")),
    ("metadata", some s.metadata.toJson),
    ("data", s.data.map fun d => .obj (d.map fun (k, v) => (k, .str (Utf8.decodeLossy v))))]

/-- The JSON form of a container. -/
def Container.toJson (c : Container) : Json :=
  Json.object [
    ("args", c.args.map Json.strs),
    ("envFrom", c.envFrom.map fun es => .arr (es.map fun e =>
      .obj [("secretRef", .obj [("name", .str e.secretName)])])),
    ("image", c.image.map .str),
    ("name", some (.str c.name)),
    ("ports", c.ports.map fun ps => .arr (ps.map fun p => Json.object [
      ("containerPort", some (.num p.containerPort)), ("name", p.name.map .str),
      ("protocol", p.protocol.map .str)])),
    ("resources", c.resources.map (·.toJson))]

/-- The JSON form of a Deployment. -/
def Deployment.toJson (d : Deployment) : Json :=
  Json.object [("apiVersion", some (.str "apps/v1")), ("kind", some (.str "Deployment")),
    ("metadata", some d.metadata.toJson),
    ("spec", some (Json.object [
      ("replicas", d.replicas.map .num),
      ("selector", some (Json.object [("matchLabels", d.matchLabels.map Json.strMap)])),
      ("template", some (.obj [
        ("metadata", Json.object [("labels", d.templateLabels.map Json.strMap)]),
        ("spec", .obj [("containers", .arr (d.containers.map (·.toJson)))])]))]))]

/-- The JSON form of a Service. -/
def Service.toJson (s : Service) : Json :=
  Json.object [("apiVersion", some (.str "v1")), ("kind", some (.str "Service")),
    ("metadata", some s.metadata.toJson),
    ("spec", some (Json.object [
      ("ports", s.ports.map fun ps => .arr (ps.map fun p => Json.object [
        ("name", p.name.map .str), ("port", some (.num p.port)),
        ("protocol", p.protocol.map .str), ("targetPort", p.targetPort.map .str)])),
      ("selector", s.selector.map Json.strMap),
      ("type", s.serviceType.map .str)]))]

/-! ## Reading -/

/-- Reads a timestamp from its text. -/
def Time.ofJson : Decoder Time
  | .str text => (Time.parse text).mapError (·.message)
  | v => Decode.mismatch "an RFC 3339 formatted date and time string" v

/-- Reads any JSON value, its object members ordered by name. -/
def anyValue : Decoder Json := fun v =>
  .ok (Decode.sortKeys v)

/-- Reads a managed-fields record. -/
def ManagedFieldsEntry.ofJson : Decoder ManagedFieldsEntry := fun v => do
  let str := Decode.string
  let r ← Record.openLenient "ManagedFieldsEntry" [
    .maybe "apiVersion" str, .maybe "fieldsType" str, .maybe "fieldsV1" anyValue,
    .maybe "manager" str, .maybe "operation" str, .maybe "subresource" str,
    .maybe "time" Time.ofJson] v
  return {
    apiVersion := ← r.optional "apiVersion" str
    fieldsType := ← r.optional "fieldsType" str
    fieldsV1 := ← r.optional "fieldsV1" anyValue
    manager := ← r.optional "manager" str
    operation := ← r.optional "operation" str
    subresource := ← r.optional "subresource" str
    time := ← r.optional "time" Time.ofJson }

/-- Reads an owner reference. -/
def OwnerReference.ofJson : Decoder OwnerReference := fun v => do
  let str := Decode.string
  let r ← Record.openLenient "OwnerReference" [
    .maybe "apiVersion" str, .maybe "blockOwnerDeletion" Decode.bool,
    .maybe "controller" Decode.bool, .maybe "kind" str, .maybe "name" str, .maybe "uid" str] v
  return {
    apiVersion := ← r.orDefault "apiVersion" str ""
    blockOwnerDeletion := ← r.optional "blockOwnerDeletion" Decode.bool
    controller := ← r.optional "controller" Decode.bool
    kind := ← r.orDefault "kind" str ""
    name := ← r.orDefault "name" str ""
    uid := ← r.orDefault "uid" str "" }

/-- Reads metadata. -/
def ObjectMeta.ofJson : Decoder ObjectMeta := fun v => do
  let str := Decode.string
  let strs := Decode.list Decode.string
  let r ← Record.openLenient "ObjectMeta" [
    .maybe "annotations" Decode.stringMap, .maybe "creationTimestamp" Time.ofJson,
    .maybe "deletionGracePeriodSeconds" Decode.int64, .maybe "deletionTimestamp" Time.ofJson,
    .maybe "finalizers" strs, .maybe "generateName" str, .maybe "generation" Decode.int64,
    .maybe "labels" Decode.stringMap,
    .maybe "managedFields" (Decode.list ManagedFieldsEntry.ofJson),
    .maybe "name" str, .maybe "namespace" str,
    .maybe "ownerReferences" (Decode.list OwnerReference.ofJson), .maybe "resourceVersion" str,
    .maybe "selfLink" str, .maybe "uid" str] v
  return {
    annotations := ← r.optional "annotations" Decode.stringMap
    creationTimestamp := ← r.optional "creationTimestamp" Time.ofJson
    deletionGracePeriodSeconds := ← r.optional "deletionGracePeriodSeconds" Decode.int64
    deletionTimestamp := ← r.optional "deletionTimestamp" Time.ofJson
    finalizers := ← r.optional "finalizers" strs
    generateName := ← r.optional "generateName" str
    generation := ← r.optional "generation" Decode.int64
    labels := ← r.optional "labels" Decode.stringMap
    managedFields := ← r.optional "managedFields" (Decode.list ManagedFieldsEntry.ofJson)
    name := ← r.optional "name" str
    ns := ← r.optional "namespace" str
    ownerReferences := ← r.optional "ownerReferences" (Decode.list OwnerReference.ofJson)
    resourceVersion := ← r.optional "resourceVersion" str
    selfLink := ← r.optional "selfLink" str
    uid := ← r.optional "uid" str }

/-- Reads a service port. -/
def ServiceBackendPort.ofJson : Decoder ServiceBackendPort := fun v => do
  let r ← Record.openLenient "ServiceBackendPort" [
    .maybe "name" Decode.string, .maybe "number" Decode.int32] v
  return { name := ← r.optional "name" Decode.string,
           number := ← r.optional "number" Decode.int32 }

/-- Reads a service backend. -/
def ServiceBackend.ofJson : Decoder ServiceBackend := fun v => do
  let r ← Record.openLenient "IngressServiceBackend" [
    .maybe "name" Decode.string, .maybe "port" ServiceBackendPort.ofJson] v
  return { name := ← r.orDefault "name" Decode.string "",
           port := ← r.optional "port" ServiceBackendPort.ofJson }

/-- Reads a reference to an object of another kind. -/
def ResourceRef.ofJson : Decoder ResourceRef := fun v => do
  let r ← Record.openLenient "TypedLocalObjectReference" [
    .maybe "apiGroup" Decode.string, .maybe "kind" Decode.string,
    .maybe "name" Decode.string] v
  return { apiGroup := ← r.optional "apiGroup" Decode.string,
           kind := ← r.orDefault "kind" Decode.string "",
           name := ← r.orDefault "name" Decode.string "" }

/-- Reads a path backend. -/
def IngressBackend.ofJson : Decoder IngressBackend := fun v => do
  let r ← Record.openLenient "IngressBackend" [
    .maybe "resource" ResourceRef.ofJson, .maybe "service" ServiceBackend.ofJson] v
  return { resource := ← r.optional "resource" ResourceRef.ofJson,
           service := ← r.optional "service" ServiceBackend.ofJson }

/-- Reads an HTTP path. -/
def HttpPath.ofJson : Decoder HttpPath := fun v => do
  let r ← Record.openLenient "HTTPIngressPath" [
    .maybe "backend" IngressBackend.ofJson, .maybe "path" Decode.string,
    .maybe "pathType" Decode.string] v
  return { backend := ← r.orDefault "backend" IngressBackend.ofJson {},
           path := ← r.optional "path" Decode.string,
           pathType := ← r.orDefault "pathType" Decode.string "" }

/-- Reads the HTTP paths of a rule. -/
def HttpRule.ofJson : Decoder HttpRule := fun v => do
  let r ← Record.openLenient "HTTPIngressRuleValue"
    [.maybe "paths" (Decode.list HttpPath.ofJson)] v
  return { paths := ← r.orDefault "paths" (Decode.list HttpPath.ofJson) [] }

/-- Reads a rule. -/
def IngressRule.ofJson : Decoder IngressRule := fun v => do
  let r ← Record.openLenient "IngressRule" [
    .maybe "host" Decode.string, .maybe "http" HttpRule.ofJson] v
  return { host := ← r.optional "host" Decode.string, http := ← r.optional "http" HttpRule.ofJson }

/-- Reads TLS settings. -/
def IngressTls.ofJson : Decoder IngressTls := fun v => do
  let r ← Record.openLenient "IngressTLS" [
    .maybe "hosts" (Decode.list Decode.string), .maybe "secretName" Decode.string] v
  return { hosts := ← r.optional "hosts" (Decode.list Decode.string),
           secretName := ← r.optional "secretName" Decode.string }

/-- Reads an ingress's routing. -/
def IngressSpec.ofJson : Decoder IngressSpec := fun v => do
  let r ← Record.openLenient "IngressSpec" [
    .maybe "defaultBackend" IngressBackend.ofJson,
    .maybe "ingressClassName" Decode.string,
    .maybe "rules" (Decode.list IngressRule.ofJson),
    .maybe "tls" (Decode.list IngressTls.ofJson)] v
  return { defaultBackend := ← r.optional "defaultBackend" IngressBackend.ofJson,
           ingressClassName := ← r.optional "ingressClassName" Decode.string,
           rules := ← r.optional "rules" (Decode.list IngressRule.ofJson),
           tls := ← r.optional "tls" (Decode.list IngressTls.ofJson) }

/-- Reads a port of a load balancer. -/
def IngressPortStatus.ofJson : Decoder IngressPortStatus := fun v => do
  let r ← Record.openLenient "IngressPortStatus" [
    .maybe "error" Decode.string, .maybe "port" Decode.int32, .maybe "protocol" Decode.string] v
  return { error := ← r.optional "error" Decode.string,
           port := ← r.orDefault "port" Decode.int32 0,
           protocol := ← r.orDefault "protocol" Decode.string "" }

/-- Reads a point of a load balancer. -/
def IngressLoadBalancerIngress.ofJson : Decoder IngressLoadBalancerIngress := fun v => do
  let r ← Record.openLenient "IngressLoadBalancerIngress" [
    .maybe "hostname" Decode.string, .maybe "ip" Decode.string,
    .maybe "ports" (Decode.list IngressPortStatus.ofJson)] v
  return { hostname := ← r.optional "hostname" Decode.string,
           ip := ← r.optional "ip" Decode.string,
           ports := ← r.optional "ports" (Decode.list IngressPortStatus.ofJson) }

/-- Reads what is observed of an ingress. -/
def IngressStatus.ofJson : Decoder IngressStatus := fun v => do
  let balancer : Decoder IngressLoadBalancerStatus := fun v => do
    let r ← Record.openLenient "IngressLoadBalancerStatus"
      [.maybe "ingress" (Decode.list IngressLoadBalancerIngress.ofJson)] v
    return { ingress := ← r.optional "ingress" (Decode.list IngressLoadBalancerIngress.ofJson) }
  let r ← Record.openLenient "IngressStatus" [.maybe "loadBalancer" balancer] v
  return { loadBalancer := ← r.optional "loadBalancer" balancer }

/-- Reads resource requirements. -/
def ResourceRequirements.ofJson : Decoder ResourceRequirements := fun v => do
  let claim : Decoder ResourceClaim := fun v => do
    let r ← Record.openLenient "ResourceClaim" [.maybe "name" Decode.string,
      .maybe "request" Decode.string] v
    return { name := ← r.orDefault "name" Decode.string "",
             request := ← r.optional "request" Decode.string }
  let r ← Record.openLenient "ResourceRequirements" [
    .maybe "claims" (Decode.list claim),
    .maybe "limits" Decode.stringMap,
    .maybe "requests" Decode.stringMap] v
  return { claims := ← r.optional "claims" (Decode.list claim),
           limits := ← r.optional "limits" Decode.stringMap,
           requests := ← r.optional "requests" Decode.stringMap }

/-- Checks that a top-level object names the expected text, when it names one. -/
def fixedText (expected : String) : Decoder Unit := fun v => do
  let text ← Decode.string v
  if text == expected then pure () else .error (invalidValue (.str text) expected)

/-- Reads an ingress. -/
def Ingress.ofJson : Decoder Ingress := fun v => do
  let r ← Record.openLenient "Ingress" [
    .of "apiVersion" (fixedText "networking.k8s.io/v1"),
    .of "kind" (fixedText "Ingress"), .maybe "metadata" ObjectMeta.ofJson,
    .maybe "spec" IngressSpec.ofJson, .maybe "status" IngressStatus.ofJson] v
  return { metadata := ← r.orDefault "metadata" ObjectMeta.ofJson {},
           spec := ← r.optional "spec" IngressSpec.ofJson,
           status := ← r.optional "status" IngressStatus.ofJson }

end IngressGuard.Kube
