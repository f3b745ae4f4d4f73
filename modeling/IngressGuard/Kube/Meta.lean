import IngressGuard.Json.Basic
import IngressGuard.Kube.Time

/-!
# Object metadata

Every Kubernetes object carries metadata: a name and namespace, string maps of labels and
annotations, finalizers that hold its deletion back, the times it was created and its deletion
was requested, the objects that own it, and the record of which manager set which of its fields.
A string map is a list of pairs ordered by key with each key once, so two maps with the same
entries are the same list.
-/

namespace IngressGuard.Kube

/-- A map from strings to strings, ordered by key, each key once. -/
abbrev StringMap := List (String × String)

namespace StringMap

/-- The value of a key. -/
def get? (m : StringMap) (key : String) : Option String :=
  (m.find? (·.1 == key)).map (·.2)

/-- Whether a key is present. -/
def contains (m : StringMap) (key : String) : Bool :=
  m.any (·.1 == key)

/-- Sets a key, keeping the order of keys. -/
def insert (m : StringMap) (key value : String) : StringMap :=
  match m with
  | [] => [(key, value)]
  | (k, v) :: rest =>
    if key < k then (key, value) :: (k, v) :: rest
    else if key = k then (key, value) :: rest
    else (k, v) :: insert rest key value

/-- Removes a key. -/
def erase (m : StringMap) (key : String) : StringMap :=
  m.filter (·.1 != key)

/-- The map of a list of pairs; of two pairs with one key the later one wins. -/
def ofList (pairs : List (String × String)) : StringMap :=
  pairs.foldl (fun m p => m.insert p.1 p.2) []

end StringMap

/-- Which manager set which fields of an object, by which operation, and when. -/
structure ManagedFieldsEntry where
  apiVersion : Option String := none
  fieldsType : Option String := none
  /-- The set of fields, a JSON document kept as it was read. -/
  fieldsV1 : Option Json := none
  manager : Option String := none
  operation : Option String := none
  subresource : Option String := none
  time : Option Time := none
deriving DecidableEq, Repr

/-- An object that owns this one. -/
structure OwnerReference where
  apiVersion : String := ""
  blockOwnerDeletion : Option Bool := none
  controller : Option Bool := none
  kind : String := ""
  name : String := ""
  uid : String := ""
deriving DecidableEq, Repr

/-- The metadata of an object. -/
structure ObjectMeta where
  annotations : Option StringMap := none
  creationTimestamp : Option Time := none
  deletionGracePeriodSeconds : Option Int := none
  deletionTimestamp : Option Time := none
  finalizers : Option (List String) := none
  generateName : Option String := none
  generation : Option Int := none
  labels : Option StringMap := none
  managedFields : Option (List ManagedFieldsEntry) := none
  name : Option String := none
  /-- The namespace the object lives in. -/
  ns : Option String := none
  ownerReferences : Option (List OwnerReference) := none
  resourceVersion : Option String := none
  selfLink : Option String := none
  uid : Option String := none
deriving DecidableEq, Repr, Inhabited

namespace ObjectMeta

/-- The value of an annotation. -/
def annotationValue? (m : ObjectMeta) (key : String) : Option String :=
  m.annotations.bind (·.get? key)

/-- Sets an annotation, creating the map when there is none. -/
def annotate (m : ObjectMeta) (key value : String) : ObjectMeta :=
  { m with annotations := some ((m.annotations.getD []).insert key value) }

/-- Removes an annotation; the map is kept, possibly empty, and created when there is none. -/
def unannotate (m : ObjectMeta) (key : String) : ObjectMeta :=
  { m with annotations := some ((m.annotations.getD []).erase key) }

/-- Whether a finalizer is listed. -/
def hasFinalizer (m : ObjectMeta) (finalizer : String) : Bool :=
  (m.finalizers.getD []).contains finalizer

/-- Appends a finalizer, creating the list when there is none. -/
def addFinalizer (m : ObjectMeta) (finalizer : String) : ObjectMeta :=
  { m with finalizers := some (m.finalizers.getD [] ++ [finalizer]) }

/-- Removes every copy of a finalizer; the list is kept, possibly empty, and created when there
is none. -/
def removeFinalizer (m : ObjectMeta) (finalizer : String) : ObjectMeta :=
  { m with finalizers := some ((m.finalizers.getD []).filter (· != finalizer)) }

/-- The name an object is known by: its name, else its name prefix, else empty. -/
def nameAny (m : ObjectMeta) : String :=
  (m.name <|> m.generateName).getD ""

end ObjectMeta

end IngressGuard.Kube
