import IngressGuard.World.Calls
import IngressGuard.Kube.Marks
import IngressGuard.Json.Read
import IngressGuard.Json.Render

/-!
# Backups kept on the ingress

Before an ingress is pointed at its proxy, the backend it was secured with and the service it
routed to are recorded, so that a rollback can restore them. The record is kept as compact JSON
with the members `authBackendID`, `serviceName` and `servicePortOrNamePort`, in that order.
Reading accepts any JSON object or array of those three strings (see `Json.readStringRecord`).

The backup of an app lives in an annotation of the app's own ingress, written through the same
update as the ingress, so it lives exactly as long as the ingress. Storing is set-if-absent: a
backup already there is read and returned instead, and nothing is written. Deleting writes only
when there was a backup.
-/

namespace IngressGuard

/-- The service a secured ingress routed to before it was secured. -/
structure BackupRecord where
  authBackendId : String
  serviceName : String
  servicePortText : String
deriving DecidableEq, Repr

namespace BackupRecord

/-- The member names, in written order. -/
def fieldNames : List String :=
  ["authBackendID", "serviceName", "servicePortOrNamePort"]

/-- The compact JSON text of a record. -/
def toText (r : BackupRecord) : String :=
  Json.render (.obj [("authBackendID", .str r.authBackendId), ("serviceName", .str r.serviceName),
    ("servicePortOrNamePort", .str r.servicePortText)])

/-- Reads a record from its JSON text. -/
def ofText (text : String) : Except Json.ReadFailure BackupRecord :=
  (Json.readStringRecord "BackupData" fieldNames text).map fun
    | [a, s, p] => ⟨a, s, p⟩
    | _ => ⟨"", "", ""⟩

end BackupRecord

open IngressGuard.Kube

/-- The key of an app's ingress. -/
def App.ingressKey (app : App) : ObjectKey :=
  ⟨app.ingress.ns, app.ingress.name⟩

/-- Reads a stored backup text. -/
def readBackup (text : String) : Op BackupRecord :=
  Op.within "could not decode backup data" do
    match BackupRecord.ofText text with
    | .ok r => pure r
    | .error e => Op.fail (.unreadableBackup e)

/-- Stores `data` as the app's backup unless one is stored already, and returns the stored one. -/
def backupOrGet (app : App) (data : BackupRecord) : Op BackupRecord := do
  let ing ← Op.within "could not get ingress" (getIngress app.ingressKey)
  match ing.annotationValue? backupAnnotationKey with
  | some text => readBackup text
  | none =>
    let ing := { ing with metadata := ing.metadata.annotate backupAnnotationKey data.toText }
    Op.within "could not store backup on ingress" (updateIngress ing)
    pure data

/-- The app's backup, if one is stored. -/
def getBackup (app : App) : Op (Option BackupRecord) := do
  let ing ← Op.within "could not get ingress" (getIngress app.ingressKey)
  match ing.annotationValue? backupAnnotationKey with
  | some text => some <$> readBackup text
  | none => pure none

/-- Removes the app's backup, writing only when there was one. -/
def deleteBackup (app : App) : Op Unit := do
  let ing ← Op.within "could not get ingress" (getIngress app.ingressKey)
  match ing.annotationValue? backupAnnotationKey with
  | none => pure ()
  | some _ =>
    let ing := { ing with metadata := ing.metadata.unannotate backupAnnotationKey }
    Op.within "could not remove backup from ingress" (updateIngress ing)

end IngressGuard
