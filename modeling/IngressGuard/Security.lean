import IngressGuard.Backups
import IngressGuard.Proxy
import IngressGuard.Dex.Registry

/-!
# Securing an app and rolling it back

Securing an app looks up its auth backend, registers the app there as an OAuth2 client, records
the service the app routes to unless a record exists (the record wins over the app's current
target, which may already be the proxy), finds where that service is reached, and puts the
proxy in front of the ingress.

Rolling back reads the record (an app without one cannot be rolled back), points the ingress back
at the recorded service and removes the proxy, removes the client from the backend the record
names, and finally deletes the record.

Every step is safe to repeat, so a saga that failed part way can simply be run again.
-/

namespace IngressGuard

/-- Registers an app with an auth backend and puts the proxy in front of it. -/
def secureApp (app : App) : Op Unit := do
  let backend ← Op.within "could not retrieve backend information"
    (getAuthBackend app.authBackendId)
  let address ← Op.within ("could not get app registerer for backend " ++ backend.id)
    (registererFor backend)
  let credentials ← Op.within "could not register oauth application on backend"
    (register address { id := app.id, name := app.id, callbackUrl := app.callbackUrl })
  let current : BackupRecord := ⟨app.authBackendId, app.ingress.target.name,
    app.ingress.target.portText⟩
  let backup ← Op.within "could not backup or get backup data" (backupOrGet app current)
  let app := { app with ingress := { app.ingress with target := { app.ingress.target with
    name := backup.serviceName, portText := backup.servicePortText } } }
  let route ← Op.within "could not translate ingress upstream service to host and port"
    (routeService app.ingress.target)
  Op.within "could not provision OIDC proxy" (provision {
    url := app.publicUrl
    targetUrl := "http://" ++ route.host ++ ":" ++ toString route.port
    issuerUrl := backend.publicUrl?.getD ""
    clientId := credentials.clientId
    clientSecret := credentials.clientSecret
    app })

/-- Restores the service an app routed to, removes the proxy and the client, and drops the
record. -/
def rollbackApp (app : App) : Op Unit := do
  let backup ← Op.within "could not get backup data" (getBackup app)
  let some backup := backup | Op.fail (.missingBackup app.id)
  Op.within "could not unprovision OIDC proxy" (unprovision {
    ingressName := app.ingress.name, ingressNs := app.ingress.ns,
    serviceName := backup.serviceName, servicePortText := backup.servicePortText })
  let backend ← Op.within "could not retrieve backend information"
    (getAuthBackend backup.authBackendId)
  let address ← Op.within ("could not get app registerer for backend " ++ backend.id)
    (registererFor backend)
  Op.within "could not unregister oauth application on backend" (unregister address app.id)
  Op.within "could not delete backup" (deleteBackup app)

end IngressGuard
