import Admission.Application
import Admission.KeySet.Address
import Admission.Settings

/-!
# Assembly

The application that settings describe: webhook secrets come from the
environment, nonces are kept in memory, and both kinds of tokens are verified
with published keys.
-/

namespace Admission

/-- The names and addresses of the key sets that settings call for. -/
def Settings.keyAddresses (settings : Settings) : List (String × String) :=
  (settings.service.map fun routes => ("oidc", routes.keyAddress)).toList ++
    (settings.users.map fun routes => ("firebase", routes.keyAddress)).toList

namespace Application

/-- The verification of webhooks; the secrets come from `environment`. -/
def validatorOf (settings : Settings) (environment : List (String × Bytes)) :
    Webhook.Validator where
  settings := settings.webhooks
  secretTimeout := settings.secretTimeout
  source := .environment SecretSource.defaultLeading environment
  cache := .empty
  nonces := .memory

/-- The guard of the service route. -/
def serviceGuard (settings : Settings) : Except KeyAddressFault (Option Service.Guard) :=
  match settings.service, settings.callers with
  | some routes, some callers =>
      (KeyCache.atAddress settings.keys routes.keyAddress).map fun keys => some ⟨callers, keys⟩
  | _, _ => .ok none

/-- The guard of the user route. It admits every role. -/
def userGuard (settings : Settings) : Except KeyAddressFault (Option User.Guard) :=
  match settings.users with
  | some routes =>
      (KeyCache.atAddress settings.keys routes.keyAddress).map fun keys =>
        some (.start settings.admission (.signed ⟨routes.projectId, keys⟩) none [])
  | none => .ok none

/-- The application that settings describe. -/
def ofSettings (settings : Settings) (environment : List (String × Bytes)) :
    Except KeyAddressFault Application := do
  let service ← serviceGuard settings
  let users ← userGuard settings
  return {
    webhooks := validatorOf settings environment
    selector := settings.selector
    service := service
    users := users
    exports := true
    decisions := [] }

end Application
end Admission
