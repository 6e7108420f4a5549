import Admission.KeySet.Cache
import Admission.Service
import Admission.Text.Decimal
import Admission.Text.Quoted
import Admission.User
import Admission.Webhook.Guard

/-!
# Settings

Everything the program reads from its environment. A variable counts without
surrounding blanks, and one that is blank counts as unset. The first variable
that cannot be read decides the fault.
-/

namespace Admission

/-- Why the environment gives no settings. -/
inductive SettingsFault where
  /-- A variable does not hold a number within bounds. -/
  | invalid (name : String) (value : String) (fault : Decimal.Fault)
  /-- A variable is unset although another one is set. -/
  | missing (name because : String)
deriving DecidableEq, Repr

/-- The wording of a fault. -/
def SettingsFault.message : SettingsFault → String
  | .invalid name value fault =>
      name ++ " is invalid: " ++ Text.quoted value ++ ": " ++ fault.message
  | .missing name because => name ++ " is required when " ++ because ++ " is set"

namespace Settings

/-- How log events are written. -/
inductive LogFormat where
  | pretty
  | json
deriving DecidableEq, Repr

/-- The label of a format. -/
def LogFormat.label : LogFormat → String
  | .pretty => "pretty"
  | .json => "json"

/-- Settings of the service routes. -/
structure ServiceRoutes where
  keyAddress : String
  audience : String
  allowedIssuers : List String
deriving DecidableEq, Repr

/-- Settings of the user routes. -/
structure UserRoutes where
  projectId : String
  keyAddress : String
  roleClaim : String
  defaultRole : Option String
  verifyTimeout : Duration
deriving DecidableEq, Repr

/-- Where the keys for service tokens are published when no address is chosen. -/
def serviceKeyAddress : String := "https://www.googleapis.com/oauth2/v3/certs"

/-- The secret of a webhook provider. -/
def providerSecretName (provider : String) : String := "webhooks/" ++ provider

end Settings

/-- The settings of the program. -/
structure Settings where
  host : String
  port : Nat
  logFormat : Settings.LogFormat
  clockSkew : Duration
  nonceLifetime : Duration
  maxBodyBytes : Nat
  secretTimeout : Duration
  webhookProviders : List String
  /-- The service routes, when they are served. -/
  service : Option Settings.ServiceRoutes
  /-- The user routes, when they are served. -/
  users : Option Settings.UserRoutes
  defaultKeyLifetime : Duration
  maxKeyLifetime : Duration
  fetchTimeout : Duration
  forcedInterval : Duration
deriving DecidableEq, Repr

namespace Settings

/-- The values of variables. -/
abbrev Lookup := String → Option String

/-- The value of a variable without surrounding blanks, unless it is blank. -/
def value? (lookup : Lookup) (name : String) : Option String :=
  (lookup name).bind fun raw =>
    let trimmed := Text.trim raw
    if trimmed.isEmpty then none else some trimmed

/-- The items of a list between commas, without surrounding blanks and blank
ones. -/
def items (raw : String) : List String :=
  (Text.split ',' raw.toList).filterMap fun part =>
    let trimmed := Text.trimSymbols part
    if trimmed.isEmpty then none else some (String.ofList trimmed)

/-- The items of a variable, none when it is unset. -/
def listed (lookup : Lookup) (name : String) : List String :=
  ((value? lookup name).map items).getD []

/-- A number up to a bound. -/
def number (lookup : Lookup) (name : String) (bound usual : Nat) :
    Except SettingsFault Nat :=
  match value? lookup name with
  | none => .ok usual
  | some raw => (Decimal.natural bound raw).mapError (.invalid name raw)

/-- The bound of sizes and times. -/
def bound64 : Nat := Nat.pow 2 64 - 1

/-- A duration in seconds. -/
def seconds (lookup : Lookup) (name : String) (usual : Nat) : Except SettingsFault Duration :=
  (number lookup name bound64 usual).map .seconds

/-- A duration in milliseconds. -/
def milliseconds (lookup : Lookup) (name : String) (usual : Nat) :
    Except SettingsFault Duration :=
  (number lookup name bound64 usual).map .milliseconds

/-- The format of log events. -/
def logFormatOf (lookup : Lookup) : LogFormat :=
  match value? lookup "LOG_FORMAT" with
  | some chosen => if Text.sameIgnoringCase chosen "json" then .json else .pretty
  | none => .pretty

/-- The service routes: they are served when an audience is set. -/
def serviceRoutes (lookup : Lookup) : Except SettingsFault (Option ServiceRoutes) :=
  match value? lookup "OIDC_AUDIENCE", value? lookup "OIDC_JWKS_URL" with
  | some audience, address =>
      .ok (some ⟨address.getD serviceKeyAddress, audience, listed lookup "OIDC_ALLOWED_ISSUERS"⟩)
  | none, some _ => .error (.missing "OIDC_AUDIENCE" "OIDC_JWKS_URL")
  | none, none => .ok none

/-- The user routes: they are served when a project is set. -/
def userRoutes (lookup : Lookup) : Except SettingsFault (Option UserRoutes) :=
  match value? lookup "FIREBASE_PROJECT_ID" with
  | none => .ok none
  | some projectId => do
      let timeout ← milliseconds lookup "FIREBASE_VERIFY_TIMEOUT_MS" 3000
      return some {
        projectId := projectId
        keyAddress := (value? lookup "FIREBASE_JWKS_URL").getD User.Project.keyAddress
        roleClaim := (value? lookup "FIREBASE_ROLE_CLAIM").getD "roles"
        defaultRole := value? lookup "FIREBASE_DEFAULT_ROLE"
        verifyTimeout := timeout }

/-- The variables that settings are read from. -/
def variableNames : List String :=
  ["HOST", "PORT", "LOG_FORMAT", "OIDC_AUDIENCE", "OIDC_JWKS_URL", "OIDC_ALLOWED_ISSUERS",
    "FIREBASE_PROJECT_ID", "FIREBASE_JWKS_URL", "FIREBASE_ROLE_CLAIM", "FIREBASE_DEFAULT_ROLE",
    "FIREBASE_VERIFY_TIMEOUT_MS", "HMAC_CLOCK_SKEW_SECS", "HMAC_NONCE_TTL_SECS",
    "HMAC_MAX_BODY_BYTES", "HMAC_SECRET_TIMEOUT_MS", "WEBHOOK_PROVIDERS",
    "JWKS_DEFAULT_TTL_SECS", "JWKS_MAX_TTL_SECS", "JWKS_FETCH_TIMEOUT_MS",
    "JWKS_FORCED_REFRESH_SECS"]

/-- The settings that the values of variables give. -/
def ofLookup (lookup : Lookup) : Except SettingsFault Settings := do
  let service ← serviceRoutes lookup
  let users ← userRoutes lookup
  let port ← number lookup "PORT" 65535 8080
  let clockSkew ← seconds lookup "HMAC_CLOCK_SKEW_SECS" 300
  let nonceLifetime ← seconds lookup "HMAC_NONCE_TTL_SECS" 600
  let maxBodyBytes ← number lookup "HMAC_MAX_BODY_BYTES" bound64 1048576
  let secretTimeout ← milliseconds lookup "HMAC_SECRET_TIMEOUT_MS" 2000
  let defaultKeyLifetime ← seconds lookup "JWKS_DEFAULT_TTL_SECS" 900
  let maxKeyLifetime ← seconds lookup "JWKS_MAX_TTL_SECS" 86400
  let fetchTimeout ← milliseconds lookup "JWKS_FETCH_TIMEOUT_MS" 5000
  let forcedInterval ← seconds lookup "JWKS_FORCED_REFRESH_SECS" 30
  return {
    host := (value? lookup "HOST").getD "0.0.0.0"
    port := port
    logFormat := logFormatOf lookup
    clockSkew := clockSkew
    nonceLifetime := nonceLifetime
    maxBodyBytes := maxBodyBytes
    secretTimeout := secretTimeout
    webhookProviders := (listed lookup "WEBHOOK_PROVIDERS").map Text.lowerAscii
    service := service
    users := users
    defaultKeyLifetime := defaultKeyLifetime
    maxKeyLifetime := maxKeyLifetime
    fetchTimeout := fetchTimeout
    forcedInterval := forcedInterval }

/-- The settings of webhook verification. -/
def webhooks (settings : Settings) : Webhook.Settings :=
  { Webhook.Settings.standard with
    clockSkew := settings.clockSkew
    nonceLifetime := settings.nonceLifetime
    maxBodyBytes := settings.maxBodyBytes }

/-- The settings of key caches. -/
def keys (settings : Settings) : KeyCache.Settings :=
  { KeyCache.Settings.standard with
    defaultLifetime := settings.defaultKeyLifetime
    maxLifetime := settings.maxKeyLifetime
    fetchTimeout := settings.fetchTimeout
    forcedInterval := settings.forcedInterval }

/-- What is expected of service tokens, when service routes are served. -/
def callers (settings : Settings) : Option Service.Settings :=
  settings.service.map fun routes => ⟨routes.audience, routes.allowedIssuers, Service.defaultLeeway⟩

/-- How users are admitted. -/
def admission (settings : Settings) : User.Settings :=
  match settings.users with
  | none => .standard
  | some routes =>
      { User.Settings.standard with
        roleClaim := routes.roleClaim
        defaultRole := routes.defaultRole
        verifyTimeout := routes.verifyTimeout }

/-- The webhook providers, each once, with the names of their secrets. -/
def providerSecrets (settings : Settings) : List (String × String) :=
  settings.webhookProviders.eraseDups.map fun provider => (provider, providerSecretName provider)

/-- How a webhook chooses its secret. -/
def selector (settings : Settings) : Webhook.Selector := .byProvider settings.providerSecrets

end Settings
end Admission
