import Admission.Proofs.Secret.Variables
import Admission.Proofs.Settings.Reading
import Admission.Proofs.Webhook.Dispatch

/-!
# Webhook providers and their secrets

Every provider has a secret of its own name. A path leads to the secret of the provider that it
ends in, and to no other. The variables that these secrets are read from are fewer: providers
whose names differ in nothing but characters that are neither letters nor digits share one.
-/

namespace Admission.Settings

variable {lookup : Lookup} {settings : Settings} {provider name : String}

/-- The providers of settings are the items of their variable in lower case. -/
theorem webhookProviders_of_ofLookup (loaded : ofLookup lookup = .ok settings) :
    settings.webhookProviders = (listed lookup "WEBHOOK_PROVIDERS").map Text.lowerAscii := by
  simp only [ofLookup, Outcome.bind_eq_ok_iff] at loaded
  obtain ⟨_, _, _, _, _, _, _, _, _, _, _, _, _, _, _, _, _, _, _, _, _, _, same⟩ := loaded
  cases same
  rfl

/-- A provider is what is written between the commas of the variable and not blank, in lower
case. -/
theorem mem_webhookProviders_iff (loaded : ofLookup lookup = .ok settings) :
    provider ∈ settings.webhookProviders ↔
      ∃ raw, lookup "WEBHOOK_PROVIDERS" = some raw ∧
        ∃ item ∈ written raw, item ≠ "" ∧ provider = Text.lowerAscii item := by
  rw [webhookProviders_of_ofLookup loaded, List.mem_map]
  simp only [mem_listed_iff]
  constructor
  · rintro ⟨item, ⟨⟨raw, held, among⟩, filled⟩, rfl⟩
    exact ⟨raw, held, item, among, filled, rfl⟩
  · rintro ⟨raw, held, item, among, filled, rfl⟩
    exact ⟨item, ⟨⟨raw, held, among⟩, filled⟩, rfl⟩

/-- Providers are in lower case. -/
theorem lowerAscii_of_mem (loaded : ofLookup lookup = .ok settings)
    (among : provider ∈ settings.webhookProviders) : Text.lowerAscii provider = provider := by
  obtain ⟨_, _, _, _, _, rfl⟩ := (mem_webhookProviders_iff loaded).mp among
  exact Text.lowerAscii_lowerAscii _

/-- Each provider has the secret of its own name. -/
theorem mem_providerSecrets_iff :
    (provider, name) ∈ settings.providerSecrets ↔
      provider ∈ settings.webhookProviders ∧ name = providerSecretName provider := by
  simp only [providerSecrets, List.mem_map, List.mem_eraseDups, Prod.mk.injEq]
  constructor
  · rintro ⟨_, among, rfl, rfl⟩
    exact ⟨among, rfl⟩
  · rintro ⟨among, rfl⟩
    exact ⟨provider, among, rfl, rfl⟩

/-! ## Paths -/

/-- The secret of a path is that of the last segment in lower case, if this is a provider. -/
theorem providerSecret?_of_ofLookup (loaded : ofLookup lookup = .ok settings) (path : String) :
    Webhook.providerSecret? settings.providerSecrets path =
      ((Webhook.lastSegment? path).map Text.lowerAscii).bind fun provider =>
        if provider ∈ settings.webhookProviders then some (providerSecretName provider)
        else none := by
  rw [providerSecrets, Webhook.providerSecret?_eq]
  · simp only [List.mem_eraseDups]
  · intro provider among
    exact lowerAscii_of_mem loaded (List.mem_eraseDups.mp among)

theorem providerSecret?_eq_some_iff (loaded : ofLookup lookup = .ok settings) {path : String} :
    Webhook.providerSecret? settings.providerSecrets path = some name ↔
      ∃ segment, Webhook.EndsIn path segment ∧
        Text.lowerAscii segment ∈ settings.webhookProviders ∧
        name = providerSecretName (Text.lowerAscii segment) := by
  simp only [providerSecret?_of_ofLookup loaded, Option.bind_eq_some_iff, Option.map_eq_some_iff,
    Webhook.lastSegment?_eq_some_iff, Option.ite_none_right_eq_some, Option.some.injEq]
  constructor
  · rintro ⟨_, ⟨segment, ends, rfl⟩, among, rfl⟩
    exact ⟨segment, ends, among, rfl⟩
  · rintro ⟨segment, ends, among, rfl⟩
    exact ⟨_, ⟨segment, ends, rfl⟩, among, rfl⟩

theorem providerSecretName_inj {other : String} :
    providerSecretName provider = providerSecretName other ↔ provider = other :=
  String.append_right_inj _

/-- The name of a provider's secret is not blank. -/
theorem isBlankText_providerSecretName (provider : String) :
    Text.isBlankText (providerSecretName provider) = false := by
  rw [Text.isBlankText, providerSecretName, String.toList_append, List.all_append]
  rfl

/-- Under accepted settings a path has a secret exactly when it ends in a segment that is, up to
letter case, an item of the list of providers, and then it is the secret of that segment's name
in lower case. So paths that differ in letter case and slashes at their end have the same secret,
no path has the secret of a provider that it does not end in, and the guard asks for the secret
of a path as it is. -/
theorem paths_have_secrets_of_own_providers (loaded : ofLookup lookup = .ok settings)
    (path : String) :
    (∀ name, Webhook.providerSecret? settings.providerSecrets path = some name ↔
        ∃ segment, Webhook.EndsIn path segment ∧
          (∃ raw, lookup "WEBHOOK_PROVIDERS" = some raw ∧ ∃ item ∈ written raw, item ≠ "" ∧
            Text.lowerAscii segment = Text.lowerAscii item) ∧
          name = "webhooks/" ++ Text.lowerAscii segment) ∧
      (∀ other, Webhook.Alike path other →
        Webhook.providerSecret? settings.providerSecrets path =
          Webhook.providerSecret? settings.providerSecrets other) ∧
      (∀ provider, Webhook.providerSecret? settings.providerSecrets path =
          some ("webhooks/" ++ provider) →
        ∃ segment, Webhook.EndsIn path segment ∧ Text.lowerAscii segment = provider) ∧
      ∀ name, settings.selector.secretName path = .ok name ↔
        Webhook.providerSecret? settings.providerSecrets path = some name := by
  refine ⟨?exact, ?alike, ?own, ?asked⟩
  case exact =>
    intro name
    rw [providerSecret?_eq_some_iff loaded]
    simp only [mem_webhookProviders_iff loaded]
    rfl
  case alike =>
    intro other alike
    rw [providerSecret?_of_ofLookup loaded, providerSecret?_of_ofLookup loaded,
      alike.lastSegment?]
  case own =>
    intro provider found
    obtain ⟨segment, ends, _, same⟩ := (providerSecret?_eq_some_iff loaded).mp found
    exact ⟨segment, ends, (providerSecretName_inj.mp same).symm⟩
  case asked =>
    intro name
    rw [selector, Webhook.Selector.secretName]
    cases found : Webhook.providerSecret? settings.providerSecrets path with
    | none => simp
    | some secret =>
        obtain ⟨_, _, _, rfl⟩ := (providerSecret?_eq_some_iff loaded).mp found
        simp [isBlankText_providerSecretName]

namespace Listing

/-- The variables of a program that sets nothing but its list of providers. -/
def environment (providers : String) : Lookup := fun name =>
  if name = "WEBHOOK_PROVIDERS" then some providers else none

theorem exists_ofLookup (providers : String) :
    ∃ settings, ofLookup (environment providers) = .ok settings := ⟨_, rfl⟩

/-- An item of the list that is in lower case is a provider, with the secret of its own name. -/
theorem provides {providers item secret : String}
    (loaded : ofLookup (environment providers) = .ok settings) (among : item ∈ written providers)
    (filled : item ≠ "") (lower : Text.lowerAscii item = item)
    (named : "webhooks/" ++ item = secret) : (item, secret) ∈ settings.providerSecrets :=
  mem_providerSecrets_iff.mpr
    ⟨(mem_webhookProviders_iff loaded).mpr ⟨providers, rfl, item, among, filled, lower.symm⟩,
      named.symm⟩

end Listing

open Listing

/-- A path whose last segment is in capitals and has slashes behind it leads to the secret of the
provider in lower case. -/
theorem capital_path_has_secret_of_provider :
    ∃ settings, ofLookup (environment " Stripe, adyen ,") = .ok settings ∧
      Webhook.EndsIn "/webhooks/payments/STRIPE//" "STRIPE" ∧
      Webhook.providerSecret? settings.providerSecrets "/webhooks/payments/STRIPE//" =
        some "webhooks/stripe" := by
  obtain ⟨settings, loaded⟩ := exists_ofLookup " Stripe, adyen ,"
  have ends : Webhook.EndsIn "/webhooks/payments/STRIPE//" "STRIPE" :=
    Webhook.lastSegment?_eq_some_iff.mp (by decide)
  obtain ⟨exact, _⟩ :=
    paths_have_secrets_of_own_providers loaded "/webhooks/payments/STRIPE//"
  exact ⟨settings, loaded, ends, (exact _).mpr ⟨"STRIPE", ends,
    ⟨_, rfl, "Stripe", by decide, by decide, by decide⟩, by decide⟩⟩

/-! ## Variables -/

/-- Under accepted settings the secrets of two providers are read from one variable exactly when
the names of the providers differ in nothing but characters that are neither ASCII letters nor
digits. Exactly then every environment holds the same secret for both. -/
theorem providers_share_variable_iff_blurred (loaded : ofLookup lookup = .ok settings)
    (leading : String) {first second firstSecret secondSecret : String}
    (firstAmong : (first, firstSecret) ∈ settings.providerSecrets)
    (secondAmong : (second, secondSecret) ∈ settings.providerSecrets) :
    (SecretSource.variableName leading firstSecret =
        SecretSource.variableName leading secondSecret ↔ SecretSource.Blurred first second) ∧
      ((∀ values, ((SecretSource.environment leading values).answer firstSecret).toOption =
          ((SecretSource.environment leading values).answer secondSecret).toOption) ↔
        SecretSource.Blurred first second) := by
  rw [SecretSource.answers_agree_iff, and_self]
  obtain ⟨firstProvides, rfl⟩ := mem_providerSecrets_iff.mp firstAmong
  obtain ⟨secondProvides, rfl⟩ := mem_providerSecrets_iff.mp secondAmong
  have firstLower : Text.lowerAscii first = first := lowerAscii_of_mem loaded firstProvides
  have secondLower : Text.lowerAscii second = second := lowerAscii_of_mem loaded secondProvides
  rw [providerSecretName, providerSecretName, SecretSource.variableName_append,
    SecretSource.variableName_append, ← firstLower, ← secondLower]
  exact SecretSource.variableName_lowerAscii_eq_iff

/-- Providers that differ in a letter have variables of their own. -/
theorem lettered_providers_have_own_variables :
    ∃ settings, ofLookup (environment "pay-pal,pay-pay") = .ok settings ∧
      ("pay-pal", "webhooks/pay-pal") ∈ settings.providerSecrets ∧
      ("pay-pay", "webhooks/pay-pay") ∈ settings.providerSecrets ∧
      SecretSource.variableName SecretSource.defaultLeading "webhooks/pay-pal" ≠
        SecretSource.variableName SecretSource.defaultLeading "webhooks/pay-pay" := by
  obtain ⟨settings, loaded⟩ := exists_ofLookup "pay-pal,pay-pay"
  have first : ("pay-pal", "webhooks/pay-pal") ∈ settings.providerSecrets :=
    provides loaded (by decide) (by decide) rfl rfl
  have second : ("pay-pay", "webhooks/pay-pay") ∈ settings.providerSecrets :=
    provides loaded (by decide) (by decide) rfl rfl
  obtain ⟨share, _⟩ :=
    providers_share_variable_iff_blurred loaded SecretSource.defaultLeading first second
  refine ⟨settings, loaded, first, second, ?_⟩
  rw [ne_eq, share]
  decide

/-- Two providers of accepted settings, told apart by a dash and an underscore, share the
variable of their secrets. -/
theorem dash_and_underscore_share_variable :
    ∃ settings, ofLookup (environment "pay-pal,pay_pal") = .ok settings ∧
      ("pay-pal", "webhooks/pay-pal") ∈ settings.providerSecrets ∧
      ("pay_pal", "webhooks/pay_pal") ∈ settings.providerSecrets ∧ "pay-pal" ≠ "pay_pal" ∧
      SecretSource.variableName SecretSource.defaultLeading "webhooks/pay-pal" =
        SecretSource.variableName SecretSource.defaultLeading "webhooks/pay_pal" := by
  obtain ⟨settings, loaded⟩ := exists_ofLookup "pay-pal,pay_pal"
  have dash : ("pay-pal", "webhooks/pay-pal") ∈ settings.providerSecrets :=
    provides loaded (by decide) (by decide) rfl rfl
  have underscore : ("pay_pal", "webhooks/pay_pal") ∈ settings.providerSecrets :=
    provides loaded (by decide) (by decide) rfl rfl
  exact ⟨settings, loaded, dash, underscore, by decide, by decide⟩

end Admission.Settings
