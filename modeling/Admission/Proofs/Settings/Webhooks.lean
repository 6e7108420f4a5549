import Admission.Proofs.Settings.Reading
import Admission.Proofs.Text.Decimal
import Admission.Proofs.Webhook.Guarding
import Admission.Proofs.Webhook.Spacing

/-!
# Verification under accepted settings

Skew and lifetime are read as any counts of seconds in 64 bits. Differences of instants, the
lifetime of nonces and their expiry stay within their ranges for all of them, or are refused.
Only the second added to the skew may leave the range of durations. It does so for one skew
alone, the greatest that can be written, and then for every request with a right signature.
-/

namespace Admission

theorem Duration.limit_eq : Duration.limit = (Settings.bound64 + 1) * nanosPerSecond := rfl

/-! ## Where verification cannot go on -/

namespace Webhook

variable {settings : Settings} {secret : Secret} {secretName : String}
  {asked stored : Instant} {request : Request}

/-- Settings leave no lifetime when skew and second do not add up to a duration. -/
theorem Settings.effectiveLifetime?_eq_none_iff :
    settings.effectiveLifetime? = none ↔
      Duration.limit ≤ settings.clockSkew.nanoseconds + nanosPerSecond := by
  simp [effectiveLifetime?, Duration.add?, Duration.seconds]

/-- The lengths of time that verification computes are within their ranges, those from a reading
of the clock among them. -/
structure Settings.InRange (settings : Settings) (asked : Instant) : Prop where
  skew : settings.clockSkew.nanoseconds < Duration.limit
  nonceLifetime : settings.nonceLifetime.nanoseconds < Duration.limit
  distance : ∀ timestamp, (asked.since timestamp).magnitude ≤ Span.longest
  lifetime : ∀ lifetime, settings.effectiveLifetime? = some lifetime →
    nanosPerSecond ≤ lifetime.nanoseconds ∧ lifetime ≤ Span.longest

/-- The checks cannot go on exactly where a request comes through to a right signature and the
settings leave no lifetime. -/
theorem checkSigned_eq_overflow_iff :
    checkSigned settings secret secretName asked request = .error .overflow ↔
      settings.effectiveLifetime? = none ∧
        ∃ reading : Reading, reading.secret = secret ∧ reading.Checks settings asked request := by
  simp only [checkSigned, Outcome.bind_eq_error_iff, Outcome.mapError_eq_error_iff,
    Outcome.mapError_eq_ok_iff, requiredText_eq_ok_iff, require_eq_error_iff, require_eq_ok_iff,
    refuseWhen_ne_overflow, refuseWhen_eq_ok_iff, Settings.near_iff, Body.gather?_eq_some_iff,
    reduceCtorEq, and_false, exists_false, false_or, and_true, ne_eq, not_not]
  constructor
  · rintro ⟨rawSignature, signatureField, rawTimestamp, timestampField, nonce, nonceField,
      timestamp, denotes, _, near, body, ⟨ends, fits, rfl⟩, signature, decodes, _, rfl,
      endless | ⟨_, _, impossible⟩⟩
    · exact ⟨endless, ⟨secret, rawSignature, rawTimestamp, nonce, timestamp, request.body.bytes⟩,
        rfl, signatureField, timestampField, nonceField, denotes, near, ends, fits, rfl, decodes⟩
    · cases impossible
  · rintro ⟨endless, reading, rfl, checks⟩
    exact ⟨reading.rawSignature, checks.signatureField, reading.rawTimestamp,
      checks.timestampField, reading.nonce, checks.nonceField, reading.timestamp,
      checks.timestamp, (), checks.near, reading.body,
      ⟨checks.bodyEnds, checks.bodyFits, checks.body⟩, reading.tag request, checks.signature, (),
      rfl, .inl endless⟩

/-- Verification cannot go on exactly where a request verifies and the settings leave no
lifetime. -/
theorem Validator.verify_eq_overflow_iff {validator : Validator} :
    (validator.verify asked stored secretName request).outcome = .error .overflow ↔
      validator.settings.effectiveLifetime? = none ∧
        ∃ reading : Reading, reading.Verifies validator asked secretName request := by
  constructor
  · intro stuck
    have endless := verify_overflow stuck
    cases resolved : (validator.lookup secretName).result with
    | error fault =>
        rw [verify_of_unresolved resolved] at stuck
        cases stuck
    | ok secret =>
        cases checked : checkSigned validator.settings secret secretName asked request with
        | error failure =>
            rw [verify_of_unsigned resolved checked] at stuck
            cases stuck
            obtain ⟨_, reading, rfl, checks⟩ := checkSigned_eq_overflow_iff.mp checked
            exact ⟨endless, reading, SecretCache.get_result_eq_ok_iff.mp resolved, checks⟩
        | ok signed =>
            obtain ⟨_, _, _, _, effective, _⟩ := checkSigned_eq_ok_iff.mp checked
            rw [endless] at effective
            cases effective
  · rintro ⟨endless, reading, secret, checks⟩
    rw [verify_of_unsigned (SecretCache.get_result_eq_ok_iff.mpr secret)
      (checkSigned_eq_overflow_iff.mpr ⟨endless, reading, rfl, checks⟩)]

end Webhook

/-! ## Accepted settings -/

namespace Settings

variable {lookup : Lookup} {name : String} {bound usual count : Nat} {duration : Duration}
  {settings : Settings}

/-- A number that is read stays within its bound. -/
theorem number_le (small : usual ≤ bound) (read : number lookup name bound usual = .ok count) :
    count ≤ bound := by
  unfold number at read
  split at read
  · cases read
    exact small
  · exact Decimal.natural_le (Outcome.mapError_eq_ok_iff.mp read)

theorem seconds_eq_ok_iff : seconds lookup name usual = .ok duration ↔
    ∃ count, number lookup name bound64 usual = .ok count ∧ duration = .seconds count := by
  unfold seconds
  cases number lookup name bound64 usual <;> simp [Except.map, eq_comm]

/-- Skew and lifetime of accepted settings are what is read from their variables. -/
theorem durations_of_ofLookup (loaded : ofLookup lookup = .ok settings) :
    seconds lookup "HMAC_CLOCK_SKEW_SECS" 300 = .ok settings.webhooks.clockSkew ∧
      seconds lookup "HMAC_NONCE_TTL_SECS" 600 = .ok settings.webhooks.nonceLifetime := by
  simp only [ofLookup, Outcome.bind_eq_ok_iff] at loaded
  obtain ⟨_, _, _, _, _, _, _, skew, _, lifetime, rest⟩ := loaded
  obtain ⟨_, _, _, _, _, _, _, _, _, _, _, _, same⟩ := rest
  cases same
  exact ⟨skew, lifetime⟩

/-- A duration in seconds is within the range of durations. -/
theorem seconds_lt_limit (small : usual ≤ bound64)
    (read : seconds lookup name usual = .ok duration) : duration.nanoseconds < Duration.limit := by
  obtain ⟨count, counted, rfl⟩ := seconds_eq_ok_iff.mp read
  have within : count ≤ bound64 := number_le small counted
  simp only [Duration.limit_eq, Duration.seconds, nanosPerSecond] at *
  omega

/-- Accepted settings leave no lifetime exactly when the skew is the greatest that can be
written. -/
theorem endless_iff (loaded : ofLookup lookup = .ok settings) :
    settings.webhooks.effectiveLifetime? = none ↔
      number lookup "HMAC_CLOCK_SKEW_SECS" bound64 300 = .ok bound64 := by
  obtain ⟨count, counted, skew⟩ := seconds_eq_ok_iff.mp (durations_of_ofLookup loaded).1
  have within : count ≤ bound64 := number_le (by decide) counted
  rw [Webhook.Settings.effectiveLifetime?_eq_none_iff, skew, counted, Except.ok.injEq]
  simp only [Duration.limit_eq, Duration.seconds, nanosPerSecond]
  omega

/-- Accepted settings keep every length of time within its range. -/
theorem inRange_of_ofLookup (loaded : ofLookup lookup = .ok settings) (asked : Instant) :
    settings.webhooks.InRange asked where
  skew := seconds_lt_limit (by decide) (durations_of_ofLookup loaded).1
  nonceLifetime := seconds_lt_limit (by decide) (durations_of_ofLookup loaded).2
  distance := asked.magnitude_since_le_longest
  lifetime _ effective := by
    refine ⟨Webhook.Settings.second_le_effectiveLifetime effective, ?_⟩
    rw [Span.le_def, Webhook.Settings.effectiveLifetime_nanoseconds effective]
    omega

/-- Under accepted settings verification comes to a delivery or a refusal, whatever the clock
shows at its two readings, for every state of secrets and nonces and every request, unless the
skew is the greatest that can be written. Then it cannot go on for any request that verifies,
and for no other. -/
theorem greatest_skew_alone_overflows {validator : Webhook.Validator}
    (loaded : ofLookup lookup = .ok settings) (configured : validator.settings = settings.webhooks)
    (asked stored : Instant) (secretName : String) (request : Request) :
    (number lookup "HMAC_CLOCK_SKEW_SECS" bound64 300 ≠ .ok bound64 →
        (∃ delivery, (validator.verify asked stored secretName request).outcome =
            .ok delivery) ∨
          ∃ refusal,
            (validator.verify asked stored secretName request).outcome =
              .error (.refused refusal)) ∧
      ((validator.verify asked stored secretName request).outcome = .error .overflow ↔
        number lookup "HMAC_CLOCK_SKEW_SECS" bound64 300 = .ok bound64 ∧
          ∃ reading : Webhook.Reading, reading.Verifies validator asked secretName request) ∧
      settings.webhooks.InRange asked := by
  have stuck : (validator.verify asked stored secretName request).outcome = .error .overflow ↔
      number lookup "HMAC_CLOCK_SKEW_SECS" bound64 300 = .ok bound64 ∧
        ∃ reading : Webhook.Reading, reading.Verifies validator asked secretName request := by
    rw [Webhook.Validator.verify_eq_overflow_iff, configured, endless_iff loaded]
  refine ⟨fun other => ?_, stuck, inRange_of_ofLookup loaded asked⟩
  cases outcome : (validator.verify asked stored secretName request).outcome with
  | ok delivery => exact .inl ⟨delivery, rfl⟩
  | error failure =>
      cases failure with
      | refused refusal => exact .inr ⟨refusal, rfl⟩
      | overflow => exact absurd (stuck.mp outcome).1 other

namespace Skewed

/-- The variables of a program that sets nothing but its skew. -/
def environment (skew : String) : Lookup := fun name =>
  if name = "HMAC_CLOCK_SKEW_SECS" then some skew else none

/-- The settings that a skew in seconds gives. -/
def loaded (skew : Nat) : Settings where
  host := "0.0.0.0"
  port := 8080
  logFormat := .pretty
  clockSkew := .seconds skew
  nonceLifetime := .seconds 600
  maxBodyBytes := 1048576
  secretTimeout := .milliseconds 2000
  webhookProviders := []
  service := none
  users := none
  defaultKeyLifetime := .seconds 900
  maxKeyLifetime := .seconds 86400
  fetchTimeout := .milliseconds 5000
  forcedInterval := .seconds 30

theorem ofLookup_greatest :
    ofLookup (environment "18446744073709551615") = .ok (loaded bound64) := rfl

theorem ofLookup_greatest_but_one :
    ofLookup (environment "18446744073709551614") = .ok (loaded (bound64 - 1)) := rfl

/-- A validator with the settings of a skew that has seen no request. -/
def validator (skew : Nat) : Webhook.Validator := .fresh (loaded skew).webhooks "hooks" ⟨[1]⟩

theorem validator_settings (skew : Nat) : (validator skew).settings = (loaded skew).webhooks := rfl

/-- A signed request with a timestamp of the clock. -/
def request (skew : Nat) : Request := Webhook.Draft.first.request (loaded skew).webhooks ⟨[1]⟩

theorem verifies (skew : Nat) :
    (Webhook.Draft.first.reading ⟨[1]⟩).Verifies (validator skew) .epoch "hooks"
      (request skew) := by
  -- Header fields and the limit of bodies are those of the standard settings.
  have distinct : (loaded skew).webhooks.DistinctHeaders :=
    ⟨Webhook.Settings.standard_distinctHeaders.timestamp,
      Webhook.Settings.standard_distinctHeaders.nonce,
      Webhook.Settings.standard_distinctHeaders.timestampNonce⟩
  have sendable : Webhook.Draft.first.Sendable (loaded skew).webhooks :=
    ⟨Webhook.Draft.first_sendable.timestampReads, Webhook.Draft.first_sendable.timestamp,
      Webhook.Draft.first_sendable.nonceReads, Webhook.Draft.first_sendable.bodyFits⟩
  have near : (loaded skew).webhooks.Near .epoch Webhook.Draft.first.timestamp := Nat.zero_le _
  exact ⟨Webhook.Validator.fresh_resolves, Webhook.Draft.checks distinct sendable near⟩

/-- With the greatest skew but one, verification of a signed request comes to its end. -/
theorem greatest_but_one_settled :
    ofLookup (environment "18446744073709551614") = .ok (loaded (bound64 - 1)) ∧
      ((∃ delivery, ((validator (bound64 - 1)).verify .epoch .epoch "hooks"
          (request (bound64 - 1))).outcome = .ok delivery) ∨
        ∃ refusal, ((validator (bound64 - 1)).verify .epoch .epoch "hooks"
          (request (bound64 - 1))).outcome = .error (.refused refusal)) := by
  have read : number (environment "18446744073709551614") "HMAC_CLOCK_SKEW_SECS" bound64 300 =
      .ok (bound64 - 1) := rfl
  have settled := greatest_skew_alone_overflows ofLookup_greatest_but_one
    (validator_settings (bound64 - 1)) .epoch .epoch "hooks" (request (bound64 - 1))
  rw [read] at settled
  exact ⟨ofLookup_greatest_but_one, settled.1 (by decide)⟩

/-- With the greatest skew, which is accepted, a signed request overflows. -/
theorem greatest_overflows :
    ofLookup (environment "18446744073709551615") = .ok (loaded bound64) ∧
      ((validator bound64).verify .epoch .epoch "hooks" (request bound64)).outcome =
        .error .overflow := by
  have endless : (loaded bound64).webhooks.effectiveLifetime? = none :=
    Webhook.Settings.effectiveLifetime?_eq_none_iff.mpr (by decide)
  exact ⟨ofLookup_greatest,
    Webhook.Validator.verify_eq_overflow_iff.mpr ⟨endless, _, verifies bound64⟩⟩

end Skewed
end Settings
end Admission
