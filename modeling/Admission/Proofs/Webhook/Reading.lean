import Mathlib.Logic.Basic
import Admission.Proofs.Nonce.Table
import Admission.Proofs.Outcome
import Admission.Proofs.Secret.Lookup
import Admission.Webhook.Verification

/-!
# Readings of requests

A reading holds what verification takes from a request. `Reading.Verifies` says
that the request comes through to a right signature by it, `Reading.Usable` that
its nonce can then be used. A request has at most one reading that verifies.

The timestamp is checked at the instant `asked`, the nonce is used at the instant
`stored`. All that is checked before the nonce rests on the first of them alone.
-/

namespace Admission

namespace Instant

/-- No two instants lie further apart than the longest span. -/
theorem magnitude_since_le_longest (left right : Instant) :
    (left.since right).magnitude ≤ Span.longest := by
  have near := since_nanoseconds_near left right
  have boundsLeft := left.position_bounds
  have boundsRight := right.position_bounds
  simp only [Span.le_def, Span.magnitude, Span.longest, firstSecond, lastSecond,
    nanosPerSecond] at *
  omega

end Instant

namespace Header

/-- A value reads as a text when it is readable and the text, which is not
empty, is what stands between its surrounding blanks. -/
def ReadsAs (value : Bytes) (text : String) : Prop :=
  ∃ symbols, readable? value = some symbols ∧ Text.trimSymbols symbols = text.toList ∧
    text.toList ≠ []

/-- The first value of a name reads as a text. -/
def FirstReadsAs (headers : List Header) (name text : String) : Prop :=
  ∃ value, first? headers name = some value ∧ ReadsAs value text

theorem required_eq_present_iff {headers : List Header} {name text : String} :
    required headers name = .present text ↔ FirstReadsAs headers name text := by
  unfold required FirstReadsAs ReadsAs
  cases found : first? headers name with
  | none => simp
  | some value =>
      cases reads : readable? value with
      | none => simp [reads]
      | some symbols =>
          simp only [reads, Option.some.injEq, exists_eq_left', List.isEmpty_iff]
          by_cases blank : Text.trimSymbols symbols = []
          · simp only [blank, if_true, reduceCtorEq, false_iff, not_and, not_not]
            exact fun same => same.symm
          · simp only [blank, if_false, Required.present.injEq]
            constructor
            · rintro rfl
              exact ⟨String.toList_ofList.symm, by rwa [String.toList_ofList]⟩
            · rintro ⟨same, _⟩
              rw [same, String.ofList_toList]

/-- A field reads as one text only. -/
theorem FirstReadsAs.unique {headers : List Header} {name text other : String}
    (first : FirstReadsAs headers name text) (second : FirstReadsAs headers name other) :
    text = other := by
  rw [← required_eq_present_iff] at first second
  rw [first] at second
  exact Required.present.inj second

end Header

namespace Body

/-- A body is gathered when its stream ends and its bytes are within the limit. -/
theorem gather?_eq_some_iff {body : Body} {limit : Nat} {bytes : Bytes} :
    body.gather? limit = some bytes ↔
      body.breaks = false ∧ body.bytes.length ≤ limit ∧ bytes = body.bytes := by
  unfold gather?
  by_cases gathered : (!body.breaks) = true ∧ body.bytes.length ≤ limit
  · rw [if_pos gathered]
    simp only [Bool.not_eq_true'] at gathered
    simp [gathered, eq_comm]
  · rw [if_neg gathered]
    simp only [Bool.not_eq_true'] at gathered
    simp only [reduceCtorEq, false_iff]
    rintro ⟨ends, fits, _⟩
    exact gathered ⟨ends, fits⟩

end Body

namespace Webhook

theorem requiredText_eq_ok_iff {headers : List Header} {name text : String}
    {missing unreadable : Refusal} :
    requiredText headers name missing unreadable = .ok text ↔
      Header.FirstReadsAs headers name text := by
  rw [← Header.required_eq_present_iff]
  unfold requiredText
  cases Header.required headers name <;> simp

theorem require_eq_ok_iff {Value : Type} {failure : Failure} {found : Option Value}
    {value : Value} : require failure found = .ok value ↔ found = some value := by
  cases found <;> simp [require]

theorem refuseWhen_eq_ok_iff {ground : Prop} [Decidable ground] {refusal : Refusal}
    {done : Unit} : refuseWhen ground refusal = .ok done ↔ ¬ ground := by
  unfold refuseWhen
  by_cases holds : ground <;> simp [holds]

/-- A timestamp lies within the skew of the clock. -/
def Settings.Near (settings : Settings) (asked timestamp : Instant) : Prop :=
  (asked.since timestamp).nanoseconds.natAbs ≤ settings.clockSkew.nanoseconds

instance (settings : Settings) (asked timestamp : Instant) :
    Decidable (settings.Near asked timestamp) :=
  inferInstanceAs (Decidable (_ ≤ _))

/-- Cutting the skew at the longest span turns no timestamp away. -/
theorem Settings.near_iff {settings : Settings} {asked timestamp : Instant} :
    ¬ settings.clockSkew.span < (asked.since timestamp).magnitude ↔
      settings.Near asked timestamp := by
  have short := Instant.magnitude_since_le_longest asked timestamp
  simp only [Span.lt_def, Span.le_def, Duration.span_nanoseconds, Near, Span.magnitude] at *
  omega

/-- What verification takes from a request, with the secret it is held against. -/
structure Reading where
  secret : Secret
  rawSignature : String
  rawTimestamp : String
  nonce : String
  timestamp : Instant
  body : Bytes

namespace Reading

/-- The parts of the request that the signature covers. -/
def parts (reading : Reading) (request : Request) : SignedParts :=
  ⟨request.method, request.path, reading.rawTimestamp, reading.nonce, reading.body⟩

/-- The text that the signature covers, a line for each part: the method in upper case, the
path, timestamp and nonce as they read, and the digest of the body in hexadecimal. -/
def signedText (reading : Reading) (request : Request) : String :=
  Text.upperAscii request.method ++ "\n" ++ request.path ++ "\n" ++ reading.rawTimestamp ++ "\n" ++
    reading.nonce ++ "\n" ++ Hex.text (Sha256.digest reading.body)

/-- The signature that the secret gives to the request: the digest of the text, keyed by the
secret. -/
def tag (reading : Reading) (request : Request) : Bytes :=
  Hmac.digest reading.secret.bytes (Bytes.ofText (reading.signedText request))

/-- The delivery that an admitted request becomes. -/
def delivery (reading : Reading) (secretName : String) (request : Request) : Delivery :=
  ⟨⟨secretName, reading.timestamp, reading.nonce, reading.tag request, reading.rawSignature⟩,
    reading.body⟩

/-- The request stands every check up to its signature, against the reading's secret. -/
structure Checks (reading : Reading) (settings : Settings) (asked : Instant)
    (request : Request) : Prop where
  signatureField :
    Header.FirstReadsAs request.headers settings.signatureHeader reading.rawSignature
  timestampField :
    Header.FirstReadsAs request.headers settings.timestampHeader reading.rawTimestamp
  nonceField : Header.FirstReadsAs request.headers settings.nonceHeader reading.nonce
  timestamp : timestamp? reading.rawTimestamp = some reading.timestamp
  near : settings.Near asked reading.timestamp
  bodyEnds : request.body.breaks = false
  bodyFits : request.body.bytes.length ≤ settings.maxBodyBytes
  body : reading.body = request.body.bytes
  signature : decodeSignature? reading.rawSignature = some (reading.tag request)

/-- The secret resolves and the request comes through to a right signature. -/
structure Verifies (reading : Reading) (validator : Validator) (asked : Instant)
    (secretName : String) (request : Request) : Prop where
  secret : validator.cache.Resolves validator.secretTimeout validator.source secretName
    reading.secret
  checks : reading.Checks validator.settings asked request

/-- The nonce can be used: its expiry, which counts from before the body arrived, is an instant
ahead of the clock that stores it, and no use of it lives then. -/
structure Usable (reading : Reading) (table : NonceTable) (asked stored : Instant)
    (secretName : String) (lifetime : Span) (expiry : Instant) : Prop where
  expires : (reading.timestamp.earlier asked).add? lifetime = some expiry
  ahead : stored < expiry
  unused : ¬ table.Tracks stored secretName reading.nonce

end Reading

/-- The checks before the nonce succeed exactly by a reading of the request. -/
theorem checkSigned_eq_ok_iff {settings : Settings} {secret : Secret} {secretName : String}
    {asked : Instant} {request : Request} {signed : Signed} :
    checkSigned settings secret secretName asked request = .ok signed ↔
      ∃ reading : Reading, ∃ lifetime, reading.secret = secret ∧
        reading.Checks settings asked request ∧ settings.effectiveLifetime? = some lifetime ∧
        signed = ⟨(reading.delivery secretName request).metadata, reading.body,
          (reading.timestamp.earlier asked).add? lifetime⟩ := by
  simp only [checkSigned, Outcome.bind_eq_ok_iff, Outcome.mapError_eq_ok_iff,
    requiredText_eq_ok_iff, require_eq_ok_iff, refuseWhen_eq_ok_iff, Settings.near_iff,
    Body.gather?_eq_some_iff, ne_eq, not_not]
  constructor
  · rintro ⟨rawSignature, signatureField, rawTimestamp, timestampField, nonce, nonceField,
      timestamp, denotes, _, near, body, ⟨ends, fits, rfl⟩, signature, decodes, _, rfl,
      lifetime, effective, result⟩
    refine ⟨⟨secret, rawSignature, rawTimestamp, nonce, timestamp, request.body.bytes⟩, lifetime,
      rfl, ⟨signatureField, timestampField, nonceField, denotes, near, ends, fits, rfl, decodes⟩,
      effective, ?_⟩
    cases result
    rfl
  · rintro ⟨reading, lifetime, rfl, checks, effective, rfl⟩
    exact ⟨reading.rawSignature, checks.signatureField, reading.rawTimestamp,
      checks.timestampField, reading.nonce, checks.nonceField, reading.timestamp,
      checks.timestamp, (), checks.near, reading.body,
      ⟨checks.bodyEnds, checks.bodyFits, checks.body⟩, reading.tag request, checks.signature, (),
      rfl, lifetime, effective, rfl⟩

/-- A request is read in one way only. -/
theorem Reading.Verifies.unique {reading other : Reading} {validator : Validator}
    {asked : Instant} {secretName : String} {request : Request}
    (first : reading.Verifies validator asked secretName request)
    (second : other.Verifies validator asked secretName request) : reading = other := by
  obtain ⟨firstSecret, firstChecks⟩ := first
  obtain ⟨secondSecret, secondChecks⟩ := second
  have secret := firstSecret.unique secondSecret
  have rawSignature := firstChecks.signatureField.unique secondChecks.signatureField
  have rawTimestamp := firstChecks.timestampField.unique secondChecks.timestampField
  have nonce := firstChecks.nonceField.unique secondChecks.nonceField
  have body := firstChecks.body.trans secondChecks.body.symm
  have timestamp : reading.timestamp = other.timestamp := by
    have denoted := firstChecks.timestamp
    rw [rawTimestamp, secondChecks.timestamp] at denoted
    exact (Option.some.inj denoted).symm
  cases reading
  cases other
  simp_all

end Webhook
end Admission
