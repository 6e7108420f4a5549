import Admission.Proofs.Webhook.Spacing

/-!
# Timestamps that have lapsed

The use of a nonce is remembered for at least a second longer than the skew, so that a
timestamp near the clock should lead to an expiry ahead of it. A timestamp inside a leap second
can spend that second: the way to the expiry leaves the leap second before it counts, and the
distance to the clock leaves it out once midnight lies between them. `Settings.expiry_le_iff`
says exactly which timestamps have lapsed while they are still near the clock. A clock that
moves on while the body arrives can pass an expiry that was ahead of it.
-/

namespace Admission.Webhook

namespace Settings

variable {settings : Settings} {lifetime : Span} {now timestamp expiry : Instant}

/-- A timestamp has lapsed: although it is near the clock, what is remembered of its nonce
would have expired. -/
inductive Lapsed (settings : Settings) (now timestamp : Instant) : Prop where
  /-- The clock is outside leap seconds. The timestamp lies in a leap second behind a midnight
  and is as old as the skew allows, and nonces are not remembered for longer than the least. -/
  | regular (clock : now.isLeap = false) (leap : timestamp.isLeap = true)
      (midnight : now.secondOfDay ≤ timestamp.secondOfDay)
      (edge : (now.since timestamp).nanoseconds = settings.clockSkew.nanoseconds)
      (least : settings.nonceLifetime.nanoseconds ≤
        settings.clockSkew.nanoseconds + nanosPerSecond)
  /-- The clock is in a leap second as well, and what is remembered ends in the second that
  this one repeats. -/
  | leap (clock : now.isLeap = true) (leap : timestamp.isLeap = true)
      (midnight : now.secondOfDay < timestamp.secondOfDay)
      (short : timestamp.departure + settings.spacing < (now.second + 1) * nanosPerSecond)

theorem skew_add_second_le_spacing (settings : Settings) :
    settings.clockSkew.nanoseconds + nanosPerSecond ≤ settings.spacing :=
  Int.le_max_right _ _

/-- Where nonces are remembered two seconds longer than the skew no timestamp near the clock has
lapsed. -/
theorem not_lapsed_of_roomy (near : settings.Near now timestamp)
    (roomy : settings.clockSkew.nanoseconds + 2 * nanosPerSecond ≤
      settings.nonceLifetime.nanoseconds) : ¬ settings.Lapsed now timestamp := by
  intro lapsed
  cases lapsed with
  | regular clock leap midnight edge least =>
      simp only [nanosPerSecond] at *
      omega
  | leap clock leap midnight short =>
      have apart := Instant.since_nanoseconds_eq now timestamp
      rw [if_neg (by omega), if_pos ⟨midnight, clock⟩] at apart
      rw [Instant.isLeap_eq_true_iff] at clock leap
      have stampNanos := timestamp.nano_lt
      rw [Near] at near
      simp only [spacing, Instant.position, Instant.departure, nanosPerSecond] at *
      omega

section Accepted

variable (effective : settings.effectiveLifetime? = some lifetime)
  (expires : (timestamp.earlier now).add? lifetime = some expiry)

include effective expires

/-- An expiry that has passed was counted from the timestamp and not from the clock. -/
theorem counted_of_expiry_le (passed : expiry ≤ now) :
    timestamp ≤ now ∧ expiry.position = timestamp.departure + settings.spacing := by
  obtain ⟨regular, arrival⟩ := expiry_position effective expires
  rcases Instant.earlier_cases timestamp now with ⟨earlier, order⟩ | ⟨earlier, _⟩
  · exact ⟨order, earlier ▸ arrival⟩
  · obtain ⟨_, inside⟩ := (Instant.le_iff_position_le_of_regular regular).mp passed
    have least := settings.skew_add_second_le_spacing
    have nanos := now.nano_lt
    rw [earlier] at arrival
    simp only [Instant.departure, nanosPerSecond] at *
    omega

/-- A timestamp that is not ahead of the clock is where its expiry is counted from. -/
theorem position_of_le (order : timestamp ≤ now) :
    expiry.position = timestamp.departure + settings.spacing := by
  obtain ⟨_, arrival⟩ := expiry_position effective expires
  rcases Instant.earlier_cases timestamp now with ⟨earlier, _⟩ | ⟨_, ahead⟩
  · exact earlier ▸ arrival
  · exact absurd order (not_le_of_gt ahead)

/-- Only timestamps inside leap seconds lead to an expiry that has passed. -/
theorem isLeap_of_expiry_le (near : settings.Near now timestamp) (passed : expiry ≤ now) :
    timestamp.isLeap = true := by
  obtain ⟨regular, _⟩ := expiry_position effective expires
  obtain ⟨_, arrival⟩ := counted_of_expiry_le effective expires passed
  obtain ⟨reached, inside⟩ := (Instant.le_iff_position_le_of_regular regular).mp passed
  have least := settings.skew_add_second_le_spacing
  have apart := Instant.since_nanoseconds_eq now timestamp
  have nanos := now.nano_lt
  rw [Near] at near
  by_contra other
  rw [Bool.not_eq_true] at other
  -- The distance to the clock then falls short of that of the positions only in a leap second
  -- of the clock, whose end the expiry has not reached.
  rw [Instant.departure_eq_position other] at arrival
  simp only [other, Bool.false_eq_true, and_false, if_false] at apart
  rw [Instant.isLeap_eq_false_iff] at other
  simp only [Instant.position, Instant.isLeap_eq_true_iff, nanosPerSecond] at *
  split at apart <;> omega

theorem lapsed_of_expiry_le (near : settings.Near now timestamp) (passed : expiry ≤ now) :
    settings.Lapsed now timestamp := by
  have leap := isLeap_of_expiry_le effective expires near passed
  obtain ⟨regular, _⟩ := expiry_position effective expires
  obtain ⟨_, arrival⟩ := counted_of_expiry_le effective expires passed
  obtain ⟨reached, inside⟩ := (Instant.le_iff_position_le_of_regular regular).mp passed
  have least := settings.skew_add_second_le_spacing
  have apart := Instant.since_nanoseconds_eq now timestamp
  have stampNanos := timestamp.nano_lt
  have clockNanos := now.nano_lt
  have stampLeap := Instant.isLeap_eq_true_iff.mp leap
  rw [Near] at near
  cases clock : now.isLeap with
  | false =>
      simp only [leap, clock, Bool.false_eq_true, and_false, if_false, and_true] at apart
      have midnight : now.secondOfDay ≤ timestamp.secondOfDay := by
        by_contra later
        rw [if_pos (by omega)] at apart
        simp only [Instant.position, Instant.departure, nanosPerSecond] at *
        omega
      rw [if_neg (by omega)] at apart
      refine .regular clock leap midnight ?edge ?least
      case edge =>
        simp only [Instant.position, Instant.departure, nanosPerSecond] at *
        omega
      case least =>
        simp only [spacing, Instant.position, Instant.departure, nanosPerSecond] at *
        omega
  | true =>
      simp only [leap, clock, and_true] at apart
      have midnight : now.secondOfDay < timestamp.secondOfDay := by
        by_contra later
        rw [if_neg later] at apart
        rw [Instant.isLeap_eq_true_iff] at clock
        simp only [Instant.position, Instant.departure, nanosPerSecond] at *
        split at apart <;> omega
      exact .leap clock leap midnight (arrival ▸ inside)

theorem expiry_le_of_lapsed (lapsed : settings.Lapsed now timestamp) : expiry ≤ now := by
  obtain ⟨regular, _⟩ := expiry_position effective expires
  have spaced := settings.skew_add_second_le_spacing
  rw [Instant.le_iff_position_le_of_regular regular]
  cases lapsed with
  | regular clock leap midnight edge least =>
      have apart := Instant.since_nanoseconds_eq now timestamp
      rw [clock, leap, if_neg (by omega)] at apart
      simp only [Bool.false_eq_true, and_false, if_false] at apart
      rw [Instant.isLeap_eq_false_iff] at clock
      rw [Instant.isLeap_eq_true_iff] at leap
      have stampNanos := timestamp.nano_lt
      have order : timestamp ≤ now := by
        rw [Instant.le_def]
        simp only [Instant.position, nanosPerSecond] at *
        omega
      have arrival := position_of_le effective expires order
      simp only [spacing, Instant.position, Instant.departure, nanosPerSecond] at *
      omega
  | leap clock leap midnight short =>
      rw [Instant.isLeap_eq_true_iff] at clock
      have order : timestamp ≤ now := by
        rw [Instant.le_def]
        simp only [Instant.departure, nanosPerSecond] at *
        omega
      have arrival := position_of_le effective expires order
      simp only [Instant.position, nanosPerSecond] at *
      omega

/-- A timestamp near the clock leads to an expiry that has passed exactly when it has lapsed. -/
theorem expiry_le_iff (near : settings.Near now timestamp) :
    expiry ≤ now ↔ settings.Lapsed now timestamp :=
  ⟨lapsed_of_expiry_le effective expires near, expiry_le_of_lapsed effective expires⟩

end Accepted
end Settings

/-- What comes of a delivery is a fault of the store exactly when the expiry was refused. -/
theorem Delivery.answered_eq_nonceStoreError_iff {delivery : Delivery} {table : NonceTable}
    {now expiry : Instant} {scope nonce : String} :
    delivery.answered (table.use now scope nonce expiry).1 = .error (.refused .nonceStoreError) ↔
      expiry ≤ now := by
  by_cases passed : expiry ≤ now
  · simp [NonceTable.use_of_passed passed, answered, passed]
  · have ahead := lt_of_not_ge passed
    by_cases tracked : table.Tracks now scope nonce
    · simp [NonceTable.use_of_tracks ahead tracked, answered, passed]
    · simp [NonceTable.use_of_not_tracks ahead tracked, answered, passed]

namespace Validator

section Used

variable {validator : Validator} {now stored expiry : Instant} {secretName : String}
  {request : Request} {reading : Reading} {lifetime : Span} (memory : validator.InMemory)
  (verifies : reading.Verifies validator now secretName request)
  (effective : validator.settings.effectiveLifetime? = some lifetime)
  (expires : (reading.timestamp.earlier now).add? lifetime = some expiry)

include memory verifies effective expires

/-- A request with a right signature ends in a fault of the store exactly when its expiry has
passed by the time its nonce is used. -/
theorem verify_fault_iff :
    (validator.verify now stored secretName request).outcome =
      .error (.refused .nonceStoreError) ↔ expiry ≤ stored := by
  rw [verify_of_expiry memory verifies effective expires,
    Delivery.answered_eq_nonceStoreError_iff]

/-- A first use is admitted exactly when its expiry is ahead by the time its nonce is used. -/
theorem verify_admitted_iff
    (unused : ¬ validator.table.Tracks stored secretName reading.nonce) :
    (validator.verify now stored secretName request).outcome =
      .ok (reading.delivery secretName request) ↔ stored < expiry := by
  rw [verify_of_expiry memory verifies effective expires, Delivery.answered_eq_ok_iff,
    NonceTable.use_eq_true_iff]
  simp [unused]

end Used

variable {validator : Validator} {now expiry : Instant} {secretName : String} {request : Request}
  {reading : Reading} {lifetime : Span}

/-- Where an expiry can be represented, it lies ahead of the clock exactly when the timestamp
has not lapsed. While the clock stands still the store then refuses no expiry, no request with
a right signature ends in a fault of the store, and one whose nonce is unused is admitted; with
a timestamp that has lapsed all of this fails. None has lapsed outside leap seconds, or where
nonces are remembered two seconds longer than the skew. Where the clock moves on until the nonce
is used, it is the expiry against the clock as it stands then that decides. -/
theorem signed_request_lapses_iff (memory : validator.InMemory)
    (verifies : reading.Verifies validator now secretName request)
    (effective : validator.settings.effectiveLifetime? = some lifetime)
    (expires : (reading.timestamp.earlier now).add? lifetime = some expiry) :
    (now < expiry ↔ ¬ validator.settings.Lapsed now reading.timestamp) ∧
      ((validator.table.use now secretName reading.nonce expiry).1 =
          .error (.expiryPassed expiry) ↔ validator.settings.Lapsed now reading.timestamp) ∧
      ((validator.verify now now secretName request).outcome =
          .error (.refused .nonceStoreError) ↔
        validator.settings.Lapsed now reading.timestamp) ∧
      (¬ validator.table.Tracks now secretName reading.nonce →
        ((validator.verify now now secretName request).outcome =
            .ok (reading.delivery secretName request) ↔
          ¬ validator.settings.Lapsed now reading.timestamp)) ∧
      (reading.timestamp.isLeap = false ∨
          validator.settings.clockSkew.nanoseconds + 2 * nanosPerSecond ≤
            validator.settings.nonceLifetime.nanoseconds →
        ¬ validator.settings.Lapsed now reading.timestamp) ∧
      ∀ stored : Instant,
        ((validator.verify now stored secretName request).outcome =
            .error (.refused .nonceStoreError) ↔ expiry ≤ stored) ∧
          (¬ validator.table.Tracks stored secretName reading.nonce →
            ((validator.verify now stored secretName request).outcome =
                .ok (reading.delivery secretName request) ↔ stored < expiry)) := by
  have near := verifies.checks.near
  have lapsed_iff := Settings.expiry_le_iff effective expires near
  have fault (stored : Instant) :
      (validator.verify now stored secretName request).outcome =
        .error (.refused .nonceStoreError) ↔ expiry ≤ stored :=
    verify_fault_iff memory verifies effective expires
  have admitted (stored : Instant)
      (unused : ¬ validator.table.Tracks stored secretName reading.nonce) :
      (validator.verify now stored secretName request).outcome =
        .ok (reading.delivery secretName request) ↔ stored < expiry :=
    verify_admitted_iff memory verifies effective expires unused
  refine ⟨?expiry, ?store, ?fault, ?admitted, ?room, fun stored =>
    ⟨fault stored, admitted stored⟩⟩
  case expiry => rw [← lapsed_iff, not_le]
  case store => rw [← lapsed_iff, NonceTable.use_eq_expiryPassed_iff]
  case fault => rw [← lapsed_iff, fault]
  case admitted =>
    intro unused
    rw [← lapsed_iff, not_le, admitted now unused]
  case room =>
    rintro (regular | roomy) lapsed
    · cases lapsed <;> simp_all
    · exact Settings.not_lapsed_of_roomy near roomy lapsed

end Validator

/-- The secret of the senders below. -/
def testSecret : Secret := ⟨Bytes.ofText "whsec_test"⟩

namespace Draft

/-- A draft that is signed in the leap second at the end of 2016. -/
def yearEnd : Draft where
  method := "POST"
  target := "/hook"
  timestampValue := Bytes.ofText "2016-12-31T23:59:60Z"
  rawTimestamp := "2016-12-31T23:59:60Z"
  timestamp := ⟨1483228799, 1000000000, by decide⟩
  nonceValue := Bytes.ofText "nonce-1"
  nonce := "nonce-1"
  body := Bytes.ofText "\x7b\"event\":\"x\"\x7d"

/-- The end of the first five minutes of 2017. -/
def newYear : Instant := ⟨1483229100, 0, by decide⟩

theorem yearEnd_verifies (seconds : Nat) :
    (yearEnd.reading testSecret).Verifies
      (Validator.fresh (.remembering seconds) "webhooks/test" testSecret) newYear "webhooks/test"
      (yearEnd.request (.remembering seconds) testSecret) := by
  have fits : yearEnd.body.length ≤ Settings.standard.maxBodyBytes := by decide
  have near : (newYear.since yearEnd.timestamp).nanoseconds.natAbs ≤
      Settings.standard.clockSkew.nanoseconds := by decide
  have sendable : yearEnd.Sendable (.remembering seconds) :=
    ⟨Header.readsAs_ofText (by decide) (by decide), by decide +kernel,
      Header.readsAs_ofText (by decide) (by decide), fits⟩
  exact ⟨Validator.fresh_resolves,
    checks (Settings.remembering_distinctHeaders seconds) sendable near⟩

end Draft

namespace Validator

open Draft (yearEnd newYear)

/-- Where nonces are remembered for as long as timestamps are accepted, a request signed in a
leap second is refused for an expiry that has come, five minutes to the nanosecond later. -/
theorem leap_second_request_refused :
    timestamp? yearEnd.rawTimestamp = some yearEnd.timestamp ∧
      (Settings.remembering 300).Near newYear yearEnd.timestamp ∧
      (∃ lifetime expiry, (Settings.remembering 300).effectiveLifetime? = some lifetime ∧
        (yearEnd.timestamp.earlier newYear).add? lifetime = some expiry ∧ ¬ newYear < expiry) ∧
      ((fresh (.remembering 300) "webhooks/test" testSecret).verify newYear newYear "webhooks/test"
        (yearEnd.request (.remembering 300) testSecret)).outcome =
          .error (.refused .nonceStoreError) := by
  have verifies := Draft.yearEnd_verifies 300
  have effective : (Settings.remembering 300).effectiveLifetime? = some ⟨301000000000⟩ := by decide
  have expires : (yearEnd.timestamp.earlier newYear).add? ⟨301000000000⟩ = some newYear := by
    decide
  refine ⟨verifies.checks.timestamp, verifies.checks.near,
    ⟨_, _, effective, expires, lt_irrefl _⟩, ?_⟩
  rw [verify_of_expiry fresh_inMemory verifies effective expires,
    NonceTable.use_of_passed (le_refl newYear)]
  rfl

/-- Two seconds more of remembrance and the request is admitted. -/
theorem leap_second_request_admitted :
    (fresh (.remembering 302) "webhooks/test" testSecret).InMemory ∧
      (yearEnd.reading testSecret).Verifies
        (fresh (.remembering 302) "webhooks/test" testSecret) newYear "webhooks/test"
        (yearEnd.request (.remembering 302) testSecret) ∧
      ((fresh (.remembering 302) "webhooks/test" testSecret).verify newYear newYear "webhooks/test"
        (yearEnd.request (.remembering 302) testSecret)).outcome =
          .ok ((yearEnd.reading testSecret).delivery "webhooks/test"
            (yearEnd.request (.remembering 302) testSecret)) := by
  have verifies := Draft.yearEnd_verifies 302
  have effective : (Settings.remembering 302).effectiveLifetime? = some ⟨302000000000⟩ := by decide
  have expires : (yearEnd.timestamp.earlier newYear).add? ⟨302000000000⟩ =
      some ⟨1483229101, 0, by decide⟩ := by decide
  obtain ⟨_, _, _, admitted, room, _⟩ :=
    signed_request_lapses_iff fresh_inMemory verifies effective expires
  refine ⟨fresh_inMemory, verifies, (admitted ?_).mpr (room (.inr (by decide)))⟩
  rintro ⟨entry, member, _⟩
  cases member

end Validator
end Admission.Webhook
