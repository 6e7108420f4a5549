import Admission.Proofs.Webhook.Signing

/-!
# Which requests are admitted

`Validator.verify_cases` tells every way verification can go with a store that
answers by its table: either it stops before the nonce and leaves the table
alone, or a reading verifies and its nonce is used. From it follows the exact
condition under which a request is admitted and what remains in the table then.
-/

namespace Admission.Webhook

/-- What the table's answer to the use of a nonce makes of a delivery. -/
def Delivery.answered (delivery : Delivery) : Except NonceFault Bool → Except Failure Delivery
  | .ok true => .ok delivery
  | .ok false => .error (.refused .nonceReplay)
  | .error (.unavailable _) => .error (.refused .nonceStoreUnavailable)
  | .error _ => .error (.refused .nonceStoreError)

theorem Delivery.answered_eq_ok_iff {delivery result : Delivery}
    {answer : Except NonceFault Bool} :
    delivery.answered answer = .ok result ↔ answer = .ok true ∧ result = delivery := by
  match answer with
  | .ok true => simp [answered, eq_comm]
  | .ok false => simp [answered]
  | .error (.unavailable _) => simp [answered]
  | .error (.expiryPassed _) => simp [answered]
  | .error (.failure _) => simp [answered]

namespace Validator

variable {validator : Validator} {asked stored : Instant} {secretName : String}
  {request : Request}

/-- The store answers by its table, within the time allowed for it. -/
structure InMemory (validator : Validator) : Prop where
  byTable : validator.nonces.behaviour = .memory
  prompt : validator.nonces.delay.nanoseconds ≤ validator.settings.nonceTimeout.nanoseconds

/-- The table of used nonces. -/
def table (validator : Validator) : NonceTable := validator.nonces.table

/-- The validator with another table of used nonces. -/
def withTable (validator : Validator) (table : NonceTable) : Validator :=
  { validator with nonces := { validator.nonces with table := table } }

/-- The lookup of a secret that verification begins with. -/
def lookup (validator : Validator) (secretName : String) : SecretCache.Lookup :=
  validator.cache.get validator.secretTimeout validator.source secretName

/-- The validator after looking up a secret. -/
def afterLookup (validator : Validator) (secretName : String) : Validator :=
  { validator with cache := (validator.lookup secretName).cache }

theorem InMemory.afterLookup (memory : validator.InMemory) :
    (validator.afterLookup secretName).InMemory :=
  ⟨memory.byTable, memory.prompt⟩

theorem InMemory.withTable {table : NonceTable} (memory : validator.InMemory) :
    (validator.withTable table).InMemory :=
  ⟨memory.byTable, memory.prompt⟩

/-- Without an expiry the nonce is not used. -/
theorem commit_of_none {signed : Signed} (endless : signed.expiry = none) :
    validator.commit stored signed = (.error (.refused .nonceStoreError), validator) := by
  rw [commit, endless]

/-- With an expiry the table decides. -/
theorem commit_of_some {signed : Signed} {expiry : Instant} (memory : validator.InMemory)
    (expires : signed.expiry = some expiry) :
    validator.commit stored signed =
      (Delivery.answered ⟨signed.metadata, signed.body⟩ (validator.table.use stored
          signed.metadata.secretName signed.metadata.nonce expiry).1,
        validator.withTable (validator.table.use stored signed.metadata.secretName
          signed.metadata.nonce expiry).2) := by
  have punctual := Nat.not_lt.mpr memory.prompt
  rw [commit, expires]
  simp only [NonceStore.use, memory.byTable, nonceRefusal?, punctual, if_false, table, withTable]
  generalize validator.nonces.table.use stored signed.metadata.secretName signed.metadata.nonce
    expiry = used
  obtain ⟨answer, _⟩ := used
  match answer with
  | .ok true => rfl
  | .ok false => rfl
  | .error (.unavailable _) => rfl
  | .error (.expiryPassed _) => rfl
  | .error (.failure _) => rfl

/-- Without its secret a request is refused. -/
theorem verify_of_unresolved {fault : SecretFault}
    (unresolved : (validator.lookup secretName).result = .error fault) :
    validator.verify asked stored secretName request =
      ⟨.error (.refused .secretUnavailable), validator.afterLookup secretName,
        (validator.lookup secretName).asked⟩ := by
  rw [lookup] at unresolved
  rw [verify]
  simp only [unresolved]
  rfl

/-- A request that fails a check before the nonce is refused by it. -/
theorem verify_of_unsigned {secret : Secret} {failure : Failure}
    (resolved : (validator.lookup secretName).result = .ok secret)
    (unsigned : checkSigned validator.settings secret secretName asked request = .error failure) :
    validator.verify asked stored secretName request =
      ⟨.error failure, validator.afterLookup secretName, (validator.lookup secretName).asked⟩ := by
  rw [lookup] at resolved
  rw [verify]
  simp only [resolved, unsigned]
  rfl

/-- A request with a right signature goes on to use its nonce. -/
theorem verify_of_signed {secret : Secret} {signed : Signed}
    (resolved : (validator.lookup secretName).result = .ok secret)
    (isSigned : checkSigned validator.settings secret secretName asked request = .ok signed) :
    validator.verify asked stored secretName request =
      ⟨((validator.afterLookup secretName).commit stored signed).1,
        ((validator.afterLookup secretName).commit stored signed).2,
        (validator.lookup secretName).asked⟩ := by
  rw [lookup] at resolved
  rw [verify]
  simp only [resolved, isSigned]
  rfl

/-- A request that does not come through to a right signature, or for which the
settings leave no lifetime, is rejected alike on every table, which stays as it was. -/
theorem verify_of_unverified
    (unverified : ∀ (reading : Reading) (lifetime : Span),
      reading.Verifies validator asked secretName request →
      validator.settings.effectiveLifetime? ≠ some lifetime) :
    ∃ failure, ∀ table : NonceTable,
      (validator.withTable table).verify asked stored secretName request =
        ⟨.error failure, (validator.afterLookup secretName).withTable table,
          (validator.lookup secretName).asked⟩ := by
  have sameLookup (table : NonceTable) :
      ((validator.withTable table).lookup secretName).result =
        (validator.lookup secretName).result := rfl
  cases resolved : (validator.lookup secretName).result with
  | error fault =>
      exact ⟨_, fun table => verify_of_unresolved ((sameLookup table).trans resolved)⟩
  | ok secret =>
      cases checked : checkSigned validator.settings secret secretName asked request with
      | error failure =>
          exact ⟨_, fun table => verify_of_unsigned ((sameLookup table).trans resolved) checked⟩
      | ok signed =>
          obtain ⟨reading, lifetime, rfl, checks, effective, _⟩ := checkSigned_eq_ok_iff.mp checked
          exact absurd effective (unverified reading lifetime
            ⟨SecretCache.get_result_eq_ok_iff.mp resolved, checks⟩)

section Verified

variable {reading : Reading} {lifetime : Span} {expiry : Instant}

/-- A reading that verifies stands every check before the nonce. -/
theorem checkSigned_of_verifies
    (verifies : reading.Verifies validator asked secretName request)
    (effective : validator.settings.effectiveLifetime? = some lifetime) :
    checkSigned validator.settings reading.secret secretName asked request =
      .ok ⟨(reading.delivery secretName request).metadata, reading.body,
        (reading.timestamp.earlier asked).add? lifetime⟩ :=
  checkSigned_eq_ok_iff.mpr ⟨reading, lifetime, rfl, verifies.checks, effective, rfl⟩

/-- Without an instant for its expiry the nonce is not used. -/
theorem verify_of_endless (verifies : reading.Verifies validator asked secretName request)
    (effective : validator.settings.effectiveLifetime? = some lifetime)
    (endless : (reading.timestamp.earlier asked).add? lifetime = none) :
    validator.verify asked stored secretName request =
      ⟨.error (.refused .nonceStoreError), validator.afterLookup secretName,
        (validator.lookup secretName).asked⟩ := by
  rw [verify_of_signed (SecretCache.get_result_eq_ok_iff.mpr verifies.secret)
    (checkSigned_of_verifies verifies effective), commit_of_none endless]

/-- With an expiry the table decides on the nonce. -/
theorem verify_of_expiry (memory : validator.InMemory)
    (verifies : reading.Verifies validator asked secretName request)
    (effective : validator.settings.effectiveLifetime? = some lifetime)
    (expires : (reading.timestamp.earlier asked).add? lifetime = some expiry) :
    validator.verify asked stored secretName request =
      ⟨(reading.delivery secretName request).answered
          (validator.table.use stored secretName reading.nonce expiry).1,
        (validator.afterLookup secretName).withTable
          (validator.table.use stored secretName reading.nonce expiry).2,
        (validator.lookup secretName).asked⟩ := by
  rw [verify_of_signed (SecretCache.get_result_eq_ok_iff.mpr verifies.secret)
    (checkSigned_of_verifies verifies effective), commit_of_some memory.afterLookup expires]
  rfl

end Verified

/-- Verification either stops before the nonce, with the table as it was, or uses
the nonce of the one reading that verifies. -/
theorem verify_cases (memory : validator.InMemory) (asked stored : Instant) (secretName : String)
    (request : Request) :
    (∃ failure, (validator.verify asked stored secretName request).outcome = .error failure ∧
        (validator.verify asked stored secretName request).validator =
          validator.afterLookup secretName ∧
        ∀ (reading : Reading) (lifetime : Span) (expiry : Instant),
          reading.Verifies validator asked secretName request →
          validator.settings.effectiveLifetime? = some lifetime →
          (reading.timestamp.earlier asked).add? lifetime ≠ some expiry) ∨
      ∃ (reading : Reading) (lifetime : Span) (expiry : Instant),
        reading.Verifies validator asked secretName request ∧
        validator.settings.effectiveLifetime? = some lifetime ∧
        (reading.timestamp.earlier asked).add? lifetime = some expiry ∧
        (validator.verify asked stored secretName request).outcome =
          (reading.delivery secretName request).answered
            (validator.table.use stored secretName reading.nonce expiry).1 ∧
        (validator.verify asked stored secretName request).validator =
          (validator.afterLookup secretName).withTable
            (validator.table.use stored secretName reading.nonce expiry).2 := by
  by_cases verified : ∃ (reading : Reading) (lifetime : Span),
      reading.Verifies validator asked secretName request ∧
      validator.settings.effectiveLifetime? = some lifetime
  · obtain ⟨reading, lifetime, verifies, effective⟩ := verified
    cases expires : (reading.timestamp.earlier asked).add? lifetime with
    | none =>
        have stopped : validator.verify asked stored secretName request = _ :=
          verify_of_endless verifies effective expires
        refine .inl ⟨_, by rw [stopped], by rw [stopped], ?_⟩
        intro other otherLifetime expiry otherVerifies otherEffective
        rw [otherVerifies.unique verifies,
          ← Option.some.inj (effective.symm.trans otherEffective), expires]
        exact (Option.some_ne_none expiry).symm
    | some expiry =>
        have used : validator.verify asked stored secretName request = _ :=
          verify_of_expiry memory verifies effective expires
        exact .inr ⟨reading, lifetime, expiry, verifies, effective, expires, by rw [used],
          by rw [used]⟩
  · -- Rejection before the nonce holds on every table, on the validator's own as well.
    have unverified : ∀ (reading : Reading) (lifetime : Span),
        reading.Verifies validator asked secretName request →
        validator.settings.effectiveLifetime? ≠ some lifetime :=
      fun reading lifetime verifies effective => verified ⟨reading, lifetime, verifies, effective⟩
    obtain ⟨failure, rejected⟩ := verify_of_unverified unverified
    have stopped := rejected validator.table
    refine .inl ⟨failure, congrArg Verdict.outcome stopped, congrArg Verdict.validator stopped, ?_⟩
    intro reading lifetime _ verifies effective
    exact absurd effective (unverified reading lifetime verifies)

/-- A request is admitted exactly when a reading of it verifies and is usable; the
delivery tells what was read. -/
theorem verify_eq_ok_iff (memory : validator.InMemory) {delivery : Delivery} :
    (validator.verify asked stored secretName request).outcome = .ok delivery ↔
      ∃ (reading : Reading) (lifetime : Span) (expiry : Instant),
        reading.Verifies validator asked secretName request ∧
        validator.settings.effectiveLifetime? = some lifetime ∧
        reading.Usable validator.table asked stored secretName lifetime expiry ∧
        delivery = reading.delivery secretName request := by
  rcases verify_cases memory asked stored secretName request with
    ⟨failure, outcome, _, unusable⟩ |
      ⟨reading, lifetime, expiry, verifies, effective, expires, outcome, _⟩
  · rw [outcome]
    simp only [reduceCtorEq, false_iff]
    rintro ⟨reading, lifetime, expiry, verifies, effective, usable, _⟩
    exact unusable reading lifetime expiry verifies effective usable.expires
  · rw [outcome, Delivery.answered_eq_ok_iff, NonceTable.use_eq_true_iff]
    constructor
    · rintro ⟨⟨ahead, unused⟩, rfl⟩
      exact ⟨reading, lifetime, expiry, verifies, effective, ⟨expires, ahead, unused⟩, rfl⟩
    · rintro ⟨other, otherLifetime, otherExpiry, otherVerifies, otherEffective, usable, rfl⟩
      obtain rfl := otherVerifies.unique verifies
      obtain rfl := Option.some.inj (effective.symm.trans otherEffective)
      obtain rfl := Option.some.inj (expires.symm.trans usable.expires)
      exact ⟨⟨usable.ahead, usable.unused⟩, rfl⟩

/-- Admitting a request sweeps the table and adds the entry of its nonce. -/
theorem verify_validator_of_usable {reading : Reading} {lifetime : Span} {expiry : Instant}
    (memory : validator.InMemory) (verifies : reading.Verifies validator asked secretName request)
    (effective : validator.settings.effectiveLifetime? = some lifetime)
    (usable : reading.Usable validator.table asked stored secretName lifetime expiry) :
    (validator.verify asked stored secretName request).validator =
      (validator.afterLookup secretName).withTable
        ⟨⟨secretName, reading.nonce, expiry⟩ :: (validator.table.live stored).entries⟩ := by
  rw [verify_of_expiry memory verifies effective usable.expires,
    NonceTable.use_of_not_tracks usable.ahead usable.unused]

/-- A request is admitted exactly when its secret resolves, it comes through to a
right signature, and its nonce has an expiry ahead and no living use. Admitting it
delivers what was read, drops the expired entries and adds the entry of its nonce. -/
theorem verify_admits_iff (memory : validator.InMemory) {lifetime : Span}
    (effective : validator.settings.effectiveLifetime? = some lifetime) (asked stored : Instant)
    (secretName : String) (request : Request) :
    ((∃ delivery, (validator.verify asked stored secretName request).outcome = .ok delivery) ↔
        ∃ (reading : Reading) (expiry : Instant),
          reading.Verifies validator asked secretName request ∧
          reading.Usable validator.table asked stored secretName lifetime expiry) ∧
      ∀ delivery, (validator.verify asked stored secretName request).outcome = .ok delivery →
        ∃ (reading : Reading) (expiry : Instant),
          reading.Verifies validator asked secretName request ∧
          reading.Usable validator.table asked stored secretName lifetime expiry ∧
          delivery = reading.delivery secretName request ∧
          (validator.verify asked stored secretName request).validator =
            (validator.afterLookup secretName).withTable
              ⟨⟨secretName, reading.nonce, expiry⟩ :: (validator.table.live stored).entries⟩ := by
  have admitted : ∀ delivery,
      (validator.verify asked stored secretName request).outcome = .ok delivery →
        ∃ (reading : Reading) (expiry : Instant),
          reading.Verifies validator asked secretName request ∧
          reading.Usable validator.table asked stored secretName lifetime expiry ∧
          delivery = reading.delivery secretName request := by
    intro delivery outcome
    obtain ⟨reading, _, expiry, verifies, sameLifetime, usable, shape⟩ :=
      (verify_eq_ok_iff memory).mp outcome
    obtain rfl := Option.some.inj (effective.symm.trans sameLifetime)
    exact ⟨reading, expiry, verifies, usable, shape⟩
  refine ⟨⟨?_, ?_⟩, ?_⟩
  · rintro ⟨delivery, outcome⟩
    obtain ⟨reading, expiry, verifies, usable, _⟩ := admitted delivery outcome
    exact ⟨reading, expiry, verifies, usable⟩
  · rintro ⟨reading, expiry, verifies, usable⟩
    exact ⟨_, (verify_eq_ok_iff memory).mpr
      ⟨reading, lifetime, expiry, verifies, effective, usable, rfl⟩⟩
  · intro delivery outcome
    obtain ⟨reading, expiry, verifies, usable, shape⟩ := admitted delivery outcome
    exact ⟨reading, expiry, verifies, usable, shape,
      verify_validator_of_usable memory verifies effective usable⟩

/-- A validator that knows one secret and has seen no request. -/
def fresh (settings : Settings) (secretName : String) (secret : Secret) : Validator where
  settings := settings
  secretTimeout := defaultSecretTimeout
  source := .table [] ⟨0⟩
  cache := ⟨[(secretName, secret)]⟩
  nonces := .memory

theorem fresh_inMemory {settings : Settings} {secret : Secret} :
    (fresh settings secretName secret).InMemory :=
  ⟨rfl, Nat.zero_le _⟩

theorem fresh_resolves {settings : Settings} {secret : Secret} :
    (fresh settings secretName secret).cache.Resolves defaultSecretTimeout (.table [] ⟨0⟩)
      secretName secret :=
  .inl (by simp [fresh, SecretCache.cached?])

/-- A fresh validator admits a request that carries the timestamp of its clock and was signed
elsewhere, although its body takes four seconds to arrive. -/
theorem fresh_admits_first :
    (fresh .standard "hooks" ⟨[1]⟩).InMemory ∧
      Settings.standard.effectiveLifetime? = some ⟨600000000000⟩ ∧
      ∃ delivery, ((fresh .standard "hooks" ⟨[1]⟩).verify .epoch ⟨4, 0, by decide⟩ "hooks"
        ⟨"POST", "/hook",
          [⟨"x-signature", Bytes.ofText "ciOS2NjQFCYuswWGv0ZU27W5Zn2ysnX21/91a1OrGDs="⟩,
            ⟨"x-signature-timestamp", Bytes.ofText "0"⟩,
            ⟨"x-signature-nonce", Bytes.ofText "nonce"⟩],
          .complete []⟩).outcome = .ok delivery := by
  have effective : Settings.standard.effectiveLifetime? = some ⟨600000000000⟩ := by decide
  have checks : (Draft.first.reading ⟨[1]⟩).Checks .standard .epoch Draft.firstSent :=
    Draft.request_first ▸
      Draft.checks Settings.standard_distinctHeaders Draft.first_sendable (by decide)
  have usable : (Draft.first.reading ⟨[1]⟩).Usable .empty .epoch ⟨4, 0, by decide⟩ "hooks"
      ⟨600000000000⟩ ⟨600, 0, by decide⟩ := by
    refine ⟨by decide, by decide, ?_⟩
    rintro ⟨entry, member, _⟩
    cases member
  exact ⟨fresh_inMemory, effective,
    (verify_admits_iff fresh_inMemory effective .epoch ⟨4, 0, by decide⟩ "hooks"
      Draft.firstSent).1.mpr ⟨_, _, ⟨fresh_resolves, checks⟩, usable⟩⟩

end Validator
end Admission.Webhook
