import Admission.Application
import Admission.Proofs.Time.Rfc3339

/-!
# Timestamps written and read back

A timestamp is read as a date and time or as a count of seconds, and no text is both. What an
answer to a payment says of when its request was signed is read as the timestamp of the request,
whatever form this had, as long as its year has four digits.
-/

namespace Admission.Webhook

variable {instant : Instant} {raw : String} {count : Int}

/-! ## Dates and counts -/

/-- A count of seconds is no date and time. -/
theorem read?_eq_none_of_integer64? (counted : Decimal.integer64? raw = some count) :
    Rfc3339.read? raw.toList = none := by
  refine Option.eq_none_iff_forall_ne_some.mpr fun instant read => ?_
  -- One reader needs a hyphen in the fifth place, where the other takes nothing but a digit.
  obtain ⟨_, hyphen⟩ := Rfc3339.starts_of_read? read
  rw [← List.getElem?_tail] at hyphen
  have digit := Decimal.isDigit_of_integer64? counted '-' (List.mem_of_getElem? hyphen)
  exact absurd digit (by decide)

theorem timestamp?_of_integer64? (counted : Decimal.integer64? raw = some count) :
    timestamp? raw = Instant.of? count 0 := by
  rw [timestamp?, read?_eq_none_of_integer64? counted]
  simp only [counted, Option.bind_eq_bind, Option.bind_some]

theorem timestamp?_of_read? (read : Rfc3339.read? raw.toList = some instant) :
    timestamp? raw = some instant := by
  rw [timestamp?, read]

/-- A written instant is read back exactly if its year has four digits. -/
theorem timestamp?_write (instant : Instant) :
    timestamp? (Rfc3339.write instant) =
      if 0 ≤ instant.year ∧ instant.year ≤ 9999 then some instant else none := by
  split
  next four => exact timestamp?_of_read? (Rfc3339.read?_write four.1 four.2)
  next beyond =>
    obtain ⟨sign, others, written, signed, hyphen⟩ := Rfc3339.signed_of_write beyond
    have unread : Rfc3339.read? (Rfc3339.write instant).toList = none := by
      refine Option.eq_none_iff_forall_ne_some.mpr fun _ read => ?_
      have digit := (Rfc3339.starts_of_read? read).1 sign (by rw [written]; simp)
      rw [signed] at digit
      cases digit
    have uncounted : Decimal.integer64? (Rfc3339.write instant) = none := by
      refine Option.eq_none_iff_forall_ne_some.mpr fun _ counted => ?_
      have digit := Decimal.isDigit_of_integer64? counted '-' (by rw [written]; exact hyphen)
      exact absurd digit (by decide)
    rw [timestamp?, unread, uncounted]
    rfl

/-! ## Answers to payments -/

/-- What a response says of when a request was signed. -/
def signedAt? (response : Response) : Option String :=
  match response.content with
  | .json value => (value.member? "signed_at").bind Json.text?
  | _ => none

theorem signedAt?_refused (refusal : Refusal) : signedAt? refusal.response = none := rfl

/-- Only the answer to an accepted payment says when it was signed. -/
theorem signedAt?_takePayment {provider : List Char} {body : Bytes} {attached : Attached}
    (signed : signedAt? (Application.takePayment provider body attached).1 = some raw) :
    ∃ metadata, attached.webhook = .ok metadata ∧ raw = Rfc3339.write metadata.timestamp := by
  unfold Application.takePayment at signed
  split at signed
  · cases signed
  · split at signed
    · rw [signedAt?_refused] at signed
      cases signed
    · rename_i metadata found
      refine ⟨metadata, found, ?_⟩
      split at signed
      · cases signed
      · have told : some (Rfc3339.write metadata.timestamp) = some raw := signed
        exact (Option.some.inj told).symm

/-- Every instant is read back from its written form, to the nanosecond and within leap seconds,
if its year has four digits, and otherwise nothing is read. So the text of an answer to a payment
is read as the timestamp that the request was signed with. A count of seconds in 64 bits is read
as the instant so many seconds after the start of the Unix count, where there is one, and no text
of a count is read as a date and time. -/
theorem timestamps_read_back :
    (∀ instant : Instant, timestamp? (Rfc3339.write instant) =
        if 0 ≤ instant.year ∧ instant.year ≤ 9999 then some instant else none) ∧
      (∀ provider body attached raw,
        signedAt? (Application.takePayment provider body attached).1 = some raw →
        ∃ metadata, attached.webhook = .ok metadata ∧
          timestamp? raw =
            if 0 ≤ metadata.timestamp.year ∧ metadata.timestamp.year ≤ 9999 then
              some metadata.timestamp
            else none) ∧
      (∀ count : Int, -(Nat.pow 2 63 : Int) ≤ count → count < Nat.pow 2 63 →
        (∀ instant, timestamp? (toString count) = some instant ↔
          instant.second = count ∧ instant.nano = 0) ∧
        (timestamp? (toString count) = none ↔
          count < Instant.firstSecond ∨ Instant.lastSecond < count)) ∧
      ∀ raw count, Decimal.integer64? raw = some count → Rfc3339.read? raw.toList = none := by
  refine ⟨timestamp?_write, ?answered, ?counted, fun _ _ => read?_eq_none_of_integer64?⟩
  case answered =>
    intro provider body attached raw signed
    obtain ⟨metadata, found, rfl⟩ := signedAt?_takePayment signed
    exact ⟨metadata, found, timestamp?_write metadata.timestamp⟩
  case counted =>
    intro count lower upper
    rw [timestamp?_of_integer64? (Decimal.integer64?_toString lower upper)]
    refine ⟨fun instant => Instant.of?_eq_some_iff, ?_⟩
    have whole : Instant.Valid count 0 ↔
        Instant.firstSecond ≤ count ∧ count ≤ Instant.lastSecond :=
      and_iff_left (.inl (by decide))
    rw [Instant.of?_eq_none_iff, whole]
    omega

/-- Half a second into the leap second at the end of 2016. -/
def leapInstant : Instant := ⟨1483228799, 1500000000, by decide⟩

/-- What is known of a request that was signed then. -/
def leapMetadata : Metadata := ⟨"webhooks/test", leapInstant, "nonce-1", [], "signature"⟩

/-- The answer to a payment signed inside a leap second is read as that instant, and the count of
the first second that there is as this second, while the count before it and its digits are no
timestamp. -/
theorem leap_second_and_first_second_read_back :
    signedAt? (Application.takePayment ['t'] [] (Attached.nothing.withMetadata leapMetadata)).1 =
        some "2016-12-31T23:59:60.500Z" ∧
      timestamp? "2016-12-31T23:59:60.500Z" = some leapInstant ∧
      timestamp? "-8334601228800" = some ⟨-8334601228800, 0, by decide⟩ ∧
      timestamp? "-8334601228801" = none ∧
      Rfc3339.read? "-8334601228801".toList = none := by
  obtain ⟨_, answered, counted, apart⟩ := timestamps_read_back
  have signed : signedAt?
      (Application.takePayment ['t'] [] (Attached.nothing.withMetadata leapMetadata)).1 =
        some "2016-12-31T23:59:60.500Z" := by decide
  have first : toString (-8334601228800 : Int) = "-8334601228800" := by decide
  have before : toString (-8334601228801 : Int) = "-8334601228801" := by decide
  refine ⟨signed, ?_, ?_, ?_, ?_⟩
  · obtain ⟨metadata, found, told⟩ := answered ['t'] [] _ _ signed
    cases found
    rw [told]
    decide
  · rw [← first, (counted _ (by decide) (by decide)).1]
    exact ⟨rfl, rfl⟩
  · rw [← before, (counted _ (by decide) (by decide)).2]
    exact .inl (by decide)
  · exact apart _ (-8334601228801) (by decide)

end Admission.Webhook
