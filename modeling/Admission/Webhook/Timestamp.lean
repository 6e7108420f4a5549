import Admission.Time.Rfc3339

/-!
# Signed timestamps

A timestamp is a date and time as in RFC 3339, or a whole count of seconds of
the Unix count.
-/

namespace Admission.Webhook

/-- The instant a timestamp denotes. -/
def timestamp? (raw : String) : Option Instant :=
  match Rfc3339.read? raw.toList with
  | some instant => some instant
  | none => do
      let seconds ← Decimal.integer64? raw
      Instant.of? seconds 0

end Admission.Webhook
