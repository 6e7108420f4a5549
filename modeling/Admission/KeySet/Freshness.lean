import Admission.Http.Header
import Admission.Time.Rfc2822

/-!
# Freshness

How long a fetched document stays valid, by its caching headers, and what that
means for the instants at which it is to be fetched again.
-/

namespace Admission.Freshness

/-- The seconds that a directive grants as its maximal age. -/
def maxAge? (directive : List Char) : Option Int := do
  let (name, value) ← Text.splitOnce? '=' (Text.trimSymbols directive)
  if Text.sameIgnoringCase (String.ofList (Text.trimSymbols name)) "max-age" then
    let quoted := Text.trimSymbols value
    let isQuote (symbol : Char) : Bool := symbol = '"'
    let bare := ((quoted.dropWhile isQuote).reverse.dropWhile isQuote).reverse
    Decimal.integer64? (String.ofList bare)
  else none

/-- The validity granted by the first maximal age that is a number. -/
def cacheControl? (headers : List Header) : Option Span := do
  let value ← Header.firstText? headers "cache-control"
  let seconds ← (Text.split ',' value).findSome? maxAge?
  if 0 < seconds then some (.ofSeconds seconds) else none

/-- The validity granted by a date of expiry. -/
def expires? (headers : List Header) (now : Instant) : Option Span := do
  let value ← Header.firstText? headers "expires"
  let expiry ← Rfc2822.read? (Text.trimSymbols value)
  let validity := expiry.since now
  if 0 < validity.nanoseconds then some validity else none

/-- The validity that caching headers grant. -/
def granted? (headers : List Header) (now : Instant) : Option Span :=
  (cacheControl? headers).orElse fun _ => expires? headers now

/-- The instants at which a document expires and at which it is fetched ahead. -/
structure Window where
  expiry : Instant
  prefetchAt : Instant
deriving DecidableEq, Repr

/-- The window of a validity, when its ends are instants. -/
def window? (now : Instant) (validity : Span) : Option Window := do
  let expiry ← now.add? validity
  let prefetchAt ← now.add? validity.half
  return ⟨expiry, prefetchAt⟩

/-- The window of a response: the granted validity, or else the usual one, but
no more than the greatest. Where its ends are no instants the usual one is tried. -/
def responseWindow? (headers : List Header) (now : Instant) (usual greatest : Duration) :
    Option Window :=
  let validity := ((granted? headers now).getD usual.span).shorter greatest.span
  (window? now validity).orElse fun _ => window? now usual.span

end Admission.Freshness
