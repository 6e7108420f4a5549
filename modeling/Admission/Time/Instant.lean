/-!
# Instants and spans

An instant is a second of the Unix count together with nanoseconds into it. A
leap second is the last second of its minute with a thousand million or more
nanoseconds. Instants lie in the years -262143 to 262142; arithmetic that would
leave them has no result.
-/

namespace Admission

/-- Nanoseconds in a second. -/
def nanosPerSecond : Nat := 1000000000

/-- A signed length of time. -/
structure Span where
  nanoseconds : Int
deriving DecidableEq, Repr

namespace Span

instance : LE Span := ⟨fun left right => left.nanoseconds ≤ right.nanoseconds⟩
instance : LT Span := ⟨fun left right => left.nanoseconds < right.nanoseconds⟩

instance (left right : Span) : Decidable (left ≤ right) :=
  inferInstanceAs (Decidable (left.nanoseconds ≤ right.nanoseconds))

instance (left right : Span) : Decidable (left < right) :=
  inferInstanceAs (Decidable (left.nanoseconds < right.nanoseconds))

/-- The longest span: 2⁶³ - 1 milliseconds. -/
def longest : Span := ⟨9223372036854775807 * 1000000⟩

/-- The span without its direction. -/
def magnitude (span : Span) : Span := ⟨span.nanoseconds.natAbs⟩

/-- The shorter of two spans. -/
def shorter (left right : Span) : Span := if left ≤ right then left else right

/-- A whole number of seconds, cut at the longest span. -/
def ofSeconds (seconds : Int) : Span :=
  shorter ⟨seconds * nanosPerSecond⟩ longest

/-- Half of a span, rounded down. -/
def half (span : Span) : Span := ⟨span.nanoseconds / 2⟩

/-- Whole seconds, rounded toward zero. -/
def wholeSeconds (span : Span) : Int := span.nanoseconds.tdiv nanosPerSecond

/-- What remains beside the whole seconds, with the sign of the span. -/
def restNanos (span : Span) : Int := span.nanoseconds.tmod nanosPerSecond

/-- Whole milliseconds, rounded toward zero. -/
def wholeMillis (span : Span) : Int := span.nanoseconds.tdiv 1000000

end Span

/-- A length of time without direction. -/
structure Duration where
  nanoseconds : Nat
deriving DecidableEq, Repr

namespace Duration

/-- A whole number of seconds. -/
def seconds (count : Nat) : Duration := ⟨count * nanosPerSecond⟩

/-- A whole number of milliseconds. -/
def milliseconds (count : Nat) : Duration := ⟨count * 1000000⟩

/-- Seconds without the fraction. -/
def wholeSeconds (duration : Duration) : Nat := duration.nanoseconds / nanosPerSecond

/-- Milliseconds without the fraction. -/
def wholeMillis (duration : Duration) : Nat := duration.nanoseconds / 1000000

/-- The longest duration counts its seconds in 64 bits. -/
def limit : Nat := Nat.pow 2 64 * nanosPerSecond

/-- The sum of two durations, when it stays below the limit. -/
def add? (left right : Duration) : Option Duration :=
  if left.nanoseconds + right.nanoseconds < limit then
    some ⟨left.nanoseconds + right.nanoseconds⟩
  else none

/-- The longer of two durations. -/
def longer (left right : Duration) : Duration := ⟨max left.nanoseconds right.nanoseconds⟩

/-- The shorter of two durations. -/
def shorter (left right : Duration) : Duration := ⟨min left.nanoseconds right.nanoseconds⟩

/-- The span of a duration, cut at the longest span. -/
def span (duration : Duration) : Span := Span.shorter ⟨duration.nanoseconds⟩ .longest

end Duration

namespace Instant

/-- The first representable second: -262143-01-01T00:00:00Z. -/
def firstSecond : Int := -8334601228800

/-- The last representable second: +262142-12-31T23:59:59Z. -/
def lastSecond : Int := 8210266876799

/-- Which seconds and nanoseconds denote an instant. -/
def Valid (second : Int) (nano : Nat) : Prop :=
  (firstSecond ≤ second ∧ second ≤ lastSecond) ∧
    (nano < nanosPerSecond ∨ nano < 2 * nanosPerSecond ∧ second % 60 = 59)

instance (second : Int) (nano : Nat) : Decidable (Valid second nano) :=
  inferInstanceAs (Decidable (_ ∧ _))

end Instant

/-- A point of time, leap seconds included. -/
@[ext] structure Instant where
  second : Int
  nano : Nat
  valid : Instant.Valid second nano
deriving DecidableEq, Repr

namespace Instant

/-- The instant at a second and nanoseconds, when they denote one. -/
def of? (second : Int) (nano : Nat) : Option Instant :=
  if valid : Valid second nano then some ⟨second, nano, valid⟩ else none

/-- The start of the Unix count. -/
def epoch : Instant := ⟨0, 0, by decide⟩

/-- Earlier seconds come first, then fewer nanoseconds. -/
protected def lt (left right : Instant) : Prop :=
  left.second < right.second ∨ left.second = right.second ∧ left.nano < right.nano

instance : LT Instant := ⟨Instant.lt⟩
instance : LE Instant := ⟨fun left right => ¬ right < left⟩

instance (left right : Instant) : Decidable (left < right) :=
  inferInstanceAs (Decidable (_ ∨ _))

instance (left right : Instant) : Decidable (left ≤ right) :=
  inferInstanceAs (Decidable (¬ _))

/-- The earlier of two instants. -/
def earlier (left right : Instant) : Instant := if right < left then right else left

/-- The second of the day, counted from midnight. -/
def secondOfDay (instant : Instant) : Int := instant.second % 86400

/-- Whether the instant lies inside a leap second. -/
def isLeap (instant : Instant) : Bool := nanosPerSecond ≤ instant.nano

/-- The span from `origin` to `instant`. A leap second that lies between the two
times of day counts as one second more. -/
def since (instant origin : Instant) : Span :=
  let leap : Int :=
    if origin.secondOfDay < instant.secondOfDay ∧ origin.isLeap then 1
    else if instant.secondOfDay < origin.secondOfDay ∧ instant.isLeap then -1
    else 0
  ⟨(instant.second - origin.second + leap) * nanosPerSecond + (instant.nano - origin.nano)⟩

/-- The instant a span later. Inside a leap second a move of less than a second
that stays in it only moves the nanoseconds; any other move leaves the leap
second first. -/
def add? (instant : Instant) (span : Span) : Option Instant :=
  let seconds := span.wholeSeconds
  let nanos := span.restNanos
  let shift (second nano : Int) : Option Instant :=
    let second := second + seconds
    let nano := nano + nanos
    if nano < 0 then of? (second - 1) (nano + nanosPerSecond).toNat
    else if nanosPerSecond ≤ nano then of? (second + 1) (nano - nanosPerSecond).toNat
    else of? second nano.toNat
  if instant.isLeap then
    if 0 < seconds ∨ (0 < nanos ∧ 2 * nanosPerSecond - nanos ≤ instant.nano) then
      shift instant.second (instant.nano - nanosPerSecond)
    else if seconds < 0 then
      shift (instant.second + 1) (instant.nano - nanosPerSecond)
    else of? instant.second (instant.nano + nanos).toNat
  else shift instant.second instant.nano

/-- Whole milliseconds of the Unix count. -/
def millis (instant : Instant) : Int := instant.second * 1000 + (instant.nano / 1000000 : Nat)

end Instant
end Admission
