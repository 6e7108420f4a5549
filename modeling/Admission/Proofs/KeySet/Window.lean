import Admission.Proofs.KeySet.Publication

/-!
# Windows of freshness

A window runs from the instant of a fetch: it is fetched ahead no earlier than that, and it
expires no earlier than it is fetched ahead. It ends by the greatest validity, whatever the
caching headers say, as long as that end is an instant; then the usual validity is never
fallen back on. All of this holds outside leap seconds.
-/

namespace Admission

theorem Duration.span_nonneg (duration : Duration) : 0 ≤ duration.span.nanoseconds := by
  have length := duration.span_nanoseconds
  simp only [Span.longest] at length
  omega

/-- Outside leap seconds the order of positions decides. -/
theorem Instant.le_iff_position_le {left right : Instant} (regularLeft : left.isLeap = false)
    (regularRight : right.isLeap = false) : left ≤ right ↔ left.position ≤ right.position := by
  rw [← not_lt, lt_iff_position_lt regularRight regularLeft, Int.not_lt]

/-- Outside leap seconds a shorter move forward arrives where a longer one does. -/
theorem Instant.exists_add?_of_le {instant latest : Instant} {shorter longer : Span}
    (regular : instant.isLeap = false) (forward : 0 ≤ shorter.nanoseconds)
    (within : shorter ≤ longer) (arrives : instant.add? longer = some latest) :
    ∃ earlier, instant.add? shorter = some earlier := by
  obtain ⟨regularLatest, position⟩ := (add?_eq_some_iff_of_regular regular).mp arrives
  rw [Span.le_def] at within
  have first := instant.position_bounds.1
  have last : latest.position < (lastSecond + 1) * nanosPerSecond := by
    have seconds := latest.valid.1
    rw [isLeap_eq_false_iff] at regularLatest
    simp only [Instant.position, lastSecond, firstSecond, nanosPerSecond] at *
    omega
  have lower : firstSecond * nanosPerSecond ≤ instant.position + shorter.nanoseconds := by omega
  have upper : instant.position + shorter.nanoseconds < (lastSecond + 1) * nanosPerSecond := by
    omega
  obtain ⟨earlier, regularEarlier, same⟩ := exists_position lower upper
  exact ⟨earlier, (add?_eq_some_iff_of_regular regular).mpr ⟨regularEarlier, same⟩⟩

namespace Freshness

variable {headers : List Header} {now : Instant} {validity : Span} {usual greatest : Duration}
  {window : Window}

/-- The validity that caching headers grant is longer than nothing. -/
theorem granted?_pos (granted : granted? headers now = some validity) :
    0 < validity.nanoseconds := by
  unfold granted? at granted
  cases controlled : cacheControl? headers with
  | some span =>
      rw [controlled] at granted
      cases granted
      simp only [cacheControl?, Option.bind_eq_bind, Option.bind_eq_some_iff] at controlled
      obtain ⟨_, _, seconds, _, counted⟩ := controlled
      split at counted
      · rename_i positive
        cases counted
        simp only [Span.ofSeconds, Span.shorter_nanoseconds, Span.longest, nanosPerSecond]
        omega
      · cases counted
  | none =>
      rw [controlled] at granted
      simp only [Option.orElse, expires?, Option.bind_eq_bind, Option.bind_eq_some_iff] at granted
      obtain ⟨_, _, _, _, left⟩ := granted
      split at left
      · rename_i positive
        cases left
        exact positive
      · cases left

/-- The validity that a response is given: no more than the greatest. -/
def validityOf (headers : List Header) (now : Instant) (usual greatest : Duration) : Span :=
  ((granted? headers now).getD usual.span).shorter greatest.span

theorem validityOf_le : validityOf headers now usual greatest ≤ greatest.span := by
  rw [Span.le_def, validityOf, Span.shorter_nanoseconds]
  exact Int.min_le_right _ _

theorem validityOf_nonneg : 0 ≤ (validityOf headers now usual greatest).nanoseconds := by
  rw [validityOf, Span.shorter_nanoseconds]
  have most := greatest.span_nonneg
  cases granted : granted? headers now with
  | none =>
      have least := usual.span_nonneg
      simp only [Option.getD_none]
      omega
  | some validity =>
      have least := granted?_pos granted
      simp only [Option.getD_some]
      omega

/-- The window of a response has the length of its validity, or else the usual one. -/
theorem responseWindow?_eq :
    responseWindow? headers now usual greatest =
      (window? now (validityOf headers now usual greatest)).or (window? now usual.span) := by
  simp only [responseWindow?, validityOf, Option.orElse_eq_or]

/-- A window forward begins at its instant and is fetched ahead before it expires. -/
theorem window?_ordered (regular : now.isLeap = false) (forward : 0 ≤ validity.nanoseconds)
    (granted : window? now validity = some window) :
    now ≤ window.prefetchAt ∧ window.prefetchAt ≤ window.expiry := by
  simp only [window?, Option.bind_eq_bind, Option.bind_eq_some_iff, Option.pure_def,
    Option.some.injEq] at granted
  obtain ⟨expiry, ends, prefetchAt, halves, rfl⟩ := granted
  obtain ⟨regularEnd, positionEnd⟩ := (Instant.add?_eq_some_iff_of_regular regular).mp ends
  obtain ⟨regularHalf, positionHalf⟩ := (Instant.add?_eq_some_iff_of_regular regular).mp halves
  rw [Span.half] at positionHalf
  rw [Instant.le_iff_position_le regular regularHalf,
    Instant.le_iff_position_le regularHalf regularEnd]
  constructor <;> simp only at positionHalf <;> omega

/-- A window is as long as some validity, and is fetched ahead in the middle of it. -/
theorem responseWindow?_positions (regular : now.isLeap = false)
    (granted : responseWindow? headers now usual greatest = some window) :
    window.expiry.isLeap = false ∧ window.prefetchAt.isLeap = false ∧
      ∃ length : Int, window.expiry.position = now.position + length ∧
        window.prefetchAt.position = now.position + length / 2 := by
  have positions {validity : Span} (granted : window? now validity = some window) :
      window.expiry.isLeap = false ∧ window.prefetchAt.isLeap = false ∧
        ∃ length : Int, window.expiry.position = now.position + length ∧
          window.prefetchAt.position = now.position + length / 2 := by
    simp only [window?, Option.bind_eq_bind, Option.bind_eq_some_iff, Option.pure_def,
      Option.some.injEq] at granted
    obtain ⟨expiry, ends, prefetchAt, halves, rfl⟩ := granted
    obtain ⟨regularEnd, positionEnd⟩ := (Instant.add?_eq_some_iff_of_regular regular).mp ends
    obtain ⟨regularHalf, positionHalf⟩ := (Instant.add?_eq_some_iff_of_regular regular).mp halves
    exact ⟨regularEnd, regularHalf, validity.nanoseconds, positionEnd, positionHalf⟩
  rw [responseWindow?_eq] at granted
  rcases Option.or_eq_some_iff.mp granted with own | ⟨_, fallback⟩
  · exact positions own
  · exact positions fallback

/-- A window within the greatest validity is granted where the greatest validity ends at an
instant, and expires by then. -/
theorem window?_capped {latest : Instant} (regular : now.isLeap = false)
    (forward : 0 ≤ validity.nanoseconds) (within : validity ≤ greatest.span)
    (ends : now.add? greatest.span = some latest) :
    ∃ window, window? now validity = some window ∧ window.expiry ≤ latest := by
  obtain ⟨expiry, expires⟩ := Instant.exists_add?_of_le regular forward within ends
  have half : validity.half ≤ validity ∧ 0 ≤ validity.half.nanoseconds := by
    rw [Span.le_def, Span.half]
    simp only
    omega
  obtain ⟨prefetchAt, halves⟩ := Instant.exists_add?_of_le regular half.2 half.1 expires
  refine ⟨⟨expiry, prefetchAt⟩, by simp [window?, expires, halves], ?_⟩
  obtain ⟨regularEnd, positionEnd⟩ := (Instant.add?_eq_some_iff_of_regular regular).mp expires
  obtain ⟨regularLatest, positionLatest⟩ := (Instant.add?_eq_some_iff_of_regular regular).mp ends
  rw [Span.le_def] at within
  rw [Instant.le_iff_position_le regularEnd regularLatest]
  omega

/-- The window of a response begins at the fetch, is fetched ahead before it expires, and
expires by the greatest validity. -/
theorem responseWindow?_bounds (regular : now.isLeap = false)
    (granted : responseWindow? headers now usual greatest = some window) :
    now ≤ window.prefetchAt ∧ window.prefetchAt ≤ window.expiry ∧
      ∀ latest, now.add? greatest.span = some latest → window.expiry ≤ latest := by
  rw [responseWindow?_eq] at granted
  have ordered : now ≤ window.prefetchAt ∧ window.prefetchAt ≤ window.expiry := by
    rcases Option.or_eq_some_iff.mp granted with own | ⟨_, fallback⟩
    · exact window?_ordered regular validityOf_nonneg own
    · exact window?_ordered regular usual.span_nonneg fallback
  refine ⟨ordered.1, ordered.2, fun latest ends => ?_⟩
  -- An end of the greatest validity leaves no room for the usual validity, which is not cut.
  obtain ⟨own, grantedOwn, expires⟩ :=
    window?_capped regular validityOf_nonneg validityOf_le ends
  rw [grantedOwn, Option.some_or, Option.some.injEq] at granted
  rwa [← granted]

end Freshness
end Admission
