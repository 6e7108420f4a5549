import Admission.KeySet.Cache
import Admission.Proofs.Bytes.Base64
import Admission.Proofs.Json.Writing
import Admission.Proofs.Time.Position

/-!
# Published documents

A document that lists keys, written the way endpoints write it, is read as these
keys. A cache that fetches such a document installs them.
-/

namespace Admission

/-- Bytes that read as a value read as it where only one member counts. -/
theorem Json.ofBytesKeeping?_of_read {bytes : Bytes} {value : Json} {kept : String}
    (read : ofBytes? bytes = some value) : ofBytesKeeping? kept bytes = some value := by
  rw [ofBytesKeeping?, read]
  rfl

variable {keyId : String} {key : RsaKey} {entries : List (String × RsaKey)}

namespace Jwk

/-- The members that publish a key for RS256 signatures. -/
def publishedMembers (keyId : String) (key : RsaKey) : List (String × Json) :=
  [("kid", .text keyId), ("kty", .text "RSA"), ("alg", .text "RS256"), ("use", .text "sig"),
    ("n", .text (Base64.text .urlSafe key.modulus)),
    ("e", .text (Base64.text .urlSafe key.exponent))]

theorem ofMembers?_publishedMembers :
    ofMembers? (Json.distinct (publishedMembers keyId key)) =
      some ⟨some keyId, some "sig", some "RS256",
        .rsa (Base64.text .urlSafe key.modulus) (Base64.text .urlSafe key.exponent)⟩ := by
  have distinct : Json.distinct (publishedMembers keyId key) = publishedMembers keyId key := by
    simp [Json.distinct, publishedMembers]
  rw [distinct]
  simp [publishedMembers, ofMembers?, optional?, Json.lookup?, Json.text?, algorithm?, Json.choice?,
    material?, choice?, required?, Json.once, Json.occurrences, materialNames, describingNames]

/-- A published entry is usable where its key has an identifier. -/
theorem usable?_published (named : keyId ≠ "") :
    usable? (.object (publishedMembers keyId key)) = some (keyId, key) := by
  simp [usable?, Json.members?, ofMembers?_publishedMembers, named, signingKey?, Base64.text,
    Base64.decode?_encode]

/-- A published entry is written so that it is read back. -/
theorem legible_published : Json.legible 125 (.object (publishedMembers keyId key)) = true := by
  simp [publishedMembers, Json.legible, Json.legibleMembers]

end Jwk

namespace KeySet

/-- The document that lists keys. -/
def document (entries : List (String × RsaKey)) : Json :=
  .object [("keys", .array (entries.map fun entry => .object (Jwk.publishedMembers entry.1 entry.2)))]

/-- The keys that a document lists, the last one of each identifier. -/
def listed (entries : List (String × RsaKey)) : KeySet :=
  entries.foldl (fun set entry => set.insert entry.1 entry.2) empty

/-- A document is written so that it is read back. -/
theorem legible_document : Json.legible Json.Reading.depthLimit (document entries) = true := by
  have all : Json.legibleItems 125
      (entries.map fun entry => .object (Jwk.publishedMembers entry.1 entry.2)) = true := by
    induction entries with
    | nil => rfl
    | cons entry entries inductionHypothesis =>
        simp [Json.legibleItems, Jwk.legible_published, inductionHypothesis]
  simp [document, Json.legible, Json.legibleMembers, Json.Reading.depthLimit, all]

/-- The entries of a document are all usable. -/
theorem ofEntries_published (named : ∀ entry ∈ entries, entry.1 ≠ "") :
    ofEntries (entries.map fun entry => .object (Jwk.publishedMembers entry.1 entry.2)) =
      listed entries := by
  unfold ofEntries listed
  generalize empty = set
  induction entries generalizing set with
  | nil => rfl
  | cons entry entries inductionHypothesis =>
      rw [List.map_cons, List.foldl_cons, List.foldl_cons,
        Jwk.usable?_published (named entry List.mem_cons_self)]
      exact inductionHypothesis (fun other member => named other (List.mem_cons_of_mem _ member)) _

/-- A published document is read as the keys it lists. -/
theorem ofDocument?_write (named : ∀ entry ∈ entries, entry.1 ≠ "") :
    ofDocument? (Bytes.ofText (Json.write (document entries))) = some (listed entries) := by
  have items : entries? (document entries) =
      some (entries.map fun entry => .object (Jwk.publishedMembers entry.1 entry.2)) := by
    simp [entries?, document, Json.items?]
  have read := Json.ofBytes?_write (@legible_document entries)
  simp [ofDocument?, Json.ofBytesKeeping?_of_read read, items, ofEntries_published named]

/-- A document that lists a key is not read as an empty set. -/
theorem listed_ne_nil (filled : entries ≠ []) : (listed entries).keys ≠ [] := by
  obtain ⟨earlier, last, rfl⟩ := entries.eq_nil_or_concat.resolve_left filled
  simp [listed, insert]

end KeySet

namespace Freshness

variable {now : Instant} {window : Window}

/-- A window ends where its validity does. -/
theorem window?_expiry {validity : Span} (granted : window? now validity = some window) :
    now.add? validity = some window.expiry := by
  simp only [window?, Option.bind_eq_bind, Option.bind_eq_some_iff, Option.pure_def,
    Option.some.injEq] at granted
  obtain ⟨expiry, ends, prefetchAt, _, rfl⟩ := granted
  exact ends

/-- Outside leap seconds the window of a response ends outside leap seconds. -/
theorem responseWindow?_regular {headers : List Header} {usual greatest : Duration}
    (granted : responseWindow? headers now usual greatest = some window)
    (regular : now.isLeap = false) : window.expiry.isLeap = false := by
  have ends : ∃ validity, window? now validity = some window := by
    simp only [responseWindow?] at granted
    cases own : window? now (((granted? headers now).getD usual.span).shorter greatest.span) with
    | some _ =>
        rw [own] at granted
        exact ⟨_, own.trans granted⟩
    | none =>
        rw [own] at granted
        exact ⟨_, granted⟩
  obtain ⟨validity, granted⟩ := ends
  exact ((Instant.add?_eq_some_iff_of_regular regular).mp (window?_expiry granted)).1

end Freshness

/-- A fetch brings keys exactly when it is answered with 200, a window that can be
represented and a document with usable keys. -/
theorem KeyCache.evaluate_eq_ok_iff {settings : KeyCache.Settings} {now : Instant} {reply : Reply}
    {keys : KeySet} {window : Freshness.Window} :
    evaluate settings now reply = .ok (keys, window) ↔
      ∃ headers body, reply = .answer 200 headers body ∧
        Freshness.responseWindow? headers now settings.defaultLifetime settings.maxLifetime =
          some window ∧
        KeySet.ofDocument? body = some keys ∧ keys.keys ≠ [] := by
  cases reply with
  | unreachable => simp [evaluate]
  | silent => simp [evaluate]
  | cutShort status headers =>
      simp only [evaluate, reduceCtorEq, false_and, exists_const, iff_false]
      split
      · simp
      · split <;> simp
  | answer status headers body =>
      by_cases accepted : status = 200
      · cases granted : Freshness.responseWindow? headers now settings.defaultLifetime
            settings.maxLifetime with
        | none => simp [evaluate, accepted, granted]
        | some granted =>
            cases read : KeySet.ofDocument? body with
            | none => simp [evaluate, *]
            | some listed =>
                by_cases filled : listed.keys = []
                · simp only [evaluate, accepted, granted, read, filled]
                  grind
                · simp only [evaluate, accepted, granted, read]
                  grind
      · simp [evaluate, accepted]

/-- The answer that publishes keys. -/
def Reply.publishing (headers : List Header) (entries : List (String × RsaKey)) : Reply :=
  .answer 200 headers (Bytes.ofText (Json.write (KeySet.document entries)))

/-- A cache takes the keys of a published document. -/
theorem KeyCache.evaluate_publishing {settings : KeyCache.Settings} {now : Instant}
    {headers : List Header} {window : Freshness.Window}
    (granted : Freshness.responseWindow? headers now settings.defaultLifetime
      settings.maxLifetime = some window)
    (filled : entries ≠ []) (named : ∀ entry ∈ entries, entry.1 ≠ "") :
    evaluate settings now (.publishing headers entries) = .ok (KeySet.listed entries, window) :=
  evaluate_eq_ok_iff.mpr
    ⟨headers, _, rfl, granted, KeySet.ofDocument?_write named, KeySet.listed_ne_nil filled⟩

end Admission
