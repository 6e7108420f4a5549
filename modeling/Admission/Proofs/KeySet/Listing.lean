import Admission.Proofs.Json.Members
import Admission.Proofs.KeySet.Publication

/-!
# What listed entries publish

`Jwk.Publishes` says on the members of an entry when it publishes a key, and
`KeySet.find?_ofEntries_iff` that of each identifier the last entry counts that publishes a key
for it. Entries that publish none can stand anywhere in a list (`KeySet.Padding`) without any
difference to what is read.
-/

namespace Admission

variable {keyId : String} {key : RsaKey} {value : Json} {entries padded : List Json}

namespace Jwk

variable {α : Type} {members : List (String × Json)} {name : String}

/-! ## Single entries -/

/-- The members of an entry publish an RSA key for RS256 signatures: they parse, with an
identifier, written forms of the key's numbers, and neither encryption as their purpose nor
another algorithm. -/
structure Declares (members : List (String × Json)) (keyId : String) (key : RsaKey) : Prop where
  parses : ∃ entry, ofMembers? members = some entry
  named : Json.lookup? members "kid" = some (.text keyId)
  nonempty : keyId ≠ ""
  kind : choice? members "kty" = some "RSA"
  modulus : Json.lookup? members "n" = some (.text (Base64.text .urlSafe key.modulus))
  exponent : Json.lookup? members "e" = some (.text (Base64.text .urlSafe key.exponent))
  purpose : Json.lookup? members "use" ≠ some (.text "enc")
  algorithm : ∀ value, Json.lookup? members "alg" = some value →
    value = .null ∨ algorithm? value = some "RS256"

/-- An entry publishes a key; of repeated members the last one counts. -/
def Publishes (value : Json) (keyId : String) (key : RsaKey) : Prop :=
  ∃ members, value = .object members ∧ Declares (Json.distinct members) keyId key

theorem required?_eq_some_iff {content : String} :
    required? members name = some content ↔
      Json.lookup? members name = some (.text content) := by
  simp only [required?, Option.bind_eq_bind, Option.bind_eq_some_iff, Json.text?_eq_some_iff]
  exact exists_eq_right

/-- A member that may be absent is there with what is read of it. -/
theorem optional?_eq_content_iff {read : Json → Option α} {content : α} :
    optional? members name read = some (some content) ↔
      ∃ value, Json.lookup? members name = some value ∧ value ≠ .null ∧
        read value = some content := by
  unfold optional?
  split <;> simp_all

/-- A member that may be absent is absent or null. -/
theorem optional?_eq_absent_iff {read : Json → Option α} :
    optional? members name read = some none ↔
      ∀ value, Json.lookup? members name = some value → value = .null := by
  unfold optional?
  split <;> simp_all

theorem optional?_eq_text_iff {content : String} :
    optional? members name Json.text? = some (some content) ↔
      Json.lookup? members name = some (.text content) := by
  rw [optional?_eq_content_iff]
  constructor
  · rintro ⟨value, found, _, read⟩
    rw [found, Json.text?_eq_some_iff.mp read]
  · intro found
    exact ⟨_, found, by simp, rfl⟩

/-- What an entry holds that parses. -/
theorem ofMembers?_eq_some {entry : Jwk} (parsed : ofMembers? members = some entry) :
    optional? members "kid" Json.text? = some entry.keyId ∧
      optional? members "use" Json.text? = some entry.purpose ∧
      optional? members "alg" algorithm? = some entry.algorithm ∧
      material? members = some entry.material := by
  simp only [ofMembers?, Option.bind_eq_bind, Option.bind_eq_some_iff] at parsed
  obtain ⟨purpose, purposeRead, _, _, algorithm, algorithmRead, named, namedRead, _, _, _, _, _, _,
    _, _, material, materialRead, parsed⟩ := parsed
  split at parsed
  · cases parsed
    exact ⟨namedRead, purposeRead, algorithmRead, materialRead⟩
  · cases parsed

/-- Key material is of the kind RSA only where the members say so, with both numbers. -/
theorem material?_eq_rsa {modulus exponent : String}
    (read : material? members = some (.rsa modulus exponent)) :
    choice? members "kty" = some "RSA" ∧ required? members "n" = some modulus ∧
      required? members "e" = some exponent := by
  simp only [material?, Option.bind_eq_bind, Option.bind_eq_some_iff] at read
  obtain ⟨kind, kindRead, read⟩ := read
  split at read
  · cases read
  · split at read
    · simp only [Option.bind_eq_some_iff, Option.pure_def, Option.some.injEq,
        KeyMaterial.rsa.injEq] at read
      obtain ⟨_, modulusRead, _, exponentRead, rfl, rfl⟩ := read
      exact ⟨kindRead, modulusRead, exponentRead⟩
    · simp only [Option.bind_eq_some_iff] at read
      obtain ⟨_, _, _, _, _, _, read⟩ := read
      split at read <;> cases read
    · simp only [Option.bind_eq_some_iff] at read
      obtain ⟨_, _, _, _, read⟩ := read
      split at read <;> cases read
    · simp only [Option.bind_eq_some_iff] at read
      obtain ⟨_, _, read⟩ := read
      cases read
    · cases read

/-- The numbers of an entry of the kind RSA make up its key material. -/
theorem material?_of_rsa {material : KeyMaterial} {modulus exponent : String}
    (kind : choice? members "kty" = some "RSA") (modulusRead : required? members "n" = some modulus)
    (exponentRead : required? members "e" = some exponent)
    (read : material? members = some material) : material = .rsa modulus exponent := by
  simp only [material?, Option.bind_eq_bind, kind, Option.bind_some, modulusRead, exponentRead,
    Option.pure_def] at read
  split at read
  · cases read
  · exact (Option.some.inj read).symm

/-- An entry has a key for signatures exactly when it is meant for nothing else and holds
written forms of the key's numbers. -/
theorem signingKey?_eq_some_iff {entry : Jwk} :
    entry.signingKey? = some key ↔
      entry.purpose ≠ some "enc" ∧ (entry.algorithm = none ∨ entry.algorithm = some "RS256") ∧
        entry.material =
          .rsa (Base64.text .urlSafe key.modulus) (Base64.text .urlSafe key.exponent) := by
  unfold signingKey?
  split
  · simp [*]
  · split
    · rename_i foreign
      simp only [reduceCtorEq, false_iff]
      rintro ⟨_, absent | own, _⟩
      · exact foreign.1 absent
      · exact foreign.2 own
    · rename_i other native
      have free : entry.algorithm = none ∨ entry.algorithm = some "RS256" := by
        rwa [not_and_or, not_not, not_not] at native
      split
      · simp [*]
      · rename_i modulus exponent material
        simp only [material, KeyMaterial.rsa.injEq, Base64.eq_text_iff, Option.bind_eq_bind,
          Option.bind_eq_some_iff, Option.pure_def, Option.some.injEq]
        constructor
        · rintro ⟨_, modulusRead, _, exponentRead, rfl⟩
          exact ⟨other, free, modulusRead, exponentRead⟩
        · rintro ⟨_, _, modulusRead, exponentRead⟩
          exact ⟨_, modulusRead, _, exponentRead, rfl⟩

theorem declares_iff :
    Declares members keyId key ↔ keyId ≠ "" ∧ ∃ entry, ofMembers? members = some entry ∧
      entry.keyId = some keyId ∧ entry.signingKey? = some key := by
  constructor
  · intro declares
    obtain ⟨entry, parsed⟩ := declares.parses
    obtain ⟨named, purpose, algorithm, material⟩ := ofMembers?_eq_some parsed
    refine ⟨declares.nonempty, entry, parsed, ?named, signingKey?_eq_some_iff.mpr
      ⟨?purpose, ?algorithm, ?material⟩⟩
    case named =>
      rw [optional?_eq_text_iff.mpr declares.named] at named
      exact (Option.some.inj named).symm
    case purpose =>
      intro encryption
      rw [encryption] at purpose
      exact declares.purpose (optional?_eq_text_iff.mp purpose)
    case algorithm =>
      cases stated : entry.algorithm with
      | none => exact .inl rfl
      | some name =>
          rw [stated] at algorithm
          obtain ⟨value, found, present, read⟩ := optional?_eq_content_iff.mp algorithm
          exact .inr (read.symm.trans ((declares.algorithm value found).resolve_left present))
    case material =>
      have modulus := required?_eq_some_iff.mpr declares.modulus
      have exponent := required?_eq_some_iff.mpr declares.exponent
      exact material?_of_rsa declares.kind modulus exponent material
  · rintro ⟨nonempty, entry, parsed, keyId, signs⟩
    obtain ⟨named, purpose, algorithm, material⟩ := ofMembers?_eq_some parsed
    obtain ⟨other, free, numbers⟩ := signingKey?_eq_some_iff.mp signs
    rw [numbers] at material
    obtain ⟨kind, modulus, exponent⟩ := material?_eq_rsa material
    refine ⟨⟨entry, parsed⟩, ?named, nonempty, kind, required?_eq_some_iff.mp modulus,
      required?_eq_some_iff.mp exponent, ?purpose, ?algorithm⟩
    case named => exact optional?_eq_text_iff.mp (keyId ▸ named)
    case purpose =>
      intro encryption
      rw [optional?_eq_text_iff.mpr encryption] at purpose
      exact other (Option.some.inj purpose).symm
    case algorithm =>
      intro value found
      rcases free with absent | own
      · exact .inl (optional?_eq_absent_iff.mp (absent ▸ algorithm) value found)
      · obtain ⟨_, again, _, read⟩ := optional?_eq_content_iff.mp (own ▸ algorithm)
        rw [found] at again
        exact .inr (Option.some.inj again ▸ read)

/-- A usable entry is one that publishes a key. -/
theorem usable?_eq_some_iff : usable? value = some (keyId, key) ↔ Publishes value keyId key := by
  simp only [usable?, Option.bind_eq_bind, Option.bind_eq_some_iff, Json.members?_eq_some_iff,
    Publishes, declares_iff]
  constructor
  · rintro ⟨members, listed, entry, parsed, named, keyIdRead, usable⟩
    split at usable
    · cases usable
    · rename_i nonempty
      simp only [Option.bind_eq_some_iff, Option.pure_def, Option.some.injEq, Prod.mk.injEq]
        at usable
      obtain ⟨_, signs, rfl, rfl⟩ := usable
      exact ⟨members, listed, by simpa using nonempty, entry, parsed, keyIdRead, signs⟩
  · rintro ⟨members, listed, nonempty, entry, parsed, keyIdRead, signs⟩
    refine ⟨members, listed, entry, parsed, keyId, keyIdRead, ?_⟩
    simp [nonempty, signs]

/-- An entry publishes one key at most, under one identifier. -/
theorem Publishes.unique {other : String} {replaced : RsaKey} (first : Publishes value keyId key)
    (second : Publishes value other replaced) : keyId = other ∧ key = replaced := by
  rw [← usable?_eq_some_iff] at first second
  rw [first] at second
  cases second
  exact ⟨rfl, rfl⟩

theorem usable?_eq_none_iff : usable? value = none ↔ ∀ keyId key, ¬ Publishes value keyId key := by
  simp only [← usable?_eq_some_iff, Option.eq_none_iff_forall_ne_some, Prod.forall]

end Jwk

namespace KeySet

open Jwk (Publishes)

variable {set : KeySet} {other : String} {document : Bytes}

/-! ## Lists of entries -/

theorem find?_insert :
    (set.insert other key).find? keyId = if other = keyId then some key else set.find? keyId := by
  unfold find? insert
  by_cases same : other = keyId
  · simp [same]
  · have kept : (fun entry : String × RsaKey =>
        decide ((entry.1 != other) = true ∧ (entry.1 == keyId) = true)) =
          fun entry => entry.1 == keyId := by
      funext entry
      by_cases named : entry.1 = keyId
      · simp [named, Ne.symm same]
      · simp [named]
    simp only [same, if_false, List.find?_cons, beq_eq_false_iff_ne.mpr same, List.find?_filter,
      kept]

/-- Of the entries that publish a key for an identifier the last one publishes this key. -/
def Latest (entries : List Json) (keyId : String) (key : RsaKey) : Prop :=
  ∃ earlier value later, entries = earlier ++ value :: later ∧ Publishes value keyId key ∧
    ∀ other ∈ later, ∀ replacement, ¬ Publishes other keyId replacement

theorem latest_concat_iff :
    Latest (entries ++ [value]) keyId key ↔ Publishes value keyId key ∨
      ((∀ other, ¬ Publishes value keyId other) ∧ Latest entries keyId key) := by
  constructor
  · rintro ⟨earlier, latest, later, split, publishes, silent⟩
    rcases later.eq_nil_or_concat with rfl | ⟨front, last, rfl⟩
    · obtain ⟨_, same⟩ := List.append_inj' split rfl
      cases same
      exact .inl publishes
    · rw [List.concat_eq_append, ← List.cons_append, ← List.append_assoc] at split
      obtain ⟨rfl, same⟩ := List.append_inj' split rfl
      cases same
      exact .inr ⟨silent value (by simp), earlier, latest, front, rfl, publishes,
        fun other among => silent other (by simp [among])⟩
  · rintro (publishes | ⟨silent, earlier, latest, later, rfl, publishes, silentLater⟩)
    · exact ⟨entries, value, [], rfl, publishes, fun _ among => absurd among List.not_mem_nil⟩
    · refine ⟨earlier, latest, later ++ [value], by simp, publishes, fun other among => ?_⟩
      rcases List.mem_append.mp among with among | last
      · exact silentLater other among
      · rw [List.mem_singleton.mp last]
        exact silent

/-- An identifier has the key of the last entry that publishes one for it. -/
theorem find?_ofEntries_iff : (ofEntries entries).find? keyId = some key ↔
    Latest entries keyId key := by
  induction entries using List.reverseRecOn with
  | nil =>
      simp only [ofEntries, List.foldl_nil, find?, empty, List.find?_nil, Option.map_none,
        reduceCtorEq, false_iff]
      rintro ⟨earlier, _, _, split, _⟩
      cases earlier <;> cases split
  | append_singleton entries value inductionHypothesis =>
      rw [latest_concat_iff, ← inductionHypothesis, ofEntries, List.foldl_append, List.foldl_cons,
        List.foldl_nil, ← ofEntries]
      cases usable : Jwk.usable? value with
      | none =>
          have silent := Jwk.usable?_eq_none_iff.mp usable
          simp [silent]
      | some published =>
          obtain ⟨other, newest⟩ := published
          have publishes := Jwk.usable?_eq_some_iff.mp usable
          simp only [find?_insert]
          by_cases same : other = keyId
          · subst same
            rw [if_pos rfl, Option.some.injEq]
            constructor
            · rintro rfl
              exact .inl publishes
            · rintro (again | ⟨silent, _⟩)
              · exact (publishes.unique again).2
              · exact absurd publishes (silent newest)
          · have silent : ∀ replacement, ¬ Publishes value keyId replacement :=
              fun _ again => same (publishes.unique again).1
            simp [same, silent]

/-- A list is padded by putting in entries, anywhere, that publish no key. -/
inductive Padding : List Json → List Json → Prop where
  | nil : Padding [] []
  | kept (value : Json) {entries padded : List Json} (rest : Padding entries padded) :
      Padding (value :: entries) (value :: padded)
  | put {value : Json} {entries padded : List Json}
      (silent : ∀ keyId key, ¬ Publishes value keyId key) (rest : Padding entries padded) :
      Padding entries (value :: padded)

/-- Entries that publish no key make no difference. -/
theorem ofEntries_eq_of_padding (padding : Padding entries padded) :
    ofEntries padded = ofEntries entries := by
  unfold ofEntries
  generalize empty = set
  induction padding generalizing set with
  | nil => rfl
  | kept value rest inductionHypothesis =>
      rw [List.foldl_cons, List.foldl_cons]
      exact inductionHypothesis _
  | put silent rest inductionHypothesis =>
      rw [List.foldl_cons, Jwk.usable?_eq_none_iff.mpr silent]
      exact inductionHypothesis set

/-! ## Documents -/

/-- A document lists entries. Of an object only the member `keys` counts; what the others hold
need not read. -/
def Lists (document : Bytes) (entries : List Json) : Prop :=
  ∃ value, Json.ofBytesKeeping? "keys" document = some value ∧ entries? value = some entries

/-- A document is read as the keys of the entries that it lists. -/
theorem ofDocument?_eq_some_iff :
    ofDocument? document = some set ↔ ∃ entries, Lists document entries ∧ set = ofEntries entries := by
  simp only [ofDocument?, Option.bind_eq_bind, Option.bind_eq_some_iff, Option.pure_def,
    Option.some.injEq, Lists]
  constructor
  · rintro ⟨value, read, entries, listed, rfl⟩
    exact ⟨entries, ⟨value, read, listed⟩, rfl⟩
  · rintro ⟨entries, ⟨value, read, listed⟩, rfl⟩
    exact ⟨value, read, entries, listed, rfl⟩

-- A number out of range and half of a surrogate pair spoil only a member that is read.
example : ofDocument? (Bytes.ofText "\x7b\"other\":[1e999,\"\\ud800\"],\"keys\":[]\x7d") =
    some empty := by decide +kernel

example : ofDocument? (Bytes.ofText "\x7b\"keys\":[1e999]\x7d") = none := by decide +kernel

/-- A written object whose member `keys` is an array lists its items. -/
theorem lists_write {members : List (String × Json)}
    (legible : Json.legible Json.Reading.depthLimit (.object members) = true)
    (keys : members.filter (fun member => member.1 == "keys") = [("keys", .array entries)]) :
    Lists (Bytes.ofText (Json.write (.object members))) entries :=
  ⟨_, Json.ofBytesKeeping?_of_read (Json.ofBytes?_write legible),
    by simp [entries?, keys, Json.items?]⟩

end KeySet
end Admission
