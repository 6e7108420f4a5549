import Admission.Http.Request
import Admission.Proofs.Bytes.Hex
import Admission.Proofs.Text.Case
import Admission.Proofs.Text.Splitting
import Admission.Proofs.Webhook.Signing

/-!
# Signed texts

The parts of a signed text stand on a line each. A request sends none of the first four with a
line feed in it, so the text gives every part back: the method up to the case of its letters,
path, timestamp and nonce as they were sent, and the digest of the body. No byte can be moved
from one part to its neighbour under the same signature.
-/

namespace Admission

namespace Text

/-- A text that is one line, without a line feed. -/
def IsLine (text : String) : Prop := '\n' ∉ text.toList

instance (text : String) : Decidable (IsLine text) := inferInstanceAs (Decidable (¬ _))

/-- Upper case brings no line feed. -/
theorem IsLine.upperAscii {text : String} (line : IsLine text) : IsLine (upperAscii text) := by
  intro feed
  rw [Text.upperAscii, String.toList_ofList] at feed
  obtain ⟨symbol, among, upper⟩ := List.mem_map.mp feed
  have code := toNat_toUpper symbol
  rw [upper] at code
  have same : symbol = '\n' := by
    rw [← Char.toNat_inj]
    split at code <;> simp only [Char.reduceToNat] at code ⊢ <;> omega
  exact line (same ▸ among)

end Text

open Text (IsLine)

/-! ## What requests send -/

/-- A method name is one line. -/
theorem Method.isLine_of_isToken {method : String} (token : isToken method = true) :
    IsLine method := by
  intro feed
  rw [isToken, Bool.and_eq_true, List.all_eq_true] at token
  exact absurd (token.2 '\n' feed) (by decide)

namespace Target

/-- What stands before a query is part of the target. -/
theorem mem_of_mem_beforeQuery {symbol : Char} {symbols : List Char}
    (among : symbol ∈ beforeQuery symbols) : symbol ∈ symbols :=
  (List.takeWhile_sublist _).mem among

/-- The path of a target that is one line is one line. -/
theorem isLine_path {target : String} (line : IsLine target) : IsLine (path target) := by
  unfold path
  split
  · rename_i rest written
    intro feed
    rw [String.toList_ofList] at feed
    exact line (written ▸ mem_of_mem_beforeQuery feed)
  · decide
  · split
    · decide
    · rename_i rest scheme
      dsimp only
      split
      · decide
      · intro feed
        rw [String.toList_ofList] at feed
        have behind : '\n' ∈ rest :=
          (List.dropWhile_sublist _).mem (mem_of_mem_beforeQuery feed)
        unfold afterScheme? at scheme
        split at scheme
        · rename_i separated
          cases scheme
          have among : '\n' ∈ target.toList.dropWhile isSchemeSymbol := by
            rw [separated]
            simp [behind]
          exact line ((List.dropWhile_sublist _).mem among)
        · cases scheme

end Target

namespace Header

/-- What a readable value reads as is one line. -/
theorem ReadsAs.isLine {value : Bytes} {text : String} (reads : ReadsAs value text) :
    IsLine text := by
  obtain ⟨symbols, readable, trimmed, _⟩ := reads
  intro feed
  have among : '\n' ∈ symbols := by
    rw [← trimmed, Text.trimSymbols, Text.trimEnd, List.mem_reverse] at feed
    have inner : '\n' ∈ Text.trimStart symbols :=
      List.mem_reverse.mp ((List.dropWhile_sublist _).mem feed)
    exact (List.dropWhile_sublist _).mem inner
  unfold readable? at readable
  split at readable
  · rename_i all
    cases readable
    obtain ⟨byte, member, spelled⟩ := List.mem_map.mp among
    have allowed := List.all_eq_true.mp all byte member
    simp only [isReadableByte, Bool.or_eq_true, Bool.and_eq_true, decide_eq_true_eq,
      UInt8.le_iff_toNat_le, ← UInt8.toNat_inj, UInt8.reduceToNat] at allowed
    have valid : byte.toNat.isValidChar := .inl (by omega)
    have code : byte.toNat = 10 := by
      rw [Char.ofNat, dif_pos valid] at spelled
      exact congrArg Char.toNat spelled
    omega
  · cases readable

/-- What the first value of a name reads as is one line. -/
theorem FirstReadsAs.isLine {headers : List Header} {name text : String}
    (reads : FirstReadsAs headers name text) : IsLine text := by
  obtain ⟨_, _, reads⟩ := reads
  exact reads.isLine

end Header

namespace Webhook
namespace SignedParts

variable {first second : SignedParts}

/-- Parts as requests send them: the method is a method name, and path, timestamp and nonce
are a line each. -/
structure Sent (parts : SignedParts) : Prop where
  method : Method.isToken parts.method = true
  path : IsLine parts.path
  timestamp : IsLine parts.timestamp
  nonce : IsLine parts.nonce

/-- Two requests send the same, up to the case of the method and the digest of the body. -/
structure Agrees (first second : SignedParts) : Prop where
  method : Text.sameIgnoringCase first.method second.method = true
  path : first.path = second.path
  timestamp : first.timestamp = second.timestamp
  nonce : first.nonce = second.nonce
  digest : Sha256.digest first.body = Sha256.digest second.body

/-- The lines of a signed text, one after the other. -/
theorem toList_canonical (parts : SignedParts) : parts.canonical.toList =
    (Text.upperAscii parts.method).toList ++ '\n' :: (parts.path.toList ++ '\n' ::
      (parts.timestamp.toList ++ '\n' :: (parts.nonce.toList ++ '\n' ::
        (Hex.text (Sha256.digest parts.body)).toList))) := by
  have feed : "\n".toList = ['\n'] := by decide
  simp only [canonical, String.toList_append, feed, List.append_assoc, List.cons_append,
    List.nil_append]

/-- Sent parts that are signed alike agree. -/
theorem agrees_of_canonical_eq (firstSent : first.Sent) (secondSent : second.Sent)
    (same : first.canonical = second.canonical) : first.Agrees second := by
  have lines := congrArg String.toList same
  rw [toList_canonical, toList_canonical] at lines
  have methodLine {parts : SignedParts} (sent : parts.Sent) :
      IsLine (Text.upperAscii parts.method) :=
    (Method.isLine_of_isToken sent.method).upperAscii
  obtain ⟨method, lines⟩ :=
    Text.append_separator_inj (methodLine firstSent) (methodLine secondSent) lines
  obtain ⟨path, lines⟩ := Text.append_separator_inj firstSent.path secondSent.path lines
  obtain ⟨timestamp, lines⟩ :=
    Text.append_separator_inj firstSent.timestamp secondSent.timestamp lines
  obtain ⟨nonce, digest⟩ := Text.append_separator_inj firstSent.nonce secondSent.nonce lines
  exact {
    method := Text.upperAscii_eq_iff.mp (String.toList_inj.mp method)
    path := String.toList_inj.mp path
    timestamp := String.toList_inj.mp timestamp
    nonce := String.toList_inj.mp nonce
    digest := Hex.text_inj.mp (String.toList_inj.mp digest) }

/-- Parts that agree are signed alike. -/
theorem Agrees.canonical_eq (agrees : first.Agrees second) :
    first.canonical = second.canonical := by
  rw [canonical, canonical, Text.upperAscii_eq_iff.mpr agrees.method, agrees.path,
    agrees.timestamp, agrees.nonce, agrees.digest]

end SignedParts

/-- What verification reads from a request was sent as parts of a signed text. -/
theorem Reading.Checks.sent {reading : Reading} {settings : Settings} {now : Instant}
    {request : Request} (checks : reading.Checks settings now request)
    (method : Method.isToken request.method = true) (target : IsLine request.target) :
    (reading.parts request).Sent where
  method := method
  path := Target.isLine_path target
  timestamp := checks.timestampField.isLine
  nonce := checks.nonceField.isLine

/-- The signed text is the same exactly for parts that agree, whatever parts requests send; and
what verification takes from a request is such parts. -/
theorem canonical_eq_iff_agrees :
    (∀ first second : SignedParts, first.Sent → second.Sent →
        (first.canonical = second.canonical ↔ first.Agrees second)) ∧
      ∀ (reading : Reading) (settings : Settings) (now : Instant) (request : Request),
        reading.Checks settings now request → Method.isToken request.method = true →
          IsLine request.target → (reading.parts request).Sent :=
  ⟨fun _ _ firstSent secondSent =>
      ⟨SignedParts.agrees_of_canonical_eq firstSent secondSent, SignedParts.Agrees.canonical_eq⟩,
    fun _ _ _ _ checks => checks.sent⟩

namespace Draft

/-- The parts of the first draft with its method in lower case. -/
def lowered : SignedParts := { first.parts with method := "post" }

/-- The parts of the first draft with a letter moved from the nonce to the timestamp. -/
def shifted : SignedParts := { first.parts with timestamp := "0n", nonce := "once" }

end Draft

/-- The first draft is signed as its copy in lower case, but not as its shifted copy. -/
theorem first_signed_as_lowered_only :
    Draft.first.parts.Sent ∧ Draft.lowered.Sent ∧ Draft.shifted.Sent ∧
      Draft.first.parts.canonical = Draft.lowered.canonical ∧
      Draft.first.parts.canonical ≠ Draft.shifted.canonical := by
  have checks : (Draft.first.reading ⟨[1]⟩).Checks .standard .epoch
      (Draft.first.request .standard ⟨[1]⟩) :=
    Draft.checks Settings.standard_distinctHeaders Draft.first_sendable (by decide)
  have sent : Draft.first.parts.Sent :=
    canonical_eq_iff_agrees.2 _ _ _ _ checks (by decide) (by decide)
  have lowered : Draft.lowered.Sent := ⟨by decide, sent.path, sent.timestamp, sent.nonce⟩
  have shifted : Draft.shifted.Sent := ⟨sent.method, sent.path, by decide, by decide⟩
  refine ⟨sent, lowered, shifted, ?_, ?_⟩
  · exact (canonical_eq_iff_agrees.1 _ _ sent lowered).mpr ⟨by decide, rfl, rfl, rfl, rfl⟩
  · intro same
    have agrees := (canonical_eq_iff_agrees.1 _ _ sent shifted).mp same
    exact absurd agrees.timestamp (by decide)

end Webhook
end Admission
