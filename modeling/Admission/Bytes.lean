/-!
# Bytes

A byte sequence is a list of bytes. Text becomes bytes by its UTF-8 form, and
bytes become text only when they are a valid UTF-8 form.
-/

namespace Admission

/-- A finite sequence of bytes. -/
abbrev Bytes := List UInt8

namespace Bytes

/-- The UTF-8 form of a text. -/
def ofText (text : String) : Bytes :=
  text.toUTF8.data.toList

/-- The text whose UTF-8 form the bytes are, when there is one. -/
def text? (bytes : Bytes) : Option String :=
  String.fromUTF8? ⟨bytes.toArray⟩

/-- The unsigned number whose big-endian digits in base 256 are the bytes. -/
def toNat (bytes : Bytes) : Nat :=
  bytes.foldl (fun value byte => value * 256 + byte.toNat) 0

/-- The low `count` base-256 digits of a number, most significant first. -/
def ofNat (count : Nat) (value : Nat) : Bytes :=
  match count with
  | 0 => []
  | count + 1 => UInt8.ofNat (value >>> (8 * count)) :: ofNat count value

theorem length_ofNat (count value : Nat) : (ofNat count value).length = count := by
  induction count with
  | zero => rfl
  | succ count inductionHypothesis => simp [ofNat, inductionHypothesis]

end Bytes
end Admission
