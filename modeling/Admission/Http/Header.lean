import Admission.Bytes
import Admission.Text.Blank
import Admission.Text.Split

/-!
# Header fields

Names are compared without regard to ASCII case. The value of a field counts as
text only when every byte is a printable ASCII character or a tab.
-/

namespace Admission

/-- One header field. -/
structure Header where
  name : String
  value : Bytes
deriving DecidableEq, Repr

namespace Header

/-- Whether a byte may stand in a readable value. -/
def isReadableByte (byte : UInt8) : Bool :=
  (0x20 ≤ byte && byte ≤ 0x7e) || byte = 9

/-- The text of a readable value. -/
def readable? (value : Bytes) : Option (List Char) :=
  if value.all isReadableByte then some (value.map fun byte => Char.ofNat byte.toNat) else none

/-- The first value of a name, as bytes. -/
def first? (headers : List Header) (name : String) : Option Bytes :=
  (headers.find? fun header => Text.sameIgnoringCase header.name name).map (·.value)

/-- The first value of a name as text, when it is readable. -/
def firstText? (headers : List Header) (name : String) : Option (List Char) := do
  let value ← first? headers name
  readable? value

/-- What a required header field may turn out to be. -/
inductive Required where
  /-- No such field, or nothing but blanks in its first value. -/
  | missing
  /-- The first value is not text. -/
  | unreadable
  /-- The first value without surrounding blanks. -/
  | present (text : String)
deriving DecidableEq, Repr

/-- The first value of a name, trimmed. -/
def required (headers : List Header) (name : String) : Required :=
  match first? headers name with
  | none => .missing
  | some value =>
      match readable? value with
      | none => .unreadable
      | some symbols =>
          let trimmed := Text.trimSymbols symbols
          if trimmed.isEmpty then .missing else .present (String.ofList trimmed)

end Header
end Admission
