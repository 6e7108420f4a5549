import Admission.Bytes.Hex
import Admission.Text.Decimal
import Admission.Text.Split

/-!
# IPv6 addresses

Eight pieces of up to four hexadecimal digits between colons. One run of zero
pieces may be left out, and the last two pieces may be written as four decimal
numbers.
-/

namespace Admission.Url.Ipv6

/-- The pieces read so far and how many of them stand before the gap. A gap
itself counts as one piece. -/
structure Reading where
  pieces : List Nat
  gap : Option Nat
deriving DecidableEq, Repr

/-- A decimal number up to 255 without leading zeros. -/
def octet? (digits : List Char) : Option Nat :=
  let number := Decimal.value digits
  if digits.all Decimal.isDigit ∧ digits ≠ [] ∧ (digits.head? ≠ some '0' ∨ digits.length = 1) ∧
      number ≤ 255 then some number
  else none

/-- The two pieces that four decimal numbers make. -/
def lastPieces? (symbols : List Char) : Option (List Nat) := do
  let octets ← (Text.split '.' symbols).mapM octet?
  match octets with
  | [first, second, third, fourth] => some [first * 256 + second, third * 256 + fourth]
  | _ => none

/-- The hexadecimal digits at the front, at most four. -/
def digits (symbols : List Char) : List Char :=
  (symbols.take 4).takeWhile fun symbol => (Hex.digitValue? symbol).isSome

/-- The number of hexadecimal digits. -/
def value (digits : List Char) : Nat :=
  digits.foldl (fun total symbol => total * 16 + (Hex.digitValue? symbol).getD 0) 0

/-- Read pieces until the end; `fuel` bounds their number. -/
def readPieces (reading : Reading) (symbols : List Char) : Nat → Option Reading
  | 0 => if symbols.isEmpty then some reading else none
  | fuel + 1 =>
      match symbols with
      | [] => some reading
      | ':' :: rest =>
          if reading.gap.isSome then none
          else
            readPieces ⟨reading.pieces ++ [0], some (reading.pieces.length + 1)⟩ rest fuel
      | _ =>
          let front := digits symbols
          match symbols.drop front.length with
          | [] => some { reading with pieces := reading.pieces ++ [value front] }
          | '.' :: _ =>
              if front.isEmpty ∨ 6 < reading.pieces.length then none
              else
                (lastPieces? symbols).map fun last =>
                  { reading with pieces := reading.pieces ++ last }
          | ':' :: rest =>
              if rest.isEmpty then none
              else readPieces { reading with pieces := reading.pieces ++ [value front] } rest fuel
          | _ => none

/-- The eight pieces of a complete reading: zeros fill the gap. -/
def complete? (reading : Reading) : Option (List Nat) :=
  match reading.gap with
  | none => if reading.pieces.length = 8 then some reading.pieces else none
  | some gap =>
      if reading.pieces.length ≤ 8 then
        some (reading.pieces.take gap ++ List.replicate (8 - reading.pieces.length) 0 ++
          reading.pieces.drop gap)
      else none

/-- The pieces that a text spells. -/
def ofText? (symbols : List Char) : Option (List Nat) := do
  let reading ← match symbols with
    | ':' :: ':' :: rest => readPieces ⟨[0], some 1⟩ rest 7
    | ':' :: _ => none
    | [_] => none
    | [] => none
    | symbols => readPieces ⟨[], none⟩ symbols 8
  complete? reading

/-- The lengths of the runs of zero pieces, by the piece where each starts. -/
def zeroRuns (start : Nat) : List Nat → List (Nat × Nat)
  | [] => []
  | piece :: rest =>
      let length := ((piece :: rest).takeWhile (· = 0)).length
      (start, length) :: zeroRuns (start + 1) rest

/-- The first of the longest runs of at least two zero pieces: start and length. -/
def gap? (pieces : List Nat) : Option (Nat × Nat) :=
  (zeroRuns 0 pieces).foldl
    (fun best run => if 2 ≤ run.2 ∧ best.all fun other => other.2 < run.2 then some run else best)
    none

/-- Pieces between colons. -/
def spelled (pieces : List Nat) : String :=
  String.intercalate ":" (pieces.map Hex.ofNat)

/-- The shortest text of an address; an address of 32 bits inside keeps its own form. -/
def text (pieces : List Nat) : String :=
  match pieces with
  | [0, 0, 0, 0, 0, 0xffff, high, low] =>
      "::ffff:" ++
        String.intercalate "." ([high / 256, high % 256, low / 256, low % 256].map toString)
  | _ =>
      match gap? pieces with
      | none => spelled pieces
      | some (start, length) =>
          spelled (pieces.take start) ++ "::" ++ spelled (pieces.drop (start + length))

example : text [0x2001, 0xdb8, 0, 0, 1, 0, 0, 1] = "2001:db8::1:0:0:1" := by decide

end Admission.Url.Ipv6
