import Admission.Json.Reader

/-!
# Skimming JSON

Of some documents only one member counts, and the values of the others are not read.
They must have the shape of JSON, but numbers in them may be out of range, their strings
may hold bytes and code units that stand for no character, and any number of containers
may be open in them.
-/

namespace Admission

namespace Bytes

/-- The character that bytes begin with, when they do. -/
def character? (bytes : Bytes) : Option Char :=
  [1, 2, 3, 4].findSome? fun count =>
    match (text? (bytes.take count)).map String.toList with
    | some [symbol] => some symbol
    | _ => none

/-- The characters of bytes, after some bytes that belong to an earlier one. Nothing
stands for a byte that belongs to no character. -/
def symbolsFrom (covered : Nat) : Bytes → List (Option Char)
  | [] => []
  | byte :: rest =>
      match covered with
      | covered + 1 => symbolsFrom covered rest
      | 0 =>
          match character? (byte :: rest) with
          | some symbol => some symbol :: symbolsFrom (symbol.utf8Size - 1) rest
          | none => none :: symbolsFrom 0 rest

/-- The characters of bytes. -/
def symbols (bytes : Bytes) : List (Option Char) := symbolsFrom 0 bytes

end Bytes

namespace Json

/-- Whether a numeral may end here. -/
def Numeral.isComplete (numeral : Numeral) : Bool :=
  match numeral.phase with
  | .zero | .whole | .fraction | .exponent => true
  | _ => false

namespace Reading

/-- A container opens where a value may stand, however many are open. -/
def enterUnread (reading : Reading) (frame : Frame) (expected : Expected) : Option Reading :=
  match reading.expected with
  | .value _ => some { reading with frames := frame :: reading.frames, expected := expected }
  | _ => none

/-- One character of a value that is not read. Nothing of it is kept. -/
def skim (reading : Reading) (symbol : Char) : Option Reading :=
  match reading.lexeme with
  | .gap =>
      match symbol with
      | '[' => reading.enterUnread (.array []) (.value true)
      | '{' => reading.enterUnread (.object []) (.name true)
      | _ => reading.between symbol
  | .text _ =>
      if symbol = '"' then reading.giveText []
      else if symbol = '\\' then some { reading with lexeme := .escape [] }
      else if symbol.toNat < 0x20 then none
      else some reading
  | .unit _ _ digits _ =>
      (hexValue? symbol).map fun _ =>
        { reading with lexeme := if digits = 3 then .text [] else .unit [] none (digits + 1) 0 }
  | .numeral numeral =>
      match numeral.push? symbol with
      | some longer => some { reading with lexeme := .numeral longer }
      | none =>
          if numeral.isComplete then (reading.give .null).bind fun reading => reading.between symbol
          else none
  | _ => reading.step symbol

/-- Whether the reading is inside the value of a member that is not kept. -/
def isUnread (kept : String) (reading : Reading) : Bool :=
  match reading.frames.getLast? with
  | some (.member _ name) => name != kept
  | _ => false

/-- One character of a document of which one member is kept. A byte that belongs to no
character may stand only in a string that is not read. -/
def stepKeeping (kept : String) (reading : Reading) (symbol : Option Char) : Option Reading :=
  match symbol with
  | some symbol => if reading.isUnread kept then reading.skim symbol else reading.step symbol
  | none =>
      match reading.lexeme with
      | .text _ => if reading.isUnread kept then some reading else none
      | _ => none

end Reading

/-- The value that bytes denote, of which one member counts. Where they do not all read,
the members that do not count are null. -/
def ofBytesKeeping? (kept : String) (bytes : Bytes) : Option Json :=
  ofBytes? bytes <|> do
    let reading ← bytes.symbols.foldlM (Reading.stepKeeping kept) Reading.start
    reading.finish

end Json
end Admission
