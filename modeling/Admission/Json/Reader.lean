import Admission.Bytes
import Admission.Json.Numeral

/-!
# Reading JSON

A text is read in one pass over its characters. The state holds the lexeme being
read, the containers still open, and what may come next. At most 127 containers
may be open at once. A text that is no JSON value has no reading.
-/

namespace Admission.Json

/-- A container still open, its contents last first. -/
inductive Frame where
  | array (items : List Json)
  | object (members : List (String × Json))
  /-- An object whose next member has a name but no value yet. -/
  | member (members : List (String × Json)) (name : String)

/-- What may come next at the innermost open container. -/
inductive Expected where
  /-- A value; right after an opening bracket also the closing one. -/
  | value (closable : Bool)
  /-- A member name; right after an opening brace also the closing one. -/
  | name (closable : Bool)
  | colon
  /-- A comma or a closing bracket; at the end of the text nothing. -/
  | more
deriving DecidableEq

/-- The lexeme being read. -/
inductive Lexeme where
  | gap
  /-- Inside a string, its characters last first. -/
  | text (content : List Char)
  | escape (content : List Char)
  /-- Inside the four digits of a code unit, after the lead unit of a pair. -/
  | unit (content : List Char) (lead : Option Nat) (digits : Nat) (value : Nat)
  /-- After a lead unit, before the backslash of its partner. -/
  | lead (content : List Char) (unit : Nat)
  /-- After a lead unit and a backslash. -/
  | leadEscape (content : List Char) (unit : Nat)
  | numeral (numeral : Numeral)
  /-- Inside a literal word, with the characters still to come. -/
  | word (rest : List Char) (value : Json)

/-- The state of a reading. -/
structure Reading where
  lexeme : Lexeme
  frames : List Frame
  expected : Expected
  result : Option Json

namespace Reading

/-- The state before the first character. -/
def start : Reading := ⟨.gap, [], .value false, none⟩

/-- How many containers may be open at once. -/
def depthLimit : Nat := 127

/-- A complete value goes into the innermost open container. -/
def give (reading : Reading) (value : Json) : Option Reading :=
  match reading.expected with
  | .value _ =>
      match reading.frames with
      | [] => some { reading with lexeme := .gap, expected := .more, result := some value }
      | .array items :: outer =>
          some { reading with
            lexeme := .gap, expected := .more, frames := .array (value :: items) :: outer }
      | .member members name :: outer =>
          some { reading with
            lexeme := .gap, expected := .more,
            frames := .object ((name, value) :: members) :: outer }
      | .object _ :: _ => none
  | _ => none

/-- A complete string is a value or the name of a member. -/
def giveText (reading : Reading) (content : List Char) : Option Reading :=
  let text := String.ofList content.reverse
  match reading.expected, reading.frames with
  | .name _, .object members :: outer =>
      some { reading with
        lexeme := .gap, expected := .colon, frames := .member members text :: outer }
  | _, _ => reading.give (.text text)

/-- A container opens where a value may stand. -/
def enter (reading : Reading) (frame : Frame) (expected : Expected) : Option Reading :=
  match reading.expected with
  | .value _ =>
      if reading.frames.length < depthLimit then
        some { reading with frames := frame :: reading.frames, expected := expected }
      else none
  | _ => none

/-- The innermost container closes and becomes a value. -/
def close (reading : Reading) (closing : Char) : Option Reading :=
  let closable :=
    match reading.expected with
    | .more => true
    | .value closable => closable
    | .name closable => closable
    | .colon => false
  if !closable then none
  else
    match closing, reading.frames with
    | ']', .array items :: outer =>
        ({ reading with frames := outer, expected := .value false } : Reading).give
          (.array items.reverse)
    | '}', .object members :: outer =>
        ({ reading with frames := outer, expected := .value false } : Reading).give
          (.object members.reverse)
    | _, _ => none

/-- A comma asks for another item or member. -/
def comma (reading : Reading) : Option Reading :=
  match reading.expected, reading.frames with
  | .more, .array _ :: _ => some { reading with expected := .value false }
  | .more, .object _ :: _ => some { reading with expected := .name false }
  | _, _ => none

/-- A character between lexemes. -/
def between (reading : Reading) (symbol : Char) : Option Reading :=
  match symbol with
  | ' ' | '\t' | '\n' | '\r' => some reading
  | '"' =>
      match reading.expected with
      | .value _ | .name _ => some { reading with lexeme := .text [] }
      | _ => none
  | '[' => reading.enter (.array []) (.value true)
  | '{' => reading.enter (.object []) (.name true)
  | ']' => reading.close ']'
  | '}' => reading.close '}'
  | ',' => reading.comma
  | ':' =>
      match reading.expected with
      | .colon => some { reading with expected := .value false }
      | _ => none
  | 't' => some { reading with lexeme := .word ['r', 'u', 'e'] (.bool true) }
  | 'f' => some { reading with lexeme := .word ['a', 'l', 's', 'e'] (.bool false) }
  | 'n' => some { reading with lexeme := .word ['u', 'l', 'l'] .null }
  | '-' => some { reading with lexeme := .numeral (.start true) }
  | _ =>
      ((Numeral.start false).push? symbol).map fun numeral =>
        { reading with lexeme := .numeral numeral }

/-- The character of a one-letter escape. -/
def escaped? : Char → Option Char
  | '"' => some '"'
  | '\\' => some '\\'
  | '/' => some '/'
  | 'b' => some (Char.ofNat 8)
  | 'f' => some (Char.ofNat 12)
  | 'n' => some '\n'
  | 'r' => some '\r'
  | 't' => some '\t'
  | _ => none

/-- The value of a hexadecimal digit. -/
def hexValue? (symbol : Char) : Option Nat :=
  if '0' ≤ symbol ∧ symbol ≤ '9' then some (symbol.toNat - 48)
  else if 'a' ≤ symbol ∧ symbol ≤ 'f' then some (symbol.toNat - 87)
  else if 'A' ≤ symbol ∧ symbol ≤ 'F' then some (symbol.toNat - 55)
  else none

/-- What a complete code unit contributes: a character, or a lead unit that waits
for its partner. -/
def acceptUnit (content : List Char) (lead : Option Nat) (value : Nat) : Option Lexeme :=
  let isLead := 0xd800 ≤ value ∧ value < 0xdc00
  let isTrail := 0xdc00 ≤ value ∧ value < 0xe000
  match lead with
  | none =>
      if isLead then some (.lead content value)
      else if isTrail then none
      else some (.text (Char.ofNat value :: content))
  | some first =>
      if isTrail then
        some (.text (Char.ofNat (0x10000 + (first - 0xd800) * 0x400 + (value - 0xdc00)) :: content))
      else none

/-- One character of a text. -/
def step (reading : Reading) (symbol : Char) : Option Reading :=
  match reading.lexeme with
  | .gap => reading.between symbol
  | .text content =>
      if symbol = '"' then reading.giveText content
      else if symbol = '\\' then some { reading with lexeme := .escape content }
      else if symbol.toNat < 0x20 then none
      else some { reading with lexeme := .text (symbol :: content) }
  | .escape content =>
      if symbol = 'u' then some { reading with lexeme := .unit content none 0 0 }
      else (escaped? symbol).map fun plain => { reading with lexeme := .text (plain :: content) }
  | .unit content lead digits value => do
      let digit ← hexValue? symbol
      let value := value * 16 + digit
      if digits = 3 then
        let lexeme ← acceptUnit content lead value
        some { reading with lexeme := lexeme }
      else some { reading with lexeme := .unit content lead (digits + 1) value }
  | .lead content unit =>
      if symbol = '\\' then some { reading with lexeme := .leadEscape content unit } else none
  | .leadEscape content unit =>
      if symbol = 'u' then some { reading with lexeme := .unit content (some unit) 0 0 } else none
  | .numeral numeral =>
      match numeral.push? symbol with
      | some longer => some { reading with lexeme := .numeral longer }
      | none => do
          let number ← numeral.number?
          let reading ← reading.give (.number number)
          reading.between symbol
  | .word rest value =>
      match rest with
      | [last] => if symbol = last then reading.give value else none
      | next :: rest =>
          if symbol = next then some { reading with lexeme := .word rest value } else none
      | [] => none

/-- The value read when the text ends here. -/
def finish (reading : Reading) : Option Json :=
  match reading.lexeme with
  | .gap => if reading.frames.isEmpty then reading.result else none
  | .numeral numeral => do
      let number ← numeral.number?
      let reading ← reading.give (.number number)
      if reading.frames.isEmpty then reading.result else none
  | _ => none

end Reading

/-- The value a text denotes. -/
def ofText? (text : String) : Option Json := do
  let reading ← text.toList.foldlM Reading.step Reading.start
  reading.finish

/-- The value that bytes denote as UTF-8. -/
def ofBytes? (bytes : Bytes) : Option Json := do
  let text ← bytes.text?
  ofText? text

end Admission.Json
