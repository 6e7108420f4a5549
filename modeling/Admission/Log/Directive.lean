import Admission.Bytes
import Admission.Log
import Admission.Log.Pattern
import Admission.Text.Decimal

/-!
# Directives of a log filter

A directive is a level, the beginning of a target, or both with an equals sign
between them; after a target, square brackets may hold a span and, in braces, a
field with or without a value. Blanks at both ends are passed over when a
directive is read, but the places of its parts are counted from its very start, so
that blanks in front shift what is taken for them.
-/

namespace Admission.Log

/-- A field that a directive asks for. -/
structure FieldMatch where
  name : String
  /-- Whether the field must also have a value. -/
  hasValue : Bool
deriving DecidableEq, Repr

namespace FieldMatch

/-- Whether decimal digits, perhaps with a point between them, are a number. -/
def isMantissa (symbols : List Char) : Bool :=
  match Text.splitOnce? '.' symbols with
  | none => !symbols.isEmpty && symbols.all Decimal.isDigit
  | some (whole, fraction) =>
      !(whole ++ fraction).isEmpty && (whole ++ fraction).all Decimal.isDigit

/-- What follows an optional sign. -/
def unsigned : List Char → List Char
  | '+' :: rest => rest
  | '-' :: rest => rest
  | symbols => symbols

/-- Whether a text is a number: digits with an optional point and exponent, infinity,
or no number by name. -/
def isNumber (symbols : List Char) : Bool :=
  let size := unsigned symbols
  let named := ["inf", "infinity", "nan"].any fun name =>
    Text.sameIgnoringCase name (String.ofList size)
  let mantissa := size.takeWhile fun symbol => symbol != 'e' && symbol != 'E'
  let exponent := size.drop mantissa.length
  let exponentDigits := unsigned (exponent.drop 1)
  named || (isMantissa mantissa &&
    (exponent.isEmpty || (!exponentDigits.isEmpty && exponentDigits.all Decimal.isDigit)))

/-- Whether a text is a value that a field may have to match: a number or a pattern. -/
def isValue (symbols : List Char) : Bool :=
  isNumber symbols || Pattern.isPattern symbols

/-- The field that a text asks for: a name and, between the first and the second
equals sign, a value. -/
def ofText? (text : String) : Option FieldMatch :=
  match Text.split '=' text.toList with
  | [] => none
  | [name] => if name.isEmpty then none else some ⟨String.ofList name, false⟩
  | name :: value :: _ => if isValue value then some ⟨String.ofList name, true⟩ else none

end FieldMatch

/-- One directive. -/
structure Directive where
  /-- How the targets of the events begin. -/
  target : Option String
  /-- Whether the events must be inside a certain span. -/
  hasSpan : Bool
  fields : List FieldMatch
  /-- The greatest rank that passes; zero lets nothing pass. -/
  rank : Nat
deriving DecidableEq, Repr

namespace Directive

/-- The rank that a level spells: its rank, its name in any case, or nothing for
errors. -/
def rank? (text : String) : Option Nat :=
  match Decimal.natural (Nat.pow 2 64 - 1) text with
  | .ok value => if value ≤ 5 then some value else none
  | .error _ =>
      if text.isEmpty then some 1
      else
        (["off", "error", "warn", "info", "debug", "trace"].findIdx? fun name =>
          Text.sameIgnoringCase name text)

/-- The rank after an equals sign; nothing stands for all levels. -/
def assigned? (text : String) : Option Nat :=
  if text.isEmpty then some 5 else rank? text

/-- Whether a directive may start with a symbol. -/
def isStart (symbol : Char) : Bool :=
  ['-', ':', '_'].contains symbol || Text.isAlphanumeric symbol

/-- What part of a directive is being read, and where it starts. -/
inductive Place where
  | start
  /-- A level or a target. -/
  | front (first : Nat)
  | span (first : Nat)
  | field (first : Nat)
  | afterField
  | afterSpan
  | level (first : Nat)
deriving DecidableEq, Repr

/-- A directive that is being read. -/
structure Draft where
  place : Place
  directive : Directive
deriving DecidableEq, Repr

/-- Before the first symbol; without a level all levels pass. -/
def Draft.empty : Draft := ⟨.start, ⟨none, false, [], 5⟩⟩

/-- The part of a text between two places. -/
def part? (text : Bytes) (first last : Nat) : Option String :=
  Bytes.text? ((text.drop first).take (last - first))

/-- Read one symbol and its place. -/
def Draft.step? (text : Bytes) (draft : Draft) (symbol : Char) (position : Nat) : Option Draft :=
  let directive := draft.directive
  match draft.place with
  | .start =>
      if symbol = '[' then some ⟨.span (position + 1), directive⟩
      else if isStart symbol then some ⟨.front position, directive⟩
      else none
  | .front first =>
      if symbol = '=' then do
        let target ← part? text first position
        return ⟨.level (position + 1), { directive with target := some target }⟩
      else if symbol = '[' then do
        let target ← part? text first position
        return ⟨.span (position + 1), { directive with target := some target }⟩
      else some draft
  | .span first =>
      if symbol = ']' then do
        let _ ← part? text first position
        return ⟨.afterSpan, { directive with hasSpan := true }⟩
      else if symbol = '\x7b' then do
        let span ← part? text first position
        return ⟨.field (position + 1), { directive with hasSpan := !span.isEmpty }⟩
      else some draft
  | .field first =>
      if symbol = '\x7d' then do
        let field ← FieldMatch.ofText? (← part? text first position)
        return ⟨.afterField, { directive with fields := directive.fields ++ [field] }⟩
      else some draft
  | .afterField => if symbol = ']' then some ⟨.afterSpan, directive⟩ else none
  | .afterSpan => if symbol = '=' then some ⟨.level (position + 1), directive⟩ else none
  | .level _ => some draft

/-- Read symbols from a place on. -/
def Draft.run? (text : Bytes) (draft : Draft) (position : Nat) : List Char → Option Draft
  | [] => some draft
  | symbol :: rest => do
      let draft ← draft.step? text symbol position
      draft.run? text (position + symbol.utf8Size) rest

/-- The directive of a draft whose text is at its end. -/
def Draft.finish? (text : Bytes) (draft : Draft) : Option Directive :=
  let directive := draft.directive
  match draft.place with
  | .front first => do
      let front ← part? text first text.length
      if front.isEmpty then some directive
      else
        match rank? front with
        | some rank => some { directive with rank := rank }
        | none => some { directive with target := some front }
  | .level first => do
      let rank ← assigned? (← part? text first text.length)
      return { directive with rank := rank }
  | .afterSpan => some directive
  | _ => none

/-- The directive that a text spells. -/
def ofText? (symbols : List Char) : Option Directive := do
  let text := Bytes.ofText (String.ofList symbols)
  let draft ← Draft.empty.run? text 0 (Text.trimSymbols symbols)
  draft.finish? text

/-- Whether a directive concerns events wherever they arise. -/
def isStatic (directive : Directive) : Bool :=
  !directive.hasSpan && directive.fields.all fun field => !field.hasValue

/-- Whether an event has a field; each has its message. -/
def has (event : Event) (name : String) : Bool :=
  name == "message" || event.fields.any fun known => known.1 == name

/-- Whether a directive concerns an event outside of spans. -/
def concerns (directive : Directive) (event : Event) : Bool :=
  directive.isStatic && (directive.target.all fun target => event.target.label.startsWith target) &&
    directive.fields.all fun field => has event field.name

/-- The order of directives, the most specific one the greatest: by the length of the
target, where no target is less than an empty one, then by the number of fields, and
then by their letters. -/
def order (left right : Directive) : Ordering :=
  let size (directive : Directive) : Nat :=
    (directive.target.map fun target => target.utf8ByteSize + 1).getD 0
  let names (directive : Directive) : List String := directive.fields.map FieldMatch.name
  (compare (size left) (size right)).then <|
    (compare left.fields.length right.fields.length).then <|
      (compare (left.target.getD "") (right.target.getD "")).then <|
        List.compareLex compare (names left) (names right)

end Directive
end Admission.Log
