import Admission.Bytes.Hex
import Admission.Text.Split

/-!
# Request targets

The path of a target is what remains without scheme, authority, query and
fragment. Percent escapes stay as they are written; decoding them is separate.
-/

namespace Admission.Target

/-- Characters that may stand in a scheme. -/
def isSchemeSymbol (symbol : Char) : Bool :=
  symbol.isAlphanum || symbol = '+' || symbol = '-' || symbol = '.'

/-- What follows the authority mark after a scheme, when there is a scheme. -/
def afterScheme? (symbols : List Char) : Option (List Char) :=
  match symbols.dropWhile isSchemeSymbol with
  | ':' :: '/' :: '/' :: rest => some rest
  | _ => none

/-- The symbols before a query or a fragment. -/
def beforeQuery (symbols : List Char) : List Char :=
  symbols.takeWhile fun symbol => symbol != '?' && symbol != '#'

/-- The path of a target: as written when the target starts with a slash or is
an asterisk, at least a slash after an authority with a scheme, and empty for an
authority alone. -/
def path (target : String) : String :=
  match target.toList with
  | '/' :: rest => String.ofList (beforeQuery ('/' :: rest))
  | ['*'] => "*"
  | symbols =>
      match afterScheme? symbols with
      | none => ""
      | some rest =>
          let written := beforeQuery (rest.dropWhile fun symbol =>
            symbol != '/' && symbol != '?' && symbol != '#')
          if written.isEmpty then "/" else String.ofList written

/-- The segments of a path, each after a slash. -/
def segments (path : List Char) : List (List Char) :=
  (Text.split '/' path).drop 1

/-- A segment of the pattern of a part of the path space. -/
structure Segment where
  /-- How the segments begin that it stands for. -/
  literal : List Char
  /-- Whether something must follow; otherwise nothing may. -/
  isOpen : Bool
deriving DecidableEq, Repr

namespace Segment

/-- Put a character in front. -/
def cons (symbol : Char) (segment : Segment) : Segment :=
  { segment with literal := symbol :: segment.literal }

/-- Whether a text is a name and the brace behind it. -/
def isPlaceholder (symbols : List Char) : Bool :=
  symbols.getLast? = some '\x7d' && !symbols.dropLast.isEmpty &&
    symbols.dropLast.all fun symbol => symbol != '*' && symbol != '\x7d'

/-- The segment that a text spells: a name in braces at the end stands for anything,
and a brace that is written twice for itself. -/
def ofText? : List Char → Option Segment
  | [] => some ⟨[], false⟩
  | '\x7b' :: '\x7b' :: rest => (ofText? rest).map (cons '\x7b')
  | '\x7d' :: '\x7d' :: rest => (ofText? rest).map (cons '\x7d')
  | '\x7b' :: rest => if isPlaceholder rest then some ⟨[], true⟩ else none
  | '\x7d' :: _ => none
  | symbol :: rest => (ofText? rest).map (cons symbol)

/-- Whether a segment of a path is one that a segment of a pattern stands for. -/
def accepts (segment : Segment) (symbols : List Char) : Bool :=
  if segment.isOpen then
    segment.literal.isPrefixOf symbols && segment.literal.length < symbols.length
  else segment.literal == symbols

end Segment

/-- The segments of a pattern: not one empty segment alone, and none that begins as
the segments of other patterns do. -/
def pattern? (leading : String) : Option (List Segment) :=
  if !leading.startsWith "/" || leading = "/" then none
  else
    (segments leading.toList).mapM fun segment =>
      if [':', '*'].contains (segment.headD '/') then none else Segment.ofText? segment

/-- What remains of a path behind segments of a pattern. -/
def behind? : List Segment → List (List Char) → Option (List (List Char))
  | [], rest => some rest
  | segment :: others, symbols :: rest =>
      if segment.accepts symbols then behind? others rest else none
  | _ :: _, [] => none

/-- What remains of a path inside a part of the path space, in segments. Where the
pattern ends in a slash so does the start of the part; otherwise the start with a
slash and nothing else is outside. -/
def rest? (pattern : List Segment) (path : List (List Char)) : Option (List (List Char)) :=
  if pattern.getLast? = some ⟨[], false⟩ then
    match behind? pattern.dropLast path with
    | some ([] :: rest) => some rest
    | some [] => none
    | rest => rest
  else
    match behind? pattern path with
    | some [[]] => none
    | rest => rest

/-- Segments as a path; an empty one at the front is its slash. -/
def ofSegments (segments : List (List Char)) : List Char :=
  match ['/'].intercalate segments with
  | '/' :: rest => '/' :: rest
  | rest => '/' :: rest

/-- Whether the segments of a path are those that are written in a pattern, a name
in braces apart. -/
def isWritten (leading path : List (List Char)) : Bool :=
  (leading.zip path).all fun (written, symbols) =>
    written.isEmpty || written == symbols ||
      (Segment.ofText? written = some ⟨[], true⟩)

/-- What a path is inside the part of the path space that a pattern names: what
remains of it, which is a slash for the start itself. A path whose segments are not
those that are written is kept whole. -/
def within? (leading path : String) : Option String := do
  let pattern ← pattern? leading
  if !path.startsWith "/" then none
  else
    let rest ← rest? pattern (segments path.toList)
    if isWritten (segments leading.toList) (segments path.toList) then
      some (String.ofList (ofSegments rest))
    else some path

/-- The bytes of a text whose percent escapes are replaced; a percent sign
without two digits stands for itself. -/
def percentDecode : List Char → Bytes
  | '%' :: high :: low :: rest =>
      match Hex.digitValue? high, Hex.digitValue? low with
      | some high, some low => UInt8.ofNat (high * 16 + low) :: percentDecode rest
      | _, _ => Bytes.ofText "%" ++ percentDecode (high :: low :: rest)
  | symbol :: rest => Bytes.ofText symbol.toString ++ percentDecode rest
  | [] => []

end Admission.Target
