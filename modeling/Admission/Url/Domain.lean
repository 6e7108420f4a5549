import Admission.Bytes
import Admission.Url.Direction
import Admission.Url.Joining
import Admission.Url.Mapping
import Admission.Url.Punycode

/-!
# Domain names

A name is mapped and divided into labels. Most ASCII signs may stand in no label,
a label may not begin with a mark, joiners have their places, and writing
directions do not mix. A label in the ASCII form of an international one must be
the form of a label that mapping leaves as it is.
-/

namespace Admission.Url.Domain

/-- ASCII characters that no name may have. -/
def isForbidden (symbol : Char) : Bool :=
  symbol.toNat ≤ 0x20 || symbol.toNat = 0x7f ||
    ['%', '#', '/', ':', '<', '>', '?', '@', '[', '\\', ']', '^', '|'].contains symbol

/-- Whether all characters of a text are ASCII characters. -/
def isAscii (symbols : List Char) : Bool :=
  symbols.all fun symbol => symbol.toNat < 0x80

/-- What follows the mark of an ASCII form of an international label. -/
def encoded? : List Char → Option (List Char)
  | 'x' :: 'n' :: '-' :: '-' :: rest => some rest
  | _ => none

/-- The greatest length of what follows the mark of an ASCII form. -/
def greatestCode : Nat := 2000

/-- The greatest length of an international label. -/
def greatestLabel : Nat := 1000

/-- The international label whose ASCII form is known. -/
def decoded? (code : List Char) : Option (List Char) := do
  if !isAscii code || greatestCode < code.length || code.getLast?.all (· = '-') then none
  else
    let label ← Punycode.decode? code
    if Mapping.ofName? label = some label ∧ (encoded? label).isNone then some label else none

/-- A mapped label as it is shown. -/
def shown? (label : List Char) : Option (List Char) :=
  match encoded? label with
  | none => some label
  | some code => decoded? code

/-- Whether a shown label may stand in a name. -/
def isLabel (label : List Char) : Bool :=
  !(label.any isForbidden) && !(label.head?.any Text.isMark) && Joining.isSound [] label &&
    (isAscii label || label.length ≤ greatestLabel)

/-- Whether the labels of a name keep to their directions. -/
def isDirected (labels : List (List Char)) : Bool :=
  !(labels.any fun label => label.any Direction.isRightward) || labels.all Direction.isSound

/-- The name whose UTF-8 form the bytes are, when it is one. -/
def ofBytes? (bytes : Bytes) : Option (List Char) := do
  let text ← bytes.text?
  let name ← Mapping.ofName? text.toList
  let labels ← (Text.split '.' name).mapM shown?
  if labels.all isLabel && isDirected labels then some name else none

end Admission.Url.Domain
