import Admission.Log.Directive

/-!
# Log filters

A filter is a list of directives between commas. Of the directives that concern
an event the most specific one decides, and of equal ones the last; an event that
none concerns does not pass. Only events outside of spans are judged here, so that
directives with a span or with the value of a field are read and then passed over.
-/

namespace Admission.Log

/-- A log filter. -/
structure Filter where
  directives : List Directive
deriving DecidableEq, Repr

namespace Filter

/-- Everything of note, and nothing else. -/
def standard : Filter := ⟨[⟨none, false, [], 3⟩]⟩

/-- The filter that a text spells. -/
def ofText? (text : String) : Option Filter := do
  let parts := (Text.split ',' text.toList).filter fun part => !part.isEmpty
  let directives ← parts.mapM Directive.ofText?
  return ⟨directives⟩

/-- The filter of an environment; one that cannot be read does not count. -/
def ofVariable (value : Option String) : Filter :=
  (value.bind ofText?).getD standard

/-- The more specific one of two directives, the later one of equal ones. -/
def stronger (earlier : Option Directive) (later : Directive) : Option Directive :=
  match earlier with
  | none => some later
  | some earlier => if (earlier.order later).isGT then some earlier else some later

/-- The directive that decides on an event. -/
def deciding? (filter : Filter) (event : Event) : Option Directive :=
  (filter.directives.filter fun directive => directive.concerns event).foldl stronger none

/-- Whether an event passes. -/
def passes (filter : Filter) (event : Event) : Bool :=
  (filter.deciding? event).any fun directive => event.level.rank ≤ directive.rank

end Filter
end Admission.Log
