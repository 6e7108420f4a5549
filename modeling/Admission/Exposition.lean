import Admission.Decision

/-!
# Exported counters

The text form of the counters: decisions by channel, reason and success,
decisions by channel, and key-set refreshes by outcome. Lines are sorted, and a
counter that was never raised has no line.
-/

namespace Admission

/-- What is counted: the decisions and the outcomes of key-set refreshes. -/
structure Tally where
  decisions : List Decision
  refreshes : List Bool
deriving DecidableEq, Repr

namespace Tally

/-- Nothing counted yet. -/
def empty : Tally := ⟨[], []⟩

end Tally

namespace Exposition

/-- A label value between quotes. A backslash that already escapes a quote or a
backslash stays as it is; `held` tells that a backslash waits for what follows. -/
def escape (held : Bool) : List Char → List Char
  | [] => if held then ['\\', '\\'] else []
  | '\n' :: rest => '\\' :: 'n' :: escape held rest
  | '"' :: rest => '\\' :: '"' :: escape false rest
  | '\\' :: rest =>
      if held then '\\' :: '\\' :: escape false rest else escape true rest
  | symbol :: rest =>
      if held then '\\' :: '\\' :: symbol :: escape false rest else symbol :: escape false rest

/-- A line of a counter with its labels. -/
def line (name : String) (labels : List (String × String)) (count : Nat) : String :=
  let written := labels.map fun label =>
    label.1 ++ "=\"" ++ String.ofList (escape false label.2.toList) ++ "\""
  name ++ "\x7b" ++ String.intercalate "," written ++ "\x7d " ++ toString count

/-- The labels of a decision counter. -/
def decisionLabels (decision : Decision) : List (String × String) :=
  [("kind", decision.channel.label), ("reason", decision.reason),
    ("success", if decision.success then "true" else "false")]

/-- Values that occur in a list, each once, with their lines. -/
def counted {α : Type} [BEq α] (values : List α) (written : α → Nat → String) : List String :=
  values.eraseDups.map fun value => written value (values.count value)

/-- All lines, sorted. -/
def lines (tally : Tally) : List String :=
  let decisions := counted (tally.decisions.map decisionLabels) (line "auth_decisions_total")
  let channels := counted (tally.decisions.map (·.channel.label)) fun label count =>
    line "auth_decision_seconds_count" [("kind", label)] count
  let refreshes := counted tally.refreshes fun refreshed count =>
    line "jwks_refresh_total" [("outcome", if refreshed then "ok" else "error")] count
  (decisions ++ channels ++ refreshes).mergeSort fun left right => left ≤ right

end Exposition
end Admission
