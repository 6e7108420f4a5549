import Admission.Text.Split

/-!
# Encoded labels

The ASCII form of an international label: its ASCII characters, a hyphen, and
the other characters as numbers in base 36 of variable length, each number
telling how far on the next insertion is.
-/

namespace Admission.Url.Punycode

/-- The value of a digit of either case. -/
def digitValue? (symbol : Char) : Option Nat :=
  if 'a' ≤ symbol ∧ symbol ≤ 'z' then some (symbol.toNat - 97)
  else if 'A' ≤ symbol ∧ symbol ≤ 'Z' then some (symbol.toNat - 65)
  else if '0' ≤ symbol ∧ symbol ≤ '9' then some (symbol.toNat - 22)
  else none

/-- The digit at a place from which on more digits follow. -/
def threshold (place bias : Nat) : Nat := max 1 (min 26 (place - bias))

/-- A number at the front, with the rest. Numbers and the weights of their digits
have at most 32 bits. -/
def number? (bias place weight total : Nat) : List Char → Option (Nat × List Char)
  | [] => none
  | symbol :: rest => do
      let digit ← digitValue? symbol
      let total := total + digit * weight
      let least := threshold place bias
      if Nat.pow 2 32 ≤ total then none
      else if digit < least then some (total, rest)
      else if Nat.pow 2 32 ≤ weight * (36 - least) then none
      else number? bias (place + 36) (weight * (36 - least)) total rest

theorem length_rest_lt {bias place weight total number : Nat} {symbols rest : List Char}
    (read : number? bias place weight total symbols = some (number, rest)) :
    rest.length < symbols.length := by
  induction symbols generalizing place weight total with
  | nil => simp [number?] at read
  | cons symbol tail inductionHypothesis =>
      simp only [number?, Option.bind_eq_bind, Option.bind_eq_some_iff] at read
      obtain ⟨digit, _, read⟩ := read
      split at read
      · exact absurd read (by simp)
      · split at read
        · have same : tail = rest := by simpa using (Option.some.inj read |> congrArg Prod.snd)
          subst same
          exact Nat.lt_succ_self _
        · split at read
          · exact absurd read (by simp)
          · exact Nat.lt_succ_of_lt (inductionHypothesis read)

/-- Divide a distance down to the range of one place, counting the places. -/
def shrink (distance places : Nat) : Nat × Nat :=
  if 455 < distance then shrink (distance / 35) (places + 36) else (distance, places)
termination_by distance
decreasing_by omega

/-- The bias after an insertion. -/
def adapt (distance count : Nat) (first : Bool) : Nat :=
  let halved := if first then distance / 700 else distance / 2
  let (distance, places) := shrink (halved + halved / count) 0
  places + 36 * distance / (distance + 38)

/-- Insert characters until the numbers end. -/
def insertAll? (bias code position : Nat) (label symbols : List Char) : Option (List Char) :=
  if symbols.isEmpty then some label
  else
    match _read : number? bias 36 1 position symbols with
    | none => none
    | some (reached, rest) =>
        let count := label.length + 1
        let next := code + reached / count
        if next.isValidChar then
          insertAll? (adapt (reached - position) count (position = 0)) next (reached % count + 1)
            (label.insertIdx (reached % count) (Char.ofNat next)) rest
        else none
termination_by symbols.length
decreasing_by exact length_rest_lt _read

/-- The label that an ASCII form stands for. A hyphen at the front ends no
characters, and is no digit either. -/
def decode? (form : List Char) : Option (List Char) :=
  match Text.splitLast? '-' form with
  | some ([], _) => none
  | some (plain, numbers) => insertAll? 72 128 0 plain numbers
  | none => insertAll? 72 128 0 [] form

end Admission.Url.Punycode
