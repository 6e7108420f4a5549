/-!
# Outcomes of computations that may fail

When the steps of a computation that may fail come to a value: each step must,
and the next goes on from it.
-/

namespace Admission.Outcome

variable {Fault OtherFault Value Next : Type}

/-- Two steps come to a value exactly when the first does and the second does from there. -/
theorem bind_eq_ok_iff {first : Except Fault Value} {second : Value → Except Fault Next}
    {result : Next} :
    (first >>= second) = .ok result ↔ ∃ value, first = .ok value ∧ second value = .ok result := by
  cases first with
  | error _ => simp [bind, Except.bind]
  | ok value => simp [bind, Except.bind]

/-- A step that is refused on some ground comes to a value only where the ground is absent. -/
theorem ite_error_eq_ok_iff {ground : Prop} [Decidable ground] {fault : Fault}
    {skipped : Value → Except Fault Next} {rest : Except Fault Next} {result : Next} :
    (if ground then .error fault >>= skipped else rest) = .ok result ↔
      ¬ ground ∧ rest = .ok result := by
  by_cases holds : ground <;> simp [holds, bind, Except.bind]

/-- Two steps fail exactly when the first does, or the second does from where the first led. -/
theorem bind_eq_error_iff {first : Except Fault Value} {second : Value → Except Fault Next}
    {fault : Fault} :
    (first >>= second) = .error fault ↔
      first = .error fault ∨ ∃ value, first = .ok value ∧ second value = .error fault := by
  cases first with
  | error _ => simp [bind, Except.bind]
  | ok value => simp [bind, Except.bind]

/-- Naming a fault otherwise does not make it a value. -/
theorem mapError_eq_ok_iff {first : Except Fault Value} {rename : Fault → OtherFault}
    {value : Value} : first.mapError rename = .ok value ↔ first = .ok value := by
  cases first with
  | error _ => constructor <;> intro impossible <;> cases impossible
  | ok _ => constructor <;> intro same <;> cases same <;> rfl

theorem mapError_eq_error_iff {first : Except Fault Value} {rename : Fault → OtherFault}
    {other : OtherFault} :
    first.mapError rename = .error other ↔ ∃ fault, first = .error fault ∧ rename fault = other := by
  cases first with
  | error fault =>
      constructor
      · exact fun same => ⟨fault, rfl, Except.error.inj same⟩
      · rintro ⟨_, ⟨⟩, rfl⟩
        rfl
  | ok _ =>
      constructor
      · intro impossible
        cases impossible
      · rintro ⟨_, ⟨⟩, _⟩

end Admission.Outcome
