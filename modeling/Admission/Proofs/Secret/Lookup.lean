import Admission.Secret

/-!
# Lookups of secrets

Which secret a lookup finds, and that lookups do not disturb each other: with an
unchanging source, what a lookup finds does not depend on lookups before it.
-/

namespace Admission.SecretCache

variable {cache : SecretCache} {timeout : Duration} {source : SecretSource}
  {name other : String} {secret : Secret}

/-- A name resolves to a secret when the secret is remembered, or when nothing is
remembered and the source answers in time with a secret that is not empty. -/
def Resolves (cache : SecretCache) (timeout : Duration) (source : SecretSource) (name : String)
    (secret : Secret) : Prop :=
  cache.cached? name = some secret ∨
    cache.cached? name = none ∧ source.answer name = .ok secret ∧
      source.delay.nanoseconds ≤ timeout.nanoseconds ∧ secret.isEmpty = false

theorem accept_eq_ok_iff {delay : Duration} {answer : Except SecretFault Secret} :
    accept name timeout delay answer = .ok secret ↔
      answer = .ok secret ∧ delay.nanoseconds ≤ timeout.nanoseconds ∧ secret.isEmpty = false := by
  unfold accept
  by_cases late : timeout.nanoseconds < delay.nanoseconds
  · rw [if_pos late]
    simp only [reduceCtorEq, false_iff, not_and]
    omega
  · rw [if_neg late]
    cases answer with
    | error fault => simp
    | ok found =>
        by_cases empty : found.isEmpty = true
        · simp only [empty, if_true, reduceCtorEq, Except.ok.injEq, false_iff, not_and]
          rintro rfl _
          simp [empty]
        · simp only [empty, Except.ok.injEq]
          constructor
          · intro same
            have same : found = secret := by simpa using same
            subst same
            exact ⟨rfl, by omega, by simpa using empty⟩
          · rintro ⟨rfl, _, _⟩
            simp

/-- A lookup finds exactly the secret that the name resolves to. -/
theorem get_result_eq_ok_iff :
    (cache.get timeout source name).result = .ok secret ↔
      cache.Resolves timeout source name secret := by
  unfold get Resolves
  cases remembered : cache.cached? name with
  | none => simp [accept_eq_ok_iff]
  | some found => simp

/-- A name resolves to one secret only. -/
theorem Resolves.unique {found : Secret} (first : cache.Resolves timeout source name secret)
    (second : cache.Resolves timeout source name found) : secret = found := by
  rw [← get_result_eq_ok_iff] at first second
  rw [first] at second
  exact Except.ok.inj second

/-- Remembering a secret changes what is remembered of its name alone. -/
theorem cached?_remember :
    (cache.remember name secret).cached? other =
      if other = name then some secret else cache.cached? other := by
  unfold remember cached? evict
  by_cases same : name = other
  · simp [same]
  · rw [if_neg (Ne.symm same), List.find?_cons_of_neg (by simpa using same), List.find?_filter]
    congr 2
    funext entry
    by_cases hit : entry.1 = other
    · simp [hit, Ne.symm same]
    · simp [hit]

/-- What a lookup finds is not changed by a lookup before it. -/
theorem get_get_result :
    ((cache.get timeout source name).cache.get timeout source other).result =
      (cache.get timeout source other).result := by
  unfold get
  cases remembered : cache.cached? name with
  | some found => rfl
  | none =>
      dsimp only
      cases accepted : accept name timeout source.delay (source.answer name) with
      | error fault => rfl
      | ok found =>
          simp only [store, cached?_remember]
          by_cases same : other = name
          · subst same
            simp [remembered, accepted]
          · rw [if_neg same]
            cases cache.cached? other <;> rfl

/-- What a name resolves to is not changed by a lookup. -/
theorem resolves_get_iff :
    (cache.get timeout source name).cache.Resolves timeout source other secret ↔
      cache.Resolves timeout source other secret := by
  rw [← get_result_eq_ok_iff, get_get_result, get_result_eq_ok_iff]

end Admission.SecretCache
