import Admission.Bytes
import Admission.Text.Blank
import Admission.Time.Instant

/-!
# Secrets

A secret is asked for by name from a source and remembered once it has been
obtained. Failures and empty secrets are never remembered. Asking has three
steps: looking into the cache, the source's answer, and storing it; a lookup
performs them one after the other.
-/

namespace Admission

/-- Bytes that are never shown. -/
structure Secret where
  bytes : Bytes
deriving DecidableEq

namespace Secret

/-- Whether the secret has no bytes. -/
def isEmpty (secret : Secret) : Bool := secret.bytes.isEmpty

/-- How a secret appears in messages: by its length only. -/
def shown (secret : Secret) : String :=
  "Secret([REDACTED; " ++ toString secret.bytes.length ++ "])"

end Secret

/-- Why a secret is not obtained. -/
inductive SecretFault where
  | notFound (name : String)
  | unavailable (reason : String)
deriving DecidableEq, Repr

namespace SecretFault

/-- The wording of a fault. -/
def message : SecretFault → String
  | .notFound name => "secret not found: " ++ name
  | .unavailable reason => "secret backend unavailable: " ++ reason

end SecretFault

/-- Where secrets come from. -/
inductive SecretSource where
  /-- Named answers, each given after a delay. -/
  | table (answers : List (String × Except SecretFault Secret)) (delay : Duration)
  /-- Variables of an environment whose names start alike. -/
  | environment (leading : String) (values : List (String × Bytes))

namespace SecretSource

/-- The leading part of variable names when none is chosen. -/
def defaultLeading : String := "WEBHOOK_SECRET_"

/-- The character that stands for one of a secret name in a variable name. -/
def variableSymbol (symbol : Char) : Char :=
  if symbol.isAlphanum then symbol.toUpper else '_'

/-- The variable that holds a secret. -/
def variableName (leading name : String) : String :=
  leading ++ String.ofList (name.toList.map variableSymbol)

/-- The answer to a request for a secret. A variable that is unset, empty or not
UTF-8 holds none. -/
def answer (source : SecretSource) (name : String) : Except SecretFault Secret :=
  match source with
  | .table answers _ =>
      match answers.find? fun entry => entry.1 == name with
      | some entry => entry.2
      | none => .error (.notFound name)
  | .environment leading values =>
      match values.find? fun entry => entry.1 == variableName leading name with
      | some (_, value) =>
          if value.isEmpty ∨ value.text?.isNone then .error (.notFound name) else .ok ⟨value⟩
      | none => .error (.notFound name)

/-- How long the source takes to answer. -/
def delay : SecretSource → Duration
  | .table _ delay => delay
  | .environment _ _ => ⟨0⟩

/-- Change one named answer of a table. -/
def put (source : SecretSource) (name : String) (value : Except SecretFault Secret) :
    SecretSource :=
  match source with
  | .table answers delay =>
      .table ((name, value) :: answers.filter fun entry => entry.1 != name) delay
  | .environment leading values => .environment leading values

end SecretSource

/-- Secrets obtained so far, at most one for each name. -/
structure SecretCache where
  entries : List (String × Secret)

namespace SecretCache

/-- Nothing remembered. -/
def empty : SecretCache := ⟨[]⟩

/-- The remembered secret of a name. -/
def cached? (cache : SecretCache) (name : String) : Option Secret :=
  (cache.entries.find? fun entry => entry.1 == name).map (·.2)

/-- Whether the secret of a name is remembered. Forgetting it reports so. -/
def remembers (cache : SecretCache) (name : String) : Bool := (cache.cached? name).isSome

/-- The number of remembered secrets. -/
def size (cache : SecretCache) : Nat := cache.entries.length

/-- Forget one secret. -/
def evict (cache : SecretCache) (name : String) : SecretCache :=
  ⟨cache.entries.filter fun entry => entry.1 != name⟩

/-- Forget every secret. -/
def clear (_ : SecretCache) : SecretCache := empty

/-- Remember a secret in place of an earlier one of its name. -/
def remember (cache : SecretCache) (name : String) (secret : Secret) : SecretCache :=
  ⟨(name, secret) :: (cache.evict name).entries⟩

/-- What an answer of the source means to the caller: it must come in time and
must not be empty. -/
def accept (name : String) (timeout delay : Duration) (answer : Except SecretFault Secret) :
    Except SecretFault Secret :=
  if timeout.nanoseconds < delay.nanoseconds then
    .error (.unavailable ("lookup of " ++ name ++ " timed out"))
  else
    match answer with
    | .error fault => .error fault
    | .ok secret =>
        if secret.isEmpty then .error (.unavailable ("secret " ++ name ++ " is empty"))
        else .ok secret

/-- Keep an accepted answer. -/
def store (cache : SecretCache) (name : String) (accepted : Except SecretFault Secret) :
    SecretCache :=
  match accepted with
  | .ok secret => cache.remember name secret
  | .error _ => cache

/-- The result of a lookup. -/
structure Lookup where
  result : Except SecretFault Secret
  cache : SecretCache
  /-- Whether the source was asked. -/
  asked : Bool

/-- The secret of a name, from the cache or else from the source. -/
def get (cache : SecretCache) (timeout : Duration) (source : SecretSource) (name : String) :
    Lookup :=
  match cache.cached? name with
  | some secret => ⟨.ok secret, cache, false⟩
  | none =>
      let accepted := accept name timeout source.delay (source.answer name)
      ⟨accepted, cache.store name accepted, true⟩

/-- Lookups one after the other. -/
def getEach (cache : SecretCache) (timeout : Duration) (source : SecretSource) :
    List String → List Lookup
  | [] => []
  | name :: rest =>
      let first := cache.get timeout source name
      first :: first.cache.getEach timeout source rest

/-- The answers to lookups that have already looked into the cache, in order. -/
def answerEach (cache : SecretCache) (timeout : Duration) (source : SecretSource) :
    List (String × Option Secret) → List Lookup
  | [] => []
  | (_, some secret) :: rest =>
      ⟨.ok secret, cache, false⟩ :: cache.answerEach timeout source rest
  | (name, none) :: rest =>
      let accepted := accept name timeout source.delay (source.answer name)
      let stored := cache.store name accepted
      ⟨accepted, stored, true⟩ :: stored.answerEach timeout source rest

/-- Lookups started together, in order. All of them look into the cache before
the first answer arrives, unless the source answers at once. -/
def getTogether (cache : SecretCache) (timeout : Duration) (source : SecretSource)
    (names : List String) : List Lookup :=
  if source.delay.nanoseconds = 0 then cache.getEach timeout source names
  else cache.answerEach timeout source (names.map fun name => (name, cache.cached? name))

end SecretCache
end Admission
