/-!
# Token faults
-/

namespace Admission

/-- Why a token is not accepted as signed and current. -/
inductive TokenFault where
  /-- The token does not have three parts. -/
  | malformed
  | base64
  | json
  /-- The token is signed by another algorithm than its key. -/
  | algorithm
  | signature
  | missingClaim (name : String)
  | expired
  | issuer
  | audience
deriving DecidableEq, Repr

/-- The wording of a fault. -/
def TokenFault.message : TokenFault → String
  | .malformed => "InvalidToken"
  | .base64 => "Base64 error"
  | .json => "JSON error"
  | .algorithm => "InvalidAlgorithm"
  | .signature => "InvalidSignature"
  | .missingClaim name => "Missing required claim: " ++ name
  | .expired => "ExpiredSignature"
  | .issuer => "InvalidIssuer"
  | .audience => "InvalidAudience"

end Admission
