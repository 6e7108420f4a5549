import Admission.KeySet.Cache
import Admission.Url

/-!
# Addresses of key sets

Keys are fetched over a protected connection only, except from the own machine.
-/

namespace Admission

/-- Why an address serves no keys. -/
inductive KeyAddressFault where
  /-- The text is no address. -/
  | malformed (address : String) (fault : Url.Fault)
  | unprotected (address : String)
deriving DecidableEq, Repr

namespace KeyAddressFault

/-- The wording of a fault. -/
def message : KeyAddressFault → String
  | .malformed address fault => "invalid JWKS URL: " ++ address ++ ": " ++ fault.message
  | .unprotected address => "invalid JWKS URL: " ++ address ++ ": JWKS must be served over HTTPS"

end KeyAddressFault

namespace KeyCache

/-- Whether keys may be fetched from an address. -/
def checkAddress (address : String) : Except KeyAddressFault Unit :=
  match Url.ofText address with
  | .error fault => .error (.malformed address fault)
  | .ok url => if url.isProtected then .ok () else .error (.unprotected address)

/-- A cache without keys for an address. -/
def atAddress (settings : Settings) (address : String) : Except KeyAddressFault KeyCache :=
  (checkAddress address).map fun _ => cold settings

end KeyCache
end Admission
