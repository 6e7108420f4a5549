import Admission.Http.Response

/-!
# Methods of a route

A route serves some methods and refuses all others, telling which it serves. The
refusal of a guard takes precedence, but the methods are told even then.
-/

namespace Admission

/-- The methods that a route serves. -/
inductive Methods where
  /-- GET, and HEAD for the same answer without its body. -/
  | reading
  /-- POST alone. -/
  | posting
deriving DecidableEq, Repr

namespace Methods

/-- The served methods, by name. -/
def names : Methods → List String
  | .reading => ["GET", "HEAD"]
  | .posting => ["POST"]

/-- Whether a method is served. -/
def serves (methods : Methods) (method : String) : Bool := methods.names.contains method

/-- The served methods as they are told. -/
def allow (methods : Methods) : String := String.intercalate "," methods.names

/-- The answer of a route without its guard: that of its handler, or the refusal
of the method. -/
def answer (methods : Methods) (method : String) (handled : Response) : Response :=
  if methods.serves method then handled else .bare 405

/-- The answer with the served methods, where the method is not one of them. -/
def tell (methods : Methods) (method : String) (response : Response) : Response :=
  if methods.serves method then response else { response with allow := some methods.allow }

end Methods
end Admission
