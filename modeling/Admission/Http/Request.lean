import Admission.Http.Header
import Admission.Http.Target

/-!
# Requests

A body is a stream of chunks that ends or breaks. Gathering it succeeds only
when the stream ends and its chunks together stay within a limit.
-/

namespace Admission

/-- A request body as it arrives. -/
structure Body where
  chunks : List Bytes
  /-- Whether the stream breaks after its chunks. -/
  breaks : Bool
deriving DecidableEq, Repr

namespace Body

/-- A body that is already complete. -/
def complete (bytes : Bytes) : Body := ⟨[bytes], false⟩

/-- All bytes of the chunks. -/
def bytes (body : Body) : Bytes := body.chunks.flatten

/-- The whole body, when it ends and has at most `limit` bytes. -/
def gather? (limit : Nat) (body : Body) : Option Bytes :=
  if !body.breaks ∧ body.bytes.length ≤ limit then some body.bytes else none

end Body

/-- A request. -/
structure Request where
  method : String
  target : String
  headers : List Header
  body : Body
deriving DecidableEq, Repr

namespace Request

/-- The path of the request, percent escapes as written. -/
def path (request : Request) : String := Target.path request.target

end Request

namespace Method

/-- The characters of a method name. -/
def isSymbol (symbol : Char) : Bool :=
  symbol.isAlphanum ||
    ['!', '#', '$', '%', '&', Char.ofNat 0x27, '*', '+', '-', '.', '^', '_', Char.ofNat 0x60, '|',
      '~'].contains symbol

/-- Whether a text is a method name. -/
def isToken (method : String) : Bool :=
  !method.isEmpty && method.toList.all isSymbol

end Method
end Admission
