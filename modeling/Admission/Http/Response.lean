import Admission.Json

/-!
# Responses
-/

namespace Admission

/-- What a response carries. -/
inductive Content where
  | nothing
  | json (value : Json)
  | text (value : String)

/-- A response. The content type follows from the content; a body that is not
sent leaves it in place. -/
structure Response where
  status : Nat
  content : Content
  /-- The methods a route allows, when it refused one. -/
  allow : Option String
  /-- The request identifier, when it is reported back. -/
  requestId : Option String
  /-- Whether the body is sent along with the head. -/
  sendsBody : Bool

namespace Response

/-- A response with a JSON body. -/
def json (status : Nat) (value : Json) : Response := ⟨status, .json value, none, none, true⟩

/-- A response with a text body. -/
def text (status : Nat) (value : String) : Response := ⟨status, .text value, none, none, true⟩

/-- A response without content. -/
def bare (status : Nat) : Response := ⟨status, .nothing, none, none, true⟩

/-- The content type of a response. -/
def contentType (response : Response) : Option String :=
  match response.content with
  | .nothing => none
  | .json _ => some "application/json"
  | .text _ => some "text/plain; charset=utf-8"

/-- What is left of a response to a method: no body answers HEAD, nor a
successful CONNECT. -/
def forMethod (response : Response) (method : String) : Response :=
  if method = "HEAD" ∨ (method = "CONNECT" ∧ 200 ≤ response.status ∧ response.status < 300) then
    { response with sendsBody := false }
  else response

/-- Not found, without content. -/
def notFound : Response := bare 404

/-- The standard reason phrase of a status code. -/
def reasonPhrase? : Nat → Option String
  | 100 => some "Continue"
  | 101 => some "Switching Protocols"
  | 102 => some "Processing"
  | 103 => some "Early Hints"
  | 200 => some "OK"
  | 201 => some "Created"
  | 202 => some "Accepted"
  | 203 => some "Non Authoritative Information"
  | 204 => some "No Content"
  | 205 => some "Reset Content"
  | 206 => some "Partial Content"
  | 207 => some "Multi-Status"
  | 208 => some "Already Reported"
  | 226 => some "IM Used"
  | 300 => some "Multiple Choices"
  | 301 => some "Moved Permanently"
  | 302 => some "Found"
  | 303 => some "See Other"
  | 304 => some "Not Modified"
  | 305 => some "Use Proxy"
  | 307 => some "Temporary Redirect"
  | 308 => some "Permanent Redirect"
  | 400 => some "Bad Request"
  | 401 => some "Unauthorized"
  | 402 => some "Payment Required"
  | 403 => some "Forbidden"
  | 404 => some "Not Found"
  | 405 => some "Method Not Allowed"
  | 406 => some "Not Acceptable"
  | 407 => some "Proxy Authentication Required"
  | 408 => some "Request Timeout"
  | 409 => some "Conflict"
  | 410 => some "Gone"
  | 411 => some "Length Required"
  | 412 => some "Precondition Failed"
  | 413 => some "Payload Too Large"
  | 414 => some "URI Too Long"
  | 415 => some "Unsupported Media Type"
  | 416 => some "Range Not Satisfiable"
  | 417 => some "Expectation Failed"
  | 418 => some "I'm a teapot"
  | 421 => some "Misdirected Request"
  | 422 => some "Unprocessable Entity"
  | 423 => some "Locked"
  | 424 => some "Failed Dependency"
  | 425 => some "Too Early"
  | 426 => some "Upgrade Required"
  | 428 => some "Precondition Required"
  | 429 => some "Too Many Requests"
  | 431 => some "Request Header Fields Too Large"
  | 451 => some "Unavailable For Legal Reasons"
  | 500 => some "Internal Server Error"
  | 501 => some "Not Implemented"
  | 502 => some "Bad Gateway"
  | 503 => some "Service Unavailable"
  | 504 => some "Gateway Timeout"
  | 505 => some "HTTP Version Not Supported"
  | 506 => some "Variant Also Negotiates"
  | 507 => some "Insufficient Storage"
  | 508 => some "Loop Detected"
  | 510 => some "Not Extended"
  | 511 => some "Network Authentication Required"
  | _ => none

end Response
end Admission
