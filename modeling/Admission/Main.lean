import Admission.Json.Access
import Admission.Json.Reader
import Admission.Json.Writer
import Admission.Startup

/-!
# Command line

The program reads its settings from the environment and takes its requests from
standard input, one JSON object a line, each with the instant at which it
arrives. It writes the logged events and then the responses on standard output,
one JSON object a line. No key endpoint is within its reach.
-/

namespace Admission.CommandLine

/-- The header fields of a request. -/
def headersOf (value : Json) : List Header :=
  (value.itemsAt "headers").filterMap fun
    | .array [.text name, .text content] => some ⟨name, Bytes.ofText content⟩
    | _ => none

/-- The request of a line and the moment at which it arrives; its number stands
for an identifier that it does not bring. -/
def arrival? (line : String) (number : Nat) : Option (Application.Moment × Request) := do
  let value ← Json.ofText? line
  let second ← (value.get "second").integer?
  let now ← Instant.of? second ((value.natAt? "nano").getD 0)
  return (⟨now, now, second.toNat, .unreachable, .unreachable, ⟨0⟩, toString number⟩,
    ⟨value.textOr "method" "GET", value.textOr "uri" "/", headersOf value,
      .complete (Bytes.ofText (value.textAt "body"))⟩)

/-- A response as a value; null when handling could not go on. -/
def responseJson : Option Response → Json
  | none => .null
  | some response =>
      let body := match response.content with
        | .nothing => Json.null
        | .json value => value
        | .text value => .text value
      .object [("status", .nat response.status), ("allow", .optionalText response.allow),
        ("request_id", .optionalText response.requestId),
        ("content_type", .optionalText response.contentType),
        ("body", if response.sendsBody then body else .null)]

/-- The values of variables that are set. -/
def readValues (names : List String) : IO (List (String × Bytes)) :=
  names.filterMapM fun name => do
    let value ← IO.getEnv name
    return value.map fun text => (name, Bytes.ofText text)

/-- The lines of standard input. -/
partial def lines (input : IO.FS.Stream) (earlier : List String) : IO (List String) := do
  let line ← input.getLine
  if line.isEmpty then return earlier.reverse else lines input (line :: earlier)

end Admission.CommandLine

open Admission in
/-- Run the program on the requests of standard input. -/
def main : IO UInt32 := do
  let chosen ← CommandLine.readValues Settings.variableNames
  let named : Startup.Surroundings := ⟨chosen, fun _ => true, []⟩
  let others ← CommandLine.readValues (Startup.otherVariableNames named.lookup)
  let lines ← CommandLine.lines (← IO.getStdin) []
  let requests := lines.zipIdx.filterMap fun entry => CommandLine.arrival? entry.1 entry.2
  let report := Startup.run { named with environment := chosen ++ others } (some requests)
  for event in report.events do
    IO.println event.json.write
  for response in report.responses.getD [] do
    IO.println (CommandLine.responseJson response).write
  IO.eprint report.complaint
  return (report.exitCode.getD 0).toUInt32
