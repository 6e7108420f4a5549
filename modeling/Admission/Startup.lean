import Admission.Application.Assembly
import Admission.Log.Filter
import Admission.Url.Ipv6

/-!
# Startup

The program reads its settings, assembles the application, takes its place on
the network and serves until it is asked to stop. Settings that cannot be read
are reported as text; everything later is logged.
-/

namespace Admission.Startup

/-- A numeric host to listen at. -/
inductive Place.Host where
  /-- Four numbers of 8 bits. -/
  | octets (numbers : List Nat)
  /-- Eight numbers of 16 bits, and the number of a zone. -/
  | pieces (numbers : List Nat) (zone : Nat)
deriving DecidableEq, Repr

/-- Where the program listens. -/
structure Place where
  host : Place.Host
  port : Nat
deriving DecidableEq, Repr

namespace Place

/-- The host that a text denotes: four decimal numbers, or an address of eight
pieces in square brackets, perhaps with the number of its zone. -/
def host? (text : String) : Option Host :=
  match text.toList with
  | '[' :: rest => do
      let (inner, after) ← Text.splitOnce? ']' rest
      if !after.isEmpty then none
      else
        match Text.splitOnce? '%' inner with
        | none => (Url.Ipv6.ofText? inner).map fun pieces => .pieces pieces 0
        | some (address, zone) => do
            let pieces ← Url.Ipv6.ofText? address
            if !zone.isEmpty ∧ zone.all Decimal.isDigit ∧ Decimal.value zone < Nat.pow 2 32 then
              some (.pieces pieces (Decimal.value zone))
            else none
  | symbols => do
      let octets ← (Text.split '.' symbols).mapM Url.Ipv6.octet?
      if octets.length = 4 then some (.octets octets) else none

/-- The text of a host. -/
def Host.text : Host → String
  | .octets numbers => String.intercalate "." (numbers.map toString)
  | .pieces numbers 0 => "[" ++ Url.Ipv6.text numbers ++ "]"
  | .pieces numbers zone => "[" ++ Url.Ipv6.text numbers ++ "%" ++ toString zone ++ "]"

/-- The text of a place. -/
def text (place : Place) : String :=
  place.host.text ++ ":" ++ toString place.port

/-- A host as eight numbers of 16 bits; one of four numbers keeps them at the end. -/
def Host.address : Host → List Nat
  | .octets [first, second, third, fourth] =>
      [0, 0, 0, 0, 0, 0xffff, first * 256 + second, third * 256 + fourth]
  | .octets _ => []
  | .pieces numbers _ => numbers

/-- Whether a host has a form of four numbers. -/
def Host.isShort (host : Host) : Bool :=
  host.address.take 6 == [0, 0, 0, 0, 0, 0xffff]

/-- Whether a host is every address of the machine. -/
def Host.isOpen (host : Host) : Bool :=
  host.address == [0, 0, 0, 0, 0, 0, 0, 0] || host.address == [0, 0, 0, 0, 0, 0xffff, 0, 0]

/-- Whether two places cannot both be taken. -/
def clashes (left right : Place) : Bool :=
  left.port = right.port &&
    (left.host.address == right.host.address || left.host.isOpen || right.host.isOpen)

/-- The place that settings name. -/
def ofSettings? (settings : Settings) : Option Place :=
  (host? settings.host).map fun host => ⟨host, settings.port⟩

end Place

/-- What the program finds around it. -/
structure Surroundings where
  /-- The variables of its environment. -/
  environment : List (String × Bytes)
  /-- Whether the machine has an address. -/
  hasHost : Place.Host → Bool
  /-- The places that others have taken. -/
  taken : List Place

/-- The value of a variable, when it is text. -/
def Surroundings.lookup (surroundings : Surroundings) : Settings.Lookup := fun name =>
  ((surroundings.environment.find? fun entry => entry.1 == name).map (·.2)).bind Bytes.text?

/-- The variables that the program reads besides those of its settings: the log
filter and the secrets of the webhook providers. -/
def otherVariableNames (lookup : Settings.Lookup) : List String :=
  match Settings.ofLookup lookup with
  | .error _ => ["RUST_LOG"]
  | .ok settings =>
      "RUST_LOG" :: settings.providerSecrets.map fun entry =>
        SecretSource.variableName SecretSource.defaultLeading entry.2

/-- Where startup leads. -/
inductive Course where
  /-- The settings cannot be read. -/
  | unconfigured (fault : SettingsFault)
  /-- The program gives up after some events. -/
  | stopped (settings : Settings) (events : List Log.Event)
  /-- The program serves. -/
  | serving (settings : Settings) (application : Application) (events : List Log.Event)

/-- The event of a fault that ends startup. -/
def failure (message : String) (fields : List (String × Json)) : Log.Event :=
  ⟨.error, .program, message, fields⟩

/-- The event of an application that is assembled. -/
def configured (settings : Settings) : Log.Event :=
  ⟨.info, .program, "Authentication configured",
    [("providers", .text (Text.quotedList settings.webhookProviders)),
      ("service_auth", .bool settings.service.isSome), ("user_auth", .bool settings.users.isSome)]⟩

/-- The event of a program that listens. -/
def listening (place : Place) : Log.Event :=
  ⟨.info, .program, "inbound-auth listening", [("addr", .text place.text)]⟩

/-- The event of a program that is asked to stop. -/
def stopping : Log.Event := ⟨.info, .program, "Shutdown signal received", []⟩

/-- Why a place cannot be taken, when it cannot. -/
def Surroundings.obstacle? (surroundings : Surroundings) (place : Place) : Option String :=
  if !surroundings.hasHost place.host then some "Cannot assign requested address (os error 99)"
  else if surroundings.taken.any place.clashes then some "Address already in use (os error 98)"
  else none

/-- Take the place that settings name. -/
def take (surroundings : Surroundings) (settings : Settings) : Except Log.Event Place :=
  match Place.ofSettings? settings with
  | none =>
      .error (failure "Invalid bind address"
        [("error", .text "invalid socket address syntax"), ("host", .text settings.host)])
  | some place =>
      match surroundings.obstacle? place with
      | none => .ok place
      | some obstacle =>
          .error (failure "Failed to bind"
            [("error", .text obstacle), ("addr", .text place.text)])

/-- Start the program. -/
def start (surroundings : Surroundings) : Course :=
  match Settings.ofLookup surroundings.lookup with
  | .error fault => .unconfigured fault
  | .ok settings =>
      match Application.ofSettings settings surroundings.environment with
      | .error fault =>
          .stopped settings
            [failure "Failed to initialise authentication" [("error", .text fault.message)]]
      | .ok application =>
          match take surroundings settings with
          | .error event => .stopped settings [configured settings, event]
          | .ok place => .serving settings application [configured settings, listening place]

/-- Answer requests in order, each at its moment. -/
def serve (application : Application) :
    List (Application.Moment × Request) → List (Option Response) × List Log.Event
  | [] => ([], [])
  | (moment, request) :: rest =>
      let answer := application.respond moment request
      let (responses, events) := serve (answer.application.settle moment) rest
      (answer.response :: responses, answer.events ++ events)

/-- What is seen of the program from outside. -/
structure Report where
  /-- The code with which the program ends, when it does. -/
  exitCode : Option Nat
  /-- The text on the error stream. -/
  complaint : String
  /-- The logged events, where they are written as values. -/
  events : List Log.Event
  /-- The responses, when the program listened. -/
  responses : Option (List (Option Response))

/-- The events that are written as values. -/
def written (surroundings : Surroundings) (settings : Settings) (events : List Log.Event) :
    List Log.Event :=
  match settings.logFormat with
  | .pretty => []
  | .json => events.filter (Log.Filter.ofVariable (surroundings.lookup "RUST_LOG")).passes

/-- Run the program: start it, let it answer the requests that reach it, and ask
it to stop. Without requests it is not asked, and goes on. -/
def run (surroundings : Surroundings)
    (requests : Option (List (Application.Moment × Request))) : Report :=
  match start surroundings with
  | .unconfigured fault => ⟨some 1, fault.message ++ "\n", [], none⟩
  | .stopped settings events => ⟨some 1, "", written surroundings settings events, none⟩
  | .serving settings application events =>
      match requests with
      | none => ⟨none, "", written surroundings settings events, none⟩
      | some requests =>
          let (responses, logged) := serve application requests
          ⟨some 0, "", written surroundings settings (events ++ logged ++ [stopping]),
            some responses⟩

end Admission.Startup
