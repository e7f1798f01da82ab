/-
# Answers of the engine

What the engine behind a daemon says to a request: a success, an error with a
message, or nothing that can be used.  An inspection succeeds with a description
of the container, which the client of the engine knows how to read; a container
whose description does not say that it is running is not running.
-/

import ServiceReadiness.Http.Exchange
import ServiceReadiness.Json.Reader
import ServiceReadiness.Text.Utf8

namespace ServiceReadiness

/-- Why a request to the engine failed. -/
inductive EngineFault where
  /-- The engine answered that it did not do it. -/
  | declined (code : UInt16) (message : String)
  /-- There was no answer. -/
  | unanswered (cause : Http.ExchangeFault)
  /-- The answer broke off. -/
  | cutShort
  /-- The answer is not what was asked for. -/
  | unreadable
  deriving DecidableEq, Repr

namespace EngineFault

/-- The sentence of a client that failed at a stage of a request. -/
def clientMessage (stage : String) : String :=
  "Error in the hyper legacy client: client error (" ++ stage ++ ")"

/-- The sentence for a missing answer. -/
def unansweredMessage : Http.ExchangeFault → String
  | .refused _ => clientMessage "Connect"
  | .late => "Timeout error"
  | .closed | .malformed => clientMessage "SendRequest"

/-- The sentence for a failed request. -/
def message : EngineFault → String
  | declined code message =>
    "Docker responded with status code " ++ Numeral.render code.toNat ++ ": " ++ message
  | unanswered cause => unansweredMessage cause
  | cutShort => "error reading a body from connection"
  | unreadable => "Failed to deserialize JSON"

end EngineFault

namespace EngineAnswer

/-- The message that an error's JSON holds. -/
def messageOf? : Json → Option (List Char)
  | .array [.text message] => some message
  | j =>
    match j.values "message" with
    | [.text message] => some message
    | _ => none

/-- The message of an error, from its body: that of the JSON, else the body itself;
nothing if the body is JSON that breaks off. -/
def errorMessage? (body : List Char) : Option (List Char) :=
  if body = [] then some []
  else
    match Json.parse body with
    | .ok j => some ((messageOf? j).getD body)
    | .error .misplaced => some body
    | .error .cutShort => none

/-- The engine did what was asked for. -/
def isDone (s : Http.Status) : Bool := s.isSuccess || s.code == 304 || s.code == 101

/-- The fault that an answer of another status tells. -/
def faultOf (r : Http.Response) : EngineFault :=
  match r.body.map Utf8.text with
  | none => .cutShort
  | some body =>
    match errorMessage? body with
    | none => .unreadable
    | some message => .declined r.status.code (String.ofList message)

/-- What came of a request. -/
def ofExchange (e : Http.Exchange) : Except EngineFault Http.Response :=
  match e.answer with
  | .error cause => .error (.unanswered cause)
  | .ok r => if isDone r.status then .ok r else .error (faultOf r)

/-- An answer that does not break off, whatever it says. -/
def complete (r : Http.Response) : Except EngineFault Unit :=
  match r.body with
  | none => .error .cutShort
  | some _ => .ok ()

/-! ## Descriptions of containers -/

/-- The state of a container, as far as it is looked at. -/
structure ContainerState where
  running : Option Bool := none
  deriving DecidableEq, Repr

/-- The description of a container, as far as it is looked at. -/
structure ContainerInfo where
  state : Option ContainerState := none
  deriving DecidableEq, Repr

/-- A container is running if its description says so. -/
def ContainerInfo.isRunning (i : ContainerInfo) : Bool := (i.state.bind (·.running)).getD false

/-- How the client of an engine reads the body of an answer that describes a container: nothing
if the body is no such description. -/
abbrev InfoReader := List UInt8 → Option ContainerInfo

/-- Whether a container is running, by the answer to an inspection. -/
def inspected (read : InfoReader) (r : Http.Response) : Except EngineFault Bool :=
  match r.body with
  | none => .error .cutShort
  | some body =>
    match read body with
    | none => .error .unreadable
    | some info => .ok info.isRunning

end EngineAnswer
end ServiceReadiness
