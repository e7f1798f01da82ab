/-
# Waiting for a URL to answer

A probe that is ready once its URL answers with a status in range.  An evaluation
is one exchange with the server and remembers nothing.  A server that does not
know the method ends the wait, even when its status is in range; a server that
cannot be reached, or answers with anything that is no answer, is not ready yet.
-/

import ServiceReadiness.Http.Exchange
import ServiceReadiness.StatusRange
import ServiceReadiness.Url.Parser

namespace ServiceReadiness

/-- A probe of a URL. -/
structure HttpProbe where
  url : Url
  method : Http.Method
  status : StatusRange
  deriving DecidableEq, Repr

namespace HttpProbe

/-- The status range that was asked for, `standard` if none was. -/
def chooseStatus (written : Option String) : Except ProbeError StatusRange :=
  match written.map fun text => Blank.trim text.toList with
  | none | some [] => .ok .standard
  | some cs => StatusRange.parse (String.ofList cs)

/-- The probe for a URL, a method and a status range as someone wrote them.  The
first of the three that cannot be used is the one reported. -/
def ofText (url : String) (method status : Option String) : Except ProbeError HttpProbe := do
  let url ← (Url.parse url).mapError fun fault => .invalidUrl url fault.message
  let method ← (Http.Method.choose method).mapError .invalidMethod
  let status ← chooseStatus status
  return { url, method, status }

/-- The name of a probe. -/
def name (p : HttpProbe) : String := p.method.name ++ " " ++ p.url.render

/-- What an answer of a status means to a probe. -/
def classify (p : HttpProbe) (s : Http.Status) : Except ProbeError Bool :=
  if s = .notImplemented then .error (.unsupportedMethod p.method.name p.url.render)
  else .ok (p.status.contains s.code)

/-- The verdict that an answer of a status leads to. -/
def verdict (p : HttpProbe) (s : Http.Status) : Verdict :=
  match p.classify s with
  | .ok true => .ready
  | .ok false => .notReady
  | .error cause => .fatal cause

/-- What a request of a probe asks for: the server itself for `CONNECT`, the path
and query of the URL otherwise. -/
def target (p : HttpProbe) (host : String) : String :=
  if p.method.name = "CONNECT" then
    host ++
      (match p.url.authority.bind (·.port) with
        | none => ""
        | some port => ":" ++ Numeral.render port.toNat)
  else String.ofList p.url.requestTarget

/-- How a probe gets through to its server. -/
inductive Route where
  /-- A plain connection, over which the request is sent. -/
  | plain (endpoint : Endpoint) (request : Http.Request)
  /-- A connection that a server without a certificate cannot secure. -/
  | secured (endpoint : Endpoint)
  /-- The URL is none that a client could follow. -/
  | nowhere
  deriving DecidableEq, Repr

/-- The most bytes that a URL may take for a request to be made of it. -/
def maxUrlLength : Nat := 65534

/-- A character that a URL may have in its host, but a request may not: a double
quotation mark, a backtick or a brace. -/
def isUnaskable (c : Char) : Bool := ['\x22', '\x60', '\x7b', '\x7d'].contains c

/-- A request can be made of the URL of a probe. -/
def isAskable (p : HttpProbe) : Bool :=
  p.url.withoutCredentials.render.utf8ByteSize ≤ maxUrlLength &&
    p.url.hostText?.all fun host => !host.toList.any isUnaskable

/-- The way to the server of a probe. -/
def route (p : HttpProbe) : Route :=
  match p.url.hostText?, p.url.port? with
  | some host, some port =>
    if ¬ p.isAskable then .nowhere
    else if p.url.scheme = "http".toList then .plain ⟨host, port⟩ ⟨p.method.name, p.target host⟩
    else if p.url.scheme = "https".toList then .secured ⟨host, port⟩
    else .nowhere
  | _, _ => .nowhere

/-- A line of a probe of a URL. -/
def line (level : Level) (text : String) : LogLine := ⟨level, .httpProbe, text⟩

/-- The line that reports an answer. -/
def answerLine (p : HttpProbe) (s : Http.Status) : LogLine :=
  line .debug (p.name ++ " answered " ++ s.render)

/-- The line that reports that there was no answer.  What went wrong is told of the
URL without its credentials. -/
def failureLine (p : HttpProbe) (what : String) : LogLine :=
  line .trace
    (p.name ++ " not reachable yet: " ++ what ++ " for url (" ++
      p.url.withoutCredentials.render ++ ")")

/-- One evaluation: as a wait sees it, where it tried to connect, and the request
that it sent. -/
structure Evaluation where
  attempt : Attempt
  dialled : Option Endpoint
  sent : Option Http.Request

/-- An evaluation without an answer. -/
def unanswered (p : HttpProbe) (duration : Nat) (what : String) : Attempt :=
  { duration, verdict := .notReady, notes := [(duration, p.failureLine what)] }

/-- One evaluation on a network. -/
def evaluate (p : HttpProbe) (network : Network) : Evaluation :=
  match p.route with
  | .nowhere =>
    { attempt := p.unanswered 0 "builder error", dialled := none, sent := none }
  | .secured endpoint =>
    let (duration, _) := (network endpoint).connection.within attemptBound
    { attempt := p.unanswered duration "error sending request", dialled := endpoint, sent := none }
  | .plain endpoint request =>
    let e := Http.exchange attemptBound (network endpoint) request
    let attempt :=
      match e.answer with
      | .error _ => p.unanswered e.duration "error sending request"
      | .ok response =>
        { duration := e.duration
          verdict := p.verdict response.status
          notes := [(e.duration, p.answerLine response.status)] }
    { attempt, dialled := endpoint, sent := e.sent }

/-- The readiness check that a probe makes on the networks that its evaluations
find. -/
def check (p : HttpProbe) (networks : Nat → Network) : Probe where
  name := p.name
  attempt call := (p.evaluate (networks call)).attempt

theorem evaluate_duration_le (p : HttpProbe) (network : Network) :
    (p.evaluate network).attempt.duration ≤ attemptBound := by
  unfold evaluate
  split
  · simp [unanswered]
  · simpa [unanswered] using Connection.within_fst_le ..
  · rename_i endpoint request _
    have h := Http.exchange_duration_le attemptBound (network endpoint) request
    simp only
    split <;> simpa [unanswered] using h

end HttpProbe
end ServiceReadiness
