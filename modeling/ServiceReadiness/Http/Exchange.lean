/-
# Exchanges

One request over one connection, by a client that gives up after a while.  The
request is sent once a connection is there, and never again: an answer that leads
elsewhere is an answer like any other.
-/

import ServiceReadiness.Http.Response
import ServiceReadiness.Network

namespace ServiceReadiness
namespace Http

/-- Why an exchange has no answer. -/
inductive ExchangeFault where
  | refused (reason : String)
  | late
  /-- The connection closes without an answer. -/
  | closed
  /-- What is sent is no answer. -/
  | malformed
  deriving DecidableEq, Repr

/-- An exchange: the request if it was sent, how long all took, and the answer. -/
structure Exchange where
  sent : Option Request
  duration : Nat
  answer : Except ExchangeFault Response

/-- What is sent in time, or why nothing is. -/
def inTime (bound time : Nat) (answer : Except ExchangeFault Response) :
    Nat × Except ExchangeFault Response :=
  if time ≤ bound then (time, answer) else (bound, .error .late)

theorem inTime_fst_le (bound time : Nat) (answer : Except ExchangeFault Response) :
    (inTime bound time answer).1 ≤ bound := by
  unfold inTime; split <;> simp_all

/-- What comes over a connection that was opened at time `opened`, and when. -/
def receive (bound opened : Nat) (method : String) :
    Conduct → Nat × Except ExchangeFault Response
  | .silent => (bound, .error .late)
  | .closes delay => inTime bound (opened + delay) (.error .closed)
  | .answers delay bytes =>
    inTime bound (opened + delay)
      (match Response.read method bytes with
        | some response => .ok response
        | none => .error .malformed)

theorem receive_fst_le (bound opened : Nat) (method : String) (conduct : Conduct) :
    (receive bound opened method conduct).1 ≤ bound := by
  cases conduct <;> simp [receive, inTime_fst_le]

/-- One request to a service, given up after `bound` milliseconds. -/
def exchange (bound : Nat) (service : Service) (request : Request) : Exchange :=
  match service.connection.within bound with
  | (duration, .refused reason) =>
    { sent := none, duration, answer := .error (.refused reason) }
  | (duration, .late) => { sent := none, duration, answer := .error .late }
  | (opened, .opened) =>
    let (duration, answer) := receive bound opened request.method (service.conduct request)
    { sent := some request, duration, answer }

theorem exchange_duration_le (bound : Nat) (service : Service) (request : Request) :
    (exchange bound service request).duration ≤ bound := by
  have h := Connection.within_fst_le bound service.connection
  unfold exchange
  split
  · simp_all
  · simp_all
  · exact receive_fst_le ..

end Http
end ServiceReadiness
