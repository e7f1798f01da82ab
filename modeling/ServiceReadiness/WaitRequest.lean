/-
# What to wait for

A wait as it is asked for: a URL with a method and the statuses to accept, ports
of a host, and a container to look after meanwhile.  Its readiness checks are the
URL's, if there is one, and then the ports', if there are any.
-/

import ServiceReadiness.HttpProbe
import ServiceReadiness.TcpProbe

namespace ServiceReadiness

/-- What to wait for, and how. -/
structure WaitRequest where
  url : Option String := none
  method : Option String := none
  status : Option String := none
  tcpHost : String := "localhost"
  tcpPorts : List UInt16 := []
  /-- The seconds to wait at most; zero and less stand for the default. -/
  time : Int64 := 0
  /-- The container to start first. -/
  container : Option String := none
  /-- Leave the container in place when the wait fails. -/
  keep : Bool := false
  /-- Report in JSON. -/
  json : Bool := false
  deriving DecidableEq, Repr

/-- A readiness check. -/
inductive Check where
  | http (probe : HttpProbe)
  | tcp (probe : TcpProbe)
  deriving DecidableEq, Repr

/-- How readiness checks behave: how each evaluation of a check goes, where it tries
to connect, and the request that it sends.  Evaluations are counted from zero. -/
structure CheckBehaviour where
  attempt : Check → Nat → Attempt
  /-- The endpoints to which an evaluation tries to connect, in order. -/
  dialled : Check → Nat → List Endpoint
  /-- The request that an evaluation sends, if it sends one. -/
  sent : Check → Nat → Option Http.Request

/-- The behaviour of checks on the networks that their evaluations find. -/
def CheckBehaviour.ofNetworks (networks : Nat → Network) : CheckBehaviour where
  attempt
    | .http probe => (probe.check networks).attempt
    | .tcp probe => (probe.check networks).attempt
  dialled
    | .http probe, call => (probe.evaluate (networks call)).dialled.toList
    | .tcp probe, call => (probe.after networks call).pending
  sent
    | .http probe, call => (probe.evaluate (networks call)).sent
    | .tcp _, _ => none

namespace Check

/-- The name of a check. -/
def name : Check → String
  | http probe => probe.name
  | tcp probe => probe.name

/-- The probe that makes a check which behaves in a certain way. -/
def probe (behaviour : CheckBehaviour) (c : Check) : Probe where
  name := c.name
  attempt := behaviour.attempt c

@[simp]
theorem name_probe (behaviour : CheckBehaviour) (c : Check) : (c.probe behaviour).name = c.name :=
  rfl

end Check

namespace WaitRequest

/-- The check of the URL that was asked for. -/
def urlCheck (r : WaitRequest) : Except ProbeError (List Check) :=
  match r.url with
  | none => .ok []
  | some url => (HttpProbe.ofText url r.method r.status).map fun p => [.http p]

/-- The check of the ports that were asked for. -/
def portCheck (r : WaitRequest) : List Check :=
  if r.tcpPorts = [] then [] else [.tcp (TcpProbe.ofPorts r.tcpHost r.tcpPorts)]

/-- The readiness checks that were asked for, the URL's before the ports'. -/
def checks (r : WaitRequest) : Except ProbeError (List Check) :=
  r.urlCheck.map (· ++ r.portCheck)

theorem checks_of_url_eq_none {r : WaitRequest} (h : r.url = none) :
    r.checks = .ok r.portCheck := by simp [checks, urlCheck, h, Except.map]

end WaitRequest
end ServiceReadiness
