/-
# Waiting for ports to open

A probe that is ready once every port of a host has accepted a connection.  A
port that has accepted one counts as open from then on and is not tried again, so
the pending targets only become fewer.

An evaluation takes the pending targets out, tries them one after the other, and
puts back those that did not open when it is through with all of them.
-/

import ServiceReadiness.Network

namespace ServiceReadiness

/-- A probe of the ports of a host. -/
structure TcpProbe where
  host : String
  ports : List UInt16
  /-- The targets that have not accepted a connection yet, in input order. -/
  pending : List Endpoint
  deriving DecidableEq, Repr

namespace TcpProbe

/-- A probe to which every port is pending. -/
def ofPorts (host : String) (ports : List UInt16) : TcpProbe :=
  { host, ports, pending := ports.map (⟨host, ·⟩) }

/-- The name of a probe: the host and all its ports. -/
def name (p : TcpProbe) : String :=
  "tcp " ++ p.host ++ ":[" ++ ",".intercalate (p.ports.map (Numeral.render ·.toNat)) ++ "]"

/-- A line of a probe of ports. -/
def line (level : Level) (text : String) : LogLine := ⟨level, .tcpProbe, text⟩

/-- The line that reports how an attempt to connect ended. -/
def contactLine (target : Endpoint) : Contact → LogLine
  | .opened => line .debug (target.render ++ " accepted a connection")
  | .refused reason => line .trace (target.render ++ " not open yet: " ++ reason)
  | .late =>
    line .trace (target.render ++ " timed out after " ++ (Duration.ofMillis attemptBound).render)

/-- What became of targets that were tried one after the other. -/
structure Sweep where
  endedAt : Nat
  notes : Timeline LogLine
  /-- The targets that did not open, in order. -/
  closed : List Endpoint
  deriving DecidableEq, Repr

/-- Tries targets one after the other from time `now` on, each for as long as one
attempt may take. -/
def sweep (network : Network) : (now : Nat) → List Endpoint → Sweep
  | now, [] => ⟨now, [], []⟩
  | now, target :: rest =>
    let (duration, contact) := (network target).connection.within attemptBound
    let later := sweep network (now + duration) rest
    { later with
      notes := (now + duration, contactLine target contact) :: later.notes
      closed := if contact = .opened then later.closed else target :: later.closed }

/-- Takes the pending targets out. -/
def takePending (p : TcpProbe) : List Endpoint × TcpProbe := (p.pending, { p with pending := [] })

/-- A probe after an evaluation, which is dropped at `cut` if it still runs
then. -/
def evaluate (p : TcpProbe) (network : Network) (cut : Option Nat) : TcpProbe :=
  let (targets, emptied) := p.takePending
  let s := sweep network 0 targets
  match cutBefore cut s.endedAt with
  | some _ => emptied
  | none => { emptied with pending := s.closed }

/-- The evaluation of a probe, as a wait sees it when it is not dropped. -/
def attempt (p : TcpProbe) (network : Network) : Attempt :=
  let s := sweep network 0 p.pending
  { duration := s.endedAt
    verdict := if s.closed = [] then .ready else .notReady
    notes := s.notes }

/-- A probe after so many evaluations, each of them on its own network. -/
def after (p : TcpProbe) (networks : Nat → Network) : Nat → TcpProbe
  | 0 => p
  | k + 1 => (p.after networks k).evaluate (networks k) none

/-- Lets go of what a probe holds between its evaluations, which is nothing. -/
def release (p : TcpProbe) : Except ProbeError TcpProbe := .ok p

/-- The readiness check that a probe makes on the networks that its evaluations
find. -/
def check (p : TcpProbe) (networks : Nat → Network) : Probe where
  name := p.name
  attempt call := (p.after networks call).attempt (networks call)
  releaseError :=
    match p.release with
    | .ok _ => none
    | .error cause => some cause

@[simp]
theorem pending_ofPorts (host : String) (ports : List UInt16) :
    (ofPorts host ports).pending = ports.map (⟨host, ·⟩) := rfl

theorem evaluate_none (p : TcpProbe) (network : Network) :
    p.evaluate network none = { p with pending := (sweep network 0 p.pending).closed } := by
  simp [evaluate, takePending]

/-- **An evaluation is ready exactly when nothing is pending after it.** -/
theorem attempt_verdict_eq_ready_iff (p : TcpProbe) (network : Network) :
    (p.attempt network).verdict = .ready ↔ (p.evaluate network none).pending = [] := by
  rw [evaluate_none, attempt]
  by_cases h : (sweep network 0 p.pending).closed = [] <;> simp [h]

end TcpProbe
end ServiceReadiness
