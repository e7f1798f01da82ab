/-
# Waiting for a container

A wait that looks after the container it is about: the container is started
before the wait, watched along with the readiness checks, and torn down when the
wait fails, unless it is to be kept.  Without a daemon, or without a container to
look after, there is only the wait.

The daemon is told nothing before the checks are known to be usable, and what it
answers at the end changes nothing about the outcome.
-/

import ServiceReadiness.Container.Teardown
import ServiceReadiness.Container.Watch
import ServiceReadiness.WaitReport
import ServiceReadiness.WaitRequest
import ServiceReadiness.Waiter

namespace ServiceReadiness

/-- What a wait does to the world outside. -/
inductive Contacted where
  | daemon (call : DaemonCall)
  | endpoint (endpoint : Endpoint)
  | server (request : Http.Request)
  deriving DecidableEq, Repr

/-- The call to the daemon that a contact is, if it is one. -/
def Contacted.call? : Contacted → Option DaemonCall
  | .daemon call => some call
  | _ => none

/-- The request to a server that a contact is, if it is one. -/
def Contacted.request? : Contacted → Option Http.Request
  | .server request => some request
  | _ => none

/-- Why a wait for a container failed. -/
inductive ManagedFault where
  /-- The checks cannot be used. -/
  | probe (cause : ProbeError)
  /-- The container could not be started. -/
  | container (cause : ContainerError)
  | wait (cause : WaitError)
  deriving DecidableEq, Repr

/-- The sentence for a failed wait. -/
def ManagedFault.message : ManagedFault → String
  | .probe cause => cause.message
  | .container cause => cause.message
  | .wait cause => cause.message

/-- A wait with all that it did, in order.  There is no outcome if it never ends. -/
structure ManagedRun where
  contacts : List Contacted
  logs : List LogLine
  outcome : Option (Except ManagedFault WaitReport)

namespace ManagedRun

/-- The calls to the daemon, in order. -/
def calls (r : ManagedRun) : List DaemonCall := r.contacts.filterMap Contacted.call?

/-- The requests to servers, in order. -/
def requests (r : ManagedRun) : List Http.Request := r.contacts.filterMap Contacted.request?

end ManagedRun

namespace ManagedWait

/-- What the world outside notices of an evaluation: the checks come first, and
whatever comes after them is the watch over the container. -/
def evaluationContacts (behaviour : CheckBehaviour) (checks : List Check)
    (container : Option String) (index call : Nat) : List Contacted :=
  match checks[index]? with
  | some check =>
    (behaviour.dialled check call).map .endpoint ++ (behaviour.sent check call).toList.map .server
  | none => container.toList.map fun id => .daemon (.inspect id call)

/-- What the world outside notices of a wait. -/
def contacts (behaviour : CheckBehaviour) (checks : List Check) (container : Option String)
    (history : Timeline Occurrence) : List Contacted :=
  history.flatMap fun
    | (_, .evaluation index call) => evaluationContacts behaviour checks container index call
    | _ => []

/-- The lines that a wait logs. -/
def logs (history : Timeline Occurrence) : List LogLine :=
  history.filterMap fun
    | (_, .log line) => some line
    | _ => none

/-- The outcome of a wait over checks. -/
def outcome (checks : List Check) (ending : Ending) : Option (Except ManagedFault WaitReport) :=
  match ending, ending.error? with
  | .ready time, _ => some (.ok (WaitReport.ready time (checks.map Check.name)))
  | _, some cause => some (.error (.wait cause))
  | _, none => none

/-- The wait over checks alone. -/
def plain (allowance : Nat) (timing : Timing) (secs : Int) (behaviour : CheckBehaviour)
    (checks : List Check) : ManagedRun :=
  let run := Waiter.waitWithin allowance timing secs none (checks.map (Check.probe behaviour))
  { contacts := contacts behaviour checks none run.history
    logs := logs run.history
    outcome := outcome checks run.ending }

/-- The line that tells that a container stays in place. -/
def keepLine : LogLine := ⟨.info, .waitCommand, "Keeping container after failed wait"⟩

/-- What happens to a container after a wait: nothing if the wait succeeded. -/
def conclude (docker : DockerSettings) (keep : Bool) (daemon : Daemon)
    (registry : TeardownRegistry) :
    Option (Except ManagedFault WaitReport) → List DaemonCall × List LogLine
  | some (.error _) =>
    if keep || docker.keepOnFailure then ([], [keepLine])
    else
      let (teardown, _) := registry.runAll daemon docker.stopGrace
      (teardown.calls, teardown.logs)
  | _ => ([], [])

/-- The wait over checks while a container that was started is watched. -/
def watched (allowance : Nat) (settings : Settings) (request : WaitRequest)
    (behaviour : CheckBehaviour) (checks : List Check) (id : String) (daemon : Daemon) :
    ManagedRun :=
  let (_, registry) := TeardownRegistry.empty.register ⟨id, true⟩
  let probes := checks.map (Check.probe behaviour) ++ [ContainerWatch.probe id (daemon.inspect id)]
  let run := Waiter.waitWithin allowance settings.timing request.time.toInt none probes
  let result := outcome checks run.ending
  let (calls, lines) := conclude settings.docker request.keep daemon registry result
  { contacts := contacts behaviour checks (some id) run.history ++ calls.map .daemon
    logs := logs run.history ++ lines
    outcome := result }

/-- A wait that failed before it began. -/
def rejected (contacts : List Contacted) (fault : ManagedFault) : ManagedRun :=
  { contacts, logs := [], outcome := some (.error fault) }

/-- A wait that something came before. -/
def after (contacts : List Contacted) (logs : List LogLine) (r : ManagedRun) : ManagedRun :=
  { r with contacts := contacts ++ r.contacts, logs := logs ++ r.logs }

/-- The wait that was asked for, of `allowance` rounds at most, with a daemon to look
after its container, over checks that behave in a certain way. -/
def runWithin (allowance : Nat) (settings : Settings) (request : WaitRequest)
    (daemon : Option Daemon) (behaviour : CheckBehaviour) : ManagedRun :=
  match request.checks with
  | .error cause => rejected [] (.probe cause)
  | .ok checks =>
    match request.container, daemon with
    | some id, some daemon =>
      match daemon.start id with
      | .error cause => rejected [.daemon (.start id)] (.container cause)
      | .ok () =>
        after [.daemon (.start id)] (daemon.startNotes id)
          (watched allowance settings request behaviour checks id daemon)
    | _, _ => plain allowance settings.timing request.time.toInt behaviour checks

/-- The wait that was asked for, with a daemon to look after its container.  The
network may be another one in every round. -/
def run (settings : Settings) (request : WaitRequest) (daemon : Option Daemon)
    (networks : Nat → Network) : ManagedRun :=
  runWithin (Waiter.allowance settings.timing request.time.toInt) settings request daemon
    (.ofNetworks networks)

end ManagedWait
end ServiceReadiness
