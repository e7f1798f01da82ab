/-
# The container daemon

The four things that are asked of whatever runs the containers: start one, stop
it with a grace period, remove it, and say whether it is running.  Each may fail
with an error that names the container; an inspection also takes time.
-/

import ServiceReadiness.Probe

namespace ServiceReadiness

/-- The answer to an inspection: how long it takes, `none` for ever, and whether
the container is running. -/
structure Inspection where
  duration : Option Nat := some 0
  answer : Except ContainerError Bool

/-- A daemon.  Inspections of a container are counted from zero. -/
structure Daemon where
  start : String → Except ContainerError Unit
  /-- What is logged of a start that succeeds. -/
  startNotes : String → List LogLine := fun _ => []
  stop : String → Duration → Except ContainerError Unit
  remove : String → Except ContainerError Unit
  inspect : String → Nat → Inspection

/-- A call to a daemon. -/
inductive DaemonCall where
  | start (id : String)
  /-- An inspection, counted from zero. -/
  | inspect (id : String) (call : Nat)
  | stop (id : String) (grace : Duration)
  | remove (id : String)
  deriving DecidableEq, Repr

end ServiceReadiness
