/-
# Tearing containers down

What this process started it also stops, newest first.  An action stops one
container and removes it if that is asked for and the stop succeeded.  The
registry holds each action once, in the order of registration; running it
empties it, and a failure in one action does not keep the others from running.
-/

import ServiceReadiness.Container.Daemon

namespace ServiceReadiness

/-- Stop a container, and remove it if asked to. -/
structure TeardownAction where
  container : String
  remove : Bool
  deriving DecidableEq, Repr

/-- What an action, or a run of several, asks of the daemon, logs and results in. -/
structure Teardown (α : Type) where
  calls : List DaemonCall
  logs : List LogLine
  result : α
  deriving Repr

namespace TeardownAction

/-- A line that reports a step of an action. -/
def doneLine (what id : String) : LogLine := ⟨.info, .teardown, what ++ " container " ++ id⟩

/-- Removes the container of an action, if asked to. -/
def executeRemove (a : TeardownAction) (d : Daemon) : Teardown (Except ContainerError Unit) :=
  if a.remove then
    match d.remove a.container with
    | .ok () => ⟨[.remove a.container], [doneLine "Removed" a.container], .ok ()⟩
    | .error e => ⟨[.remove a.container], [], .error e⟩
  else ⟨[], [], .ok ()⟩

/-- Stops the container of an action, then removes it if asked to. -/
def execute (a : TeardownAction) (d : Daemon) (grace : Duration) :
    Teardown (Except ContainerError Unit) :=
  match d.stop a.container grace with
  | .ok () =>
    let removal := a.executeRemove d
    ⟨.stop a.container grace :: removal.calls, doneLine "Stopped" a.container :: removal.logs,
      removal.result⟩
  | .error e => ⟨[.stop a.container grace], [], .error e⟩

/-- The line that reports an action that failed. -/
def failureLine (a : TeardownAction) (e : ContainerError) : LogLine :=
  ⟨.warn, .teardown, "Shutdown of container " ++ a.container ++ " failed: " ++ e.message⟩

end TeardownAction

/-- The actions to run at the end, oldest first. -/
structure TeardownRegistry where
  actions : List TeardownAction := []
  deriving DecidableEq, Repr

namespace TeardownRegistry

/-- The registry without actions. -/
def empty : TeardownRegistry := {}

/-- A registry holds no action. -/
def isEmpty (r : TeardownRegistry) : Bool := r.actions.isEmpty

/-- Adds an action after those already there, unless it is one of them; also says
whether it was added. -/
def register (r : TeardownRegistry) (a : TeardownAction) : Bool × TeardownRegistry :=
  if a ∈ r.actions then (false, r) else (true, ⟨r.actions ++ [a]⟩)

theorem actions_register (r : TeardownRegistry) (a : TeardownAction) :
    (r.register a).2.actions = if a ∈ r.actions then r.actions else r.actions ++ [a] := by
  unfold register; split <;> simp_all

theorem mem_register (r : TeardownRegistry) (a : TeardownAction) :
    a ∈ (r.register a).2.actions := by
  rw [actions_register]; split <;> simp_all

/-- Takes all actions out, newest first. -/
def drain (r : TeardownRegistry) : List TeardownAction × TeardownRegistry :=
  (r.actions.reverse, empty)

/-- Runs actions one after the other and counts those that failed.  The daemon may be another
one whenever an action comes to it: `daemons a` is what the action `a` finds. -/
def runEachOn (daemons : TeardownAction → Daemon) (grace : Duration) :
    List TeardownAction → Teardown Nat
  | [] => ⟨[], [], 0⟩
  | a :: rest =>
    let first := a.execute (daemons a) grace
    let others := runEachOn daemons grace rest
    match first.result with
    | .ok () => ⟨first.calls ++ others.calls, first.logs ++ others.logs, others.result⟩
    | .error e =>
      ⟨first.calls ++ others.calls, first.logs ++ a.failureLine e :: others.logs,
        others.result + 1⟩

/-- Runs actions on a daemon that stays the same. -/
def runEach (d : Daemon) (grace : Duration) (actions : List TeardownAction) : Teardown Nat :=
  runEachOn (fun _ => d) grace actions

/-- Runs all actions, newest first, each on the daemon that it finds, and empties the
registry. -/
def runAllOn (r : TeardownRegistry) (daemons : TeardownAction → Daemon) (grace : Duration) :
    Teardown Nat × TeardownRegistry :=
  let (actions, rest) := r.drain
  (runEachOn daemons grace actions, rest)

/-- Runs all actions on a daemon that stays the same. -/
def runAll (r : TeardownRegistry) (d : Daemon) (grace : Duration) :
    Teardown Nat × TeardownRegistry :=
  r.runAllOn (fun _ => d) grace

end TeardownRegistry
end ServiceReadiness
