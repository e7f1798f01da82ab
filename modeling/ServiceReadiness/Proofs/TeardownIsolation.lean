/-
# A teardown in which some actions fail

An action stops its container and, if that succeeds and it is asked for, removes it; the
first of the two that fails ends the action (`TeardownAction.execute_eq`).  A run of several
actions lets no failure out of the action in which it happens.  Its calls and lines are those
of its actions in a row (`runEachOn_eq`), and so the run of a list in two parts is the run of
the one part and then of the other (`runEachOn_append`): what an action does in the middle of
a run is what it does alone.
-/

import ServiceReadiness.Proofs.TeardownHistory

namespace ServiceReadiness
namespace TeardownAction

variable (d : Daemon) (grace : Duration) (a : TeardownAction)

/-- The container of an action can be stopped. -/
def stops : Bool := (d.stop a.container grace).isOk

/-- The removal of a container is attempted: it is asked for, and the container was stopped. -/
def attemptsRemoval : Bool := a.remove && a.stops d grace

/-- The container of an action can be removed. -/
def removes : Bool := (d.remove a.container).isOk

/-- The error with which an action ends, if it ends with one. -/
def cause? : Option ContainerError :=
  match d.stop a.container grace, a.remove, d.remove a.container with
  | .error e, _, _ => some e
  | .ok (), true, .error e => some e
  | .ok (), _, _ => none

/-- The lines that report what an action did. -/
def successes : List LogLine :=
  (if a.stops d grace then [doneLine "Stopped" a.container] else []) ++
    if a.attemptsRemoval d grace && a.removes d then [doneLine "Removed" a.container] else []

/-- **What an action does by itself:** one stop, then a removal if it is attempted; it reports
what succeeded and ends with the first error. -/
theorem execute_eq :
    a.execute d grace =
      ⟨.stop a.container grace ::
          if a.attemptsRemoval d grace then [.remove a.container] else [],
        a.successes d grace,
        match a.cause? d grace with
        | some e => .error e
        | none => .ok ()⟩ := by
  rw [execute, executeRemove, cause?, successes, attemptsRemoval, removes, stops]
  cases d.stop a.container grace with
  | error e => simp [Except.isOk, Except.toBool]
  | ok _ =>
    cases a.remove with
    | false => simp [Except.isOk, Except.toBool]
    | true =>
      cases d.remove a.container with
      | error e => simp [Except.isOk, Except.toBool]
      | ok _ => simp [Except.isOk, Except.toBool]

/-- An action ends with an error if its stop fails, or a removal that is attempted. -/
theorem cause?_isSome :
    (a.cause? d grace).isSome =
      (!a.stops d grace || a.attemptsRemoval d grace && !a.removes d) := by
  rw [cause?, attemptsRemoval, removes, stops]
  cases d.stop a.container grace with
  | error e => rfl
  | ok _ =>
    cases a.remove with
    | false => rfl
    | true => cases d.remove a.container <;> rfl

theorem fails_eq : a.fails d grace = (a.cause? d grace).isSome := by
  rw [fails, execute_eq]
  cases a.cause? d grace <;> rfl

/-- The lines about an action are those of its successes, and one warning if it fails. -/
theorem report_eq :
    a.report d grace =
      a.successes d grace ++ ((a.cause? d grace).map a.failureLine).toList := by
  rw [report, execute_eq]
  cases a.cause? d grace <;> simp

/-- What an action reports of its successes is no warning. -/
theorem filter_warn_successes : (a.successes d grace).filter (·.level = .warn) = [] := by
  rw [List.filter_eq_nil_iff]
  intro line hline
  rw [successes, List.mem_append] at hline
  have hdone : ∀ what, (doneLine what a.container).level = .info := fun _ => rfl
  rcases hline with h | h
  · split at h <;> simp_all
  · split at h <;> simp_all

/-- An action asks the daemon two things and no more. -/
theorem execute_congr {other : Daemon}
    (hstop : other.stop a.container grace = d.stop a.container grace)
    (hremove : other.remove a.container = d.remove a.container) :
    a.execute other grace = a.execute d grace := by
  rw [execute, execute, executeRemove, executeRemove, hstop, hremove]

end TeardownAction

namespace TeardownRegistry

variable (daemons : TeardownAction → Daemon) (grace : Duration)

/-- A run of two lists of actions is the run of the one and then of the other. -/
theorem runEachOn_append (newer older : List TeardownAction) :
    runEachOn daemons grace (newer ++ older) =
      ⟨(runEachOn daemons grace newer).calls ++ (runEachOn daemons grace older).calls,
        (runEachOn daemons grace newer).logs ++ (runEachOn daemons grace older).logs,
        (runEachOn daemons grace newer).result + (runEachOn daemons grace older).result⟩ := by
  simp only [runEachOn_eq, List.flatMap_append, List.countP_append]

/-- The warnings of a run are those of the actions that fail, one for each. -/
theorem filter_warn_runEachOn (actions : List TeardownAction) :
    (runEachOn daemons grace actions).logs.filter (·.level = .warn) =
      actions.filterMap fun a => (a.cause? (daemons a) grace).map a.failureLine := by
  rw [runEachOn_eq]
  dsimp only
  induction actions with
  | nil => rfl
  | cons a rest ih =>
    rw [List.flatMap_cons, List.filter_append, ih, TeardownAction.report_eq, List.filter_append,
      TeardownAction.filter_warn_successes, List.nil_append, List.filterMap_cons]
    cases a.cause? (daemons a) grace with
    | none => rfl
    | some e => simp [TeardownAction.failureLine]

/-- **A run of all actions keeps every failure to its own action.**  Let a registry hold any
actions, and let the daemon answer each of them as it likes.  The calls are, newest action
first, one stop for each, and after it one removal if the action asks for it and the stop
succeeded.  The run counts the actions whose stop failed, or whose removal was attempted and
failed.  Each action reports what it did, whatever became of the others, and each of those
counted is the subject of one warning.

In the middle of a run an action makes the calls, writes the lines and counts for what it
does when it is run alone; and that depends on how the daemon answers this action, and on
nothing else. -/
theorem runAllOn_isolates_failures (r : TeardownRegistry) :
    let newestFirst := r.actions.reverse
    let run := (r.runAllOn daemons grace).1
    let alone a := ((⟨[a]⟩ : TeardownRegistry).runAllOn daemons grace).1
    run.calls = newestFirst.flatMap (fun a => .stop a.container grace ::
        if a.attemptsRemoval (daemons a) grace then [.remove a.container] else []) ∧
      run.result = newestFirst.countP (fun a => !a.stops (daemons a) grace ||
        a.attemptsRemoval (daemons a) grace && !a.removes (daemons a)) ∧
      run.logs = newestFirst.flatMap (fun a => a.successes (daemons a) grace ++
        ((a.cause? (daemons a) grace).map a.failureLine).toList) ∧
      run.logs.filter (·.level = .warn) = newestFirst.filterMap
        (fun a => (a.cause? (daemons a) grace).map a.failureLine) ∧
      (run.logs.filter (·.level = .warn)).length = run.result ∧
      (∀ newer a older, newestFirst = newer ++ a :: older →
        let before := runEachOn daemons grace newer
        let after := runEachOn daemons grace older
        run = ⟨before.calls ++ (alone a).calls ++ after.calls,
          before.logs ++ (alone a).logs ++ after.logs,
          before.result + (alone a).result + after.result⟩) ∧
      ∀ a, (alone a).calls = (a.execute (daemons a) grace).calls ∧
        ((alone a).result = 0 ↔ (a.execute (daemons a) grace).result = .ok ()) ∧
        ∀ other : Daemon, other.stop a.container grace = (daemons a).stop a.container grace →
          other.remove a.container = (daemons a).remove a.container →
          a.execute other grace = a.execute (daemons a) grace := by
  intro newestFirst run alone
  have hrun : run = runEachOn daemons grace newestFirst := rfl
  have halone : ∀ a, alone a = runEachOn daemons grace [a] := fun _ => rfl
  have hcount : run.result = newestFirst.countP fun a => (a.cause? (daemons a) grace).isSome := by
    rw [hrun, runEachOn_eq]
    simp only [TeardownAction.fails_eq]
  refine ⟨?calls, ?count, ?lines, filter_warn_runEachOn daemons grace newestFirst, ?warnings,
    fun newer a older hsplit => ?split, fun a => ⟨?own, ?result, fun other hstop hremove =>
      a.execute_congr (daemons a) grace hstop hremove⟩⟩
  case calls =>
    rw [hrun, runEachOn_eq]
    simp only [TeardownAction.execute_eq]
  case count =>
    rw [hcount]
    simp only [TeardownAction.cause?_isSome]
  case lines =>
    rw [hrun, runEachOn_eq]
    simp only [TeardownAction.report_eq]
  case warnings =>
    rw [hcount, hrun, filter_warn_runEachOn, List.length_filterMap_eq_countP]
    simp only [Option.isSome_map]
  case split =>
    rw [hrun, hsplit, runEachOn_append, ← List.singleton_append, runEachOn_append, halone]
    simp only [List.append_assoc, Nat.add_assoc]
  case own =>
    rw [halone, runEachOn_eq]
    simp only [List.flatMap_cons, List.flatMap_nil, List.append_nil]
  case result =>
    rw [halone, runEachOn_eq, TeardownAction.execute_eq]
    dsimp only
    rw [List.countP_singleton, TeardownAction.fails_eq]
    cases a.cause? (daemons a) grace <;> simp

/-- A daemon that cannot stop `web`, and that stops `db` but can remove it no more. -/
def fussyDaemon : Daemon where
  start _ := .ok ()
  stop id _ := if id = "web" then .error (.stopFailed id "busy") else .ok ()
  remove id := .error (.removeFailed id "in use")
  inspect _ _ := { answer := .ok true }

/-- Two of three actions fail, one at its stop and one at its removal.  The third, which stops
a container a second time and does not remove it, succeeds between them. -/
theorem runAllOn_isolates_failures_of_two_faults :
    let r : TeardownRegistry := ⟨[⟨"db", true⟩, ⟨"db", false⟩, ⟨"web", true⟩]⟩
    let run := (r.runAllOn (fun _ => fussyDaemon) (.ofSecs 3)).1
    r.actions.reverse = [⟨"web", true⟩] ++ ⟨"db", false⟩ :: [⟨"db", true⟩] ∧
      run.calls = [.stop "web" (.ofSecs 3), .stop "db" (.ofSecs 3), .stop "db" (.ofSecs 3),
        .remove "db"] ∧
      run.result = 2 ∧ (run.logs.filter (·.level = .warn)).length = 2 ∧
      run.logs.length = 1 + 1 + 2 := by
  intro r run
  obtain ⟨hcalls, hcount, -, -, hwarnings, hsplit, -⟩ :=
    runAllOn_isolates_failures (fun _ => fussyDaemon) (.ofSecs 3) r
  have hresult : run.result = 2 := hcount.trans (by decide)
  have hrun := hsplit [⟨"web", true⟩] ⟨"db", false⟩ [⟨"db", true⟩] rfl
  refine ⟨rfl, hcalls.trans (by decide), hresult, hwarnings.trans hresult, ?_⟩
  rw [show run = _ from hrun, List.length_append, List.length_append]
  decide

end TeardownRegistry
end ServiceReadiness
