/-
# The life of a container during a wait

A wait that looks after a container makes three kinds of calls to the daemon, in this
order: one start, the inspections of the watch, and the teardown.  The evaluations of the
checks make no call and those of the watch make inspections alone
(`exists_inspect_of_mem_contacts`); the teardown is one stop, and one removal after a
stop that succeeds, and it comes only after a wait that failed with nothing to keep
(`conclude_calls`).

The outcome is settled before the teardown, so neither the wish to keep the container
nor what the daemon answers at the end has a part in it.
-/

import ServiceReadiness.ManagedWait

namespace ServiceReadiness

/-- A call that stops or removes a container. -/
def DaemonCall.isTeardown : DaemonCall → Bool
  | .stop .. | .remove _ => true
  | .start _ | .inspect .. => false

namespace ManagedWait

/-! ### The calls of a wait -/

/-- **The only calls during a wait are inspections** of the container that is watched. -/
theorem exists_inspect_of_mem_contacts {behaviour : CheckBehaviour} {checks : List Check}
    {container : Option String} {history : Timeline Occurrence} {call : DaemonCall}
    (h : .daemon call ∈ contacts behaviour checks container history) :
    ∃ id k, container = some id ∧ call = .inspect id k := by
  obtain ⟨⟨time, occurrence⟩, -, hcontact⟩ := List.mem_flatMap.1 h
  cases occurrence with
  | release probe => simp at hcontact
  | log line => simp at hcontact
  | evaluation index k =>
    replace hcontact : .daemon call ∈ evaluationContacts behaviour checks container index k :=
      hcontact
    rw [evaluationContacts] at hcontact
    split at hcontact
    · simp at hcontact
    · obtain ⟨id, hid, hcall⟩ := List.mem_map.1 hcontact
      exact ⟨id, k, Option.mem_toList.1 hid, (Contacted.daemon.inj hcall).symm⟩

/-- The calls of a list of contacts are those that it lists. -/
theorem mem_filterMap_call? {call : DaemonCall} {contacted : List Contacted} :
    call ∈ contacted.filterMap Contacted.call? ↔ .daemon call ∈ contacted := by
  rw [List.mem_filterMap]
  constructor
  · rintro ⟨contact, hmem, hcall⟩
    cases contact with
    | daemon other => exact Option.some.inj hcall ▸ hmem
    | endpoint _ => simp [Contacted.call?] at hcall
    | server _ => simp [Contacted.call?] at hcall
  · exact fun hmem => ⟨_, hmem, rfl⟩

/-- A wait over checks alone makes no call. -/
theorem calls_plain (allowance : Nat) (timing : Timing) (secs : Int) (behaviour : CheckBehaviour)
    (checks : List Check) : (plain allowance timing secs behaviour checks).calls = [] := by
  refine List.eq_nil_iff_forall_not_mem.2 fun call hcall => ?_
  obtain ⟨id, k, hid, -⟩ := exists_inspect_of_mem_contacts (mem_filterMap_call?.1 hcall)
  simp at hid

/-! ### The teardown -/

/-- The calls that tear a container down: it is removed if it could be stopped. -/
def teardownCalls (daemon : Daemon) (id : String) (grace : Duration) : List DaemonCall :=
  .stop id grace ::
    match daemon.stop id grace with
    | .ok () => [.remove id]
    | .error _ => []

/-- An action that removes its container makes the calls that tear the container down. -/
theorem execute_calls (daemon : Daemon) (id : String) (grace : Duration) :
    ((⟨id, true⟩ : TeardownAction).execute daemon grace).calls = teardownCalls daemon id grace := by
  rw [TeardownAction.execute, teardownCalls]
  cases daemon.stop id grace with
  | error cause => rfl
  | ok _ =>
    rw [TeardownAction.executeRemove]
    cases daemon.remove id <;> rfl

/-- The calls of a registry that holds one action are those of the action. -/
theorem runEach_singleton_calls (daemon : Daemon) (grace : Duration) (a : TeardownAction) :
    (TeardownRegistry.runEach daemon grace [a]).calls = (a.execute daemon grace).calls := by
  rw [TeardownRegistry.runEach, TeardownRegistry.runEachOn]
  cases (a.execute daemon grace).result <;> simp [TeardownRegistry.runEachOn]

/-- The calls after a wait: the teardown, if the wait failed and nothing is to be kept,
and else none. -/
def closingCalls (docker : DockerSettings) (keep : Bool) (daemon : Daemon) (id : String) :
    Option (Except ManagedFault WaitReport) → List DaemonCall
  | some (.error _) =>
    if keep || docker.keepOnFailure then [] else teardownCalls daemon id docker.stopGrace
  | _ => []

theorem conclude_calls (docker : DockerSettings) (keep : Bool) (daemon : Daemon) (id : String)
    (result : Option (Except ManagedFault WaitReport)) :
    (conclude docker keep daemon (TeardownRegistry.empty.register ⟨id, true⟩).2 result).1 =
      closingCalls docker keep daemon id result := by
  rcases result with - | fault | report
  · rfl
  · rw [closingCalls]
    by_cases hkept : (keep || docker.keepOnFailure) = true
    · simp only [conclude, hkept, if_true]
    · simp only [conclude, hkept, Bool.false_eq_true, if_false]
      exact (runEach_singleton_calls ..).trans (execute_calls ..)
  · rfl

/-! ### The ways that a wait can go -/

/-- A wait looks after a container: its checks can be used, it names the container, and
there is a daemon to ask. -/
structure LooksAfter (request : WaitRequest) (access : Option Daemon) (checks : List Check)
    (id : String) (daemon : Daemon) : Prop where
  usable : request.checks = .ok checks
  named : request.container = some id
  given : access = some daemon

section

variable {allowance : Nat} {settings : Settings} {request : WaitRequest} {access : Option Daemon}
  {behaviour : CheckBehaviour} {checks : List Check} {id : String} {daemon : Daemon}

/-- The checks cannot be used, or there is nothing to look after, or a container is
looked after. -/
theorem unusable_or_alone_or_looksAfter (request : WaitRequest) (access : Option Daemon) :
    (∃ cause, request.checks = .error cause) ∨
      (∃ checks, request.checks = .ok checks ∧ (request.container = none ∨ access = none)) ∨
      ∃ checks id daemon, LooksAfter request access checks id daemon := by
  cases hchecks : request.checks with
  | error cause => exact .inl ⟨cause, rfl⟩
  | ok checks =>
    refine .inr ?_
    cases hid : request.container with
    | none => exact .inl ⟨checks, rfl, .inl rfl⟩
    | some id =>
      cases access with
      | none => exact .inl ⟨checks, rfl, .inr rfl⟩
      | some daemon => exact .inr ⟨checks, id, daemon, hchecks, hid, rfl⟩

/-- Checks that cannot be used leave nothing to be done. -/
theorem runWithin_of_unusable {cause : ProbeError} (hchecks : request.checks = .error cause) :
    runWithin allowance settings request access behaviour = rejected [] (.probe cause) := by
  simp only [runWithin, hchecks]

/-- Without a container, or without a daemon, there is only the wait over the checks. -/
theorem runWithin_of_alone (hchecks : request.checks = .ok checks)
    (halone : request.container = none ∨ access = none) :
    runWithin allowance settings request access behaviour =
      plain allowance settings.timing request.time.toInt behaviour checks := by
  rcases halone with h | h
  · simp only [runWithin, hchecks, h]
  · subst h
    simp only [runWithin, hchecks]
    cases request.container <;> rfl

/-- A container that cannot be started ends everything at the start. -/
theorem runWithin_of_not_started {cause : ContainerError}
    (h : LooksAfter request access checks id daemon) (hstart : daemon.start id = .error cause) :
    runWithin allowance settings request access behaviour =
      rejected [.daemon (.start id)] (.container cause) := by
  obtain ⟨hchecks, hid, rfl⟩ := h
  simp only [runWithin, hchecks, hid, hstart]

/-- A container that was started is watched. -/
theorem runWithin_of_started (h : LooksAfter request access checks id daemon)
    (hstart : daemon.start id = .ok ()) :
    runWithin allowance settings request access behaviour =
      after [.daemon (.start id)] (daemon.startNotes id)
        (watched allowance settings request behaviour checks id daemon) := by
  obtain ⟨hchecks, hid, rfl⟩ := h
  simp only [runWithin, hchecks, hid, hstart]

/-- What is contacted while a container is watched comes from the wait, and the rest are the calls
that its outcome asks for. -/
theorem contacts_watched (allowance : Nat) (settings : Settings) (request : WaitRequest)
    (behaviour : CheckBehaviour) (checks : List Check) (id : String) (daemon : Daemon) :
    let run := watched allowance settings request behaviour checks id daemon
    let polled := Waiter.waitWithin allowance settings.timing request.time.toInt none
      (checks.map (Check.probe behaviour) ++ [ContainerWatch.probe id (daemon.inspect id)])
    run.contacts = contacts behaviour checks (some id) polled.history ++
      (closingCalls settings.docker request.keep daemon id run.outcome).map .daemon := by
  intro run polled
  rw [← conclude_calls]
  rfl

/-- **The calls while a container is watched** are inspections and then those that its
outcome asks for. -/
theorem calls_watched (allowance : Nat) (settings : Settings) (request : WaitRequest)
    (behaviour : CheckBehaviour) (checks : List Check) (id : String) (daemon : Daemon) :
    let run := watched allowance settings request behaviour checks id daemon
    ∃ inspections, (∀ call ∈ inspections, ∃ k, call = .inspect id k) ∧
      run.calls =
        inspections ++ closingCalls settings.docker request.keep daemon id run.outcome := by
  intro run
  let polled := Waiter.waitWithin allowance settings.timing request.time.toInt none
    (checks.map (Check.probe behaviour) ++ [ContainerWatch.probe id (daemon.inspect id)])
  refine ⟨(contacts behaviour checks (some id) polled.history).filterMap Contacted.call?,
    fun call hcall => ?_, ?_⟩
  · obtain ⟨id', k, hid, rfl⟩ := exists_inspect_of_mem_contacts (mem_filterMap_call?.1 hcall)
    obtain rfl := Option.some.inj hid
    exact ⟨k, rfl⟩
  · have hself : ∀ calls : List DaemonCall,
        (calls.map Contacted.daemon).filterMap Contacted.call? = calls := fun calls => by
      rw [List.filterMap_map]
      exact List.filterMap_some
    rw [ManagedRun.calls, contacts_watched, List.filterMap_append, hself]

/-! ### The outcome -/

/-- The outcome of the wait itself: over the checks and over a container that is
watched, if one is. -/
def waitOutcome (allowance : Nat) (settings : Settings) (request : WaitRequest)
    (behaviour : CheckBehaviour) (checks : List Check) (watch : List Probe) :
    Option (Except ManagedFault WaitReport) :=
  outcome checks (Waiter.waitWithin allowance settings.timing request.time.toInt none
    (checks.map (Check.probe behaviour) ++ watch)).ending

theorem outcome_of_unusable {cause : ProbeError} (hchecks : request.checks = .error cause) :
    (runWithin allowance settings request access behaviour).outcome =
      some (.error (.probe cause)) := by
  rw [runWithin_of_unusable hchecks, rejected]

theorem outcome_of_alone (hchecks : request.checks = .ok checks)
    (halone : request.container = none ∨ access = none) :
    (runWithin allowance settings request access behaviour).outcome =
      waitOutcome allowance settings request behaviour checks [] := by
  rw [runWithin_of_alone hchecks halone, waitOutcome, List.append_nil]
  rfl

theorem outcome_of_started (h : LooksAfter request access checks id daemon)
    (hstart : daemon.start id = .ok ()) :
    (runWithin allowance settings request access behaviour).outcome =
      waitOutcome allowance settings request behaviour checks
        [ContainerWatch.probe id (daemon.inspect id)] := by
  rw [runWithin_of_started h hstart]
  rfl

/-- **The outcome is settled before the teardown.**  Neither the wishes to keep the
container nor the answers to a stop and a removal change it. -/
theorem outcome_eq_of_same_start (allowance : Nat) (settings : Settings) (request : WaitRequest)
    (access : Option Daemon) (behaviour : CheckBehaviour) (keep keepOnFailure : Bool)
    (stop : String → Duration → Except ContainerError Unit)
    (remove : String → Except ContainerError Unit) :
    (runWithin allowance
      { settings with docker := { settings.docker with keepOnFailure := keepOnFailure } }
      { request with keep := keep }
      (access.map fun daemon => { daemon with stop := stop, remove := remove })
      behaviour).outcome = (runWithin allowance settings request access behaviour).outcome := by
  rcases unusable_or_alone_or_looksAfter request access with
    ⟨cause, hchecks⟩ | ⟨checks, hchecks, halone⟩ | ⟨checks, id, daemon, h⟩
  · rw [outcome_of_unusable hchecks]
    exact outcome_of_unusable hchecks
  · rw [outcome_of_alone hchecks halone]
    exact outcome_of_alone hchecks (halone.imp_right fun h => by rw [h]; rfl)
  · have h' : LooksAfter { request with keep := keep }
        (access.map fun daemon => { daemon with stop := stop, remove := remove }) checks id
        { daemon with stop := stop, remove := remove } :=
      ⟨h.usable, h.named, by rw [h.given]; rfl⟩
    cases hstart : daemon.start id with
    | error cause => rw [runWithin_of_not_started h hstart, runWithin_of_not_started h' hstart]
    | ok _ =>
      rw [outcome_of_started h hstart, outcome_of_started h' hstart]
      rfl

/-! ### The life of a container -/

theorem start_notMem_closingCalls (docker : DockerSettings) (keep : Bool) (daemon : Daemon)
    (id other : String) (result : Option (Except ManagedFault WaitReport)) :
    .start other ∉ closingCalls docker keep daemon id result := by
  intro h
  rcases result with - | fault | report
  · exact absurd h List.not_mem_nil
  · rw [closingCalls] at h
    split at h
    · exact absurd h List.not_mem_nil
    · rw [teardownCalls] at h
      cases hstop : daemon.stop id docker.stopGrace <;> simp [hstop] at h
  · exact absurd h List.not_mem_nil

/-- Nothing to look after is nothing to ask of the daemon. -/
theorem calls_eq_nil
    (h : (∃ cause, request.checks = .error cause) ∨ request.container = none ∨ access = none) :
    (runWithin allowance settings request access behaviour).calls = [] := by
  cases hchecks : request.checks with
  | error cause => rw [runWithin_of_unusable hchecks]; rfl
  | ok checks =>
    have halone : request.container = none ∨ access = none :=
      h.resolve_left fun ⟨_, hcause⟩ => by simp [hchecks] at hcause
    rw [runWithin_of_alone hchecks halone, calls_plain]

/-- **The calls once a container was started**: the start, inspections, and those that the
outcome asks for. -/
theorem calls_of_started (allowance : Nat) (settings : Settings) (behaviour : CheckBehaviour)
    (h : LooksAfter request access checks id daemon) (hstart : daemon.start id = .ok ()) :
    let run := runWithin allowance settings request access behaviour
    ∃ inspections, (∀ call ∈ inspections, ∃ k, call = .inspect id k) ∧
      run.calls = .start id :: inspections ++
        closingCalls settings.docker request.keep daemon id run.outcome := by
  intro run
  obtain ⟨inspections, hinspect, hcalls⟩ :=
    calls_watched allowance settings request behaviour checks id daemon
  refine ⟨inspections, hinspect, ?_⟩
  have hrun : run = after [.daemon (.start id)] (daemon.startNotes id)
      (watched allowance settings request behaviour checks id daemon) :=
    runWithin_of_started h hstart
  rw [hrun, List.cons_append]
  exact congrArg (List.cons _) hcalls

/-- The start is the first call and the only one of its kind. -/
theorem exists_calls_eq_start_cons (h : LooksAfter request access checks id daemon) :
    ∃ later, (runWithin allowance settings request access behaviour).calls = .start id :: later ∧
      ∀ other, .start other ∉ later := by
  cases hstart : daemon.start id with
  | error cause =>
    refine ⟨[], ?_, fun _ => List.not_mem_nil⟩
    rw [runWithin_of_not_started h hstart]
    rfl
  | ok _ =>
    obtain ⟨inspections, hinspect, hcalls⟩ :=
      calls_of_started allowance settings behaviour h hstart
    refine ⟨_, hcalls, fun other hother => ?_⟩
    rcases List.mem_append.1 hother with hmem | hmem
    · obtain ⟨k, hk⟩ := hinspect _ hmem
      cases hk
    · exact start_notMem_closingCalls _ _ _ _ _ _ hmem

/-- **What tears down comes last:** it is a call that the outcome asks for. -/
theorem exists_mem_closingCalls {call : DaemonCall}
    (hcall : call ∈ (runWithin allowance settings request access behaviour).calls)
    (hteardown : call.isTeardown = true) :
    ∃ checks id daemon, LooksAfter request access checks id daemon ∧
      call ∈ closingCalls settings.docker request.keep daemon id
        (runWithin allowance settings request access behaviour).outcome := by
  rcases unusable_or_alone_or_looksAfter request access with
    hchecks | ⟨checks, -, halone⟩ | ⟨checks, id, daemon, h⟩
  · rw [calls_eq_nil (.inl hchecks)] at hcall
    exact absurd hcall List.not_mem_nil
  · rw [calls_eq_nil (.inr halone)] at hcall
    exact absurd hcall List.not_mem_nil
  · refine ⟨checks, id, daemon, h, ?_⟩
    cases hstart : daemon.start id with
    | error cause =>
      rw [runWithin_of_not_started h hstart] at hcall
      obtain rfl := List.mem_singleton.1 hcall
      cases hteardown
    | ok _ =>
      obtain ⟨inspections, hinspect, hcalls⟩ :=
        calls_of_started allowance settings behaviour h hstart
      rw [hcalls, List.cons_append] at hcall
      rcases List.mem_cons.1 hcall with rfl | hmem
      · cases hteardown
      · refine (List.mem_append.1 hmem).resolve_left fun hmem => ?_
        obtain ⟨k, rfl⟩ := hinspect call hmem
        cases hteardown

/-- Nothing is torn down by a wait whose outcome asks for no call. -/
theorem isTeardown_eq_false
    (hclosing : ∀ id daemon, closingCalls settings.docker request.keep daemon id
      (runWithin allowance settings request access behaviour).outcome = []) :
    ∀ call ∈ (runWithin allowance settings request access behaviour).calls,
      call.isTeardown = false := by
  intro call hcall
  refine Bool.eq_false_iff.2 fun hteardown => ?_
  obtain ⟨-, id, daemon, -, hmem⟩ := exists_mem_closingCalls hcall hteardown
  rw [hclosing] at hmem
  exact absurd hmem List.not_mem_nil

/-- **The life of a container during a wait.**  The daemon is told nothing if the checks
cannot be used, if no container is named, or if there is no daemon.  Else the first call
is the only start, and all ends there if it fails.  After a wait that succeeded, and after
one whose container is to be kept, nothing is torn down; after any other failed wait the
last inspection is followed by one stop, with the grace that was set, and by one removal
if the stop succeeded.  The outcome is that of the wait itself, whatever is to be kept
and whatever the daemon answers at the end. -/
theorem runWithin_lifecycle (allowance : Nat) (settings : Settings) (request : WaitRequest)
    (access : Option Daemon) (behaviour : CheckBehaviour) :
    let run := runWithin allowance settings request access behaviour
    let kept := request.keep || settings.docker.keepOnFailure
    ((∃ cause, request.checks = .error cause) ∨ request.container = none ∨ access = none →
      run.calls = []) ∧
    (∀ checks id daemon, LooksAfter request access checks id daemon →
      (∃ later, run.calls = .start id :: later ∧ ∀ other, .start other ∉ later) ∧
      (∀ cause, daemon.start id = .error cause →
        run = ⟨[.daemon (.start id)], [], some (.error (.container cause))⟩) ∧
      (daemon.start id = .ok () → ∀ fault, run.outcome = some (.error fault) → kept = false →
        ∃ inspections, (∀ call ∈ inspections, ∃ k, call = .inspect id k) ∧
          run.calls = .start id :: inspections ++
            .stop id settings.docker.stopGrace ::
              match daemon.stop id settings.docker.stopGrace with
              | .ok () => [.remove id]
              | .error _ => [])) ∧
    (∀ report, run.outcome = some (.ok report) → ∀ call ∈ run.calls, call.isTeardown = false) ∧
    (kept = true → ∀ call ∈ run.calls, call.isTeardown = false) ∧
    ((∀ cause, request.checks = .error cause → run.outcome = some (.error (.probe cause))) ∧
      (∀ checks, request.checks = .ok checks → request.container = none ∨ access = none →
        run.outcome = waitOutcome allowance settings request behaviour checks []) ∧
      (∀ checks id daemon, LooksAfter request access checks id daemon → daemon.start id = .ok () →
        run.outcome = waitOutcome allowance settings request behaviour checks
          [ContainerWatch.probe id (daemon.inspect id)]) ∧
      ∀ keep keepOnFailure stop remove,
        (runWithin allowance
          { settings with docker := { settings.docker with keepOnFailure := keepOnFailure } }
          { request with keep := keep }
          (access.map fun daemon => { daemon with stop := stop, remove := remove })
          behaviour).outcome = run.outcome) := by
  intro run kept
  refine ⟨calls_eq_nil, fun checks id daemon h => ?_,
    fun report hreport => isTeardown_eq_false fun id daemon => ?_,
    fun hkept => isTeardown_eq_false fun id daemon => ?_, ?_⟩
  · refine ⟨exists_calls_eq_start_cons h, fun cause hstart => runWithin_of_not_started h hstart,
      fun hstart fault hfault hkept => ?_⟩
    obtain ⟨inspections, hinspect, hcalls⟩ :=
      calls_of_started allowance settings behaviour h hstart
    refine ⟨inspections, hinspect, hcalls.trans ?_⟩
    rw [show (runWithin ..).outcome = _ from hfault, closingCalls,
      if_neg (Bool.eq_false_iff.1 hkept), teardownCalls]
  · rw [show (runWithin ..).outcome = _ from hreport]
    rfl
  · rcases (runWithin allowance settings request access behaviour).outcome with - | fault | report
    · rfl
    · rw [closingCalls, if_pos hkept]
    · rfl
  · exact ⟨fun cause => outcome_of_unusable, fun checks => outcome_of_alone,
      fun checks id daemon => outcome_of_started, fun keep keepOnFailure stop remove =>
        outcome_eq_of_same_start allowance settings request access behaviour keep keepOnFailure
          stop remove⟩

end

/-- A daemon whose containers start, are not running as soon as they are looked at, and
can be stopped and removed. -/
def crashingDaemon : Daemon where
  start _ := .ok ()
  stop _ _ := .ok ()
  remove _ := .ok ()
  inspect _ _ := { answer := .ok false }

/-- Checks that are never ready. -/
def idleBehaviour : CheckBehaviour where
  attempt _ _ := ⟨0, .notReady, []⟩
  dialled _ _ := []
  sent _ _ := none

/-- A container that crashes is stopped and removed, and the wait fails. -/
theorem runWithin_lifecycle_of_crash :
    let run := runWithin 1 {} { container := some "db" } (some crashingDaemon) idleBehaviour
    run.outcome = some (.error (.wait (.probe (.containerStopped "db")))) ∧
      ∃ inspections, (∀ call ∈ inspections, ∃ k, call = .inspect "db" k) ∧
        run.calls =
          .start "db" :: inspections ++ [.stop "db" (Duration.ofSecs 10), .remove "db"] := by
  intro run
  have hmanaged : LooksAfter { container := some "db" } (some crashingDaemon) [] "db"
      crashingDaemon := ⟨rfl, rfl, rfl⟩
  have hfault : run.outcome = some (.error (.wait (.probe (.containerStopped "db")))) := rfl
  obtain ⟨-, hlife, -⟩ :=
    runWithin_lifecycle 1 {} { container := some "db" } (some crashingDaemon) idleBehaviour
  exact ⟨hfault, (hlife [] "db" crashingDaemon hmanaged).2.2 rfl _ hfault rfl⟩

end ManagedWait
end ServiceReadiness
