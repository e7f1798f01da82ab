/-
# Definite answers of the engine

An answer to an inspection is definite if it comes while both the client and the evaluation wait
for it, tells a success, and has a body in which the client finds the description of a container
(`Engine.Tells`).  An evaluation of the watch is one exchange with the engine that gives up when
the client does or when an attempt is over (`attempt_inspection`).  What it finds is what the
definite answer says, and not ready if there is none (`verdict_eq_fatal_iff`,
`verdict_eq_notReady_iff`).

The checks of a wait never say that a container has stopped.  So a wait is given up for its
container exactly if it comes to a round in which the watch finds a definite answer that does not
say that the container is running (`outcome_eq_containerStopped_iff`).

A start, a stop or a removal that is not granted fails with an error that names the container
(`Engine.reports_perform`).
-/

import ServiceReadiness.Container.Engine
import ServiceReadiness.Proofs.ContainerDescriptions
import ServiceReadiness.Proofs.Exchanges
import ServiceReadiness.Proofs.Lifecycle
import ServiceReadiness.Proofs.RoundRobin

namespace ServiceReadiness

/-! ### Inspections -/

namespace Engine

/-- The request that an inspection of a container sends. -/
def inspectRequest (e : Engine) (id : String) : Http.Request :=
  ⟨"GET", EngineCall.target e.address (EngineCall.containerPath id ++ "/json") none⟩

/-- What stands at the address of an engine when a container is inspected. -/
def inspectService (e : Engine) (id : String) (call : Nat) : Service :=
  e.serve (.daemon (.inspect id call))

/-- How long an evaluation waits for the engine: as long as an attempt may take, unless the client
of the engine gives up before. -/
def patience (e : Engine) : Nat := min attemptBound e.bound

/-- The exchange that an evaluation makes. -/
def glance (e : Engine) (id : String) (call : Nat) : Http.Exchange :=
  Http.exchange e.patience (e.inspectService id call) (e.inspectRequest id)

/-- The definite answer that an evaluation gets: a success that comes in time, with a body in
which the client finds this description. -/
def Tells (e : Engine) (id : String) (call : Nat) (info : EngineAnswer.ContainerInfo) : Prop :=
  ∃ s body, (e.inspectService id call).Answers e.patience (e.inspectRequest id) ⟨s, some body⟩ ∧
    s.isSuccess = true ∧ e.read body = some info

variable {e : Engine} {id : String} {call : Nat}

/-- An evaluation gets one definite answer at most. -/
theorem Tells.unique {info other : EngineAnswer.ContainerInfo} (h : e.Tells id call info)
    (h' : e.Tells id call other) : info = other := by
  obtain ⟨s, body, hanswers, -, hbody⟩ := h
  obtain ⟨s', body', hanswers', -, hbody'⟩ := h'
  obtain ⟨-, hsame⟩ := Http.Response.mk.inj (Http.answers_unique hanswers hanswers')
  obtain rfl := Option.some.inj hsame
  exact Option.some.inj (hbody.symm.trans hbody')

/-- **A glance finds a stopped container exactly by a definite answer** that does not say that it
is running. -/
theorem glance_eq_ok_false_iff (hempty : EngineAnswer.FindsNoneInEmpty e.read) :
    (EngineAnswer.ofExchange (e.glance id call)).bind (EngineAnswer.inspected e.read) =
        .ok false ↔
      ∃ info, e.Tells id call info ∧ ¬ info.SaysRunning := by
  rw [EngineAnswer.inspected_ofExchange_eq_ok_iff]
  simp only [glance, Http.exchange_answer_eq_ok_iff, ← EngineAnswer.ContainerInfo.isRunning_iff,
    Bool.not_eq_true]
  constructor
  · rintro ⟨s, body, info, hanswers, hdone, hinfo, hstopped⟩
    have hsuccess : s.isSuccess = true := by
      obtain ⟨opened, delay, bytes, -, -, -, hread⟩ := hanswers
      exact EngineAnswer.isSuccess_of_read hempty hread hdone hinfo
    exact ⟨info, ⟨s, body, hanswers, hsuccess, hinfo⟩, hstopped⟩
  · rintro ⟨info, ⟨s, body, hanswers, hsuccess, hinfo⟩, hstopped⟩
    have hdone : EngineAnswer.isDone s = true := by simp [EngineAnswer.isDone, hsuccess]
    exact ⟨s, body, info, hanswers, hdone, hinfo, hstopped⟩

/-- A glance is the inspection as far as an attempt goes. -/
theorem glance_eq (e : Engine) (id : String) (call : Nat) :
    let made := e.exchange (.daemon (.inspect id call))
    (made.duration ≤ attemptBound ∧ e.glance id call = made) ∨
      (¬ made.duration ≤ attemptBound ∧ (e.glance id call).duration = attemptBound ∧
        (e.glance id call).answer = .error .late) := by
  intro made
  rcases Nat.le_total e.bound attemptBound with hle | hle
  · have hduration : made.duration ≤ e.bound := Http.exchange_duration_le ..
    refine .inl ⟨Nat.le_trans hduration hle, ?_⟩
    rw [glance, patience, Nat.min_eq_right hle]
    rfl
  · have hglance : e.glance id call = if made.duration ≤ attemptBound then made else
        { sent :=
            if (e.inspectService id call).opensWithin attemptBound then some (e.inspectRequest id)
            else none
          duration := attemptBound, answer := .error .late } := by
      rw [glance, patience, Nat.min_eq_left hle]
      exact Http.exchange_eq_of_le hle ..
    by_cases hduration : made.duration ≤ attemptBound
    · exact .inl ⟨hduration, by rw [hglance, if_pos hduration]⟩
    · rw [hglance, if_neg hduration]
      exact .inr ⟨hduration, rfl, rfl⟩

end Engine

/-! ### Evaluations of the watch -/

namespace ContainerWatch

variable {e : Engine} {id : String} {call : Nat}

/-- The verdict on what is found: the container has stopped, or there is no news. -/
def verdictOn (id : String) : Except EngineFault Bool → Verdict
  | .ok false => .fatal (.containerStopped id)
  | _ => .notReady

theorem verdictOn_eq_fatal_iff {found : Except EngineFault Bool} {cause : ProbeError} :
    verdictOn id found = .fatal cause ↔ cause = .containerStopped id ∧ found = .ok false := by
  rcases found with fault | - | - <;> simp [verdictOn, eq_comm]

theorem verdictOn_eq_notReady_iff {found : Except EngineFault Bool} :
    verdictOn id found = .notReady ↔ found ≠ .ok false := by
  rcases found with fault | - | - <;> simp [verdictOn]

theorem answered_mapError (id : String) (duration : Nat) (found : Except EngineFault Bool)
    (report : EngineFault → ContainerError) :
    (answered id duration (found.mapError report)).duration = duration ∧
      (answered id duration (found.mapError report)).verdict = verdictOn id found := by
  rcases found with fault | - | - <;> exact ⟨rfl, rfl⟩

/-- **An evaluation of the watch is one glance at the container.**  It takes as long, and its
verdict is on what the glance finds. -/
theorem attempt_inspection (e : Engine) (id : String) (call : Nat) :
    let attempt := attempt id (e.inspection id call)
    let found :=
      (EngineAnswer.ofExchange (e.glance id call)).bind (EngineAnswer.inspected e.read)
    attempt.duration = (e.glance id call).duration ∧ attempt.verdict = verdictOn id found := by
  intro attempt found
  rcases e.glance_eq id call with ⟨hduration, hglance⟩ | ⟨hduration, hslow, hlate⟩
  · have hattempt : attempt = answered id (e.glance id call).duration
        (found.mapError fun fault => .inspectFailed id fault.message) := by
      simp only [found, hglance, attempt, ContainerWatch.attempt, Engine.inspection, Option.filter,
        hduration, decide_true, if_true]
    rw [hattempt]
    exact answered_mapError ..
  · have hattempt : attempt =
        { duration := attemptBound, verdict := .notReady,
          notes := [(attemptBound, slowLine id)] } := by
      simp only [attempt, ContainerWatch.attempt, Engine.inspection, Option.filter,
        hduration, decide_false]
      rfl
    have hfound : found = .error (.unanswered .late) := by
      simp only [found, EngineAnswer.ofExchange, hlate]
      rfl
    rw [hattempt, hfound, hslow]
    exact ⟨rfl, rfl⟩

/-- **The watch ends a wait exactly on a definite answer** that does not say that the container is
running. -/
theorem verdict_eq_fatal_iff (hempty : EngineAnswer.FindsNoneInEmpty e.read)
    {cause : ProbeError} :
    (attempt id (e.inspection id call)).verdict = .fatal cause ↔
      cause = .containerStopped id ∧ ∃ info, e.Tells id call info ∧ ¬ info.SaysRunning := by
  rw [(attempt_inspection e id call).2, verdictOn_eq_fatal_iff,
    Engine.glance_eq_ok_false_iff hempty]

/-- **The watch is not ready in every other case.** -/
theorem verdict_eq_notReady_iff (hempty : EngineAnswer.FindsNoneInEmpty e.read) :
    (attempt id (e.inspection id call)).verdict = .notReady ↔
      ∀ info, e.Tells id call info → info.SaysRunning := by
  rw [(attempt_inspection e id call).2, verdictOn_eq_notReady_iff, Ne,
    Engine.glance_eq_ok_false_iff hempty]
  simp only [not_exists, not_and, not_not]

end ContainerWatch

/-! ### Waits that look after a container -/

/-- A check never says that a container has stopped. -/
theorem Check.verdict_ne_containerStopped (networks : Nat → Network) (check : Check) (call : Nat)
    (id : String) :
    ((check.probe (.ofNetworks networks)).attempt call).verdict ≠
      .fatal (.containerStopped id) := by
  cases check with
  | http p =>
    change ((p.evaluate (networks call)).attempt).verdict ≠ _
    unfold HttpProbe.evaluate
    split
    · exact Verdict.noConfusion
    · exact Verdict.noConfusion
    · dsimp only
      split
      · exact Verdict.noConfusion
      · dsimp only
        rw [HttpProbe.verdict, HttpProbe.classify]
        split <;> grind
  | tcp p =>
    change ((p.after networks call).attempt (networks call)).verdict ≠ _
    rw [TcpProbe.attempt]
    split <;> exact Verdict.noConfusion

namespace ManagedWait

variable {e : Engine} {networks : Nat → Network} {checks : List Check} {id name : String}
  {allowance : Nat} {settings : Settings} {request : WaitRequest}

theorem verdict_ne_containerStopped_of_mem {p : Probe}
    (h : p ∈ checks.map (Check.probe (.ofNetworks networks))) (call : Nat) :
    (p.attempt call).verdict ≠ .fatal (.containerStopped name) := by
  obtain ⟨check, -, rfl⟩ := List.mem_map.1 h
  exact check.verdict_ne_containerStopped networks call name

theorem outcome_eq_probe_iff {ending : Ending} {cause : ProbeError} :
    outcome checks ending = some (.error (.wait (.probe cause))) ↔ ending = .failed cause := by
  cases ending <;> simp [outcome, Ending.error?]

/-- The probes of a wait that looks after a container: its checks, and the watch. -/
def watchedProbes (e : Engine) (networks : Nat → Network) (checks : List Check) (id : String) :
    List Probe :=
  checks.map (Check.probe (.ofNetworks networks)) ++
    [ContainerWatch.probe id (e.daemon.inspect id)]

/-- A wait is given up in round `r` for a container: no check ends it up to this round, and the
inspection of this round gets a definite answer that does not say that the container is
running. -/
structure StopsIn (e : Engine) (networks : Nat → Network) (settings : Settings)
    (request : WaitRequest) (checks : List Check) (id : String) (r : Nat) : Prop where
  reaches : Waiter.Reaches settings.timing.retryInterval
    (Waiter.effectiveMaxWait settings.timing request.time.toInt)
    (watchedProbes e networks checks id) r
  quiet : Waiter.Quiet (checks.map (Check.probe (.ofNetworks networks))) r
  stopped : ∃ info, e.Tells id r info ∧ ¬ info.SaysRunning

/-- **A watched wait fails for a stopped container** exactly in a round with a definite answer. -/
theorem waitOutcome_eq_containerStopped_iff (hempty : EngineAnswer.FindsNoneInEmpty e.read) :
    waitOutcome allowance settings request (.ofNetworks networks) checks
        [ContainerWatch.probe id (e.daemon.inspect id)] =
        some (.error (.wait (.probe (.containerStopped name)))) ↔
      name = id ∧ ∃ r < allowance, StopsIn e networks settings request checks id r := by
  rw [waitOutcome, outcome_eq_probe_iff, Waiter.waitWithin_ending_eq_failed_iff]
  constructor
  · rintro ⟨r, index, p, hr, hdecides, hfatal⟩
    have hprobe := hdecides.probe
    rcases Nat.lt_or_ge index (checks.map (Check.probe (.ofNetworks networks))).length with
      hcheck | hwatch
    · rw [List.getElem?_append_left hcheck] at hprobe
      exact absurd hfatal (verdict_ne_containerStopped_of_mem (List.mem_of_getElem? hprobe) r)
    · rw [List.getElem?_append_right hwatch, List.getElem?_singleton] at hprobe
      split at hprobe
      case isFalse => cases hprobe
      case isTrue hlast =>
        obtain rfl := Option.some.inj hprobe
        obtain ⟨hname, hstopped⟩ := (ContainerWatch.verdict_eq_fatal_iff hempty).1 hfatal
        have hquiet := hdecides.quiet
        rw [Nat.le_antisymm (Nat.sub_eq_zero_iff_le.1 hlast) hwatch, List.take_left] at hquiet
        exact ⟨ProbeError.containerStopped.inj hname, r, hr, hdecides.reaches, hquiet, hstopped⟩
  · rintro ⟨rfl, r, hr, hreaches, hquiet, hstopped⟩
    have hfatal := (ContainerWatch.verdict_eq_fatal_iff hempty).2 ⟨rfl, hstopped⟩
    refine ⟨r, _, _, hr, ⟨hreaches, List.getElem?_concat_length, ?_, ?_⟩, hfatal⟩
    · rwa [List.take_left]
    · exact fun hnotReady => Verdict.noConfusion (hfatal.symm.trans hnotReady)

/-- **A wait is given up for a container exactly on a definite answer.**  It is one that can be
made, names the container and has started it, and comes to a round in which the watch finds it
stopped. -/
theorem outcome_eq_containerStopped_iff (hempty : EngineAnswer.FindsNoneInEmpty e.read) :
    (runWithin allowance settings request (some e.daemon) (.ofNetworks networks)).outcome =
        some (.error (.wait (.probe (.containerStopped name)))) ↔
      ∃ checks, request.checks = .ok checks ∧ request.container = some name ∧
        e.daemon.start name = .ok () ∧
        ∃ r < allowance, StopsIn e networks settings request checks name r := by
  rcases unusable_or_alone_or_looksAfter request (some e.daemon) with
    ⟨cause, hunusable⟩ | ⟨checks, hchecks, halone⟩ | ⟨checks, id, daemon, h⟩
  · rw [outcome_of_unusable hunusable, hunusable]
    constructor
    · intro hstopped
      cases hstopped
    · rintro ⟨checks, hchecks, -⟩
      cases hchecks
  · have hnone : request.container = none := halone.resolve_right (Option.some_ne_none _)
    rw [outcome_of_alone hchecks halone, hnone]
    constructor
    · intro hstopped
      rw [waitOutcome, outcome_eq_probe_iff, Waiter.waitWithin_ending_eq_failed_iff] at hstopped
      obtain ⟨r, index, p, -, hdecides, hfatal⟩ := hstopped
      have hprobe := List.mem_of_getElem? hdecides.probe
      rw [List.append_nil] at hprobe
      exact absurd hfatal (verdict_ne_containerStopped_of_mem hprobe r)
    · rintro ⟨checks, -, hnamed, -⟩
      cases hnamed
  · obtain rfl := Option.some.inj h.given
    rw [h.usable, h.named]
    cases hstart : e.daemon.start id with
    | error cause =>
      rw [runWithin_of_not_started h hstart]
      constructor
      · intro hstopped
        cases hstopped
      · rintro ⟨checks, -, hnamed, hstarted, -⟩
        obtain rfl := Option.some.inj hnamed
        cases hstart.symm.trans hstarted
    | ok _ =>
      rw [outcome_of_started h hstart, waitOutcome_eq_containerStopped_iff hempty]
      constructor
      · rintro ⟨rfl, hstops⟩
        exact ⟨checks, rfl, rfl, hstart, hstops⟩
      · rintro ⟨checks', hsame, hnamed, -, hstops⟩
        obtain rfl := Except.ok.inj hsame
        obtain rfl := Option.some.inj hnamed
        exact ⟨rfl, hstops⟩

end ManagedWait

/-! ### All that is asked of the engine -/

namespace Engine

variable {e : Engine} {id : String}

/-- The requests that the first evaluations of the watch send, in order. -/
def glanceRequests (e : Engine) (id : String) (n : Nat) : List Http.Request :=
  (List.range n).filterMap fun call => (e.glance id call).sent

/-- **Of any number of evaluations, each sends the request once for its own connection.** -/
theorem glanceRequests_eq_map (n : Nat) :
    e.glanceRequests id n =
      ((List.range n).filter fun call => (e.inspectService id call).opensWithin e.patience).map
        fun _ => e.inspectRequest id := by
  rw [glanceRequests, ← List.filterMap_eq_map, List.filterMap_filter]
  exact congrArg (List.filterMap · _) (funext fun call => Http.exchange_sent)

/-- The engine answers a call while its client waits. -/
def Answers (e : Engine) (call : DaemonCall) (response : Http.Response) : Prop :=
  (e.serve (.daemon call)).Answers e.bound ((EngineCall.daemon call).request e.address) response

/-- What a call to the engine comes to, if its failures are reported by an error. -/
structure Reports (e : Engine) (call : DaemonCall) (report : String → ContainerError)
    (result : Except ContainerError Unit) : Prop where
  /-- It is done exactly if an answer in time says so. -/
  done : result = .ok () ↔
    ∃ response, e.Answers call response ∧ EngineAnswer.isDone response.status = true
  /-- An answer of another status is reported, with what it says. -/
  declined : ∀ response, e.Answers call response → EngineAnswer.isDone response.status = false →
    result = .error (report (EngineAnswer.faultOf response).message)
  /-- Whatever else goes wrong is reported as well. -/
  failed : result ≠ .ok () → ∃ reason, result = .error (report reason)

section

variable {call : DaemonCall} (report : String → ContainerError)

/-- An answer in time settles a call. -/
theorem perform_of_answers {r : Http.Response} (h : e.Answers call r) :
    e.perform call report =
      if EngineAnswer.isDone r.status then .ok ()
      else .error (report (EngineAnswer.faultOf r).message) := by
  have hanswer : (e.exchange (.daemon call)).answer = .ok r := Http.exchange_answer_eq_ok_iff.2 h
  simp only [perform, ask, EngineAnswer.ofExchange, hanswer]
  cases EngineAnswer.isDone r.status <;> rfl

/-- Without an answer in time a call fails. -/
theorem exists_perform_eq_error (h : ∀ r, ¬ e.Answers call r) :
    ∃ reason, e.perform call report = .error (report reason) := by
  cases hanswer : (e.exchange (.daemon call)).answer with
  | ok r => exact absurd (Http.exchange_answer_eq_ok_iff.1 hanswer) (h r)
  | error cause =>
    simp only [perform, ask, EngineAnswer.ofExchange, hanswer]
    exact ⟨_, rfl⟩

end

/-- **A call that is not granted is reported.** -/
theorem reports_perform (e : Engine) (call : DaemonCall) (report : String → ContainerError) :
    e.Reports call report (e.perform call report) := by
  by_cases hnone : ∀ r, ¬ e.Answers call r
  case pos =>
    obtain ⟨reason, hreason⟩ := exists_perform_eq_error report hnone
    rw [hreason]
    exact
      { done := ⟨nofun, fun ⟨r, hr, _⟩ => absurd hr (hnone r)⟩
        declined := fun r hr => absurd hr (hnone r)
        failed := fun _ => ⟨reason, rfl⟩ }
  case neg =>
    obtain ⟨answer, hanswer⟩ := not_forall_not.1 hnone
    have honly (r : Http.Response) (hr : e.Answers call r) : r = answer :=
      Http.answers_unique hr hanswer
    rw [perform_of_answers report hanswer]
    cases hdone : EngineAnswer.isDone answer.status with
    | true =>
      refine ⟨⟨fun _ => ⟨answer, hanswer, hdone⟩, fun _ => rfl⟩, fun r hr hnot => ?_,
        fun h => absurd rfl h⟩
      rw [honly r hr, hdone] at hnot
      cases hnot
    | false =>
      refine ⟨⟨nofun, ?_⟩, fun r hr _ => by rw [honly r hr]; rfl, fun _ => ⟨_, rfl⟩⟩
      rintro ⟨r, hr, hdone'⟩
      rw [honly r hr, hdone] at hdone'
      cases hdone'

/-- What an evaluation of the watch does, and what it finds. -/
structure IsGlance (e : Engine) (id : String) (call : Nat) (attempt : Attempt) : Prop where
  /-- It takes as long as its exchange, which gives up when an attempt is over. -/
  duration : attempt.duration = (e.glance id call).duration ∧ attempt.duration ≤ attemptBound
  /-- It sends one request at most: that of an inspection, if the connection opens in time. -/
  sent : (e.glance id call).sent =
    if (e.inspectService id call).opensWithin e.patience then some (e.inspectRequest id) else none
  /-- It gets one definite answer at most. -/
  definite : ∀ info other, e.Tells id call info → e.Tells id call other → info = other
  /-- It is fatal exactly if a definite answer does not say that the container is running. -/
  fatal : ∀ cause, attempt.verdict = .fatal cause ↔
    cause = .containerStopped id ∧ ∃ info, e.Tells id call info ∧ ¬ info.SaysRunning
  /-- It is not ready in every other case. -/
  notReady : attempt.verdict = .notReady ↔ ∀ info, e.Tells id call info → info.SaysRunning

theorem isGlance_attempt (hempty : EngineAnswer.FindsNoneInEmpty e.read) (id : String)
    (call : Nat) :
    e.IsGlance id call (ContainerWatch.attempt id (e.inspection id call)) where
  duration := ⟨(ContainerWatch.attempt_inspection e id call).1,
    ContainerWatch.attempt_duration_le ..⟩
  sent := Http.exchange_sent
  definite := fun _ _ => Tells.unique
  fatal := fun _ => ContainerWatch.verdict_eq_fatal_iff hempty
  notReady := ContainerWatch.verdict_eq_notReady_iff hempty

/-- **A watched container ends a wait only on a definite answer of the engine.**  How the client of
the engine reads descriptions is up to it, as long as it finds none in an empty body.

Every evaluation of the watch sends one request at most.  It is fatal, for its container, exactly
if an answer comes while an attempt and the client wait for it, tells a success, and has a body in
which the client finds a description that does not say that the container is running; and it is
not ready in every other case, whatever comes instead (`IsGlance`).  The client waits longer than
an attempt may take, unless it is told to wait for no second at all.

Any number of evaluations send the request once for each connection, and each depends on nothing
but what it finds at the address of the engine: where two engines are the same there, any two
evaluations are the same, whatever came before them.  So a wait is given up for a container exactly
if it names and has started the container, and comes to a round in which no check ends it and the
watch finds such an answer (`ManagedWait.StopsIn`).

A start, a stop and a removal are done exactly if an answer in time says so, and else fail with the
error of their own kind for this very container (`Reports`). -/
theorem watch_ends_on_definite_answer (e : Engine)
    (hempty : EngineAnswer.FindsNoneInEmpty e.read) (id : String) :
    (∀ call, e.IsGlance id call ((ContainerWatch.probe id (e.daemon.inspect id)).attempt call)) ∧
    (attemptBound ≤ e.bound → e.patience = attemptBound) ∧
    (∀ n, e.glanceRequests id n =
      ((List.range n).filter fun call => (e.inspectService id call).opensWithin e.patience).map
        fun _ => e.inspectRequest id) ∧
    (∀ other : Engine, other.address = e.address → other.bound = e.bound → other.read = e.read →
      ∀ j k, other.inspectService id j = e.inspectService id k →
        (ContainerWatch.probe id (other.daemon.inspect id)).attempt j =
          (ContainerWatch.probe id (e.daemon.inspect id)).attempt k) ∧
    (∀ (allowance : Nat) (settings : Settings) (request : WaitRequest) (networks : Nat → Network),
      (ManagedWait.runWithin allowance settings request (some e.daemon)
          (.ofNetworks networks)).outcome = some (.error (.wait (.probe (.containerStopped id)))) ↔
        ∃ checks, request.checks = .ok checks ∧ request.container = some id ∧
          e.daemon.start id = .ok () ∧
          ∃ r < allowance, ManagedWait.StopsIn e networks settings request checks id r) ∧
    e.Reports (.start id) (.startFailed id) (e.daemon.start id) ∧
    (∀ grace, e.Reports (.stop id grace) (.stopFailed id) (e.daemon.stop id grace)) ∧
    e.Reports (.remove id) (.removeFailed id) (e.daemon.remove id) := by
  refine ⟨fun call => isGlance_attempt hempty id call, Nat.min_eq_left, glanceRequests_eq_map,
    fun other haddress hbound hread j k hsame => ?_,
    fun allowance settings request networks =>
      ManagedWait.outcome_eq_containerStopped_iff hempty,
    reports_perform .., fun grace => reports_perform .., reports_perform ..⟩
  have hserve : other.serve (.daemon (.inspect id j)) = e.serve (.daemon (.inspect id k)) := hsame
  have hmade : other.exchange (.daemon (.inspect id j)) = e.exchange (.daemon (.inspect id k)) := by
    rw [exchange, exchange, hserve, hbound, haddress]
    rfl
  have hinspection : other.inspection id j = e.inspection id k := by
    simp only [inspection, hmade, hread]
  exact congrArg (ContainerWatch.attempt id) hinspection

/-- A client that knows two descriptions: one with a state that has the flag set, and one without
a state. -/
def readPlain : EngineAnswer.InfoReader := fun body =>
  if body = Http.Response.bytesOf "\x7b\"State\":\x7b\"Running\":true\x7d\x7d" then
    some { state := some { running := some true } }
  else if body = Http.Response.bytesOf "\x7b\x7d" then some { state := none }
  else none

/-- What is said of a container that is there, then runs, and then has no state. -/
def fadingAnswers : List String :=
  ["HTTP/1.1 404 X\n\n\x7b\"message\":\"no\"\x7d", "HTTP/1.1 200 OK\n\n[",
    "HTTP/1.1 200 OK\n\n\x7b\"State\":\x7b\"Running\":true\x7d\x7d", "HTTP/1.1 200 OK\n\n\x7b\x7d"]

/-- An engine that starts containers, gives these answers to inspections, one after the other, and
knows no container that is to be removed. -/
def fadingEngine : Engine where
  address := .socket "/run/engine"
  bound := 1000
  read := readPlain
  serve call :=
    let text :=
      match call with
      | .daemon (.inspect _ k) => scripted "" fadingAnswers k
      | .daemon (.start _) => "HTTP/1.1 204 N\n\n"
      | _ => "HTTP/1.1 404 X\n\n\x7b\"message\":\"no\"\x7d"
    { connection := .accepted 0, conduct := fun _ => .answers 0 (Http.Response.bytesOf text) }

/-- A missing container, a body that is no JSON and a container that runs are no news; a container
without a state is, and ends a wait for it.  What is not there cannot be removed. -/
theorem watch_ends_on_definite_answer_of_fading :
    let attempt := (ContainerWatch.probe "app" (fadingEngine.daemon.inspect "app")).attempt
    let request : WaitRequest := { tcpPorts := [80], container := some "app" }
    let networks : Nat → Network := fun _ _ => { connection := .refused 0 "" }
    EngineAnswer.FindsNoneInEmpty fadingEngine.read ∧
      (∀ call < 3, (attempt call).verdict = .notReady ∧
        ∀ info, fadingEngine.Tells "app" call info → info.SaysRunning) ∧
      fadingEngine.Tells "app" 3 {} ∧ (attempt 3).verdict = .fatal (.containerStopped "app") ∧
      fadingEngine.patience = attemptBound ∧
      (∃ checks, request.checks = .ok checks ∧
        ∃ r < 9, ManagedWait.StopsIn fadingEngine networks {} request checks "app" r) ∧
      ∃ reason, fadingEngine.daemon.remove "app" = .error (.removeFailed "app" reason) := by
  intro attempt request networks
  have hempty : EngineAnswer.FindsNoneInEmpty fadingEngine.read := by
    rw [EngineAnswer.FindsNoneInEmpty]
    decide +kernel
  obtain ⟨hglance, hpatience, -, -, hwait, -, -, hremove⟩ :=
    watch_ends_on_definite_answer fadingEngine hempty "app"
  have hnoNews : ∀ call < 3, (attempt call).verdict = .notReady := by decide +kernel
  have htells : fadingEngine.Tells "app" 3 {} := by
    have hread : Http.Response.read "GET"
        (Http.Response.bytesOf "HTTP/1.1 200 OK\n\n\x7b\x7d") =
          some ⟨⟨200, by decide⟩, some (Http.Response.bytesOf "\x7b\x7d")⟩ := by decide +kernel
    exact ⟨_, _, ⟨0, 0, _, rfl, rfl, by decide, hread⟩, by decide, by decide +kernel⟩
  have hstopped : ¬ ({} : EngineAnswer.ContainerInfo).SaysRunning := fun ⟨_, hstate, _⟩ => by
    cases hstate
  have houtcome : (ManagedWait.runWithin 9 {} request (some fadingEngine.daemon)
      (.ofNetworks networks)).outcome =
        some (.error (.wait (.probe (.containerStopped "app")))) := by decide +kernel
  obtain ⟨checks, hchecks, -, -, hstops⟩ := (hwait 9 {} request networks).1 houtcome
  have hdeclined : fadingEngine.daemon.remove "app" ≠ .ok () := by decide +kernel
  refine ⟨hempty, fun call hcall => ⟨hnoNews call hcall, ?_⟩, htells,
    ((hglance 3).fatal _).2 ⟨rfl, _, htells, hstopped⟩, hpatience (by decide),
    ⟨checks, hchecks, hstops⟩, hremove.failed hdeclined⟩
  exact (hglance call).notReady.1 (hnoNews call hcall)

end Engine
end ServiceReadiness
