/-
# What a command does to the world outside

A command that waits or runs a program goes through stages, and one that fails is the last.
Settings that cannot be resolved leave the world outside alone.  A wait that looks after a
container needs a client of the engine and an answer to a ping, in this order, before anything
else; then its checks have to be usable, and then the container has to start.  Whoever gives up at
one of these stages looks at no check (`GivesUp`).  What comes after them is the wait itself, and
the calls that its outcome asks for (`waitStages_wait`).  Any other wait has nothing to ask of the
engine (`asksEngine_of_mem_waitWith_none`).

A wait exits as it ended (`exitTells_waitExit`), and a program that is run decides its exit
(`exists_run_exit_iff`).  Whatever the way, a success prints one line, which tells the time that
it took, and a failure prints nothing.  The line of a wait is a sentence or a report, and both are
written out (`IsReadyLine`).
-/

import ServiceReadiness.Execution
import ServiceReadiness.Proofs.Lifecycle
import ServiceReadiness.Proofs.ReportEncoding
import ServiceReadiness.Proofs.RequestedWaits
import ServiceReadiness.Proofs.Settlement

namespace ServiceReadiness

/-- A command that waits or runs a program, and is more than a completion script. -/
inductive Command.Acts : Command → Prop
  | wait (r : WaitRequest) : Acts (.wait r)
  | run (time : Int64) (argv : List String) : Acts (.run time argv)

/-- An effect that asks something of the engine. -/
def Effect.asksEngine : Effect → Bool
  | .ping _ | .contact (.daemon _) => true
  | .contact (.endpoint _) | .contact (.server _) | .spawn _ => false

/-- A child ends well before a bound of so many seconds passes, or ends well at all if that is
not positive. -/
def Child.SucceedsWithin (c : Child) (secs : Int) : Prop :=
  c.finish = .exited 0 ∧ (0 < secs → c.duration ≤ secs.toNat * 1000)

/-- What is printed at an exit: one line of a certain kind at a success, and else nothing. -/
structure Exit.Prints (x : Exit) (tells : String → Prop) : Prop where
  success : x.code = 0 → ∃ line, tells line ∧ '\n' ∉ line.toList ∧ x.output = line ++ "\n"
  failure : x.code ≠ 0 → x.output = ""

/-! ### Programs that are waited for -/

namespace BoundedWork

/-- The time of a work that counts as finished is told if it ends in time. -/
theorem await_settlement_eq_elapsed_iff {r : WorkRun} {secs : Int} {start time : Nat} :
    (await r secs start).settlement = .elapsed time ↔
      endsInTime r (deadline? start secs) = true ∧
        (r.ending = .succeeded ∨ r.ending = .aborted) ∧ time = max r.endedAt start := by
  rw [await]
  by_cases hends : endsInTime r (deadline? start secs) = true
  · cases hending : r.ending <;> simp [hends, settle, eq_comm]
  · simp [hends]

end BoundedWork

namespace Child

/-- A child that ends well takes its time and succeeds. -/
theorem course_of_exited_zero {c : Child} (h : c.finish = .exited 0) (program : String) :
    (c.course program).endedAt = c.duration ∧ (c.course program).ending = .succeeded := by
  obtain ⟨hended, hending⟩ := Work.proceed_none .succeed 0 [c.duration]
  rw [course, h]
  exact ⟨hended.trans (by simp [Finale.duration]), hending⟩

/-- No other child succeeds, and none is aborted. -/
theorem course_of_not_exited_zero {c : Child} (h : c.finish ≠ .exited 0) (program : String) :
    (c.course program).ending ≠ .succeeded ∧ (c.course program).ending ≠ .aborted := by
  have hvain : ∀ cause, finale? program c.finish = some (.fail cause) →
      (c.course program).ending = .failed cause := fun cause hfinale => by
    rw [course, hfinale]
    exact (Work.proceed_none (.fail cause) 0 [c.duration]).2
  cases hfinish : c.finish with
  | exited code =>
    cases code with
    | zero => exact absurd hfinish h
    | succ n => simp [hvain _ (by rw [hfinish, finale?]; simp)]
  | killed signal => simp [hvain _ (by rw [hfinish, finale?])]
  | notStarted reason => simp [hvain _ (by rw [hfinish, finale?])]
  | never => simp [course, hfinish, finale?]

/-- The wait for a child counts it as finished if it succeeds within the bound. -/
theorem await_course_eq_elapsed_iff {c : Child} (program : String) {secs : Int} {time : Nat} :
    (BoundedWork.await (c.course program) secs 0).settlement = .elapsed time ↔
      c.SucceedsWithin secs ∧ time = c.duration := by
  rw [BoundedWork.await_settlement_eq_elapsed_iff, SucceedsWithin]
  by_cases hfinish : c.finish = .exited 0
  · obtain ⟨hended, hending⟩ := course_of_exited_zero hfinish program
    by_cases hsecs : 0 < secs <;>
      simp [hended, hending, hfinish, hsecs, BoundedWork.endsInTime, BoundedWork.deadline?]
  · obtain ⟨hvain, hlasting⟩ := course_of_not_exited_zero hfinish program
    simp [hvain, hlasting, hfinish]

end Child

namespace CommandLine

/-- A command line that runs a program names one. -/
theorem argv_ne_nil_of_parse {args : List String} {l : CommandLine} {time : Int64}
    {argv : List String} (h : parse args = .ok l) (hrun : l.command = .run time argv) :
    argv ≠ [] := by
  obtain ⟨c, rest, inner, hinner, hcommand⟩ := exists_parse_of_parseFrom h
  obtain ⟨d, trailing, hdraft⟩ := exists_draft_of_parse hinner
  rw [hcommand, hrun] at hdraft
  cases c with
  | run =>
    rw [Draft.command] at hdraft
    split at hdraft
    case isTrue => cases hdraft
    case isFalse htrailing =>
      obtain ⟨-, rfl⟩ := Command.run.inj (Except.ok.inj hdraft)
      exact htrailing
  | _ =>
    rw [Draft.command] at hdraft
    split at hdraft <;> cases hdraft

end CommandLine

namespace ManagedWait

/-- A wait that ended with an error has it as its outcome. -/
theorem outcome_of_error {checks : List Check} {ending : Ending} {cause : WaitError}
    (h : ending.error? = some cause) :
    outcome checks ending = some (.error (.wait cause)) := by
  cases ending with
  | ready time => cases h
  | _ => simp only [outcome, h]

/-- A wait that ended in no such way, and was not ready, has no outcome. -/
theorem outcome_of_endless {checks : List Check} {ending : Ending}
    (h : ending.error? = none) (hready : ∀ time, ending ≠ .ready time) :
    outcome checks ending = none := by
  cases ending with
  | ready time => exact absurd rfl (hready time)
  | _ => simp only [outcome, h]

end ManagedWait

namespace Execution

/-! ### How a wait exits -/

/-- The line that tells that a wait was ready after so many milliseconds, over checks of these
names. -/
structure IsReadyLine (r : WaitRequest) (time : Nat) (names : List String) (line : String) :
    Prop where
  /-- It is a sentence with the time, which keeps to 64 bits. -/
  sentence : r.json = false → line = "ready after " ++ Numeral.render (time % UInt64.size) ++ " ms"
  /-- Or it is a report in JSON. -/
  report : r.json = true →
    line = "\x7b\"status\":\"ready\",\"elapsed_ms\":" ++ Numeral.render (time % UInt64.size) ++
      ",\"checks\":[" ++ ",".intercalate (names.map quotedText) ++ "]\x7d"
  /-- The report says this and nothing else. -/
  value : r.json = true → ∀ j, Json.Denotes line.toList j ↔ j = .object
    [("status".toList, .text "ready".toList),
      ("elapsed_ms".toList, .number (Numeral.digits (time % UInt64.size))),
      ("checks".toList, .array (names.map fun name => .text name.toList))]
  single : '\n' ∉ line.toList

/-- A sentence about a time is one line. -/
theorem newline_notMem_sentence (before : String) (time : Nat) (hbefore : '\n' ∉ before.toList) :
    '\n' ∉ (before ++ Numeral.render time ++ " ms").toList := by
  have htime := (Numeral.printable_digits time).newline_notMem
  simp [hbefore, htime]

/-- **A wait that was ready prints its line.** -/
theorem isReadyLine_reportLine (r : WaitRequest) (time : Nat) (names : List String) :
    IsReadyLine r time names (reportLine r (.ready time names)) := by
  have htime : (WaitReport.ready time names).elapsedMillis.toNat = time % UInt64.size :=
    UInt64.toNat_ofNat'
  cases hjson : r.json with
  | false =>
    have hline : reportLine r (.ready time names) =
        "ready after " ++ Numeral.render (time % UInt64.size) ++ " ms" := by
      simp [reportLine, hjson, htime]
    rw [hline]
    exact ⟨fun _ => rfl, fun h => absurd (hjson.symm.trans h) Bool.false_ne_true,
      fun h => absurd (hjson.symm.trans h) Bool.false_ne_true,
      newline_notMem_sentence _ _ (by decide)⟩
  | true =>
    have hline : reportLine r (.ready time names) = (WaitReport.ready time names).render := by
      simp [reportLine, hjson]
    have hvalue := (WaitReport.ready time names).denotes_render_iff
    rw [WaitReport.toJson, htime] at hvalue
    rw [hline]
    exact ⟨fun h => absurd (h.symm.trans hjson) Bool.false_ne_true,
      fun _ => WaitReport.render_ready time names, fun _ => hvalue,
      WaitReport.newline_notMem_render _⟩

/-- How a wait over checks of these names exits when it has ended so. -/
structure ExitTells (r : WaitRequest) (names : List String) (ending : Ending)
    (exit : Option Exit) : Prop where
  ready : ∀ time, ending = .ready time →
    ∃ line, IsReadyLine r time names line ∧ exit = some { output := line ++ "\n", code := 0 }
  failed : ∀ cause, ending.error? = some cause →
    exit = some { complaint := some ("Error: " ++ cause.message), code := 1 }
  endless : ending.error? = none → (∀ time, ending ≠ .ready time) → exit = none

/-- **A wait exits as it ended.** -/
theorem exitTells_waitExit (r : WaitRequest) (checks : List Check) (ending : Ending) :
    ExitTells r (checks.map Check.name) ending
      ((ManagedWait.outcome checks ending).map (waitExit r)) where
  ready := by
    rintro time rfl
    exact ⟨_, isReadyLine_reportLine r time (checks.map Check.name), rfl⟩
  failed := by
    intro cause hcause
    rw [ManagedWait.outcome_of_error hcause]
    rfl
  endless := by
    intro hnone hready
    rw [ManagedWait.outcome_of_endless hnone hready]
    rfl

/-! ### The stages of a wait -/

/-- A command gives up after so much was done, with a complaint and the code 1, and looks at no
check. -/
structure GivesUp (follow : CheckBehaviour → Execution) (done : List Effect) (message : String) :
    Prop where
  effects_eq : ∀ behaviour, (follow behaviour).effects = done
  exit_eq : ∀ behaviour,
    (follow behaviour).exit = some { complaint := some ("Error: " ++ message), code := 1 }
  blind : ∀ behaviour other, follow behaviour = follow other

/-- What is the same whatever the checks find has looked at none of them. -/
theorem GivesUp.of_const {e : Execution} {message : String}
    (hexit : e.exit = some (failure message)) : GivesUp (fun _ => e) e.effects message :=
  ⟨fun _ => rfl, fun _ => hexit, fun _ _ => rfl⟩

/-- A wait looks after a container: it names it, containers are not to be skipped, and there is a
client of the engine, which answers a ping. -/
structure LooksAfter (s : Surroundings) (settings : Settings) (r : WaitRequest) (id : String)
    (engine : Engine) : Prop where
  named : r.container = some id
  notSkipped : settings.docker.skip = false
  client : s.client.engine settings.docker = .ok engine
  answers : engine.ping settings.docker.url = .ok ()

/-- The wait over the checks of a command, and over the watch that it keeps besides. -/
def polled (allowance : Timing → Int → Nat) (settings : Settings) (r : WaitRequest)
    (behaviour : CheckBehaviour) (checks : List Check) (watch : List Probe) : WaitRun :=
  Waiter.waitWithin (allowance settings.timing r.time.toInt) settings.timing r.time.toInt none
    (checks.map (Check.probe behaviour) ++ watch)

/-- What a wait with its settings does to the world outside, whatever its checks find, and how it
exits. -/
structure WaitStages (allowance : Timing → Int → Nat) (s : Surroundings) (settings : Settings)
    (r : WaitRequest) (follow : CheckBehaviour → Execution) : Prop where
  /-- Without a client of the engine nothing is done. -/
  noClient : r.container ≠ none → settings.docker.skip = false →
    ∀ fault, s.client.engine settings.docker = .error fault → GivesUp follow [] fault.message
  /-- Without an answer nothing is done but the ping. -/
  noAnswer : r.container ≠ none → settings.docker.skip = false →
    ∀ engine fault, s.client.engine settings.docker = .ok engine →
      engine.ping settings.docker.url = .error fault →
        GivesUp follow [.ping engine.address] fault.message
  /-- Checks that cannot be used keep the container from being started. -/
  unusable : ∀ id engine, LooksAfter s settings r id engine → ∀ cause, r.checks = .error cause →
    GivesUp follow [.ping engine.address] cause.message
  /-- A container that cannot be started is the last that is asked for. -/
  notStarted : ∀ id engine, LooksAfter s settings r id engine → ∀ checks cause,
    r.checks = .ok checks → engine.daemon.start id = .error cause →
      GivesUp follow [.ping engine.address, .contact (.daemon (.start id))] cause.message
  /-- A container that was started is watched, and torn down as the outcome asks. -/
  started : ∀ id engine, LooksAfter s settings r id engine → ∀ checks, r.checks = .ok checks →
    engine.daemon.start id = .ok () → ∀ behaviour,
      let run := polled allowance settings r behaviour checks
        [ContainerWatch.probe id (engine.daemon.inspect id)]
      let closing := ManagedWait.closingCalls settings.docker r.keep engine.daemon id
        (ManagedWait.outcome checks run.ending)
      (follow behaviour).effects = .ping engine.address :: .contact (.daemon (.start id)) ::
          (ManagedWait.contacts behaviour checks (some id) run.history ++
            closing.map Contacted.daemon).map .contact ∧
        ExitTells r (checks.map Check.name) run.ending (follow behaviour).exit
  /-- Without a container to look after, checks that cannot be used end the wait. -/
  unusableAlone : r.container = none ∨ settings.docker.skip = true →
    ∀ cause, r.checks = .error cause → GivesUp follow [] cause.message
  /-- Without a container to look after there is the wait over the checks alone. -/
  alone : r.container = none ∨ settings.docker.skip = true → ∀ checks, r.checks = .ok checks →
    ∀ behaviour,
      let run := polled allowance settings r behaviour checks []
      (follow behaviour).effects =
          (ManagedWait.contacts behaviour checks none run.history).map .contact ∧
        ExitTells r (checks.map Check.name) run.ending (follow behaviour).exit

section

variable {allowance : Timing → Int → Nat} {behaviour : CheckBehaviour} {s : Surroundings}
  {settings : Settings} {r : WaitRequest}

/-- Without a daemon there is nothing to ask of the engine. -/
theorem asksEngine_of_mem_waitWith_none {effect : Effect}
    (h : effect ∈ (waitWith allowance behaviour settings r none).effects) :
    effect.asksEngine = false := by
  obtain ⟨contact, hcontact, rfl⟩ := List.mem_map.1 h
  cases contact with
  | endpoint _ => rfl
  | server _ => rfl
  | daemon call =>
    have hcall := ManagedWait.mem_filterMap_call?.2 hcontact
    rw [← ManagedRun.calls, ManagedWait.calls_eq_nil (.inr (.inr rfl))] at hcall
    exact absurd hcall List.not_mem_nil

/-- Checks that cannot be used leave nothing to be done. -/
theorem waitWith_of_unusable {cause : ProbeError} (hchecks : r.checks = .error cause)
    (behaviour : CheckBehaviour) (daemon : Option Daemon) :
    waitWith allowance behaviour settings r daemon =
      { exit := some (failure cause.message) } := by
  simp only [waitWith, ManagedWait.runWithin_of_unusable hchecks, ManagedWait.rejected]
  rfl

/-- A wait that names no container, or is to leave the engine alone, is the wait over its
checks, with what is logged before. -/
theorem exists_wait_eq_of_alone (allowance : Timing → Int → Nat) (s : Surroundings)
    (h : r.container = none ∨ settings.docker.skip = true) :
    ∃ logs, ∀ behaviour, wait allowance behaviour s settings r =
      after [] logs (waitWith allowance behaviour settings r none) := by
  cases hid : r.container with
  | none => exact ⟨[], fun behaviour => by simp [wait, hid, after]⟩
  | some id =>
    have hskip : settings.docker.skip = true := h.resolve_left (by simp [hid])
    exact ⟨[skipLine id], fun behaviour => by simp [wait, hid, hskip]⟩

/-- Without a client of the engine there is no wait. -/
theorem wait_of_noClient {fault : ContainerError} (hnamed : r.container ≠ none)
    (hskip : settings.docker.skip = false)
    (hclient : s.client.engine settings.docker = .error fault) (behaviour : CheckBehaviour) :
    wait allowance behaviour s settings r = { exit := some (failure fault.message) } := by
  obtain ⟨id, hid⟩ := Option.ne_none_iff_exists'.1 hnamed
  simp [wait, hid, hskip, hclient]

/-- An engine that does not answer ends the wait before it begins. -/
theorem wait_of_noAnswer {engine : Engine} {fault : ContainerError} (hnamed : r.container ≠ none)
    (hskip : settings.docker.skip = false)
    (hclient : s.client.engine settings.docker = .ok engine)
    (hping : engine.ping settings.docker.url = .error fault) (behaviour : CheckBehaviour) :
    wait allowance behaviour s settings r =
      { effects := [.ping engine.address], exit := some (failure fault.message) } := by
  obtain ⟨id, hid⟩ := Option.ne_none_iff_exists'.1 hnamed
  simp [wait, hid, hskip, hclient, hping]

/-- An engine that answers was pinged, and is there for the wait. -/
theorem wait_of_looksAfter {id : String} {engine : Engine} (h : LooksAfter s settings r id engine)
    (behaviour : CheckBehaviour) :
    wait allowance behaviour s settings r =
      after [.ping engine.address] [Engine.connectedLine settings.docker.url]
        (waitWith allowance behaviour settings r (some engine.daemon)) := by
  simp [wait, h.named, h.notSkipped, h.client, h.answers]

/-- **The stages of a wait,** whatever is shown of its log. -/
theorem waitStages_wait (allowance : Timing → Int → Nat) (s : Surroundings) (settings : Settings)
    (r : WaitRequest) (filter : LogFilter) :
    WaitStages allowance s settings r fun behaviour =>
      { wait allowance behaviour s settings r with filter } where
  noClient hnamed hskip fault hclient := by
    simp only [wait_of_noClient hnamed hskip hclient]
    exact .of_const rfl
  noAnswer hnamed hskip engine fault hclient hping := by
    simp only [wait_of_noAnswer hnamed hskip hclient hping]
    exact .of_const rfl
  unusable id engine h cause hchecks := by
    simp only [wait_of_looksAfter h, waitWith_of_unusable hchecks]
    exact .of_const rfl
  notStarted id engine h checks cause hchecks hstart := by
    have hafter : ManagedWait.LooksAfter r (some engine.daemon) checks id engine.daemon :=
      ⟨hchecks, h.named, rfl⟩
    simp only [wait_of_looksAfter h, waitWith, ManagedWait.runWithin_of_not_started hafter hstart]
    exact .of_const rfl
  started id engine h checks hchecks hstart behaviour := by
    have hafter : ManagedWait.LooksAfter r (some engine.daemon) checks id engine.daemon :=
      ⟨hchecks, h.named, rfl⟩
    intro run closing
    simp only [wait_of_looksAfter h, waitWith, ManagedWait.runWithin_of_started hafter hstart]
    refine ⟨?_, exitTells_waitExit r checks run.ending⟩
    simp only [after, ManagedWait.after, ManagedWait.contacts_watched]
    rfl
  unusableAlone halone cause hchecks := by
    obtain ⟨logs, hwait⟩ := exists_wait_eq_of_alone allowance s halone
    simp only [hwait, waitWith_of_unusable hchecks]
    exact .of_const rfl
  alone halone checks hchecks behaviour := by
    obtain ⟨logs, hwait⟩ := exists_wait_eq_of_alone allowance s halone
    intro run
    have hrun : run = polled allowance settings r behaviour checks [] := rfl
    rw [polled, List.append_nil] at hrun
    simp only [hwait, waitWith, ManagedWait.runWithin_of_alone hchecks (.inr rfl)]
    rw [hrun]
    exact ⟨rfl, exitTells_waitExit r checks _⟩

end

/-! ### What a command prints -/

/-- The watch that a wait keeps besides its checks: over the container that it looks after. -/
inductive Watches (s : Surroundings) (settings : Settings) (r : WaitRequest) : List Probe → Prop
  | nothing (h : r.container = none ∨ settings.docker.skip = true) : Watches s settings r []
  | container {id : String} {engine : Engine} (h : LooksAfter s settings r id engine) :
    Watches s settings r [ContainerWatch.probe id (engine.daemon.inspect id)]

/-- The lines with which a command tells of its success: that its wait was ready, at the time when
it was, or that its program finished, after the time that it took. -/
def Tells (allowance : Timing → Int → Nat) (behaviour : CheckBehaviour) (s : Surroundings) :
    Command → String → Prop
  | .wait r, line =>
    ∃ settings checks watch time, Settings.resolve (allVariables s).environment = .ok settings ∧
      r.checks = .ok checks ∧ Watches s settings r watch ∧
      (polled allowance settings r behaviour checks watch).ending = .ready time ∧
      IsReadyLine r time (checks.map Check.name) line
  | .run _ argv, line =>
    line = "finished after " ++ Numeral.render (s.child argv).duration ++ " ms"
  | .completion _, _ => False

theorem prints_failure (message : String) (tells : String → Prop) :
    (failure message).Prints tells := ⟨fun h => absurd h (by simp), fun _ => rfl⟩

theorem prints_success {line : String} {tells : String → Prop} (htells : tells line)
    (hline : '\n' ∉ line.toList) : (success line).Prints tells :=
  ⟨fun _ => ⟨line, htells, hline, rfl⟩, fun h => absurd rfl h⟩

section

variable {allowance : Timing → Int → Nat} {behaviour : CheckBehaviour} {s : Surroundings}
  {settings : Settings} {x : Exit}

theorem GivesUp.prints {follow : CheckBehaviour → Execution} {done : List Effect}
    {message : String} (h : GivesUp follow done message)
    (hexit : (follow behaviour).exit = some x) (tells : String → Prop) : x.Prints tells := by
  rw [h.exit_eq behaviour] at hexit
  exact Option.some.inj hexit ▸ prints_failure ..

/-- A wait that exits as it ended prints its line if it was ready. -/
theorem ExitTells.prints {r : WaitRequest} {checks : List Check} {watch : List Probe}
    (h : ExitTells r (checks.map Check.name)
      (polled allowance settings r behaviour checks watch).ending (some x))
    (hfound : Settings.resolve (allVariables s).environment = .ok settings)
    (hchecks : r.checks = .ok checks) (hwatch : Watches s settings r watch) :
    x.Prints (Tells allowance behaviour s (.wait r)) := by
  by_cases hready : ∃ time, (polled allowance settings r behaviour checks watch).ending =
      .ready time
  · obtain ⟨time, htime⟩ := hready
    obtain ⟨line, hline, hexit⟩ := h.ready time htime
    exact Option.some.inj hexit ▸ prints_success
      ⟨settings, checks, watch, time, hfound, hchecks, hwatch, htime, hline⟩ hline.single
  · cases herror : (polled allowance settings r behaviour checks watch).ending.error? with
    | some cause => exact Option.some.inj (h.failed cause herror) ▸ prints_failure ..
    | none => cases h.endless herror fun time htime => hready ⟨time, htime⟩

/-- **What a wait prints follows from its stages.** -/
theorem WaitStages.prints {r : WaitRequest} {follow : CheckBehaviour → Execution}
    (h : WaitStages allowance s settings r follow)
    (hfound : Settings.resolve (allVariables s).environment = .ok settings)
    (hexit : (follow behaviour).exit = some x) :
    x.Prints (Tells allowance behaviour s (.wait r)) := by
  by_cases halone : r.container = none ∨ settings.docker.skip = true
  · cases hchecks : r.checks with
    | error cause => exact (h.unusableAlone halone cause hchecks).prints hexit _
    | ok checks =>
      obtain ⟨-, htells⟩ := h.alone halone checks hchecks behaviour
      rw [hexit] at htells
      exact htells.prints hfound hchecks (.nothing halone)
  · obtain ⟨hnamed, hnot⟩ := not_or.1 halone
    have hskip : settings.docker.skip = false := Bool.eq_false_iff.2 hnot
    cases hclient : s.client.engine settings.docker with
    | error fault => exact (h.noClient hnamed hskip fault hclient).prints hexit _
    | ok engine =>
      cases hping : engine.ping settings.docker.url with
      | error fault =>
        exact (h.noAnswer hnamed hskip engine fault hclient hping).prints hexit _
      | ok _ =>
        obtain ⟨id, hid⟩ := Option.ne_none_iff_exists'.1 hnamed
        have hafter : LooksAfter s settings r id engine := ⟨hid, hskip, hclient, hping⟩
        cases hchecks : r.checks with
        | error cause => exact (h.unusable id engine hafter cause hchecks).prints hexit _
        | ok checks =>
          cases hstart : engine.daemon.start id with
          | error cause =>
            exact (h.notStarted id engine hafter checks cause hchecks hstart).prints hexit _
          | ok _ =>
            obtain ⟨-, htells⟩ := h.started id engine hafter checks hchecks hstart behaviour
            rw [hexit] at htells
            exact htells.prints hfound hchecks (.container hafter)

/-- A program that succeeds within the bound exits with its line. -/
theorem run_exit_of_succeedsWithin {time : Int64} {argv : List String}
    (h : (s.child argv).SucceedsWithin time.toInt) :
    (run s time argv).exit = some (success
      ("finished after " ++ Numeral.render (s.child argv).duration ++ " ms")) := by
  rw [run, (Child.await_course_eq_elapsed_iff (argv.headD "")).2 ⟨h, rfl⟩]
  rfl

/-- Any other program fails, if it ends or its bound passes. -/
theorem run_exit_of_not_succeedsWithin {time : Int64} {argv : List String}
    (h : ¬ (s.child argv).SucceedsWithin time.toInt) (hexit : (run s time argv).exit = some x) :
    ∃ message, x = failure message := by
  rw [run] at hexit
  cases hsettled : (BoundedWork.await ((s.child argv).course (argv.headD "")) time.toInt
      0).settlement with
  | elapsed elapsed => exact absurd ((Child.await_course_eq_elapsed_iff _).1 hsettled).1 h
  | failed cause =>
    rw [hsettled] at hexit
    exact ⟨_, (Option.some.inj hexit).symm⟩
  | pending =>
    rw [hsettled] at hexit
    cases hexit

/-- **A program that is run decides the exit:** it is a success if the program succeeds within
the bound. -/
theorem exists_run_exit_iff {time : Int64} {argv : List String} :
    (∃ x, (run s time argv).exit = some x ∧ x.code = 0) ↔
      (s.child argv).SucceedsWithin time.toInt := by
  constructor
  · rintro ⟨x, hexit, hcode⟩
    by_contra hvain
    obtain ⟨message, rfl⟩ := run_exit_of_not_succeedsWithin hvain hexit
    simp at hcode
  · exact fun h => ⟨_, run_exit_of_succeedsWithin h, rfl⟩

theorem prints_run {time : Int64} {argv : List String} (h : (run s time argv).exit = some x) :
    x.Prints (Tells allowance behaviour s (.run time argv)) := by
  by_cases hsucceeds : (s.child argv).SucceedsWithin time.toInt
  · rw [run_exit_of_succeedsWithin hsucceeds] at h
    exact Option.some.inj h ▸ prints_success rfl (newline_notMem_sentence _ _ (by decide))
  · obtain ⟨message, rfl⟩ := run_exit_of_not_succeedsWithin hsucceeds h
    exact prints_failure ..

end

/-! ### The whole command -/

section

variable {allowance : Timing → Int → Nat} {behaviour : CheckBehaviour} {s : Surroundings}
  {args : List String} {l : CommandLine}

/-- Settings that cannot be resolved end the command before it does anything. -/
theorem configured_of_unresolved {c : Command} {fault : ConfigError}
    (h : Settings.resolve (allVariables s).environment = .error fault)
    (behaviour : CheckBehaviour) :
    configured allowance behaviour s c =
      { filter := LogFilter.choose ((allVariables s).text? "RUST_LOG")
        exit := some (failure fault.message) } := by
  rw [configured, h]

theorem configured_of_resolved {c : Command} {settings : Settings}
    (h : Settings.resolve (allVariables s).environment = .ok settings)
    (behaviour : CheckBehaviour) :
    configured allowance behaviour s c =
      { perform allowance behaviour s settings c with
        filter := LogFilter.choose ((allVariables s).text? "RUST_LOG") } := by
  rw [configured, h]

/-- A command line that waits or runs a program is followed with its settings. -/
theorem executeWithin_eq_configured (hparse : CommandLine.parse args = .ok l)
    (hacts : l.command.Acts) (behaviour : CheckBehaviour) :
    executeWithin allowance behaviour s args = configured allowance behaviour s l.command := by
  rw [executeWithin, hparse]
  obtain ⟨command, logJson⟩ := l
  cases hacts with
  | wait r => rfl
  | run time argv => rfl

/-- The stages of a wait that a command line asks for. -/
theorem waitStages_configured {r : WaitRequest} {settings : Settings}
    (h : Settings.resolve (allVariables s).environment = .ok settings) :
    WaitStages allowance s settings r fun behaviour =>
      configured allowance behaviour s (.wait r) := by
  simp only [configured_of_resolved h, perform]
  exact waitStages_wait allowance s settings r _

/-- **Only a wait for a container that is not to be skipped asks anything of the engine.** -/
theorem exists_wait_of_asksEngine {c : Command} {effect : Effect}
    (hmem : effect ∈ (configured allowance behaviour s c).effects)
    (hasks : effect.asksEngine = true) :
    ∃ r settings, c = .wait r ∧ Settings.resolve (allVariables s).environment = .ok settings ∧
      r.container ≠ none ∧ settings.docker.skip = false := by
  cases hfound : Settings.resolve (allVariables s).environment with
  | error fault =>
    rw [configured_of_unresolved hfound] at hmem
    exact absurd hmem List.not_mem_nil
  | ok settings =>
    rw [configured_of_resolved hfound] at hmem
    cases c with
    | completion shell => exact absurd hmem List.not_mem_nil
    | run time argv =>
      obtain rfl := List.mem_singleton.1 hmem
      cases hasks
    | wait r =>
      refine ⟨r, settings, rfl, rfl, ?_⟩
      rw [Ne, ← Bool.not_eq_true, ← not_or]
      intro halone
      obtain ⟨logs, hwait⟩ := exists_wait_eq_of_alone allowance s halone
      rw [perform, hwait] at hmem
      exact Bool.false_ne_true ((asksEngine_of_mem_waitWith_none hmem).symm.trans hasks)

theorem prints_configured {c : Command} {x : Exit} (hacts : c.Acts)
    (h : (configured allowance behaviour s c).exit = some x) :
    x.Prints (Tells allowance behaviour s c) := by
  cases hfound : Settings.resolve (allVariables s).environment with
  | error fault =>
    rw [configured_of_unresolved hfound] at h
    exact Option.some.inj h ▸ prints_failure ..
  | ok settings =>
    cases hacts with
    | wait r => exact (waitStages_configured hfound).prints hfound h
    | run time argv =>
      rw [configured_of_resolved hfound] at h
      exact prints_run h

end

/-- **What a command does before it fails, and what it prints.**  Let a command line wait or
run a program in any surroundings.  Settings that cannot be resolved end it before anything is
done.  The engine is asked something by a wait for a container alone, and only if containers are
not to be skipped; such a wait, and any other, goes through its stages (`WaitStages`).  A program
is spawned once, and the command succeeds if and only if the program does within the bound.

Whenever the command ends, whatever its checks find, it prints one line if it succeeded and
nothing otherwise; the line tells the time at which the wait was ready, in a sentence or in the
JSON of the report, or the time that the program took (`Tells`). -/
theorem executeWithin_stages (allowance : Timing → Int → Nat) (s : Surroundings)
    {args : List String} {l : CommandLine} (hparse : CommandLine.parse args = .ok l)
    (hacts : l.command.Acts) :
    let follow := fun behaviour => executeWithin allowance behaviour s args
    let found := Settings.resolve (allVariables s).environment
    (∀ fault, found = .error fault → GivesUp follow [] fault.message) ∧
    (∀ behaviour, ∀ effect ∈ (follow behaviour).effects, effect.asksEngine = true →
      ∃ r settings, l.command = .wait r ∧ found = .ok settings ∧ r.container ≠ none ∧
        settings.docker.skip = false) ∧
    (∀ r settings, l.command = .wait r → found = .ok settings →
      WaitStages allowance s settings r follow) ∧
    (∀ time argv settings, l.command = .run time argv → found = .ok settings →
      argv ≠ [] ∧ ∀ behaviour, (follow behaviour).effects = [.spawn argv] ∧
        ((∃ x, (follow behaviour).exit = some x ∧ x.code = 0) ↔
          (s.child argv).SucceedsWithin time.toInt)) ∧
    ∀ behaviour x, (follow behaviour).exit = some x →
      x.Prints (Tells allowance behaviour s l.command) := by
  intro follow found
  have hfollow : follow = fun behaviour => configured allowance behaviour s l.command :=
    funext (executeWithin_eq_configured hparse hacts)
  rw [hfollow]
  refine ⟨fun fault hfault => ?unresolved, fun behaviour effect hmem hasks => ?asking,
    fun r settings hwait hfound => ?waiting, fun time argv settings hrun hfound => ?running,
    fun behaviour x hexit => prints_configured hacts hexit⟩
  case unresolved =>
    simp only [configured_of_unresolved hfault]
    exact .of_const rfl
  case asking => exact exists_wait_of_asksEngine hmem hasks
  case waiting =>
    rw [hwait]
    exact waitStages_configured hfound
  case running =>
    refine ⟨CommandLine.argv_ne_nil_of_parse hparse hrun, fun behaviour => ?_⟩
    simp only [configured_of_resolved hfound, hrun]
    exact ⟨rfl, exists_run_exit_iff⟩

/-- Surroundings in which ports accept connections at once and programs take three seconds, but
no engine listens. -/
def engineless (given : Variables) : Surroundings where
  given
  networks _ _ := { connection := .accepted 0 }
  client :=
    { reach := fun _ => .ok fun _ => { connection := .refused 0 "connection refused" }
      read := fun _ => none }
  child _ := ⟨3000, .exited 0⟩
  help _ := ""
  script _ := ""

/-- Where no engine listens, a wait for a container is over with its ping, but not if containers
are to be skipped: then it connects to its port, and reports this in JSON.  A program of three
seconds is spawned, and fails if it is given two of them, but not if it is given four. -/
theorem executeWithin_stages_of_engineless :
    let waiting := ["wait", "--tcp-port=80", "--container=app", "--json"]
    let hurrying := ["run", "--time=2", "--", "sleep", "3"]
    let running := ["run", "--time=4", "--", "sleep", "3"]
    let r : WaitRequest := { tcpPorts := [80], container := some "app", json := true }
    let program := ["sleep", "3"]
    let alone := engineless []
    let skipping := engineless [("DOCKWAIT_SKIP", "true".toUTF8)]
    (CommandLine.parse waiting = .ok ⟨.wait r, false⟩ ∧
      (execute alone waiting).effects = [.ping (.host "http://localhost:2375")] ∧
      (execute alone waiting).exit = some
        { complaint := some ("Error: Docker not available at http://localhost:2375: " ++
            "Error in the hyper legacy client: client error (Connect)")
          code := 1 }) ∧
    ((execute skipping waiting).effects = [.contact (.endpoint ⟨"localhost", 80⟩)] ∧
      (execute skipping waiting).exit = some
        { output := "\x7b\"status\":\"ready\",\"elapsed_ms\":0," ++
            "\"checks\":[\"tcp localhost:[80]\"]\x7d\n"
          code := 0 }) ∧
    (CommandLine.parse hurrying = .ok ⟨.run 2 program, false⟩ ∧
      (execute alone hurrying).effects = [.spawn program] ∧
      ¬ ∃ x, (execute alone hurrying).exit = some x ∧ x.code = 0) ∧
    (CommandLine.parse running = .ok ⟨.run 4 program, false⟩ ∧
      (execute alone running).effects = [.spawn program] ∧
      ∃ x, (execute alone running).exit = some x ∧ x.code = 0 ∧
        x.output = "finished after 3000 ms\n") := by
  intro waiting hurrying running r program alone skipping
  have hwaiting : CommandLine.parse waiting = .ok ⟨.wait r, false⟩ := by decide +kernel
  have hhurrying : CommandLine.parse hurrying = .ok ⟨.run 2 program, false⟩ := by decide +kernel
  have hrunning : CommandLine.parse running = .ok ⟨.run 4 program, false⟩ := by decide +kernel
  have hfound : Settings.resolve (allVariables alone).environment = .ok {} := by decide +kernel
  let behaviour := CheckBehaviour.ofNetworks alone.networks
  refine ⟨?pinged, ?skipped, ?late, ?finished⟩
  case pinged =>
    have hclient : ∃ engine, alone.client.engine {} = .ok engine ∧
        engine.ping ({} : DockerSettings).url = .error (.dockerNotAvailable
          "http://localhost:2375" (EngineFault.clientMessage "Connect")) ∧
        engine.address = .host "http://localhost:2375" :=
      ⟨_, rfl, by decide +kernel, rfl⟩
    obtain ⟨engine, hengine, hping, haddress⟩ := hclient
    obtain ⟨-, -, hstages, -⟩ := executeWithin_stages Waiter.allowance alone hwaiting (.wait r)
    have hover := (hstages r {} rfl hfound).noAnswer (by simp [r]) rfl engine _ hengine hping
    exact ⟨hwaiting, haddress ▸ hover.effects_eq behaviour, hover.exit_eq behaviour⟩
  case skipped =>
    let settings : Settings := { docker := { skip := true } }
    have hskip : Settings.resolve (allVariables skipping).environment = .ok settings := by
      decide +kernel
    let checks := [Check.tcp (TcpProbe.ofPorts "localhost" [80])]
    have hchecks : r.checks = .ok checks := WaitRequest.checks_of_url_eq_none rfl
    have hready : (polled Waiter.allowance settings r behaviour checks []).ending = .ready 0 := by
      decide +kernel
    have hdialled : (ManagedWait.contacts behaviour checks none
        (polled Waiter.allowance settings r behaviour checks []).history).map Effect.contact =
        [.contact (.endpoint ⟨"localhost", 80⟩)] := by
      decide +kernel
    obtain ⟨-, -, hstages, -⟩ :=
      executeWithin_stages Waiter.allowance skipping hwaiting (.wait r)
    obtain ⟨heffects, htells⟩ :=
      (hstages r settings rfl hskip).alone (.inr rfl) checks hchecks behaviour
    obtain ⟨line, hline, hexit⟩ := htells.ready 0 hready
    refine ⟨heffects.trans hdialled, hexit.trans ?_⟩
    rw [hline.report rfl]
    decide +kernel
  case late =>
    obtain ⟨-, -, -, hprogram, -⟩ :=
      executeWithin_stages Waiter.allowance alone hhurrying (.run 2 program)
    obtain ⟨-, hruns⟩ := hprogram 2 program {} rfl hfound
    obtain ⟨hspawned, hsucceeds⟩ := hruns behaviour
    have hlate : ¬ (alone.child program).SucceedsWithin (2 : Int64).toInt := by
      rw [Child.SucceedsWithin]
      decide +kernel
    exact ⟨hhurrying, hspawned, fun hsuccess => hlate (hsucceeds.1 hsuccess)⟩
  case finished =>
    obtain ⟨-, -, -, hprogram, hprints⟩ :=
      executeWithin_stages Waiter.allowance alone hrunning (.run 4 program)
    obtain ⟨-, hruns⟩ := hprogram 4 program {} rfl hfound
    obtain ⟨hspawned, hsucceeds⟩ := hruns behaviour
    have hintime : (alone.child program).SucceedsWithin (4 : Int64).toInt := by
      rw [Child.SucceedsWithin]
      decide +kernel
    obtain ⟨x, hexit, hcode⟩ := hsucceeds.2 hintime
    obtain ⟨line, hline, -, houtput⟩ := (hprints behaviour x hexit).success hcode
    refine ⟨hrunning, hspawned, x, hexit, hcode, houtput.trans ?_⟩
    rw [show line = _ from hline]
    decide +kernel

end Execution
end ServiceReadiness
