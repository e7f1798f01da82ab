/-
# Work under a deadline

A unit of work is spawned once and runs on its own: it sleeps a few times and
then succeeds, fails, panics or ends with a wait.  Whoever waits for it looks on
from some moment, for a bounded time if the bound is positive.  A bound that
passes lets go of the work and does not stop it; only an abort does, at once and
wherever the work is, and an aborted work counts as finished.
-/

import ServiceReadiness.Waiter

namespace ServiceReadiness

/-- The last thing a unit of work does. -/
inductive Finale where
  | succeed
  | fail (cause : WorkError)
  /-- A panic, with its text when it carries one. -/
  | panic (text : Option String)
  /-- A wait that must succeed. -/
  | wait (timing : Timing) (secs : Int) (probes : List Probe)

/-- A unit of work: how long it sleeps, time after time, and how it ends. -/
structure Work where
  sleeps : List Nat
  finale : Finale

/-- What a unit of work does. -/
inductive WorkStep where
  | started
  | slept
  /-- Something happens in the wait at the end of the work. -/
  | waiting (occurrence : Occurrence)
  /-- The wait at the end of the work was ready after so many milliseconds. -/
  | waited (time : Nat)
  | done
  deriving DecidableEq, Repr

/-- How a unit of work ends. -/
inductive WorkEnd where
  | succeeded
  | failed (cause : WorkError)
  | panicked (text : Option String)
  | aborted
  /-- It never ends, or its wait used up the rounds that the caller allows. -/
  | unfinished
  deriving DecidableEq, Repr

/-- A unit of work, from its start at time zero to its end. -/
structure WorkRun where
  history : Timeline WorkStep
  endedAt : Nat
  ending : WorkEnd
  deriving DecidableEq, Repr

/-- A unit of work with something before it. -/
def WorkRun.after (earlier : Timeline WorkStep) (r : WorkRun) : WorkRun :=
  { r with history := earlier ++ r.history }

namespace Work

/-- The end of a unit of work whose last action is a wait. -/
def endOfWait : Ending → WorkEnd
  | .ready _ => .succeeded
  | .panicked text => .panicked (some text)
  | .cancelled => .aborted
  | .unfinished => .unfinished
  | .noProbes => .failed { root := WaitError.noProbes.message }
  | .failed cause => .failed { root := (WaitError.probe cause).message }
  | .timedOut time =>
    .failed { root := (WaitError.timeout noProbeSucceeded (Duration.ofMillis time)).message }

/-- The last action of a unit of work, from time `now`, whose wait may make as many rounds
as its timing and bound allow. -/
def finishWithin (allowance : Timing → Int → Nat) (abort : Option Nat) (now : Nat) :
    Finale → WorkRun
  | .succeed => ⟨[(now, .done)], now, .succeeded⟩
  | .fail cause => ⟨[], now, .failed cause⟩
  | .panic text => ⟨[], now, .panicked text⟩
  | .wait timing secs probes =>
    let run := Waiter.waitWithin (allowance timing secs) timing secs (abort.map (· - now)) probes
    let history := (run.history.shift now).relabel .waiting
    let ended := now + run.endedAt
    match run.ending with
    | .ready time => ⟨history ++ [(ended, .waited time), (ended, .done)], ended, .succeeded⟩
    | ending => ⟨history, ended, endOfWait ending⟩

/-- A wait at the end of a unit of work ends it when and how the wait ends. -/
theorem finishWithin_wait (allowance : Timing → Int → Nat) (abort : Option Nat) (now : Nat)
    (timing : Timing) (secs : Int) (probes : List Probe) :
    let run := Waiter.waitWithin (allowance timing secs) timing secs (abort.map (· - now)) probes
    (finishWithin allowance abort now (.wait timing secs probes)).endedAt = now + run.endedAt ∧
      (finishWithin allowance abort now (.wait timing secs probes)).ending =
        endOfWait run.ending := by
  intro run
  rw [finishWithin]
  cases run.ending <;> exact ⟨rfl, rfl⟩

/-- The sleeps of a unit of work from time `now` on, and its last action. -/
def proceedWithin (allowance : Timing → Int → Nat) (abort : Option Nat) (finale : Finale) :
    (now : Nat) → List Nat → WorkRun
  | now, [] => finishWithin allowance abort now finale
  | now, sleep :: rest =>
    match cutBefore abort (now + sleep) with
    | some a => ⟨[], a, .aborted⟩
    | none =>
      (proceedWithin allowance abort finale (now + sleep) rest).after [(now + sleep, .slept)]

/-- A unit of work spawned at time zero and aborted at `abort` if it still runs
then. -/
def runWithin (allowance : Timing → Int → Nat) (w : Work) (abort : Option Nat) : WorkRun :=
  (proceedWithin allowance abort w.finale 0 w.sleeps).after [(0, .started)]

/-- The last action of a unit of work, from time `now`. -/
def finish (abort : Option Nat) (now : Nat) (finale : Finale) : WorkRun :=
  finishWithin Waiter.allowance abort now finale

/-- The sleeps of a unit of work from time `now` on, and its last action. -/
def proceed (abort : Option Nat) (finale : Finale) (now : Nat) (sleeps : List Nat) : WorkRun :=
  proceedWithin Waiter.allowance abort finale now sleeps

/-- A unit of work spawned at time zero and aborted at `abort` if it still runs then, whose
wait may make as many rounds as a wait is allowed. -/
def run (w : Work) (abort : Option Nat) : WorkRun := w.runWithin Waiter.allowance abort

theorem proceed_cons (abort : Option Nat) (finale : Finale) (now sleep : Nat) (rest : List Nat) :
    proceed abort finale now (sleep :: rest) =
      match cutBefore abort (now + sleep) with
      | some a => ⟨[], a, .aborted⟩
      | none => (proceed abort finale (now + sleep) rest).after [(now + sleep, .slept)] := rfl

end Work

/-- The text of a bounded unit of work's timeout. -/
def workTimedOut : String := "timed out waiting for execution to complete"

/-- The text for a panic that carries none. -/
def unknownPanic : String := "unknown panic"

/-- What whoever waits for a unit of work gets. -/
inductive Settlement where
  /-- The work counts as finished, so many milliseconds after its start. -/
  | elapsed (time : Nat)
  | failed (cause : WaitError)
  /-- The work never ends and no bound was set. -/
  | pending
  deriving DecidableEq, Repr

/-- A unit of work and whoever waits for it: what the work does, whether the
wait for it returns and when, and with what. -/
structure BoundedRun where
  work : Timeline WorkStep
  returnedAt : Nat
  notes : List LogLine
  settlement : Settlement
  deriving DecidableEq, Repr

/-- What can be observed of a unit of work and of whoever waits for it. -/
inductive Observed where
  | step (step : WorkStep)
  | log (line : LogLine)
  /-- The wait for the work returns. -/
  | settled
  deriving DecidableEq, Repr

namespace BoundedWork

/-- The time at which a bound of `secs` seconds passes for someone who waits from
`start` on: never, unless the bound is positive. -/
def deadline? (start : Nat) (secs : Int) : Option Nat :=
  if 0 < secs then some (start + secs.toNat * 1000) else none

/-- The end of a unit of work, as seen at time `time` by whoever waits for it. -/
def settle (time : Nat) : WorkEnd → List LogLine × Settlement
  | .succeeded => ([], .elapsed time)
  | .failed cause => ([], .failed (.work cause))
  | .panicked text => ([], .failed (.panicked (text.getD unknownPanic)))
  | .aborted =>
    ([⟨.debug, .boundedTask, "Bounded task was cancelled, treating as finished"⟩], .elapsed time)
  | .unfinished => ([], .pending)

/-- The line that reports a passed bound. -/
def timeoutLine (time : Nat) : LogLine :=
  ⟨.warn, .boundedTask, workTimedOut ++ " after " ++ Numeral.render time ++ " ms"⟩

/-- The end of a unit of work before a deadline, if there is one: a work that
never ends comes before none. -/
def endsInTime (r : WorkRun) : (deadline : Option Nat) → Bool
  | none => true
  | some d => r.ending ≠ .unfinished && r.endedAt ≤ d

/-- A unit of work that takes its course and someone who waits for it, from `waitFrom` on
and for `secs` seconds at most if that is positive. -/
def await (r : WorkRun) (secs : Int) (waitFrom : Nat) : BoundedRun :=
  let deadline := deadline? waitFrom secs
  if endsInTime r deadline then
    let time := max r.endedAt waitFrom
    let (notes, settlement) := settle time r.ending
    ⟨r.history, time, notes, settlement⟩
  else
    let time := deadline.getD 0
    ⟨r.history, time, [timeoutLine time],
      .failed (.timeout workTimedOut (Duration.ofMillis time))⟩

/-- A unit of work spawned at time zero, waited for from `waitFrom` on for `secs`
seconds at most if that is positive, and aborted at `abort` if it still runs
then.  A wait in it may make as many rounds as its timing and bound allow. -/
def runWithin (allowance : Timing → Int → Nat) (w : Work) (secs : Int) (waitFrom : Nat)
    (abort : Option Nat) : BoundedRun :=
  await (w.runWithin allowance abort) secs waitFrom

/-- The same with as many rounds as a wait is allowed. -/
def run (w : Work) (secs : Int) (waitFrom : Nat) (abort : Option Nat) : BoundedRun :=
  await (w.run abort) secs waitFrom

end BoundedWork

/-- Everything that can be observed until `window` milliseconds after the wait
for the work returned.  What the work does at that very moment comes first. -/
def BoundedRun.observed (r : BoundedRun) (window : Nat) : Timeline Observed :=
  (r.work.upTo r.returnedAt).relabel .step ++ r.notes.map (fun l => (r.returnedAt, .log l)) ++
    [(r.returnedAt, .settled)] ++
    ((r.work.after r.returnedAt).upTo (r.returnedAt + window)).relabel .step

end ServiceReadiness
