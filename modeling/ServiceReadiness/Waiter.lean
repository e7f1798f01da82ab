/-
# Waiting for the first ready probe

A wait evaluates its probes in input order, round after round, with a pause
between two rounds.  It ends with the first evaluation that is ready, fails for
good or panics; or, after a pause, when the deadline has been reached; or when it
is cancelled.  The deadline is looked at only between rounds, so there is always
one full round, and a round that has begun is never cut short by it.

However a wait ends, every probe is released at that moment, once and in input
order.  A release that fails is logged and changes nothing else.
-/

import ServiceReadiness.Probe
import ServiceReadiness.Settings

namespace ServiceReadiness

/-- What happens during a wait.  Probes are counted from zero in input order, and
so are the calls of one probe. -/
inductive Occurrence where
  | evaluation (probe call : Nat)
  | release (probe : Nat)
  | log (line : LogLine)
  deriving DecidableEq, Repr

/-- How a wait ends. -/
inductive Ending where
  /-- There was no probe. -/
  | noProbes
  /-- A probe was ready at this time. -/
  | ready (time : Nat)
  /-- The deadline had passed at this time. -/
  | timedOut (time : Nat)
  /-- A probe failed for good. -/
  | failed (cause : ProbeError)
  /-- A probe panicked. -/
  | panicked (text : String)
  /-- The wait was cancelled. -/
  | cancelled
  /-- The rounds that the caller allows were used up. -/
  | unfinished
  deriving DecidableEq, Repr

/-- The text of a wait's timeout. -/
def noProbeSucceeded : String := "No checker finished successfully"

/-- The error with which a wait ends, if it ends with one. -/
def Ending.error? : Ending → Option WaitError
  | .noProbes => some .noProbes
  | .timedOut time => some (.timeout noProbeSucceeded (Duration.ofMillis time))
  | .failed cause => some (.probe cause)
  | .ready _ | .panicked _ | .cancelled | .unfinished => none

/-- A wait, from its start at time zero to its end. -/
structure WaitRun where
  history : Timeline Occurrence
  endedAt : Nat
  ending : Ending
  deriving DecidableEq, Repr

/-- A wait with something before it. -/
def WaitRun.after (earlier : Timeline Occurrence) (r : WaitRun) : WaitRun :=
  { r with history := earlier ++ r.history }

namespace Waiter

/-- The deadline of a wait of `secs` seconds, in milliseconds: zero and less
stand for the default. -/
def effectiveMaxWait (timing : Timing) (secs : Int) : Nat :=
  if 0 < secs then secs.toNat * 1000 else timing.defaultMaxWait

/-- One round over the probes, or what there was of it: when it ended, and how
the wait ended if it did. -/
structure Round where
  history : Timeline Occurrence
  endedAt : Nat
  ending : Option Ending
  deriving DecidableEq, Repr

/-- The line that reports the first ready probe. -/
def readyLine (name : String) (time : Nat) : LogLine :=
  ⟨.info, .waiter, name ++ " ready after " ++ Numeral.render time ++ " ms"⟩

/-- The evaluation of a probe as it appears in the history. -/
def evaluationHistory (now index call : Nat) (notes : Timeline LogLine) : Timeline Occurrence :=
  (now, .evaluation index call) :: (notes.shift now).relabel .log

/-- A round from time `now`: the probes from `index` on, each for the given
call, one after the other until one of them ends the wait. -/
def round (cut : Option Nat) (call : Nat) : (index now : Nat) → List Probe → Round
  | _, now, [] => ⟨[], now, none⟩
  | index, now, p :: rest =>
    let attempt := p.attempt call
    let done := now + attempt.duration
    match cutBefore cut done with
    | some c =>
      ⟨(evaluationHistory now index call attempt.notes).upTo c, c, some .cancelled⟩
    | none =>
      let begun := evaluationHistory now index call attempt.notes
      match attempt.verdict with
      | .notReady =>
        let later := round cut call (index + 1) done rest
        { later with history := begun ++ later.history }
      | .ready => ⟨begun ++ [(done, .log (readyLine p.name done))], done, some (.ready done)⟩
      | .fatal cause => ⟨begun, done, some (.failed cause)⟩
      | .panic text => ⟨begun, done, some (.panicked text)⟩

/-- The line that reports a passed deadline. -/
def timeoutLine (time : Nat) : LogLine :=
  ⟨.warn, .waiter, noProbeSucceeded ++ " after " ++ Numeral.render time ++ " ms"⟩

/-- Rounds from time `now` and the given call on, `allowance` of them at most,
with a pause of `interval` after each and a look at the deadline after each
pause. -/
def poll (interval deadline : Nat) (cut : Option Nat) (probes : List Probe) :
    (allowance call now : Nat) → WaitRun
  | 0, _, now => ⟨[], now, .unfinished⟩
  | allowance + 1, call, now =>
    let r := round cut call 0 now probes
    match r.ending with
    | some ending => ⟨r.history, r.endedAt, ending⟩
    | none =>
      let next := r.endedAt + interval
      match cutBefore cut next with
      | some c => ⟨r.history, c, .cancelled⟩
      | none =>
        if deadline ≤ next then
          ⟨r.history ++ [(next, .log (timeoutLine next))], next, .timedOut next⟩
        else (poll interval deadline cut probes allowance (call + 1) next).after r.history

/-- The line that reports a release that failed. -/
def releaseLine (name : String) (cause : ProbeError) : LogLine :=
  ⟨.warn, .waiter, "Failed to release probe " ++ name ++ ": " ++ cause.message⟩

/-- The release of the probes from `index` on, all at one time. -/
def releases (time : Nat) : (index : Nat) → List Probe → Timeline Occurrence
  | _, [] => []
  | index, p :: rest =>
    let failure := p.releaseError.map fun e => (time, Occurrence.log (releaseLine p.name e))
    (time, .release index) :: failure.toList ++ releases time (index + 1) rest

/-- The line that opens a wait. -/
def openingLine (deadline count : Nat) : LogLine :=
  ⟨.debug, .waiter,
    "Waiting up to " ++ (Duration.ofMillis deadline).render ++ " for " ++ Numeral.render count ++
      " probe(s)"⟩

/-- A wait for the first of the probes, `secs` seconds long at most, that may make
`allowance` rounds and is cancelled at `cut` if it still runs then. -/
def waitWithin (allowance : Nat) (timing : Timing) (secs : Int) (cut : Option Nat)
    (probes : List Probe) : WaitRun :=
  if probes = [] then ⟨[], 0, .noProbes⟩
  else
    let deadline := effectiveMaxWait timing secs
    let polled := poll timing.retryInterval deadline cut probes allowance 0 0
    { polled with
      history :=
        (0, .log (openingLine deadline probes.length)) :: polled.history ++
          releases polled.endedAt 0 probes }

/-- The rounds that a wait of `secs` seconds is allowed.  A positive interval needs
no more rounds than the deadline has milliseconds, so one more is never used up. -/
def allowance (timing : Timing) (secs : Int) : Nat := effectiveMaxWait timing secs + 1

/-- A wait for the first of the probes, `secs` seconds long at most, cancelled at
`cut` if it still runs then. -/
def waitFor (timing : Timing) (secs : Int) (cut : Option Nat) (probes : List Probe) : WaitRun :=
  waitWithin (allowance timing secs) timing secs cut probes

@[simp]
theorem waitWithin_nil (allowance : Nat) (timing : Timing) (secs : Int) (cut : Option Nat) :
    waitWithin allowance timing secs cut [] = ⟨[], 0, .noProbes⟩ := by simp [waitWithin]

theorem waitWithin_of_ne_nil {probes : List Probe} (h : probes ≠ []) (allowance : Nat)
    (timing : Timing) (secs : Int) (cut : Option Nat) :
    let deadline := effectiveMaxWait timing secs
    let polled := poll timing.retryInterval deadline cut probes allowance 0 0
    waitWithin allowance timing secs cut probes =
      ⟨(0, .log (openingLine deadline probes.length)) :: polled.history ++
        releases polled.endedAt 0 probes, polled.endedAt, polled.ending⟩ := by
  simp [waitWithin, h]

@[simp]
theorem waitFor_nil (timing : Timing) (secs : Int) (cut : Option Nat) :
    waitFor timing secs cut [] = ⟨[], 0, .noProbes⟩ := waitWithin_nil ..

end Waiter
end ServiceReadiness
