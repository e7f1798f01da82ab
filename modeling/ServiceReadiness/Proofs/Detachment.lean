/-
# A deadline leaves the work alone

A unit of work is spawned once and takes its course.  Whoever waits for it sees that course
from the outside, and the bound on the waiting is no part of it: what can be observed of
the work's deeds is a piece of one sequence, which depends on the work and its abort only
(`select_steps_observed`).  So a bound that passes neither stops the work nor delays nor
shortens it, and the probes of a wait inside the work are released when that wait ends or
is aborted, whether someone still waits for the work or not.

The piece is the one up to the end of the observation because the deeds come in order of
time (`spans_deeds_runWithin`).
-/

import Mathlib.Algebra.Ring.Nat
import ServiceReadiness.BoundedWork
import ServiceReadiness.Proofs.Chronology

namespace ServiceReadiness

open Timeline (Spans)

/-! ### Views of a unit of work -/

namespace WorkStep

/-- What the wait at the end of the work calls or releases. -/
@[simp]
def call? : WorkStep → Option Occurrence
  | .waiting occurrence => occurrence.call?
  | _ => none

/-- What the work does, without the lines that its wait logs. -/
@[simp]
def deed? : WorkStep → Option WorkStep
  | .waiting occurrence => occurrence.call?.map .waiting
  | step => some step

end WorkStep

/-- What the work does, as opposed to whoever waits for it. -/
@[simp]
def Observed.step? : Observed → Option WorkStep
  | .step deed => some deed
  | _ => none

namespace Timeline

/-- What a unit of work does, without the lines that its wait logs. -/
abbrev deeds (t : Timeline WorkStep) : Timeline WorkStep := t.select WorkStep.deed?

/-- What the wait at the end of a unit of work calls and releases. -/
abbrev waitCalls (t : Timeline WorkStep) : Timeline Occurrence := t.select WorkStep.call?

/-- What is seen of the work. -/
abbrev steps (t : Timeline Observed) : Timeline WorkStep := t.select Observed.step?

/-- The calls and releases of a wait are among the deeds of the work. -/
theorem waitCalls_deeds (t : Timeline WorkStep) : t.deeds.waitCalls = t.waitCalls := by
  induction t with
  | nil => rfl
  | cons e t ih =>
    obtain ⟨time, step⟩ := e
    cases step with
    | waiting occurrence => cases occurrence <;> simp [ih]
    | _ => simp [ih]

/-- What the work does during its wait is what the wait calls and releases. -/
theorem deeds_waiting (start : Nat) (t : Timeline Occurrence) :
    ((t.shift start).relabel WorkStep.waiting).deeds =
      (t.calls.shift start).relabel .waiting := by
  rw [deeds, select_relabel, ← select_shift]
  exact select_map ..

theorem waitCalls_waiting (start : Nat) (t : Timeline Occurrence) :
    ((t.shift start).relabel WorkStep.waiting).waitCalls = t.calls.shift start := by
  rw [waitCalls, select_relabel, ← select_shift]
  rfl

end Timeline

/-! ### What is observed of the work -/

namespace BoundedRun

theorem steps_observed (r : BoundedRun) (window : Nat) :
    (r.observed window).steps =
      r.work.upTo r.returnedAt ++ (r.work.after r.returnedAt).upTo (r.returnedAt + window) := by
  have hseen : ∀ t : Timeline WorkStep, (t.relabel Observed.step).steps = t := fun t => by
    rw [Timeline.steps, Timeline.select_relabel]
    exact t.select_some
  have hnotes : Timeline.steps (r.notes.map fun line => (r.returnedAt, .log line)) = [] := by
    simp [Timeline.select]
  simp only [observed, Timeline.select_append, hseen, hnotes]
  simp

/-- **What is observed of the work is a piece of one sequence,** under a view that shows the
work in order of time: the piece up to the end of the observation. -/
theorem select_steps_observed {β : Type} {f : WorkStep → Option β} {r : BoundedRun}
    (h : (r.work.select f).Ordered) (window : Nat) :
    (r.observed window).steps.select f = (r.work.select f).upTo (r.returnedAt + window) := by
  rw [steps_observed, Timeline.select_append, Timeline.select_upTo, Timeline.select_upTo,
    Timeline.select_after]
  exact h.upTo_append_after (Nat.le_add_right _ window)

end BoundedRun

namespace Work

variable (allowance : Timing → Int → Nat) {abort : Option Nat}

/-! ### The deeds of a unit of work -/

/-- The last action does its deeds in order of time. -/
theorem spans_deeds_finishWithin (abort : Option Nat) (now : Nat) (finale : Finale) :
    let run := finishWithin allowance abort now finale
    Spans now run.endedAt run.history.deeds := by
  cases finale with
  | succeed => exact .singleton (Nat.le_refl now) (Nat.le_refl now) _
  | fail cause => exact .nil (Nat.le_refl now)
  | panic text => exact .nil (Nat.le_refl now)
  | wait timing secs probes =>
    dsimp only [finishWithin]
    have hwait := ((Waiter.spans_calls_waitWithin (allowance timing secs) timing secs
      (abort.map (· - now)) probes).shift now).relabel WorkStep.waiting
    rw [← Timeline.deeds_waiting] at hwait
    cases hending : (Waiter.waitWithin (allowance timing secs) timing secs
      (abort.map (· - now)) probes).ending with
    | ready time =>
      simp only [Timeline.select_append]
      exact hwait.append (.constant _ id [WorkStep.waited time, .done])
    | _ => exact hwait

/-- The sleeps and the last action are deeds in order of time, up to an abort that comes
after their start. -/
theorem spans_deeds_proceedWithin (finale : Finale) {now : Nat}
    (hnow : ∀ a, abort = some a → now ≤ a) (sleeps : List Nat) :
    let run := proceedWithin allowance abort finale now sleeps
    Spans now run.endedAt run.history.deeds := by
  induction sleeps generalizing now with
  | nil => exact spans_deeds_finishWithin allowance abort now finale
  | cons sleep rest ih =>
    dsimp only [proceedWithin]
    cases hcut : cutBefore abort (now + sleep) with
    | some a => exact .nil (hnow a (cutBefore_eq_some.1 hcut).1)
    | none =>
      have hslept : Spans now (now + sleep) [(now + sleep, WorkStep.slept)] :=
        .singleton (Nat.le_add_right now sleep) (Nat.le_refl _) _
      exact hslept.append (ih (cutBefore_eq_none.1 hcut))

/-- **A unit of work does its deeds in order of time,** from its start to its end. -/
theorem spans_deeds_runWithin (w : Work) (abort : Option Nat) :
    let run := w.runWithin allowance abort
    Spans 0 run.endedAt run.history.deeds := by
  have hstarted : Spans 0 0 [(0, WorkStep.started)] :=
    .singleton (Nat.le_refl 0) (Nat.le_refl 0) _
  exact hstarted.append
    (spans_deeds_proceedWithin allowance w.finale (fun a _ => Nat.zero_le a) w.sleeps)

/-! ### The wait at the end of a unit of work -/

/-- The work comes to its last action before it is aborted. -/
def BeginsFinale (w : Work) (abort : Option Nat) : Prop := ∀ a, abort = some a → w.sleeps.sum ≤ a

instance (w : Work) (abort : Option Nat) : Decidable (w.BeginsFinale abort) :=
  match abort with
  | none => .isTrue fun _ h => absurd h.symm (Option.some_ne_none _)
  | some a => decidable_of_iff (w.sleeps.sum ≤ a) (by simp [BeginsFinale])

/-- The sleeps call nothing. -/
theorem waitCalls_proceedWithin_of_le (finale : Finale) {now : Nat} {sleeps : List Nat}
    (h : ∀ a, abort = some a → now + sleeps.sum ≤ a) :
    (proceedWithin allowance abort finale now sleeps).history.waitCalls =
      (finishWithin allowance abort (now + sleeps.sum) finale).history.waitCalls := by
  induction sleeps generalizing now with
  | nil => rfl
  | cons sleep rest ih =>
    rw [List.sum_cons, ← Nat.add_assoc] at h ⊢
    have hopen : cutBefore abort (now + sleep) = none :=
      cutBefore_eq_none.2 fun a ha => Nat.le_trans (Nat.le_add_right _ _) (h a ha)
    rw [← ih h]
    simp [proceedWithin, hopen, WorkRun.after]

/-- An abort during the sleeps keeps the last action from beginning. -/
theorem waitCalls_proceedWithin_of_lt (finale : Finale) {a now : Nat} {sleeps : List Nat}
    (hnow : now ≤ a) (h : a < now + sleeps.sum) :
    (proceedWithin allowance (some a) finale now sleeps).history.waitCalls = [] := by
  induction sleeps generalizing now with
  | nil => exact absurd hnow (Nat.not_le.2 h)
  | cons sleep rest ih =>
    rw [List.sum_cons, ← Nat.add_assoc] at h
    rcases Nat.lt_or_ge a (now + sleep) with hlt | hge
    · simp [proceedWithin, Waiter.cutBefore_eq_some_of_lt hlt]
    · rw [← ih hge h]
      simp [proceedWithin, Waiter.cutBefore_eq_none_of_le hge, WorkRun.after]

/-- The last action calls what its wait calls, as long after its start as the wait does. -/
theorem waitCalls_finishWithin_wait (abort : Option Nat) (now : Nat) (timing : Timing)
    (secs : Int) (probes : List Probe) :
    (finishWithin allowance abort now (.wait timing secs probes)).history.waitCalls =
      (Waiter.waitWithin (allowance timing secs) timing secs (abort.map (· - now))
        probes).history.calls.shift now := by
  rw [← Timeline.waitCalls_waiting, finishWithin]
  cases (Waiter.waitWithin (allowance timing secs) timing secs (abort.map (· - now))
    probes).ending with
  | ready time => simp
  | _ => rfl

/-- **What the wait at the end of a work calls and releases, if it begins.**  The wait begins
after the sleeps and ends by itself at `own`, or with the abort if that comes before.  It
calls what it calls by itself up to then, and then releases each probe once. -/
theorem waitCalls_runWithin {w : Work} {timing : Timing} {secs : Int} {probes : List Probe}
    (hfinale : w.finale = .wait timing secs probes) (hbegins : w.BeginsFinale abort) :
    let begun := w.sleeps.sum
    let inner := Waiter.waitWithin (allowance timing secs) timing secs none probes
    let own := begun + inner.endedAt
    let ended := abort.elim own (min own)
    (w.runWithin allowance abort).history.waitCalls =
      ((inner.history.evaluations.shift begun).upTo ended).asEvaluations ++
        (List.range probes.length).map fun index => (ended, .release index) := by
  intro begun inner own ended
  let cut := Waiter.waitWithin (allowance timing secs) timing secs (abort.map (· - begun)) probes
  have hended : begun + cut.endedAt = ended := by
    rw [show cut.endedAt = _ from Waiter.waitWithin_endedAt_cut ..]
    cases abort with
    | none => rfl
    | some a =>
      have hle : begun ≤ a := hbegins a rfl
      show begun + min inner.endedAt (a - begun) = min (begun + inner.endedAt) a
      omega
  have hsleeps : (proceedWithin allowance abort w.finale 0 w.sleeps).history.waitCalls =
      (finishWithin allowance abort begun w.finale).history.waitCalls := by
    have hbegun := waitCalls_proceedWithin_of_le allowance w.finale
      (show ∀ a, abort = some a → 0 + w.sleeps.sum ≤ a by simpa [BeginsFinale] using hbegins)
    rwa [Nat.zero_add] at hbegun
  have hcalls : cut.history.calls = cut.history.evaluations.asEvaluations ++
      (List.range probes.length).map fun index => (cut.endedAt, .release index) :=
    Waiter.calls_waitWithin ..
  have hevaluations : cut.history.evaluations = inner.history.evaluations.upTo cut.endedAt :=
    Waiter.evaluations_waitWithin_cut ..
  calc (w.runWithin allowance abort).history.waitCalls
      = (proceedWithin allowance abort w.finale 0 w.sleeps).history.waitCalls := rfl
    _ = (finishWithin allowance abort begun (.wait timing secs probes)).history.waitCalls := by
      rw [hsleeps, hfinale]
    _ = cut.history.calls.shift begun := waitCalls_finishWithin_wait ..
    _ = (inner.history.evaluations.upTo cut.endedAt).asEvaluations.shift begun ++
        (List.range probes.length).map fun index => (begun + cut.endedAt, .release index) := by
      rw [hcalls, hevaluations, Timeline.shift_append]
      simp [Timeline.shift]
    _ = _ := by
      rw [Timeline.asEvaluations, Timeline.shift_relabel, Timeline.shift_upTo, hended]
      rfl

/-- An abort before the last action keeps its wait from calling anything. -/
theorem waitCalls_runWithin_of_not_begins {w : Work} (h : ¬ w.BeginsFinale abort) :
    (w.runWithin allowance abort).history.waitCalls = [] := by
  cases abort with
  | none => exact absurd (fun _ hnone => absurd hnone.symm (Option.some_ne_none _)) h
  | some a =>
    have hlt : a < 0 + w.sleeps.sum := by
      rw [Nat.zero_add]
      exact Nat.lt_of_not_le fun hle => h fun c hc => Option.some.inj hc ▸ hle
    exact waitCalls_proceedWithin_of_lt allowance w.finale (Nat.zero_le a) hlt

end Work

namespace BoundedWork

/-- Whoever waits for a work takes no part in it. -/
theorem await_work (run : WorkRun) (secs : Int) (start : Nat) :
    (await run secs start).work = run.history := by
  dsimp only [await]
  split <;> rfl

/-- **Whoever waits for a work sees its deeds up to some moment,** if it does them in order of
time, and the bound on the waiting only says up to which. -/
theorem deeds_await_observed {run : WorkRun} (h : run.history.deeds.Ordered) (secs : Int)
    (start window : Nat) :
    let r := await run secs start
    (r.observed window).steps.deeds = run.history.deeds.upTo (r.returnedAt + window) := by
  intro r
  have hwork : r.work = run.history := await_work run secs start
  rw [← hwork] at h ⊢
  exact r.select_steps_observed h window

variable (allowance : Timing → Int → Nat) (w : Work) (secs : Int) (start : Nat)
  (abort : Option Nat) (window : Nat)

/-- What is seen of the deeds of a unit of work. -/
theorem deeds_observed :
    let r := runWithin allowance w secs start abort
    (r.observed window).steps.deeds =
      (w.runWithin allowance abort).history.deeds.upTo (r.returnedAt + window) :=
  deeds_await_observed (w.spans_deeds_runWithin allowance abort).ordered secs start window

/-- What is seen of the wait at the end of a unit of work. -/
theorem waitCalls_observed :
    let r := runWithin allowance w secs start abort
    (r.observed window).steps.waitCalls =
      (w.runWithin allowance abort).history.waitCalls.upTo (r.returnedAt + window) := by
  intro r
  rw [← Timeline.waitCalls_deeds, deeds_observed, Timeline.waitCalls, Timeline.select_upTo]
  exact congrArg _ (Timeline.waitCalls_deeds _)

/-- **The deadline never touches the work.**  What is seen of the deeds of a unit of work is
their course up to the end of the observation, and the bound on the waiting has no part in
that course.  So let the work be waited for in two ways, with any two bounds, from any two
moments on, and let it be aborted at the same time or not at all: what is seen of its deeds
up to the end of both observations is the same, and a bound that passes neither stops the
work nor delays nor shortens it.

If its last action is a wait over some probes and begins before the abort, that wait ends at
`ended`: at its own end, or at the abort if that comes before, also if the bound has passed
by then.  What it calls and releases, whatever the bound, is what it calls by itself up to
that moment, and then one release for each probe, in order.  If the abort comes before the
wait begins, nothing is called and nothing is released.  All this holds for any number of
rounds that the wait is allowed, so for `run` as well. -/
theorem runWithin_leaves_work_alone (allowance : Timing → Int → Nat) (w : Work)
    (abort : Option Nat) :
    (∀ secs start window,
      let r := runWithin allowance w secs start abort
      (r.observed window).steps.deeds =
        (w.runWithin allowance abort).history.deeds.upTo (r.returnedAt + window)) ∧
    (∀ secs secs' start start' window window' limit,
      let r := runWithin allowance w secs start abort
      let r' := runWithin allowance w secs' start' abort
      limit ≤ r.returnedAt + window → limit ≤ r'.returnedAt + window' →
        (r.observed window).steps.deeds.upTo limit =
          (r'.observed window').steps.deeds.upTo limit) ∧
    ∀ timing bound probes, w.finale = .wait timing bound probes →
      let begun := w.sleeps.sum
      let inner := Waiter.waitWithin (allowance timing bound) timing bound none probes
      let own := begun + inner.endedAt
      let ended := abort.elim own (min own)
      let calls := ((inner.history.evaluations.shift begun).upTo ended).asEvaluations ++
        (List.range probes.length).map fun index => (ended, .release index)
      ∀ secs start window,
        let r := runWithin allowance w secs start abort
        let seen := (r.observed window).steps.waitCalls
        (w.BeginsFinale abort →
          seen = calls.upTo (r.returnedAt + window) ∧
            (ended ≤ r.returnedAt + window → seen = calls)) ∧
        (¬ w.BeginsFinale abort → seen = []) := by
  refine ⟨fun secs start window => ?course, ?same, ?wait⟩
  case course => exact deeds_observed allowance w secs start abort window
  case same =>
    intro secs secs' start start' window window' limit r r' hlimit hlimit'
    rw [deeds_observed, deeds_observed, Timeline.upTo_upTo _ hlimit, Timeline.upTo_upTo _ hlimit']
  case wait =>
    intro timing bound probes hfinale begun inner own ended calls secs start window r seen
    have hseen : seen = _ := waitCalls_observed allowance w secs start abort window
    constructor
    · intro hbegins
      have hcalls : seen = calls.upTo (r.returnedAt + window) :=
        hseen.trans (congrArg _ (Work.waitCalls_runWithin allowance hfinale hbegins))
      have hbegun : begun ≤ ended := by
        cases abort with
        | none => exact Nat.le_add_right begun inner.endedAt
        | some a => exact Nat.le_min.2 ⟨Nat.le_add_right begun inner.endedAt, hbegins a rfl⟩
      have hevaluations : Spans begun ended
          ((inner.history.evaluations.shift begun).upTo ended).asEvaluations :=
        (((Waiter.spans_evaluations_waitWithin (allowance timing bound) timing bound
          probes).shift begun).upTo hbegun).relabel _
      have hspans : Spans begun ended calls := hevaluations.append (.constant _ _ _)
      exact ⟨hcalls, fun hall => hcalls.trans (hspans.upTo_of_le hall)⟩
    · intro hbefore
      rw [hseen, Work.waitCalls_runWithin_of_not_begins allowance hbefore]
      rfl

/-- A unit of work that sleeps and then waits in vain for five seconds. -/
def lingeringWork : Work where
  sleeps := [40, 60]
  finale := .wait {} 5 [Waiter.stuckProbe, Waiter.stuckProbe]

/-- The conditions of `runWithin_leaves_work_alone` can be met.  A bound of one second lets go
of the work after 1000 milliseconds, and an abort at 1632 then finds it in a call: the call
is the last one, and both probes are released.  Without a bound the work does the same.  An
abort at 60 finds it asleep, and nothing is called. -/
theorem runWithin_leaves_work_alone_of_late_abort :
    let observed secs abort window :=
      ((runWithin (fun _ _ => 12) lingeringWork secs 0 abort).observed window).steps
    lingeringWork.BeginsFinale (some 1632) ∧ ¬ lingeringWork.BeginsFinale (some 60) ∧
      (runWithin (fun _ _ => 12) lingeringWork 1 0 (some 1632)).returnedAt = 1000 ∧
      (runWithin (fun _ _ => 12) lingeringWork 0 0 (some 1632)).returnedAt = 1632 ∧
      (observed 1 (some 1632) 1000).deeds.upTo 2000 =
        (observed 0 (some 1632) 368).deeds.upTo 2000 ∧
      (observed 1 (some 1632) 1000).waitCalls =
        [(100, .evaluation 0 0), (105, .evaluation 1 0), (610, .evaluation 0 1),
          (615, .evaluation 1 1), (1120, .evaluation 0 2), (1125, .evaluation 1 2),
          (1630, .evaluation 0 3), (1632, .release 0), (1632, .release 1)] ∧
      (observed 1 (some 60) 1000).waitCalls = [] := by
  intro observed
  have hbegins : lingeringWork.BeginsFinale (some 1632) := by decide
  have hbefore : ¬ lingeringWork.BeginsFinale (some 60) := by decide
  have hlate : (runWithin (fun _ _ => 12) lingeringWork 1 0 (some 1632)).returnedAt = 1000 := by
    decide
  have hearly : (runWithin (fun _ _ => 12) lingeringWork 0 0 (some 1632)).returnedAt = 1632 := by
    decide
  obtain ⟨-, hsame, hwait⟩ :=
    runWithin_leaves_work_alone (fun _ _ => 12) lingeringWork (some 1632)
  obtain ⟨-, -, hasleep⟩ := runWithin_leaves_work_alone (fun _ _ => 12) lingeringWork (some 60)
  obtain ⟨hcalls, -⟩ := hwait {} 5 _ rfl 1 0 1000
  obtain ⟨-, hnone⟩ := hasleep {} 5 _ rfl 1 0 1000
  have hlimit : 2000 ≤
      (runWithin (fun _ _ => 12) lingeringWork 1 0 (some 1632)).returnedAt + 1000 :=
    Nat.add_le_add_right (Nat.le_of_eq hlate.symm) 1000
  have hlimit' : 2000 ≤
      (runWithin (fun _ _ => 12) lingeringWork 0 0 (some 1632)).returnedAt + 368 :=
    Nat.add_le_add_right (Nat.le_of_eq hearly.symm) 368
  refine ⟨hbegins, hbefore, hlate, hearly, hsame 1 0 0 0 1000 368 2000 hlimit hlimit', ?_,
    hnone hbefore⟩
  refine ((hcalls hbegins).2 ?_).trans ?_
  · rw [hlate]
    decide
  · decide

end BoundedWork
end ServiceReadiness
