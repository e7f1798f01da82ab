/-
# What comes of a unit of work

A unit of work that nothing aborts ends after its sleeps and its last action
(`Work.duration`), the way that its last action ends (`Finale.ending`).  An abort that
comes earlier ends it at that moment, wherever the work is, and one that comes later is
not noticed (`Work.proceed_cut`): it ends at the earlier of its own end and the abort
(`Work.run_endedAt`).

Whoever waits for it compares that moment with a deadline, which is counted from when the
waiting began while the elapsed time is counted from the start of the work.
-/

import ServiceReadiness.BoundedWork
import ServiceReadiness.Proofs.Cancellation
import ServiceReadiness.Proofs.RoundRobin

namespace ServiceReadiness

/-- How long the last action of a unit of work takes if nothing aborts it. -/
def Finale.duration : Finale → Nat
  | .succeed | .fail _ | .panic _ => 0
  | .wait timing secs probes => (Waiter.waitFor timing secs none probes).endedAt

/-- How the last action of a unit of work ends if nothing aborts it. -/
def Finale.ending : Finale → WorkEnd
  | .succeed => .succeeded
  | .fail cause => .failed cause
  | .panic text => .panicked text
  | .wait timing secs probes => Work.endOfWait (Waiter.waitFor timing secs none probes).ending

namespace Work

/-- How long a unit of work takes if nothing aborts it. -/
def duration (w : Work) : Nat := w.sleeps.sum + w.finale.duration

theorem endOfWait_eq_aborted {ending : Ending} :
    endOfWait ending = .aborted ↔ ending = .cancelled := by
  cases ending <;> simp [endOfWait]

/-- The last action of a unit of work aborts nothing by itself. -/
theorem ending_ne_aborted (finale : Finale) : finale.ending ≠ .aborted := by
  cases finale with
  | succeed => exact WorkEnd.noConfusion
  | fail cause => exact WorkEnd.noConfusion
  | panic text => exact WorkEnd.noConfusion
  | wait timing secs probes =>
    rw [Finale.ending, Ne, endOfWait_eq_aborted]
    exact Waiter.waitWithin_ending_ne_cancelled _ timing secs probes

/-- A wait at the end of a unit of work comes to an end if its interval is positive. -/
theorem ending_wait_ne_unfinished {timing : Timing} (hinterval : 0 < timing.retryInterval)
    (secs : Int) (probes : List Probe) :
    (Finale.wait timing secs probes).ending ≠ .unfinished := by
  have hwait := Waiter.waitFor_ending_ne_unfinished hinterval secs probes
  rw [Finale.ending]
  cases hending : (Waiter.waitFor timing secs none probes).ending with
  | unfinished => exact absurd hending hwait
  | _ => exact WorkEnd.noConfusion

/-- A wait at the end of a unit of work ends it when and how the wait ends. -/
theorem finish_wait (abort : Option Nat) (now : Nat) (timing : Timing) (secs : Int)
    (probes : List Probe) :
    let run := Waiter.waitFor timing secs (abort.map (· - now)) probes
    (finish abort now (.wait timing secs probes)).endedAt = now + run.endedAt ∧
      (finish abort now (.wait timing secs probes)).ending = endOfWait run.ending :=
  finishWithin_wait Waiter.allowance abort now timing secs probes

/-- The last action takes its own time when nothing aborts it. -/
theorem finish_none (now : Nat) (finale : Finale) :
    (finish none now finale).endedAt = now + finale.duration ∧
      (finish none now finale).ending = finale.ending := by
  cases finale with
  | succeed => exact ⟨rfl, rfl⟩
  | fail cause => exact ⟨rfl, rfl⟩
  | panic text => exact ⟨rfl, rfl⟩
  | wait timing secs probes => exact finish_wait none now timing secs probes

/-- **An abort ends the last action at once, if it comes in time,** and else is not
noticed. -/
theorem finish_cut {a now : Nat} (hnow : now ≤ a) (finale : Finale) :
    let cut := finish (some a) now finale
    (now + finale.duration ≤ a → cut.endedAt = now + finale.duration ∧ cut.ending = finale.ending) ∧
      (a < now + finale.duration → cut.endedAt = a ∧ cut.ending = .aborted) := by
  have himmediate : ∀ {P : Prop}, a < now + 0 → P := fun h => absurd hnow (Nat.not_le.2 h)
  cases finale with
  | succeed => exact ⟨fun _ => ⟨rfl, rfl⟩, himmediate⟩
  | fail cause => exact ⟨fun _ => ⟨rfl, rfl⟩, himmediate⟩
  | panic text => exact ⟨fun _ => ⟨rfl, rfl⟩, himmediate⟩
  | wait timing secs probes =>
    obtain ⟨hafter, hbefore⟩ :=
      Waiter.waitWithin_cut (Waiter.allowance timing secs) timing secs (a - now) probes
    obtain ⟨hended, hending⟩ := finish_wait (some a) now timing secs probes
    dsimp only [Option.map_some] at hended hending
    refine ⟨fun h => ?_, fun h => ?_⟩
    · have hsame : Waiter.waitFor timing secs (some (a - now)) probes =
          Waiter.waitFor timing secs none probes := hafter (Nat.le_sub_of_add_le' h)
      rw [hsame] at hended hending
      exact ⟨hended, hending⟩
    · obtain ⟨hcut, hcancelled⟩ := hbefore (Nat.sub_lt_left_of_lt_add hnow h)
      rw [Waiter.waitFor, hcut] at hended
      rw [Waiter.waitFor, hcancelled] at hending
      exact ⟨hended.trans (Nat.add_sub_cancel' hnow), hending⟩

/-- The sleeps come before the last action. -/
theorem proceed_none (finale : Finale) (now : Nat) (sleeps : List Nat) :
    (proceed none finale now sleeps).endedAt = now + sleeps.sum + finale.duration ∧
      (proceed none finale now sleeps).ending = finale.ending := by
  induction sleeps generalizing now with
  | nil => exact finish_none now finale
  | cons sleep rest ih =>
    obtain ⟨hended, hending⟩ := ih (now + sleep)
    rw [proceed_cons, cutBefore_none, List.sum_cons, ← Nat.add_assoc]
    exact ⟨hended, hending⟩

/-- **An abort ends the sleeps or the last action at once, if it comes in time,** and else
is not noticed. -/
theorem proceed_cut {a now : Nat} (hnow : now ≤ a) (finale : Finale) (sleeps : List Nat) :
    let own := now + sleeps.sum + finale.duration
    let cut := proceed (some a) finale now sleeps
    (own ≤ a → cut.endedAt = own ∧ cut.ending = finale.ending) ∧
      (a < own → cut.endedAt = a ∧ cut.ending = .aborted) := by
  induction sleeps generalizing now with
  | nil => exact finish_cut hnow finale
  | cons sleep rest ih =>
    dsimp only
    rw [List.sum_cons, ← Nat.add_assoc]
    rcases Nat.lt_or_ge a (now + sleep) with hlt | hge
    · -- The abort falls into this sleep.
      rw [proceed_cons, cutBefore_some, if_pos hlt]
      exact ⟨fun h => by omega, fun _ => ⟨rfl, rfl⟩⟩
    · rw [proceed_cons, cutBefore_some, if_neg (Nat.not_lt.2 hge)]
      exact ih hge

/-- **A unit of work ends at the earlier of its own end and its abort.** -/
theorem run_endedAt (w : Work) (abort : Option Nat) :
    let e := abort.elim w.duration (min w.duration)
    (w.run abort).endedAt = e ∧ (w.duration ≤ e → (w.run abort).ending = w.finale.ending) ∧
      (e < w.duration → (w.run abort).ending = .aborted) := by
  cases abort with
  | none =>
    obtain ⟨hended, hending⟩ := proceed_none w.finale 0 w.sleeps
    rw [Nat.zero_add] at hended
    exact ⟨hended, fun _ => hending, fun h => absurd h (Nat.lt_irrefl _)⟩
  | some a =>
    obtain ⟨hafter, hbefore⟩ := proceed_cut (Nat.zero_le a) w.finale w.sleeps
    rw [Nat.zero_add] at hafter hbefore
    rcases Nat.lt_or_ge a w.duration with hlt | hge
    · obtain ⟨hended, hending⟩ := hbefore hlt
      have he : min w.duration a = a := Nat.min_eq_right (Nat.le_of_lt hlt)
      dsimp only [Option.elim]
      rw [he]
      exact ⟨hended, fun h => absurd hlt (Nat.not_lt.2 h), fun _ => hending⟩
    · obtain ⟨hended, hending⟩ := hafter hge
      have he : min w.duration a = w.duration := Nat.min_eq_left hge
      dsimp only [Option.elim]
      rw [he]
      exact ⟨hended, fun _ => hending, fun h => absurd h (Nat.lt_irrefl _)⟩

/-- A unit of work that ends by itself ends. -/
theorem run_ending_ne_unfinished {w : Work} (hends : w.finale.ending ≠ .unfinished)
    (abort : Option Nat) : (w.run abort).ending ≠ .unfinished := by
  obtain ⟨-, hwhole, haborted⟩ := w.run_endedAt abort
  rcases Nat.lt_or_ge (abort.elim w.duration (min w.duration)) w.duration with hlt | hge
  · rw [haborted hlt]
    exact WorkEnd.noConfusion
  · rw [hwhole hge]
    exact hends

end Work

namespace BoundedWork

variable {w : Work} {secs : Int} {start : Nat} {abort : Option Nat}

/-- The bound is positive and passes before the work ends. -/
def PassesBefore (start : Nat) (secs : Int) (time : Nat) : Prop :=
  0 < secs ∧ start + secs.toNat * 1000 < time

/-- Who waits for a work that ends too late is let go at the deadline. -/
theorem run_of_passesBefore (h : PassesBefore start secs (w.run abort).endedAt) :
    let limit := start + secs.toNat * 1000
    run w secs start abort =
      ⟨(w.run abort).history, limit, [timeoutLine limit],
        .failed (.timeout workTimedOut (Duration.ofMillis limit))⟩ := by
  have hdeadline : deadline? start secs = some (start + secs.toNat * 1000) := if_pos h.1
  have hlate : endsInTime (w.run abort) (deadline? start secs) = false := by
    rw [hdeadline, endsInTime, decide_eq_false (Nat.not_le.2 h.2), Bool.and_false]
  rw [run, await, hlate, hdeadline]
  rfl

/-- Who waits for a work that ends in time gets its end, as soon as both are there. -/
theorem run_of_not_passesBefore (hends : (w.run abort).ending ≠ .unfinished)
    (h : ¬ PassesBefore start secs (w.run abort).endedAt) :
    let time := max (w.run abort).endedAt start
    run w secs start abort =
      ⟨(w.run abort).history, time, (settle time (w.run abort).ending).1,
        (settle time (w.run abort).ending).2⟩ := by
  have hearly : endsInTime (w.run abort) (deadline? start secs) = true := by
    by_cases hsecs : 0 < secs
    · have hle : (w.run abort).endedAt ≤ start + secs.toNat * 1000 :=
        Nat.not_lt.1 fun hlt => h ⟨hsecs, hlt⟩
      rw [deadline?, if_pos hsecs, endsInTime, decide_eq_true hends, decide_eq_true hle,
        Bool.and_true]
    · rw [deadline?, if_neg hsecs, endsInTime]
  rw [run, await, hearly]
  rfl

/-- The end of a work is no timeout. -/
theorem isTimeout_eq_false_of_settle {time : Nat} {ending : WorkEnd} {cause : WaitError}
    (h : (settle time ending).2 = .failed cause) : cause.isTimeout = false := by
  cases ending with
  | succeeded => exact Settlement.noConfusion h
  | failed inner => exact Settlement.failed.inj h ▸ rfl
  | panicked text => exact Settlement.failed.inj h ▸ rfl
  | aborted => exact Settlement.noConfusion h
  | unfinished => exact Settlement.noConfusion h

/-- **What whoever waits for a unit of work gets.**  The work takes `own` milliseconds by
itself and ends at `e`, its own end or its abort.  If the bound is positive and passes
before `e`, the wait for the work ends then and is a timeout; the elapsed time of the
timeout is counted from the start of the work.  Else the wait ends at `e`, or at once if
that is over: an aborted work counts as finished, and a work that ended by itself gives
its success, its error or the text of its panic.  Only the bound makes a timeout: a work
whose own wait timed out has failed. -/
theorem run_settlement (w : Work) (hends : w.finale.ending ≠ .unfinished) (secs : Int)
    (start : Nat) (abort : Option Nat) :
    let own := w.duration
    let e := abort.elim own (min own)
    let limit := start + secs.toNat * 1000
    let r := run w secs start abort
    (PassesBefore start secs e →
      r.returnedAt = limit ∧
        r.settlement = .failed (.timeout "timed out waiting for execution to complete"
          (Duration.ofMillis limit))) ∧
    (¬ PassesBefore start secs e →
      r.returnedAt = max e start ∧
        (e < own → r.settlement = .elapsed (max e start)) ∧
        (own ≤ e →
          (w.finale.ending = .succeeded ∧ r.settlement = .elapsed (max e start)) ∨
          (∃ cause, w.finale.ending = .failed cause ∧ r.settlement = .failed (.work cause)) ∨
          (∃ text, w.finale.ending = .panicked text ∧
            r.settlement = .failed (.panicked (text.getD "unknown panic"))))) ∧
    ((∃ cause, r.settlement = .failed cause ∧ cause.isTimeout = true) ↔
      PassesBefore start secs e) ∧
    (∀ timing bound probes time, w.finale = .wait timing bound probes →
      (Waiter.waitFor timing bound none probes).ending = .timedOut time →
      own ≤ e → ¬ PassesBefore start secs e →
        r.settlement = .failed (.work
          { root := (WaitError.timeout "No checker finished successfully"
              (Duration.ofMillis time)).message })) := by
  intro own e limit r
  obtain ⟨hended, hwhole, haborted⟩ :
      (w.run abort).endedAt = e ∧ (own ≤ e → (w.run abort).ending = w.finale.ending) ∧
        (e < own → (w.run abort).ending = .aborted) := w.run_endedAt abort
  have hlate : PassesBefore start secs e → r = ⟨(w.run abort).history, limit, [timeoutLine limit],
      .failed (.timeout workTimedOut (Duration.ofMillis limit))⟩ := fun h =>
    run_of_passesBefore (hended ▸ h)
  have hearly : ¬ PassesBefore start secs e → r.returnedAt = max e start ∧
      r.settlement = (settle (max e start) (w.run abort).ending).2 := fun h => by
    have hrun := run_of_not_passesBefore (Work.run_ending_ne_unfinished hends abort) (hended ▸ h)
    rw [hended] at hrun
    exact ⟨congrArg BoundedRun.returnedAt hrun, congrArg BoundedRun.settlement hrun⟩
  refine ⟨fun h => ?_, fun h => ?_, ⟨?_, fun h => ?_⟩, ?_⟩
  · rw [hlate h]
    exact ⟨rfl, rfl⟩
  · obtain ⟨hreturned, hsettled⟩ := hearly h
    refine ⟨hreturned, fun hlt => ?_, fun hge => ?_⟩
    · rw [hsettled, haborted hlt, settle]
    · rw [hsettled, hwhole hge]
      cases hfinale : w.finale.ending with
      | succeeded => exact .inl ⟨rfl, rfl⟩
      | failed cause => exact .inr (.inl ⟨cause, rfl, rfl⟩)
      | panicked text => exact .inr (.inr ⟨text, rfl, rfl⟩)
      | aborted => exact absurd hfinale (Work.ending_ne_aborted w.finale)
      | unfinished => exact absurd hfinale hends
  · rintro ⟨cause, hcause, htimeout⟩
    refine Classical.byContradiction fun h => ?_
    rw [(hearly h).2] at hcause
    rw [isTimeout_eq_false_of_settle hcause] at htimeout
    exact Bool.false_ne_true htimeout
  · exact ⟨_, congrArg BoundedRun.settlement (hlate h), rfl⟩
  · intro timing bound probes time hfinale hinner hge h
    rw [(hearly h).2, hwhole hge, hfinale, Finale.ending, hinner, Work.endOfWait, settle,
      noProbeSucceeded]

/-- A unit of work that sleeps and then waits in vain for a second. -/
def vainWork : Work where
  sleeps := [40, 60]
  finale := .wait {} 1 [{ name := "vain", attempt := fun _ => ⟨0, .notReady, []⟩ }]

/-- Such a work ends after 1100 milliseconds.  Waited for from 50 on it has failed by its
own timeout under a bound of five seconds; a bound of one second passes before. -/
theorem run_settlement_of_vain_work :
    vainWork.finale.ending ≠ .unfinished ∧
      (run vainWork 5 50 none).settlement = .failed (.work
        { root := (WaitError.timeout "No checker finished successfully"
            (Duration.ofMillis 1000)).message }) ∧
      (run vainWork 1 50 none).settlement = .failed (.timeout
        "timed out waiting for execution to complete" (Duration.ofMillis 1050)) := by
  have hends : vainWork.finale.ending ≠ .unfinished :=
    Work.ending_wait_ne_unfinished (by decide) 1 _
  obtain ⟨-, -, -, hinner⟩ := run_settlement vainWork hends 5 50 none
  obtain ⟨hlate, -, -, -⟩ := run_settlement vainWork hends 1 50 none
  refine ⟨hends, hinner {} 1 _ 1000 rfl (by decide) (by decide) ?_, (hlate ?_).2⟩
  · rw [PassesBefore]
    decide
  · rw [PassesBefore]
    decide

end BoundedWork
end ServiceReadiness
