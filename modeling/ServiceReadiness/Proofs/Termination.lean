/-
# Waits under resolved settings come to an end

Nothing in the loop over rounds counts them; what runs out is the time to the deadline,
and it runs out because the pause between two rounds is not zero.  Resolved settings see
to that (`Settings.resolve_pos`), and the deadline is then positive too, whatever a wait is
given (`effectiveMaxWait_pos`).  A round can only be reached if the pauses before it fit in
before the deadline (`Reaches.lt_rounds`), so a wait that is allowed that many rounds is
not cut short by it (`waitWithin_eq_of_reaches`).  Probes that take no time and are never
ready use up all the rounds that fit (`Idle.expires`).
-/

import Mathlib.Algebra.Order.Floor.Div
import ServiceReadiness.Proofs.Resolution
import ServiceReadiness.Proofs.RoundRobin

namespace ServiceReadiness
namespace Waiter

/-- A wait has a positive deadline if it has one by default. -/
theorem effectiveMaxWait_pos {timing : Timing} (h : 0 < timing.defaultMaxWait) (secs : Int) :
    0 < effectiveMaxWait timing secs := by
  rw [effectiveMaxWait]
  split
  · omega
  · exact h

variable {interval deadline : Nat} {probes : List Probe}

/-! ### The rounds that fit in before a deadline -/

/-- A round that is reached begins before the deadline. -/
theorem Reaches.roundStart_lt (hdeadline : 0 < deadline) {r : Nat}
    (h : Reaches interval deadline probes r) : roundStart interval probes r < deadline := by
  cases r with
  | zero => exact hdeadline
  | succ r => exact (h r (Nat.lt_succ_self r)).2

/-- **No more rounds are reached than fit in** before the deadline when they take no time and
only the pauses do. -/
theorem Reaches.lt_rounds (hinterval : 0 < interval) (hdeadline : 0 < deadline) {r : Nat}
    (h : Reaches interval deadline probes r) : r < deadline ⌈/⌉ interval := by
  refine Nat.lt_of_not_le fun hle => ?_
  have hlate : deadline ≤ interval * r := (ceilDiv_le_iff_le_mul hinterval).1 hle
  have hpauses := mul_interval_le_roundStart interval probes r
  have hstart := h.roundStart_lt hdeadline
  rw [Nat.mul_comm] at hlate
  omega

/-- **Rounds beyond those that can be reached change nothing.** -/
theorem waitWithin_eq_of_reaches {timing : Timing} {secs : Int} {rounds allowance : Nat}
    (hinterval : 0 < timing.retryInterval)
    (hrounds : ∀ r, Reaches timing.retryInterval (effectiveMaxWait timing secs) probes r →
      r < rounds) (hallowance : rounds ≤ allowance) :
    waitWithin allowance timing secs none probes = waitWithin rounds timing secs none probes := by
  by_cases hprobes : probes = []
  · subst hprobes
    rfl
  · rw [waitWithin_of_ne_nil hprobes, waitWithin_of_ne_nil hprobes]
    rcases decides_or_expires hinterval (effectiveMaxWait timing secs) probes with
      ⟨r, index, p, h⟩ | ⟨r, h⟩
    · have hr := hrounds r h.reaches
      obtain ⟨ending, hending⟩ := exists_endingOf h.decisive
        (callStart timing.retryInterval probes r index + (p.attempt r).duration)
      rw [poll_of_decides h (Nat.lt_of_lt_of_le hr hallowance) hending,
        poll_of_decides h hr hending]
    · have hr := hrounds r h.reaches
      rw [poll_of_expires h (Nat.lt_of_lt_of_le hr hallowance), poll_of_expires h hr]

/-! ### Probes that take no time and are never ready -/

/-- No call takes time, and none ends a wait. -/
def Idle (probes : List Probe) : Prop :=
  ∀ p ∈ probes, ∀ call, (p.attempt call).duration = 0 ∧ (p.attempt call).verdict = .notReady

theorem Idle.instant (h : Idle probes) : Instant probes := fun p hp call => (h p hp call).1

theorem Idle.quiet (h : Idle probes) (r : Nat) : Quiet probes r := fun p hp => (h p hp r).2

/-- Rounds over idle probes are as far apart as the pauses are long. -/
theorem Idle.roundStart_eq (h : Idle probes) (r : Nat) :
    roundStart interval probes r = r * interval := h.instant.roundStart_eq r

/-- A round over idle probes makes all of its calls at once. -/
theorem Idle.fullRounds_eq (h : Idle probes) (rounds : Nat) :
    fullRounds interval probes rounds =
      (List.range rounds).flatMap fun r =>
        (List.range probes.length).map fun index => (r * interval, index, r) := by
  simp only [fullRounds, roundCalls, h.instant.callStart_eq]

/-- **Idle probes use up all the rounds that fit** in before the deadline. -/
theorem Idle.expires (h : Idle probes) (hinterval : 0 < interval) {rounds : Nat}
    (hrounds : deadline ⌈/⌉ interval = rounds + 1) : Expires interval deadline probes rounds := by
  refine ⟨fun q hq => ⟨h.quiet q, ?_⟩, h.quiet rounds, ?_⟩
  · rw [h.roundStart_eq]
    refine Nat.lt_of_not_le fun hle => ?_
    have hfew : deadline ⌈/⌉ interval ≤ q + 1 :=
      (ceilDiv_le_iff_le_mul hinterval).2 (by rwa [Nat.mul_comm])
    omega
  · rw [h.roundStart_eq, Nat.mul_comm]
    exact (ceilDiv_le_iff_le_mul hinterval).1 (Nat.le_of_eq hrounds)

/-! ### The wait -/

/-- **Every wait under resolved settings ends.**  Whatever the settings were resolved from
and whatever deadline the wait is given, it ends by itself within the deadline divided by
the interval, rounded up, of rounds, however many more it is allowed.  Probes that take no
time and are never ready make it go through exactly so many rounds, an interval apart, and
time out an interval after the last of them. -/
theorem waitFor_ends_of_resolve {env : Environment} {settings : Settings}
    (h : Settings.resolve env = .ok settings) (secs : Int) {probes : List Probe}
    (hprobes : probes ≠ []) :
    let interval := settings.timing.retryInterval
    let rounds := effectiveMaxWait settings.timing secs ⌈/⌉ interval
    let run := waitFor settings.timing secs none probes
    run.ending ≠ .unfinished ∧
      (∀ allowance, rounds ≤ allowance →
        waitWithin allowance settings.timing secs none probes = run) ∧
      (∀ time index call, (time, index, call) ∈ run.history.evaluations → call < rounds) ∧
      (Idle probes →
        run.history.evaluations = ((List.range rounds).flatMap fun r =>
            (List.range probes.length).map fun index => (r * interval, index, r)) ∧
          run.endedAt = rounds * interval ∧ run.ending = .timedOut (rounds * interval)) := by
  intro interval rounds run
  obtain ⟨hmaxWait, hinterval⟩ := Settings.resolve_pos h
  have hdeadline := effectiveMaxWait_pos hmaxWait secs
  have hreach : ∀ r, Reaches interval (effectiveMaxWait settings.timing secs) probes r →
      r < rounds := fun r hr => hr.lt_rounds hinterval hdeadline
  have hfew : rounds ≤ allowance settings.timing secs :=
    (ceilDiv_le_iff_le_mul hinterval).2
      (Nat.le_trans (Nat.le_succ _) (Nat.le_mul_of_pos_left _ hinterval))
  have hrun : run = waitWithin rounds settings.timing secs none probes :=
    waitWithin_eq_of_reaches hinterval hreach hfew
  refine ⟨waitFor_ending_ne_unfinished hinterval secs probes, fun allowance hallowance => ?_,
    fun time index call hmem => ?_, fun hidle => ?_⟩
  · rw [hrun]
    exact waitWithin_eq_of_reaches hinterval hreach hallowance
  · rw [hrun, evaluations_waitWithin hprobes] at hmem
    have hcall := (of_mem_evaluations_poll hmem).2
    rwa [Nat.zero_add] at hcall
  · obtain ⟨last, hlast⟩ : ∃ last, rounds = last + 1 :=
      Nat.exists_eq_add_one.2 (hreach 0 Reaches.zero)
    have hexpires := hidle.expires hinterval hlast
    obtain ⟨hcalls, hended, hending⟩ :=
      waitWithin_of_expires hprobes hexpires (Nat.lt_succ_self last)
    rw [hidle.fullRounds_eq] at hcalls
    rw [hidle.roundStart_eq] at hended hending
    rw [hrun, hlast]
    exact ⟨hcalls, hended, hending⟩

/-- An environment that gives a deadline and an interval that does not divide it. -/
def unevenEnvironment : Environment
  | .defaultMaxWait => some "7".toUTF8
  | .retryInterval => some " 3".toUTF8
  | _ => none

/-- A probe that is never ready. -/
def idleProbe : Probe where
  name := "idle"
  attempt _ := { duration := 0, verdict := .notReady }

/-- The hypotheses of `waitFor_ends_of_resolve` are satisfiable: with an interval of three
milliseconds and a deadline of seven, a probe that is never ready is called three times. -/
theorem waitFor_ends_of_resolve_uneven :
    Settings.resolve unevenEnvironment = .ok { timing := ⟨7, 3⟩ } ∧ [idleProbe] ≠ [] ∧
      Idle [idleProbe] ∧
      (waitFor ⟨7, 3⟩ (-1) none [idleProbe]).history.evaluations =
        [(0, 0, 0), (3, 0, 1), (6, 0, 2)] ∧
      (waitFor ⟨7, 3⟩ (-1) none [idleProbe]).ending = .timedOut 9 := by
  have hresolve : Settings.resolve unevenEnvironment = .ok { timing := ⟨7, 3⟩ } := by rfl
  have hprobes : [idleProbe] ≠ [] := List.cons_ne_nil _ _
  have hidle : Idle [idleProbe] := fun p hp call => by
    obtain rfl := List.mem_singleton.1 hp
    exact ⟨rfl, rfl⟩
  obtain ⟨-, -, -, hexact⟩ := waitFor_ends_of_resolve hresolve (-1) hprobes
  obtain ⟨hcalls, -, hending⟩ := hexact hidle
  exact ⟨hresolve, hprobes, hidle, hcalls.trans (by decide), hending.trans (by decide)⟩

end Waiter
end ServiceReadiness
