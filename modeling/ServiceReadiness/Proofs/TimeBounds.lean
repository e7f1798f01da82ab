/-
# How long a wait can take

The look at the clock comes after the pause, so a round begins either at the start of the
wait or at a time that has just been found to be before the deadline: that it begins before
the deadline is what the loop keeps (`lt_deadline_of_mem_evaluations_poll`).  A round takes
no longer than its calls together (`round_endedAt_of_open`, `of_round_ending`), so a wait
overruns its deadline by less than one round when it succeeds, and by less than one round
and one pause when it times out (`poll_punctual`).
-/

import Mathlib.Algebra.Order.BigOperators.Group.List
import Mathlib.Algebra.Order.Ring.Nat
import ServiceReadiness.Proofs.Polling
import ServiceReadiness.Proofs.Schedule

namespace ServiceReadiness
namespace Waiter

/-! ### One round -/

/-- A round that leaves the wait open has made all of its calls. -/
theorem round_endedAt_of_open {cut : Option Nat} {call index now : Nat} {probes : List Probe}
    (h : (round cut call index now probes).ending = none) :
    (round cut call index now probes).endedAt = now + roundLength call probes := by
  induction probes generalizing index now with
  | nil => rfl
  | cons p rest ih =>
    rcases round_cons_cases cut call index now p rest with
      ⟨c, -, hround⟩ | ⟨-, -, hround⟩ | ⟨-, hv, hround⟩
    · rw [hround] at h
      exact absurd h (Option.some_ne_none _)
    · rw [hround] at h ⊢
      rw [roundLength_cons, ← Nat.add_assoc]
      exact ih h
    · obtain ⟨ending, hending⟩ := exists_endingOf hv (now + (p.attempt call).duration)
      rw [hround, hending] at h
      exact absurd h (Option.some_ne_none _)

/-- A round never ends a wait at its deadline, and it finds a probe ready no later than all
of its calls take. -/
theorem of_round_ending {cut : Option Nat} {call index now : Nat} {probes : List Probe}
    {ending : Ending} (h : (round cut call index now probes).ending = some ending) :
    (∀ time, ending ≠ .timedOut time) ∧
      ∀ time, ending = .ready time → time ≤ now + roundLength call probes := by
  induction probes generalizing index now with
  | nil => exact absurd h.symm (Option.some_ne_none _)
  | cons p rest ih =>
    rw [roundLength_cons, ← Nat.add_assoc]
    rcases round_cons_cases cut call index now p rest with
      ⟨c, -, hround⟩ | ⟨-, -, hround⟩ | ⟨-, -, hround⟩
    · rw [hround] at h
      obtain rfl := Option.some.inj h
      exact ⟨fun _ => Ending.noConfusion, fun _ => Ending.noConfusion⟩
    · rw [hround] at h
      exact ih h
    · replace h : endingOf (now + (p.attempt call).duration) (p.attempt call).verdict =
          some ending := by rwa [hround] at h
      cases hv : (p.attempt call).verdict <;> rw [hv] at h
      case notReady => exact absurd h.symm (Option.some_ne_none _)
      case ready =>
        obtain rfl := Option.some.inj h
        refine ⟨fun _ => Ending.noConfusion, fun time htime => ?_⟩
        exact Ending.ready.inj htime ▸ Nat.le_add_right _ _
      all_goals
        obtain rfl := Option.some.inj h
        exact ⟨fun _ => Ending.noConfusion, fun _ => Ending.noConfusion⟩

/-- Calls that are all short make a short round. -/
theorem roundLength_le {call longest : Nat} {probes : List Probe}
    (h : ∀ p ∈ probes, (p.attempt call).duration ≤ longest) :
    roundLength call probes ≤ probes.length * longest := by
  have hsum := List.sum_le_card_nsmul (probes.map fun p => (p.attempt call).duration) longest
    fun duration hmem => by
      obtain ⟨p, hp, rfl⟩ := List.mem_map.1 hmem
      exact h p hp
  rwa [List.length_map, Nat.nsmul_eq_mul] at hsum

/-! ### The loop over rounds -/

/-- **Rounds begin before the deadline,** if the first of them does. -/
theorem lt_deadline_of_mem_evaluations_poll {interval deadline : Nat} {cut : Option Nat}
    {probes : List Probe} {allowance call now time k : Nat} (hnow : now < deadline)
    (h : (time, 0, k) ∈
      (poll interval deadline cut probes allowance call now).history.evaluations) :
    time < deadline := by
  induction allowance generalizing call now with
  | zero => exact absurd h List.not_mem_nil
  | succ allowance ih =>
    rcases mem_evaluations_poll_succ h with hmem | ⟨hearly, hmem⟩
    · obtain ⟨-, -, htime⟩ := of_mem_evaluations_round hmem
      exact htime rfl ▸ hnow
    · exact ih hearly hmem

/-- A wait keeps to a deadline, up to a round of `long` milliseconds that has begun before
it and the pause after that round. -/
structure Punctual (interval deadline long : Nat) (ending : Ending) : Prop where
  timedOut : ∀ time, ending = .timedOut time → deadline ≤ time ∧ time < deadline + long + interval
  ready : ∀ time, ending = .ready time → time < deadline + long

/-- An ending without a time keeps to every deadline. -/
theorem Punctual.of_ne {interval deadline long : Nat} {ending : Ending}
    (htimedOut : ∀ time, ending ≠ .timedOut time) (hready : ∀ time, ending ≠ .ready time) :
    Punctual interval deadline long ending :=
  ⟨fun time h => absurd h (htimedOut time), fun time h => absurd h (hready time)⟩

/-- **A loop that begins before the deadline keeps to it,** however it is cut off. -/
theorem poll_punctual {interval deadline long : Nat} {cut : Option Nat} {probes : List Probe}
    (hlong : ∀ call, roundLength call probes ≤ long) (allowance call : Nat) {now : Nat}
    (hnow : now < deadline) :
    Punctual interval deadline long
      (poll interval deadline cut probes allowance call now).ending := by
  induction allowance generalizing call now with
  | zero => exact .of_ne (fun _ => Ending.noConfusion) fun _ => Ending.noConfusion
  | succ allowance ih =>
    have hround := hlong call
    rcases poll_succ_cases interval deadline cut probes allowance call now with
      ⟨ending, hending, h⟩ | ⟨-, c, -, h⟩ | ⟨hopen, -, hlate, h⟩ | ⟨-, -, hearly, h⟩
    · obtain ⟨hnever, hready⟩ := of_round_ending hending
      rw [h]
      refine ⟨fun time htime => absurd htime (hnever time), fun time htime => ?_⟩
      have hle := hready time htime
      omega
    · rw [h]
      exact .of_ne (fun _ => Ending.noConfusion) fun _ => Ending.noConfusion
    · have hended := round_endedAt_of_open hopen
      rw [h]
      refine ⟨fun time htime => ?_, fun time htime => Ending.noConfusion htime⟩
      obtain rfl := Ending.timedOut.inj htime
      exact ⟨hlate, by omega⟩
    · rw [h]
      exact ih (call + 1) hearly

/-! ### The wait -/

/-- **A wait overruns its deadline by less than one round and one pause.**  Let no call take
longer than `longest`.  A timeout comes at the deadline or later, and sooner than a round
of such calls and a pause after it; a success comes sooner than such a round after it; and
every round begins before it.  So with calls that take no time a success is reported
before the deadline.  This holds for any number of rounds, also of a wait that is cut
off. -/
theorem waitWithin_keeps_deadline (allowance : Nat) (timing : Timing) (secs : Int)
    (cut : Option Nat) (probes : List Probe) (longest : Nat)
    (hdeadline : 0 < effectiveMaxWait timing secs)
    (hlongest : ∀ p ∈ probes, ∀ call, (p.attempt call).duration ≤ longest) :
    let deadline := effectiveMaxWait timing secs
    let run := waitWithin allowance timing secs cut probes
    (∀ elapsed, run.ending = .timedOut elapsed → deadline ≤ elapsed ∧
        elapsed < deadline + probes.length * longest + timing.retryInterval) ∧
      (∀ elapsed, run.ending = .ready elapsed → elapsed < deadline + probes.length * longest) ∧
      ∀ time call, (time, 0, call) ∈ run.history.evaluations → time < deadline := by
  intro deadline run
  by_cases hprobes : probes = []
  · subst hprobes
    exact ⟨fun _ h => Ending.noConfusion h, fun _ h => Ending.noConfusion h,
      fun _ _ h => absurd h List.not_mem_nil⟩
  · have hlong : ∀ call, roundLength call probes ≤ probes.length * longest := fun call =>
      roundLength_le fun p hp => hlongest p hp call
    have hpunctual : Punctual timing.retryInterval deadline (probes.length * longest)
        run.ending := by
      rw [show run = _ from waitWithin_of_ne_nil hprobes ..]
      exact poll_punctual hlong allowance 0 hdeadline
    refine ⟨hpunctual.timedOut, hpunctual.ready, fun time call hmem => ?_⟩
    rw [evaluations_waitWithin hprobes] at hmem
    exact lt_deadline_of_mem_evaluations_poll hdeadline hmem

/-- A probe that is quick at first and then takes its time. -/
def slowingProbe : Probe where
  name := "slowing"
  attempt := scripted ⟨5, .notReady, []⟩ [⟨1, .notReady, []⟩, ⟨5, .notReady, []⟩]

/-- The hypotheses of `waitWithin_keeps_deadline` are satisfiable, and its bound on a timeout
is sharp: of two probes that take five milliseconds at most, the second round begins one
millisecond before the deadline and takes all the time that it may. -/
theorem waitWithin_keeps_deadline_by_one :
    0 < effectiveMaxWait ⟨6, 3⟩ 0 ∧
      (∀ p ∈ [slowingProbe, slowingProbe], ∀ call, (p.attempt call).duration ≤ 5) ∧
      (waitWithin 4 ⟨6, 3⟩ 0 none [slowingProbe, slowingProbe]).ending = .timedOut 18 ∧
      6 ≤ 18 ∧ 18 < 6 + 2 * 5 + 3 := by
  have hdeadline : 0 < effectiveMaxWait ⟨6, 3⟩ 0 := by decide
  have hlongest : ∀ p ∈ [slowingProbe, slowingProbe], ∀ call, (p.attempt call).duration ≤ 5 := by
    intro p hp call
    obtain rfl : p = slowingProbe := by simpa using hp
    match call with
    | 0 => decide
    | 1 => decide
    | call + 2 => exact Nat.le_of_eq (congrArg Attempt.duration (scripted_of_le _ (by simp)))
  have hending : (waitWithin 4 ⟨6, 3⟩ 0 none [slowingProbe, slowingProbe]).ending =
      .timedOut 18 := by decide
  obtain ⟨htimedOut, -, -⟩ := waitWithin_keeps_deadline 4 ⟨6, 3⟩ 0 none
    [slowingProbe, slowingProbe] 5 hdeadline hlongest
  exact ⟨hdeadline, hlongest, hending, htimedOut 18 hending⟩

end Waiter
end ServiceReadiness
