/-
# A later deadline

The deadline of a wait is only looked at between two rounds, so two waits over the same
probes that differ in their deadlines alone keep in step up to the first look at the clock
that tells the deadlines apart.  On the schedule this is plain: a later deadline reaches
every round that an earlier one does (`Reaches.mono`), so a call that decides the wait with
the earlier deadline decides the other one too (`Decides.mono`).

The two part only where the earlier deadline ends its wait.  Either the later deadline has
been reached by then as well, although it may lie far beyond the earlier one, for both may
fall into the same round and the pause after it (`Expires.mono`); or one more round is
reached (`Expires.reaches_succ`), and a round that is reached begins
(`waitWithin_of_reaches_of_lt`).
-/

import ServiceReadiness.Proofs.Chronology
import ServiceReadiness.Proofs.RoundRobin

namespace ServiceReadiness
namespace Waiter

variable {probes : List Probe} {timing : Timing} {secs : Int} {allowance : Nat}

/-! ### A round that is reached -/

/-- A loop that may make a round calls its first probe at once. -/
theorem exists_evaluations_poll_succ (hprobes : probes ≠ []) (interval deadline : Nat)
    (allowance call now : Nat) :
    ∃ rest, (poll interval deadline none probes (allowance + 1) call now).history.evaluations =
      (now, 0, call) :: rest := by
  obtain ⟨p, others, rfl⟩ := List.exists_cons_of_ne_nil hprobes
  have hfirst : (round none call 0 now (p :: others)).history.evaluations = (now, 0, call) :: _ :=
    evaluations_round_cons_of_open (cutBefore_none _)
  rw [evaluations_poll_succ, hfirst]
  exact ⟨_, rfl⟩

/-- **A round that is reached begins.**  The wait has made the rounds before it in full, then
calls its first probe, and ends no sooner. -/
theorem waitWithin_of_reaches_of_lt {r : Nat} (hprobes : probes ≠ [])
    (h : Reaches timing.retryInterval (effectiveMaxWait timing secs) probes r)
    (hr : r < allowance) :
    let run := waitWithin allowance timing secs none probes
    let start := roundStart timing.retryInterval probes r
    fullRounds timing.retryInterval probes r ++ [(start, 0, r)] <+: run.history.evaluations ∧
      start ≤ run.endedAt := by
  intro run start
  obtain ⟨k, rfl⟩ := Nat.exists_eq_add_of_lt hr
  have hreached := poll_add_of_reaches h (k + 1)
  rw [show k + 1 + r = r + k + 1 by omega] at hreached
  constructor
  · obtain ⟨rest, hrest⟩ := exists_evaluations_poll_succ hprobes timing.retryInterval
      (effectiveMaxWait timing secs) k r start
    refine ⟨rest, ?_⟩
    have hcalls : run.history.evaluations =
        fullRounds timing.retryInterval probes r ++ (start, 0, r) :: rest := by
      rw [show run.history.evaluations = _ from evaluations_waitWithin hprobes .., hreached,
        WaitRun.after, Timeline.evaluations, Timeline.select_append]
      exact congrArg₂ (· ++ ·) (evaluations_roundsHistory r) hrest
    rw [hcalls, List.append_assoc]
    rfl
  · rw [show run = _ from waitWithin_of_ne_nil hprobes .., hreached]
    exact le_poll_endedAt ..

/-! ### Two deadlines -/

/-- Two waits end in the same way, at the same time and after the same calls and releases. -/
structure Agree (first second : WaitRun) : Prop where
  ending : first.ending = second.ending
  endedAt : first.endedAt = second.endedAt
  calls : first.history.calls = second.history.calls

theorem Agree.evaluations {first second : WaitRun} (h : Agree first second) :
    first.history.evaluations = second.history.evaluations := by
  rw [← Timeline.evaluations_calls, h.calls, Timeline.evaluations_calls]

/-- What a wait calls and releases is known from its evaluations and its end. -/
theorem Agree.of_evaluations {allowance' : Nat} {timing' : Timing} {secs' : Int}
    (hending : (waitWithin allowance' timing' secs' none probes).ending =
      (waitWithin allowance timing secs none probes).ending)
    (hended : (waitWithin allowance' timing' secs' none probes).endedAt =
      (waitWithin allowance timing secs none probes).endedAt)
    (hevaluations : (waitWithin allowance' timing' secs' none probes).history.evaluations =
      (waitWithin allowance timing secs none probes).history.evaluations) :
    Agree (waitWithin allowance' timing' secs' none probes)
      (waitWithin allowance timing secs none probes) := by
  refine ⟨hending, hended, ?_⟩
  rw [calls_waitWithin, calls_waitWithin, hevaluations, hended]

section

variable {laterTiming : Timing} {laterSecs : Int}
variable (hinterval : 0 < timing.retryInterval)
  (hsame : laterTiming.retryInterval = timing.retryInterval)
  (hlater : effectiveMaxWait timing secs ≤ effectiveMaxWait laterTiming laterSecs)
include hinterval hsame hlater

/-- **A call that decides a wait decides it under a later deadline** in the same way. -/
theorem agree_of_decides {r index : Nat} {p : Probe}
    (h : Decides timing.retryInterval (effectiveMaxWait timing secs) probes r index p) :
    Agree (waitFor laterTiming laterSecs none probes) (waitFor timing secs none probes) := by
  have h' := h.mono hlater
  obtain ⟨ending, hending⟩ := exists_endingOf h.decisive
    (callStart timing.retryInterval probes r index + (p.attempt r).duration)
  obtain ⟨hcalls, hended, hrun⟩ :=
    waitWithin_of_decides h (h.reaches.lt_allowance hinterval) hending
  rw [← hsame] at hinterval h' hending hcalls hended
  obtain ⟨hcalls', hended', hrun'⟩ :=
    waitWithin_of_decides h' (h'.reaches.lt_allowance hinterval) hending
  exact .of_evaluations (hrun'.trans hrun.symm) (hended'.trans hended.symm)
    (hcalls'.trans hcalls.symm)

/-- **Two deadlines that the same look at the clock finds reached** end a wait in the same
way. -/
theorem agree_of_expires {r : Nat} (hprobes : probes ≠ [])
    (h : Expires timing.retryInterval (effectiveMaxWait timing secs) probes r)
    (hlate : effectiveMaxWait laterTiming laterSecs ≤
      roundStart timing.retryInterval probes (r + 1)) :
    Agree (waitFor laterTiming laterSecs none probes) (waitFor timing secs none probes) := by
  have h' := h.mono hlater hlate
  obtain ⟨hcalls, hended, hrun⟩ :=
    waitWithin_of_expires hprobes h (h.reaches.lt_allowance hinterval)
  rw [← hsame] at hinterval h' hcalls hended hrun
  obtain ⟨hcalls', hended', hrun'⟩ :=
    waitWithin_of_expires hprobes h' (h'.reaches.lt_allowance hinterval)
  exact .of_evaluations (hrun'.trans hrun.symm) (hended'.trans hended.symm)
    (hcalls'.trans hcalls.symm)

/-- **A later deadline lets the wait go on** with a new round where the earlier one ended it. -/
theorem waitFor_goes_on {r : Nat} (hprobes : probes ≠ [])
    (h : Expires timing.retryInterval (effectiveMaxWait timing secs) probes r)
    (hopen : roundStart timing.retryInterval probes (r + 1) <
      effectiveMaxWait laterTiming laterSecs) :
    let run := waitFor laterTiming laterSecs none probes
    let next := roundStart timing.retryInterval probes (r + 1)
    fullRounds timing.retryInterval probes (r + 1) ++ [(next, 0, r + 1)] <+:
        run.history.evaluations ∧
      next ≤ run.endedAt := by
  have hreaches := h.reaches_succ hlater hopen
  rw [← hsame] at hinterval hreaches ⊢
  exact waitWithin_of_reaches_of_lt hprobes hreaches (hreaches.lt_allowance hinterval)

end

/-- **A later deadline never changes a wait that is decided.**  Let two waits over the same
probes have the same positive interval and two deadlines, one of which may be later.  If the
wait with the earlier deadline does not time out, so if a probe is ready, fails for good or
panics, the other wait makes the same calls at the same times and ends at the same time in
the same way.

If it times out at `elapsed`, its calls are the beginning of those of the other wait.  A later
deadline that has been reached by `elapsed` changes nothing at all.  With a deadline after
that the other wait goes on: at `elapsed` its next round begins, and whatever it reports
comes no sooner. -/
theorem waitFor_of_later_deadline (timing laterTiming : Timing) (secs laterSecs : Int)
    (probes : List Probe) (hinterval : 0 < timing.retryInterval)
    (hsame : laterTiming.retryInterval = timing.retryInterval)
    (hlater : effectiveMaxWait timing secs ≤ effectiveMaxWait laterTiming laterSecs) :
    let later := effectiveMaxWait laterTiming laterSecs
    let run := waitFor timing secs none probes
    let longer := waitFor laterTiming laterSecs none probes
    ((∀ time, run.ending ≠ .timedOut time) → Agree longer run) ∧
      ∀ elapsed, run.ending = .timedOut elapsed →
        run.history.evaluations <+: longer.history.evaluations ∧
          (later ≤ elapsed → Agree longer run) ∧
          (elapsed < later → ∃ round,
            run.history.evaluations = fullRounds timing.retryInterval probes round ∧
              run.history.evaluations ++ [(elapsed, 0, round)] <+: longer.history.evaluations) ∧
          elapsed ≤ longer.endedAt ∧
          ∀ time, longer.ending = .ready time ∨ longer.ending = .timedOut time →
            elapsed ≤ time := by
  intro later run longer
  by_cases hprobes : probes = []
  · subst hprobes
    simp only [run, longer, waitFor_nil]
    exact ⟨fun _ => ⟨rfl, rfl, rfl⟩, fun _ h => Ending.noConfusion h⟩
  refine ⟨fun hdecided => ?decided, fun elapsed htimedOut => ?timedOut⟩
  case decided =>
    rcases decides_or_expires hinterval (effectiveMaxWait timing secs) probes with
      ⟨r, index, p, h⟩ | ⟨r, h⟩
    · exact agree_of_decides hinterval hsame hlater h
    · have hrun := (waitWithin_of_expires hprobes h (h.reaches.lt_allowance hinterval)).2.2
      exact absurd hrun (hdecided _)
  case timedOut =>
    obtain ⟨r, hr, h, rfl⟩ := exists_expires_of_timedOut htimedOut
    obtain ⟨hcalls, hended, -⟩ :
        run.history.evaluations = _ ∧ run.endedAt = _ ∧ run.ending = _ :=
      waitWithin_of_expires hprobes h hr
    have hreports : ∀ time, longer.ending = .ready time ∨ longer.ending = .timedOut time →
        longer.endedAt = time := fun time => endedAt_of_reports
    rcases Nat.lt_or_ge (roundStart timing.retryInterval probes (r + 1)) later with hopen | hlate
    · obtain ⟨hnext, hends⟩ := waitFor_goes_on hinterval hsame hlater hprobes h hopen
      rw [hcalls]
      exact ⟨(List.prefix_append _ _).trans hnext, fun hle => absurd hopen (Nat.not_lt.2 hle),
        fun _ => ⟨r + 1, rfl, hnext⟩, hends, fun time htime => hreports time htime ▸ hends⟩
    · have hagree : Agree longer run := agree_of_expires hinterval hsame hlater hprobes h hlate
      have hends := Nat.le_of_eq (hagree.endedAt.trans hended).symm
      have hevaluations : longer.history.evaluations = run.history.evaluations :=
        hagree.evaluations
      rw [hevaluations]
      exact ⟨List.prefix_rfl, fun _ => hagree, fun hlt => absurd hlt (Nat.not_lt.2 hlate), hends,
        fun time htime => hreports time htime ▸ hends⟩

/-- The hypotheses of `waitFor_of_later_deadline` are satisfiable.  Over a probe that is slow at
first and one that fails for good when it is called again, a deadline of five milliseconds
is found reached at six, and so is one of six.  With seven the wait goes on at six and fails
at seven, the very deadline, and with nine it fails there too. -/
theorem waitFor_of_later_deadline_in_one_round :
    let probes := [slowProbe, failingProbe]
    let run maxWait := waitFor ⟨maxWait, 3⟩ 0 none probes
    0 < 3 ∧ effectiveMaxWait ⟨5, 3⟩ 0 ≤ effectiveMaxWait ⟨7, 3⟩ 0 ∧
      (run 5).ending = .timedOut 6 ∧ Agree (run 6) (run 5) ∧
      (run 5).history.evaluations <+: (run 7).history.evaluations ∧ 6 ≤ (run 7).endedAt ∧
      (∀ time, (run 7).ending ≠ .timedOut time) ∧ Agree (run 9) (run 7) := by
  intro probes run
  have hinterval : 0 < 3 := by decide
  have hlater : effectiveMaxWait ⟨5, 3⟩ 0 ≤ effectiveMaxWait ⟨7, 3⟩ 0 := by decide
  have htimedOut : (run 5).ending = .timedOut 6 := by decide
  have hfails : (run 7).ending = .failed (.client "gone") := by decide
  have hdecided : ∀ time, (run 7).ending ≠ .timedOut time := fun time htime =>
    Ending.noConfusion (hfails.symm.trans htime)
  obtain ⟨-, hsix⟩ := waitFor_of_later_deadline ⟨5, 3⟩ ⟨6, 3⟩ 0 0 probes hinterval rfl (by decide)
  obtain ⟨-, hseven⟩ := waitFor_of_later_deadline ⟨5, 3⟩ ⟨7, 3⟩ 0 0 probes hinterval rfl hlater
  obtain ⟨hnine, -⟩ := waitFor_of_later_deadline ⟨7, 3⟩ ⟨9, 3⟩ 0 0 probes hinterval rfl (by decide)
  obtain ⟨-, hlate, -⟩ := hsix 6 htimedOut
  obtain ⟨hbegins, -, -, hends, -⟩ := hseven 6 htimedOut
  exact ⟨hinterval, hlater, htimedOut, hlate (by decide), hbegins, hends, hdecided,
    hnine hdecided⟩

end Waiter
end ServiceReadiness
