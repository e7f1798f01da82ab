/-
# Every probe is released once

However a wait ends, the rounds before its end release nothing (`releases_poll`), and
what comes at the end is one release for each probe, in input order, with one warning
for each that fails.  So every probe is released exactly once, also one that was never
called, and nothing is called after the first release.

A round never looks at what a release would answer (`round_map_withSafeRelease`).  So
two waits over probes that differ in their releases alone end in the same way, at the
same time and after the same calls.
-/

import ServiceReadiness.Proofs.Cancellation

namespace ServiceReadiness

/-- The same probe with a release that does not fail. -/
def Probe.withSafeRelease (p : Probe) : Probe := { p with releaseError := none }

namespace Waiter

/-! ### Rounds release nothing -/

theorem releases_round (cut : Option Nat) (call index now : Nat) (probes : List Probe) :
    (round cut call index now probes).history.releases = [] := by
  induction probes generalizing index now with
  | nil => rfl
  | cons p rest ih =>
    rcases round_cons_cases cut call index now p rest with ⟨c, -, h⟩ | ⟨-, -, h⟩ | ⟨-, -, h⟩
    · rw [h]
      simp only [Timeline.select_upTo, releases_evaluationHistory]
      rfl
    · rw [h, Round.after]
      simp only [Timeline.select_append, releases_evaluationHistory, ih, List.nil_append]
    · rw [h]
      simp only [Timeline.select_append, releases_evaluationHistory, releases_closingLine,
        List.nil_append]

/-- **The loop over rounds releases nothing,** whether it is cut or not. -/
theorem releases_poll (interval deadline : Nat) (cut : Option Nat) (probes : List Probe)
    (allowance call now : Nat) :
    (poll interval deadline cut probes allowance call now).history.releases = [] := by
  induction allowance generalizing call now with
  | zero => rfl
  | succ allowance ih =>
    have hround := releases_round cut call 0 now probes
    rcases poll_succ_cases interval deadline cut probes allowance call now with
      ⟨ending, -, h⟩ | ⟨-, c, -, h⟩ | ⟨-, -, -, h⟩ | ⟨-, -, -, h⟩
    · rw [h]
      exact hround
    · rw [h]
      exact hround
    · rw [h]
      simp only [Timeline.select_append, hround]
      rfl
    · rw [h, WaitRun.after]
      simp only [Timeline.select_append, hround, ih, List.nil_append]

/-! ### Rounds do not look at releases -/

theorem round_map_withSafeRelease (cut : Option Nat) (call index now : Nat) (probes : List Probe) :
    round cut call index now (probes.map Probe.withSafeRelease) =
      round cut call index now probes := by
  induction probes generalizing index now with
  | nil => rfl
  | cons p rest ih =>
    rw [List.map_cons, round, round, ih]
    rfl

theorem poll_map_withSafeRelease (interval deadline : Nat) (cut : Option Nat) (probes : List Probe)
    (allowance call now : Nat) :
    poll interval deadline cut (probes.map Probe.withSafeRelease) allowance call now =
      poll interval deadline cut probes allowance call now := by
  induction allowance generalizing call now with
  | zero => rfl
  | succ allowance ih => simp only [poll, round_map_withSafeRelease, ih]

/-- **What the releases answer decides nothing:** waits over probes that differ in that
alone take the same course until the releases. -/
theorem poll_congr_of_map_withSafeRelease {probes others : List Probe}
    (h : others.map Probe.withSafeRelease = probes.map Probe.withSafeRelease)
    (interval deadline : Nat) (cut : Option Nat) (allowance call now : Nat) :
    poll interval deadline cut others allowance call now =
      poll interval deadline cut probes allowance call now := by
  rw [← poll_map_withSafeRelease interval deadline cut others, h, poll_map_withSafeRelease]

/-! ### The wait -/

/-- The releases of a wait are those at its end. -/
theorem releases_waitWithin (allowance : Nat) (timing : Timing) (secs : Int) (cut : Option Nat)
    (probes : List Probe) :
    let run := waitWithin allowance timing secs cut probes
    run.history.releases = (List.range probes.length).map fun index => (run.endedAt, index) := by
  by_cases hprobes : probes = []
  · subst hprobes
    rfl
  · rw [waitWithin_of_ne_nil hprobes]
    simp [releases_poll, releases_releases]

/-- **Every probe is released exactly once, however a wait ends.**  For any probes, any
number of rounds and any cut, each probe is released once, in input order and at the end
of the wait, also one that was never called.  Nothing is called after the first release,
and each release that fails is warned of once.  A cut that finds the wait running ends it
at that moment.  The releases that fail change neither how and when the wait ends nor
what it calls. -/
theorem waitWithin_releases_each_once (allowance : Nat) (timing : Timing) (secs : Int)
    (cut : Option Nat) (probes : List Probe) :
    let run := waitWithin allowance timing secs cut probes
    run.history.releases = (List.range probes.length).map (fun index => (run.endedAt, index)) ∧
      (∃ before after, run.history = before ++ after ∧
        before.releases = [] ∧ after.evaluations = [] ∧
        after.lines = probes.filterMap fun p => p.releaseError.map fun cause =>
          (run.endedAt, ⟨.warn, .waiter,
            "Failed to release probe " ++ p.name ++ ": " ++ cause.message⟩)) ∧
      (∀ c, cut = some c → c < (waitWithin allowance timing secs none probes).endedAt →
        run.endedAt = c ∧ run.ending = .cancelled) ∧
      ∀ others, others.map Probe.withSafeRelease = probes.map Probe.withSafeRelease →
        let other := waitWithin allowance timing secs cut others
        other.ending = run.ending ∧ other.endedAt = run.endedAt ∧
          other.history.evaluations = run.history.evaluations := by
  intro run
  refine ⟨releases_waitWithin .., ?parts, ?dropped, ?others⟩
  case parts =>
    by_cases hprobes : probes = []
    · subst hprobes
      exact ⟨[], [], rfl, rfl, rfl, rfl⟩
    · have hrun : run = _ := waitWithin_of_ne_nil hprobes allowance timing secs cut
      refine ⟨_, releases run.endedAt 0 probes, by rw [hrun], ?_, evaluations_releases ..,
        lines_releases ..⟩
      simp [releases_poll]
  case dropped =>
    rintro c rfl hc
    exact (waitWithin_cut allowance timing secs c probes).2 hc
  case others =>
    intro others hothers other
    by_cases hprobes : probes = []
    · subst hprobes
      obtain rfl : others = [] := List.map_eq_nil_iff.1 hothers
      exact ⟨rfl, rfl, rfl⟩
    · have hne : others ≠ [] := by
        rintro rfl
        exact hprobes (List.map_eq_nil_iff.1 hothers.symm)
      have hpoll := poll_congr_of_map_withSafeRelease hothers timing.retryInterval
        (effectiveMaxWait timing secs) cut allowance 0 0
      have hrun : run = _ := waitWithin_of_ne_nil hprobes allowance timing secs cut
      have hother : other = _ := waitWithin_of_ne_nil hne allowance timing secs cut
      refine ⟨by rw [hrun, hother, hpoll], by rw [hrun, hother, hpoll], ?_⟩
      rw [evaluations_waitWithin hprobes, evaluations_waitWithin hne, hpoll]

/-- A probe that takes its time, is never ready and cannot be released. -/
def stuckProbe : Probe where
  name := "stuck"
  attempt _ := { duration := 5, verdict := .notReady }
  releaseError := some (.client "release failed")

/-- The conditions of `waitWithin_releases_each_once` can be met: a wait that is dropped
during its first call releases both of its probes, the second of which was never called,
and goes the same way if the first can be released. -/
theorem waitWithin_releases_each_once_in_first_call :
    3 < (waitWithin 4 ⟨20, 10⟩ 0 none [stuckProbe, stuckProbe]).endedAt ∧
      [stuckProbe.withSafeRelease, stuckProbe].map Probe.withSafeRelease =
        [stuckProbe, stuckProbe].map Probe.withSafeRelease ∧
      (waitWithin 4 ⟨20, 10⟩ 0 (some 3) [stuckProbe, stuckProbe]).history.releases =
        [(3, 0), (3, 1)] ∧
      (waitWithin 4 ⟨20, 10⟩ 0 (some 3) [stuckProbe, stuckProbe]).ending = .cancelled ∧
      (waitWithin 4 ⟨20, 10⟩ 0 (some 3) [stuckProbe.withSafeRelease, stuckProbe]).ending =
        .cancelled := by
  have hlong : 3 < (waitWithin 4 ⟨20, 10⟩ 0 none [stuckProbe, stuckProbe]).endedAt := by decide
  have hsame : [stuckProbe.withSafeRelease, stuckProbe].map Probe.withSafeRelease =
      [stuckProbe, stuckProbe].map Probe.withSafeRelease := rfl
  obtain ⟨hreleases, -, hdropped, hothers⟩ :=
    waitWithin_releases_each_once 4 ⟨20, 10⟩ 0 (some 3) [stuckProbe, stuckProbe]
  obtain ⟨hended, hending⟩ := hdropped 3 rfl hlong
  rw [hended] at hreleases
  exact ⟨hlong, hsame, hreleases, hending, (hothers _ hsame).1.trans hending⟩

end Waiter
end ServiceReadiness
