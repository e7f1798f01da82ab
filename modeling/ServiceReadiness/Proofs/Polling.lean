/-
# What one call and one round can do

A call of a round has three outcomes: it is cut off, it is "not ready" and passes the
round on to the probes after it, or it ends the wait (`round_cons_cases`).  A round of
the loop has four: it ends the wait, the pause after it is cut off, the look at the
clock finds the deadline reached, or the loop goes on with the next round
(`poll_succ_cases`).  What is kept by these steps is kept by a whole wait.
-/

import ServiceReadiness.Proofs.History

namespace ServiceReadiness
namespace Waiter

/-- The end that a call gives the wait when it ends at `time`, if it gives one. -/
def endingOf (time : Nat) : Verdict → Option Ending
  | .notReady => none
  | .ready => some (.ready time)
  | .fatal cause => some (.failed cause)
  | .panic text => some (.panicked text)

theorem exists_endingOf {v : Verdict} (h : v ≠ .notReady) (time : Nat) :
    ∃ ending, endingOf time v = some ending := by
  cases v with
  | notReady => exact absurd rfl h
  | ready => exact ⟨_, rfl⟩
  | fatal cause => exact ⟨_, rfl⟩
  | panic text => exact ⟨_, rfl⟩

/-- A wait is ready at the time at which the ready call ends. -/
theorem of_endingOf_eq_ready {time t : Nat} {v : Verdict}
    (h : endingOf time v = some (.ready t)) : v = .ready ∧ t = time := by
  cases v <;> simp [endingOf] at h
  exact ⟨rfl, h.symm⟩

/-- A wait fails for the cause for which the call that ends it is fatal. -/
theorem endingOf_eq_failed_iff {time : Nat} {v : Verdict} {cause : ProbeError} :
    endingOf time v = some (.failed cause) ↔ v = .fatal cause := by
  cases v <;> simp [endingOf]

/-- No call makes a wait time out. -/
theorem endingOf_ne_timedOut (time t : Nat) (v : Verdict) :
    endingOf time v ≠ some (.timedOut t) := by
  cases v <;> simp [endingOf]

/-- A call that ends a wait leaves no rounds to be used up. -/
theorem endingOf_ne_unfinished (time : Nat) (v : Verdict) :
    endingOf time v ≠ some .unfinished := by
  cases v <;> simp [endingOf]

/-- The line that is logged when a call of a probe ends at `time`, if there is one. -/
def closingLine (p : Probe) (time : Nat) : Verdict → Timeline Occurrence
  | .ready => [(time, .log (readyLine p.name time))]
  | _ => []

@[simp]
theorem evaluations_closingLine (p : Probe) (time : Nat) (v : Verdict) :
    (closingLine p time v).evaluations = [] := by cases v <;> rfl

@[simp]
theorem releases_closingLine (p : Probe) (time : Nat) (v : Verdict) :
    (closingLine p time v).releases = [] := by cases v <;> rfl

/-- A round with something before it. -/
def Round.after (earlier : Timeline Occurrence) (r : Round) : Round :=
  { r with history := earlier ++ r.history }

/-- **The three outcomes of a call.** -/
theorem round_cons_cases (cut : Option Nat) (call index now : Nat) (p : Probe)
    (rest : List Probe) :
    let attempt := p.attempt call
    let done := now + attempt.duration
    let begun := evaluationHistory now index call attempt.notes
    (∃ c, cutBefore cut done = some c ∧
        round cut call index now (p :: rest) = ⟨begun.upTo c, c, some .cancelled⟩) ∨
      (cutBefore cut done = none ∧ attempt.verdict = .notReady ∧
        round cut call index now (p :: rest) =
          (round cut call (index + 1) done rest).after begun) ∨
      (cutBefore cut done = none ∧ attempt.verdict ≠ .notReady ∧
        round cut call index now (p :: rest) =
          ⟨begun ++ closingLine p done attempt.verdict, done, endingOf done attempt.verdict⟩) := by
  dsimp only
  cases hcut : cutBefore cut (now + (p.attempt call).duration) with
  | some c => exact Or.inl ⟨c, rfl, by simp only [round, hcut]⟩
  | none =>
    right
    cases hv : (p.attempt call).verdict with
    | notReady => exact Or.inl ⟨rfl, rfl, by simp only [round, hcut, hv]; rfl⟩
    | ready => exact Or.inr ⟨rfl, Verdict.noConfusion, by simp only [round, hcut, hv]; rfl⟩
    | fatal cause =>
      refine Or.inr ⟨rfl, Verdict.noConfusion, ?_⟩
      simp only [round, hcut, hv, closingLine, endingOf, List.append_nil]
    | panic text =>
      refine Or.inr ⟨rfl, Verdict.noConfusion, ?_⟩
      simp only [round, hcut, hv, closingLine, endingOf, List.append_nil]

/-- **The four outcomes of a round.** -/
theorem poll_succ_cases (interval deadline : Nat) (cut : Option Nat) (probes : List Probe)
    (allowance call now : Nat) :
    let r := round cut call 0 now probes
    let next := r.endedAt + interval
    let run := poll interval deadline cut probes (allowance + 1) call now
    (∃ ending, r.ending = some ending ∧ run = ⟨r.history, r.endedAt, ending⟩) ∨
      (r.ending = none ∧ ∃ c, cutBefore cut next = some c ∧ run = ⟨r.history, c, .cancelled⟩) ∨
      (r.ending = none ∧ cutBefore cut next = none ∧ deadline ≤ next ∧
        run = ⟨r.history ++ [(next, .log (timeoutLine next))], next, .timedOut next⟩) ∨
      (r.ending = none ∧ cutBefore cut next = none ∧ next < deadline ∧
        run = (poll interval deadline cut probes allowance (call + 1) next).after r.history) := by
  dsimp only
  cases hending : (round cut call 0 now probes).ending with
  | some ending => exact Or.inl ⟨ending, rfl, by simp only [poll, hending]⟩
  | none =>
    right
    cases hcut : cutBefore cut ((round cut call 0 now probes).endedAt + interval) with
    | some c => exact Or.inl ⟨rfl, c, rfl, by simp only [poll, hending, hcut]⟩
    | none =>
      right
      rcases Nat.lt_or_ge ((round cut call 0 now probes).endedAt + interval) deadline with hlt | hge
      · refine Or.inr ⟨rfl, rfl, hlt, ?_⟩
        simp only [poll, hending, hcut, Nat.not_le.2 hlt, if_false]
      · refine Or.inl ⟨rfl, rfl, hge, ?_⟩
        simp only [poll, hending, hcut, hge, if_true]

/-! ### The calls of a round and of the loop -/

section

variable {cut : Option Nat} {interval deadline call index now : Nat} {probes rest : List Probe}
  {p : Probe}

/-- A call that is cut off is the last one of its round. -/
theorem evaluations_round_cons_of_cut {c : Nat}
    (hcut : cutBefore cut (now + (p.attempt call).duration) = some c) :
    (round cut call index now (p :: rest)).history.evaluations =
      Timeline.upTo c [(now, index, call)] := by
  rcases round_cons_cases cut call index now p rest with ⟨d, hd, h⟩ | ⟨hopen, -⟩ | ⟨hopen, -⟩
  · obtain rfl : c = d := Option.some.inj (hcut.symm.trans hd)
    simp only [h, Timeline.select_upTo, evaluations_evaluationHistory]
  · simp [hcut] at hopen
  · simp [hcut] at hopen

/-- A call that is not cut off is followed by the rest of its round if it is not ready. -/
theorem evaluations_round_cons_of_open
    (hopen : cutBefore cut (now + (p.attempt call).duration) = none) :
    (round cut call index now (p :: rest)).history.evaluations =
      (now, index, call) :: if (p.attempt call).verdict = .notReady then
        (round cut call (index + 1) (now + (p.attempt call).duration) rest).history.evaluations
      else [] := by
  rcases round_cons_cases cut call index now p rest with ⟨c, hc, -⟩ | ⟨-, hv, h⟩ | ⟨-, hv, h⟩
  · simp [hopen] at hc
  · simp only [h, Round.after, Timeline.select_append, evaluations_evaluationHistory, if_pos hv]
    rfl
  · simp only [h, Timeline.select_append, evaluations_evaluationHistory, evaluations_closingLine,
      if_neg hv]
    rfl

/-- The first round of the loop is followed by the others if it leaves the wait open and the
pause after it ends before a cut and before the deadline. -/
theorem evaluations_poll_succ (interval deadline : Nat) (cut : Option Nat) (probes : List Probe)
    (allowance call now : Nat) :
    let r := round cut call 0 now probes
    let next := r.endedAt + interval
    (poll interval deadline cut probes (allowance + 1) call now).history.evaluations =
      r.history.evaluations ++
        if r.ending = none ∧ cutBefore cut next = none ∧ next < deadline then
          (poll interval deadline cut probes allowance (call + 1) next).history.evaluations
        else [] := by
  dsimp only
  rcases poll_succ_cases interval deadline cut probes allowance call now with
    ⟨ending, hending, h⟩ | ⟨-, c, hc, h⟩ | ⟨-, -, hlate, h⟩ | ⟨hopen, hcut, hearly, h⟩
  · rw [h, if_neg fun hgo => by simp [hending] at hgo, List.append_nil]
  · rw [h, if_neg fun hgo => by simp [hc] at hgo, List.append_nil]
  · rw [h, if_neg fun hgo => Nat.not_lt.2 hlate hgo.2.2]
    exact Timeline.select_append ..
  · rw [h, if_pos ⟨hopen, hcut, hearly⟩]
    exact Timeline.select_append ..

/-- The calls of a round have its number, they begin with the probe that it begins with, and
the one call of that probe begins when the round does. -/
theorem of_mem_evaluations_round {time i k : Nat}
    (h : (time, i, k) ∈ (round cut call index now probes).history.evaluations) :
    k = call ∧ index ≤ i ∧ (i = index → time = now) := by
  induction probes generalizing index now with
  | nil => exact absurd h List.not_mem_nil
  | cons p rest ih =>
    have hfirst : (time, i, k) = (now, index, call) →
        k = call ∧ index ≤ i ∧ (i = index → time = now) := by
      intro heq
      obtain ⟨rfl, rfl, rfl⟩ : time = now ∧ i = index ∧ k = call := by simpa using heq
      exact ⟨rfl, Nat.le_refl _, fun _ => rfl⟩
    cases hcut : cutBefore cut (now + (p.attempt call).duration) with
    | some c =>
      rw [evaluations_round_cons_of_cut hcut] at h
      exact hfirst (List.mem_singleton.1 (List.mem_filter.1 h).1)
    | none =>
      rw [evaluations_round_cons_of_open hcut] at h
      rcases List.mem_cons.1 h with heq | hmem
      · exact hfirst heq
      · split at hmem
        · obtain ⟨hcall, hlater, -⟩ := ih hmem
          exact ⟨hcall, Nat.le_of_succ_le hlater, fun heq => absurd heq (Nat.ne_of_gt hlater)⟩
        · exact absurd hmem List.not_mem_nil

/-- A call of the loop is one of its first round, or one of the rounds after it if the look at
the clock lets the loop go on. -/
theorem mem_evaluations_poll_succ {allowance : Nat} {e : Nat × Nat × Nat}
    (h : e ∈ (poll interval deadline cut probes (allowance + 1) call now).history.evaluations) :
    let r := round cut call 0 now probes
    let next := r.endedAt + interval
    e ∈ r.history.evaluations ∨ (next < deadline ∧
      e ∈ (poll interval deadline cut probes allowance (call + 1) next).history.evaluations) := by
  rw [evaluations_poll_succ] at h
  refine (List.mem_append.1 h).imp_right fun hmem => ?_
  split at hmem
  · rename_i hgo
    exact ⟨hgo.2.2, hmem⟩
  · exact absurd hmem List.not_mem_nil

/-- The calls of a loop are numbered by its rounds. -/
theorem of_mem_evaluations_poll {allowance time i k : Nat}
    (h : (time, i, k) ∈
      (poll interval deadline cut probes allowance call now).history.evaluations) :
    call ≤ k ∧ k < call + allowance := by
  induction allowance generalizing call now with
  | zero => exact absurd h List.not_mem_nil
  | succ allowance ih =>
    rcases mem_evaluations_poll_succ h with hmem | ⟨-, hmem⟩
    · obtain ⟨rfl, -, -⟩ := of_mem_evaluations_round hmem
      omega
    · have hlater := ih hmem
      omega

end

/-- The calls of a wait are those of its rounds. -/
theorem evaluations_waitWithin {probes : List Probe} (h : probes ≠ []) (allowance : Nat)
    (timing : Timing) (secs : Int) (cut : Option Nat) :
    (waitWithin allowance timing secs cut probes).history.evaluations =
      (poll timing.retryInterval (effectiveMaxWait timing secs) cut probes allowance 0
        0).history.evaluations := by
  rw [waitWithin_of_ne_nil h]
  simp [evaluations_releases]

end Waiter
end ServiceReadiness
