/-
# A wait keeps to its schedule

A round whose calls are all "not ready" takes the time of its calls and leaves the wait
open (`round_append_of_quiet`), so the loop over rounds runs through the rounds that
the schedule reaches (`poll_add_of_reaches`).  It stops where the schedule is left:
at the call that decides the wait (`poll_of_decides`) or after the round that the
deadline follows (`poll_of_expires`).  For a positive interval one of the two happens
within the rounds that a wait is allowed, and the course of the wait is known.
-/

import ServiceReadiness.Proofs.Polling
import ServiceReadiness.Proofs.Schedule

namespace ServiceReadiness
namespace Waiter

/-! ### One round -/

/-- What calls of one number leave in the history, the first of them at `now`. -/
def callsHistory (call : Nat) : (index now : Nat) → List Probe → Timeline Occurrence
  | _, _, [] => []
  | index, now, p :: rest =>
    evaluationHistory now index call (p.attempt call).notes ++
      callsHistory call (index + 1) (now + (p.attempt call).duration) rest

theorem evaluations_callsHistory (call index now : Nat) (probes : List Probe) :
    (callsHistory call index now probes).evaluations =
      (List.range probes.length).map fun i =>
        (now + roundLength call (probes.take i), index + i, call) := by
  induction probes generalizing index now with
  | nil => rfl
  | cons p rest ih =>
    simp only [callsHistory, Timeline.select_append, evaluations_evaluationHistory, ih]
    rw [List.length_cons, List.range_succ_eq_map, List.map_cons, List.map_map]
    simp [Nat.add_assoc, Nat.add_comm 1]

/-- **Quiet calls pass the round on** to the probes after them. -/
theorem round_append_of_quiet {front : List Probe} {call : Nat} (h : Quiet front call)
    (index now : Nat) (rest : List Probe) :
    let later := round none call (index + front.length) (now + roundLength call front) rest
    round none call index now (front ++ rest) =
      { later with history := callsHistory call index now front ++ later.history } := by
  induction front generalizing index now with
  | nil => simp [callsHistory]
  | cons p front ih =>
    have hp : (p.attempt call).verdict = .notReady := h p (List.mem_cons_self ..)
    have hfront : Quiet front call := fun q hq => h q (List.mem_cons_of_mem _ hq)
    simp only [List.cons_append, round, cutBefore_none, hp]
    rw [ih hfront]
    simp [callsHistory, Nat.add_assoc, Nat.add_comm 1]

theorem round_of_quiet {probes : List Probe} {call : Nat} (h : Quiet probes call)
    (index now : Nat) :
    round none call index now probes =
      ⟨callsHistory call index now probes, now + roundLength call probes, none⟩ := by
  have happend := round_append_of_quiet h index now []
  rw [List.append_nil] at happend
  rw [happend]
  simp [round]

theorem round_cons_of_decisive {p : Probe} {call : Nat} (h : (p.attempt call).verdict ≠ .notReady)
    (index now : Nat) (rest : List Probe) :
    let attempt := p.attempt call
    let done := now + attempt.duration
    round none call index now (p :: rest) =
      ⟨evaluationHistory now index call attempt.notes ++ closingLine p done attempt.verdict, done,
        endingOf done attempt.verdict⟩ := by
  rcases round_cons_cases none call index now p rest with ⟨c, hc, -⟩ | ⟨-, hv, -⟩ | ⟨-, -, hround⟩
  · simp at hc
  · exact absurd hv h
  · exact hround

variable {interval deadline : Nat} {probes : List Probe}

/-- What the deciding round leaves in the history. -/
def decidedHistory (interval : Nat) (probes : List Probe) (r index : Nat) (p : Probe) :
    Timeline Occurrence :=
  let start := callStart interval probes r index
  let attempt := p.attempt r
  callsHistory r 0 (roundStart interval probes r) (probes.take index) ++
    (evaluationHistory start index r attempt.notes ++
      closingLine p (start + attempt.duration) attempt.verdict)

theorem evaluations_decidedHistory {r index : Nat} {p : Probe} (h : probes[index]? = some p) :
    (decidedHistory interval probes r index p).evaluations =
      roundCalls interval probes r (index + 1) := by
  obtain ⟨hindex, -⟩ := List.getElem?_eq_some_iff.1 h
  have hlength : (probes.take index).length = index := List.length_take_of_le (by omega)
  have hfront : (List.range index).map (fun i =>
        (roundStart interval probes r + roundLength r ((probes.take index).take i), 0 + i, r)) =
      roundCalls interval probes r index := by
    refine List.map_congr_left fun i hi => ?_
    have hlt : i < index := List.mem_range.1 hi
    rw [List.take_take, Nat.min_eq_left (Nat.le_of_lt hlt), Nat.zero_add, callStart]
  have hcalls := evaluations_callsHistory r 0 (roundStart interval probes r) (probes.take index)
  rw [hlength, hfront] at hcalls
  simp only [decidedHistory, Timeline.select_append, hcalls, evaluations_evaluationHistory,
    evaluations_closingLine]
  simp [roundCalls, List.range_succ]

/-- **A round ends at the call that decides the wait.** -/
theorem round_of_decides {r index : Nat} {p : Probe}
    (h : Decides interval deadline probes r index p) :
    let done := callStart interval probes r index + (p.attempt r).duration
    round none r 0 (roundStart interval probes r) probes =
      ⟨decidedHistory interval probes r index p, done, endingOf done (p.attempt r).verdict⟩ := by
  obtain ⟨hindex, hp⟩ := List.getElem?_eq_some_iff.1 h.probe
  have hlength : (probes.take index).length = index := List.length_take_of_le (by omega)
  have hsplit : probes.take index ++ p :: probes.drop (index + 1) = probes := by
    rw [← hp, ← List.drop_eq_getElem_cons hindex, List.take_append_drop]
  have hround := round_append_of_quiet h.quiet 0 (roundStart interval probes r)
    (p :: probes.drop (index + 1))
  rw [hsplit, hlength, Nat.zero_add] at hround
  rw [hround, round_cons_of_decisive h.decisive]
  rfl

/-! ### The loop over rounds -/

theorem after_after (first second : Timeline Occurrence) (r : WaitRun) :
    (r.after second).after first = r.after (first ++ second) := by
  simp [WaitRun.after]

/-- What full rounds leave in the history. -/
def roundsHistory (interval : Nat) (probes : List Probe) (rounds : Nat) : Timeline Occurrence :=
  (List.range rounds).flatMap fun r => callsHistory r 0 (roundStart interval probes r) probes

theorem roundsHistory_succ (rounds : Nat) :
    roundsHistory interval probes (rounds + 1) =
      roundsHistory interval probes rounds ++
        callsHistory rounds 0 (roundStart interval probes rounds) probes := by
  rw [roundsHistory, List.range_succ, List.flatMap_append]
  simp [roundsHistory]

theorem evaluations_roundsHistory (rounds : Nat) :
    (roundsHistory interval probes rounds).evaluations = fullRounds interval probes rounds := by
  induction rounds with
  | zero => rfl
  | succ rounds ih =>
    rw [roundsHistory_succ, fullRounds_succ]
    simp only [Timeline.select_append, ih, evaluations_callsHistory]
    simp [roundCalls, callStart]

/-- **A quiet round before the deadline leads to the next one.** -/
theorem poll_succ_of_quiet {r : Nat} (hquiet : Quiet probes r)
    (hopen : roundStart interval probes (r + 1) < deadline) (allowance : Nat) :
    poll interval deadline none probes (allowance + 1) r (roundStart interval probes r) =
      (poll interval deadline none probes allowance (r + 1)
        (roundStart interval probes (r + 1))).after
          (callsHistory r 0 (roundStart interval probes r) probes) := by
  rw [roundStart] at hopen
  simp only [poll, round_of_quiet hquiet, cutBefore_none, roundStart, Nat.not_le.2 hopen, if_false]

/-- **The loop runs through the rounds that the schedule reaches.** -/
theorem poll_add_of_reaches {r : Nat} (h : Reaches interval deadline probes r) (allowance : Nat) :
    poll interval deadline none probes (allowance + r) 0 0 =
      (poll interval deadline none probes allowance r (roundStart interval probes r)).after
        (roundsHistory interval probes r) := by
  induction r generalizing allowance with
  | zero => rfl
  | succ r ih =>
    obtain ⟨hquiet, hopen⟩ := h r (Nat.lt_succ_self r)
    have hbefore := ih (h.of_le (Nat.le_succ r)) (allowance + 1)
    rw [Nat.add_right_comm] at hbefore
    rw [Nat.add_succ, Nat.succ_eq_add_one, hbefore, poll_succ_of_quiet hquiet hopen, after_after,
      roundsHistory_succ]

/-- **The loop stops at the call that decides the wait.** -/
theorem poll_of_decides {r index allowance : Nat} {p : Probe} {ending : Ending}
    (h : Decides interval deadline probes r index p) (hr : r < allowance)
    (hending : endingOf (callStart interval probes r index + (p.attempt r).duration)
      (p.attempt r).verdict = some ending) :
    poll interval deadline none probes allowance 0 0 =
      ⟨roundsHistory interval probes r ++ decidedHistory interval probes r index p,
        callStart interval probes r index + (p.attempt r).duration, ending⟩ := by
  obtain ⟨k, rfl⟩ := Nat.exists_eq_add_of_lt hr
  have hreached := poll_add_of_reaches h.reaches (k + 1)
  rw [show k + 1 + r = r + k + 1 by omega] at hreached
  rw [hreached, poll, round_of_decides h]
  simp only [hending, WaitRun.after]

/-- **The loop stops after the round that the deadline follows.** -/
theorem poll_of_expires {r allowance : Nat} (h : Expires interval deadline probes r)
    (hr : r < allowance) :
    let late := roundStart interval probes (r + 1)
    poll interval deadline none probes allowance 0 0 =
      ⟨roundsHistory interval probes (r + 1) ++ [(late, .log (timeoutLine late))], late,
        .timedOut late⟩ := by
  obtain ⟨k, rfl⟩ := Nat.exists_eq_add_of_lt hr
  have hreached := poll_add_of_reaches h.reaches (k + 1)
  have hexpired := h.expired
  rw [roundStart] at hexpired
  rw [show k + 1 + r = r + k + 1 by omega] at hreached
  rw [hreached, poll, round_of_quiet h.quiet]
  simp only [cutBefore_none, hexpired, if_true, WaitRun.after, roundsHistory_succ, roundStart,
    List.append_assoc]

/-- **The loop is cut short** by a number of rounds that the schedule goes beyond. -/
theorem poll_of_reaches {allowance : Nat} (h : Reaches interval deadline probes allowance) :
    poll interval deadline none probes allowance 0 0 =
      ⟨roundsHistory interval probes allowance, roundStart interval probes allowance,
        .unfinished⟩ := by
  have hreached := poll_add_of_reaches h 0
  rw [Nat.zero_add] at hreached
  rw [hreached, poll, WaitRun.after, List.append_nil]

/-! ### The wait -/

/-- **The wait that a call decides** makes the calls up to that one and ends with it. -/
theorem waitWithin_of_decides {timing : Timing} {secs : Int} {r index allowance : Nat} {p : Probe}
    {ending : Ending}
    (h : Decides timing.retryInterval (effectiveMaxWait timing secs) probes r index p)
    (hr : r < allowance)
    (hending : endingOf (callStart timing.retryInterval probes r index + (p.attempt r).duration)
      (p.attempt r).verdict = some ending) :
    let run := waitWithin allowance timing secs none probes
    run.history.evaluations =
        fullRounds timing.retryInterval probes r ++
          roundCalls timing.retryInterval probes r (index + 1) ∧
      run.endedAt = callStart timing.retryInterval probes r index + (p.attempt r).duration ∧
      run.ending = ending := by
  have hprobes : probes ≠ [] := by
    rintro rfl
    simpa using h.probe
  have hpoll := poll_of_decides h hr hending
  refine ⟨?_, ?_, ?_⟩
  · rw [evaluations_waitWithin hprobes, hpoll]
    simp only [Timeline.select_append, evaluations_roundsHistory,
      evaluations_decidedHistory h.probe]
  · rw [waitWithin_of_ne_nil hprobes, hpoll]
  · rw [waitWithin_of_ne_nil hprobes, hpoll]

/-- **The wait that runs into its deadline** makes its rounds in full and times out. -/
theorem waitWithin_of_expires {timing : Timing} {secs : Int} {r allowance : Nat}
    (hprobes : probes ≠ [])
    (h : Expires timing.retryInterval (effectiveMaxWait timing secs) probes r)
    (hr : r < allowance) :
    let run := waitWithin allowance timing secs none probes
    run.history.evaluations = fullRounds timing.retryInterval probes (r + 1) ∧
      run.endedAt = roundStart timing.retryInterval probes (r + 1) ∧
      run.ending = .timedOut (roundStart timing.retryInterval probes (r + 1)) := by
  have hpoll := poll_of_expires h hr
  refine ⟨?_, ?_, ?_⟩
  · rw [evaluations_waitWithin hprobes, hpoll]
    simp [evaluations_roundsHistory]
  · rw [waitWithin_of_ne_nil hprobes, hpoll]
  · rw [waitWithin_of_ne_nil hprobes, hpoll]

/-- **The wait whose rounds are used up** has made them in full. -/
theorem waitWithin_of_reaches {timing : Timing} {secs : Int} {allowance : Nat}
    (hprobes : probes ≠ [])
    (h : Reaches timing.retryInterval (effectiveMaxWait timing secs) probes allowance) :
    let run := waitWithin allowance timing secs none probes
    run.history.evaluations = fullRounds timing.retryInterval probes allowance ∧
      run.endedAt = roundStart timing.retryInterval probes allowance ∧
      run.ending = .unfinished := by
  have hpoll := poll_of_reaches h
  refine ⟨?_, ?_, ?_⟩
  · rw [evaluations_waitWithin hprobes, hpoll, evaluations_roundsHistory]
  · rw [waitWithin_of_ne_nil hprobes, hpoll]
  · rw [waitWithin_of_ne_nil hprobes, hpoll]

/-- **The three ways that a wait ends:** with the call that decides it, at its deadline, or when
its rounds are used up. -/
theorem waitWithin_ending_cases (hprobes : probes ≠ []) (timing : Timing) (secs : Int)
    (allowance : Nat) :
    let interval := timing.retryInterval
    let deadline := effectiveMaxWait timing secs
    let run := waitWithin allowance timing secs none probes
    (∃ r index p, r < allowance ∧ Decides interval deadline probes r index p ∧
        endingOf (callStart interval probes r index + (p.attempt r).duration)
          (p.attempt r).verdict = some run.ending) ∨
      (∃ r, r < allowance ∧ Expires interval deadline probes r ∧
        run.ending = .timedOut (roundStart interval probes (r + 1))) ∨
      (Reaches interval deadline probes allowance ∧ run.ending = .unfinished) := by
  intro interval deadline run
  rcases decides_or_expires_or_reaches interval deadline probes allowance with
    ⟨r, hr, index, p, hdecides⟩ | ⟨r, hr, hexpires⟩ | hreaches
  · obtain ⟨ending, hending⟩ := exists_endingOf hdecides.decisive
      (callStart interval probes r index + (p.attempt r).duration)
    have hrun : run.ending = ending := (waitWithin_of_decides hdecides hr hending).2.2
    rw [hrun]
    exact Or.inl ⟨r, index, p, hr, hdecides, hending⟩
  · exact Or.inr (Or.inl ⟨r, hr, hexpires, (waitWithin_of_expires hprobes hexpires hr).2.2⟩)
  · exact Or.inr (Or.inr ⟨hreaches, (waitWithin_of_reaches hprobes hreaches).2.2⟩)

/-- **A wait that succeeds was decided by a ready probe,** at the end of its call. -/
theorem exists_decides_of_ready {timing : Timing} {secs : Int} {allowance time : Nat}
    (h : (waitWithin allowance timing secs none probes).ending = .ready time) :
    ∃ r index p, r < allowance ∧
      Decides timing.retryInterval (effectiveMaxWait timing secs) probes r index p ∧
      (p.attempt r).verdict = .ready ∧
      time = callStart timing.retryInterval probes r index + (p.attempt r).duration := by
  have hprobes : probes ≠ [] := by
    rintro rfl
    exact Ending.noConfusion h
  rcases waitWithin_ending_cases hprobes timing secs allowance with
    ⟨r, index, p, hr, hdecides, hending⟩ | ⟨r, -, -, hlate⟩ | ⟨-, hunfinished⟩
  · rw [h] at hending
    exact ⟨r, index, p, hr, hdecides, of_endingOf_eq_ready hending⟩
  · exact Ending.noConfusion (h.symm.trans hlate)
  · exact Ending.noConfusion (h.symm.trans hunfinished)

/-- **A wait fails for a cause exactly if it was decided by a probe that is fatal for it.** -/
theorem waitWithin_ending_eq_failed_iff {timing : Timing} {secs : Int} {allowance : Nat}
    {cause : ProbeError} :
    (waitWithin allowance timing secs none probes).ending = .failed cause ↔
      ∃ r index p, r < allowance ∧
        Decides timing.retryInterval (effectiveMaxWait timing secs) probes r index p ∧
        (p.attempt r).verdict = .fatal cause := by
  constructor
  · intro h
    have hprobes : probes ≠ [] := by
      rintro rfl
      exact Ending.noConfusion h
    rcases waitWithin_ending_cases hprobes timing secs allowance with
      ⟨r, index, p, hr, hdecides, hending⟩ | ⟨r, -, -, hlate⟩ | ⟨-, hunfinished⟩
    · rw [h] at hending
      exact ⟨r, index, p, hr, hdecides, endingOf_eq_failed_iff.1 hending⟩
    · exact Ending.noConfusion (h.symm.trans hlate)
    · exact Ending.noConfusion (h.symm.trans hunfinished)
  · rintro ⟨r, index, p, hr, hdecides, hfatal⟩
    exact (waitWithin_of_decides hdecides hr (endingOf_eq_failed_iff.2 hfatal)).2.2

/-- **A wait that times out has run into its deadline,** and made its rounds in full. -/
theorem exists_expires_of_timedOut {timing : Timing} {secs : Int} {allowance time : Nat}
    (h : (waitWithin allowance timing secs none probes).ending = .timedOut time) :
    ∃ r, r < allowance ∧
      Expires timing.retryInterval (effectiveMaxWait timing secs) probes r ∧
      time = roundStart timing.retryInterval probes (r + 1) := by
  have hprobes : probes ≠ [] := by
    rintro rfl
    exact Ending.noConfusion h
  rcases waitWithin_ending_cases hprobes timing secs allowance with
    ⟨r, index, p, -, -, hending⟩ | ⟨r, hr, hexpires, hlate⟩ | ⟨-, hunfinished⟩
  · rw [h] at hending
    exact (endingOf_ne_timedOut _ _ _ hending).elim
  · exact ⟨r, hr, hexpires, Ending.timedOut.inj (h.symm.trans hlate)⟩
  · exact Ending.noConfusion (h.symm.trans hunfinished)

/-- A wait that reports a time ends at that time. -/
theorem endedAt_of_reports {timing : Timing} {secs : Int} {allowance time : Nat}
    (h : (waitWithin allowance timing secs none probes).ending = .ready time ∨
      (waitWithin allowance timing secs none probes).ending = .timedOut time) :
    (waitWithin allowance timing secs none probes).endedAt = time := by
  have hprobes : probes ≠ [] := by
    rintro rfl
    exact h.elim Ending.noConfusion Ending.noConfusion
  rcases h with hready | hlate
  · obtain ⟨r, index, p, hr, hdecides, hv, rfl⟩ := exists_decides_of_ready hready
    exact (waitWithin_of_decides hdecides hr (congrArg _ hv)).2.1
  · obtain ⟨r, hr, hexpires, rfl⟩ := exists_expires_of_timedOut hlate
    exact (waitWithin_of_expires hprobes hexpires hr).2.1

/-- A round that is reached is one of those that a wait is allowed. -/
theorem Reaches.lt_allowance {timing : Timing} {secs : Int} {r : Nat}
    (hinterval : 0 < timing.retryInterval)
    (h : Reaches timing.retryInterval (effectiveMaxWait timing secs) probes r) :
    r < allowance timing secs := Nat.lt_succ_of_le (h.le_deadline hinterval)

/-- A wait with a positive interval does not use its rounds up. -/
theorem waitFor_ending_ne_unfinished {timing : Timing} (hinterval : 0 < timing.retryInterval)
    (secs : Int) (probes : List Probe) :
    (waitFor timing secs none probes).ending ≠ .unfinished := by
  by_cases hprobes : probes = []
  · subst hprobes
    exact Ending.noConfusion
  · intro hunfinished
    rw [waitFor] at hunfinished
    rcases waitWithin_ending_cases hprobes timing secs (allowance timing secs) with
      ⟨r, index, p, -, -, hending⟩ | ⟨r, -, -, hlate⟩ | ⟨hreaches, -⟩
    · rw [hunfinished] at hending
      exact endingOf_ne_unfinished _ _ hending
    · exact Ending.noConfusion (hunfinished.symm.trans hlate)
    · exact Nat.lt_irrefl _ (hreaches.lt_allowance hinterval)

/-- **A wait is its schedule, cut off where the schedule is left.**  On the schedule each
call begins when the one before it ends, and rounds are `interval` apart.  With a
positive interval the schedule is left either at a call or at the deadline.  At a call,
the wait has made the rounds before it and the calls of its round up to it, and ends when
that call ends and with what it says; at the deadline, it has made all rounds in full and
ends with the time that the clock shows.  A first round that no call ends is made in
full, whatever the deadline. -/
theorem waitFor_roundRobin (timing : Timing) (secs : Int) (probes : List Probe)
    (hinterval : 0 < timing.retryInterval) (hprobes : probes ≠ []) :
    let interval := timing.retryInterval
    let deadline := if 0 < secs then secs.toNat * 1000 else timing.defaultMaxWait
    let run := waitFor timing secs none probes
    (callStart interval probes 0 0 = 0 ∧
        (∀ r index p, probes[index]? = some p →
          callStart interval probes r (index + 1) =
            callStart interval probes r index + (p.attempt r).duration) ∧
        ∀ r, callStart interval probes (r + 1) 0 =
          callStart interval probes r probes.length + interval) ∧
      ((∃ r index p, Decides interval deadline probes r index p) ∨
        ∃ r, Expires interval deadline probes r) ∧
      (∀ r index p, Decides interval deadline probes r index p →
        run.history.evaluations =
            fullRounds interval probes r ++ roundCalls interval probes r (index + 1) ∧
          run.endedAt = callStart interval probes r index + (p.attempt r).duration ∧
          ((p.attempt r).verdict = .ready → run.ending = .ready run.endedAt) ∧
          (∀ cause, (p.attempt r).verdict = .fatal cause →
            run.ending = .failed cause ∧ run.ending.error? = some (.probe cause)) ∧
          ∀ text, (p.attempt r).verdict = .panic text → run.ending = .panicked text) ∧
      (∀ r, Expires interval deadline probes r →
        run.history.evaluations = fullRounds interval probes (r + 1) ∧
          run.endedAt = roundStart interval probes (r + 1) ∧
          run.ending = .timedOut run.endedAt ∧
          run.ending.error? =
            some (.timeout "No checker finished successfully" (Duration.ofMillis run.endedAt))) ∧
      (Quiet probes 0 → fullRounds interval probes 1 <+: run.history.evaluations) := by
  intro interval deadline run
  refine ⟨⟨callStart_zero 0, fun r index p hp => callStart_succ hp, fun r => ?next⟩,
    decides_or_expires hinterval deadline probes, ?decided, ?expired, ?first⟩
  case next => rw [callStart_zero, roundStart_succ]
  case decided =>
    intro r index p h
    obtain ⟨ending, hending⟩ := exists_endingOf h.decisive
      (callStart interval probes r index + (p.attempt r).duration)
    obtain ⟨hcalls, hended, hrun⟩ :
        run.history.evaluations = _ ∧ run.endedAt = _ ∧ run.ending = ending :=
      waitWithin_of_decides h (h.reaches.lt_allowance hinterval) hending
    refine ⟨hcalls, hended, fun hv => ?_, fun cause hv => ?_, fun text hv => ?_⟩
    · rw [hv] at hending
      rw [hended]
      exact hrun.trans (Option.some.inj hending).symm
    · rw [hv] at hending
      have hfailed : run.ending = .failed cause := hrun.trans (Option.some.inj hending).symm
      exact ⟨hfailed, by rw [hfailed]; rfl⟩
    · rw [hv] at hending
      exact hrun.trans (Option.some.inj hending).symm
  case expired =>
    intro r h
    obtain ⟨hcalls, hended, hending⟩ :
        run.history.evaluations = _ ∧ run.endedAt = _ ∧ run.ending = _ :=
      waitWithin_of_expires hprobes h (h.reaches.lt_allowance hinterval)
    have hrun : run.ending = .timedOut run.endedAt := hending.trans (congrArg _ hended.symm)
    exact ⟨hcalls, hended, hrun, by rw [hrun]; rfl⟩
  case first =>
    intro hquiet
    rcases decides_or_expires hinterval deadline probes with ⟨r, index, p, h⟩ | ⟨r, h⟩
    · obtain ⟨ending, hending⟩ := exists_endingOf h.decisive
        (callStart interval probes r index + (p.attempt r).duration)
      have hr : r ≠ 0 := by
        rintro rfl
        exact h.decisive (hquiet p (List.mem_of_getElem? h.probe))
      have hcalls : run.history.evaluations = _ :=
        (waitWithin_of_decides h (h.reaches.lt_allowance hinterval) hending).1
      rw [hcalls]
      exact (fullRounds_isPrefix_of_le (Nat.one_le_iff_ne_zero.2 hr)).trans (List.prefix_append _ _)
    · have hcalls : run.history.evaluations = _ :=
        (waitWithin_of_expires hprobes h (h.reaches.lt_allowance hinterval)).1
      rw [hcalls]
      exact fullRounds_isPrefix_of_le (Nat.succ_le_succ (Nat.zero_le r))

/-- A probe that is slow at first and never ready. -/
def slowProbe : Probe where
  name := "slow"
  attempt := scripted ⟨0, .notReady, []⟩ [⟨2, .notReady, []⟩, ⟨0, .notReady, []⟩]

/-- A probe that fails for good when it is called again. -/
def failingProbe : Probe where
  name := "failing"
  attempt := scripted ⟨0, .notReady, []⟩ [⟨1, .notReady, []⟩, ⟨1, .fatal (.client "gone"), []⟩]

/-- The hypotheses of `waitFor_roundRobin` are satisfiable, and the deadline does not cut
a round short: of two probes the second fails at the very deadline, in a round that
began before it. -/
theorem waitFor_roundRobin_fails_at_deadline :
    0 < ({ defaultMaxWait := 7, retryInterval := 3 } : Timing).retryInterval ∧
      [slowProbe, failingProbe] ≠ [] ∧
      (waitFor ⟨7, 3⟩ (-2) none [slowProbe, failingProbe]).history.evaluations =
        [(0, 0, 0), (2, 1, 0), (6, 0, 1), (6, 1, 1)] ∧
      (waitFor ⟨7, 3⟩ (-2) none [slowProbe, failingProbe]).endedAt = 7 ∧
      (waitFor ⟨7, 3⟩ (-2) none [slowProbe, failingProbe]).ending.error? =
        some (.probe (.client "gone")) := by
  have hinterval : 0 < ({ defaultMaxWait := 7, retryInterval := 3 } : Timing).retryInterval := by
    decide
  have hprobes : [slowProbe, failingProbe] ≠ [] := List.cons_ne_nil _ _
  have hdecides : Decides 3 7 [slowProbe, failingProbe] 1 1 failingProbe := by
    refine ⟨fun q hq => ?_, rfl, fun p hp => ?_, by decide⟩
    · obtain rfl := Nat.lt_one_iff.1 hq
      refine ⟨fun p hp => ?_, by decide⟩
      simp only [List.mem_cons, List.not_mem_nil, or_false] at hp
      rcases hp with rfl | rfl <;> decide
    · obtain rfl := List.mem_singleton.1 hp
      decide
  obtain ⟨-, -, hdecided, -, -⟩ := waitFor_roundRobin ⟨7, 3⟩ (-2) _ hinterval hprobes
  obtain ⟨hcalls, hended, -, hfatal, -⟩ := hdecided 1 1 failingProbe hdecides
  exact ⟨hinterval, hprobes, hcalls.trans (by decide), hended.trans (by decide),
    (hfatal (.client "gone") (by decide)).2⟩

end Waiter
end ServiceReadiness
