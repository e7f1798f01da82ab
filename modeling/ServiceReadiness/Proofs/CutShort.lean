/-
# A wait that is cut short

A cancellation that finds a wait running takes away what would have come after it and adds
nothing.  That the calls are those of the wait that is left alone, up to that moment, is
`evaluations_waitWithin_cut`, and that every probe is released then is `calls_waitWithin`.
What is missing is the log.  A wait has two lines of its own that tell an outcome, one for a
success and one for a timeout, and no other end of it is logged: a round that finds no probe
ready logs what its calls note and nothing else (`lines_round`), and so does a loop that
neither succeeds nor times out (`lines_poll`).  In particular a cancelled wait logs no
outcome, wherever the cancellation falls.

The lines that a call notes are cut off with it, and the lines of a call that has ended are
not, so the log of a cancelled wait can be told from its calls (`noted`).
-/

import ServiceReadiness.Proofs.Chronology

namespace ServiceReadiness
namespace Waiter

variable {cut : Option Nat} {probes : List Probe}

/-! ### The lines of the calls -/

/-- The lines that a call notes, or those up to the cut that falls into it. -/
def callNotes (cut : Option Nat) (probes : List Probe) (call : Nat × Nat × Nat) :
    Timeline LogLine :=
  match probes[call.2.1]? with
  | none => []
  | some p =>
    let attempt := p.attempt call.2.2
    let notes := attempt.notes.shift call.1
    match cutBefore cut (call.1 + attempt.duration) with
    | none => notes
    | some c => notes.upTo c

/-- The lines that calls note, one call after the other. -/
def noted (cut : Option Nat) (probes : List Probe) (calls : Timeline (Nat × Nat)) :
    Timeline LogLine := calls.flatMap (callNotes cut probes)

@[simp]
theorem noted_nil : noted cut probes [] = [] := rfl

@[simp]
theorem noted_cons (call : Nat × Nat × Nat) (calls : Timeline (Nat × Nat)) :
    noted cut probes (call :: calls) = callNotes cut probes call ++ noted cut probes calls := rfl

@[simp]
theorem noted_append (calls later : Timeline (Nat × Nat)) :
    noted cut probes (calls ++ later) = noted cut probes calls ++ noted cut probes later :=
  List.flatMap_append

theorem callNotes_of_cut {index call now c : Nat} {p : Probe} (hp : probes[index]? = some p)
    (hcut : cutBefore cut (now + (p.attempt call).duration) = some c) :
    callNotes cut probes (now, index, call) = ((p.attempt call).notes.shift now).upTo c := by
  simp only [callNotes, hp, hcut]

theorem callNotes_of_open {index call now : Nat} {p : Probe} (hp : probes[index]? = some p)
    (hopen : cutBefore cut (now + (p.attempt call).duration) = none) :
    callNotes cut probes (now, index, call) = (p.attempt call).notes.shift now := by
  simp only [callNotes, hp, hopen]

/-- Only a call that is ready is reported. -/
theorem closingLine_eq_nil (p : Probe) {time : Nat} {v : Verdict}
    (h : endingOf time v ≠ some (.ready time)) : closingLine p time v = [] := by
  cases v with
  | ready => exact absurd rfl h
  | notReady | fatal cause | panic text => rfl

/-- **A round that finds no probe ready logs what its calls note.**  It begins before the cut
with the probes from `index` on. -/
theorem lines_round {call index now : Nat} {rest : List Probe} (hrest : probes.drop index = rest)
    (hnow : ∀ c, cut = some c → now ≤ c)
    (hquiet : ∀ time, (round cut call index now rest).ending ≠ some (.ready time)) :
    (round cut call index now rest).history.lines =
      noted cut probes (round cut call index now rest).history.evaluations := by
  induction rest generalizing index now with
  | nil => rfl
  | cons p rest ih =>
    have hp : probes[index]? = some p := by
      rw [← List.head?_drop, hrest]
      rfl
    have hdrop : probes.drop (index + 1) = rest := by
      rw [← List.tail_drop, hrest]
      rfl
    rcases round_cons_cases cut call index now p rest with
      ⟨c, hcut, h⟩ | ⟨hopen, hv, h⟩ | ⟨hopen, hv, h⟩
    · have hbegun : Timeline.upTo c [(now, index, call)] = [(now, index, call)] :=
        List.filter_cons_of_pos (decide_eq_true (hnow c (cutBefore_eq_some.1 hcut).1))
      rw [evaluations_round_cons_of_cut hcut, hbegun, h, Timeline.lines, Timeline.select_upTo,
        noted_cons, noted_nil, List.append_nil, callNotes_of_cut hp hcut]
      exact congrArg _ (lines_evaluationHistory ..)
    · rw [h] at hquiet
      have hlater := ih hdrop (cutBefore_eq_none.1 hopen) hquiet
      rw [evaluations_round_cons_of_open hopen, if_pos hv, noted_cons, callNotes_of_open hp hopen,
        ← hlater, h, Round.after, Timeline.lines, Timeline.select_append]
      exact congrArg (· ++ _) (lines_evaluationHistory ..)
    · rw [h] at hquiet
      have hsilent := closingLine_eq_nil p (hquiet (now + (p.attempt call).duration))
      rw [evaluations_round_cons_of_open hopen, if_neg hv, noted_cons, noted_nil, List.append_nil,
        callNotes_of_open hp hopen, h, hsilent, List.append_nil]
      exact lines_evaluationHistory ..

/-- **A loop that neither succeeds nor times out logs what its calls note.** -/
theorem lines_poll {interval deadline allowance call now : Nat}
    (hnow : ∀ c, cut = some c → now ≤ c)
    (hquiet : ∀ time, (poll interval deadline cut probes allowance call now).ending ≠ .ready time ∧
      (poll interval deadline cut probes allowance call now).ending ≠ .timedOut time) :
    (poll interval deadline cut probes allowance call now).history.lines =
      noted cut probes
        (poll interval deadline cut probes allowance call now).history.evaluations := by
  induction allowance generalizing call now with
  | zero => rfl
  | succ allowance ih =>
    have hround : (∀ time, (round cut call 0 now probes).ending ≠ some (.ready time)) →
        (round cut call 0 now probes).history.lines =
          noted cut probes (round cut call 0 now probes).history.evaluations :=
      lines_round List.drop_zero hnow
    rcases poll_succ_cases interval deadline cut probes allowance call now with
      ⟨ending, hending, h⟩ | ⟨hopen, c, -, h⟩ | ⟨-, -, -, h⟩ | ⟨hopen, hcut, -, h⟩
    · rw [h] at hquiet ⊢
      refine hround fun time htime => (hquiet time).1 ?_
      exact Option.some.inj (hending.symm.trans htime)
    · rw [h]
      exact hround fun time htime => Option.some_ne_none _ (htime.symm.trans hopen)
    · rw [h] at hquiet
      exact absurd rfl (hquiet _).2
    · rw [h] at hquiet ⊢
      have hfirst := hround fun time htime => Option.some_ne_none _ (htime.symm.trans hopen)
      have hlater := ih (cutBefore_eq_none.1 hcut) hquiet
      simp only [WaitRun.after, Timeline.select_append, noted_append, hfirst, hlater]

/-! ### The wait -/

/-- **What a wait logs that neither succeeds nor times out:** its opening line, what its calls
note, and the releases that fail. -/
theorem lines_waitWithin (hprobes : probes ≠ []) {allowance : Nat} {timing : Timing} {secs : Int}
    (hquiet : ∀ time, (waitWithin allowance timing secs cut probes).ending ≠ .ready time ∧
      (waitWithin allowance timing secs cut probes).ending ≠ .timedOut time) :
    let run := waitWithin allowance timing secs cut probes
    run.history.lines =
      (0, openingLine (effectiveMaxWait timing secs) probes.length) ::
        noted cut probes run.history.evaluations ++
          probes.filterMap fun p => p.releaseError.map fun e =>
            (run.endedAt, releaseLine p.name e) := by
  intro run
  have hrun : run = _ := waitWithin_of_ne_nil hprobes allowance timing secs cut
  have hpolled := lines_poll (fun c _ => Nat.zero_le c)
    (by rwa [waitWithin_of_ne_nil hprobes] at hquiet)
  rw [show run.history.evaluations = _ from evaluations_waitWithin hprobes .., ← hpolled,
    ← lines_releases run.endedAt 0 probes, hrun]
  simp

/-- **A cancellation only cuts a wait short.**  Let a wait be cancelled at `c`, with any number of
rounds, any deadline and any probes.  If it has ended by then, everything goes as if it had
not been cancelled.  Otherwise it ends at `c` and without a result.  What it calls is what it
would have called up to then, and so before `c` if no call begins at that very moment; then
every probe is released, in order and at `c`.  Its log holds the opening line, what those
calls have noted by then, and a warning for each release that fails: neither a success nor a
timeout nor any other outcome. -/
theorem waitWithin_cut_short (allowance : Nat) (timing : Timing) (secs : Int) (c : Nat)
    (probes : List Probe) :
    let whole := waitWithin allowance timing secs none probes
    let cut := waitWithin allowance timing secs (some c) probes
    (whole.endedAt ≤ c → cut = whole) ∧
      (c < whole.endedAt →
        cut.ending = .cancelled ∧ cut.ending.error? = none ∧ cut.endedAt = c ∧
          cut.history.calls = (whole.history.evaluations.upTo c).asEvaluations ++
            (List.range probes.length).map (fun index => (c, .release index)) ∧
          ((∀ e ∈ whole.history.evaluations, e.1 ≠ c) →
            cut.history.evaluations = whole.history.evaluations.filter (·.1 < c)) ∧
          cut.history.lines =
            (0, openingLine (effectiveMaxWait timing secs) probes.length) ::
              noted (some c) probes cut.history.evaluations ++
                probes.filterMap fun p => p.releaseError.map fun e =>
                  (c, releaseLine p.name e)) := by
  intro whole cut
  obtain ⟨hafter, hbefore⟩ := waitWithin_cut allowance timing secs c probes
  refine ⟨hafter, fun hc => ?_⟩
  obtain ⟨hended, hcancelled⟩ : cut.endedAt = c ∧ cut.ending = .cancelled := hbefore hc
  have hprobes : probes ≠ [] := by
    rintro rfl
    exact Nat.not_lt_zero c hc
  have hevaluations : cut.history.evaluations = whole.history.evaluations.upTo c := by
    rw [← hended]
    exact evaluations_waitWithin_cut ..
  have hcalls : cut.history.calls = cut.history.evaluations.asEvaluations ++
      (List.range probes.length).map fun index => (cut.endedAt, .release index) :=
    calls_waitWithin ..
  have hlines : cut.history.lines = _ := lines_waitWithin hprobes fun time =>
    ⟨fun h => Ending.noConfusion (hcancelled.symm.trans h),
      fun h => Ending.noConfusion (hcancelled.symm.trans h)⟩
  refine ⟨hcancelled, by rw [hcancelled]; rfl, hended, ?_, fun hdistinct => ?_, ?_⟩
  · rw [hcalls, hevaluations, hended]
  · rw [hevaluations]
    refine List.filter_congr fun e he => decide_eq_decide.2 ?_
    exact ⟨fun hle => Nat.lt_of_le_of_ne hle (hdistinct e he), Nat.le_of_lt⟩
  · rw [hlines, show (waitWithin allowance timing secs (some c) probes).endedAt = c from hended]

/-- A probe that takes its time and says so. -/
def talkativeProbe : Probe where
  name := "talkative"
  attempt _ :=
    ⟨4, .notReady, [(1, ⟨.trace, .tcpProbe, "trying"⟩), (3, ⟨.trace, .tcpProbe, "not yet"⟩)]⟩

/-- The conditions of `waitWithin_cut_short` can be met.  A wait that would time out after two
rounds is cancelled during a call of the first: that call has noted one of its two lines, both
probes are released, one of them in vain, and no timeout is logged.  A cancellation after
the end is not noticed. -/
theorem waitWithin_cut_short_in_second_call :
    let whole := waitWithin 4 ⟨20, 10⟩ 0 none [stuckProbe, talkativeProbe]
    let cut c := waitWithin 4 ⟨20, 10⟩ 0 (some c) [stuckProbe, talkativeProbe]
    whole.endedAt = 38 ∧ (∀ e ∈ whole.history.evaluations, e.1 ≠ 7) ∧
      (cut 7).ending = .cancelled ∧
      (cut 7).history.evaluations = [(0, 0, 0), (5, 1, 0)] ∧
      (cut 7).history.calls =
        [(0, .evaluation 0 0), (5, .evaluation 1 0), (7, .release 0), (7, .release 1)] ∧
      (cut 7).history.lines =
        [(0, openingLine 20 2), (6, ⟨.trace, .tcpProbe, "trying"⟩),
          (7, releaseLine "stuck" (.client "release failed"))] ∧
      cut 40 = whole := by
  intro whole cut
  have hended : whole.endedAt = 38 := by decide
  have hdistinct : ∀ e ∈ whole.history.evaluations, e.1 ≠ 7 := by decide
  obtain ⟨-, hbefore⟩ := waitWithin_cut_short 4 ⟨20, 10⟩ 0 7 [stuckProbe, talkativeProbe]
  obtain ⟨hafter, -⟩ := waitWithin_cut_short 4 ⟨20, 10⟩ 0 40 [stuckProbe, talkativeProbe]
  have hrunning : 7 < whole.endedAt := by
    rw [hended]
    decide
  have hover : whole.endedAt ≤ 40 := by
    rw [hended]
    decide
  obtain ⟨hcancelled, -, -, hcalls, hevaluations, hlines⟩ := hbefore hrunning
  have hfirst : (cut 7).history.evaluations = [(0, 0, 0), (5, 1, 0)] :=
    (hevaluations hdistinct).trans (by decide)
  rw [hfirst] at hlines
  exact ⟨hended, hdistinct, hcancelled, hfirst, hcalls.trans (by decide), hlines, hafter hover⟩

end Waiter
end ServiceReadiness
