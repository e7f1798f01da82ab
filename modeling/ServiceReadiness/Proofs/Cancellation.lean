/-
# Cutting a wait off

A cut that comes when the wait has ended changes nothing, and a cut that comes before
ends the wait at that moment (`poll_cut`).  The end of a cut wait is therefore the
earlier of its own end and the cut, and it is cancelled exactly when the cut is the
earlier of the two.
-/

import ServiceReadiness.Proofs.Polling

namespace ServiceReadiness
namespace Waiter

theorem cutBefore_eq_none_of_le {c finish : Nat} (h : finish ≤ c) :
    cutBefore (some c) finish = none := by
  rw [cutBefore_some, if_neg (Nat.not_lt.2 h)]

theorem cutBefore_eq_some_of_lt {c finish : Nat} (h : c < finish) :
    cutBefore (some c) finish = some c := by
  rw [cutBefore_some, if_pos h]

/-- A round ends no sooner than it begins. -/
theorem le_round_endedAt (call index now : Nat) (probes : List Probe) :
    now ≤ (round none call index now probes).endedAt := by
  induction probes generalizing index now with
  | nil => exact Nat.le_refl now
  | cons p rest ih =>
    rcases round_cons_cases none call index now p rest with ⟨c, hc, -⟩ | ⟨-, -, h⟩ | ⟨-, -, h⟩
    · simp at hc
    · rw [h]
      exact Nat.le_trans (Nat.le_add_right _ _) (ih (index + 1) _)
    · rw [h]
      exact Nat.le_add_right _ _

/-- A round ends no sooner than its first call. -/
theorem le_round_cons_endedAt (call index now : Nat) (p : Probe) (rest : List Probe) :
    now + (p.attempt call).duration ≤ (round none call index now (p :: rest)).endedAt := by
  rcases round_cons_cases none call index now p rest with ⟨c, hc, -⟩ | ⟨-, -, h⟩ | ⟨-, -, h⟩
  · simp at hc
  · rw [h]
    exact le_round_endedAt call (index + 1) _ rest
  · exact Nat.le_of_eq (congrArg Round.endedAt h).symm

/-- If the rest of the loop ends no sooner than it begins, the loop ends no sooner than its
first round, and no sooner than the pause after it if the round leaves the wait open. -/
theorem le_poll_succ_endedAt {interval deadline allowance : Nat} {probes : List Probe}
    (hrest : ∀ call now, now ≤ (poll interval deadline none probes allowance call now).endedAt)
    (call now : Nat) :
    let r := round none call 0 now probes
    let run := poll interval deadline none probes (allowance + 1) call now
    r.endedAt ≤ run.endedAt ∧ (r.ending = none → r.endedAt + interval ≤ run.endedAt) := by
  have hpause : (round none call 0 now probes).endedAt ≤
      (round none call 0 now probes).endedAt + interval := Nat.le_add_right _ _
  rcases poll_succ_cases interval deadline none probes allowance call now with
    ⟨ending, hending, h⟩ | ⟨-, c, hc, -⟩ | ⟨-, -, -, h⟩ | ⟨-, -, -, h⟩
  · rw [h]
    exact ⟨Nat.le_refl _, fun hnone => absurd (hending.symm.trans hnone) (by simp)⟩
  · simp at hc
  · rw [h]
    exact ⟨hpause, fun _ => Nat.le_refl _⟩
  · rw [h]
    have hnext := hrest (call + 1) ((round none call 0 now probes).endedAt + interval)
    exact ⟨Nat.le_trans hpause hnext, fun _ => hnext⟩

/-- The loop ends no sooner than it begins. -/
theorem le_poll_endedAt (interval deadline : Nat) (probes : List Probe)
    (allowance call now : Nat) :
    now ≤ (poll interval deadline none probes allowance call now).endedAt := by
  induction allowance generalizing call now with
  | zero => exact Nat.le_refl now
  | succ allowance ih =>
    exact Nat.le_trans (le_round_endedAt call 0 now probes) (le_poll_succ_endedAt ih call now).1

/-- **A cut ends a round at once, if it comes in time,** and else is not noticed. -/
theorem round_cut {c now : Nat} (hnow : now ≤ c) (call index : Nat) (probes : List Probe) :
    let whole := round none call index now probes
    let cut := round (some c) call index now probes
    (whole.endedAt ≤ c → cut = whole) ∧
      (c < whole.endedAt → cut.endedAt = c ∧ cut.ending = some .cancelled) := by
  induction probes generalizing index now with
  | nil => exact ⟨fun _ => rfl, fun h => absurd h (Nat.not_lt.2 hnow)⟩
  | cons p rest ih =>
    dsimp only
    rcases Nat.lt_or_ge c (now + (p.attempt call).duration) with hlt | hge
    · have hlater := le_round_cons_endedAt call index now p rest
      rcases round_cons_cases (some c) call index now p rest with
        ⟨d, hd, hcut⟩ | ⟨hd, -⟩ | ⟨hd, -⟩
      · obtain rfl : c = d := Option.some.inj ((cutBefore_eq_some_of_lt hlt).symm.trans hd)
        rw [hcut]
        exact ⟨fun h => absurd hlt (Nat.not_lt.2 (Nat.le_trans hlater h)), fun _ => ⟨rfl, rfl⟩⟩
      · simp [cutBefore_eq_some_of_lt hlt] at hd
      · simp [cutBefore_eq_some_of_lt hlt] at hd
    · -- The call ends before the cut, so both rounds take the same of its outcomes.
      have hopen := cutBefore_eq_none_of_le hge
      rcases round_cons_cases none call index now p rest with
        ⟨d, hd, -⟩ | ⟨-, hv, hwhole⟩ | ⟨-, hv, hwhole⟩
      · simp at hd
      · rcases round_cons_cases (some c) call index now p rest with
          ⟨d, hd, -⟩ | ⟨-, -, hcut⟩ | ⟨-, hw, -⟩
        · simp [hopen] at hd
        · obtain ⟨hafter, hbefore⟩ := ih hge (index + 1)
          rw [hwhole, hcut]
          exact ⟨fun h => congrArg (Round.after _) (hafter h), hbefore⟩
        · exact absurd hv hw
      · rcases round_cons_cases (some c) call index now p rest with
          ⟨d, hd, -⟩ | ⟨-, hw, -⟩ | ⟨-, -, hcut⟩
        · simp [hopen] at hd
        · exact absurd hw hv
        · rw [hwhole, hcut]
          exact ⟨fun _ => rfl, fun h => absurd h (Nat.not_lt.2 hge)⟩

/-- **A cut ends a wait at once, if it comes in time,** and else is not noticed. -/
theorem poll_cut {c now : Nat} (hnow : now ≤ c) (interval deadline : Nat) (probes : List Probe)
    (allowance call : Nat) :
    let whole := poll interval deadline none probes allowance call now
    let cut := poll interval deadline (some c) probes allowance call now
    (whole.endedAt ≤ c → cut = whole) ∧
      (c < whole.endedAt → cut.endedAt = c ∧ cut.ending = .cancelled) := by
  induction allowance generalizing call now with
  | zero => exact ⟨fun _ => rfl, fun h => absurd h (Nat.not_lt.2 hnow)⟩
  | succ allowance ih =>
    obtain ⟨hafter, hbefore⟩ := round_cut hnow call 0 probes
    obtain ⟨hround, hnext⟩ := le_poll_succ_endedAt
      (le_poll_endedAt interval deadline probes allowance) call now
    dsimp only
    rcases Nat.lt_or_ge c (round none call 0 now probes).endedAt with hlt | hge
    · -- The cut falls into the round.
      obtain ⟨hended, hending⟩ := hbefore hlt
      have hcut : poll interval deadline (some c) probes (allowance + 1) call now =
          ⟨(round (some c) call 0 now probes).history, c, .cancelled⟩ := by
        simp only [poll, hending, hended]
      rw [hcut]
      exact ⟨fun h => absurd (Nat.le_trans hround h) (Nat.not_le.2 hlt), fun _ => ⟨rfl, rfl⟩⟩
    · have hsame := hafter hge
      cases hending : (round none call 0 now probes).ending with
      | some ending =>
        have hcut : poll interval deadline (some c) probes (allowance + 1) call now =
            poll interval deadline none probes (allowance + 1) call now := by
          simp only [poll, hsame, hending]
        have hwhole : (poll interval deadline none probes (allowance + 1) call now).endedAt =
            (round none call 0 now probes).endedAt := by simp only [poll, hending]
        exact ⟨fun _ => hcut, fun h => absurd hge (Nat.not_le.2 (hwhole ▸ h))⟩
      | none =>
        rcases Nat.lt_or_ge c ((round none call 0 now probes).endedAt + interval) with hlt | hle
        · -- The cut falls into the pause.
          have hcut : poll interval deadline (some c) probes (allowance + 1) call now =
              ⟨(round none call 0 now probes).history, c, .cancelled⟩ := by
            simp only [poll, hsame, hending, cutBefore_eq_some_of_lt hlt]
          rw [hcut]
          exact ⟨fun h => absurd (Nat.le_trans (hnext hending) h) (Nat.not_le.2 hlt),
            fun _ => ⟨rfl, rfl⟩⟩
        · rcases Nat.lt_or_ge ((round none call 0 now probes).endedAt + interval) deadline with
            hopen | hlate
          · obtain ⟨hafter', hbefore'⟩ := ih hle (call + 1)
            simp only [poll, hsame, hending, cutBefore_none, cutBefore_eq_none_of_le hle,
              Nat.not_le.2 hopen, if_false]
            exact ⟨fun h => congrArg (WaitRun.after _) (hafter' h), hbefore'⟩
          · simp only [poll, hsame, hending, cutBefore_none, cutBefore_eq_none_of_le hle, hlate,
              if_true]
            exact ⟨fun _ => trivial, fun h => absurd hle (Nat.not_le.2 h)⟩

/-- The same for a wait with its opening line and its releases. -/
theorem waitWithin_cut (allowance : Nat) (timing : Timing) (secs : Int) (c : Nat)
    (probes : List Probe) :
    let whole := waitWithin allowance timing secs none probes
    let cut := waitWithin allowance timing secs (some c) probes
    (whole.endedAt ≤ c → cut = whole) ∧
      (c < whole.endedAt → cut.endedAt = c ∧ cut.ending = .cancelled) := by
  by_cases hprobes : probes = []
  · subst hprobes
    exact ⟨fun _ => rfl, fun h => absurd h (Nat.not_lt_zero c)⟩
  · obtain ⟨hafter, hbefore⟩ := poll_cut (Nat.zero_le c) timing.retryInterval
      (effectiveMaxWait timing secs) probes allowance 0
    rw [waitWithin_of_ne_nil hprobes, waitWithin_of_ne_nil hprobes]
    exact ⟨fun h => by rw [hafter h], hbefore⟩

/-- A round that nothing cuts off is not cancelled. -/
theorem round_ending_ne_cancelled (call index now : Nat) (probes : List Probe) :
    (round none call index now probes).ending ≠ some .cancelled := by
  induction probes generalizing index now with
  | nil => exact (Option.some_ne_none _).symm
  | cons p rest ih =>
    rcases round_cons_cases none call index now p rest with ⟨c, hc, -⟩ | ⟨-, -, h⟩ | ⟨-, -, h⟩
    · simp at hc
    · rw [h]
      exact ih (index + 1) _
    · rw [h]
      cases (p.attempt call).verdict <;> simp [endingOf]

/-- A wait that nothing cuts off is not cancelled. -/
theorem poll_ending_ne_cancelled (interval deadline : Nat) (probes : List Probe)
    (allowance call now : Nat) :
    (poll interval deadline none probes allowance call now).ending ≠ .cancelled := by
  induction allowance generalizing call now with
  | zero => exact Ending.noConfusion
  | succ allowance ih =>
    rcases poll_succ_cases interval deadline none probes allowance call now with
      ⟨ending, hending, h⟩ | ⟨-, c, hc, -⟩ | ⟨-, -, -, h⟩ | ⟨-, -, -, h⟩
    · rw [h]
      rintro rfl
      exact round_ending_ne_cancelled call 0 now probes hending
    · simp at hc
    · rw [h]
      exact Ending.noConfusion
    · rw [h]
      exact ih (call + 1) _

theorem waitWithin_ending_ne_cancelled (allowance : Nat) (timing : Timing) (secs : Int)
    (probes : List Probe) :
    (waitWithin allowance timing secs none probes).ending ≠ .cancelled := by
  by_cases hprobes : probes = []
  · subst hprobes
    exact Ending.noConfusion
  · rw [waitWithin_of_ne_nil hprobes]
    exact poll_ending_ne_cancelled _ _ probes allowance 0 0

end Waiter
end ServiceReadiness
