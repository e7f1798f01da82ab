/-
# The calls of a wait in order of time

A wait calls its probes in order of time, from its start to its end (`spans_poll`), and
then releases them.  A cut takes away the calls after it and no others: the calls of a
wait that is cut off are those that the wait makes up to then when it is left alone
(`evaluations_waitWithin_cut`).

The lines that a call notes may bear any time, so the order is that of the calls and
releases, not of the whole history.
-/

import ServiceReadiness.Proofs.Release

namespace ServiceReadiness

namespace Timeline

variable {α β : Type} {start middle finish limit : Nat} {s t : Timeline α}

/-- The happenings are in order of time. -/
def Ordered (t : Timeline α) : Prop := t.Pairwise fun a b => a.1 ≤ b.1

/-- The happenings are in order of time, none of them before `start` and none after
`finish`. -/
structure Spans (start finish : Nat) (t : Timeline α) : Prop where
  le : start ≤ finish
  ordered : t.Ordered
  within : ∀ e ∈ t, start ≤ e.1 ∧ e.1 ≤ finish

theorem Spans.nil (h : start ≤ finish) : Spans start finish ([] : Timeline α) :=
  ⟨h, List.Pairwise.nil, fun _ he => absurd he List.not_mem_nil⟩

theorem Spans.singleton (hstart : start ≤ middle) (hfinish : middle ≤ finish) (x : α) :
    Spans start finish [(middle, x)] := by
  refine ⟨Nat.le_trans hstart hfinish, List.pairwise_singleton _ _, fun e he => ?_⟩
  obtain rfl := List.mem_singleton.1 he
  exact ⟨hstart, hfinish⟩

/-- What happens all at one moment takes no time. -/
theorem Spans.constant (time : Nat) (f : β → α) (xs : List β) :
    Spans time time (xs.map fun x => (time, f x)) := by
  refine ⟨Nat.le_refl time, List.pairwise_map.2 (List.pairwise_of_forall fun _ _ => Nat.le_refl _),
    fun e he => ?_⟩
  obtain ⟨x, -, rfl⟩ := List.mem_map.1 he
  exact ⟨Nat.le_refl time, Nat.le_refl time⟩

/-- **One stretch of time after another.** -/
theorem Spans.append (hs : Spans start middle s) (ht : Spans middle finish t) :
    Spans start finish (s ++ t) := by
  refine ⟨Nat.le_trans hs.le ht.le, List.pairwise_append.2 ⟨hs.ordered, ht.ordered,
    fun a ha b hb => Nat.le_trans (hs.within a ha).2 (ht.within b hb).1⟩, fun e he => ?_⟩
  rcases List.mem_append.1 he with hmem | hmem
  · exact ⟨(hs.within e hmem).1, Nat.le_trans (hs.within e hmem).2 ht.le⟩
  · exact ⟨Nat.le_trans hs.le (ht.within e hmem).1, (ht.within e hmem).2⟩

theorem Spans.extend (hs : Spans start middle s) (h : middle ≤ finish) : Spans start finish s := by
  have happend := hs.append (Spans.nil (α := α) h)
  rwa [List.append_nil] at happend

theorem Spans.relabel (h : Spans start finish t) (f : α → β) :
    Spans start finish (t.relabel f) := by
  refine ⟨h.le, List.pairwise_map.2 h.ordered, fun e he => ?_⟩
  obtain ⟨e', he', rfl⟩ := List.mem_map.1 he
  exact h.within e' he'

theorem Spans.shift (h : Spans start finish t) (offset : Nat) :
    Spans (offset + start) (offset + finish) (t.shift offset) := by
  refine ⟨Nat.add_le_add_left h.le _, List.pairwise_map.2 (h.ordered.imp fun hle =>
    Nat.add_le_add_left hle _), fun e he => ?_⟩
  obtain ⟨e', he', rfl⟩ := List.mem_map.1 he
  exact ⟨Nat.add_le_add_left (h.within e' he').1 _, Nat.add_le_add_left (h.within e' he').2 _⟩

/-- A cut puts the end at its own time. -/
theorem Spans.upTo (h : Spans start finish t) (hlimit : start ≤ limit) :
    Spans start limit (t.upTo limit) := by
  refine ⟨hlimit, h.ordered.filter _, fun e he => ?_⟩
  obtain ⟨hmem, hle⟩ := List.mem_filter.1 he
  exact ⟨(h.within e hmem).1, of_decide_eq_true hle⟩

/-- A cut after the end takes nothing away. -/
theorem Spans.upTo_of_le (h : Spans start finish t) (hlimit : finish ≤ limit) :
    t.upTo limit = t :=
  List.filter_eq_self.2 fun e he => decide_eq_true (Nat.le_trans (h.within e he).2 hlimit)

/-- A cut before the start takes everything away. -/
theorem Spans.upTo_of_lt (h : Spans start finish t) (hlimit : limit < start) :
    t.upTo limit = [] :=
  List.filter_eq_nil_iff.2 fun e he => by
    have hstart := (h.within e he).1
    simp only [decide_eq_true_eq]
    omega

@[simp]
theorem upTo_append (limit : Nat) (s t : Timeline α) :
    (s ++ t).upTo limit = s.upTo limit ++ t.upTo limit := List.filter_append ..

/-- The earlier of two cuts is the one that counts. -/
theorem upTo_upTo (t : Timeline α) {earlier later : Nat} (h : earlier ≤ later) :
    (t.upTo later).upTo earlier = t.upTo earlier := by
  rw [upTo, upTo, List.filter_filter]
  refine List.filter_congr fun e _ => ?_
  rw [Bool.and_eq_left_iff_imp]
  intro he
  exact decide_eq_true (Nat.le_trans (of_decide_eq_true he) h)

/-- **What is seen up to a moment and from then on is what is seen in all,** if it comes in
order of time. -/
theorem Ordered.upTo_append_after (h : t.Ordered) (hle : middle ≤ limit) :
    t.upTo middle ++ (t.after middle).upTo limit = t.upTo limit := by
  induction t with
  | nil => rfl
  | cons e t ih =>
    obtain ⟨hfirst, hrest⟩ := List.pairwise_cons.1 h
    rcases Nat.lt_or_ge middle e.1 with hlt | hge
    · have hlater : ∀ e' ∈ e :: t, middle < e'.1 := by
        intro e' he'
        rcases List.mem_cons.1 he' with rfl | hmem
        · exact hlt
        · exact Nat.lt_of_lt_of_le hlt (hfirst e' hmem)
      have hearly : upTo middle (e :: t) = [] := List.filter_eq_nil_iff.2 fun e' he' => by
        simpa using hlater e' he'
      have hlate : after middle (e :: t) = e :: t := List.filter_eq_self.2 fun e' he' =>
        decide_eq_true (hlater e' he')
      rw [hearly, hlate, List.nil_append]
    · have hearly : upTo middle (e :: t) = e :: upTo middle t :=
        List.filter_cons_of_pos (decide_eq_true hge)
      have hlate : after middle (e :: t) = after middle t :=
        List.filter_cons_of_neg (by simpa using hge)
      have hall : upTo limit (e :: t) = e :: upTo limit t :=
        List.filter_cons_of_pos (decide_eq_true (Nat.le_trans hge hle))
      rw [hearly, hlate, hall, List.cons_append, ih hrest]

end Timeline

namespace Waiter

open Timeline (Spans)

/-! ### Rounds and loops that are left alone -/

/-- A round makes its calls in order of time. -/
theorem spans_round (call index now : Nat) (probes : List Probe) :
    let r := round none call index now probes
    Spans now r.endedAt r.history.evaluations := by
  induction probes generalizing index now with
  | nil => exact .nil (Nat.le_refl now)
  | cons p rest ih =>
    have hfirst : Spans now (now + (p.attempt call).duration) [(now, index, call)] :=
      .singleton (Nat.le_refl now) (Nat.le_add_right _ _) _
    dsimp only
    rcases round_cons_cases none call index now p rest with ⟨c, hc, -⟩ | ⟨-, -, h⟩ | ⟨-, -, h⟩
    · simp at hc
    · simp only [h, Round.after, Timeline.select_append, evaluations_evaluationHistory]
      exact hfirst.append (ih (index + 1) _)
    · simp only [h, Timeline.select_append, evaluations_evaluationHistory,
        evaluations_closingLine, List.append_nil]
      exact hfirst

/-- **A loop makes its calls in order of time.** -/
theorem spans_poll (interval deadline : Nat) (probes : List Probe) (allowance call now : Nat) :
    let run := poll interval deadline none probes allowance call now
    Spans now run.endedAt run.history.evaluations := by
  induction allowance generalizing call now with
  | zero => exact .nil (Nat.le_refl now)
  | succ allowance ih =>
    have hround := spans_round call 0 now probes
    have hpaused := hround.extend (Nat.le_add_right _ interval)
    dsimp only
    rcases poll_succ_cases interval deadline none probes allowance call now with
      ⟨ending, -, h⟩ | ⟨-, c, hc, -⟩ | ⟨-, -, -, h⟩ | ⟨-, -, -, h⟩
    · rw [h]
      exact hround
    · simp at hc
    · simp only [h, Timeline.select_append]
      exact hpaused.append (.nil (Nat.le_refl _))
    · simp only [h, WaitRun.after, Timeline.select_append]
      exact hpaused.append (ih (call + 1) _)

/-! ### Rounds and loops that are cut off -/

/-- **The calls of a round that is cut off** are those that it makes up to then. -/
theorem evaluations_round_cut {c now : Nat} (hnow : now ≤ c) (call index : Nat)
    (probes : List Probe) :
    (round (some c) call index now probes).history.evaluations =
      (round none call index now probes).history.evaluations.upTo c := by
  induction probes generalizing index now with
  | nil => rfl
  | cons p rest ih =>
    have hfirst : ∀ t : Timeline (Nat × Nat),
        Timeline.upTo c ((now, index, call) :: t) = (now, index, call) :: t.upTo c := fun _ =>
      List.filter_cons_of_pos (decide_eq_true hnow)
    rw [evaluations_round_cons_of_open (cutBefore_none _), hfirst]
    rcases Nat.lt_or_ge c (now + (p.attempt call).duration) with hlt | hge
    · -- The cut falls into this call, and the calls after it would begin later.
      have hlater := (spans_round call (index + 1) (now + (p.attempt call).duration)
        rest).upTo_of_lt hlt
      rw [evaluations_round_cons_of_cut (cutBefore_eq_some_of_lt hlt), hfirst]
      split
      · rw [hlater]
        rfl
      · rfl
    · rw [evaluations_round_cons_of_open (cutBefore_eq_none_of_le hge)]
      split
      · rw [ih hge]
      · rfl

/-- **The calls of a loop that is cut off** are those that it makes up to then. -/
theorem evaluations_poll_cut {c now : Nat} (hnow : now ≤ c) (interval deadline : Nat)
    (probes : List Probe) (allowance call : Nat) :
    (poll interval deadline (some c) probes allowance call now).history.evaluations =
      (poll interval deadline none probes allowance call now).history.evaluations.upTo c := by
  induction allowance generalizing call now with
  | zero => rfl
  | succ allowance ih =>
    obtain ⟨hafter, hbefore⟩ := round_cut hnow call 0 probes
    rw [evaluations_poll_succ, evaluations_poll_succ, Timeline.upTo_append,
      evaluations_round_cut hnow]
    congr 1
    rcases Nat.lt_or_ge c ((round none call 0 now probes).endedAt + interval) with hlt | hge
    · -- The cut falls into the round or into the pause, and the next round would begin later.
      have hlater := (spans_poll interval deadline probes allowance (call + 1) _).upTo_of_lt hlt
      have hcut : ¬ ((round (some c) call 0 now probes).ending = none ∧
          cutBefore (some c) ((round (some c) call 0 now probes).endedAt + interval) = none ∧
          (round (some c) call 0 now probes).endedAt + interval < deadline) := by
        rintro ⟨hopen, hpaused, -⟩
        rcases Nat.lt_or_ge c (round none call 0 now probes).endedAt with hround | hround
        · simp [(hbefore hround).2] at hopen
        · simp [hafter hround, cutBefore_eq_some_of_lt hlt] at hpaused
      rw [if_neg hcut]
      split
      · exact hlater.symm
      · rfl
    · rw [hafter (by omega), cutBefore_eq_none_of_le hge, cutBefore_none]
      split
      · exact ih hge (call + 1)
      · rfl

/-! ### The wait -/

variable (allowance : Nat) (timing : Timing) (secs : Int) (cut : Option Nat) (probes : List Probe)

/-- A wait ends at the earlier of its own end and the cut. -/
theorem waitWithin_endedAt_cut :
    let own := (waitWithin allowance timing secs none probes).endedAt
    (waitWithin allowance timing secs cut probes).endedAt = cut.elim own (min own) := by
  cases cut with
  | none => rfl
  | some c =>
    obtain ⟨hafter, hbefore⟩ := waitWithin_cut allowance timing secs c probes
    dsimp only [Option.elim]
    rcases Nat.lt_or_ge c (waitWithin allowance timing secs none probes).endedAt with hlt | hge
    · rw [(hbefore hlt).1]
      omega
    · rw [hafter hge]
      omega

/-- A wait makes its calls in order of time, before its end. -/
theorem spans_evaluations_waitWithin :
    let run := waitWithin allowance timing secs none probes
    Spans 0 run.endedAt run.history.evaluations := by
  by_cases hprobes : probes = []
  · subst hprobes
    exact .nil (Nat.le_refl 0)
  · dsimp only
    rw [evaluations_waitWithin hprobes, waitWithin_of_ne_nil hprobes]
    exact spans_poll _ _ probes allowance 0 0

/-- The calls of a wait that may be cut off are those up to its end that it makes when it is
left alone. -/
theorem evaluations_waitWithin_cut :
    (waitWithin allowance timing secs cut probes).history.evaluations =
      (waitWithin allowance timing secs none probes).history.evaluations.upTo
        (waitWithin allowance timing secs cut probes).endedAt := by
  have hspans := spans_evaluations_waitWithin allowance timing secs probes
  cases cut with
  | none => exact (hspans.upTo_of_le (Nat.le_refl _)).symm
  | some c =>
    obtain ⟨hafter, hbefore⟩ := waitWithin_cut allowance timing secs c probes
    rcases Nat.lt_or_ge c (waitWithin allowance timing secs none probes).endedAt with hlt | hge
    · rw [(hbefore hlt).1]
      by_cases hprobes : probes = []
      · subst hprobes
        rfl
      · rw [evaluations_waitWithin hprobes, evaluations_waitWithin hprobes]
        exact evaluations_poll_cut (Nat.zero_le c) _ _ probes allowance 0
    · rw [hafter hge]
      exact (hspans.upTo_of_le (Nat.le_refl _)).symm

/-- **What a wait calls and releases:** the calls up to its end, and then one release for
each probe. -/
theorem calls_waitWithin :
    let run := waitWithin allowance timing secs cut probes
    run.history.calls = run.history.evaluations.asEvaluations ++
      (List.range probes.length).map fun index => (run.endedAt, .release index) := by
  by_cases hprobes : probes = []
  · subst hprobes
    rfl
  · intro run
    have hpolled := Timeline.calls_of_releases_eq_nil
      (releases_poll timing.retryInterval (effectiveMaxWait timing secs) cut probes allowance 0 0)
    have hreleased : (releases run.endedAt 0 probes).calls =
        (List.range probes.length).map fun index => (run.endedAt, .release index) := by
      rw [Timeline.calls_of_evaluations_eq_nil (evaluations_releases ..), releases_releases]
      simp [Timeline.relabel]
    rw [evaluations_waitWithin hprobes, ← hpolled, ← hreleased]
    simp [run, waitWithin_of_ne_nil hprobes]

/-- **A wait calls and releases in order of time,** from its start to its end. -/
theorem spans_calls_waitWithin :
    let run := waitWithin allowance timing secs cut probes
    Spans 0 run.endedAt run.history.calls := by
  intro run
  have hwhole := spans_evaluations_waitWithin allowance timing secs probes
  have hreleases : Spans run.endedAt run.endedAt
      ((List.range probes.length).map fun index => (run.endedAt, Occurrence.release index)) :=
    .constant _ _ _
  rw [calls_waitWithin, evaluations_waitWithin_cut]
  exact ((hwhole.upTo (Nat.zero_le _)).relabel _).append hreleases

end Waiter
end ServiceReadiness
