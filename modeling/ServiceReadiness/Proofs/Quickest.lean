/-
# A wait is as quick as the quickest of its probes

A wait on several probes that answer at once is compared with the waits on each of them
alone.  Calls that take no time leave the clock to the pauses, so all these waits begin
their rounds at the same times.  Round by round, the schedule of the list goes on exactly
as long as the schedules of all its members do (`Instant.reaches_iff_forall_mem`), and the
deadline ends it where it ends every one of them (`Instant.expires_iff_forall_mem`): that an
earlier probe of a round is ready, so that the later ones are not called, only ever matters
in the last round.

So the wait on the list is ready at the least of the times at which the waits on its members
are (`ready_iff_isLeast`), and times out only when all of them do (`timedOut_iff_forall_mem`).
Both sides of these equivalences only depend on which probes there are.
-/

import Mathlib.Order.Bounds.Basic
import ServiceReadiness.Proofs.RoundRobin

namespace ServiceReadiness
namespace Waiter

variable {interval deadline : Nat} {probes others : List Probe}

/-! ### The schedule of a list and the schedules of its members -/

theorem quiet_singleton {p : Probe} {r : Nat} :
    Quiet [p] r ↔ (p.attempt r).verdict = .notReady := List.forall_mem_singleton

/-- A round is quiet if it is quiet for each probe alone. -/
theorem quiet_iff_forall_mem {r : Nat} : Quiet probes r ↔ ∀ p ∈ probes, Quiet [p] r := by
  simp only [quiet_singleton]
  rfl

theorem Instant.singleton (h : Instant probes) {p : Probe} (hp : p ∈ probes) : Instant [p] := by
  intro q hq
  obtain rfl := List.mem_singleton.1 hq
  exact h q hp

/-- **The schedule of a list goes on as long as those of its members do.** -/
theorem Instant.reaches_iff_forall_mem (h : Instant probes) (hprobes : probes ≠ []) {r : Nat} :
    Reaches interval deadline probes r ↔ ∀ p ∈ probes, Reaches interval deadline [p] r := by
  constructor
  · intro hreaches p hp q hq
    obtain ⟨hquiet, hopen⟩ := hreaches q hq
    rw [h.roundStart_eq] at hopen
    rw [(h.singleton hp).roundStart_eq]
    exact ⟨quiet_iff_forall_mem.1 hquiet p hp, hopen⟩
  · intro hreaches q hq
    obtain ⟨first, hfirst⟩ := List.exists_mem_of_ne_nil probes hprobes
    have hopen := (hreaches first hfirst q hq).2
    rw [(h.singleton hfirst).roundStart_eq] at hopen
    rw [h.roundStart_eq]
    exact ⟨quiet_iff_forall_mem.2 fun p hp => (hreaches p hp q hq).1, hopen⟩

/-- **The deadline ends the schedule of a list where it ends those of its members.** -/
theorem Instant.expires_iff_forall_mem (h : Instant probes) (hprobes : probes ≠ []) {r : Nat} :
    Expires interval deadline probes r ↔ ∀ p ∈ probes, Expires interval deadline [p] r := by
  constructor
  · intro hexpires p hp
    have hlate := hexpires.expired
    rw [h.roundStart_eq] at hlate
    refine ⟨(h.reaches_iff_forall_mem hprobes).1 hexpires.reaches p hp,
      quiet_iff_forall_mem.1 hexpires.quiet p hp, ?_⟩
    rw [(h.singleton hp).roundStart_eq]
    exact hlate
  · intro hexpires
    obtain ⟨first, hfirst⟩ := List.exists_mem_of_ne_nil probes hprobes
    have hlate := (hexpires first hfirst).expired
    rw [(h.singleton hfirst).roundStart_eq] at hlate
    refine ⟨(h.reaches_iff_forall_mem hprobes).2 fun p hp => (hexpires p hp).reaches,
      quiet_iff_forall_mem.2 fun p hp => (hexpires p hp).quiet, ?_⟩
    rw [h.roundStart_eq]
    exact hlate

/-- No round is reached after one that the deadline follows, whatever the probes are. -/
theorem Instant.le_of_expires (h : Instant probes) (h' : Instant others) {r q : Nat}
    (hexpires : Expires interval deadline probes r)
    (hreaches : Reaches interval deadline others q) : q ≤ r := by
  refine Nat.le_of_not_lt fun hlt => ?_
  have hlate := hexpires.expired
  have hopen := (hreaches r hlt).2
  rw [h.roundStart_eq] at hlate
  rw [h'.roundStart_eq] at hopen
  omega

/-! ### Waits on probes that answer at once -/

/-- Every call takes no time and is ready or not ready. -/
def Prompt (probes : List Probe) : Prop :=
  ∀ p ∈ probes, ∀ call, (p.attempt call).duration = 0 ∧
    ((p.attempt call).verdict = .ready ∨ (p.attempt call).verdict = .notReady)

theorem Prompt.instant (h : Prompt probes) : Instant probes := fun p hp call => (h p hp call).1

theorem Prompt.of_subset (h : Prompt probes) (hsub : others ⊆ probes) : Prompt others :=
  fun p hp => h p (hsub hp)

theorem Prompt.singleton (h : Prompt probes) {p : Probe} (hp : p ∈ probes) : Prompt [p] :=
  h.of_subset (List.cons_subset.2 ⟨hp, List.nil_subset probes⟩)

section

variable {timing : Timing} {secs : Int} {time : Nat} (hinterval : 0 < timing.retryInterval)
include hinterval

/-- A prompt wait is ready at the beginning of the first round that is not quiet. -/
theorem Prompt.ending_eq_ready_iff (h : Prompt probes) :
    (waitFor timing secs none probes).ending = .ready time ↔
      ∃ r, Reaches timing.retryInterval (effectiveMaxWait timing secs) probes r ∧
        ¬ Quiet probes r ∧ time = r * timing.retryInterval := by
  constructor
  · intro hready
    obtain ⟨r, index, p, -, hdecides, -, rfl⟩ := exists_decides_of_ready hready
    have hp : p ∈ probes := List.mem_of_getElem? hdecides.probe
    refine ⟨r, hdecides.reaches, hdecides.not_quiet, ?_⟩
    rw [h.instant.callStart_eq, (h p hp r).1, Nat.add_zero]
  · rintro ⟨r, hreaches, hnot, rfl⟩
    obtain ⟨index, p, hprobe, hfront, hdecisive⟩ := exists_first_decisive hnot
    obtain ⟨hduration, hverdict⟩ := h p (List.mem_of_getElem? hprobe) r
    have hready : (p.attempt r).verdict = .ready := hverdict.resolve_right hdecisive
    have hrun := waitWithin_of_decides ⟨hreaches, hprobe, hfront, hdecisive⟩
      (hreaches.lt_allowance hinterval) (congrArg _ hready)
    rw [h.instant.callStart_eq, hduration, Nat.add_zero] at hrun
    exact hrun.2.2

/-- A prompt wait times out at the end of the pause that the deadline falls into. -/
theorem Prompt.ending_eq_timedOut_iff (h : Prompt probes) (hprobes : probes ≠ []) :
    (waitFor timing secs none probes).ending = .timedOut time ↔
      ∃ r, Expires timing.retryInterval (effectiveMaxWait timing secs) probes r ∧
        time = (r + 1) * timing.retryInterval := by
  constructor
  · intro hlate
    obtain ⟨r, -, hexpires, rfl⟩ := exists_expires_of_timedOut hlate
    exact ⟨r, hexpires, h.instant.roundStart_eq (r + 1)⟩
  · rintro ⟨r, hexpires, rfl⟩
    have hrun := waitWithin_of_expires hprobes hexpires (hexpires.reaches.lt_allowance hinterval)
    rw [h.instant.roundStart_eq] at hrun
    exact hrun.2.2

/-- **A prompt wait succeeds or times out,** and reports the time at which it ends. -/
theorem Prompt.reports (h : Prompt probes) (hprobes : probes ≠ []) :
    let run := waitFor timing secs none probes
    run.ending = .ready run.endedAt ∨ run.ending = .timedOut run.endedAt := by
  intro run
  have hends : (∃ time, run.ending = .ready time) ∨ ∃ time, run.ending = .timedOut time := by
    rcases decides_or_expires hinterval (effectiveMaxWait timing secs) probes with
      ⟨r, index, p, hdecides⟩ | ⟨r, hexpires⟩
    · exact Or.inl ⟨_, (h.ending_eq_ready_iff hinterval).2
        ⟨r, hdecides.reaches, hdecides.not_quiet, rfl⟩⟩
    · exact Or.inr ⟨_, (h.ending_eq_timedOut_iff hinterval hprobes).2 ⟨r, hexpires, rfl⟩⟩
  rcases hends with ⟨time, hready⟩ | ⟨time, hlate⟩
  · have hended : run.endedAt = time := endedAt_of_reports (Or.inl hready)
    rw [hended]
    exact Or.inl hready
  · have hended : run.endedAt = time := endedAt_of_reports (Or.inr hlate)
    rw [hended]
    exact Or.inr hlate

/-- **The wait on a list times out when the waits on all of its members do.** -/
theorem Prompt.timedOut_iff_forall_mem (h : Prompt probes) (hprobes : probes ≠ []) :
    (waitFor timing secs none probes).ending = .timedOut time ↔
      ∀ p ∈ probes, (waitFor timing secs none [p]).ending = .timedOut time := by
  have halone : ∀ p ∈ probes, (waitFor timing secs none [p]).ending = .timedOut time ↔
      ∃ r, Expires timing.retryInterval (effectiveMaxWait timing secs) [p] r ∧
        time = (r + 1) * timing.retryInterval := fun p hp =>
    (h.singleton hp).ending_eq_timedOut_iff hinterval (List.cons_ne_nil p [])
  rw [h.ending_eq_timedOut_iff hinterval hprobes]
  constructor
  · rintro ⟨r, hexpires, rfl⟩ p hp
    exact (halone p hp).2 ⟨r, (h.instant.expires_iff_forall_mem hprobes).1 hexpires p hp, rfl⟩
  · intro hall
    obtain ⟨first, hfirst⟩ := List.exists_mem_of_ne_nil probes hprobes
    obtain ⟨r, hexpires, rfl⟩ := (halone first hfirst).1 (hall first hfirst)
    refine ⟨r, (h.instant.expires_iff_forall_mem hprobes).2 fun p hp => ?_, rfl⟩
    -- Every member expires, and all of them in the same round.
    obtain ⟨q, hq, -⟩ := (halone p hp).1 (hall p hp)
    have hle := (h.singleton hfirst).instant.le_of_expires (h.singleton hp).instant hexpires
      hq.reaches
    have hge := (h.singleton hp).instant.le_of_expires (h.singleton hfirst).instant hq
      hexpires.reaches
    rwa [Nat.le_antisymm hge hle]

/-- **The wait on a list is ready when the quickest of the waits on its members is.** -/
theorem Prompt.ready_iff_isLeast (h : Prompt probes) (hprobes : probes ≠ []) :
    (waitFor timing secs none probes).ending = .ready time ↔
      IsLeast {t | ∃ p ∈ probes, (waitFor timing secs none [p]).ending = .ready t} time := by
  have hleast : ∀ {t}, (waitFor timing secs none probes).ending = .ready t →
      IsLeast {t | ∃ p ∈ probes, (waitFor timing secs none [p]).ending = .ready t} t := by
    intro t hready
    obtain ⟨r, hreaches, hnot, rfl⟩ := (h.ending_eq_ready_iff hinterval).1 hready
    have hmembers := (h.instant.reaches_iff_forall_mem hprobes).1 hreaches
    constructor
    · have hsome : ¬ ∀ p ∈ probes, Quiet [p] r := fun hall => hnot (quiet_iff_forall_mem.2 hall)
      push Not at hsome
      obtain ⟨p, hp, hpnot⟩ := hsome
      exact ⟨p, hp, ((h.singleton hp).ending_eq_ready_iff hinterval).2
        ⟨r, hmembers p hp, hpnot, rfl⟩⟩
    · rintro s ⟨p, hp, hs⟩
      obtain ⟨q, -, hpnot, rfl⟩ := ((h.singleton hp).ending_eq_ready_iff hinterval).1 hs
      refine Nat.mul_le_mul_right _ (Nat.le_of_not_lt fun hlt => ?_)
      exact hpnot (hmembers p hp q hlt).1
  refine ⟨hleast, fun hmin => ?_⟩
  have hends : (waitFor timing secs none probes).ending = _ ∨ _ := h.reports hinterval hprobes
  rcases hends with hready | hlate
  · rw [hmin.unique (hleast hready)]
    exact hready
  · obtain ⟨p, hp, hs⟩ := hmin.1
    have hplate := (h.timedOut_iff_forall_mem hinterval hprobes).1 hlate p hp
    exact absurd (hs.symm.trans hplate) Ending.noConfusion

/-- **More probes never make a wait later** and never turn a success into a timeout. -/
theorem Prompt.endedAt_le_of_subset (h : Prompt probes) (hprobes : probes ≠ [])
    (hothers : Prompt others) (hsub : probes ⊆ others) :
    let run := waitFor timing secs none probes
    let larger := waitFor timing secs none others
    larger.endedAt ≤ run.endedAt ∧
      ∀ t, run.ending = .ready t → ∃ s, s ≤ t ∧ larger.ending = .ready s := by
  intro run larger
  obtain ⟨first, hfirst⟩ := List.exists_mem_of_ne_nil probes hprobes
  have hne : others ≠ [] := List.ne_nil_of_mem (hsub hfirst)
  have hends : larger.ending = .ready larger.endedAt ∨ larger.ending = .timedOut larger.endedAt :=
    hothers.reports hinterval hne
  have hsuccess : ∀ t, run.ending = .ready t →
      larger.endedAt ≤ t ∧ larger.ending = .ready larger.endedAt := by
    intro t hready
    obtain ⟨⟨p, hp, hpready⟩, -⟩ := (h.ready_iff_isLeast hinterval hprobes).1 hready
    rcases hends with hlarger | hlarger
    · have hmin := (hothers.ready_iff_isLeast hinterval hne).1 hlarger
      exact ⟨hmin.2 ⟨p, hsub hp, hpready⟩, hlarger⟩
    · have hplate := (hothers.timedOut_iff_forall_mem hinterval hne).1 hlarger p (hsub hp)
      exact absurd (hpready.symm.trans hplate) Ending.noConfusion
  refine ⟨?_, fun t hready => ⟨_, hsuccess t hready⟩⟩
  rcases h.reports hinterval hprobes with hready | hlate
  · exact (hsuccess _ hready).1
  · obtain ⟨r, hexpires, htime⟩ := (h.ending_eq_timedOut_iff hinterval hprobes).1 hlate
    rcases hends with hlarger | hlarger
    · -- A round that the larger wait reaches is one that the deadline lets begin.
      obtain ⟨q, hreaches, -, hq⟩ := (hothers.ending_eq_ready_iff hinterval).1 hlarger
      have hle := h.instant.le_of_expires hothers.instant hexpires hreaches
      rw [hq, show run.endedAt = _ from htime]
      exact Nat.mul_le_mul_right _ (Nat.le_succ_of_le hle)
    · have hsame := (h.timedOut_iff_forall_mem hinterval hprobes).1 hlate first hfirst
      have hfirstLate :=
        (hothers.timedOut_iff_forall_mem hinterval hne).1 hlarger first (hsub hfirst)
      exact Nat.le_of_eq (Ending.timedOut.inj (hfirstLate.symm.trans hsame))

end

/-- **A wait on several probes is the quickest of the waits on each of them.**  Let the calls
of some probes take no time and be ready or not ready, each as it likes.  The wait on all of
them succeeds or times out.  It succeeds at `time` exactly if that is the least of the times
at which the waits on a single one of them succeed, so as soon as one of these does; and it
times out at `time` exactly if all of these do.  If all of them time out, they do so at one
time.

So neither the order of the probes nor their repetition matters, and with more such probes
the wait ends no later and still succeeds if it did. -/
theorem waitFor_isLeast_alone (timing : Timing) (secs : Int) (probes : List Probe)
    (hinterval : 0 < timing.retryInterval) (hprobes : probes ≠ []) (hprompt : Prompt probes) :
    let run := waitFor timing secs none
    ((run probes).ending = .ready (run probes).endedAt ∨
        (run probes).ending = .timedOut (run probes).endedAt) ∧
      (∀ time, (run probes).ending = .ready time ↔
        IsLeast {t | ∃ p ∈ probes, (run [p]).ending = .ready t} time) ∧
      ((∃ p ∈ probes, ∃ t, (run [p]).ending = .ready t) →
        ∃ time, (run probes).ending = .ready time) ∧
      (∀ time, (run probes).ending = .timedOut time ↔
        ∀ p ∈ probes, (run [p]).ending = .timedOut time) ∧
      ((∀ p ∈ probes, ∃ t, (run [p]).ending = .timedOut t) →
        ∃ time, (run probes).ending = .timedOut time) ∧
      (∀ others, (∀ p, p ∈ others ↔ p ∈ probes) →
        (run others).ending = (run probes).ending ∧
          (run others).endedAt = (run probes).endedAt) ∧
      ∀ others, Prompt others → probes ⊆ others →
        (run others).endedAt ≤ (run probes).endedAt ∧
          ∀ t, (run probes).ending = .ready t → ∃ s, s ≤ t ∧ (run others).ending = .ready s := by
  intro run
  have hends : (run probes).ending = .ready (run probes).endedAt ∨
      (run probes).ending = .timedOut (run probes).endedAt := hprompt.reports hinterval hprobes
  have hready : ∀ time, (run probes).ending = .ready time ↔ _ := fun time =>
    hprompt.ready_iff_isLeast hinterval hprobes
  have hlate : ∀ time, (run probes).ending = .timedOut time ↔ _ := fun time =>
    hprompt.timedOut_iff_forall_mem hinterval hprobes
  refine ⟨hends, hready, ?succeeds, hlate, ?timesOut, ?sameMembers, fun others hothers hsub =>
    hprompt.endedAt_le_of_subset hinterval hprobes hothers hsub⟩
  case succeeds =>
    rintro ⟨p, hp, t, hpready⟩
    refine ⟨_, hends.resolve_right fun h => ?_⟩
    exact absurd (hpready.symm.trans ((hlate _).1 h p hp)) Ending.noConfusion
  case timesOut =>
    intro hall
    refine ⟨_, hends.resolve_left fun h => ?_⟩
    obtain ⟨p, hp, hpready⟩ := ((hready _).1 h).1
    obtain ⟨t, hplate⟩ := hall p hp
    exact absurd (hpready.symm.trans hplate) Ending.noConfusion
  case sameMembers =>
    intro others hothers
    have hsub : others ⊆ probes := fun p hp => (hothers p).1 hp
    have hsup : probes ⊆ others := fun p hp => (hothers p).2 hp
    obtain ⟨first, hfirst⟩ := List.exists_mem_of_ne_nil probes hprobes
    have hne : others ≠ [] := List.ne_nil_of_mem (hsup hfirst)
    have hpromptOthers := hprompt.of_subset hsub
    have hsame : (run others).ending = (run probes).ending := by
      rcases hends with h | h
      · rw [h]
        refine (hpromptOthers.ready_iff_isLeast hinterval hne).2 ?_
        simp only [hothers]
        exact (hready _).1 h
      · rw [h]
        refine (hpromptOthers.timedOut_iff_forall_mem hinterval hne).2 ?_
        simp only [hothers]
        exact (hlate _).1 h
    refine ⟨hsame, ?_⟩
    rw [← hsame] at hends
    exact endedAt_of_reports hends

/-- A probe that is ready in one of its calls and in no other. -/
def readyAt (only : Nat) : Probe where
  name := "once"
  attempt call := ⟨0, if call = only then .ready else .notReady, []⟩

theorem prompt_readyAt (calls : List Nat) : Prompt (calls.map readyAt) := by
  intro p hp call
  obtain ⟨only, -, rfl⟩ := List.mem_map.1 hp
  refine ⟨rfl, ?_⟩
  rcases Nat.decEq call only with hne | heq
  · exact Or.inr (if_neg hne)
  · exact Or.inl (if_pos heq)

/-- The hypotheses of `waitFor_isLeast_alone` are satisfiable.  With an interval of three
milliseconds and a deadline of seven there are three rounds, at zero, three and six.  Of a
probe that is ready in the third, one that is ready in the second and one that would be
ready in the fifth, the second decides when the wait on them succeeds, in either order; the
last one alone times out, and so does the wait on two such probes. -/
theorem waitFor_isLeast_alone_of_three :
    let run probes := waitFor ⟨7, 3⟩ 0 none (probes.map readyAt)
    0 < 3 ∧ [2, 1, 4].map readyAt ≠ [] ∧ Prompt ([2, 1, 4].map readyAt) ∧
      (run [2]).ending = .ready 6 ∧ (run [1]).ending = .ready 3 ∧
      (run [4]).ending = .timedOut 9 ∧
      IsLeast {t | ∃ p ∈ [2, 1, 4].map readyAt,
        (waitFor ⟨7, 3⟩ 0 none [p]).ending = .ready t} 3 ∧
      (run [4, 1, 2]).ending = .ready 3 ∧ (run [4, 4]).ending = .timedOut 9 ∧
      (run [4, 4, 2]).endedAt ≤ (run [4, 4]).endedAt := by
  intro run
  have hinterval : 0 < 3 := by decide
  have hprobes : [2, 1, 4].map readyAt ≠ [] := List.cons_ne_nil _ _
  have hlate : (run [4]).ending = .timedOut 9 := by decide
  obtain ⟨-, hready, -, -, -, hsame, -⟩ := waitFor_isLeast_alone ⟨7, 3⟩ 0 ([2, 1, 4].map readyAt)
    hinterval hprobes (prompt_readyAt _)
  obtain ⟨-, -, -, htimedOut, -, -, hmore⟩ := waitFor_isLeast_alone ⟨7, 3⟩ 0 ([4, 4].map readyAt)
    hinterval (List.cons_ne_nil _ _) (prompt_readyAt _)
  have hsecond : (run [2, 1, 4]).ending = .ready 3 := by decide
  have hreversed := hsame ([2, 1, 4].map readyAt).reverse fun p => List.mem_reverse
  refine ⟨hinterval, hprobes, prompt_readyAt _, by decide, by decide, hlate, (hready 3).1 hsecond,
    hreversed.1.trans hsecond, (htimedOut 9).2 fun p hp => ?_,
    (hmore _ (prompt_readyAt [4, 4, 2]) fun p hp => ?_).1⟩
  · obtain rfl : p = readyAt 4 := by simpa using hp
    exact hlate
  · exact List.mem_append_left [readyAt 2] hp

end Waiter
end ServiceReadiness
