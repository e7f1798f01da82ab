/-
# A watched container only ever ends a wait

The watch over a container is a probe that is never ready, so putting it behind the other
probes of a wait can only add an end to the wait.  The wait with the watch and the wait
without it are compared on their schedules.  If inspections are answered at once, the
watch takes no time, and the clock of the two schedules is the same (`callStart_append`).
Round by round, the longer schedule goes on as the shorter one does as long as the
container is not seen stopped (`reaches_append`), and it is left where the shorter one is
left (`Decides.append`, `Expires.append`), so that the two waits take the same course
(`SameCourse`).  In the first round that finds the container stopped the watch comes last:
it ends the wait if no other probe of that round does (`decides_append_last`), and it does
so before the pause and the look at the clock.
-/

import ServiceReadiness.Container.Watch
import ServiceReadiness.Proofs.Release
import ServiceReadiness.Proofs.RoundRobin

namespace ServiceReadiness

/-! ### The watch -/

namespace ContainerWatch

variable {id : String} {i : Inspection}

/-- An inspection that fails or takes too long is no news. -/
theorem attempt_verdict_of_no_news
    (h : (∃ cause, i.answer = .error cause) ∨ ∀ d, i.duration = some d → attemptBound < d) :
    (attempt id i).verdict = .notReady := by
  rw [attempt]
  cases hd : i.duration.filter (· ≤ attemptBound) with
  | none => rfl
  | some d =>
    obtain ⟨hduration, hle⟩ := Option.filter_eq_some_iff.1 hd
    rcases h with ⟨cause, hcause⟩ | hslow
    · simp only [hcause, answered]
    · exact absurd (of_decide_eq_true hle) (Nat.not_le.2 (hslow d hduration))

/-- An inspection that is answered at once takes no time and has its answer looked at. -/
theorem attempt_of_instant (h : i.duration = some 0) : attempt id i = answered id 0 i.answer := by
  rw [attempt, h]
  rfl

theorem attempt_duration_of_instant (h : i.duration = some 0) : (attempt id i).duration = 0 := by
  rw [attempt_of_instant h]
  rcases i.answer with cause | - | - <;> rfl

/-- The watch ends the wait if the container has stopped. -/
theorem attempt_verdict_of_stopped (h : i.duration = some 0) (hstopped : i.answer = .ok false) :
    (attempt id i).verdict = .fatal (.containerStopped id) := by
  rw [attempt_of_instant h, hstopped, answered]

/-- The watch lets the wait go on unless the container has stopped. -/
theorem attempt_verdict_of_not_stopped (h : i.duration = some 0) (hgoing : i.answer ≠ .ok false) :
    (attempt id i).verdict = .notReady := by
  rw [attempt_of_instant h]
  rcases hanswer : i.answer with cause | - | -
  · rfl
  · exact absurd hanswer hgoing
  · rfl

end ContainerWatch

namespace Waiter

variable {interval deadline : Nat} {probes : List Probe} {last : Probe}

/-! ### The schedule with one more probe -/

theorem quiet_append {r : Nat} :
    Quiet (probes ++ [last]) r ↔ Quiet probes r ∧ (last.attempt r).verdict = .notReady := by
  simp only [Quiet, List.forall_mem_append, List.forall_mem_singleton]

section

variable (hinstant : ∀ call, (last.attempt call).duration = 0)
include hinstant

/-- A last probe that takes no time does not make a round longer. -/
theorem roundLength_append_instant (r : Nat) :
    roundLength r (probes ++ [last]) = roundLength r probes := by
  rw [roundLength_append, roundLength_cons, hinstant, roundLength_nil, Nat.add_zero]

theorem roundStart_append (r : Nat) :
    roundStart interval (probes ++ [last]) r = roundStart interval probes r := by
  induction r with
  | zero => rfl
  | succ r ih => rw [roundStart, roundStart, ih, roundLength_append_instant hinstant]

/-- **One more probe that takes no time does not move the calls of the others.** -/
theorem callStart_append (r : Nat) {index : Nat} (h : index ≤ probes.length) :
    callStart interval (probes ++ [last]) r index = callStart interval probes r index := by
  rw [callStart, callStart, roundStart_append hinstant, List.take_append_of_le_length h]

/-- The calls of the other probes in a round. -/
theorem filter_roundCalls_append (r count : Nat) :
    (roundCalls interval (probes ++ [last]) r count).filter (·.2.1 < probes.length) =
      roundCalls interval probes r (min count probes.length) := by
  induction count with
  | zero =>
    rw [Nat.zero_min]
    rfl
  | succ count ih =>
    rw [roundCalls_succ, List.filter_append, ih]
    rcases Nat.lt_or_ge count probes.length with hlt | hge
    · rw [callStart_append hinstant r (Nat.le_of_lt hlt), Nat.min_eq_left (Nat.le_of_lt hlt),
        Nat.min_eq_left hlt, roundCalls_succ]
      simp [hlt]
    · rw [Nat.min_eq_right hge, Nat.min_eq_right (Nat.le_succ_of_le hge)]
      simp [Nat.not_lt.2 hge]

theorem filter_fullRounds_append (rounds : Nat) :
    (fullRounds interval (probes ++ [last]) rounds).filter (·.2.1 < probes.length) =
      fullRounds interval probes rounds := by
  rw [fullRounds, fullRounds, List.filter_flatMap]
  simp only [filter_roundCalls_append hinstant, List.length_append, List.length_singleton,
    Nat.min_eq_right (Nat.le_succ _)]

/-- **The longer schedule goes on** as long as the shorter one does and the last probe does
not end the wait. -/
theorem reaches_append {r : Nat} :
    Reaches interval deadline (probes ++ [last]) r ↔
      Reaches interval deadline probes r ∧ ∀ q < r, (last.attempt q).verdict = .notReady := by
  simp only [Reaches, quiet_append, roundStart_append hinstant]
  constructor
  · intro h
    exact ⟨fun q hq => ⟨(h q hq).1.1, (h q hq).2⟩, fun q hq => (h q hq).1.2⟩
  · rintro ⟨h, hlast⟩ q hq
    exact ⟨⟨(h q hq).1, hlast q hq⟩, (h q hq).2⟩

/-- **A call that decides the shorter wait decides the longer one,** in the same round as
well. -/
theorem Decides.append {r index : Nat} {p : Probe} (h : Decides interval deadline probes r index p)
    (hlast : ∀ q < r, (last.attempt q).verdict = .notReady) :
    Decides interval deadline (probes ++ [last]) r index p := by
  obtain ⟨hindex, hp⟩ := List.getElem?_eq_some_iff.1 h.probe
  refine ⟨(reaches_append hinstant).2 ⟨h.reaches, hlast⟩, ?_, ?_, h.decisive⟩
  · rw [List.getElem?_append_left hindex, h.probe]
  · rw [List.take_append_of_le_length (Nat.le_of_lt hindex)]
    exact h.quiet

/-- The last probe decides the wait in a round that no other probe decides. -/
theorem decides_append_last {r : Nat} (hreaches : Reaches interval deadline probes r)
    (hquiet : Quiet probes r) (hlast : ∀ q < r, (last.attempt q).verdict = .notReady)
    (hdecisive : (last.attempt r).verdict ≠ .notReady) :
    Decides interval deadline (probes ++ [last]) r probes.length last := by
  refine ⟨(reaches_append hinstant).2 ⟨hreaches, hlast⟩, List.getElem?_concat_length, ?_, hdecisive⟩
  rw [List.take_left]
  exact hquiet

/-- A deadline that ends the shorter wait ends the longer one. -/
theorem Expires.append {r : Nat} (h : Expires interval deadline probes r)
    (hlast : ∀ q ≤ r, (last.attempt q).verdict = .notReady) :
    Expires interval deadline (probes ++ [last]) r := by
  refine ⟨(reaches_append hinstant).2 ⟨h.reaches, fun q hq => hlast q (Nat.le_of_lt hq)⟩,
    quiet_append.2 ⟨h.quiet, hlast r (Nat.le_refl r)⟩, ?_⟩
  rw [roundStart_append hinstant]
  exact h.expired

end

/-! ### The wait with one more probe -/

/-- Two waits end in the same way, at the same time and after the same calls of the first
`count` probes, which are all that the shorter one calls. -/
structure SameCourse (count : Nat) (longer shorter : WaitRun) : Prop where
  ending : longer.ending = shorter.ending
  endedAt : longer.endedAt = shorter.endedAt
  evaluations : longer.history.evaluations.filter (·.2.1 < count) = shorter.history.evaluations

section

variable {timing : Timing} {secs : Int} {allowance : Nat}
variable (hinstant : ∀ call, (last.attempt call).duration = 0)
include hinstant

/-- A last probe that ends no earlier round is not noticed by a wait that a call decides. -/
theorem sameCourse_of_decides {r index : Nat} {p : Probe}
    (h : Decides timing.retryInterval (effectiveMaxWait timing secs) probes r index p)
    (hr : r < allowance) (hlast : ∀ q < r, (last.attempt q).verdict = .notReady) :
    SameCourse probes.length (waitWithin allowance timing secs none (probes ++ [last]))
      (waitWithin allowance timing secs none probes) := by
  obtain ⟨hindex, -⟩ := List.getElem?_eq_some_iff.1 h.probe
  have hstart : callStart timing.retryInterval (probes ++ [last]) r index =
      callStart timing.retryInterval probes r index :=
    callStart_append hinstant r (Nat.le_of_lt hindex)
  obtain ⟨ending, hending⟩ := exists_endingOf h.decisive
    (callStart timing.retryInterval probes r index + (p.attempt r).duration)
  obtain ⟨hcalls, hended, hrun⟩ := waitWithin_of_decides h hr hending
  obtain ⟨hcalls', hended', hrun'⟩ :=
    waitWithin_of_decides (h.append hinstant hlast) hr (by rw [hstart, hending])
  rw [hstart] at hended'
  refine ⟨hrun'.trans hrun.symm, hended'.trans hended.symm, ?_⟩
  rw [hcalls', List.filter_append, filter_fullRounds_append hinstant,
    filter_roundCalls_append hinstant, Nat.min_eq_left hindex]
  exact hcalls.symm

/-- A last probe that ends no round is not noticed by a wait that runs into its deadline. -/
theorem sameCourse_of_expires {r : Nat} (hprobes : probes ≠ [])
    (h : Expires timing.retryInterval (effectiveMaxWait timing secs) probes r)
    (hr : r < allowance) (hlast : ∀ q ≤ r, (last.attempt q).verdict = .notReady) :
    SameCourse probes.length (waitWithin allowance timing secs none (probes ++ [last]))
      (waitWithin allowance timing secs none probes) := by
  obtain ⟨hcalls, hended, hrun⟩ := waitWithin_of_expires hprobes h hr
  obtain ⟨hcalls', hended', hrun'⟩ :=
    waitWithin_of_expires (List.concat_ne_nil last probes) (h.append hinstant hlast) hr
  rw [roundStart_append hinstant] at hended' hrun'
  refine ⟨hrun'.trans hrun.symm, hended'.trans hended.symm, ?_⟩
  rw [hcalls', filter_fullRounds_append hinstant]
  exact hcalls.symm

/-- A last probe that ends no round is not noticed by a wait whose rounds are used up. -/
theorem sameCourse_of_reaches (hprobes : probes ≠ [])
    (h : Reaches timing.retryInterval (effectiveMaxWait timing secs) probes allowance)
    (hlast : ∀ q < allowance, (last.attempt q).verdict = .notReady) :
    SameCourse probes.length (waitWithin allowance timing secs none (probes ++ [last]))
      (waitWithin allowance timing secs none probes) := by
  obtain ⟨hcalls, hended, hrun⟩ := waitWithin_of_reaches hprobes h
  obtain ⟨hcalls', hended', hrun'⟩ := waitWithin_of_reaches (List.concat_ne_nil last probes)
    ((reaches_append hinstant).2 ⟨h, hlast⟩)
  rw [roundStart_append hinstant] at hended'
  refine ⟨hrun'.trans hrun.symm, hended'.trans hended.symm, ?_⟩
  rw [hcalls', filter_fullRounds_append hinstant]
  exact hcalls.symm

end

/-! ### The wait with the watch -/

/-- The wait over the probes makes round `r` in full, no call of which ends it, and that is
the first round whose inspection finds the container stopped. -/
structure SeenStopped (interval deadline : Nat) (probes : List Probe) (inspect : Nat → Inspection)
    (r : Nat) : Prop where
  reaches : Reaches interval deadline probes r
  quiet : Quiet probes r
  stopped : (inspect r).answer = .ok false
  before : ∀ q < r, (inspect q).answer ≠ .ok false

/-- The wait makes so many rounds in full, no call of which ends it. -/
def Completes (interval deadline : Nat) (probes : List Probe) (rounds : Nat) : Prop :=
  ∀ q < rounds, Reaches interval deadline probes q ∧ Quiet probes q

theorem Reaches.completes {r : Nat} (h : Reaches interval deadline probes r) :
    Completes interval deadline probes r := fun q hq => ⟨h.of_le (Nat.le_of_lt hq), (h q hq).1⟩

theorem Expires.completes {r : Nat} (h : Expires interval deadline probes r) :
    Completes interval deadline probes (r + 1) := by
  intro q hq
  rcases Nat.lt_succ_iff_lt_or_eq.1 hq with hlt | rfl
  · exact h.reaches.completes q hlt
  · exact ⟨h.reaches, h.quiet⟩

/-- If no round finds the container stopped, no inspection does so in the rounds that the wait
over the other probes makes in full. -/
theorem not_stopped_of_not_seenStopped {inspect : Nat → Inspection} {rounds : Nat}
    (h : ∀ r < rounds, ¬ SeenStopped interval deadline probes inspect r)
    (hfull : Completes interval deadline probes rounds) :
    ∀ q < rounds, (inspect q).answer ≠ .ok false := by
  intro q
  induction q using Nat.strongRecOn with
  | ind q ih =>
    intro hq hstopped
    obtain ⟨hreaches, hquiet⟩ := hfull q hq
    exact h q hq ⟨hreaches, hquiet, hstopped, fun k hk => ih k hk (Nat.lt_trans hk hq)⟩

section

variable {timing : Timing} {secs : Int} {allowance : Nat} {id : String}
  {inspect : Nat → Inspection}

/-- The releases of the other probes. -/
theorem filter_releases_append (hended :
    (waitWithin allowance timing secs none (probes ++ [last])).endedAt =
      (waitWithin allowance timing secs none probes).endedAt) :
    (waitWithin allowance timing secs none (probes ++ [last])).history.releases.filter
        (·.2 < probes.length) =
      (waitWithin allowance timing secs none probes).history.releases := by
  rw [releases_waitWithin, releases_waitWithin, hended, List.length_append, List.length_singleton,
    List.range_succ, List.map_append, List.filter_append, List.filter_eq_self.2]
  · simp
  · intro e he
    obtain ⟨index, hindex, rfl⟩ := List.mem_map.1 he
    exact decide_eq_true (List.mem_range.1 hindex)

/-- **A container that is seen stopped fails the wait** at the end of that round. -/
theorem waitWithin_of_seenStopped (hinstant : ∀ call, (inspect call).duration = some 0) {r : Nat}
    (hr : r < allowance)
    (h : SeenStopped timing.retryInterval (effectiveMaxWait timing secs) probes inspect r) :
    let run := waitWithin allowance timing secs none (probes ++ [ContainerWatch.probe id inspect])
    run.ending = .failed (.containerStopped id) ∧
      run.endedAt = roundStart timing.retryInterval probes r + roundLength r probes ∧
      run.history.evaluations.filter (·.2.1 < probes.length) =
        fullRounds timing.retryInterval probes (r + 1) := by
  have hwatch : ∀ call, ((ContainerWatch.probe id inspect).attempt call).duration = 0 :=
    fun call => ContainerWatch.attempt_duration_of_instant (hinstant call)
  have hstopped : ((ContainerWatch.probe id inspect).attempt r).verdict =
      .fatal (.containerStopped id) :=
    ContainerWatch.attempt_verdict_of_stopped (hinstant r) h.stopped
  have hdecides := decides_append_last hwatch h.reaches h.quiet
    (fun q hq => ContainerWatch.attempt_verdict_of_not_stopped (hinstant q) (h.before q hq))
    (by rw [hstopped]; exact Verdict.noConfusion)
  have hending := congrArg (endingOf (callStart timing.retryInterval
    (probes ++ [ContainerWatch.probe id inspect]) r probes.length +
      ((ContainerWatch.probe id inspect).attempt r).duration)) hstopped
  obtain ⟨hcalls, hended, hfailed⟩ := waitWithin_of_decides hdecides hr hending
  refine ⟨hfailed, hended.trans ?_, ?_⟩
  · rw [hwatch, callStart_append hwatch r (Nat.le_refl _), callStart, List.take_length,
      Nat.add_zero]
  · rw [hcalls, List.filter_append, filter_fullRounds_append hwatch,
      filter_roundCalls_append hwatch, Nat.min_eq_right (Nat.le_succ _), fullRounds_succ]

/-- **A container that is not seen stopped is not noticed.** -/
theorem waitWithin_of_not_seenStopped (hinstant : ∀ call, (inspect call).duration = some 0)
    (hprobes : probes ≠ [])
    (h : ∀ r < allowance,
      ¬ SeenStopped timing.retryInterval (effectiveMaxWait timing secs) probes inspect r) :
    SameCourse probes.length
      (waitWithin allowance timing secs none (probes ++ [ContainerWatch.probe id inspect]))
      (waitWithin allowance timing secs none probes) := by
  have hwatch : ∀ call, ((ContainerWatch.probe id inspect).attempt call).duration = 0 :=
    fun call => ContainerWatch.attempt_duration_of_instant (hinstant call)
  have hlast : ∀ rounds ≤ allowance,
      Completes timing.retryInterval (effectiveMaxWait timing secs) probes rounds →
      ∀ q < rounds, ((ContainerWatch.probe id inspect).attempt q).verdict = .notReady :=
    fun rounds hrounds hfull q hq =>
      ContainerWatch.attempt_verdict_of_not_stopped (hinstant q)
        (not_stopped_of_not_seenStopped (fun r hr => h r (Nat.lt_of_lt_of_le hr hrounds)) hfull
          q hq)
  rcases decides_or_expires_or_reaches timing.retryInterval (effectiveMaxWait timing secs) probes
    allowance with ⟨r, hr, index, p, hdecides⟩ | ⟨r, hr, hexpires⟩ | hreaches
  · exact sameCourse_of_decides hwatch hdecides hr
      (hlast r (Nat.le_of_lt hr) hdecides.reaches.completes)
  · exact sameCourse_of_expires hwatch hprobes hexpires hr fun q hq =>
      hlast (r + 1) hr hexpires.completes q (Nat.lt_succ_of_le hq)
  · exact sameCourse_of_reaches hwatch hprobes hreaches
      (hlast allowance (Nat.le_refl _) hreaches.completes)

end

/-- A container that is first seen stopped in the round that a call decides comes too late. -/
theorem Decides.not_seenStopped {inspect : Nat → Inspection} {r index : Nat} {p : Probe}
    (h : Decides interval deadline probes r index p)
    (hbefore : ∀ q < r, (inspect q).answer ≠ .ok false) (k : Nat) :
    ¬ SeenStopped interval deadline probes inspect k := by
  intro hseen
  rcases Nat.lt_trichotomy k r with hlt | rfl | hgt
  · exact hbefore k hlt hseen.stopped
  · exact h.not_quiet hseen.quiet
  · exact h.not_quiet (hseen.reaches r hgt).1

/-- **A watch behind the probes of a wait only ever adds an end.**  The watch is never ready,
no evaluation of it takes longer than an attempt may, and an inspection that fails or takes
longer is no news.  So a success always comes from another probe.

Let inspections be answered at once.  If the wait over the probes makes the first round that
finds the container stopped in full, and no call of that round ends it, the wait with the
watch fails at the end of that round, without a pause.  In every other case the two waits end
in the same way, at the same time and after the same calls and releases of the probes.  So a
probe that ends the wait in the very round that finds the container stopped still does, and
a stop that is seen in the last round before the deadline is reported in place of the
timeout, an interval before it. -/
theorem waitWithin_append_watch (allowance : Nat) (timing : Timing) (secs : Int)
    (probes : List Probe) (hprobes : probes ≠ []) (id : String) (inspect : Nat → Inspection) :
    let interval := timing.retryInterval
    let deadline := effectiveMaxWait timing secs
    let watch := ContainerWatch.probe id inspect
    let alone := waitWithin allowance timing secs none probes
    let both := waitWithin allowance timing secs none (probes ++ [watch])
    (∀ call, (watch.attempt call).verdict ≠ .ready ∧ (watch.attempt call).duration ≤ 500 ∧
        ((∃ cause, (inspect call).answer = .error cause) ∨
            (∀ d, (inspect call).duration = some d → 500 < d) →
          (watch.attempt call).verdict = .notReady)) ∧
      (∀ time, both.ending = .ready time → ∃ r index p, probes[index]? = some p ∧
        Decides interval deadline (probes ++ [watch]) r index p ∧
        (p.attempt r).verdict = .ready ∧
        time = callStart interval (probes ++ [watch]) r index + (p.attempt r).duration) ∧
      ((∀ call, (inspect call).duration = some 0) →
        (∀ r < allowance, SeenStopped interval deadline probes inspect r →
          both.ending = .failed (.containerStopped id) ∧
            both.endedAt = roundStart interval probes r + roundLength r probes ∧
            both.history.evaluations.filter (·.2.1 < probes.length) =
              fullRounds interval probes (r + 1) ∧
            (deadline ≤ roundStart interval probes (r + 1) →
              alone.ending = .timedOut (both.endedAt + interval))) ∧
        ((∀ r < allowance, ¬ SeenStopped interval deadline probes inspect r) →
          both.ending = alone.ending ∧ both.endedAt = alone.endedAt ∧
            both.history.evaluations.filter (·.2.1 < probes.length) = alone.history.evaluations ∧
            both.history.releases.filter (·.2 < probes.length) = alone.history.releases) ∧
        ∀ r index p, Decides interval deadline probes r index p →
          (∀ q < r, (inspect q).answer ≠ .ok false) →
            both.ending = alone.ending ∧ both.endedAt = alone.endedAt) := by
  intro interval deadline watch alone both
  refine ⟨fun call => ⟨?never, ?bounded, ?noNews⟩, fun time h => ?success, fun hinstant =>
    ⟨fun r hr h => ?stopped, fun h => ?unnoticed, fun r index p h hbefore => ?tie⟩⟩
  case never => exact ContainerWatch.attempt_verdict_ne_ready id (inspect call)
  case bounded => exact ContainerWatch.attempt_duration_le id (inspect call)
  case noNews => exact ContainerWatch.attempt_verdict_of_no_news
  case success =>
    obtain ⟨r, index, p, -, hdecides, hready, htime⟩ := exists_decides_of_ready h
    refine ⟨r, index, p, ?_, hdecides, hready, htime⟩
    have hprobe := hdecides.probe
    rcases Nat.lt_or_ge index probes.length with hlt | hge
    · rwa [List.getElem?_append_left hlt] at hprobe
    · rw [List.getElem?_append_right hge] at hprobe
      obtain rfl : watch = p := (List.mem_singleton.1 (List.mem_of_getElem? hprobe)).symm
      exact absurd hready (ContainerWatch.attempt_verdict_ne_ready id (inspect r))
  case stopped =>
    obtain ⟨hending, hended, hcalls⟩ := waitWithin_of_seenStopped hinstant hr h
    refine ⟨hending, hended, hcalls, fun hlate => ?_⟩
    rw [show both.endedAt = _ from hended]
    exact (waitWithin_of_expires hprobes ⟨h.reaches, h.quiet, hlate⟩ hr).2.2
  case unnoticed =>
    obtain ⟨hending, hended, hcalls⟩ := waitWithin_of_not_seenStopped hinstant hprobes h
    exact ⟨hending, hended, hcalls, filter_releases_append hended⟩
  case tie =>
    have hunseen : ∀ k < allowance, ¬ SeenStopped interval deadline probes inspect k :=
      fun k _ => h.not_seenStopped hbefore k
    obtain ⟨hending, hended, -⟩ := waitWithin_of_not_seenStopped hinstant hprobes hunseen
    exact ⟨hending, hended⟩

/-- A probe that is ready from one of its calls on. -/
def readyFrom (first : Nat) : Probe where
  name := "late"
  attempt call := ⟨0, if first ≤ call then .ready else .notReady, []⟩

/-- A container that is running when it is first looked at, and then no longer. -/
def stoppingContainer (call : Nat) : Inspection := { answer := .ok (call == 0) }

/-- The hypotheses of `waitWithin_append_watch` are satisfiable: with a container that is seen
stopped in the second round, a wait over a probe that would be ready in the third fails in
the second, and one over a probe that is ready in the second succeeds. -/
theorem waitWithin_append_watch_stopping :
    [readyFrom 2] ≠ [] ∧ [readyFrom 1] ≠ [] ∧
      (∀ call, (stoppingContainer call).duration = some 0) ∧
      SeenStopped 3 7 [readyFrom 2] stoppingContainer 1 ∧
      Decides 3 7 [readyFrom 1] 1 0 (readyFrom 1) ∧
      (waitWithin 8 ⟨7, 3⟩ 0 none
        [readyFrom 2, ContainerWatch.probe "db" stoppingContainer]).ending =
          .failed (.containerStopped "db") ∧
      (waitWithin 8 ⟨7, 3⟩ 0 none
        [readyFrom 1, ContainerWatch.probe "db" stoppingContainer]).ending = .ready 3 := by
  have hfirst : [readyFrom 2] ≠ [] := List.cons_ne_nil _ _
  have hsecond : [readyFrom 1] ≠ [] := List.cons_ne_nil _ _
  have hinstant : ∀ call, (stoppingContainer call).duration = some 0 := fun _ => rfl
  have hquiet : ∀ first r, r < first → Quiet [readyFrom first] r := by
    intro first r hr p hp
    obtain rfl := List.mem_singleton.1 hp
    exact if_neg (Nat.not_le.2 hr)
  have hreaches : ∀ first, 0 < first → Reaches 3 7 [readyFrom first] 1 := by
    intro first hpos q hq
    obtain rfl := Nat.lt_one_iff.1 hq
    exact ⟨hquiet first 0 hpos, show 3 < 7 by decide⟩
  have hbefore : ∀ q < 1, (stoppingContainer q).answer ≠ .ok false := by
    intro q hq
    obtain rfl := Nat.lt_one_iff.1 hq
    decide
  have hseen : SeenStopped 3 7 [readyFrom 2] stoppingContainer 1 :=
    ⟨hreaches 2 (by decide), hquiet 2 1 (by decide), rfl, hbefore⟩
  have hdecides : Decides 3 7 [readyFrom 1] 1 0 (readyFrom 1) :=
    ⟨hreaches 1 (by decide), rfl, fun p hp => absurd hp List.not_mem_nil, by decide⟩
  obtain ⟨-, -, hwatched⟩ :=
    waitWithin_append_watch 8 ⟨7, 3⟩ 0 [readyFrom 2] hfirst "db" stoppingContainer
  obtain ⟨-, -, hrace⟩ :=
    waitWithin_append_watch 8 ⟨7, 3⟩ 0 [readyFrom 1] hsecond "db" stoppingContainer
  obtain ⟨hstopped, -, -⟩ := hwatched hinstant
  obtain ⟨-, -, htie⟩ := hrace hinstant
  exact ⟨hfirst, hsecond, hinstant, hseen, hdecides, (hstopped 1 (by decide) hseen).1,
    (htie 1 0 _ hdecides hbefore).1.trans (by decide)⟩

end Waiter
end ServiceReadiness
