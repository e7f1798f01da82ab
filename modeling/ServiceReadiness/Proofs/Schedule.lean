/-
# The schedule of a wait

As long as nothing ends a wait, its course is known beforehand.  The calls of a
round come one after the other, each when the one before it has ended; a round
begins `interval` milliseconds after the last call of the round before it.  So the
call of a probe begins when the round does, plus the time of the calls before it
(`callStart`).

The schedule is left in one of two ways.  Either a call decides the wait, in a round
that the deadline lets begin (`Decides`), or a round in which no call does so is
followed by a look at the clock that finds the deadline reached (`Expires`).  A
wait that has made `r` rounds has done neither (`Reaches`), and with a positive
interval it cannot go on for more rounds than the deadline has milliseconds
(`Reaches.le_deadline`).
-/

import Mathlib.Algebra.Ring.Nat
import ServiceReadiness.Waiter

namespace ServiceReadiness
namespace Waiter

/-! ### The clock -/

/-- The time that calls of one number take, one after the other. -/
def roundLength (call : Nat) (probes : List Probe) : Nat :=
  (probes.map fun p => (p.attempt call).duration).sum

@[simp]
theorem roundLength_nil (call : Nat) : roundLength call [] = 0 := rfl

@[simp]
theorem roundLength_cons (call : Nat) (p : Probe) (probes : List Probe) :
    roundLength call (p :: probes) = (p.attempt call).duration + roundLength call probes := rfl

@[simp]
theorem roundLength_append (call : Nat) (front rest : List Probe) :
    roundLength call (front ++ rest) = roundLength call front + roundLength call rest := by
  simp [roundLength]

/-- The time at which a round begins; rounds are counted from zero. -/
def roundStart (interval : Nat) (probes : List Probe) : Nat → Nat
  | 0 => 0
  | r + 1 => roundStart interval probes r + roundLength r probes + interval

/-- The time at which a probe is called in a round. -/
def callStart (interval : Nat) (probes : List Probe) (r index : Nat) : Nat :=
  roundStart interval probes r + roundLength r (probes.take index)

/-- The first `count` calls of a round. -/
def roundCalls (interval : Nat) (probes : List Probe) (r count : Nat) : Timeline (Nat × Nat) :=
  (List.range count).map fun index => (callStart interval probes r index, index, r)

/-- The calls of the first `rounds` rounds, each of them over all the probes. -/
def fullRounds (interval : Nat) (probes : List Probe) (rounds : Nat) : Timeline (Nat × Nat) :=
  (List.range rounds).flatMap fun r => roundCalls interval probes r probes.length

variable {interval deadline : Nat} {probes : List Probe}

@[simp]
theorem callStart_zero (r : Nat) :
    callStart interval probes r 0 = roundStart interval probes r := by
  simp [callStart]

/-- **A call begins when the one before it ends.** -/
theorem callStart_succ {r index : Nat} {p : Probe} (h : probes[index]? = some p) :
    callStart interval probes r (index + 1) =
      callStart interval probes r index + (p.attempt r).duration := by
  rw [callStart, callStart, List.take_add_one, h, roundLength_append, Nat.add_assoc]
  simp

/-- **Rounds are `interval` apart:** a round begins so long after the last call of the
round before it has ended. -/
theorem roundStart_succ (r : Nat) :
    roundStart interval probes (r + 1) =
      callStart interval probes r probes.length + interval := by
  rw [callStart, List.take_length, roundStart]

/-- A round begins no sooner than the pauses before it allow. -/
theorem mul_interval_le_roundStart (interval : Nat) (probes : List Probe) (r : Nat) :
    r * interval ≤ roundStart interval probes r := by
  induction r with
  | zero => simp
  | succ r ih =>
    rw [roundStart, Nat.add_mul, Nat.one_mul]
    omega

theorem roundCalls_succ (r count : Nat) :
    roundCalls interval probes r (count + 1) =
      roundCalls interval probes r count ++ [(callStart interval probes r count, count, r)] := by
  rw [roundCalls, List.range_succ, List.map_append]
  rfl

theorem fullRounds_succ (rounds : Nat) :
    fullRounds interval probes (rounds + 1) =
      fullRounds interval probes rounds ++ roundCalls interval probes rounds probes.length := by
  rw [fullRounds, List.range_succ, List.flatMap_append]
  simp [fullRounds]

/-- Fewer rounds are the beginning of more rounds. -/
theorem fullRounds_isPrefix_of_le {fewer rounds : Nat} (h : fewer ≤ rounds) :
    fullRounds interval probes fewer <+: fullRounds interval probes rounds := by
  induction rounds with
  | zero =>
    obtain rfl := Nat.le_zero.1 h
    exact List.prefix_rfl
  | succ rounds ih =>
    rcases Nat.le_or_eq_of_le_succ h with hle | rfl
    · rw [fullRounds_succ]
      exact (ih hle).trans (List.prefix_append _ _)
    · exact List.prefix_rfl

/-! ### Calls that take no time -/

/-- No call takes time. -/
def Instant (probes : List Probe) : Prop := ∀ p ∈ probes, ∀ call, (p.attempt call).duration = 0

theorem Instant.roundLength_eq_zero (h : Instant probes) (call : Nat) :
    roundLength call probes = 0 := by
  rw [roundLength, List.sum_eq_zero_iff_forall_eq_nat]
  intro duration hmem
  obtain ⟨p, hp, rfl⟩ := List.mem_map.1 hmem
  exact h p hp call

/-- Rounds that take no time are as far apart as the pauses are long. -/
theorem Instant.roundStart_eq (h : Instant probes) (r : Nat) :
    roundStart interval probes r = r * interval := by
  induction r with
  | zero => rw [roundStart, Nat.zero_mul]
  | succ r ih => rw [roundStart, ih, h.roundLength_eq_zero, Nat.add_zero, Nat.succ_mul]

/-- The calls of a round that takes no time are all made at once. -/
theorem Instant.callStart_eq (h : Instant probes) (r index : Nat) :
    callStart interval probes r index = r * interval := by
  have hfront : Instant (probes.take index) := fun p hp => h p (List.mem_of_mem_take hp)
  rw [callStart, h.roundStart_eq, hfront.roundLength_eq_zero, Nat.add_zero]

/-! ### How the schedule is left -/

/-- No call of a round ends the wait. -/
def Quiet (probes : List Probe) (r : Nat) : Prop :=
  ∀ p ∈ probes, (p.attempt r).verdict = .notReady

/-- Round `r` is reached: the rounds before it are quiet, and the look at the clock
after each of them finds the deadline not reached. -/
def Reaches (interval deadline : Nat) (probes : List Probe) (r : Nat) : Prop :=
  ∀ q < r, Quiet probes q ∧ roundStart interval probes (q + 1) < deadline

/-- The call of the probe `p`, which stands at `index`, in round `r` is the first that
ends the wait. -/
structure Decides (interval deadline : Nat) (probes : List Probe) (r index : Nat) (p : Probe) :
    Prop where
  reaches : Reaches interval deadline probes r
  probe : probes[index]? = some p
  quiet : Quiet (probes.take index) r
  decisive : (p.attempt r).verdict ≠ .notReady

/-- No call ends the wait up to round `r`, and the look at the clock after that round is
the first that finds the deadline reached. -/
structure Expires (interval deadline : Nat) (probes : List Probe) (r : Nat) : Prop where
  reaches : Reaches interval deadline probes r
  quiet : Quiet probes r
  expired : deadline ≤ roundStart interval probes (r + 1)

theorem Reaches.zero : Reaches interval deadline probes 0 :=
  fun q hq => absurd hq (Nat.not_lt_zero q)

theorem Reaches.succ {r : Nat} (h : Reaches interval deadline probes r) (hquiet : Quiet probes r)
    (hopen : roundStart interval probes (r + 1) < deadline) :
    Reaches interval deadline probes (r + 1) := by
  intro q hq
  rcases Nat.lt_succ_iff_lt_or_eq.1 hq with hlt | rfl
  · exact h q hlt
  · exact ⟨hquiet, hopen⟩

theorem Reaches.of_le {q r : Nat} (h : Reaches interval deadline probes r) (hq : q ≤ r) :
    Reaches interval deadline probes q := fun k hk => h k (Nat.lt_of_lt_of_le hk hq)

/-- **A later deadline reaches the same rounds,** and maybe more. -/
theorem Reaches.mono {later r : Nat} (h : Reaches interval deadline probes r)
    (hlater : deadline ≤ later) : Reaches interval later probes r :=
  fun q hq => ⟨(h q hq).1, Nat.lt_of_lt_of_le (h q hq).2 hlater⟩

/-- A call that decides a wait decides it under a later deadline as well. -/
theorem Decides.mono {later r index : Nat} {p : Probe}
    (h : Decides interval deadline probes r index p) (hlater : deadline ≤ later) :
    Decides interval later probes r index p :=
  ⟨h.reaches.mono hlater, h.probe, h.quiet, h.decisive⟩

/-- A later deadline that the same look at the clock finds reached makes no difference. -/
theorem Expires.mono {later r : Nat} (h : Expires interval deadline probes r)
    (hlater : deadline ≤ later) (hlate : later ≤ roundStart interval probes (r + 1)) :
    Expires interval later probes r :=
  ⟨h.reaches.mono hlater, h.quiet, hlate⟩

/-- A later deadline that the look at the clock does not find reached lets one more round
begin. -/
theorem Expires.reaches_succ {later r : Nat} (h : Expires interval deadline probes r)
    (hlater : deadline ≤ later) (hopen : roundStart interval probes (r + 1) < later) :
    Reaches interval later probes (r + 1) :=
  (h.reaches.mono hlater).succ h.quiet hopen

/-- A round that a call decides is not quiet. -/
theorem Decides.not_quiet {r index : Nat} {p : Probe}
    (h : Decides interval deadline probes r index p) : ¬ Quiet probes r :=
  fun hquiet => h.decisive (hquiet p (List.mem_of_getElem? h.probe))

/-- A round that is not quiet has a first call that ends the wait. -/
theorem exists_first_decisive {r : Nat} (h : ¬ Quiet probes r) :
    ∃ index p, probes[index]? = some p ∧ Quiet (probes.take index) r ∧
      (p.attempt r).verdict ≠ .notReady := by
  induction probes with
  | nil => exact absurd (fun p hp => absurd hp List.not_mem_nil) h
  | cons p rest ih =>
    by_cases hp : (p.attempt r).verdict = .notReady
    · have hrest : ¬ Quiet rest r := by
        intro hq
        refine h fun q hmem => ?_
        rcases List.mem_cons.1 hmem with rfl | hmem
        · exact hp
        · exact hq q hmem
      obtain ⟨index, q, hget, hquiet, hq⟩ := ih hrest
      refine ⟨index + 1, q, by simpa using hget, fun s hs => ?_, hq⟩
      rw [List.take_succ_cons] at hs
      rcases List.mem_cons.1 hs with rfl | hs
      · exact hp
      · exact hquiet s hs
    · exact ⟨0, p, rfl, fun q hq => by simp at hq, hp⟩

/-- **The three ways that so many rounds can go:** a call in one of them ends the wait, or
the deadline is reached after one of them, or the round after them is reached. -/
theorem decides_or_expires_or_reaches (interval deadline : Nat) (probes : List Probe)
    (rounds : Nat) :
    (∃ r < rounds, ∃ index p, Decides interval deadline probes r index p) ∨
      (∃ r < rounds, Expires interval deadline probes r) ∨
      Reaches interval deadline probes rounds := by
  induction rounds with
  | zero => exact Or.inr (Or.inr Reaches.zero)
  | succ rounds ih =>
    rcases ih with ⟨r, hr, hdecides⟩ | ⟨r, hr, hexpires⟩ | hreaches
    · exact Or.inl ⟨r, Nat.lt_succ_of_lt hr, hdecides⟩
    · exact Or.inr (Or.inl ⟨r, Nat.lt_succ_of_lt hr, hexpires⟩)
    · by_cases hquiet : Quiet probes rounds
      · rcases Nat.lt_or_ge (roundStart interval probes (rounds + 1)) deadline with hlt | hge
        · exact Or.inr (Or.inr (hreaches.succ hquiet hlt))
        · exact Or.inr (Or.inl ⟨rounds, Nat.lt_succ_self _, hreaches, hquiet, hge⟩)
      · obtain ⟨index, p, hget, hfront, hp⟩ := exists_first_decisive hquiet
        exact Or.inl ⟨rounds, Nat.lt_succ_self _, index, p, hreaches, hget, hfront, hp⟩

/-- **A positive interval bounds the rounds** by the milliseconds of the deadline. -/
theorem Reaches.le_deadline (hinterval : 0 < interval) {r : Nat}
    (h : Reaches interval deadline probes r) : r ≤ deadline := by
  cases r with
  | zero => exact Nat.zero_le _
  | succ r =>
    have hopen := (h r (Nat.lt_succ_self r)).2
    have hstart := mul_interval_le_roundStart interval probes (r + 1)
    have hrounds : r + 1 ≤ (r + 1) * interval := Nat.le_mul_of_pos_right _ hinterval
    omega

/-- **With a positive interval the schedule is left,** at a call or at the deadline. -/
theorem decides_or_expires (hinterval : 0 < interval) (deadline : Nat) (probes : List Probe) :
    (∃ r index p, Decides interval deadline probes r index p) ∨
      ∃ r, Expires interval deadline probes r := by
  rcases decides_or_expires_or_reaches interval deadline probes (deadline + 1) with
    ⟨r, -, hdecides⟩ | ⟨r, -, hexpires⟩ | hreaches
  · exact Or.inl ⟨r, hdecides⟩
  · exact Or.inr ⟨r, hexpires⟩
  · have := hreaches.le_deadline hinterval
    omega

end Waiter
end ServiceReadiness
