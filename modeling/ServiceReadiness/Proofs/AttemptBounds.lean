/-
# How long the probes of the library take

Every attempt to reach something is given up at the same bound: an exchange with a server as
a whole, an inspection of a container, and one connection to one port.  A probe of a URL and
the watch over a container make one attempt in an evaluation.  A probe of ports makes one for
each pending port, one after the other, so what bounds its evaluation is the number of
pending ports (`sweepLength_le`), which only becomes smaller (`length_pending_after_le`).

On a network that never answers, an evaluation does take the bound for each pending port
(`sweepLength_silentNetwork`).  So a probe of ports keeps to the bound of one attempt exactly if
it has one pending port at most (`TcpProbe.duration_le_attemptBound_iff`).

A round takes no longer than the attempts that its first evaluations could make
(`roundLength_le_attempts`), and a loop that begins before its deadline ends less than a round
and a pause after it, in whatever way it ends (`poll_endedAt_lt`).  Ports that never answer do
make a round as long as this (`endedAt_silent`), so that one attempt for each probe of ports is
enough for every wait over them exactly if none of them has a second one pending
(`endedAt_lt_attemptBound_iff`).
-/

import ServiceReadiness.Proofs.PendingTargets
import ServiceReadiness.Proofs.RoundRobin
import ServiceReadiness.Proofs.TimeBounds
import ServiceReadiness.WaitRequest
import ServiceReadiness.Container.Watch

namespace ServiceReadiness

/-! ### The probes of the library -/

/-- A probe of the library, and what its evaluations find. -/
inductive LibraryProbe where
  | http (probe : HttpProbe) (networks : Nat → Network)
  | tcp (probe : TcpProbe) (networks : Nat → Network)
  | watch (id : String) (inspections : Nat → Inspection)

namespace TcpProbe

theorem contact_fst_le (network : Network) (target : Endpoint) :
    (contact network target).1 ≤ attemptBound := Connection.within_fst_le ..

/-- **A sweep takes no longer than an attempt for each of its targets.** -/
theorem sweepLength_le (network : Network) (targets : List Endpoint) :
    sweepLength network targets ≤ targets.length * attemptBound := by
  have hsum := List.sum_le_card_nsmul (targets.map fun target => (contact network target).1)
    attemptBound fun duration hmem => by
      obtain ⟨target, -, rfl⟩ := List.mem_map.1 hmem
      exact contact_fst_le network target
  rwa [List.length_map, Nat.nsmul_eq_mul] at hsum

/-- There are never more targets pending than at first. -/
theorem length_pending_after_le (p : TcpProbe) (networks : Nat → Network) (k : Nat) :
    (p.after networks k).pending.length ≤ p.pending.length := by
  rw [pending_after]
  exact List.length_filter_le ..

/-- **Silent targets take a whole attempt each.** -/
theorem sweepLength_silentNetwork (targets : List Endpoint) :
    sweepLength silentNetwork targets = targets.length * attemptBound := by
  have hcontact : ∀ target, (contact silentNetwork target).1 = attemptBound := fun _ => rfl
  simp [sweepLength, hcontact]

/-- **Ports that never answer are not ready.** -/
theorem attempt_verdict_of_silent {p : TcpProbe} (h : p.pending ≠ []) :
    (p.attempt silentNetwork).verdict = .notReady := by
  have hclosed : ∀ target, ¬ Accepts silentNetwork target := fun target => by
    simp [Accepts, contact, silentNetwork, Connection.within]
  rw [attempt_eq]
  simp [hclosed, h]

/-- A check evaluates its probe as the evaluations before have left it. -/
theorem check_duration (p : TcpProbe) (networks : Nat → Network) (call : Nat) :
    ((p.check networks).attempt call).duration =
      sweepLength (networks call) (p.after networks call).pending := by
  change ((p.after networks call).attempt (networks call)).duration = _
  rw [attempt_eq]

/-- **A probe of ports keeps to the bound of one attempt** whatever the networks do, in all of its
evaluations, exactly if one port at most is pending. -/
theorem duration_le_attemptBound_iff (p : TcpProbe) :
    (∀ networks call, ((p.check networks).attempt call).duration ≤ attemptBound) ↔
      p.pending.length ≤ 1 := by
  constructor
  · intro h
    have hsilent := h (fun _ => silentNetwork) 0
    rw [check_duration, after, sweepLength_silentNetwork] at hsilent
    have hbound : 0 < attemptBound := by decide
    refine Nat.le_of_mul_le_mul_right ?_ hbound
    rwa [Nat.one_mul]
  · intro hsingle networks call
    have hpending := Nat.le_trans (p.length_pending_after_le networks call) hsingle
    have hsweep := sweepLength_le (networks call) (p.after networks call).pending
    have hattempts := Nat.mul_le_mul_right attemptBound hpending
    rw [check_duration]
    omega

end TcpProbe

namespace LibraryProbe

/-- The probe as a wait sees it. -/
def probe : LibraryProbe → Probe
  | http p networks => p.check networks
  | tcp p networks => p.check networks
  | watch id inspections => ContainerWatch.probe id inspections

/-- The attempts to reach something that an evaluation may make: one for each pending port,
and else one. -/
def attempts : LibraryProbe → (call : Nat) → Nat
  | tcp p networks, call => (p.after networks call).pending.length
  | http .., _ | watch .., _ => 1

/-- **An evaluation takes no longer than its attempts may.** -/
theorem duration_le (b : LibraryProbe) (call : Nat) :
    (b.probe.attempt call).duration ≤ b.attempts call * attemptBound := by
  cases b with
  | http p networks =>
    rw [attempts, Nat.one_mul]
    exact p.evaluate_duration_le (networks call)
  | tcp p networks =>
    rw [probe, TcpProbe.check_duration]
    exact TcpProbe.sweepLength_le ..
  | watch id inspections =>
    rw [attempts, Nat.one_mul]
    exact ContainerWatch.attempt_duration_le id (inspections call)

/-- Later evaluations make no more attempts than the first. -/
theorem attempts_le (b : LibraryProbe) (call : Nat) : b.attempts call ≤ b.attempts 0 := by
  cases b with
  | http p networks => exact Nat.le_refl 1
  | tcp p networks => exact p.length_pending_after_le networks call
  | watch id inspections => exact Nat.le_refl 1

end LibraryProbe

namespace Waiter

/-! ### A wait over them -/

/-- The attempts that the first evaluations of several probes may make together. -/
def attemptsAtFirst (probes : List LibraryProbe) : Nat := (probes.map (·.attempts 0)).sum

/-- A round takes no longer than the attempts at first. -/
theorem roundLength_le_attempts (probes : List LibraryProbe) (call : Nat) :
    roundLength call (probes.map LibraryProbe.probe) ≤ attemptsAtFirst probes * attemptBound := by
  induction probes with
  | nil => exact Nat.zero_le _
  | cons b rest ih =>
    have hfirst := Nat.le_trans (b.duration_le call)
      (Nat.mul_le_mul_right attemptBound (b.attempts_le call))
    rw [List.map_cons, roundLength_cons, attemptsAtFirst, List.map_cons, List.sum_cons,
      Nat.add_mul]
    exact Nat.add_le_add hfirst ih

/-- Probes that make one attempt at most make no more attempts than they are. -/
theorem attemptsAtFirst_le_length {probes : List LibraryProbe}
    (h : ∀ b ∈ probes, b.attempts 0 ≤ 1) : attemptsAtFirst probes ≤ probes.length := by
  have hsum := List.sum_le_card_nsmul (probes.map (·.attempts 0)) 1 fun attempts hmem => by
    obtain ⟨b, hb, rfl⟩ := List.mem_map.1 hmem
    exact h b hb
  rwa [List.length_map, Nat.nsmul_eq_mul, Nat.mul_one] at hsum

/-- A round is over when all of its calls could be, at the latest. -/
theorem round_endedAt_le (cut : Option Nat) (call index now : Nat) (probes : List Probe) :
    (round cut call index now probes).endedAt ≤ now + roundLength call probes := by
  induction probes generalizing index now with
  | nil => exact Nat.le_refl now
  | cons p rest ih =>
    rw [roundLength_cons, ← Nat.add_assoc]
    rcases round_cons_cases cut call index now p rest with
      ⟨c, hcut, hround⟩ | ⟨-, -, hround⟩ | ⟨-, -, hround⟩
    · have hlt := (cutBefore_eq_some.1 hcut).2
      rw [hround]
      exact Nat.le_trans (Nat.le_of_lt hlt) (Nat.le_add_right ..)
    · rw [hround]
      exact ih ..
    · rw [hround]
      exact Nat.le_add_right ..

/-- **A loop that begins before its deadline ends less than a round and a pause after it,** in
whatever way it ends and wherever it is cut. -/
theorem poll_endedAt_lt {interval deadline long : Nat} {cut : Option Nat} {probes : List Probe}
    (hlong : ∀ call, roundLength call probes ≤ long) (allowance call : Nat) {now : Nat}
    (hnow : now < deadline) :
    (poll interval deadline cut probes allowance call now).endedAt <
      deadline + long + interval := by
  induction allowance generalizing call now with
  | zero => exact Nat.lt_of_lt_of_le hnow (by omega)
  | succ allowance ih =>
    have hended := round_endedAt_le cut call 0 now probes
    have hround := hlong call
    rcases poll_succ_cases interval deadline cut probes allowance call now with
      ⟨ending, -, h⟩ | ⟨-, c, hcut, h⟩ | ⟨-, -, -, h⟩ | ⟨-, -, hearly, h⟩
    · rw [h]
      dsimp only
      omega
    · have hlt := (cutBefore_eq_some.1 hcut).2
      rw [h]
      dsimp only
      omega
    · rw [h]
      dsimp only
      omega
    · rw [h]
      exact ih (call + 1) hearly

/-- **A wait keeps to its deadline by the attempts that its probes make:** it ends less than the
attempts of one round and one pause after it. -/
theorem waitWithin_endedAt_lt {timing : Timing} {secs : Int}
    (hdeadline : 0 < effectiveMaxWait timing secs) (probes : List LibraryProbe) (rounds : Nat) :
    (waitWithin rounds timing secs none (probes.map LibraryProbe.probe)).endedAt <
      effectiveMaxWait timing secs + attemptsAtFirst probes * attemptBound +
        timing.retryInterval := by
  by_cases hprobes : probes = []
  · subst hprobes
    exact Nat.lt_of_lt_of_le hdeadline (by omega)
  · rw [waitWithin_of_ne_nil (mt List.map_eq_nil_iff.1 hprobes)]
    exact poll_endedAt_lt (roundLength_le_attempts probes) rounds 0 hdeadline

/-- If no probe makes more than one attempt, there are no more attempts than probes. -/
theorem waitWithin_endedAt_lt_of_single {timing : Timing} {secs : Int}
    (hdeadline : 0 < effectiveMaxWait timing secs) {probes : List LibraryProbe}
    (hsingle : ∀ b ∈ probes, b.attempts 0 ≤ 1) (rounds : Nat) :
    (waitWithin rounds timing secs none (probes.map LibraryProbe.probe)).endedAt <
      effectiveMaxWait timing secs + probes.length * attemptBound + timing.retryInterval := by
  have hattempts := Nat.mul_le_mul_right attemptBound (attemptsAtFirst_le_length hsingle)
  have hended := waitWithin_endedAt_lt hdeadline probes rounds
  omega

/-- A round over ports that never answer takes an attempt for each of them. -/
theorem roundLength_silent (probes : List TcpProbe) :
    roundLength 0 (probes.map (·.check fun _ => TcpProbe.silentNetwork)) =
      (probes.map (·.pending.length)).sum * attemptBound := by
  induction probes with
  | nil => exact (Nat.zero_mul _).symm
  | cons p rest ih =>
    rw [List.map_cons, roundLength_cons, ih, TcpProbe.check_duration, TcpProbe.after,
      TcpProbe.sweepLength_silentNetwork, List.map_cons, List.sum_cons, Nat.add_mul]

/-- Probes that each have something pending have as many targets pending as they are. -/
theorem length_le_sum_pending {probes : List TcpProbe} (hpending : ∀ p ∈ probes, p.pending ≠ []) :
    probes.length ≤ (probes.map (·.pending.length)).sum := by
  have hsum := List.card_nsmul_le_sum (probes.map (·.pending.length)) 1 fun length hmem => by
    obtain ⟨p, hp, rfl⟩ := List.mem_map.1 hmem
    exact List.length_pos_iff.2 (hpending p hp)
  rwa [List.length_map, Nat.nsmul_eq_mul, Nat.mul_one] at hsum

/-- **A wait over ports that never answer** ends with its first round if the deadline is over by
then and there is no pause. -/
theorem endedAt_silent {probes : List TcpProbe} (hprobes : probes ≠ [])
    (hpending : ∀ p ∈ probes, p.pending ≠ []) :
    (waitWithin 1 ⟨1, 0⟩ 0 none
        (probes.map (·.check fun _ => TcpProbe.silentNetwork))).endedAt =
      (probes.map (·.pending.length)).sum * attemptBound := by
  have hfirst : roundStart 0 (probes.map (·.check fun _ => TcpProbe.silentNetwork)) 1 =
      (probes.map (·.pending.length)).sum * attemptBound := by
    rw [roundStart, roundStart, roundLength_silent, Nat.zero_add, Nat.add_zero]
  have hquiet : Quiet (probes.map (·.check fun _ => TcpProbe.silentNetwork)) 0 := by
    intro q hq
    obtain ⟨p, hp, rfl⟩ := List.mem_map.1 hq
    exact TcpProbe.attempt_verdict_of_silent (hpending p hp)
  have hexpired : 1 ≤ (probes.map (·.pending.length)).sum * attemptBound := by
    have hlength := List.length_pos_iff.2 hprobes
    have hsum := length_le_sum_pending hpending
    exact Nat.mul_pos (by omega) (by decide)
  have hexpires : Expires (Timing.retryInterval ⟨1, 0⟩) (effectiveMaxWait ⟨1, 0⟩ 0)
      (probes.map (·.check fun _ => TcpProbe.silentNetwork)) 0 :=
    ⟨.zero, hquiet, le_of_le_of_eq hexpired hfirst.symm⟩
  obtain ⟨-, hended, -⟩ :=
    waitWithin_of_expires (mt List.map_eq_nil_iff.1 hprobes) hexpires Nat.zero_lt_one
  exact hended.trans hfirst

/-- **Waits over probes of ports keep to one attempt for each probe and one pause** after their
deadline, whatever the networks do, exactly if no probe has more than one port pending. -/
theorem endedAt_lt_attemptBound_iff {probes : List TcpProbe}
    (hpending : ∀ p ∈ probes, p.pending ≠ []) :
    (∀ networks timing secs rounds, 0 < effectiveMaxWait timing secs →
      (waitWithin rounds timing secs none (probes.map (·.check networks))).endedAt <
        effectiveMaxWait timing secs + probes.length * attemptBound + timing.retryInterval) ↔
      ∀ p ∈ probes, p.pending.length ≤ 1 := by
  constructor
  · intro h p hp
    have hended := h (fun _ => TcpProbe.silentNetwork) ⟨1, 0⟩ 0 1 (by decide)
    rw [endedAt_silent (List.ne_nil_of_mem hp) hpending] at hended
    have hdeadline : effectiveMaxWait ⟨1, 0⟩ 0 = 1 := by decide
    have hbound : attemptBound = 500 := by decide
    simp only [hdeadline, hbound] at hended
    -- the others have a port pending each, which leaves no room for a second one here
    obtain ⟨front, back, rfl⟩ := List.append_of_mem hp
    have hfront := length_le_sum_pending fun q hq => hpending q (List.mem_append_left _ hq)
    have hback := length_le_sum_pending fun q hq =>
      hpending q (List.mem_append_right _ (List.mem_cons_of_mem _ hq))
    simp only [List.map_append, List.map_cons, List.sum_append, List.sum_cons,
      List.length_append, List.length_cons] at hended
    omega
  · intro hsingle networks timing secs rounds hdeadline
    have hattempts : ∀ b ∈ probes.map (LibraryProbe.tcp · networks), b.attempts 0 ≤ 1 := by
      intro b hb
      obtain ⟨p, hp, rfl⟩ := List.mem_map.1 hb
      exact hsingle p hp
    have hended := waitWithin_endedAt_lt_of_single hdeadline hattempts rounds
    rwa [List.length_map, List.map_map] at hended

/-- **When the probes of the library keep to the bound of one attempt.**  Let there be probes of
the library, whatever their evaluations find, and probes of ports.  An evaluation of a probe of a
URL, or of the watch over a container, keeps to the bound.  An evaluation of a probe of ports takes
no longer than this for each port that is pending, and all of its evaluations keep to the bound on
every network exactly if one port at most is pending.  Probes that each have a port pending leave
every wait over them less than one attempt for each probe and one pause after its deadline exactly
if none of them has more than one.

A wait over any probes of the library with a positive deadline, however many rounds it makes,
ends less than the attempts of one round and one pause after its deadline; where no probe has more
than one port pending, less than one attempt for each probe and one pause.  And it does end, if
its pauses take time. -/
theorem library_keeps_attemptBound_iff (probes : List LibraryProbe) (ports : List TcpProbe) :
    (∀ b ∈ probes, ∀ call,
      (b.probe.attempt call).duration ≤ b.attempts call * attemptBound ∧
        ((∀ p networks, b ≠ .tcp p networks) →
          (b.probe.attempt call).duration ≤ attemptBound)) ∧
    (∀ p ∈ ports,
      (∀ networks call, ((p.check networks).attempt call).duration ≤ attemptBound) ↔
        p.pending.length ≤ 1) ∧
    ((∀ p ∈ ports, p.pending ≠ []) →
      ((∀ networks timing secs rounds, 0 < effectiveMaxWait timing secs →
        (waitWithin rounds timing secs none (ports.map (·.check networks))).endedAt <
          effectiveMaxWait timing secs + ports.length * attemptBound + timing.retryInterval) ↔
        ∀ p ∈ ports, p.pending.length ≤ 1)) ∧
    ∀ timing secs, 0 < effectiveMaxWait timing secs →
      let deadline := effectiveMaxWait timing secs
      let interval := timing.retryInterval
      let run := fun rounds => waitWithin rounds timing secs none (probes.map LibraryProbe.probe)
      (∀ rounds,
        (run rounds).endedAt < deadline + attemptsAtFirst probes * attemptBound + interval) ∧
      ((∀ b ∈ probes, b.attempts 0 ≤ 1) → ∀ rounds,
        (run rounds).endedAt < deadline + probes.length * attemptBound + interval) ∧
      (0 < interval →
        (waitFor timing secs none (probes.map LibraryProbe.probe)).ending ≠ .unfinished) := by
  refine ⟨fun b _ call => ⟨b.duration_le call, fun hother => ?attempt⟩,
    fun p _ => p.duration_le_attemptBound_iff, endedAt_lt_attemptBound_iff,
    fun timing secs hdeadline => ⟨waitWithin_endedAt_lt hdeadline probes,
      waitWithin_endedAt_lt_of_single hdeadline,
      fun hinterval => waitFor_ending_ne_unfinished hinterval secs _⟩⟩
  case attempt =>
    have hle := b.duration_le call
    cases b with
    | http p networks => rwa [LibraryProbe.attempts, Nat.one_mul] at hle
    | tcp p networks => exact absurd rfl (hother p networks)
    | watch id inspections => rwa [LibraryProbe.attempts, Nat.one_mul] at hle

/-- A probe of one port of a host. -/
def onePort : TcpProbe := .ofPorts "db" [5432]

/-- A probe of two ports of a host. -/
def twoPorts : TcpProbe := .ofPorts "db" [5432, 6379]

/-- A probe of two ports that never answer. -/
def silentPorts : LibraryProbe := .tcp twoPorts fun _ => TcpProbe.silentNetwork

/-- A watch over a container whose inspections are all answered too late. -/
def slowWatch : LibraryProbe := .watch "app" fun _ => ⟨some 501, .ok true⟩

/-- A probe of one port keeps to the bound of one attempt, a probe of two does not, and neither do
all waits over the two of them.  The bound by the attempts is sharp: a round over two silent ports
and a slow watch takes three attempts, and the look at the clock after the pause comes one
millisecond before the bound. -/
theorem library_keeps_attemptBound_iff_of_one_port :
    (∀ networks call, ((onePort.check networks).attempt call).duration ≤ attemptBound) ∧
      ¬ (∀ networks call, ((twoPorts.check networks).attempt call).duration ≤ attemptBound) ∧
      (∀ p ∈ [onePort, twoPorts], p.pending ≠ []) ∧
      ¬ (∀ networks timing secs rounds, 0 < effectiveMaxWait timing secs →
        (waitWithin rounds timing secs none ([onePort, twoPorts].map (·.check networks))).endedAt <
          effectiveMaxWait timing secs + 2 * attemptBound + timing.retryInterval) ∧
      0 < effectiveMaxWait ⟨1, 1⟩ 0 ∧
      (waitFor ⟨1, 1⟩ 0 none [silentPorts.probe, slowWatch.probe]).endedAt = 1501 ∧
      1501 < 1 + 3 * attemptBound + 1 ∧ (∀ b ∈ [slowWatch], b.attempts 0 ≤ 1) ∧
      (waitFor ⟨1, 1⟩ 0 none [slowWatch.probe]).endedAt < 1 + 1 * attemptBound + 1 ∧
      (waitFor ⟨1, 1⟩ 0 none [slowWatch.probe]).ending ≠ .unfinished := by
  have hdeadline : 0 < effectiveMaxWait ⟨1, 1⟩ 0 := by decide
  have hsingle : ∀ b ∈ [slowWatch], b.attempts 0 ≤ 1 := List.forall_mem_singleton.2 (by decide)
  have hended : (waitFor ⟨1, 1⟩ 0 none [silentPorts.probe, slowWatch.probe]).endedAt = 1501 := by
    decide
  have hpending : ∀ p ∈ [onePort, twoPorts], p.pending ≠ [] := by decide
  have hmany : ¬ ∀ p ∈ [onePort, twoPorts], p.pending.length ≤ 1 := by decide
  obtain ⟨-, hports, hwaits, hwait⟩ :=
    library_keeps_attemptBound_iff [silentPorts, slowWatch] [onePort, twoPorts]
  obtain ⟨hone, htwoPorts⟩ := List.forall_mem_cons.1 hports
  have htwo := List.forall_mem_singleton.1 htwoPorts
  obtain ⟨hlate, -⟩ := hwait ⟨1, 1⟩ 0 hdeadline
  obtain ⟨-, -, -, hwatch⟩ := library_keeps_attemptBound_iff [slowWatch] []
  obtain ⟨-, hearly, hends⟩ := hwatch ⟨1, 1⟩ 0 hdeadline
  exact ⟨hone.2 (by decide), fun h => absurd (htwo.1 h) (by decide), hpending,
    fun h => hmany ((hwaits hpending).1 h), hdeadline, hended,
    hended ▸ hlate (allowance ⟨1, 1⟩ 0), hsingle, hearly hsingle _, hends (by decide)⟩

/-- **One attempt for each probe is not enough.**  An evaluation of two silent ports takes two
attempts, and a wait for them ends more than one attempt and one pause after its deadline of a
millisecond.  And with a deadline of nothing, which comes before the first round, a wait over
one watch ends with the whole attempt and the whole pause after it. -/
theorem evaluation_outlasts_attempt :
    ¬ (silentPorts.probe.attempt 0).duration ≤ attemptBound ∧
      ¬ (waitFor ⟨1, 1⟩ 0 none [silentPorts.probe]).endedAt <
        effectiveMaxWait ⟨1, 1⟩ 0 + 1 * attemptBound + 1 ∧
      ¬ (waitFor ⟨0, 1⟩ 0 none [slowWatch.probe]).endedAt <
        effectiveMaxWait ⟨0, 1⟩ 0 + 1 * attemptBound + 1 := by
  decide

end Waiter
end ServiceReadiness
