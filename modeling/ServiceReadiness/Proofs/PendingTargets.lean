/-
# The pending targets of a probe of ports

An evaluation takes the pending targets out and puts back those that did not open, so what
is pending after some evaluations could have lost a target, doubled one or changed the
order.  It has not: a sweep makes one attempt to connect for each of its targets, in order
and whatever the others answer (`contacts`), and what it puts back is its targets without
those that accepted (`sweep_eq`).  By induction on the evaluations, what is pending is the
list of all targets without those that have accepted a connection so far
(`pending_after`): with every evaluation the condition gets one more conjunct, and a filter
of a filter is the filter by both.

A target that has accepted is therefore never tried again, and once nothing is pending
nothing ever is.
-/

import Mathlib.Algebra.Ring.Nat
import ServiceReadiness.Proofs.History
import ServiceReadiness.TcpProbe

namespace ServiceReadiness
namespace TcpProbe

/-! ### The attempts of one evaluation -/

/-- How an attempt to connect to a target goes: how long it takes and how it ends. -/
def contact (network : Network) (target : Endpoint) : Nat × Contact :=
  (network target).connection.within attemptBound

/-- A network that never answers. -/
def silentNetwork : Network := fun _ => { connection := .silent }

/-- A target accepts a connection in the time that one attempt may take. -/
def Accepts (network : Network) (target : Endpoint) : Prop := (contact network target).2 = .opened

instance (network : Network) (target : Endpoint) : Decidable (Accepts network target) :=
  inferInstanceAs (Decidable (_ = _))

/-- Attempts to connect to targets, the first of them from time `now` on and each of the others
when the one before it ends: when each of them ends, and how. -/
def contacts (network : Network) : (now : Nat) → List Endpoint → Timeline (Endpoint × Contact)
  | _, [] => []
  | now, target :: rest =>
    let (duration, ending) := contact network target
    (now + duration, target, ending) :: contacts network (now + duration) rest

/-- The time that attempts take, one after the other. -/
def sweepLength (network : Network) (targets : List Endpoint) : Nat :=
  (targets.map fun target => (contact network target).1).sum

/-- **Each target is tried once, in order,** and each attempt ends as its target has it. -/
theorem contacts_map_snd (network : Network) (now : Nat) (targets : List Endpoint) :
    (contacts network now targets).map (·.2) =
      targets.map fun target => (target, (contact network target).2) := by
  induction targets generalizing now with
  | nil => rfl
  | cons target rest ih => simp [contacts, ih]

theorem sweep_cons (network : Network) (now : Nat) (target : Endpoint) (rest : List Endpoint) :
    let (duration, ending) := contact network target
    let later := sweep network (now + duration) rest
    sweep network now (target :: rest) =
      ⟨later.endedAt, (now + duration, contactLine target ending) :: later.notes,
        if Accepts network target then later.closed else target :: later.closed⟩ := rfl

/-- **What a sweep does** is to make its attempts, note each of them, and put back the targets
that do not accept. -/
theorem sweep_eq (network : Network) (now : Nat) (targets : List Endpoint) :
    sweep network now targets =
      ⟨now + sweepLength network targets,
        (contacts network now targets).relabel fun c => contactLine c.1 c.2,
        targets.filter fun target => ¬ Accepts network target⟩ := by
  induction targets generalizing now with
  | nil => rfl
  | cons target rest ih =>
    have hlength : sweepLength network (target :: rest) =
        (contact network target).1 + sweepLength network rest := by
      simp [sweepLength]
    rw [sweep_cons, ih, hlength, ← Nat.add_assoc]
    by_cases haccepts : Accepts network target
    · rw [List.filter_cons_of_neg (by simpa using haccepts), if_pos haccepts]
      rfl
    · rw [List.filter_cons_of_pos (by simpa using haccepts), if_neg haccepts]
      rfl

/-- What a wait sees of an evaluation. -/
theorem attempt_eq (p : TcpProbe) (network : Network) :
    p.attempt network =
      { duration := sweepLength network p.pending
        verdict := if (p.pending.filter fun target => ¬ Accepts network target) = [] then .ready
          else .notReady
        notes := (contacts network 0 p.pending).relabel fun c => contactLine c.1 c.2 } := by
  rw [attempt, sweep_eq, Nat.zero_add]

/-- A sweep asks nobody but its targets. -/
theorem sweep_congr {network other : Network} {targets : List Endpoint}
    (h : ∀ target ∈ targets, (other target).connection = (network target).connection)
    (now : Nat) : sweep other now targets = sweep network now targets := by
  induction targets generalizing now with
  | nil => rfl
  | cons target rest ih =>
    have hrest := ih fun t ht => h t (List.mem_cons_of_mem _ ht)
    simp only [sweep, h target (List.mem_cons_self ..), hrest]

/-! ### A sequence of evaluations -/

variable (p : TcpProbe) (networks : Nat → Network)

/-- An evaluation changes what is pending and nothing else. -/
theorem after_succ (k : Nat) :
    p.after networks (k + 1) =
      { p.after networks k with
        pending := (p.after networks k).pending.filter fun target =>
          ¬ Accepts (networks k) target } := by
  rw [after, evaluate_none, sweep_eq]

/-- **What is pending is what has never accepted,** in the order and as often as at first. -/
theorem pending_after (k : Nat) :
    (p.after networks k).pending =
      p.pending.filter fun target => ∀ i < k, ¬ Accepts (networks i) target := by
  induction k with
  | zero =>
    refine (List.filter_eq_self.2 fun target _ => decide_eq_true fun i hi => ?_).symm
    exact absurd hi (Nat.not_lt_zero i)
  | succ k ih =>
    rw [after_succ, ih, List.filter_filter]
    refine List.filter_congr fun target _ => ?_
    rw [Bool.eq_iff_iff, Bool.and_eq_true, decide_eq_true_iff, decide_eq_true_iff,
      decide_eq_true_iff, Nat.forall_lt_succ_right]
    exact and_comm

/-- Evaluations leave the host and the ports of a probe as they are. -/
theorem host_ports_after (k : Nat) :
    (p.after networks k).host = p.host ∧ (p.after networks k).ports = p.ports := by
  induction k with
  | zero => exact ⟨rfl, rfl⟩
  | succ k ih =>
    rw [after_succ]
    exact ih

/-- Once nothing is pending, nothing ever is. -/
theorem pending_after_of_le {k later : Nat} (hle : k ≤ later)
    (h : (p.after networks k).pending = []) : (p.after networks later).pending = [] := by
  rw [pending_after, List.filter_eq_nil_iff] at h ⊢
  intro target hmem hnever
  refine h target hmem (decide_eq_true fun i hi => ?_)
  exact of_decide_eq_true hnever i (Nat.lt_of_lt_of_le hi hle)

/-- **What is pending is exactly what has never accepted a connection.**  Let a probe of any
ports be evaluated time after time, each time on another network, and let `probe k` be the
probe after `k` evaluations.  Its pending targets are all of its targets, in the order and as
often as they were given, without those that accepted in one of these evaluations.

The next evaluation tries the pending targets, each of them once, in order and one after the
other, also after one that refuses; it tries no target that accepted before, and how any other
endpoint behaves makes no difference to it.  It is ready if nothing is pending after it and
not ready otherwise, and after a ready evaluation all evaluations are ready, whatever the
networks are then.  Its host, its ports and its name stay as they are, and releasing it
succeeds and changes nothing. -/
theorem pending_after_ofPorts (host : String) (ports : List UInt16) (networks : Nat → Network) :
    let probe k := (ofPorts host ports).after networks k
    let check := (ofPorts host ports).check networks
    (∀ k, (probe k).pending = (ports.map fun port => (⟨host, port⟩ : Endpoint)).filter
        fun target => ∀ i < k, ¬ Accepts (networks i) target) ∧
      (∀ k,
        let tried := contacts (networks k) 0 (probe k).pending
        tried.map (·.2) =
            (probe k).pending.map (fun target => (target, (contact (networks k) target).2)) ∧
          (∀ target ∈ (probe k).pending, ∀ i < k, ¬ Accepts (networks i) target) ∧
          (check.attempt k).notes = tried.relabel (fun c => contactLine c.1 c.2) ∧
          (check.attempt k).duration = sweepLength (networks k) (probe k).pending ∧
          ∀ other : Network,
            (∀ target ∈ (probe k).pending,
              (other target).connection = (networks k target).connection) →
            (probe k).attempt other = check.attempt k) ∧
      (∀ k, ((check.attempt k).verdict = .ready ↔ (probe (k + 1)).pending = []) ∧
        ((check.attempt k).verdict = .ready ∨ (check.attempt k).verdict = .notReady)) ∧
      (∀ k later, (check.attempt k).verdict = .ready → k ≤ later →
        (check.attempt later).verdict = .ready) ∧
      ∀ k, (probe k).host = host ∧ (probe k).ports = ports ∧ (probe k).name = check.name ∧
        (probe k).release = .ok (probe k) ∧ check.releaseError = none := by
  intro probe check
  have hready : ∀ k, (check.attempt k).verdict = .ready ↔ (probe (k + 1)).pending = [] :=
    fun k => attempt_verdict_eq_ready_iff (probe k) (networks k)
  have hpending : ∀ k, (probe k).pending = _ := fun k =>
    pending_after (ofPorts host ports) networks k
  refine ⟨hpending, fun k => ?tries, fun k => ⟨hready k, ?verdict⟩, fun k later h hle => ?stays,
    fun k => ?same⟩
  case tries =>
    intro tried
    have hattempt : check.attempt k = _ := attempt_eq (probe k) (networks k)
    refine ⟨contacts_map_snd .., fun target hmem => ?_, congrArg Attempt.notes hattempt,
      congrArg Attempt.duration hattempt, fun other hother => ?_⟩
    · rw [hpending] at hmem
      exact of_decide_eq_true (List.mem_filter.1 hmem).2
    · show (probe k).attempt other = (probe k).attempt (networks k)
      rw [attempt, attempt, sweep_congr hother]
  case verdict =>
    have hverdict : (check.attempt k).verdict = _ :=
      congrArg Attempt.verdict (attempt_eq (probe k) (networks k))
    rw [hverdict]
    split
    · exact Or.inl rfl
    · exact Or.inr rfl
  case stays =>
    rw [hready] at h ⊢
    exact pending_after_of_le _ _ (Nat.succ_le_succ hle) h
  case same =>
    obtain ⟨hhost, hports⟩ := host_ports_after (ofPorts host ports) networks k
    refine ⟨hhost, hports, ?_, rfl, rfl⟩
    show (probe k).name = (ofPorts host ports).name
    rw [name, name, hhost, hports]

/-- Networks on which a port accepts connections during the evaluations that `isOpen` tells. -/
def portsOpen (isOpen : Nat → UInt16 → Bool) (k : Nat) : Network := fun target =>
  { connection := if isOpen k target.port then .accepted 1 else .refused 2 "refused" }

/-- The conditions of `pending_after_ofPorts` can be met.  Of the ports 80, 22 and once more 80, the
second is open during the first evaluation only and the other one during the third.  The
second evaluation tries port 80 twice and does not care about port 22; the third is ready,
and so are all that follow, when every port is closed again. -/
theorem pending_after_ofPorts_of_closing_ports :
    let isOpen k port := (k == 0 && port == 22) || (k == 2 && port == 80)
    let probe k := (ofPorts "db" [80, 22, 80]).after (portsOpen isOpen) k
    let check := (ofPorts "db" [80, 22, 80]).check (portsOpen isOpen)
    (probe 1).pending = [⟨"db", 80⟩, ⟨"db", 80⟩] ∧
      (contacts (portsOpen isOpen 1) 0 (probe 1).pending).map (·.2) =
        [(⟨"db", 80⟩, .refused "refused"), (⟨"db", 80⟩, .refused "refused")] ∧
      (check.attempt 1).duration = 4 ∧
      (probe 1).attempt (portsOpen (fun _ port => port == 22) 1) = check.attempt 1 ∧
      (check.attempt 1).verdict ≠ .ready ∧ (check.attempt 2).verdict = .ready ∧
      (check.attempt 100).verdict = .ready := by
  intro isOpen probe check
  obtain ⟨hpending, htries, hverdict, hstays, -⟩ :=
    pending_after_ofPorts "db" [80, 22, 80] (portsOpen isOpen)
  have hone : ((ofPorts "db" [80, 22, 80]).after (portsOpen isOpen) 1).pending =
      [⟨"db", 80⟩, ⟨"db", 80⟩] := (hpending 1).trans (by decide)
  have hthree : (probe 3).pending = [] := (hpending 3).trans (by decide)
  have htwo : (probe 2).pending ≠ [] := fun h => absurd ((hpending 2).symm.trans h) (by decide)
  have hready : (check.attempt 2).verdict = .ready := (hverdict 2).1.2 hthree
  obtain ⟨htried, -, -, hduration, hframe⟩ := htries 1
  refine ⟨hone, htried.trans ?_, hduration.trans ?_, hframe _ fun target hmem => ?_,
    fun h => htwo ((hverdict 1).1.1 h), hready, hstays 2 100 hready (by decide)⟩
  · rw [hone]
    decide
  · rw [hone]
    decide
  · rw [hone] at hmem
    obtain rfl : target = ⟨"db", 80⟩ := by simpa using hmem
    rfl

end TcpProbe
end ServiceReadiness
