/-
# Evaluations of a probe of ports that are dropped

An evaluation takes the pending targets out and puts back those that did not open when it is
through with all of them.  One that is dropped in between puts nothing back
(`evaluate_of_dropped`), and a probe to which nothing is pending is ready at once and for good
(`attempt_of_pending_eq_nil`).  So what is pending after some evaluations is what has not
accepted a connection if none of them was dropped (`pending_afterTrials_of_not_droppedAlong`),
and nothing at all otherwise (`pending_afterTrials_of_droppedAlong`).

A caller can rely on the pending targets, and on the readiness that is read off them, exactly
as long as no evaluation was dropped, unless every port has accepted all the same.
-/

import ServiceReadiness.Proofs.PendingTargets

namespace ServiceReadiness
namespace TcpProbe

/-- An evaluation as its caller makes it: the network that it finds, and the time at which it
is dropped if it still runs then. -/
structure Trial where
  network : Network
  cut : Option Nat := none

variable (p : TcpProbe) (t : Trial)

/-- An evaluation is dropped while an attempt to connect is outstanding. -/
def Dropped : Prop := ∃ c, t.cut = some c ∧ c < sweepLength t.network p.pending

/-- The targets that accept a connection in an evaluation, as far as it goes. -/
def acceptedIn : List Endpoint :=
  (contacts t.network 0 p.pending).filterMap fun (time, target, ending) =>
    if ending = .opened ∧ t.cut.all (time ≤ ·) = true then some target else none

/-- A probe after evaluations, one after the other. -/
def afterTrials : TcpProbe → List Trial → TcpProbe
  | p, [] => p
  | p, t :: rest => afterTrials (p.evaluate t.network t.cut) rest

/-- One of the evaluations is dropped. -/
def DroppedAlong : TcpProbe → List Trial → Prop
  | _, [] => False
  | p, t :: rest => p.Dropped t ∨ DroppedAlong (p.evaluate t.network t.cut) rest

/-- The targets that accept a connection along the evaluations. -/
def acceptedAlong : TcpProbe → List Trial → List Endpoint
  | _, [] => []
  | p, t :: rest => p.acceptedIn t ++ acceptedAlong (p.evaluate t.network t.cut) rest

/-! ### One evaluation -/

/-- An attempt to connect ends within the evaluation to which it belongs. -/
theorem time_le_of_mem_contacts {network : Network} {now : Nat} {targets : List Endpoint}
    {entry : Nat × Endpoint × Contact} (h : entry ∈ contacts network now targets) :
    entry.1 ≤ now + sweepLength network targets := by
  induction targets generalizing now with
  | nil => exact absurd h List.not_mem_nil
  | cons target rest ih =>
    have hlength : sweepLength network (target :: rest) =
        (contact network target).1 + sweepLength network rest := by
      simp [sweepLength]
    rw [hlength, ← Nat.add_assoc]
    rcases List.mem_cons.1 h with rfl | h
    · exact Nat.le_add_right _ _
    · exact ih h

/-- An evaluation that is not dropped puts back the targets that did not accept. -/
theorem evaluate_of_not_dropped (h : ¬ p.Dropped t) :
    p.evaluate t.network t.cut =
      { p with pending := p.pending.filter fun target => ¬ Accepts t.network target } := by
  have hcut : cutBefore t.cut (0 + sweepLength t.network p.pending) = none :=
    cutBefore_eq_none.2 fun c hc => by
      by_contra hlt
      exact h ⟨c, hc, by omega⟩
  simp only [evaluate, takePending, sweep_eq, hcut]

/-- **An evaluation that is dropped puts nothing back.** -/
theorem evaluate_of_dropped (h : p.Dropped t) :
    p.evaluate t.network t.cut = { p with pending := [] } := by
  obtain ⟨c, hc, hlt⟩ := h
  have hcut : cutBefore t.cut (0 + sweepLength t.network p.pending) = some c :=
    cutBefore_eq_some.2 ⟨hc, by omega⟩
  simp only [evaluate, takePending, sweep_eq, hcut]

theorem exists_mem_contacts (network : Network) (now : Nat) (targets : List Endpoint)
    (target : Endpoint) (ending : Contact) :
    (∃ time, (time, target, ending) ∈ contacts network now targets) ↔
      target ∈ targets ∧ (contact network target).2 = ending := by
  have hmem : (target, ending) ∈ (contacts network now targets).map (·.2) ↔
      target ∈ targets ∧ (contact network target).2 = ending := by
    rw [contacts_map_snd, List.mem_map]
    constructor
    · rintro ⟨_, htarget, heq⟩
      obtain ⟨rfl, rfl⟩ := Prod.mk.inj heq
      exact ⟨htarget, rfl⟩
    · rintro ⟨htarget, rfl⟩
      exact ⟨target, htarget, rfl⟩
  rw [← hmem, List.mem_map]
  constructor
  · rintro ⟨time, h⟩
    exact ⟨_, h, rfl⟩
  · rintro ⟨⟨time, _⟩, h, rfl⟩
    exact ⟨time, h⟩

/-- The targets that accept in an evaluation that is not dropped are the pending ones whose
ports are open. -/
theorem mem_acceptedIn_of_not_dropped (h : ¬ p.Dropped t) (target : Endpoint) :
    target ∈ p.acceptedIn t ↔ target ∈ p.pending ∧ Accepts t.network target := by
  rw [acceptedIn, List.mem_filterMap, Accepts, ← exists_mem_contacts t.network 0]
  constructor
  · rintro ⟨⟨time, target', ending⟩, hmem, heq⟩
    dsimp only at heq
    split at heq
    case isTrue hopened =>
      obtain rfl := Option.some.inj heq
      obtain ⟨rfl, -⟩ := hopened
      exact ⟨time, hmem⟩
    case isFalse => cases heq
  · rintro ⟨time, hmem⟩
    refine ⟨_, hmem, if_pos ⟨rfl, ?_⟩⟩
    cases hcut : t.cut with
    | none => rfl
    | some c =>
      have htime := time_le_of_mem_contacts hmem
      have hc : sweepLength t.network p.pending ≤ c := by
        by_contra hlt
        exact h ⟨c, hcut, Nat.not_le.1 hlt⟩
      refine decide_eq_true ?_
      dsimp only at htime
      omega

/-- A probe to which nothing is pending tries nothing and is ready at once. -/
theorem attempt_of_pending_eq_nil (h : p.pending = []) (network : Network) :
    p.attempt network = ⟨0, .ready, []⟩ := by
  rw [attempt, h]
  rfl

theorem pending_evaluate_of_pending_eq_nil (h : p.pending = []) :
    (p.evaluate t.network t.cut).pending = [] := by
  by_cases hdropped : p.Dropped t
  · rw [evaluate_of_dropped p t hdropped]
  · rw [evaluate_of_not_dropped p t hdropped, h]
    rfl

/-! ### A sequence of evaluations -/

/-- Once nothing is pending, nothing ever is. -/
theorem pending_afterTrials_of_pending_eq_nil (h : p.pending = []) (trials : List Trial) :
    (p.afterTrials trials).pending = [] := by
  induction trials generalizing p with
  | nil => exact h
  | cons t rest ih => exact ih _ (pending_evaluate_of_pending_eq_nil p t h)

/-- **After a dropped evaluation nothing is pending,** whatever has accepted. -/
theorem pending_afterTrials_of_droppedAlong {trials : List Trial} (h : p.DroppedAlong trials) :
    (p.afterTrials trials).pending = [] := by
  induction trials generalizing p with
  | nil => exact absurd h id
  | cons t rest ih =>
    rcases h with h | h
    · refine pending_afterTrials_of_pending_eq_nil _ ?_ rest
      rw [evaluate_of_dropped p t h]
    · exact ih _ h

/-- **If no evaluation was dropped, what is pending is what has not accepted.** -/
theorem pending_afterTrials_of_not_droppedAlong {trials : List Trial}
    (h : ¬ p.DroppedAlong trials) :
    (p.afterTrials trials).pending =
      p.pending.filter fun target => target ∉ p.acceptedAlong trials := by
  induction trials generalizing p with
  | nil => exact (List.filter_eq_self.2 fun _ _ => decide_eq_true List.not_mem_nil).symm
  | cons t rest ih =>
    obtain ⟨hfirst, hrest⟩ := not_or.1 h
    rw [afterTrials, ih _ hrest, evaluate_of_not_dropped p t hfirst, List.filter_filter]
    refine List.filter_congr fun target htarget => ?_
    have haccepted := p.mem_acceptedIn_of_not_dropped t hfirst target
    rw [acceptedAlong, evaluate_of_not_dropped p t hfirst, Bool.eq_iff_iff]
    simp [haccepted, htarget, and_comm]

theorem acceptedAlong_append (trials more : List Trial) :
    p.acceptedAlong (trials ++ more) =
      p.acceptedAlong trials ++ (p.afterTrials trials).acceptedAlong more := by
  induction trials generalizing p with
  | nil => rfl
  | cons t rest ih =>
    rw [List.cons_append, acceptedAlong, ih, acceptedAlong, afterTrials, List.append_assoc]

/-- What a probe tells after evaluations can be relied on: every target that has not accepted
is pending, and an evaluation that is ready when it is completed is ready because every target
has accepted by then. -/
structure Reliable (trials : List Trial) : Prop where
  pending : ∀ target ∈ p.pending, target ∉ p.acceptedAlong trials →
    target ∈ (p.afterTrials trials).pending
  ready : ∀ network, ((p.afterTrials trials).attempt network).verdict = .ready →
    ∀ target ∈ p.pending, target ∈ p.acceptedAlong (trials ++ [⟨network, none⟩])

theorem not_dropped_of_cut_eq_none (network : Network) : ¬ p.Dropped ⟨network, none⟩ := by
  rintro ⟨c, hc, -⟩
  cases hc

/-- The pending targets accept in an evaluation that is ready. -/
theorem mem_acceptedIn_of_ready {network : Network} (h : (p.attempt network).verdict = .ready)
    {target : Endpoint} (hpending : target ∈ p.pending) :
    target ∈ p.acceptedIn ⟨network, none⟩ := by
  rw [attempt_verdict_eq_ready_iff, evaluate_none, sweep_eq, List.filter_eq_nil_iff] at h
  have hopen : Accepts network target := by simpa using h target hpending
  exact (p.mem_acceptedIn_of_not_dropped _ (p.not_dropped_of_cut_eq_none network) target).2
    ⟨hpending, hopen⟩

namespace Reliable

variable {p} {trials : List Trial}

/-- Without a dropped evaluation, a target that has not accepted is still there to be tried. -/
theorem of_not_droppedAlong (h : ¬ p.DroppedAlong trials) : p.Reliable trials := by
  have hstill : ∀ target ∈ p.pending, target ∉ p.acceptedAlong trials →
      target ∈ (p.afterTrials trials).pending := fun target htarget hnot => by
    rw [p.pending_afterTrials_of_not_droppedAlong h]
    exact List.mem_filter.2 ⟨htarget, decide_eq_true hnot⟩
  refine ⟨hstill, fun network hready target htarget => ?_⟩
  rw [acceptedAlong_append, List.mem_append]
  by_cases hbefore : target ∈ p.acceptedAlong trials
  · exact .inl hbefore
  · have hlast := mem_acceptedIn_of_ready _ hready (hstill target htarget hbefore)
    exact .inr (List.mem_append_left _ hlast)

theorem of_accepted (h : ∀ target ∈ p.pending, target ∈ p.acceptedAlong trials) :
    p.Reliable trials := by
  refine ⟨fun target htarget hnot => absurd (h target htarget) hnot,
    fun network _ target htarget => ?_⟩
  rw [acceptedAlong_append]
  exact List.mem_append_left _ (h target htarget)

/-- After a dropped evaluation nothing is pending, so that every target must have accepted. -/
theorem accepted_of_droppedAlong (hreliable : p.Reliable trials) (h : p.DroppedAlong trials) :
    ∀ target ∈ p.pending, target ∈ p.acceptedAlong trials := by
  intro target htarget
  by_contra hnot
  have hpending := hreliable.pending target htarget hnot
  rw [p.pending_afterTrials_of_droppedAlong h] at hpending
  exact absurd hpending List.not_mem_nil

end Reliable

/-- **A probe can be relied on as long as no evaluation is dropped,** and not beyond that unless
every port has accepted by then.  Let a probe of any ports be evaluated time after time, each
time on another network, and let some of these evaluations be dropped while an attempt to
connect is outstanding.  If none is, the pending targets are those that have not accepted.  If
one is, nothing is pending any more: every later evaluation tries nothing and is ready at once,
although ports may never have accepted. -/
theorem reliable_iff_not_dropped (host : String) (ports : List UInt16) (trials : List Trial) :
    let p := ofPorts host ports
    let allAccepted := ∀ port ∈ ports, ⟨host, port⟩ ∈ p.acceptedAlong trials
    (p.Reliable trials ↔ ¬ p.DroppedAlong trials ∨ allAccepted) ∧
      (¬ p.DroppedAlong trials → (p.afterTrials trials).pending =
        p.pending.filter fun target => target ∉ p.acceptedAlong trials) ∧
      (p.DroppedAlong trials → (p.afterTrials trials).pending = [] ∧
        ∀ network, (p.afterTrials trials).attempt network = ⟨0, .ready, []⟩) := by
  intro p allAccepted
  have hall : allAccepted ↔ ∀ target ∈ p.pending, target ∈ p.acceptedAlong trials := by
    rw [pending_ofPorts, List.forall_mem_map]
  refine ⟨⟨fun hreliable => ?_, ?_⟩, p.pending_afterTrials_of_not_droppedAlong,
    fun hdropped => ?_⟩
  · by_cases hdropped : p.DroppedAlong trials
    · exact .inr (hall.2 (hreliable.accepted_of_droppedAlong hdropped))
    · exact .inl hdropped
  · rintro (hdropped | haccepted)
    · exact .of_not_droppedAlong hdropped
    · exact .of_accepted (hall.1 haccepted)
  · have hnil := p.pending_afterTrials_of_droppedAlong hdropped
    exact ⟨hnil, fun network => attempt_of_pending_eq_nil _ hnil network⟩

/-- An evaluation of one port is dropped after 100 milliseconds on a network that never answers.
The port has not accepted and is no longer pending, and the next evaluation on the same network
is ready: the probe cannot be relied on. -/
theorem ready_after_dropped_evaluation :
    let p := ofPorts "localhost" [5432]
    let trials : List Trial := [⟨silentNetwork, some 100⟩]
    p.acceptedAlong (trials ++ [⟨silentNetwork, none⟩]) = [] ∧
      (p.afterTrials trials).pending = [] ∧
      ((p.afterTrials trials).attempt silentNetwork).verdict = .ready ∧ ¬ p.Reliable trials := by
  intro p trials
  have hready : ((p.afterTrials trials).attempt silentNetwork).verdict = .ready := by decide
  have haccepted : p.acceptedAlong (trials ++ [⟨silentNetwork, none⟩]) = [] := by decide
  refine ⟨haccepted, by decide, hready, fun hreliable => ?_⟩
  have hmem := hreliable.ready silentNetwork hready ⟨"localhost", 5432⟩ (by decide)
  rw [haccepted] at hmem
  exact absurd hmem List.not_mem_nil

end TcpProbe
end ServiceReadiness
