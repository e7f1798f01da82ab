/-
# Timelines

What happens during a wait or a unit of work, with the millisecond at which it
happens.  The clock is virtual: it starts at zero and moves only while
everything sleeps.  A cancellation at time `c` cuts every activity that would
last beyond `c`.
-/

namespace ServiceReadiness

/-- Happenings in order, each with its time in milliseconds. -/
abbrev Timeline (α : Type) := List (Nat × α)

namespace Timeline

variable {α β : Type}

/-- A timeline whose clock starts at `start`. -/
def shift (start : Nat) (t : Timeline α) : Timeline α := t.map fun e => (start + e.1, e.2)

/-- A timeline with another view of each happening. -/
def relabel (f : α → β) (t : Timeline α) : Timeline β := t.map fun e => (e.1, f e.2)

/-- The happenings up to a time, that time included. -/
def upTo (limit : Nat) (t : Timeline α) : Timeline α := t.filter (·.1 ≤ limit)

/-- The happenings after a time. -/
def after (limit : Nat) (t : Timeline α) : Timeline α := t.filter (limit < ·.1)

@[simp]
theorem shift_zero (t : Timeline α) : shift 0 t = t := by simp [shift]

@[simp]
theorem shift_append (start : Nat) (s t : Timeline α) :
    shift start (s ++ t) = shift start s ++ shift start t := by simp [shift]

theorem shift_relabel (start : Nat) (f : α → β) (t : Timeline α) :
    (t.relabel f).shift start = (t.shift start).relabel f := by
  simp only [shift, relabel, List.map_map]
  rfl

theorem shift_upTo (start limit : Nat) (t : Timeline α) :
    (t.upTo limit).shift start = (t.shift start).upTo (start + limit) := by
  simp only [shift, upTo, List.filter_map]
  congr 1
  refine List.filter_congr fun e _ => ?_
  simp

end Timeline

/-- The cancellation that comes before `finish`, if there is one. -/
def cutBefore (cut : Option Nat) (finish : Nat) : Option Nat := cut.filter (· < finish)

@[simp]
theorem cutBefore_none (finish : Nat) : cutBefore none finish = none := rfl

theorem cutBefore_some {c finish : Nat} :
    cutBefore (some c) finish = if c < finish then some c else none := by
  simp [cutBefore, Option.filter]

theorem cutBefore_eq_some {cut : Option Nat} {c finish : Nat} :
    cutBefore cut finish = some c ↔ cut = some c ∧ c < finish := by
  simp [cutBefore, Option.filter_eq_some_iff]

theorem cutBefore_eq_none {cut : Option Nat} {finish : Nat} :
    cutBefore cut finish = none ↔ ∀ c, cut = some c → finish ≤ c := by
  simp [cutBefore, Option.filter_eq_none_iff]

end ServiceReadiness
