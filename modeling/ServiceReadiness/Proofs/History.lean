/-
# Views of a history

A history mixes the calls of probes, their releases and the lines of the log.  A
view keeps the happenings of one of the three kinds, each with its time: a view of
two histories in a row is the two views in a row (`select_append`), and the lines
that an evaluation notes have nothing in the other views.
-/

import ServiceReadiness.Waiter

namespace ServiceReadiness

namespace Occurrence

/-- The probe and the call of an evaluation. -/
@[simp]
def evaluation? : Occurrence → Option (Nat × Nat)
  | .evaluation probe call => some (probe, call)
  | _ => none

/-- The probe of a release. -/
@[simp]
def release? : Occurrence → Option Nat
  | .release probe => some probe
  | _ => none

/-- The line of the log. -/
@[simp]
def line? : Occurrence → Option LogLine
  | .log line => some line
  | _ => none

/-- An evaluation or a release, but no line. -/
@[simp]
def call? : Occurrence → Option Occurrence
  | .log _ => none
  | call => some call

end Occurrence

namespace Timeline

variable {α β γ : Type}

/-- The happenings that `f` tells something about, and what it tells. -/
def select (f : α → Option β) (t : Timeline α) : Timeline β :=
  t.filterMap fun e => (f e.2).map (e.1, ·)

@[simp]
theorem select_nil (f : α → Option β) : select f ([] : Timeline α) = [] := rfl

@[simp]
theorem select_append (f : α → Option β) (s t : Timeline α) :
    select f (s ++ t) = select f s ++ select f t := List.filterMap_append

@[simp]
theorem select_cons (f : α → Option β) (e : Nat × α) (t : Timeline α) :
    select f (e :: t) = ((f e.2).map (e.1, ·)).toList ++ select f t := by
  cases h : f e.2 <;> simp [select, h]

/-- A view that shows everything as it is. -/
theorem select_some (t : Timeline α) : t.select some = t := List.filterMap_some

/-- A view under which no label shows is empty. -/
theorem select_relabel_eq_nil {f : β → Option γ} {g : α → β} (h : ∀ a, f (g a) = none)
    (t : Timeline α) : select f (t.relabel g) = [] := by
  simp [select, relabel, h]

/-- A view of happenings under another label is a view of their labels. -/
theorem select_relabel (f : β → Option γ) (g : α → β) (t : Timeline α) :
    (t.relabel g).select f = t.select fun a => f (g a) := by
  simp only [select, relabel, List.filterMap_map]
  rfl

/-- A view that gives each happening another label. -/
theorem select_map (f : α → Option β) (g : β → γ) (t : Timeline α) :
    (t.select fun a => (f a).map g) = (t.select f).relabel g := by
  simp only [select, relabel, List.map_filterMap, Option.map_map]
  rfl

/-- A view does not look at the clock. -/
theorem select_shift (f : α → Option β) (start : Nat) (t : Timeline α) :
    (t.shift start).select f = (t.select f).shift start := by
  simp only [select, shift, List.filterMap_map, List.map_filterMap, Option.map_map]
  rfl

/-- A view of what happens at some of the times is what the view has at these times. -/
theorem select_filter (f : α → Option β) (at? : Nat → Bool) (t : Timeline α) :
    select f (t.filter fun e => at? e.1) = (t.select f).filter fun e => at? e.1 := by
  induction t with
  | nil => rfl
  | cons e t ih =>
    rw [List.filter_cons, select_cons, List.filter_append, ← ih]
    cases hf : f e.2 <;> cases hat : at? e.1 <;> simp [hf, hat]

/-- A view of what happens up to a time is what the view has up to that time. -/
theorem select_upTo (f : α → Option β) (limit : Nat) (t : Timeline α) :
    (t.upTo limit).select f = (t.select f).upTo limit := select_filter f (· ≤ limit) t

/-- A view of what happens after a time is what the view has after that time. -/
theorem select_after (f : α → Option β) (limit : Nat) (t : Timeline α) :
    (t.after limit).select f = (t.select f).after limit := select_filter f (limit < ·) t

/-- The calls of probes. -/
abbrev evaluations (t : Timeline Occurrence) : Timeline (Nat × Nat) :=
  t.select Occurrence.evaluation?

/-- The releases of probes. -/
abbrev releases (t : Timeline Occurrence) : Timeline Nat := t.select Occurrence.release?

/-- The lines of the log. -/
abbrev lines (t : Timeline Occurrence) : Timeline LogLine := t.select Occurrence.line?

/-- The calls of probes and their releases, in the order of the history. -/
abbrev calls (t : Timeline Occurrence) : Timeline Occurrence := t.select Occurrence.call?

/-- The calls of probes are among the calls and releases. -/
theorem evaluations_calls (t : Timeline Occurrence) : t.calls.evaluations = t.evaluations := by
  induction t with
  | nil => rfl
  | cons e t ih =>
    obtain ⟨time, o⟩ := e
    cases o <;> simp [ih]

/-- The calls of probes as happenings of a wait. -/
def asEvaluations (t : Timeline (Nat × Nat)) : Timeline Occurrence :=
  t.relabel fun call => .evaluation call.1 call.2

/-- Without releases there are only calls of probes. -/
theorem calls_of_releases_eq_nil {t : Timeline Occurrence} (h : t.releases = []) :
    t.calls = t.evaluations.asEvaluations := by
  induction t with
  | nil => rfl
  | cons e t ih =>
    obtain ⟨time, o⟩ := e
    cases o with
    | release probe => simp at h
    | evaluation probe call =>
      have htail := ih (by simpa using h)
      simp [htail, asEvaluations, relabel]
    | log line =>
      have htail := ih (by simpa using h)
      simp [htail]

/-- Without calls of probes there are only releases. -/
theorem calls_of_evaluations_eq_nil {t : Timeline Occurrence} (h : t.evaluations = []) :
    t.calls = t.releases.relabel .release := by
  induction t with
  | nil => rfl
  | cons e t ih =>
    obtain ⟨time, o⟩ := e
    cases o with
    | evaluation probe call => simp at h
    | release probe =>
      have htail := ih (by simpa using h)
      simp [htail, relabel]
    | log line =>
      have htail := ih (by simpa using h)
      simp [htail]

end Timeline

namespace Waiter

/-- An evaluation shows as one call, at its start. -/
@[simp]
theorem evaluations_evaluationHistory (now index call : Nat) (notes : Timeline LogLine) :
    (evaluationHistory now index call notes).evaluations = [(now, index, call)] := by
  rw [evaluationHistory, Timeline.evaluations, Timeline.select_cons,
    Timeline.select_relabel_eq_nil fun _ => rfl]
  rfl

/-- An evaluation releases nothing. -/
@[simp]
theorem releases_evaluationHistory (now index call : Nat) (notes : Timeline LogLine) :
    (evaluationHistory now index call notes).releases = [] := by
  rw [evaluationHistory, Timeline.releases, Timeline.select_cons,
    Timeline.select_relabel_eq_nil fun _ => rfl]
  rfl

/-- An evaluation logs the lines that it notes. -/
@[simp]
theorem lines_evaluationHistory (now index call : Nat) (notes : Timeline LogLine) :
    (evaluationHistory now index call notes).lines = notes.shift now := by
  rw [evaluationHistory, Timeline.lines, Timeline.select_cons, Timeline.select_relabel]
  exact Timeline.select_some _

/-- The releases at the end of a wait call no probe. -/
theorem evaluations_releases (time index : Nat) (probes : List Probe) :
    (releases time index probes).evaluations = [] := by
  induction probes generalizing index with
  | nil => rfl
  | cons p rest ih => cases he : p.releaseError <;> simp [releases, he, ih]

/-- The releases at the end of a wait are one for each probe, in input order. -/
theorem releases_releases (time index : Nat) (probes : List Probe) :
    (releases time index probes).releases =
      (List.range probes.length).map fun i => (time, index + i) := by
  induction probes generalizing index with
  | nil => rfl
  | cons p rest ih =>
    rw [List.length_cons, List.range_succ_eq_map, List.map_cons, List.map_map]
    cases he : p.releaseError <;> simp [releases, he, ih, Nat.add_assoc, Nat.add_comm 1]

/-- The lines at the end of a wait are one for each release that fails. -/
theorem lines_releases (time index : Nat) (probes : List Probe) :
    (releases time index probes).lines =
      probes.filterMap fun p => p.releaseError.map fun e => (time, releaseLine p.name e) := by
  induction probes generalizing index with
  | nil => rfl
  | cons p rest ih => cases he : p.releaseError <;> simp [releases, he, ih]

end Waiter
end ServiceReadiness
