/-
# Watching a container

A probe that is never ready and fails for good as soon as the container is seen
not running, so that a wait for a crashed container ends early.  An inspection
that fails, or takes longer than one attempt may, is no news.
-/

import ServiceReadiness.Container.Daemon

namespace ServiceReadiness
namespace ContainerWatch

/-- A line of the container watch. -/
def line (text : String) : LogLine := ⟨.trace, .containerWatch, text⟩

/-- The line that reports an inspection that failed. -/
def failureLine (id : String) (e : ContainerError) : LogLine :=
  line ("Could not inspect container " ++ id ++ ": " ++ e.message)

/-- The line that reports an inspection that took too long. -/
def slowLine (id : String) : LogLine :=
  line ("Inspecting container " ++ id ++ " timed out after " ++
    (Duration.ofMillis attemptBound).render)

/-- The evaluation that an inspection gives when it is answered in time. -/
def answered (id : String) (duration : Nat) : Except ContainerError Bool → Attempt
  | .ok true => { duration, verdict := .notReady }
  | .ok false => { duration, verdict := .fatal (.containerStopped id) }
  | .error e => { duration, verdict := .notReady, notes := [(duration, failureLine id e)] }

/-- The evaluation that an inspection gives. -/
def attempt (id : String) (i : Inspection) : Attempt :=
  match i.duration.filter (· ≤ attemptBound) with
  | some duration => answered id duration i.answer
  | none =>
    { duration := attemptBound, verdict := .notReady, notes := [(attemptBound, slowLine id)] }

/-- The probe that watches a container. -/
def probe (id : String) (inspect : Nat → Inspection) : Probe where
  name := "container " ++ id
  attempt call := attempt id (inspect call)

theorem attempt_verdict_ne_ready (id : String) (i : Inspection) :
    (attempt id i).verdict ≠ .ready := by
  unfold attempt
  split
  · unfold answered; split <;> simp
  · simp

theorem attempt_duration_le (id : String) (i : Inspection) :
    (attempt id i).duration ≤ attemptBound := by
  unfold attempt
  split
  · rename_i d hd
    have h : d ≤ attemptBound := by
      rcases hi : i.duration with _ | e
      · simp [hi] at hd
      · simp only [hi, Option.filter] at hd
        split at hd
        · rename_i hle; obtain rfl := Option.some.inj hd; simpa using hle
        · simp at hd
    unfold answered; split <;> simpa using h
  · simp

end ContainerWatch
end ServiceReadiness
