/-
# What describes a container

How the body of an answer is read as the description of a container is up to the client of the
engine.  A description says that its container is running by a state with the flag set
(`SaysRunning`), and that is all that is looked at (`isRunning_iff`).

The engine may tell with other statuses than a success that it did what was asked for, but such an
answer has no body (`Http.Response.body_of_isBodiless`).  So a client that finds no description in
an empty body finds one in the answers that tell a success alone (`isSuccess_of_read`).
-/

import Mathlib.Tactic.ByContra
import ServiceReadiness.Container.EngineAnswer
import ServiceReadiness.Proofs.Resolution

namespace ServiceReadiness

/-! ### Descriptions of containers -/

namespace EngineAnswer

/-- A description says that its container is running: it has a state, with the flag set. -/
def ContainerInfo.SaysRunning (i : ContainerInfo) : Prop :=
  ∃ state, i.state = some state ∧ state.running = some true

theorem ContainerInfo.isRunning_iff (i : ContainerInfo) : i.isRunning = true ↔ i.SaysRunning := by
  obtain ⟨- | ⟨- | - | -⟩⟩ := i <;> simp [isRunning, SaysRunning]

/-- What is relied on of a client that reads descriptions: an empty body, which is no JSON, holds
none. -/
def FindsNoneInEmpty (read : InfoReader) : Prop := read [] = none

end EngineAnswer

/-! ### Bodies -/

/-- An answer that may have no body has an empty one. -/
theorem Http.Response.body_of_isBodiless {method : String} {bytes : List UInt8} {r : Response}
    (h : read method bytes = some r) (hbodiless : Framing.isBodiless method r.status = true) :
    r.body = some [] := by
  suffices ∀ interim bytes, readAfter method interim bytes = some r → r.body = some [] from
    this _ _ h
  intro interim
  induction interim with
  | zero => exact fun _ h => nomatch h
  | succ interim ih =>
    intro bytes h
    obtain ⟨⟨head, rest⟩, -, h⟩ := Option.bind_eq_some_iff.1 h
    dsimp only at h
    split at h
    case isTrue => exact ih rest h
    case isFalse =>
      obtain ⟨framing, hframing, h⟩ := Option.bind_eq_some_iff.1 h
      obtain rfl := Option.some.inj h
      rw [Framing.ofHead, if_pos hbodiless] at hframing
      obtain rfl := Option.some.inj hframing
      rfl

namespace EngineAnswer

/-- **An answer in which a description is found tells a success:** the other answers with which
the engine does what is asked for have no body. -/
theorem isSuccess_of_read {read : InfoReader} (hempty : FindsNoneInEmpty read) {method : String}
    {bytes body : List UInt8} {s : Http.Status} {info : ContainerInfo}
    (hanswer : Http.Response.read method bytes = some ⟨s, some body⟩) (hdone : isDone s = true)
    (hbody : read body = some info) : s.isSuccess = true := by
  by_contra hsuccess
  have hbodiless : Http.Framing.isBodiless method s = true := by
    simp only [isDone, hsuccess, Bool.or_eq_true] at hdone
    simp only [Http.Framing.isBodiless, Bool.or_eq_true]
    grind
  obtain rfl := Option.some.inj (Http.Response.body_of_isBodiless hanswer hbodiless)
  exact Option.some_ne_none info (hbody.symm.trans hempty)

/-- What an inspection finds is what the description in the body of an answer says, if the engine
did what was asked for. -/
theorem inspected_ofExchange_eq_ok_iff {read : InfoReader} {e : Http.Exchange} {running : Bool} :
    (ofExchange e).bind (inspected read) = .ok running ↔
      ∃ s body info, e.answer = .ok ⟨s, some body⟩ ∧ isDone s = true ∧ read body = some info ∧
        info.isRunning = running := by
  constructor
  · intro h
    obtain ⟨r, hr, hinspected⟩ := exists_of_bind_eq_ok h
    unfold ofExchange at hr
    split at hr
    case h_1 => cases hr
    case h_2 answer hanswer =>
      split at hr
      case isFalse => cases hr
      case isTrue hdone =>
        obtain rfl := Except.ok.inj hr
        unfold inspected at hinspected
        split at hinspected
        case h_1 => cases hinspected
        case h_2 body hbody =>
          split at hinspected
          case h_1 => cases hinspected
          case h_2 info hinfo =>
            obtain ⟨s, body'⟩ := answer
            obtain rfl : body' = some body := hbody
            exact ⟨s, body, info, hanswer, hdone, hinfo, Except.ok.inj hinspected⟩
  · rintro ⟨s, body, info, hanswer, hdone, hinfo, rfl⟩
    simp only [ofExchange, hanswer, hdone, if_true, Except.bind, inspected, hinfo]

end EngineAnswer

end ServiceReadiness
