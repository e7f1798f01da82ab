/-
# What comes of an exchange

An exchange gives up after a while.  It sends its request exactly if the connection opens before
that (`Http.exchange_sent`), and it has an answer exactly if the service gives one before that
(`Http.exchange_answer_eq_ok_iff`).

Someone who gives up sooner sees the same exchange, as far as it goes: all that comes in time
comes at the same time, and what would come later is late (`Http.exchange_eq_of_le`).
-/

import ServiceReadiness.Http.Exchange

namespace ServiceReadiness

namespace Service

/-- A service accepts a connection within so many milliseconds. -/
def opensWithin (bound : Nat) (s : Service) : Bool :=
  match s.connection with
  | .accepted delay => delay ≤ bound
  | .refused _ _ | .silent => false

/-- A service accepts a connection and sends bytes over it for a request, within so many
milliseconds, and the bytes make a response. -/
def Answers (s : Service) (bound : Nat) (request : Http.Request) (response : Http.Response) :
    Prop :=
  ∃ opened delay bytes, s.connection = .accepted opened ∧
    s.conduct request = .answers delay bytes ∧ opened + delay ≤ bound ∧
    Http.Response.read request.method bytes = some response

variable {s : Service} {bound : Nat} {request : Http.Request} {response : Http.Response}

theorem opensWithin_iff :
    s.opensWithin bound = true ↔ ∃ opened, s.connection = .accepted opened ∧ opened ≤ bound := by
  rw [opensWithin]
  cases s.connection with
  | accepted delay => simp
  | refused delay reason => simp
  | silent => simp

theorem Answers.opensWithin (h : s.Answers bound request response) :
    s.opensWithin bound = true := by
  obtain ⟨opened, delay, bytes, hopened, -, hle, -⟩ := h
  exact opensWithin_iff.2 ⟨opened, hopened, Nat.le_trans (Nat.le_add_right opened delay) hle⟩

end Service

namespace Http

variable {service : Service} {request : Request} {bound : Nat}

/-! ### What is sent and what comes back -/

/-- Over a connection that opens in time, the request is sent and something may come back. -/
theorem exchange_of_accepted {opened : Nat} (h : service.connection = .accepted opened)
    (hle : opened ≤ bound) :
    exchange bound service request =
      ⟨some request, (receive bound opened request.method (service.conduct request)).1,
        (receive bound opened request.method (service.conduct request)).2⟩ := by
  rw [exchange, h, Connection.within, if_pos hle]

/-- Without a connection in time nothing is sent, and there is no answer. -/
theorem exchange_of_not_opensWithin (h : ¬ service.opensWithin bound = true) (request : Request) :
    (exchange bound service request).sent = none ∧
      ∃ fault, (exchange bound service request).answer = .error fault := by
  rw [Service.opensWithin_iff] at h
  cases hconnection : service.connection with
  | accepted opened =>
    have hlate : ¬ opened ≤ bound := fun hle => h ⟨opened, hconnection, hle⟩
    rw [exchange, hconnection, Connection.within, if_neg hlate]
    exact ⟨rfl, _, rfl⟩
  | refused delay reason =>
    rw [exchange, hconnection, Connection.within]
    by_cases hle : delay ≤ bound
    · rw [if_pos hle]
      exact ⟨rfl, _, rfl⟩
    · rw [if_neg hle]
      exact ⟨rfl, _, rfl⟩
  | silent =>
    rw [exchange, hconnection]
    exact ⟨rfl, _, rfl⟩

/-- **A request is sent exactly if the connection opens in time,** whatever the service does. -/
theorem exchange_sent :
    (exchange bound service request).sent =
      if service.opensWithin bound then some request else none := by
  split
  case isTrue h =>
    obtain ⟨opened, hopened, hle⟩ := Service.opensWithin_iff.1 h
    rw [exchange_of_accepted hopened hle]
  case isFalse h => exact (exchange_of_not_opensWithin h request).1

theorem inTime_eq_ok_iff {time : Nat} {answer : Except ExchangeFault Response}
    {r : Response} : (inTime bound time answer).2 = .ok r ↔ time ≤ bound ∧ answer = .ok r := by
  rw [inTime]
  split
  case isTrue h => exact ⟨fun hr => ⟨h, hr⟩, And.right⟩
  case isFalse h => exact ⟨nofun, fun hr => absurd hr.1 h⟩

/-- What comes back is a response exactly if bytes that make it come in time. -/
theorem receive_eq_ok_iff {opened : Nat} {method : String} {conduct : Conduct} {r : Response} :
    (receive bound opened method conduct).2 = .ok r ↔
      ∃ delay bytes, conduct = .answers delay bytes ∧ opened + delay ≤ bound ∧
        Response.read method bytes = some r := by
  constructor
  case mp =>
    intro h
    cases conduct with
    | silent => cases h
    | closes delay => cases (inTime_eq_ok_iff.1 h).2
    | answers delay bytes =>
      obtain ⟨hle, hresponse⟩ := inTime_eq_ok_iff.1 h
      split at hresponse
      case h_1 response hread =>
        obtain rfl := Except.ok.inj hresponse
        exact ⟨delay, bytes, rfl, hle, hread⟩
      case h_2 => cases hresponse
  case mpr =>
    rintro ⟨delay, bytes, rfl, hle, hread⟩
    exact inTime_eq_ok_iff.2 ⟨hle, by rw [hread]⟩

/-- **An exchange has an answer exactly if the service gives it in time.** -/
theorem exchange_answer_eq_ok_iff {r : Response} :
    (exchange bound service request).answer = .ok r ↔ service.Answers bound request r := by
  by_cases h : service.opensWithin bound = true
  case pos =>
    obtain ⟨opened, hopened, hle⟩ := Service.opensWithin_iff.1 h
    rw [exchange_of_accepted hopened hle, receive_eq_ok_iff]
    constructor
    · rintro ⟨delay, bytes, hconduct, hsum, hread⟩
      exact ⟨opened, delay, bytes, hopened, hconduct, hsum, hread⟩
    · rintro ⟨opened', delay, bytes, hopened', hconduct, hsum, hread⟩
      obtain rfl := Connection.accepted.inj (hopened.symm.trans hopened')
      exact ⟨delay, bytes, hconduct, hsum, hread⟩
  case neg =>
    obtain ⟨-, fault, hfault⟩ := exchange_of_not_opensWithin h request
    rw [hfault]
    exact ⟨nofun, fun hanswers => absurd hanswers.opensWithin h⟩

/-- A service gives one answer. -/
theorem answers_unique {r r' : Response} (h : service.Answers bound request r)
    (h' : service.Answers bound request r') : r = r' :=
  Except.ok.inj ((exchange_answer_eq_ok_iff.2 h).symm.trans (exchange_answer_eq_ok_iff.2 h'))

end Http

/-! ### Giving up sooner -/

namespace Connection

theorem within_eq_opened_iff {c : Connection} {bound opened : Nat} :
    c.within bound = (opened, .opened) ↔ c = .accepted opened ∧ opened ≤ bound := by
  cases c with
  | accepted delay | refused delay reason => simp only [within]; grind
  | silent => simp [within]

/-- A connection that is given up sooner is the same as far as it goes. -/
theorem within_eq_of_le {sooner bound : Nat} (h : sooner ≤ bound) (c : Connection) :
    c.within sooner =
      if (c.within bound).1 ≤ sooner then c.within bound else (sooner, .late) := by
  cases c with
  | accepted delay | refused delay reason => simp only [within]; grind
  | silent => simp only [within]; grind

end Connection

namespace Http

variable {bound sooner : Nat}

theorem inTime_eq_of_le (h : sooner ≤ bound) (time : Nat)
    (answer : Except ExchangeFault Response) :
    inTime sooner time answer =
      if (inTime bound time answer).1 ≤ sooner then inTime bound time answer
      else (sooner, .error .late) := by
  simp only [inTime]
  grind

/-- What comes over a connection is the same for who gives up sooner, as far as it goes. -/
theorem receive_eq_of_le (h : sooner ≤ bound) (opened : Nat) (method : String)
    (conduct : Conduct) :
    receive sooner opened method conduct =
      if (receive bound opened method conduct).1 ≤ sooner then
        receive bound opened method conduct
      else (sooner, .error .late) := by
  cases conduct with
  | answers delay bytes => exact inTime_eq_of_le h ..
  | closes delay => exact inTime_eq_of_le h ..
  | silent => simp only [receive]; grind

/-- Nothing comes before the connection is there. -/
theorem le_receive_fst {opened : Nat} (h : opened ≤ bound) (method : String) (conduct : Conduct) :
    opened ≤ (receive bound opened method conduct).1 := by
  cases conduct with
  | answers delay bytes | closes delay => simp only [receive, inTime]; grind
  | silent => exact h

/-- **Who gives up sooner sees the same exchange as far as it goes,** and then that it is late. -/
theorem exchange_eq_of_le (h : sooner ≤ bound) (service : Service) (request : Request) :
    exchange sooner service request =
      if (exchange bound service request).duration ≤ sooner then exchange bound service request
      else ⟨if service.opensWithin sooner then some request else none, sooner, .error .late⟩ := by
  by_cases hopens : service.opensWithin sooner = true
  case pos =>
    obtain ⟨opened, hopened, hle⟩ := Service.opensWithin_iff.1 hopens
    rw [exchange_of_accepted hopened hle, exchange_of_accepted hopened (Nat.le_trans hle h),
      receive_eq_of_le h, if_pos hopens]
    split <;> rfl
  case neg =>
    rw [if_neg hopens]
    have hwithin := Connection.within_eq_of_le h service.connection
    cases hbound : service.connection.within bound with
    | mk duration contact =>
      rw [hbound] at hwithin
      cases contact with
      | opened =>
        obtain ⟨hopened, hle⟩ := Connection.within_eq_opened_iff.1 hbound
        have hlate : ¬ duration ≤ sooner := fun hsooner =>
          hopens (Service.opensWithin_iff.2 ⟨duration, hopened, hsooner⟩)
        have hreceived := le_receive_fst hle request.method (service.conduct request)
        rw [if_neg hlate] at hwithin
        rw [exchange_of_accepted hopened hle, if_neg (by simp only; omega), exchange, hwithin]
      | refused reason | late =>
        simp only [exchange, hwithin, hbound]
        by_cases hle : duration ≤ sooner <;> simp [hle]

end Http
end ServiceReadiness
