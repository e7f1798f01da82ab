/-
# Evaluations of a URL are single shots

An evaluation of a probe of a URL is one exchange and remembers nothing.  A URL of the scheme
`http` has a host and a port (`Url.exists_authority_of_http`), so a probe of it has one service
to go to and one request to make, the same every time (`route_of_http`).  The request is sent
exactly if the connection opens in time, whatever the service does then, and there is an answer
exactly if a reply comes in time (`Http.exchange_answer_iff`).

So what an evaluation finds is what the reply in time means to the probe, and not ready if there
is none (`evaluate_of_plain`); the only thing that is fatal is a server that does not know the
method (`verdict_iff_of_answers`).  Over any number of evaluations there is one request for each
connection and no other, for a reply that leads elsewhere as for any other
(`evaluate_single_shot`).
-/

import ServiceReadiness.Proofs.Exchanges
import ServiceReadiness.Proofs.ReplyGrammar
import ServiceReadiness.Proofs.Resolution

namespace ServiceReadiness

/-! ### Addresses of probes -/

namespace Url

variable {kind : SchemeKind} {scheme cs : List Char} {u : Url}

/-- What follows the slashes of a scheme begins with an authority. -/
theorem exists_authority_of_readAuthority (h : readAuthority kind scheme cs = .ok u) :
    ∃ a, u.authority = some a := by
  unfold readAuthority at h
  split at h
  -- Whatever the user information is, what is read after it ends with an authority.
  extract_lets afterUserinfo at h
  have hafter : ∀ x, afterUserinfo x = .ok u → ∃ a, u.authority = some a := by
    rintro ⟨⟨username, password⟩, hostText⟩ hx
    obtain ⟨⟨host, afterHost⟩, -, hx⟩ := exists_of_bind_eq_ok hx
    obtain ⟨⟨port, afterPort⟩, -, hx⟩ := exists_of_bind_eq_ok hx
    simp only at hx
    split at hx
    · cases hx
    · obtain rfl := Except.ok.inj hx
      exact ⟨_, rfl⟩
  split at h
  · obtain ⟨x, -, hx⟩ := exists_of_bind_eq_ok h
    exact hafter x hx
  · split at h
    · cases h
    · obtain ⟨x, -, hx⟩ := exists_of_bind_eq_ok h
      exact hafter x hx
  · obtain ⟨x, -, hx⟩ := exists_of_bind_eq_ok h
    exact hafter x hx

theorem exists_authority_of_readFile (h : readFile scheme cs = .ok u) :
    ∃ a, u.authority = some a := by
  unfold readFile at h
  split at h
  · split at h
    · obtain ⟨⟨host, rest⟩, -, h⟩ := exists_of_bind_eq_ok h
      obtain rfl := Except.ok.inj h
      exact ⟨_, rfl⟩
    · obtain rfl := Except.ok.inj h
      exact ⟨_, rfl⟩
  · obtain rfl := Except.ok.inj h
    exact ⟨_, rfl⟩

/-- A URL without special rules has its own scheme or an authority. -/
theorem scheme_or_authority_of_readOther (h : readOther scheme cs = .ok u) :
    u.scheme = scheme ∨ ∃ a, u.authority = some a := by
  unfold readOther at h
  split at h
  · exact .inr (exists_authority_of_readAuthority h)
  · obtain rfl := Except.ok.inj h
    exact .inl rfl
  · obtain rfl := Except.ok.inj h
    exact .inl rfl

/-- **A URL of the scheme `http` has an authority.** -/
theorem exists_authority_of_http {text : String} (h : parse text = .ok u)
    (hhttp : u.scheme = "http".toList) : ∃ a, u.authority = some a := by
  unfold parse read at h
  split at h
  case h_1 => cases h
  case h_2 scheme rest =>
    split at h
    case h_1 => exact exists_authority_of_readFile h
    case h_2 => exact exists_authority_of_readAuthority h
    case h_3 hother =>
      rcases scheme_or_authority_of_readOther h with hscheme | hauthority
      · rw [← hscheme, hhttp] at hother
        cases hother
      · exact hauthority

/-- So it has a host and a port. -/
theorem exists_address_of_http {text : String} (h : parse text = .ok u)
    (hhttp : u.scheme = "http".toList) :
    ∃ host port, u.hostText? = some host ∧ u.port? = some port := by
  obtain ⟨a, ha⟩ := exists_authority_of_http h hhttp
  have hport : ∃ port, u.port? = some port := by
    rw [port?, ha, hhttp]
    cases hport : a.port with
    | none => exact ⟨80, by simp [hport]; decide⟩
    | some port => exact ⟨port, by simp [hport]⟩
  obtain ⟨port, hport⟩ := hport
  exact ⟨_, port, by rw [hostText?, ha, Option.map_some], hport⟩

end Url

/-! ### Replies in time -/

namespace Service

/-- A service accepts a connection while an attempt waits for it. -/
def opensInTime (s : Service) : Bool :=
  match s.connection with
  | .accepted delay => delay ≤ attemptBound
  | .refused _ _ | .silent => false

/-- A service accepts a connection and sends a reply to a request over it, with a status, while
an attempt waits for it. -/
def RepliesInTime (s : Service) (request : Http.Request) (status : Http.Status) : Prop :=
  ∃ opened delay bytes, s.connection = .accepted opened ∧
    s.conduct request = .answers delay bytes ∧ opened + delay ≤ attemptBound ∧
    Http.IsReply request.method bytes status

/-- A reply in time is an answer in time, whatever its body is. -/
theorem repliesInTime_iff {s : Service} {request : Http.Request} {status : Http.Status} :
    s.RepliesInTime request status ↔ ∃ body, s.Answers attemptBound request ⟨status, body⟩ := by
  constructor
  · rintro ⟨opened, delay, bytes, hopened, hconduct, hle, hreply⟩
    obtain ⟨body, hread⟩ := Http.Response.read_iff_isReply.2 hreply
    exact ⟨body, opened, delay, bytes, hopened, hconduct, hle, hread⟩
  · rintro ⟨body, opened, delay, bytes, hopened, hconduct, hle, hread⟩
    exact ⟨opened, delay, bytes, hopened, hconduct, hle,
      Http.Response.read_iff_isReply.1 ⟨body, hread⟩⟩

theorem RepliesInTime.opensInTime {s : Service} {request : Http.Request} {status : Http.Status}
    (h : s.RepliesInTime request status) : s.opensInTime = true := by
  obtain ⟨body, hanswers⟩ := repliesInTime_iff.1 h
  exact hanswers.opensWithin

end Service

namespace Http

variable {service : Service} {request : Request}

/-- **There is an answer exactly if a reply comes in time.** -/
theorem exchange_answer_iff {s : Status} :
    (∃ body, (exchange attemptBound service request).answer = .ok ⟨s, body⟩) ↔
      service.RepliesInTime request s := by
  simp only [exchange_answer_eq_ok_iff, Service.repliesInTime_iff]

/-- An exchange has one answer. -/
theorem repliesInTime_unique {s t : Status} (hs : service.RepliesInTime request s)
    (ht : service.RepliesInTime request t) : s = t := by
  obtain ⟨body, hbody⟩ := Service.repliesInTime_iff.1 hs
  obtain ⟨body', hbody'⟩ := Service.repliesInTime_iff.1 ht
  exact (Response.mk.inj (answers_unique hbody hbody')).1

end Http

/-! ### Evaluations -/

namespace HttpProbe

variable {p : HttpProbe} {endpoint : Endpoint} {request : Http.Request}

/-- What a status means to a probe: the server does not know the method, or it is ready if the
status is in range. -/
theorem verdict_eq (s : Http.Status) :
    p.verdict s =
      if s = .notImplemented then .fatal (.unsupportedMethod p.method.name p.url.render)
      else if p.status.contains s.code then .ready else .notReady := by
  rw [verdict, classify]
  by_cases hmethod : s = .notImplemented
  · rw [if_pos hmethod, if_pos hmethod]
  · rw [if_neg hmethod, if_neg hmethod]
    cases p.status.contains s.code with
    | true => rfl
    | false => rfl

/-- **A probe of an `http` URL has one way to go:** to the host and port of the URL, with its own
method, unless no request can be made of the URL. -/
theorem route_of_http {url : String} {method status : Option String}
    (hbuilt : ofText url method status = .ok p) (hhttp : p.url.scheme = "http".toList) :
    ∃ (endpoint : Endpoint) (request : Http.Request),
      p.url.hostText? = some endpoint.host ∧ p.url.port? = some endpoint.port ∧
      request.method = p.method.name ∧
      p.route = if p.isAskable then .plain endpoint request else .nowhere := by
  have hurl := (((ofText_iff url method status).1 p).1 hbuilt).url
  obtain ⟨host, port, hhost, hport⟩ := Url.exists_address_of_http hurl hhttp
  refine ⟨⟨host, port⟩, ⟨p.method.name, p.target host⟩, hhost, hport, rfl, ?_⟩
  rw [route, hhost, hport]
  by_cases haskable : p.isAskable = true
  · simp [haskable, hhttp]
  · simp [haskable]

theorem evaluate_of_nowhere (h : p.route = .nowhere) (network : Network) :
    p.evaluate network =
      { attempt := p.unanswered 0 "builder error", dialled := none, sent := none } := by
  rw [evaluate, h]

/-- An evaluation goes to one service, for one exchange. -/
theorem evaluate_of_plain (h : p.route = .plain endpoint request) (network : Network) :
    (p.evaluate network).dialled = some endpoint ∧
      (p.evaluate network).sent =
        (if (network endpoint).opensInTime then some request else none) ∧
      ((∃ s, (network endpoint).RepliesInTime request s ∧
          (p.evaluate network).attempt.verdict = p.verdict s) ∨
        (∀ s, ¬ (network endpoint).RepliesInTime request s) ∧
          (p.evaluate network).attempt.verdict = .notReady) := by
  rw [evaluate, h]
  refine ⟨rfl, Http.exchange_sent, ?_⟩
  cases hanswer : (Http.exchange attemptBound (network endpoint) request).answer with
  | ok response =>
    refine .inl ⟨response.status, Http.exchange_answer_iff.1 ⟨response.body, hanswer⟩, ?_⟩
    simp only [hanswer]
  | error fault =>
    refine .inr ⟨fun s hs => ?_, ?_⟩
    · obtain ⟨body, hbody⟩ := Http.exchange_answer_iff.2 hs
      cases hanswer.symm.trans hbody
    · simp only [hanswer]
      rfl

/-- Whether the connection that an evaluation tries opens in time. -/
def Evaluation.connects (e : Evaluation) (network : Network) : Bool :=
  e.dialled.any fun endpoint => (network endpoint).opensInTime

/-- A reply with a status comes in time to the request that an evaluation sends. -/
def Evaluation.IsAnswered (e : Evaluation) (network : Network) (s : Http.Status) : Prop :=
  ∃ endpoint request, e.dialled = some endpoint ∧ e.sent = some request ∧
    (network endpoint).RepliesInTime request s

/-- The requests that the first evaluations of a probe send, in order. -/
def requests (p : HttpProbe) (networks : Nat → Network) (n : Nat) : List Http.Request :=
  (List.range n).filterMap fun k => (p.evaluate (networks k)).sent

/-- What an evaluation of a probe does, and what it finds. -/
structure IsSingleShot (p : HttpProbe) (endpoint : Endpoint) (request : Http.Request)
    (network : Network) (e : Evaluation) : Prop where
  /-- It tries to connect, unless no request can be made of the URL. -/
  dialled : e.dialled = if p.isAskable then some endpoint else none
  /-- It sends the request exactly if the connection opens in time. -/
  sent : e.sent = if e.connects network then some request else none
  /-- It is fatal exactly if a reply in time says that the method is not known, even if this
  status is in range. -/
  fatal : ∀ cause, e.attempt.verdict = .fatal cause ↔
    cause = .unsupportedMethod p.method.name p.url.render ∧ e.IsAnswered network .notImplemented
  /-- It is ready exactly if a reply in time has another status that is in range. -/
  ready : e.attempt.verdict = .ready ↔ ∃ s, e.IsAnswered network s ∧ s ≠ .notImplemented ∧
    p.status.min ≤ s.code ∧ s.code ≤ p.status.max
  /-- It is not ready in every other case. -/
  notReady : e.attempt.verdict = .notReady ↔ ∀ s, e.IsAnswered network s →
    s ≠ .notImplemented ∧ ¬ (p.status.min ≤ s.code ∧ s.code ≤ p.status.max)

theorem isAnswered_iff_of_plain (h : p.route = .plain endpoint request) {network : Network}
    {s : Http.Status} :
    (p.evaluate network).IsAnswered network s ↔ (network endpoint).RepliesInTime request s := by
  obtain ⟨hdialled, hsent, -⟩ := evaluate_of_plain h network
  constructor
  · rintro ⟨endpoint', request', hendpoint, hrequest, hreplies⟩
    obtain rfl := Option.some.inj (hdialled.symm.trans hendpoint)
    rw [hsent, if_pos hreplies.opensInTime] at hrequest
    obtain rfl := Option.some.inj hrequest
    exact hreplies
  · intro hreplies
    exact ⟨endpoint, request, hdialled, by rw [hsent, if_pos hreplies.opensInTime], hreplies⟩

/-- **What is found is what the only answer means,** or not ready if there is none. -/
theorem verdict_iff_of_answers {answers : Http.Status → Prop} {found : Verdict}
    (h : (∃ s, (∀ t, answers t ↔ t = s) ∧ found = p.verdict s) ∨
      (∀ t, ¬ answers t) ∧ found = .notReady) :
    (∀ cause, found = .fatal cause ↔
        cause = .unsupportedMethod p.method.name p.url.render ∧ answers .notImplemented) ∧
      (found = .ready ↔ ∃ t, answers t ∧ t ≠ .notImplemented ∧
        p.status.min ≤ t.code ∧ t.code ≤ p.status.max) ∧
      (found = .notReady ↔ ∀ t, answers t →
        t ≠ .notImplemented ∧ ¬ (p.status.min ≤ t.code ∧ t.code ≤ p.status.max)) := by
  rcases h with ⟨s, honly, rfl⟩ | ⟨hnone, rfl⟩
  · simp only [honly, exists_eq_left, forall_eq, ← StatusRange.contains_iff, verdict_eq]
    by_cases hmethod : s = .notImplemented
    · subst hmethod
      simp [eq_comm (a := ProbeError.unsupportedMethod _ _)]
    · by_cases hrange : p.status.contains s.code = true
      · simp [hmethod, hrange, Ne.symm hmethod]
      · simp [hmethod, hrange, Ne.symm hmethod]
  · simp [hnone]

/-- **Of any number of evaluations, each sends the request once for its own connection.** -/
theorem requests_eq_map {networks : Nat → Network}
    (h : ∀ k, (p.evaluate (networks k)).sent =
      if (p.evaluate (networks k)).connects (networks k) then some request else none) (n : Nat) :
    p.requests networks n =
      ((List.range n).filter fun k => (p.evaluate (networks k)).connects (networks k)).map
        fun _ => request := by
  rw [requests, ← List.filterMap_eq_map, List.filterMap_filter]
  exact congrArg (List.filterMap · _) (funext h)

theorem isSingleShot_of_plain (h : p.route = .plain endpoint request)
    (haskable : p.isAskable = true) (network : Network) :
    p.IsSingleShot endpoint request network (p.evaluate network) := by
  obtain ⟨hdialled, hsent, hfound⟩ := evaluate_of_plain h network
  have hanswers : (∃ s, (∀ t, (p.evaluate network).IsAnswered network t ↔ t = s) ∧
        (p.evaluate network).attempt.verdict = p.verdict s) ∨
      (∀ t, ¬ (p.evaluate network).IsAnswered network t) ∧
        (p.evaluate network).attempt.verdict = .notReady := by
    simp only [isAnswered_iff_of_plain h]
    rcases hfound with ⟨s, hs, hverdict⟩ | hnone
    · have honly (t : Http.Status) : (network endpoint).RepliesInTime request t ↔ t = s :=
        ⟨fun ht => Http.repliesInTime_unique ht hs, fun ht => ht ▸ hs⟩
      exact .inl ⟨s, honly, hverdict⟩
    · exact .inr hnone
  obtain ⟨hfatal, hready, hnotReady⟩ := verdict_iff_of_answers hanswers
  exact
    { dialled := by rw [hdialled, if_pos haskable]
      sent := by rw [hsent, Evaluation.connects, hdialled]; rfl
      fatal := hfatal
      ready := hready
      notReady := hnotReady }

theorem isSingleShot_of_nowhere (h : p.route = .nowhere) (haskable : ¬ p.isAskable = true)
    (network : Network) :
    p.IsSingleShot endpoint request network (p.evaluate network) := by
  have hanswers : ∀ t, ¬ (p.evaluate network).IsAnswered network t := by
    rintro t ⟨endpoint', -, hdialled, -⟩
    rw [evaluate_of_nowhere h] at hdialled
    cases hdialled
  have hverdict : (p.evaluate network).attempt.verdict = .notReady := by
    rw [evaluate_of_nowhere h]
    rfl
  obtain ⟨hfatal, hready, hnotReady⟩ :=
    verdict_iff_of_answers (p := p) (.inr ⟨hanswers, hverdict⟩)
  exact
    { dialled := by rw [evaluate_of_nowhere h, if_neg haskable]
      sent := by rw [evaluate_of_nowhere h]; rfl
      fatal := hfatal
      ready := hready
      notReady := hnotReady }

/-- **The evaluations of a probe of an `http` URL are single shots.**  They all go to the host
and port of the URL with one and the same request, which has the method of the probe.  Each sends
it once if the connection opens in time, and not at all otherwise; it is fatal exactly if a reply
in time says that the method is not known, ready exactly if a reply in time has another status in
range, and not ready in every other case (`IsSingleShot`).

So any number of them sends the request once for each connection, whatever the replies say.  And
each depends on nothing but the service that it finds: where two networks have the same one, any
two evaluations are the same, whatever came before them. -/
theorem evaluate_single_shot {url : String} {method status : Option String}
    (hbuilt : ofText url method status = .ok p) (hhttp : p.url.scheme = "http".toList) :
    ∃ (endpoint : Endpoint) (request : Http.Request),
      p.url.hostText? = some endpoint.host ∧ p.url.port? = some endpoint.port ∧
      request.method = p.method.name ∧
      ∀ networks : Nat → Network,
        (∀ k, p.IsSingleShot endpoint request (networks k) (p.evaluate (networks k))) ∧
        (∀ n, p.requests networks n =
          ((List.range n).filter fun k => (p.evaluate (networks k)).connects (networks k)).map
            fun _ => request) ∧
        ∀ (others : Nat → Network) (j k : Nat), others j endpoint = networks k endpoint →
          p.evaluate (others j) = p.evaluate (networks k) ∧
            (p.check others).attempt j = (p.check networks).attempt k := by
  obtain ⟨endpoint, request, hhost, hport, hmethod, hroute⟩ := route_of_http hbuilt hhttp
  have hshot (network : Network) :
      p.IsSingleShot endpoint request network (p.evaluate network) := by
    split at hroute
    case isTrue haskable => exact isSingleShot_of_plain hroute haskable network
    case isFalse haskable => exact isSingleShot_of_nowhere hroute haskable network
  refine ⟨endpoint, request, hhost, hport, hmethod, fun networks => ⟨fun k => hshot (networks k),
    requests_eq_map fun k => (hshot (networks k)).sent, fun others j k hsame => ?_⟩⟩
  have heval : p.evaluate (others j) = p.evaluate (networks k) := by
    split at hroute
    case isTrue =>
      rw [evaluate, evaluate, hroute]
      simp only [hsame]
    case isFalse => rw [evaluate_of_nowhere hroute, evaluate_of_nowhere hroute]
  exact ⟨heval, congrArg Evaluation.attempt heval⟩

/-- A service that sends a text at once. -/
def answering (text : String) : Service :=
  { connection := .accepted 0, conduct := fun _ => .answers 0 (Http.Response.bytesOf text) }

theorem repliesInTime_answering {text : String} {request : Http.Request} {s : Http.Status}
    (h : ∃ body, Http.Response.read request.method (Http.Response.bytesOf text) = some ⟨s, body⟩) :
    (answering text).RepliesInTime request s :=
  ⟨0, 0, _, rfl, rfl, Nat.zero_le _, Http.Response.read_iff_isReply.1 h⟩

/-- The conditions of `evaluate_single_shot` can be met: by a probe that finds a reply that leads
elsewhere, then a method that is not known, with a status in range, and then no service. -/
theorem evaluate_single_shot_of_redirect :
    let p : HttpProbe := ⟨⟨"http".toList,
      some { host := .ipv6 [0, 0, 0, 0, 0, 0, 0, 1], port := some 8080 }, "/".toList, none, none⟩,
      ⟨"GET".toList, by decide, by decide⟩, ⟨200, 599, by decide⟩⟩
    let redirect := answering "HTTP/1.1 302 Found\r\nLocation: /other\r\n\r\n"
    let unknown := answering "HTTP/1.1 501 Not Implemented\n\n"
    let nobody : Service := { connection := .refused 0 "" }
    let networks : Nat → Network := fun k _ => scripted nobody [redirect, unknown, nobody] k
    ofText "http://[::1]:8080" (some "get") (some "200..599") = .ok p ∧
      p.url.scheme = "http".toList ∧
      (∃ request, request.method = "GET" ∧ p.requests networks 4 = [request, request]) ∧
      (p.evaluate (networks 0)).attempt.verdict = .ready ∧
      (p.evaluate (networks 1)).attempt.verdict =
        .fatal (.unsupportedMethod "GET" "http://[::1]:8080/") := by
  intro p redirect unknown nobody networks
  have hbuilt : ofText "http://[::1]:8080" (some "get") (some "200..599") = .ok p := by
    decide +kernel
  obtain ⟨endpoint, request, -, -, hmethod, hall⟩ := evaluate_single_shot hbuilt rfl
  obtain ⟨hshot, hrequests, -⟩ := hall networks
  have hmethod : request.method = "GET" := hmethod
  have haskable : p.isAskable = true := by decide +kernel
  have hdialled (k : Nat) : (p.evaluate (networks k)).dialled = some endpoint := by
    rw [(hshot k).dialled, if_pos haskable]
  have hconnects (k : Nat) : (p.evaluate (networks k)).connects (networks k) =
      (networks k endpoint).opensInTime := by
    rw [Evaluation.connects, hdialled, Option.any_some]
  have hanswered (k : Nat) {s : Http.Status} (h : (networks k endpoint).RepliesInTime request s) :
      (p.evaluate (networks k)).IsAnswered (networks k) s :=
    ⟨endpoint, request, hdialled k, by rw [(hshot k).sent, hconnects, if_pos h.opensInTime], h⟩
  have hredirect : redirect.RepliesInTime request ⟨302, by decide⟩ :=
    repliesInTime_answering ⟨some [], by rw [hmethod]; decide +kernel⟩
  have hunknown : unknown.RepliesInTime request .notImplemented :=
    repliesInTime_answering ⟨some [], by rw [hmethod]; decide +kernel⟩
  have hopened : (List.range 4).filter (fun k => (networks k endpoint).opensInTime) = [0, 1] := by
    rfl
  refine ⟨hbuilt, rfl, ⟨request, hmethod, ?_⟩,
    (hshot 0).ready.2 ⟨⟨302, by decide⟩, hanswered 0 hredirect, by decide, by decide, by decide⟩,
    ((hshot 1).fatal _).2 ⟨by decide +kernel, hanswered 1 hunknown⟩⟩
  simp only [hrequests, hconnects, hopened, List.map_cons, List.map_nil]

end HttpProbe
end ServiceReadiness
