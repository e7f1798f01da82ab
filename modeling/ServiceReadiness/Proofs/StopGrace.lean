/-
# The grace that a stop asks for

The seconds of a grace go from the text of a variable into the settings, from there into the
stop of a failed wait, and from the stop into the query of a request.  The first two steps lose
nothing: what the variable gives is what is set (`SettingsTable`), and a stop has the grace
that was set (`of_stop_mem_calls`).

In the request the seconds are a number with a sign, written behind the path of the container.
The path is whatever a URL makes of the name of the container, but it never holds a question mark
(`mark_notMem_ofText`), so what stands behind the first one of the target is the query that was
meant (`query?_target`), and its number is read back (`seconds?_stop`).  This number is
the grace unless the grace is too large for a sign: then it wraps (`toInt_graceSeconds`).
-/

import ServiceReadiness.Container.Engine
import ServiceReadiness.Proofs.Lifecycle
import ServiceReadiness.Proofs.SettingsTable

namespace ServiceReadiness

/-! ### Paths without a question mark -/

theorem Percent.mark_notMem_encodeChar (c : Char) : '?' ∉ Percent.encodeChar c := by
  have hdigit : ∀ n < 16, '?' ≠ hexDigit n := by decide
  intro hmark
  obtain ⟨b, -, hmark⟩ := List.mem_flatMap.1 hmark
  have hlt : b.toNat < 256 := b.toNat_lt
  simp only [encodeByte, List.mem_cons, List.not_mem_nil, or_false] at hmark
  rcases hmark with hpercent | hhigh | hlow
  · exact absurd hpercent (by decide)
  · exact hdigit _ (by omega) hhigh
  · exact hdigit _ (by omega) hlow

theorem Percent.mark_notMem_encode_path (cs : List Char) :
    '?' ∉ Percent.encode Percent.path cs := by
  intro hmark
  obtain ⟨c, -, hmark⟩ := List.mem_flatMap.1 hmark
  split at hmark
  · exact mark_notMem_encodeChar c hmark
  · rename_i hkept
    obtain rfl := List.mem_singleton.1 hmark
    exact hkept (by decide)

namespace Path

variable {kind : SchemeKind}

/-- No segment holds a question mark. -/
def Unmarked (segments : List (List Char)) : Prop := ∀ s ∈ segments, '?' ∉ s

theorem Unmarked.cons {s : List Char} {segments : List (List Char)} (hs : '?' ∉ s)
    (h : Unmarked segments) : Unmarked (s :: segments) :=
  List.forall_mem_cons.2 ⟨hs, h⟩

theorem mark_notMem_keep {segment : List Char} (h : '?' ∉ segment) : '?' ∉ keep kind segment := by
  unfold keep
  split
  · split
    · simpa using h
    · exact h
  · exact h

theorem Unmarked.stepBack {before : List (List Char)} (h : Unmarked before) :
    Unmarked (stepBack before) := by
  cases before with
  | nil => exact h
  | cons s before =>
    rw [Path.stepBack]
    split
    · exact h
    · exact (List.forall_mem_cons.1 h).2

theorem Unmarked.resolve {before segments : List (List Char)} (hbefore : Unmarked before)
    (h : Unmarked segments) : Unmarked (resolve kind before segments) := by
  induction segments generalizing before with
  | nil => exact hbefore
  | cons s rest ih =>
    obtain ⟨hs, hrest⟩ := List.forall_mem_cons.1 h
    unfold Path.resolve
    split
    · dsimp only
      split
      · exact hbefore.stepBack.cons List.not_mem_nil
      · exact ih hbefore.stepBack hrest
    · split
      · split
        · exact hbefore.cons List.not_mem_nil
        · exact ih hbefore hrest
      · exact ih (hbefore.cons (mark_notMem_keep hs)) hrest

/-- **A path holds no question mark.** -/
theorem mark_notMem_ofText (hkind : kind ≠ .file) (text : List Char) :
    '?' ∉ ofText kind text := by
  rw [ofText, if_neg hkind, render]
  intro hmark
  obtain ⟨s, hs, hmark⟩ := List.mem_flatMap.1 hmark
  have hencoded : Unmarked (encodedSegments kind text) := by
    intro segment hsegment
    obtain ⟨written, -, rfl⟩ := List.mem_map.1 hsegment
    exact Percent.mark_notMem_encode_path written
  rcases List.mem_cons.1 hmark with hslash | hmark
  · exact absurd hslash (by decide)
  · have hbefore : Unmarked [] := fun _ hnil => absurd hnil List.not_mem_nil
    exact hbefore.resolve hencoded s (List.mem_reverse.1 hs) hmark

end Path

/-! ### The URL of a request to the engine -/

namespace Url

/-- Cleaning leaves a text in front as it is that needs none. -/
theorem exists_clean_append (front : List Char) (hfirst : front.head?.any isPadding = false)
    (hlast : front.getLast?.any isPadding = false) (hne : front ≠ [])
    (hkept : front.filter (fun c => c != '\t' && c != '\n' && c != '\r') = front)
    (rest : List Char) : ∃ more, clean (front ++ rest) = front ++ more := by
  have hstart : (front ++ rest).dropWhile isPadding = front ++ rest := by
    cases front with
    | nil => exact absurd rfl hne
    | cons c cs => exact List.dropWhile_cons_of_neg (Bool.eq_false_iff.1 hfirst)
  have hend : front.reverse.dropWhile isPadding = front.reverse := by
    cases hcs : front.reverse with
    | nil => rfl
    | cons c cs =>
      rw [← List.head?_reverse, hcs] at hlast
      exact List.dropWhile_cons_of_neg (Bool.eq_false_iff.1 hlast)
  have htrim : (((front ++ rest).dropWhile isPadding).reverse.dropWhile isPadding).reverse =
      front ++ (rest.reverse.dropWhile isPadding).reverse := by
    rw [hstart, List.reverse_append, List.dropWhile_append]
    split
    case isTrue hempty => rw [hend, List.isEmpty_iff.1 hempty, List.reverse_reverse]; simp
    case isFalse => rw [List.reverse_append, List.reverse_reverse]
  exact ⟨_, by rw [clean, htrim, List.filter_append, hkept]⟩

theorem path_assemble (kind : SchemeKind) (scheme : List Char) (authority : Option Authority)
    (path tail : List Char) : (assemble kind scheme authority path tail).path = path := rfl

theorem mark_notMem_readPath {kind : SchemeKind} (hkind : kind ≠ .file) (cs : List Char) :
    '?' ∉ (readPath kind cs).1 := by
  rw [readPath]
  dsimp only
  split
  · exact List.not_mem_nil
  · exact Path.mark_notMem_ofText hkind _

variable (more : List Char)

/-- The host is the same by the rules of either scheme. -/
theorem readHost_engine {kind : SchemeKind} (hkind : kind = .special ∨ kind = .other) :
    readHost kind ("engine".toList ++ '/' :: more) = .ok (.name "engine".toList, '/' :: more) := by
  rcases hkind with rfl | rfl
  · have hhost : Host.readSpecial "engine".toList = .ok (.name "engine".toList) := by
      decide +kernel
    have hsplit : splitHost .special false ("engine".toList ++ '/' :: more) =
        ("engine".toList, '/' :: more) := rfl
    rw [readHost, hsplit]
    dsimp only
    rw [if_neg (by decide), if_neg (by decide), hhost]
    rfl
  · rfl

/-- Behind a host without a port stands a path. -/
theorem exists_readAuthority {kind : SchemeKind} (hkind : kind = .special ∨ kind = .other)
    (scheme : List Char) :
    ∃ url, readAuthority kind scheme ("engine".toList ++ '/' :: more) = .ok url ∧
      '?' ∉ url.path := by
  have hfile : kind ≠ .file := by rcases hkind with rfl | rfl <;> decide
  have hfront : splitAtFirst (endsAuthority kind) ("engine".toList ++ '/' :: more) =
      ("engine".toList, '/' :: more) := by rcases hkind with rfl | rfl <;> rfl
  have hinfo : splitUserinfo "engine".toList = none := rfl
  refine ⟨assemble kind scheme (some { host := .name "engine".toList })
    (readPath kind ('/' :: more)).1 (readPath kind ('/' :: more)).2, ?read, ?path⟩
  case read =>
    rw [readAuthority, hfront]
    dsimp only
    rw [hinfo]
    dsimp only
    rw [pure_bind, readHost_engine more hkind]
    rfl
  case path =>
    rw [path_assemble]
    exact mark_notMem_readPath hfile _

/-- **A request to the engine has a path without a question mark.** -/
theorem exists_parse_origin (address : EngineAddress) {path : String}
    (hpath : path.toList = '/' :: more) :
    ∃ url, Url.parse (EngineCall.origin address ++ path) = .ok url ∧ '?' ∉ url.path := by
  rw [Url.parse, String.toList_append, hpath, List.append_cons]
  cases address with
  | socket file =>
    obtain ⟨rest, hclean⟩ := exists_clean_append ("unix://engine".toList ++ ['/']) rfl rfl
      (by simp) rfl more
    obtain ⟨url, hread, hmark⟩ := exists_readAuthority rest (.inr rfl) "unix".toList
    refine ⟨url, ?_, hmark⟩
    rw [← hread, read, EngineCall.origin, hclean]
    rfl
  | host written =>
    obtain ⟨rest, hclean⟩ := exists_clean_append ("http://engine".toList ++ ['/']) rfl rfl
      (by simp) rfl more
    obtain ⟨url, hread, hmark⟩ := exists_readAuthority rest (.inl rfl) "http".toList
    refine ⟨url, ?_, hmark⟩
    rw [← hread, read, EngineCall.origin, hclean]
    rfl

end Url

/-! ### The query -/

/-- What stands behind the first question mark of the target of a request. -/
def Http.Request.query? (r : Http.Request) : Option (List Char) :=
  match r.target.toList.dropWhile (· != '?') with
  | [] => none
  | _ :: query => some query

/-- The number of the parameter `t` of a request, if that is all that is asked for. -/
def Http.Request.seconds? (r : Http.Request) : Option Int :=
  match r.query? with
  | some ('t' :: '=' :: numeral) => (Numeral.readSigned Numeral.maxSigned numeral).toOption
  | _ => none

namespace EngineCall

/-- **The query of a target is the one that it was given.** -/
theorem query?_target (address : EngineAddress) {path : String} {more : List Char}
    (hpath : path.toList = '/' :: more) (method query : String) :
    (⟨method, target address path (some query)⟩ : Http.Request).query? = some query.toList := by
  obtain ⟨url, hurl, hmark⟩ := Url.exists_parse_origin more address hpath
  have hplain : ∀ c ∈ url.path, (c != '?') = true := by
    intro c hc
    rw [bne_iff_ne]
    rintro rfl
    exact hmark hc
  have htarget : (target address path (some query)).toList = url.path ++ '?' :: query.toList := by
    rw [target, hurl]
    exact String.toList_ofList
  rw [Http.Request.query?, htarget, List.dropWhile_append_of_pos hplain]
  rfl

/-- **A stop asks for the seconds of its grace** as a number of 64 bits with a sign. -/
theorem seconds?_stop (address : EngineAddress) (id : String) (grace : Duration) :
    ((daemon (.stop id grace)).request address).seconds? = some (graceSeconds grace).toInt := by
  have hpath : (containerPath id ++ "/stop").toList =
      '/' :: ("containers/".toList ++ id.toList ++ "/stop".toList) := by
    rw [containerPath, String.toList_append, String.toList_append]
    rfl
  have hquery : ((daemon (.stop id grace)).request address).query? =
      some ("t=" ++ Numeral.renderSigned (graceSeconds grace).toInt).toList :=
    query?_target address hpath "POST" _
  have hlow := (graceSeconds grace).le_toInt
  have hhigh := (graceSeconds grace).toInt_lt
  have hread : Numeral.readSigned Numeral.maxSigned
      (Numeral.renderSigned (graceSeconds grace).toInt).toList = .ok (graceSeconds grace).toInt :=
    Numeral.readSigned_renderSigned (by rw [Numeral.maxSigned]; omega)
      (by rw [Numeral.maxSigned]; omega)
  rw [Http.Request.seconds?, hquery, String.toList_append]
  exact congrArg Except.toOption hread

/-! ### The numbers that wrap -/

theorem secs_ofSecs (secs : Nat) : (Duration.ofSecs secs).secs = secs :=
  Duration.secs_ofParts (by decide)

/-- **A grace that is no number with a sign wraps** to one below zero. -/
theorem toInt_graceSeconds {secs : Nat} (hmax : secs ≤ Numeral.maxUnsigned) :
    (graceSeconds (.ofSecs secs)).toInt =
      if secs ≤ Numeral.maxSigned then (secs : Int)
      else secs - ((Numeral.maxUnsigned : Int) + 1) := by
  have hsize : Int64.size = 18446744073709551616 := rfl
  rw [graceSeconds, secs_ofSecs, Int64.toInt_ofNat', hsize, Int.bmod_def]
  rw [Numeral.maxUnsigned] at hmax ⊢
  rw [Numeral.maxSigned]
  split <;> split <;> omega

end EngineCall

/-- A request that was sent is the one that was to be made. -/
theorem Http.eq_of_sent {bound : Nat} {service : Service} {request sent : Http.Request}
    (h : (Http.exchange bound service request).sent = some sent) : sent = request := by
  unfold Http.exchange at h
  split at h
  · cases h
  · cases h
  · exact (Option.some.inj h).symm

namespace ManagedWait

theorem of_stop_mem_closingCalls {docker : DockerSettings} {keep : Bool} {daemon : Daemon}
    {id other : String} {grace : Duration} {result : Option (Except ManagedFault WaitReport)}
    (h : .stop other grace ∈ closingCalls docker keep daemon id result) :
    other = id ∧ grace = docker.stopGrace ∧ ∃ fault, result = some (.error fault) := by
  rcases result with - | fault | report
  · exact absurd h List.not_mem_nil
  · rw [closingCalls] at h
    split at h
    · exact absurd h List.not_mem_nil
    · rcases List.mem_cons.1 h with hstop | hlater
      · obtain ⟨rfl, rfl⟩ := DaemonCall.stop.inj hstop
        exact ⟨rfl, rfl, fault, rfl⟩
      · cases hanswer : daemon.stop id docker.stopGrace <;> simp [hanswer] at hlater
  · exact absurd h List.not_mem_nil

/-- **A stop is part of a wait that failed, and has the grace that was set.** -/
theorem of_stop_mem_calls {allowance : Nat} {settings : Settings} {request : WaitRequest}
    {access : Option Daemon} {behaviour : CheckBehaviour} {id : String} {grace : Duration}
    (h : .stop id grace ∈ (runWithin allowance settings request access behaviour).calls) :
    request.container = some id ∧ grace = settings.docker.stopGrace ∧
      ∃ fault, (runWithin allowance settings request access behaviour).outcome =
        some (.error fault) := by
  obtain ⟨checks, container, daemon, hafter, hmem⟩ := exists_mem_closingCalls h rfl
  obtain ⟨rfl, hgrace, hfault⟩ := of_stop_mem_closingCalls hmem
  exact ⟨hafter.named, hgrace, hfault⟩

/-- **How far the grace reaches the engine unchanged.**  Every environment that gives settings
gives a grace in seconds, ten if its variable is absent.  A stop is part of a wait that failed,
and has this grace.  The request for it asks for just as many seconds, which are not below zero,
exactly if they are a number of 64 bits with a sign.  A longer grace is taken by the settings, but
wraps in the request. -/
theorem stop_asks_for_grace_iff (allowance : Nat) {env : Environment} {settings : Settings}
    (request : WaitRequest) (e : Engine) (behaviour : CheckBehaviour)
    (hsettings : Settings.resolve env = .ok settings) :
    let run := runWithin allowance settings request (some e.daemon) behaviour
    ∃ secs : Nat, env.Gives .stopGrace 10 IsCount secs ∧
      ∀ id grace, .stop id grace ∈ run.calls →
        request.container = some id ∧ grace = .ofSecs secs ∧
        (∃ fault, run.outcome = some (.error fault)) ∧
        ∀ sent, (e.exchange (.daemon (.stop id grace))).sent = some sent →
          ∃ asked : Int, sent.seconds? = some asked ∧
            (asked = secs ↔ secs ≤ Numeral.maxSigned) ∧ (0 ≤ asked ↔ secs ≤ Numeral.maxSigned) ∧
            asked = if secs ≤ Numeral.maxSigned then (secs : Int)
              else secs - ((Numeral.maxUnsigned : Int) + 1) := by
  intro run
  obtain ⟨_, _, _, htaken⟩ := Settings.resolve_eq_ok_iff_taken.1 hsettings
  obtain ⟨secs, hgives, hgrace⟩ := htaken.tabulated.stopGrace
  have hmax : secs ≤ Numeral.maxUnsigned := by
    rcases hgives with ⟨-, rfl⟩ | ⟨text, -, hcount⟩
    · decide
    · exact hcount.2
  refine ⟨secs, hgives, fun id grace hstop => ?_⟩
  obtain ⟨hnamed, hset, hfault⟩ := of_stop_mem_calls hstop
  obtain rfl : grace = .ofSecs secs := hset.trans hgrace
  refine ⟨hnamed, rfl, hfault, fun sent hsent => ?_⟩
  obtain rfl := Http.eq_of_sent hsent
  have hasked := EngineCall.toInt_graceSeconds hmax
  refine ⟨_, EngineCall.seconds?_stop e.address id (.ofSecs secs), ?unchanged, ?nonneg, hasked⟩
  case unchanged =>
    rw [hasked]
    split <;> omega
  case nonneg =>
    rw [hasked]
    split <;> omega

/-- An environment that gives nothing but a grace. -/
def graceEnvironment (text : String) : Environment
  | .stopGrace => some text.toUTF8
  | _ => none

/-- An engine that does what it is asked for, and whose containers are never running. -/
def obligingEngine : Engine where
  address := .socket "/run/docker.sock"
  bound := 120000
  serve
    | .daemon (.inspect ..) =>
      ⟨.accepted 0, fun _ => .answers 0 (Http.Response.bytesOf "HTTP/1.1 200 OK\r\n\r\n\x7b\x7d")⟩
    | _ => ⟨.accepted 0, fun _ => .answers 0 (Http.Response.bytesOf "HTTP/1.1 204 X\r\n\r\n")⟩
  read body := if body = Http.Response.bytesOf "\x7b\x7d" then some {} else none

/-- The conditions of `stop_asks_for_grace_iff` can be met: a container that does not keep
running is stopped, with ten seconds of grace if nothing else is asked for. -/
theorem stop_asks_for_grace_iff_of_default :
    let run := runWithin 1 {} { container := some "app" } (some obligingEngine.daemon) idleBehaviour
    let stop : DaemonCall := .stop "app" (.ofSecs 10)
    Settings.resolve (fun _ => none) = .ok {} ∧ stop ∈ run.calls ∧
      ∃ sent, (obligingEngine.exchange (.daemon stop)).sent = some sent ∧
        sent.seconds? = some 10 := by
  intro run stop
  have hsettings : Settings.resolve (fun _ => none) = .ok {} := rfl
  have hstop : stop ∈ run.calls := by decide +kernel
  obtain ⟨secs, -, hcalls⟩ := stop_asks_for_grace_iff 1 { container := some "app" } obligingEngine
    idleBehaviour hsettings
  obtain ⟨-, hgrace, -, hsent⟩ := hcalls "app" (.ofSecs 10) hstop
  have hsecs : (Duration.ofSecs 10).secs = secs :=
    (congrArg Duration.secs hgrace).trans (EngineCall.secs_ofSecs secs)
  obtain rfl : 10 = secs := hsecs
  obtain ⟨asked, hasked, hunchanged, -⟩ := hsent _ rfl
  exact ⟨hsettings, hstop, _, rfl, hasked.trans (congrArg some (hunchanged.2 (by decide)))⟩

/-- **A long grace is told as a negative one.**  The container is to have 2⁶³ seconds, and
the engine is asked for as many below zero. -/
theorem stop_asks_for_negative_grace :
    let settings : Settings := { docker := { stopGrace := .ofSecs 9223372036854775808 } }
    let run := runWithin 1 settings { container := some "app" } (some obligingEngine.daemon)
      idleBehaviour
    let stop : DaemonCall := .stop "app" (.ofSecs 9223372036854775808)
    let sent : Http.Request := ⟨"POST", "/containers/app/stop?t=-9223372036854775808"⟩
    Settings.resolve (graceEnvironment "9223372036854775808") = .ok settings ∧
      run.outcome = some (.error (.wait (.probe (.containerStopped "app")))) ∧
      stop ∈ run.calls ∧ (obligingEngine.exchange (.daemon stop)).sent = some sent ∧
      sent.seconds? = some (-9223372036854775808) ∧
      sent.seconds? ≠ some 9223372036854775808 := by
  intro settings run stop sent
  have hseconds : sent.seconds? = some (-9223372036854775808) := by decide +kernel
  refine ⟨rfl, by decide +kernel, by decide +kernel, by decide +kernel, hseconds, ?_⟩
  rw [hseconds]
  decide

end ManagedWait
end ServiceReadiness
