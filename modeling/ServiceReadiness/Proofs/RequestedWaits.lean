/-
# The waits that can be asked for

A wait that is well formed has a target, a method and a status only for a URL, and a container
that is kept only if there is one.  A command line asks for such waits only
(`wellFormed_of_parse`): every draft of a wait is looked at before it is taken.  It can ask for
all of them (`exists_parse_iff`), with any values, in any way of writing them down
(`parse_of_spells`).

A well-formed wait has a readiness check or one that cannot be used (`checks_cases`), so it is
never a wait for nothing (`outcome_ne_noProbes`).
-/

import ServiceReadiness.CommandLine.Parser
import ServiceReadiness.Proofs.Lifecycle
import ServiceReadiness.Proofs.Resolution
import ServiceReadiness.Proofs.RoundRobin
import ServiceReadiness.Proofs.SpelledWaits

namespace ServiceReadiness

/-! ### Waits that are well formed -/

/-- A wait has a target, and what needs company has it. -/
structure WaitRequest.WellFormed (r : WaitRequest) : Prop where
  target : r.url ≠ none ∨ r.tcpPorts ≠ []
  method : r.method ≠ none → r.url ≠ none
  status : r.status ≠ none → r.url ≠ none
  keep : r.keep = true → r.container ≠ none

/-- The checks of a wait that can be used: one of its URL, if it has one, and then one of all
its ports in order, if it has any. -/
inductive WaitRequest.CheckedBy (r : WaitRequest) : List Check → Prop
  | url (url : String) (probe : HttpProbe) :
      r.url = some url → HttpProbe.ofText url r.method r.status = .ok probe → r.tcpPorts = [] →
      CheckedBy r [.http probe]
  | ports :
      r.url = none → r.tcpPorts ≠ [] →
      CheckedBy r [.tcp ⟨r.tcpHost, r.tcpPorts, r.tcpPorts.map (⟨r.tcpHost, ·⟩)⟩]
  | urlAndPorts (url : String) (probe : HttpProbe) :
      r.url = some url → HttpProbe.ofText url r.method r.status = .ok probe → r.tcpPorts ≠ [] →
      CheckedBy r [.http probe, .tcp ⟨r.tcpHost, r.tcpPorts, r.tcpPorts.map (⟨r.tcpHost, ·⟩)⟩]

theorem WaitRequest.CheckedBy.ne_nil {r : WaitRequest} {checks : List Check}
    (h : r.CheckedBy checks) : checks ≠ [] := by
  cases h <;> exact List.cons_ne_nil _ _

/-- The check of a URL comes before that of the ports. -/
theorem WaitRequest.checks_of_url_eq_some {r : WaitRequest} {url : String}
    (h : r.url = some url) :
    r.checks = (HttpProbe.ofText url r.method r.status).map (.http · :: r.portCheck) := by
  simp only [checks, urlCheck, h]
  cases HttpProbe.ofText url r.method r.status <;> rfl

/-- **A well-formed wait has checks, or a URL that cannot be checked.** -/
theorem WaitRequest.WellFormed.checks_cases {r : WaitRequest} (h : r.WellFormed) :
    (∃ url cause, r.url = some url ∧ HttpProbe.ofText url r.method r.status = .error cause ∧
        r.checks = .error cause) ∨
      ∃ checks, r.checks = .ok checks ∧ r.CheckedBy checks := by
  cases hurl : r.url with
  | none =>
    have hports : r.tcpPorts ≠ [] := h.target.resolve_left fun hne => hne hurl
    refine .inr ⟨_, WaitRequest.checks_of_url_eq_none hurl, ?_⟩
    rw [WaitRequest.portCheck, if_neg hports]
    exact .ports hurl hports
  | some url =>
    have hchecks := WaitRequest.checks_of_url_eq_some hurl
    cases hprobe : HttpProbe.ofText url r.method r.status with
    | error cause =>
      rw [hprobe] at hchecks
      exact .inl ⟨url, cause, rfl, hprobe, hchecks⟩
    | ok probe =>
      rw [hprobe] at hchecks
      refine .inr ⟨_, hchecks, ?_⟩
      by_cases hports : r.tcpPorts = []
      · rw [WaitRequest.portCheck, if_pos hports]
        exact .url url probe hurl hprobe hports
      · rw [WaitRequest.portCheck, if_neg hports]
        exact .urlAndPorts url probe hurl hprobe hports

/-! ### Waits for nothing -/

/-- A wait for something does not end for want of probes. -/
theorem Waiter.waitWithin_ending_ne_noProbes {probes : List Probe} (hprobes : probes ≠ [])
    (allowance : Nat) (timing : Timing) (secs : Int) :
    (waitWithin allowance timing secs none probes).ending ≠ .noProbes := by
  intro hnone
  rcases waitWithin_ending_cases hprobes timing secs allowance with
    ⟨r, index, p, -, -, hending⟩ | ⟨r, -, -, hlate⟩ | ⟨-, hunfinished⟩
  · rw [hnone] at hending
    cases hv : (p.attempt r).verdict <;> simp [endingOf, hv] at hending
  · exact Ending.noConfusion (hnone.symm.trans hlate)
  · exact Ending.noConfusion (hnone.symm.trans hunfinished)

namespace ManagedWait

/-- Only a wait without probes fails for want of them. -/
theorem ending_of_outcome_eq_noProbes {checks : List Check} {ending : Ending}
    (h : outcome checks ending = some (.error (.wait .noProbes))) : ending = .noProbes := by
  cases ending <;> simp_all [outcome, Ending.error?]

theorem waitOutcome_ne_noProbes {checks : List Check} (h : checks ≠ []) (allowance : Nat)
    (settings : Settings) (r : WaitRequest) (behaviour : CheckBehaviour) (watch : List Probe) :
    waitOutcome allowance settings r behaviour checks watch ≠ some (.error (.wait .noProbes)) := by
  intro hnone
  have hprobes : checks.map (Check.probe behaviour) ++ watch ≠ [] := by simp [h]
  exact Waiter.waitWithin_ending_ne_noProbes hprobes _ _ _ (ending_of_outcome_eq_noProbes hnone)

/-- **A well-formed wait is never a wait for nothing,** whether a container is looked after or
not, and whatever the checks find. -/
theorem outcome_ne_noProbes {r : WaitRequest} (h : r.WellFormed) (allowance : Nat)
    (settings : Settings) (access : Option Daemon) (behaviour : CheckBehaviour) :
    (runWithin allowance settings r access behaviour).outcome ≠
      some (.error (.wait .noProbes)) := by
  have hne : ∀ checks, r.checks = .ok checks → checks ≠ [] := fun checks hchecks => by
    rcases h.checks_cases with ⟨_, _, -, -, herror⟩ | ⟨checks', hok, hchecked⟩
    · cases hchecks.symm.trans herror
    · obtain rfl := Except.ok.inj (hok.symm.trans hchecks)
      exact hchecked.ne_nil
  rcases unusable_or_alone_or_looksAfter r access with
    ⟨cause, hchecks⟩ | ⟨checks, hchecks, halone⟩ | ⟨checks, id, daemon, hafter⟩
  · rw [outcome_of_unusable hchecks]
    simp
  · rw [outcome_of_alone hchecks halone]
    exact waitOutcome_ne_noProbes (hne checks hchecks) _ _ _ _ _
  · cases hstart : daemon.start id with
    | error cause =>
      rw [runWithin_of_not_started hafter hstart, rejected]
      simp
    | ok _ =>
      rw [outcome_of_started hafter hstart]
      exact waitOutcome_ne_noProbes (hne checks hafter.usable) _ _ _ _ _

end ManagedWait

namespace CommandLine

/-! ### What a command line asks for -/

/-- A draft of a wait is complete exactly if the wait that it asks for is well formed. -/
theorem Draft.waitComplete_iff (d : Draft) : d.waitComplete = true ↔ d.request.WellFormed := by
  simp only [Draft.waitComplete, Bool.and_eq_true, Bool.or_eq_true]
  constructor
  · rintro ⟨⟨htarget, hcompany⟩, hkeep⟩
    refine ⟨?target, ?method, ?status, ?keep⟩
    case target => simpa [Draft.request, Option.isSome_iff_ne_none] using htarget
    case method => cases hurl : d.url <;> simp_all [Draft.request]
    case status => cases hurl : d.url <;> simp_all [Draft.request]
    case keep => cases hcontainer : d.container <;> simp_all [Draft.request]
  · rintro ⟨htarget, hmethod, hstatus, hkeep⟩
    refine ⟨⟨?target, ?company⟩, ?keep⟩
    case target => simpa [Draft.request, Option.isSome_iff_ne_none] using htarget
    case company => cases hurl : d.url <;> simp_all [Draft.request]
    case keep => cases hcontainer : d.container <;> simp_all [Draft.request]

/-- A command line is that of one of its subcommands. -/
theorem exists_parse_of_parseFrom {logJson : Bool} {args : List String} {l : CommandLine}
    (h : parseFrom logJson args = .ok l) :
    ∃ c : Subcommand, ∃ rest inner, c.parse rest = .ok inner ∧ inner.command = l.command := by
  -- Only the switch in front is read past, and only the name of a subcommand gives anything.
  fun_induction parseFrom logJson args with
  | case6 logJson arg rest value hvalue hnew htoken ih => exact ih h
  | case8 logJson arg rest htoken c hc =>
    obtain ⟨inner, hinner, rfl⟩ := exists_of_map_eq_ok h
    exact ⟨c, rest, inner, hinner, rfl⟩
  | _ => cases h

/-- A subcommand is taken from a draft. -/
theorem exists_draft_of_parse {c : Subcommand} {args : List String} {l : CommandLine}
    (h : c.parse args = .ok l) :
    ∃ d : Draft, ∃ trailing, d.command trailing c = .ok l.command := by
  obtain ⟨d, -, hfinish⟩ := exists_of_bind_eq_ok h
  rcases hscan : (c.scan args).finish with trailing | - | fault
  · rw [hscan] at hfinish
    obtain ⟨command, hcommand, hl⟩ := exists_of_bind_eq_ok hfinish
    obtain rfl := Except.ok.inj hl
    exact ⟨d, trailing, hcommand⟩
  · rw [hscan] at hfinish
    cases hfinish
  · rw [hscan] at hfinish
    cases hfinish

/-- A draft gives a wait only if it is complete. -/
theorem Draft.wellFormed_of_command {d : Draft} {trailing : List String} {c : Subcommand}
    {r : WaitRequest} (h : d.command trailing c = .ok (.wait r)) : r.WellFormed := by
  cases c with
  | wait =>
    rw [Draft.command] at h
    split at h
    · rename_i hcomplete
      obtain rfl := Command.wait.inj (Except.ok.inj h)
      exact d.waitComplete_iff.1 hcomplete
    · cases h
  | run =>
    rw [Draft.command] at h
    split at h <;> cases h
  | completion =>
    rw [Draft.command] at h
    split at h <;> cases h

/-- **A command line asks for well-formed waits only.** -/
theorem wellFormed_of_parse {args : List String} {r : WaitRequest} {logJson : Bool}
    (h : parse args = .ok ⟨.wait r, logJson⟩) : r.WellFormed := by
  obtain ⟨c, rest, inner, hinner, hcommand⟩ := exists_parse_of_parseFrom h
  obtain ⟨d, trailing, hdraft⟩ := exists_draft_of_parse hinner
  rw [hcommand] at hdraft
  exact Draft.wellFormed_of_command hdraft

/-! ### What a command line can ask for -/

/-- What stands in front of the subcommand if the logs are asked for in JSON there. -/
def inFront (logJson : Bool) : List String :=
  if logJson then [(Argument.bare .logJson).text] else []

/-- A subcommand is read by its name. -/
theorem parseFrom_name (logJson : Bool) (c : Subcommand) (rest : List String) :
    parseFrom logJson (c.name :: rest) =
      (c.parse rest).map fun l => { l with logJson := logJson || l.logJson } := by
  have htoken : Token.ofChars c.name.toList = .plain := by cases c <;> decide
  have hname : Subcommand.ofName? c.name = some c := by cases c <;> decide
  simp only [parseFrom, htoken, hname]

theorem parse_inFront (logJson : Bool) (c : Subcommand) (rest : List String) :
    parse (inFront logJson ++ c.name :: rest) =
      (c.parse rest).map fun l => { l with logJson := logJson || l.logJson } := by
  cases logJson with
  | false => exact parseFrom_name false c rest
  | true =>
    have htoken := ofChars_bare .logJson
    rw [parse, inFront, if_pos rfl, List.singleton_append]
    simp only [parseFrom, htoken]
    exact parseFrom_name true c rest

/-- **A well-formed wait is read back,** however it is written down. -/
theorem parse_of_spells {r : WaitRequest} {groups : List (List UInt16)} {logJson : Bool}
    {args : List Argument} (h : Spells r groups logJson args) (hr : r.WellFormed)
    (front : Bool) :
    parse (inFront front ++ "wait" :: args.map Argument.text) =
      .ok ⟨.wait r, front || logJson⟩ := by
  have hcomplete : (draftOf args).waitComplete = true :=
    (draftOf args).waitComplete_iff.2 (h.request_draftOf.symm ▸ hr)
  have hparse : Subcommand.wait.parse (args.map Argument.text) = .ok ⟨.wait r, logJson⟩ := by
    rw [← List.append_nil (args.map Argument.text),
      parse_text_append (fun a ha => knownTo_of_mem_argumentsOf (h.mem_argumentsOf ha))
        h.consistent rfl, Draft.command, if_pos hcomplete, h.request_draftOf, h.logJson_draftOf]
    rfl
  exact (parse_inFront front .wait _).trans (congrArg _ hparse)

/-- **The waits that can be asked for are those that are well formed.** -/
theorem exists_parse_iff {r : WaitRequest} {logJson : Bool} :
    (∃ args, parse args = .ok ⟨.wait r, logJson⟩) ↔ r.WellFormed := by
  constructor
  · rintro ⟨args, h⟩
    exact wellFormed_of_parse h
  · intro h
    -- Each port may be a group of its own.
    have hspells : Spells r (r.tcpPorts.map ([·])) logJson _ :=
      spells_argumentsOf (by simp [← List.flatMap_def]) (by simp)
    exact ⟨_, parse_of_spells hspells h false⟩

/-- **A program is read back with all its arguments,** whatever they look like. -/
theorem parse_run (front : Bool) (time : Int64) {argv : List String} (hargv : argv ≠ []) :
    parse (inFront front ++
        "run" :: ("--time=" ++ Numeral.renderSigned time.toInt) :: "--" :: argv) =
      .ok ⟨.run time argv, front⟩ := by
  let args : List Argument := [.valued .time (Numeral.renderSigned time.toInt)]
  have htext : args.map Argument.text = ["--time=" ++ Numeral.renderSigned time.toInt] := rfl
  have hknown : ∀ a ∈ args, a.KnownTo .run := by
    simp [args, Argument.KnownTo, Subcommand.settings]
  have hconsistent : Consistent args := by
    refine ⟨fun s _ => ?once, fun w => ?switchedOnce, ?ports, ?time, rfl⟩
    case once => exact List.length_filterMap_le ..
    case switchedOnce => exact List.count_le_length
    case ports => exact fun text htext => absurd htext List.not_mem_nil
    case time =>
      intro text htext
      obtain rfl := List.mem_singleton.1 htext
      exact ⟨time, readTime_renderSigned time⟩
  have hscan : Subcommand.run.scan ("--" :: argv) = ⟨[], .complete argv⟩ := rfl
  have htime : (draftOf args).time = some time := congrArg some (secondsIn_renderSigned time)
  have hparse : Subcommand.run.parse (args.map Argument.text ++ "--" :: argv) =
      .ok ⟨.run time argv, false⟩ := by
    rw [parse_text_append hknown hconsistent hscan, Draft.command, if_neg hargv, htime]
    rfl
  rw [htext, List.singleton_append] at hparse
  exact (parse_inFront front .run _).trans ((congrArg _ hparse).trans (by simp [Except.map]))

/-- **The command line is exact in both directions.**  Every wait that it asks for is well
formed, has checks unless its URL cannot be checked, and is never a wait for nothing.  And
every wait that is well formed can be asked for, with its arguments in any order and its ports
in any groups; so can every program, with any arguments. -/
theorem parse_exact :
    (∀ args r logJson, parse args = .ok ⟨.wait r, logJson⟩ →
      r.WellFormed ∧
        ((∃ url cause, r.url = some url ∧ HttpProbe.ofText url r.method r.status = .error cause ∧
            r.checks = .error cause) ∨
          ∃ checks, r.checks = .ok checks ∧ checks ≠ [] ∧ r.CheckedBy checks) ∧
        ∀ allowance settings access behaviour,
          (ManagedWait.runWithin allowance settings r access behaviour).outcome ≠
            some (.error (.wait .noProbes))) ∧
      (∀ r groups front logJson args, WaitRequest.WellFormed r → Spells r groups logJson args →
        parse (inFront front ++ "wait" :: args.map Argument.text) =
          .ok ⟨.wait r, front || logJson⟩) ∧
      ∀ front time argv, argv ≠ [] →
        parse (inFront front ++
            "run" :: ("--time=" ++ Numeral.renderSigned (Int64.toInt time)) :: "--" :: argv) =
          .ok ⟨.run time argv, front⟩ := by
  refine ⟨fun args r logJson hparse => ?sound, fun r groups front logJson args hr hspells => ?wait,
    fun front time argv hargv => ?run⟩
  case sound =>
    have hr := wellFormed_of_parse hparse
    refine ⟨hr, hr.checks_cases.imp_right ?_, ManagedWait.outcome_ne_noProbes hr⟩
    rintro ⟨checks, hchecks, hchecked⟩
    exact ⟨checks, hchecks, hchecked.ne_nil, hchecked⟩
  case wait => exact parse_of_spells hspells hr front
  case run => exact parse_run front time hargv

/-- A wait with everything that needs company. -/
def crowdedWait : WaitRequest where
  url := some "http://a/?b=c"
  method := some ""
  tcpPorts := [80, 443, 5432]
  time := -5
  container := some "--"
  keep := true

/-- A way of writing it down. -/
def crowdedArguments : List Argument :=
  [.bare .keep, .valued .tcpPort "80,443", .valued .time "-5", .valued .container "--",
    .bare .logJson, .valued .url "http://a/?b=c", .valued .tcpPort "5432", .valued .method ""]

/-- Such a wait is read back, and so is a program with arguments that look like options. -/
theorem parse_exact_of_crowded :
    crowdedWait.WellFormed ∧ Spells crowdedWait [[80, 443], [5432]] true crowdedArguments ∧
      parse ["wait", "--keep", "--tcp-port=80,443", "--time=-5", "--container=--", "--log-json",
        "--url=http://a/?b=c", "--tcp-port=5432", "--method="] = .ok ⟨.wait crowdedWait, true⟩ ∧
      (ManagedWait.runWithin 1 {} crowdedWait none ManagedWait.idleBehaviour).outcome ≠
        some (.error (.wait .noProbes)) ∧
      parse ["--log-json", "run", "--time=-1", "--", "--", "--help"] =
        .ok ⟨.run (-1) ["--", "--help"], true⟩ := by
  have hwell : crowdedWait.WellFormed :=
    ⟨.inl nofun, fun _ => nofun, fun _ => nofun, fun _ => nofun⟩
  have hspells : Spells crowdedWait [[80, 443], [5432]] true crowdedArguments := by
    refine ⟨rfl, by decide, ⟨[.valued .tcpHost "localhost"], ?_, ?_⟩, ?_⟩ <;> decide +kernel
  have hnegative : "--time=" ++ Numeral.renderSigned (Int64.toInt (-1)) = "--time=-1" := by
    decide +kernel
  obtain ⟨hsound, hwait, hrun⟩ := parse_exact
  have hparse := hwait crowdedWait _ false true crowdedArguments hwell hspells
  have hprogram := hrun true (-1) ["--", "--help"] nofun
  rw [hnegative] at hprogram
  exact ⟨hwell, hspells, hparse, (hsound _ _ _ hparse).2.2 1 {} none _, hprogram⟩

end CommandLine
end ServiceReadiness
