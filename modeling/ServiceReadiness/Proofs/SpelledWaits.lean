/-
# Waits as they are written down

A wait is written down as one argument for each of its parts, but its ports are cut into
groups, and there is one argument for each group, with commas between its ports
(`argumentsOf`).  Every value is read back from its text (`readTime_renderSigned`,
`readPorts_portsText`).

The arguments may stand in any order, as long as the ports keep theirs, and what is standard
may be left out: such arguments spell the wait (`Spells`).  A setting other than the ports then
has the one value that the wait gives it, or none if that is the standard one
(`Spells.values_eq_or`).  So the arguments are consistent (`Spells.consistent`), and what they
give is the wait and nothing else (`Spells.request_draftOf`).
-/

import ServiceReadiness.Proofs.Numerals
import ServiceReadiness.Proofs.SpelledArguments

namespace ServiceReadiness
namespace CommandLine

/-! ### Values -/

theorem readNumber_renderSigned {i : Int} (hlow : -((Numeral.maxSigned : Int) + 1) ≤ i)
    (hhigh : i ≤ Numeral.maxSigned) :
    Draft.readNumber (Numeral.renderSigned i).toList = .ok i := by
  rw [Draft.readNumber, Numeral.readSigned_renderSigned hlow hhigh]
  rfl

/-- **Seconds are read back,** negative ones too. -/
theorem readTime_renderSigned (t : Int64) :
    Draft.readTime (Numeral.renderSigned t.toInt) = .ok t := by
  have hlow := t.le_toInt
  have hhigh := t.toInt_lt
  rw [Draft.readTime, readNumber_renderSigned (by rw [Numeral.maxSigned]; omega)
    (by rw [Numeral.maxSigned]; omega)]
  exact congrArg _ (Int64.ofInt_toInt t)

/-- The seconds in a numeral are those that it was written for. -/
theorem secondsIn_renderSigned (t : Int64) : secondsIn (Numeral.renderSigned t.toInt) = t := by
  rw [secondsIn, readTime_renderSigned]
  rfl

theorem readPort_digits (p : UInt16) : Draft.readPort (Numeral.digits p.toNat) = .ok p := by
  have hlt : p.toNat < 65536 := p.toNat_lt
  have hread : Draft.readNumber (Numeral.digits p.toNat) = .ok (p.toNat : Int) := by
    rw [← Numeral.toList_render]
    exact readNumber_renderSigned (i := p.toNat) (by rw [Numeral.maxSigned]; omega)
      (by rw [Numeral.maxSigned]; omega)
  have hrange : (0 : Int) ≤ p.toNat ∧ (p.toNat : Int) ≤ 65535 := by omega
  rw [Draft.readPort, hread]
  exact (if_pos hrange).trans (congrArg _ UInt16.ofNat_toNat)

/-- Ports with commas between them. -/
def portsText (ports : List UInt16) : String :=
  ",".intercalate (ports.map fun p => Numeral.render p.toNat)

theorem comma_notMem_digits (n : Nat) : ',' ∉ Numeral.digits n := by
  intro h
  obtain ⟨d, hd⟩ := Numeral.isDigit_of_mem_digits h
  simp [Numeral.digitValue?] at hd

theorem mapM_readPort (ports : List UInt16) :
    (ports.map fun p => Numeral.digits p.toNat).mapM Draft.readPort = .ok ports := by
  induction ports with
  | nil => rfl
  | cons p ports ih =>
    rw [List.map_cons, List.mapM_cons, readPort_digits, ih]
    rfl

/-- **Ports are read back** from one text, if there are any. -/
theorem readPorts_portsText {ports : List UInt16} (h : ports ≠ []) :
    Draft.readPorts (portsText ports) = .ok ports := by
  have htext : (portsText ports).toList =
      [','].intercalate (ports.map fun p => Numeral.digits p.toNat) := by
    rw [portsText, String.toList_intercalate, List.map_map]
    exact congrArg _ (List.map_congr_left fun p _ => Numeral.toList_render p.toNat)
  have hcomma : ∀ text ∈ ports.map fun p => Numeral.digits p.toNat, ',' ∉ text := by
    intro text hmem
    obtain ⟨p, -, rfl⟩ := List.mem_map.1 hmem
    exact comma_notMem_digits p.toNat
  rw [Draft.readPorts, htext, List.splitOn_intercalate ',' hcomma (by simpa using h)]
  exact mapM_readPort ports

/-! ### The arguments of a wait -/

/-- The values that a wait gives a setting, with its ports in groups. -/
def valuesOf (r : WaitRequest) (groups : List (List UInt16)) : Setting → List String
  | .url => r.url.toList
  | .method => r.method.toList
  | .status => r.status.toList
  | .tcpHost => [r.tcpHost]
  | .tcpPort => groups.map portsText
  | .time => [Numeral.renderSigned r.time.toInt]
  | .container => r.container.toList
  | .shell => []

/-- The switches that are on for a wait. -/
def isOn (r : WaitRequest) (logJson : Bool) : Switch → Bool
  | .keep => r.keep
  | .json => r.json
  | .logJson => logJson

/-- The arguments of a wait, with its ports in groups. -/
def argumentsOf (r : WaitRequest) (groups : List (List UInt16)) (logJson : Bool) : List Argument :=
  Subcommand.wait.settings.flatMap (fun s => (valuesOf r groups s).map (.valued s)) ++
    (Subcommand.wait.switches.filter (isOn r logJson)).map .bare

/-- The arguments that need not be written, as they give what is standard. -/
def standardArguments : List Argument :=
  let standard : WaitRequest := {}
  [.valued .tcpHost standard.tcpHost, .valued .time (Numeral.renderSigned standard.time.toInt)]

/-- Arguments spell a wait: they are its arguments in any order, but with the ports in theirs,
and without some of those that give what is standard. -/
structure Spells (r : WaitRequest) (groups : List (List UInt16)) (logJson : Bool)
    (args : List Argument) : Prop where
  flatten_groups : groups.flatten = r.tcpPorts
  nil_notMem : [] ∉ groups
  complete : ∃ omitted : List Argument, omitted.Sublist standardArguments ∧
    (args ++ omitted).Perm (argumentsOf r groups logJson)
  inOrder : values .tcpPort args = groups.map portsText

section

variable {r : WaitRequest} {groups : List (List UInt16)} {logJson : Bool} {args : List Argument}

theorem values_map_valued (s s' : Setting) (texts : List String) :
    values s (texts.map (.valued s')) = if s' = s then texts else [] := by
  rw [values, List.filterMap_map]
  by_cases h : s' = s
  · subst h
    rw [if_pos rfl]
    refine Eq.trans (congrArg (List.filterMap · texts) ?_) List.filterMap_some
    exact funext fun text => if_pos rfl
  · rw [if_neg h]
    exact List.filterMap_eq_nil_iff.2 fun text _ => if_neg h

theorem values_map_bare (s : Setting) (ws : List Switch) : values s (ws.map .bare) = [] := by
  rw [values, List.filterMap_map]
  exact List.filterMap_eq_nil_iff.2 fun _ _ => rfl

/-- Each setting has the values that the wait gives it. -/
theorem values_argumentsOf (logJson : Bool) (s : Setting) :
    values s (argumentsOf r groups logJson) = valuesOf r groups s := by
  simp only [argumentsOf, Subcommand.settings, List.flatMap_cons, List.flatMap_nil, values_append,
    values_map_bare, values_map_valued]
  cases s <;> simp [values, valuesOf]

theorem knownTo_of_mem_argumentsOf {a : Argument} (h : a ∈ argumentsOf r groups logJson) :
    a.KnownTo .wait := by
  rcases List.mem_append.1 h with h | h
  · obtain ⟨s, hs, ha⟩ := List.mem_flatMap.1 h
    obtain ⟨text, -, rfl⟩ := List.mem_map.1 ha
    exact hs
  · obtain ⟨w, hw, rfl⟩ := List.mem_map.1 h
    exact (List.mem_filter.1 hw).1

theorem bare_mem_argumentsOf {w : Switch} :
    .bare w ∈ argumentsOf r groups logJson ↔ isOn r logJson w = true := by
  cases w <;> simp [argumentsOf, Subcommand.switches]

theorem nodup_switches (c : Subcommand) : c.switches.Nodup := by cases c <;> decide

theorem count_bare_argumentsOf_le (w : Switch) :
    (argumentsOf r groups logJson).count (.bare w) ≤ 1 := by
  have hvalued : (Subcommand.wait.settings.flatMap fun s =>
      (valuesOf r groups s).map (Argument.valued s)).count (.bare w) = 0 :=
    List.count_eq_zero.2 (by simp)
  have hbare : ((Subcommand.wait.switches.filter (isOn r logJson)).map Argument.bare).Nodup :=
    List.Pairwise.map _ (fun _ _ hne heq => hne (Argument.bare.inj heq))
      ((nodup_switches .wait).filter _)
  rw [argumentsOf, List.count_append, hvalued, Nat.zero_add]
  exact List.nodup_iff_count.1 hbare _

/-! ### Arguments that spell a wait -/

/-- What a wait says of a setting other than its ports, it says once or not at all. -/
theorem valuesOf_cases (r : WaitRequest) (groups : List (List UInt16)) {s : Setting}
    (hs : s ≠ .tcpPort) :
    valuesOf r groups s = [] ∨ ∃ text, valuesOf r groups s = [text] := by
  have optional (value : Option String) : value.toList = [] ∨ ∃ text, value.toList = [text] := by
    cases value with
    | none => exact .inl rfl
    | some text => exact .inr ⟨text, rfl⟩
  cases s with
  | tcpPort => exact absurd rfl hs
  | url => exact optional r.url
  | method => exact optional r.method
  | status => exact optional r.status
  | container => exact optional r.container
  | shell => exact .inl rfl
  | tcpHost | time => exact .inr ⟨_, rfl⟩

theorem length_values_standard_le (s : Setting) : (values s standardArguments).length ≤ 1 := by
  cases s <;> decide

namespace Spells

variable (h : Spells r groups logJson args)
include h

theorem mem_argumentsOf {a : Argument} (ha : a ∈ args) : a ∈ argumentsOf r groups logJson := by
  obtain ⟨omitted, -, hperm⟩ := h.complete
  exact hperm.mem_iff.1 (List.mem_append_left omitted ha)

theorem bare_mem_iff {w : Switch} : .bare w ∈ args ↔ isOn r logJson w = true := by
  obtain ⟨omitted, hsub, hperm⟩ := h.complete
  have hnot : .bare w ∉ omitted := fun hmem => by
    simpa [standardArguments] using hsub.mem hmem
  rw [← bare_mem_argumentsOf, ← hperm.mem_iff, List.mem_append, or_iff_left hnot]

/-- **A setting has the value that the wait gives it,** or none if that is the standard one. -/
theorem values_eq_or {s : Setting} (hs : s ≠ .tcpPort) :
    values s args = valuesOf r groups s ∨
      (values s args = [] ∧ valuesOf r groups s = values s standardArguments) := by
  obtain ⟨omitted, hsub, hperm⟩ := h.complete
  have hvalues : (values s args ++ values s omitted).Perm (valuesOf r groups s) := by
    rw [← values_append, ← values_argumentsOf logJson]
    exact hperm.filterMap _
  rcases valuesOf_cases r groups hs with hnil | ⟨text, htext⟩
  · rw [hnil, List.perm_nil, List.append_eq_nil_iff] at hvalues
    exact .inl (hvalues.1.trans hnil.symm)
  · rw [htext, List.perm_singleton, List.append_eq_singleton_iff] at hvalues
    rcases hvalues with ⟨hargs, homitted⟩ | ⟨hargs, -⟩
    -- The one value was left out, and what may be left out of a setting is one value too.
    · have hlen : (values s standardArguments).length ≤ (values s omitted).length := by
        rw [homitted]
        exact length_values_standard_le s
      refine .inr ⟨hargs, ?_⟩
      rw [htext, ← homitted]
      exact (hsub.filterMap _).eq_of_length_le hlen
    · exact .inl (hargs.trans htext.symm)

/-- A setting without a standard value has the value that the wait gives it. -/
theorem values_eq {s : Setting} (hs : s ≠ .tcpPort) (hstandard : values s standardArguments = []) :
    values s args = valuesOf r groups s := by
  rcases h.values_eq_or hs with heq | ⟨hnil, heq⟩
  · exact heq
  · exact hnil.trans (heq.trans hstandard).symm

/-- A group of ports is read back. -/
theorem readPorts_of_mem {group : List UInt16} (hmem : group ∈ groups) :
    Draft.readPorts (portsText group) = .ok group :=
  readPorts_portsText fun hnil => h.nil_notMem (hnil ▸ hmem)

/-- **Arguments that spell a wait are consistent.** -/
theorem consistent : Consistent args where
  once s hs := by
    rcases h.values_eq_or hs with heq | ⟨hnil, -⟩
    · rcases valuesOf_cases r groups hs with hvalues | ⟨text, hvalues⟩ <;>
        simp [heq, hvalues]
    · simp [hnil]
  switchedOnce w := by
    obtain ⟨omitted, -, hperm⟩ := h.complete
    calc args.count (.bare w)
      _ ≤ (args ++ omitted).count (.bare w) := (List.sublist_append_left ..).count_le _
      _ = (argumentsOf r groups logJson).count (.bare w) := hperm.count_eq _
      _ ≤ 1 := count_bare_argumentsOf_le w
  readable_ports text htext := by
    rw [h.inOrder] at htext
    obtain ⟨group, hgroup, rfl⟩ := List.mem_map.1 htext
    exact ⟨group, h.readPorts_of_mem hgroup⟩
  readable_time text htext := by
    rcases h.values_eq_or (s := .time) nofun with heq | ⟨hnil, -⟩
    · rw [heq] at htext
      obtain rfl := List.mem_singleton.1 htext
      exact ⟨r.time, readTime_renderSigned r.time⟩
    · rw [hnil] at htext
      exact absurd htext List.not_mem_nil
  no_shell := h.values_eq nofun rfl

/-- The ports of a wait are those of its groups. -/
theorem tcpPorts_draftOf : (draftOf args).tcpPorts = r.tcpPorts := by
  have hgroup : ∀ group ∈ groups, portsIn (portsText group) = group := fun group hmem => by
    rw [portsIn, h.readPorts_of_mem hmem]
    rfl
  calc (values .tcpPort args).flatMap portsIn
    _ = (groups.map fun group => portsIn (portsText group)).flatten := by
      rw [h.inOrder, List.flatMap_map, List.flatMap_def]
    _ = groups.flatten := by rw [List.map_congr_left hgroup, List.map_id']
    _ = r.tcpPorts := h.flatten_groups

theorem tcpHost_draftOf :
    (draftOf args).tcpHost.getD ({} : WaitRequest).tcpHost = r.tcpHost := by
  rcases h.values_eq_or (s := .tcpHost) nofun with heq | ⟨hnil, heq⟩
  · rw [draftOf, heq]
    rfl
  · rw [draftOf, hnil]
    exact (List.singleton_inj.1 heq).symm

theorem time_draftOf : (draftOf args).time.getD ({} : WaitRequest).time = r.time := by
  rcases h.values_eq_or (s := .time) nofun with heq | ⟨hnil, heq⟩
  · rw [draftOf, heq]
    exact secondsIn_renderSigned r.time
  · rw [draftOf, hnil]
    calc ({} : WaitRequest).time
      _ = secondsIn (Numeral.renderSigned ({} : WaitRequest).time.toInt) :=
        (secondsIn_renderSigned _).symm
      _ = secondsIn (Numeral.renderSigned r.time.toInt) := by rw [List.singleton_inj.1 heq]
      _ = r.time := secondsIn_renderSigned r.time

/-- A setting that may be missing is what the wait says of it. -/
theorem head?_values {s : Setting} {value : Option String} (hs : s ≠ .tcpPort)
    (hstandard : values s standardArguments = []) (hvalue : valuesOf r groups s = value.toList) :
    (values s args).head? = value := by
  rw [h.values_eq hs hstandard, hvalue, Option.head?_toList]

theorem decide_bare_mem (w : Switch) : decide (.bare w ∈ args) = isOn r logJson w := by
  rw [Bool.eq_iff_iff, decide_eq_true_iff, h.bare_mem_iff]

/-- **Arguments that spell a wait give this wait.** -/
theorem request_draftOf : (draftOf args).request = r := by
  have hurl : (draftOf args).url = r.url := h.head?_values nofun rfl rfl
  have hmethod : (draftOf args).method = r.method := h.head?_values nofun rfl rfl
  have hstatus : (draftOf args).status = r.status := h.head?_values nofun rfl rfl
  have hcontainer : (draftOf args).container = r.container := h.head?_values nofun rfl rfl
  have hkeep : (draftOf args).keep = r.keep := h.decide_bare_mem .keep
  have hjson : (draftOf args).json = r.json := h.decide_bare_mem .json
  simp only [Draft.request, hurl, hmethod, hstatus, h.tcpHost_draftOf, h.tcpPorts_draftOf,
    h.time_draftOf, hcontainer, hkeep, hjson]

theorem logJson_draftOf : (draftOf args).logJson = logJson := h.decide_bare_mem .logJson

end Spells

/-- All arguments of a wait spell it. -/
theorem spells_argumentsOf (hflatten : groups.flatten = r.tcpPorts) (hnil : [] ∉ groups) :
    Spells r groups logJson (argumentsOf r groups logJson) where
  flatten_groups := hflatten
  nil_notMem := hnil
  complete := ⟨[], List.nil_sublist _, List.append_nil _ ▸ .refl _⟩
  inOrder := values_argumentsOf logJson .tcpPort

end

end CommandLine
end ServiceReadiness
