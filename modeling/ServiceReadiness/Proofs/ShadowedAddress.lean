/-
# An address that another one shadows

The address of the daemon is that of `DOCKER_URL`, and `DOCKER_HOST` counts only where the
first is absent.  Yet both are read before one is chosen.  So if the first holds an address,
every text of the second leads to the same settings (`resolveUrl_of_holds`), and bytes that
are no text end the resolution at this point (`resolveUrl_of_garbled`).

The timing is resolved before the addresses, and reports its own faults first; what is read
after the addresses never reports a fault of theirs (`resolveDocker_ne_report`).  Hence two
environments that differ in the shadowed address alone give the same settings or the same error
exactly if it is garbled in both or in neither, or if the timing cannot be resolved.
-/

import ServiceReadiness.Proofs.SettingsTable

namespace ServiceReadiness

/-- A variable is told by its name. -/
theorem Variable.name_inj {v w : Variable} (h : v.name = w.name) : v = w := by
  cases v <;> cases w <;> first | rfl | exact absurd h (by decide)

theorem SettingFault.report_inj {f g : SettingFault} {v w : Variable}
    (h : f.report v = g.report w) : v = w :=
  Variable.name_inj (ConfigError.invalidValue.inj h).1

/-- The error of a pipeline is that of its first step, or of the steps after a first value. -/
theorem error_or_exists_of_bind_eq_error {ε α β : Type} {x : Except ε α} {f : α → Except ε β}
    {e : ε} (h : (x >>= f) = .error e) : x = .error e ∨ ∃ a, x = .ok a ∧ f a = .error e := by
  cases x with
  | error e' =>
    obtain rfl := Except.error.inj h
    exact .inl rfl
  | ok a => exact .inr ⟨a, rfl, h⟩

namespace Environment

variable {env other : Environment} {v : Variable} {α : Type} {default : α}
  {read : String → Except SettingFault α}

theorem get_congr (h : other v = env v) : other.get v default read = env.get v default read := by
  simp only [get, text?, h]

/-- An error about a variable names the variable. -/
theorem exists_report_of_get {e : ConfigError} (h : env.get v default read = .error e) :
    ∃ f : SettingFault, e = f.report v := by
  rw [get] at h
  rcases htext : env.text? v with f | _ | text
  · rw [htext] at h
    exact ⟨f, (Except.error.inj h).symm⟩
  · rw [htext] at h
    cases h
  · rw [htext] at h
    dsimp only at h
    cases hread : read text with
    | error f =>
      rw [hread] at h
      exact ⟨f, (Except.error.inj h).symm⟩
    | ok value =>
      rw [hread] at h
      cases h

/-- What is not garbled is read as something, if only as nothing. -/
theorem exists_text?_of_not_garbled (h : ¬ env.Garbled v) : ∃ text, env.text? v = .ok text := by
  rcases absent_or_holds_or_garbled env v with habsent | ⟨text, hholds⟩ | hgarbled
  · exact ⟨none, text?_of_absent habsent⟩
  · exact ⟨some text, text?_of_holds hholds⟩
  · exact absurd hgarbled h

end Environment

namespace Settings

open Environment Variable

variable {env other : Environment} {text : String}

/-! ### The timing -/

theorem resolveTiming_congr (hmaxWait : other .defaultMaxWait = env .defaultMaxWait)
    (hinterval : other .retryInterval = env .retryInterval) :
    resolveTiming other = resolveTiming env := by
  simp only [resolveTiming, get_congr hmaxWait, get_congr hinterval]

/-- The timing is resolved exactly if both of its variables can be used. -/
theorem exists_resolveTiming_iff :
    (∃ timing, resolveTiming env = .ok timing) ↔
      env.Usable .defaultMaxWait ∧ env.Usable .retryInterval := by
  rw [usable_iff (readBy_positive (.inl rfl)) 10000, usable_iff (readBy_positive (.inr rfl)) 500]
  constructor
  · rintro ⟨timing, h⟩
    obtain ⟨maxWait, hmaxWait, h⟩ := exists_of_bind_eq_ok h
    obtain ⟨interval, hinterval, -⟩ := exists_of_bind_eq_ok h
    exact ⟨⟨maxWait, hmaxWait⟩, ⟨interval, hinterval⟩⟩
  · rintro ⟨⟨maxWait, hmaxWait⟩, ⟨interval, hinterval⟩⟩
    refine ⟨⟨maxWait, interval⟩, ?_⟩
    simp only [resolveTiming, hmaxWait, hinterval]
    rfl

/-! ### The address -/

/-- What is taken of the two addresses before one is chosen. -/
theorem get_address_of_holds (h : env.Holds v text) :
    env.get v none (.ok ∘ some) = .ok (some text) := by
  rw [Environment.get, text?_of_holds h]
  rfl

/-- **An address shadows every text of the second variable.** -/
theorem resolveUrl_of_holds (hurl : env.Holds .dockerUrl text) (hhost : ¬ env.Garbled .dockerHost) :
    resolveUrl env = .ok (normalizeDockerUrl text) := by
  obtain ⟨host, hread⟩ := exists_text?_of_not_garbled hhost
  have hsecond : env.get .dockerHost none (.ok ∘ some) = .ok host := by
    rw [Environment.get, hread]
    cases host <;> rfl
  simp only [resolveUrl, get_address_of_holds hurl, hsecond]
  rfl

/-- **Bytes of the second variable that are no text end it,** whatever the first holds. -/
theorem resolveUrl_of_garbled (hurl : env.Holds .dockerUrl text)
    (hhost : env.Garbled .dockerHost) :
    resolveUrl env = .error (SettingFault.notUtf8.report .dockerHost) := by
  have hsecond : env.get .dockerHost none (.ok ∘ some) =
      .error (SettingFault.notUtf8.report .dockerHost) := by
    rw [Environment.get, text?_of_garbled hhost]
  simp only [resolveUrl, get_address_of_holds hurl, hsecond]
  rfl

/-! ### The settings of the daemon -/

theorem resolveDocker_congr (hurl : resolveUrl other = resolveUrl env)
    (hother : ∀ v, v ≠ .dockerHost → other v = env v) :
    resolveDocker other = resolveDocker env := by
  have hget : ∀ {α : Type} {v : Variable} {default : α} {read : String → Except SettingFault α},
      v ≠ .dockerHost → other.get v default read = env.get v default read :=
    fun hv => get_congr (hother _ hv)
  simp only [resolveDocker, hurl, hget (show Variable.skip ≠ .dockerHost by decide),
    hget (show Variable.keepOnFailure ≠ .dockerHost by decide),
    hget (show Variable.stopGrace ≠ .dockerHost by decide),
    hget (show Variable.dockerTimeout ≠ .dockerHost by decide)]

theorem resolveDocker_of_error {e : ConfigError} (h : resolveUrl env = .error e) :
    resolveDocker env = .error e := by
  simp only [resolveDocker, h]
  rfl

/-- What is read after the address reports no fault of an address. -/
theorem resolveDocker_ne_report {url : String} (h : resolveUrl env = .ok url) (f : SettingFault) :
    resolveDocker env ≠ .error (f.report .dockerHost) := by
  intro herror
  have hnone : ∀ {α : Type} {v : Variable} {default : α} {read : String → Except SettingFault α},
      v ≠ .dockerHost → env.get v default read ≠ .error (f.report .dockerHost) := by
    intro α v default read hv hget
    obtain ⟨g, hg⟩ := exists_report_of_get hget
    exact hv (SettingFault.report_inj hg).symm
  obtain hurl | ⟨_, -, herror⟩ := error_or_exists_of_bind_eq_error herror
  · cases h.symm.trans hurl
  obtain hskip | ⟨_, -, herror⟩ := error_or_exists_of_bind_eq_error herror
  · exact hnone (by decide) hskip
  obtain hkeep | ⟨_, -, herror⟩ := error_or_exists_of_bind_eq_error herror
  · exact hnone (by decide) hkeep
  obtain hgrace | ⟨_, -, herror⟩ := error_or_exists_of_bind_eq_error herror
  · exact hnone (by decide) hgrace
  obtain htimeout | ⟨_, -, herror⟩ := error_or_exists_of_bind_eq_error herror
  · exact hnone (by decide) htimeout
  · cases herror

/-! ### All settings -/

/-- Without a timing there is nothing more to read. -/
theorem resolve_of_timing_error {e : ConfigError} (h : resolveTiming env = .error e) :
    resolve env = .error e := by
  simp only [resolve, h]
  rfl

theorem resolve_of_timing {timing : Timing} (h : resolveTiming env = .ok timing) :
    resolve env = (resolveDocker env).map (Settings.mk timing) := by
  simp only [resolve, h]
  rfl

/-- An address that is shadowed and a text makes no difference. -/
theorem resolve_congr_of_not_garbled (hurl : env.Holds .dockerUrl text)
    (hother : ∀ v, v ≠ .dockerHost → other v = env v) (henv : ¬ env.Garbled .dockerHost)
    (hgarbled : ¬ other.Garbled .dockerHost) : resolve other = resolve env := by
  have hurl' : other.Holds .dockerUrl text := by
    rwa [Holds, hother .dockerUrl (by decide)]
  have htiming : resolveTiming other = resolveTiming env :=
    resolveTiming_congr (hother _ (by decide)) (hother _ (by decide))
  have hdocker : resolveDocker other = resolveDocker env :=
    resolveDocker_congr
      ((resolveUrl_of_holds hurl' hgarbled).trans (resolveUrl_of_holds hurl henv).symm) hother
  simp only [resolve, htiming, hdocker]

/-- A shadowed address that is garbled ends the resolution once there is a timing. -/
theorem resolve_of_garbled (hurl : env.Holds .dockerUrl text) (hhost : env.Garbled .dockerHost)
    {timing : Timing} (htiming : resolveTiming env = .ok timing) :
    resolve env = .error (SettingFault.notUtf8.report .dockerHost) := by
  rw [resolve_of_timing htiming, resolveDocker_of_error (resolveUrl_of_garbled hurl hhost)]
  rfl

theorem resolve_ne_of_garbled (hurl : env.Holds .dockerUrl text)
    (hhost : ¬ env.Garbled .dockerHost) {timing : Timing}
    (htiming : resolveTiming env = .ok timing) :
    resolve env ≠ .error (SettingFault.notUtf8.report .dockerHost) := by
  intro herror
  rw [resolve_of_timing htiming] at herror
  cases hdocker : resolveDocker env with
  | error e =>
    rw [hdocker] at herror
    obtain rfl := Except.error.inj herror
    exact resolveDocker_ne_report (resolveUrl_of_holds hurl hhost) .notUtf8 hdocker
  | ok docker =>
    rw [hdocker] at herror
    cases herror

/-- **How far an address shadows the other one.**  Let `DOCKER_URL` hold a text, and let two
environments differ in `DOCKER_HOST` at most.  Whenever both give settings, these are the same,
and their address is that of `DOCKER_URL`.  But `DOCKER_HOST` is read all the same, and if its
bytes are no text, this is the error, unless the timing cannot be resolved.  So the two
environments come to the same exactly if `DOCKER_HOST` is garbled in both or in neither, or if
the timing, which is resolved before, cannot be. -/
theorem resolve_eq_iff_of_shadowed (hurl : env.Holds .dockerUrl text)
    (hother : ∀ v, v ≠ .dockerHost → other v = env v) :
    (resolve other = resolve env ↔
        (other.Garbled .dockerHost ↔ env.Garbled .dockerHost) ∨
          ¬ (env.Usable .defaultMaxWait ∧ env.Usable .retryInterval)) ∧
      (∀ s s', resolve env = .ok s → resolve other = .ok s' → s' = s) ∧
      (∀ s, resolve env = .ok s → IsAddress text s.docker.url) ∧
      (env.Garbled .dockerHost → env.Usable .defaultMaxWait → env.Usable .retryInterval →
        resolve env = .error (SettingFault.notUtf8.report .dockerHost)) := by
  have hurl' : other.Holds .dockerUrl text := by
    rwa [Holds, hother .dockerUrl (by decide)]
  have htiming : resolveTiming other = resolveTiming env :=
    resolveTiming_congr (hother _ (by decide)) (hother _ (by decide))
  have hnot : ∀ {e : Environment} {s}, e.Holds .dockerUrl text → resolve e = .ok s →
      ¬ e.Garbled .dockerHost := by
    intro e s he hs hgarbled
    obtain ⟨timing, ht, -⟩ := exists_of_bind_eq_ok hs
    cases hs.symm.trans (resolve_of_garbled he hgarbled ht)
  refine ⟨?same, fun s s' hs hs' => ?both, fun s hs => ?address, fun hgarbled hmax hint => ?error⟩
  case same =>
    rw [← exists_resolveTiming_iff]
    cases ht : resolveTiming env with
    | error e =>
      rw [resolve_of_timing_error ht, resolve_of_timing_error (htiming.trans ht)]
      exact ⟨fun _ => .inr (by rintro ⟨timing, h⟩; cases h), fun _ => rfl⟩
    | ok timing =>
      have ht' := htiming.trans ht
      by_cases henv : env.Garbled .dockerHost <;> by_cases hoth : other.Garbled .dockerHost
      · rw [resolve_of_garbled hurl henv ht, resolve_of_garbled hurl' hoth ht']
        simp [henv, hoth]
      · rw [resolve_of_garbled hurl henv ht]
        simp [henv, hoth, resolve_ne_of_garbled hurl' hoth ht']
      · rw [resolve_of_garbled hurl' hoth ht']
        simp [henv, hoth, (resolve_ne_of_garbled hurl henv ht).symm]
      · simp [henv, hoth, resolve_congr_of_not_garbled hurl hother henv hoth]
  case both =>
    have hsame := resolve_congr_of_not_garbled hurl hother (hnot hurl hs) (hnot hurl' hs')
    exact Except.ok.inj (hs'.symm.trans (hsame.trans hs))
  case address =>
    obtain ⟨first, second, secs, htaken⟩ := resolve_eq_ok_iff_taken.1 hs
    obtain rfl := Except.ok.inj ((get_address_of_holds hurl).symm.trans htaken.dockerUrl)
    exact isAddress_iff.2 htaken.url
  case error =>
    obtain ⟨timing, ht⟩ := exists_resolveTiming_iff.2 ⟨hmax, hint⟩
    exact resolve_of_garbled hurl hgarbled ht

/-- An environment that gives an address, and for the other one what is given. -/
def addressEnvironment (host : Option ByteArray) : Environment
  | .dockerUrl => some "unix:///run/docker.sock".toUTF8
  | .dockerHost => host
  | _ => none

theorem addressEnvironment_holds (host : Option ByteArray) :
    (addressEnvironment host).Holds .dockerUrl "unix:///run/docker.sock" :=
  text?_eq_ok_some_iff.1 (by rfl)

theorem addressEnvironment_congr (host host' : Option ByteArray) (v : Variable)
    (hv : v ≠ .dockerHost) : addressEnvironment host' v = addressEnvironment host v := by
  cases v with
  | dockerHost => exact absurd rfl hv
  | _ => rfl

/-- A byte with which no character begins. -/
def strayByte : ByteArray := ⟨#[255]⟩

theorem addressEnvironment_garbled :
    (addressEnvironment (some strayByte)).Garbled .dockerHost := by
  have hread : (addressEnvironment (some strayByte)).text? .dockerHost = .error .notUtf8 := rfl
  exact (text?_eq_error_iff.1 hread).2

/-- The hypotheses of `resolve_eq_iff_of_shadowed` are satisfiable: an address that is absent and
one that holds a text are shadowed alike, and a garbled one is the error. -/
theorem resolve_eq_iff_of_shadowed_by_socket :
    let plain := addressEnvironment none
    let shadowed := addressEnvironment (some "tcp://10.0.0.5:2375".toUTF8)
    let stray := addressEnvironment (some strayByte)
    plain.Holds .dockerUrl "unix:///run/docker.sock" ∧
      (∀ v, v ≠ .dockerHost → shadowed v = plain v) ∧ resolve shadowed = resolve plain ∧
      IsAddress "unix:///run/docker.sock" "unix:///run/docker.sock" ∧
      resolve stray = .error (SettingFault.notUtf8.report .dockerHost) := by
  intro plain shadowed stray
  have hplain : resolve plain = .ok { docker := { url := "unix:///run/docker.sock" } } := rfl
  have hread : ∀ {e : Environment} (text), e.text? .dockerHost = .ok text →
      ¬ e.Garbled .dockerHost := by
    intro e text htext hgarbled
    cases htext.symm.trans (text?_of_garbled hgarbled)
  have htext : ¬ shadowed.Garbled .dockerHost := hread (some "tcp://10.0.0.5:2375") rfl
  have hnone : ¬ plain.Garbled .dockerHost := hread none rfl
  have husable : ∀ {v}, stray v = none → stray.Usable v := fun h => .inl (.inl h)
  obtain ⟨hsame, -, haddress, -⟩ := resolve_eq_iff_of_shadowed (addressEnvironment_holds none)
    (addressEnvironment_congr none (some "tcp://10.0.0.5:2375".toUTF8))
  obtain ⟨-, -, -, herror⟩ := resolve_eq_iff_of_shadowed
    (addressEnvironment_holds (some strayByte)) (addressEnvironment_congr (some strayByte) none)
  exact ⟨addressEnvironment_holds none, addressEnvironment_congr none _,
    hsame.2 (.inl (iff_of_false htext hnone)), haddress _ hplain,
    herror addressEnvironment_garbled (husable rfl) (husable rfl)⟩

/-- **A shadowed address can make the resolution fail.**  One byte in `DOCKER_HOST`, which is
not in use, and there are no settings. -/
theorem resolve_ne_of_stray_byte :
    let plain := addressEnvironment none
    let stray := addressEnvironment (some strayByte)
    plain.Holds .dockerUrl "unix:///run/docker.sock" ∧
      (∀ v, v ≠ .dockerHost → stray v = plain v) ∧
      resolve plain = .ok { docker := { url := "unix:///run/docker.sock" } } ∧
      resolve stray = .error (.invalidValue "DOCKER_HOST" "not valid UTF-8") ∧
      resolve stray ≠ resolve plain := by
  intro plain stray
  have hplain : resolve plain = .ok { docker := { url := "unix:///run/docker.sock" } } := rfl
  have hstray : resolve stray = .error (.invalidValue "DOCKER_HOST" "not valid UTF-8") := rfl
  refine ⟨addressEnvironment_holds none, addressEnvironment_congr none _, hplain, hstray, ?_⟩
  rw [hplain, hstray]
  intro h
  cases h

end Settings
end ServiceReadiness
