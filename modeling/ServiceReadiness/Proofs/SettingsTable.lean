/-
# The table of the settings

Each setting has one row: the variable that it is taken from, what a text of this variable
may be, and the default for a variable that is absent.  The eight variables are read one
after the other, by one and the same function with another reader for each kind
(`Variable.ReadBy`).  So one lemma says what reading a variable gives (`get_eq_ok_iff`) and
one says what it reports (`get_eq_error_iff`), and since a variable that can be used leaves
the rest as it is (`get_bind_eq_error_iff`), the error of a whole environment is that of its
first variable that cannot be used.
-/

import ServiceReadiness.Proofs.EnvironmentText
import ServiceReadiness.Proofs.Numerals
import ServiceReadiness.Proofs.Resolution

namespace ServiceReadiness

/-! ### What a text may be -/

/-- A text is a number of 64 bits. -/
def IsCount (text : String) (n : Nat) : Prop :=
  Numeral.Spells text.toList n ∧ n ≤ Numeral.maxUnsigned

/-- A text is no number of 64 bits, for a fault of its numeral. -/
def NotCount (text : String) (f : SettingFault) : Prop :=
  ∃ g, f = .number g ∧ Numeral.Faulty Numeral.maxUnsigned text.toList g

/-- A text is a number of 64 bits other than zero. -/
def IsPositiveCount (text : String) (n : Nat) : Prop := IsCount text n ∧ n ≠ 0

/-- A text is a flag. -/
def IsFlag (text : String) (flag : Bool) : Prop := text = if flag then "true" else "false"

/-- A text is an address, with one leading `tcp://` replaced by `http://`. -/
def IsAddress (text url : String) : Prop :=
  (∃ rest, text = "tcp://" ++ rest ∧ url = "http://" ++ rest) ∨
    (∀ rest, text ≠ "tcp://" ++ rest) ∧ url = text

theorem readCount_eq_ok_iff {text : String} {n : Nat} :
    readCount text = .ok n ↔ IsCount text n := by
  rw [readCount, mapError_eq_ok, Numeral.read_eq_ok_iff, IsCount]

theorem readCount_eq_error_iff {text : String} {f : SettingFault} :
    readCount text = .error f ↔ NotCount text f := by
  rw [readCount]
  cases hread : Numeral.read Numeral.maxUnsigned text.toList with
  | ok n =>
    refine ⟨nofun, fun ⟨g, _, hg⟩ => ?_⟩
    exact absurd (hread.symm.trans (Numeral.read_eq_error_iff.2 hg)) nofun
  | error g =>
    constructor
    · intro h
      exact ⟨g, (Except.error.inj h).symm, Numeral.read_eq_error_iff.1 hread⟩
    · rintro ⟨g', rfl, hg'⟩
      obtain rfl := Except.error.inj (hread.symm.trans (Numeral.read_eq_error_iff.2 hg'))
      rfl

theorem readPositive_of_zero {text : String} (h : readCount text = .ok 0) :
    readPositive text = .error .zero := by
  rw [readPositive, h]
  rfl

theorem readPositive_of_pos {text : String} {n : Nat} (h : readCount text = .ok n) (hn : n ≠ 0) :
    readPositive text = .ok n := by
  cases n with
  | zero => exact absurd rfl hn
  | succ n =>
    rw [readPositive, h]
    rfl

theorem readPositive_of_error {text : String} {f : SettingFault}
    (h : readCount text = .error f) : readPositive text = .error f := by
  rw [readPositive, h]
  rfl

theorem readPositive_eq_ok_iff {text : String} {n : Nat} :
    readPositive text = .ok n ↔ IsPositiveCount text n := by
  constructor
  · intro h
    cases hread : readCount text with
    | error f => exact absurd ((readPositive_of_error hread).symm.trans h) nofun
    | ok m =>
      by_cases hm : m = 0
      · subst hm
        exact absurd ((readPositive_of_zero hread).symm.trans h) nofun
      · obtain rfl := Except.ok.inj ((readPositive_of_pos hread hm).symm.trans h)
        exact ⟨readCount_eq_ok_iff.1 hread, hm⟩
  · exact fun ⟨hcount, hn⟩ => readPositive_of_pos (readCount_eq_ok_iff.2 hcount) hn

theorem readPositive_eq_error_iff {text : String} {f : SettingFault} :
    readPositive text = .error f ↔ NotCount text f ∨ f = .zero ∧ IsCount text 0 := by
  constructor
  · intro h
    cases hread : readCount text with
    | error g =>
      obtain rfl := Except.error.inj ((readPositive_of_error hread).symm.trans h)
      exact .inl (readCount_eq_error_iff.1 hread)
    | ok m =>
      by_cases hm : m = 0
      · subst hm
        exact .inr ⟨(Except.error.inj ((readPositive_of_zero hread).symm.trans h)).symm,
          readCount_eq_ok_iff.1 hread⟩
      · exact absurd ((readPositive_of_pos hread hm).symm.trans h) nofun
  · rintro (hfault | ⟨rfl, hzero⟩)
    · exact readPositive_of_error (readCount_eq_error_iff.2 hfault)
    · exact readPositive_of_zero (readCount_eq_ok_iff.2 hzero)

theorem readFlag_eq_ok_iff {text : String} {flag : Bool} :
    readFlag text = .ok flag ↔ IsFlag text flag := by
  rw [readFlag, IsFlag]
  by_cases htrue : text = "true"
  · subst htrue
    cases flag <;> simp
  · by_cases hfalse : text = "false"
    · subst hfalse
      cases flag <;> simp
    · cases flag <;> simp [htrue, hfalse]

theorem readFlag_eq_error_iff {text : String} {f : SettingFault} :
    readFlag text = .error f ↔ f = .notBoolean ∧ text ≠ "true" ∧ text ≠ "false" := by
  rw [readFlag]
  by_cases htrue : text = "true"
  · simp [htrue]
  · by_cases hfalse : text = "false"
    · simp [hfalse]
    · simp [htrue, hfalse, eq_comm]

/-- **Only one leading `tcp://` is replaced.** -/
theorem isAddress_iff {text url : String} : IsAddress text url ↔ url = normalizeDockerUrl text := by
  rw [IsAddress, normalizeDockerUrl]
  split
  case h_1 rest htext =>
    obtain rfl : text = "tcp://" ++ String.ofList rest := String.toList_inj.1 (by simp [htext])
    constructor
    · rintro (⟨rest', hrest, rfl⟩ | ⟨hnone, -⟩)
      · rw [String.append_right_inj] at hrest
        rw [hrest]
      · exact absurd rfl (hnone _)
    · exact fun h => .inl ⟨_, rfl, h⟩
  case h_2 hother =>
    have hnone : ∀ rest, text ≠ "tcp://" ++ rest := by
      rintro rest rfl
      exact hother rest.toList (by simp)
    constructor
    · rintro (⟨rest, htext, -⟩ | ⟨-, h⟩)
      · exact absurd htext (hnone rest)
      · exact h
    · exact fun h => .inr ⟨hnone, h⟩

/-! ### One variable -/

namespace Variable

/-- A text is one that a variable takes. -/
def Accepts (text : String) : Variable → Prop
  | .defaultMaxWait | .retryInterval => ∃ n, IsPositiveCount text n
  | .dockerUrl | .dockerHost => True
  | .skip | .keepOnFailure => ∃ flag, IsFlag text flag
  | .stopGrace | .dockerTimeout => ∃ n, IsCount text n

/-- What a variable finds wrong with a text. -/
def Rejects (text : String) (f : SettingFault) : Variable → Prop
  | .defaultMaxWait | .retryInterval => NotCount text f ∨ f = .zero ∧ IsCount text 0
  | .dockerUrl | .dockerHost => False
  | .skip | .keepOnFailure => f = .notBoolean ∧ text ≠ "true" ∧ text ≠ "false"
  | .stopGrace | .dockerTimeout => NotCount text f

/-- A reader is that of a variable: it takes the texts that the variable takes, for what they
are, and finds wrong with the others what the variable does. -/
structure ReadBy {α : Type} (v : Variable) (read : String → Except SettingFault α)
    (Is : String → α → Prop) : Prop where
  ok : ∀ text value, read text = .ok value ↔ Is text value
  error : ∀ text f, read text = .error f ↔ v.Rejects text f
  accepts : ∀ text, v.Accepts text ↔ ∃ value, Is text value

theorem readBy_positive {v : Variable} (hv : v = .defaultMaxWait ∨ v = .retryInterval) :
    v.ReadBy readPositive IsPositiveCount := by
  rcases hv with rfl | rfl <;>
    exact ⟨fun _ _ => readPositive_eq_ok_iff, fun _ _ => readPositive_eq_error_iff,
      fun _ => Iff.rfl⟩

theorem readBy_count {v : Variable} (hv : v = .stopGrace ∨ v = .dockerTimeout) :
    v.ReadBy readCount IsCount := by
  rcases hv with rfl | rfl <;>
    exact ⟨fun _ _ => readCount_eq_ok_iff, fun _ _ => readCount_eq_error_iff, fun _ => Iff.rfl⟩

theorem readBy_flag {v : Variable} (hv : v = .skip ∨ v = .keepOnFailure) :
    v.ReadBy readFlag IsFlag := by
  rcases hv with rfl | rfl <;>
    exact ⟨fun _ _ => readFlag_eq_ok_iff, fun _ _ => readFlag_eq_error_iff, fun _ => Iff.rfl⟩

theorem readBy_address {v : Variable} (hv : v = .dockerUrl ∨ v = .dockerHost) :
    v.ReadBy (.ok ∘ some) fun text value => value = some text := by
  rcases hv with rfl | rfl <;>
    exact ⟨fun _ _ => ⟨fun h => (Except.ok.inj h).symm, fun h => congrArg _ h.symm⟩,
      fun _ _ => ⟨nofun, False.elim⟩, fun text => ⟨fun _ => ⟨some text, rfl⟩, fun _ => trivial⟩⟩

end Variable

namespace Environment

variable {α : Type} {env : Environment} {v : Variable} {default value : α}
  {read : String → Except SettingFault α} {Is : String → α → Prop}

/-- A variable can be used: it is absent, or holds a text that it takes. -/
def Usable (env : Environment) (v : Variable) : Prop :=
  env.Absent v ∨ ∃ text, env.Holds v text ∧ v.Accepts text

/-- A variable gives a value: what its text is, or the default if it is absent. -/
def Gives (env : Environment) (v : Variable) (default : α) (Is : String → α → Prop)
    (value : α) : Prop :=
  (env.Absent v ∧ value = default) ∨ ∃ text, env.Holds v text ∧ Is text value

/-- **What is taken of a variable is what it gives.** -/
theorem get_eq_ok_iff (h : v.ReadBy read Is) :
    env.get v default read = .ok value ↔ env.Gives v default Is value := by
  simp only [Gives, ← text?_eq_ok_none_iff, ← text?_eq_ok_some_iff, ← h.ok]
  rcases htext : env.text? v with f | _ | text
  · simp [Environment.get, htext]
  · simp [Environment.get, htext, eq_comm]
  · simp [Environment.get, htext, mapError_eq_ok]

/-- A variable can be used exactly when a value can be taken of it. -/
theorem usable_iff (h : v.ReadBy read Is) (default : α) :
    env.Usable v ↔ ∃ value, env.get v default read = .ok value := by
  simp only [get_eq_ok_iff h]
  constructor
  · rintro (habsent | ⟨text, hholds, haccepts⟩)
    · exact ⟨default, .inl ⟨habsent, rfl⟩⟩
    · obtain ⟨value, hvalue⟩ := (h.accepts text).1 haccepts
      exact ⟨value, .inr ⟨text, hholds, hvalue⟩⟩
  · rintro ⟨value, ⟨habsent, -⟩ | ⟨text, hholds, hvalue⟩⟩
    · exact .inl habsent
    · exact .inr ⟨text, hholds, (h.accepts text).2 ⟨value, hvalue⟩⟩

/-- The address that the environment gives: the first variable's if it holds one, else the
second's, else the default. -/
def GivesAddress (env : Environment) (url : String) : Prop :=
  (∃ text, (env.Holds .dockerUrl text ∨ env.Absent .dockerUrl ∧ env.Holds .dockerHost text) ∧
      IsAddress text url) ∨
    env.Absent .dockerUrl ∧ env.Absent .dockerHost ∧ url = "http://localhost:2375"

/-- An address is given by what the two variables give. -/
theorem givesAddress_iff {first second : Option String} {url : String}
    (hfirst : env.Gives .dockerUrl none (fun text value => value = some text) first)
    (hsecond : env.Gives .dockerHost none (fun text value => value = some text) second) :
    env.GivesAddress url ↔
      url = ((first.or second).map normalizeDockerUrl).getD ({} : DockerSettings).url := by
  simp only [Gives, GivesAddress, ← text?_eq_ok_none_iff, ← text?_eq_ok_some_iff,
    isAddress_iff] at *
  rcases hfirst with ⟨hfirst, rfl⟩ | ⟨text, hfirst, rfl⟩
  · rcases hsecond with ⟨hsecond, rfl⟩ | ⟨text, hsecond, rfl⟩
    · simp [hfirst, hsecond]
    · simp [hfirst, hsecond]
  · simp [hfirst]

end Environment

/-! ### All variables -/

namespace Settings

open Environment Variable

/-- Settings are those of the table: each is given by its own variable, or by its default. -/
structure Tabulated (env : Environment) (s : Settings) : Prop where
  defaultMaxWait : env.Gives .defaultMaxWait 10000 IsPositiveCount s.timing.defaultMaxWait
  retryInterval : env.Gives .retryInterval 500 IsPositiveCount s.timing.retryInterval
  url : env.GivesAddress s.docker.url
  skip : env.Gives .skip false IsFlag s.docker.skip
  keepOnFailure : env.Gives .keepOnFailure false IsFlag s.docker.keepOnFailure
  stopGrace : ∃ secs, env.Gives .stopGrace 10 IsCount secs ∧
    s.docker.stopGrace = Duration.ofSecs secs
  requestTimeout : env.Gives .dockerTimeout 120 IsCount s.docker.requestTimeout

/-- The settings are resolved by taking one variable after the other. -/
theorem resolve_eq (env : Environment) :
    resolve env = do
      let defaultMaxWait ← env.get .defaultMaxWait 10000 readPositive
      let retryInterval ← env.get .retryInterval 500 readPositive
      let first ← env.get .dockerUrl none (.ok ∘ some)
      let second ← env.get .dockerHost none (.ok ∘ some)
      let skip ← env.get .skip false readFlag
      let keepOnFailure ← env.get .keepOnFailure false readFlag
      let secs ← env.get .stopGrace 10 readCount
      let requestTimeout ← env.get .dockerTimeout 120 readCount
      return {
        timing := { defaultMaxWait, retryInterval }
        docker := {
          url := ((first.or second).map normalizeDockerUrl).getD ({} : DockerSettings).url
          skip, keepOnFailure, stopGrace := Duration.ofSecs secs, requestTimeout } } := by
  have hgrace : ({} : DockerSettings).stopGrace.secs = 10 := rfl
  simp only [resolve, resolveTiming, resolveDocker, resolveUrl, bind_assoc, pure_bind, hgrace]

/-- Settings are made of the values that are taken of the eight variables. -/
structure Taken (env : Environment) (s : Settings) (first second : Option String)
    (secs : Nat) : Prop where
  defaultMaxWait : env.get .defaultMaxWait 10000 readPositive = .ok s.timing.defaultMaxWait
  retryInterval : env.get .retryInterval 500 readPositive = .ok s.timing.retryInterval
  dockerUrl : env.get .dockerUrl none (.ok ∘ some) = .ok first
  dockerHost : env.get .dockerHost none (.ok ∘ some) = .ok second
  skip : env.get .skip false readFlag = .ok s.docker.skip
  keepOnFailure : env.get .keepOnFailure false readFlag = .ok s.docker.keepOnFailure
  grace : env.get .stopGrace 10 readCount = .ok secs
  requestTimeout : env.get .dockerTimeout 120 readCount = .ok s.docker.requestTimeout
  url : s.docker.url = ((first.or second).map normalizeDockerUrl).getD ({} : DockerSettings).url
  stopGrace : s.docker.stopGrace = Duration.ofSecs secs

theorem resolve_eq_ok_iff_taken {env : Environment} {s : Settings} :
    resolve env = .ok s ↔ ∃ first second secs, Taken env s first second secs := by
  rw [resolve_eq]
  constructor
  · intro h
    obtain ⟨defaultMaxWait, hmaxWait, h⟩ := exists_of_bind_eq_ok h
    obtain ⟨retryInterval, hinterval, h⟩ := exists_of_bind_eq_ok h
    obtain ⟨first, hfirst, h⟩ := exists_of_bind_eq_ok h
    obtain ⟨second, hsecond, h⟩ := exists_of_bind_eq_ok h
    obtain ⟨skip, hskip, h⟩ := exists_of_bind_eq_ok h
    obtain ⟨keepOnFailure, hkeep, h⟩ := exists_of_bind_eq_ok h
    obtain ⟨secs, hsecs, h⟩ := exists_of_bind_eq_ok h
    obtain ⟨requestTimeout, htimeout, h⟩ := exists_of_bind_eq_ok h
    obtain rfl := Except.ok.inj h
    exact ⟨first, second, secs,
      ⟨hmaxWait, hinterval, hfirst, hsecond, hskip, hkeep, hsecs, htimeout, rfl, rfl⟩⟩
  · rintro ⟨first, second, secs, h⟩
    obtain ⟨⟨defaultMaxWait, retryInterval⟩, ⟨url, skip, keepOnFailure, stopGrace, timeout⟩⟩ := s
    obtain ⟨hmaxWait, hinterval, hfirst, hsecond, hskip, hkeep, hsecs, htimeout, rfl, rfl⟩ := h
    simp only [hmaxWait, hinterval, hfirst, hsecond, hskip, hkeep, hsecs, htimeout]
    rfl

/-- Settings made of what is taken are those of the table. -/
theorem Taken.tabulated {env : Environment} {s : Settings} {first second : Option String}
    {secs : Nat} (h : Taken env s first second secs) : Tabulated env s where
  defaultMaxWait := (get_eq_ok_iff (readBy_positive (.inl rfl))).1 h.defaultMaxWait
  retryInterval := (get_eq_ok_iff (readBy_positive (.inr rfl))).1 h.retryInterval
  url := (givesAddress_iff ((get_eq_ok_iff (readBy_address (.inl rfl))).1 h.dockerUrl)
    ((get_eq_ok_iff (readBy_address (.inr rfl))).1 h.dockerHost)).2 h.url
  skip := (get_eq_ok_iff (readBy_flag (.inl rfl))).1 h.skip
  keepOnFailure := (get_eq_ok_iff (readBy_flag (.inr rfl))).1 h.keepOnFailure
  stopGrace := ⟨secs, (get_eq_ok_iff (readBy_count (.inl rfl))).1 h.grace, h.stopGrace⟩
  requestTimeout := (get_eq_ok_iff (readBy_count (.inr rfl))).1 h.requestTimeout

end Settings

end ServiceReadiness
