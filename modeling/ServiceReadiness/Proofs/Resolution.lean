/-
# What resolved settings promise

Settings are resolved one variable after the other, and the first value that cannot be
used ends it.  So settings that are resolved hold, for every variable, its default or a
value that was read (`Environment.get_eq_ok`), and a value read as positive is so.  The
timing of every wait under resolved settings is therefore positive (`resolve_pos`).
-/

import ServiceReadiness.Settings

namespace ServiceReadiness

/-- A pipeline that gives a value has given one at its first step. -/
theorem exists_of_bind_eq_ok {ε α β : Type} {x : Except ε α} {f : α → Except ε β} {b : β}
    (h : (x >>= f) = .ok b) : ∃ a, x = .ok a ∧ f a = .ok b := by
  cases x with
  | error e => cases h
  | ok a => exact ⟨a, rfl, h⟩

/-- A value that is made of another has one to be made of. -/
theorem exists_of_map_eq_ok {ε α β : Type} {x : Except ε α} {f : α → β} {b : β}
    (h : x.map f = .ok b) : ∃ a, x = .ok a ∧ f a = b := by
  cases x with
  | error e => cases h
  | ok a => exact ⟨a, rfl, Except.ok.inj h⟩

/-- **What a result is for, and what it fails for,** if there is always one of the two. -/
theorem ok_iff_and_error_iff {ε α : Type} {x : Except ε α} {p : α → Prop} {q : ε → Prop}
    (hok : ∀ a, p a → x = .ok a) (herror : ∀ e, q e → x = .error e)
    (h : (∃ a, p a) ∨ ∃ e, q e) : (∀ a, x = .ok a ↔ p a) ∧ ∀ e, x = .error e ↔ q e := by
  rcases h with ⟨a, ha⟩ | ⟨e, he⟩
  · obtain rfl := hok a ha
    refine ⟨fun b => ⟨fun hb => Except.ok.inj hb ▸ ha, hok b⟩, fun e => ⟨fun he => ?_, herror e⟩⟩
    cases he
  · obtain rfl := herror e he
    refine ⟨fun a => ⟨fun ha => ?_, hok a⟩, fun f => ⟨fun hf => Except.error.inj hf ▸ he, herror f⟩⟩
    cases ha

/-- A value stands apart from the wording of errors. -/
theorem mapError_eq_ok {ε ε' α : Type} {x : Except ε α} {f : ε → ε'} {a : α} :
    x.mapError f = .ok a ↔ x = .ok a := by
  cases x with
  | error e => exact ⟨nofun, nofun⟩
  | ok b => exact ⟨fun h => congrArg _ (Except.ok.inj h), fun h => congrArg _ (Except.ok.inj h)⟩

/-- A value that is taken from a variable is its default or was read from a text. -/
theorem Environment.get_eq_ok {α : Type} {env : Environment} {v : Variable} {default value : α}
    {read : String → Except SettingFault α} (h : env.get v default read = .ok value) :
    value = default ∨ ∃ text, read text = .ok value := by
  rw [Environment.get] at h
  rcases htext : env.text? v with fault | _ | text
  · rw [htext] at h
    cases h
  · rw [htext] at h
    exact .inl (Except.ok.inj h).symm
  · rw [htext] at h
    exact .inr ⟨text, mapError_eq_ok.1 h⟩

/-- A count of zero is turned down. -/
theorem readPositive_pos {text : String} {n : Nat} (h : readPositive text = .ok n) : 0 < n := by
  obtain ⟨count, -, hcount⟩ := exists_of_bind_eq_ok h
  cases count with
  | zero => cases hcount
  | succ count =>
    obtain rfl := Except.ok.inj hcount
    exact Nat.succ_pos count

/-- What is taken from a variable that must be positive is positive if its default is. -/
theorem Environment.get_pos {env : Environment} {v : Variable} {default value : Nat}
    (hdefault : 0 < default) (h : env.get v default readPositive = .ok value) : 0 < value := by
  rcases get_eq_ok h with rfl | ⟨text, htext⟩
  · exact hdefault
  · exact readPositive_pos htext

/-- **Resolved settings leave time:** neither the default deadline nor the pause between two
rounds is zero. -/
theorem Settings.resolve_pos {env : Environment} {settings : Settings}
    (h : Settings.resolve env = .ok settings) :
    0 < settings.timing.defaultMaxWait ∧ 0 < settings.timing.retryInterval := by
  obtain ⟨timing, htiming, hrest⟩ := exists_of_bind_eq_ok h
  obtain ⟨docker, -, hsettings⟩ := exists_of_bind_eq_ok hrest
  obtain ⟨maxWait, hmaxWait, hrest⟩ := exists_of_bind_eq_ok htiming
  obtain ⟨interval, hinterval, hvalues⟩ := exists_of_bind_eq_ok hrest
  obtain rfl := Except.ok.inj hvalues
  obtain rfl := Except.ok.inj hsettings
  exact ⟨Environment.get_pos (by decide) hmaxWait, Environment.get_pos (by decide) hinterval⟩

end ServiceReadiness
