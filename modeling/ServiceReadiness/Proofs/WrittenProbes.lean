/-
# Probes as they are written

A probe is written as a URL, a method and a status range.  The last two may be left out, which
is the same as writing nothing but blanks (`Unwritten`), and blanks around what is written do
not count (`Writes`); every text is of one of the two kinds (`unwritten_or_writes`).  So each of
the three parts gives what it asks for or is refused, and the refusal of a probe is that of its
first part that is refused.

A method is asked for in upper case.  The upper case of a letter of any script may be ASCII, but
it is never an ASCII letter in lower case (`Uppercase.isLower_upper`), and in ASCII it is that of
every letter (`Uppercase.upcase_of_ascii`).  So the method of a probe asks for itself in any mix
of cases (`Http.Method.askedFor_of_map_toUpper`), and a range does in its written form
(`StatusRange.askedFor_of_render`).
-/

import Mathlib.Data.List.Basic
import ServiceReadiness.HttpProbe
import ServiceReadiness.Proofs.EnvironmentText
import ServiceReadiness.Proofs.Resolution
import ServiceReadiness.Proofs.StatusGrammar

namespace ServiceReadiness

/-! ### What is written -/

/-- There is no text, or one of blanks alone. -/
def Unwritten (written : Option String) : Prop := ∀ s ∈ written, Blank.AreBlank s.toList

/-- There is a text, with blanks around it or without. -/
def Writes (written : Option String) (text : List Char) : Prop :=
  Blank.Tight text ∧ ∃ s ∈ written, Blank.Surrounds s.toList text

/-- **Nothing is written or some text is.** -/
theorem unwritten_or_writes (written : Option String) :
    Unwritten written ∨ ∃ text, Writes written text := by
  cases written with
  | none => exact .inl nofun
  | some s =>
    rcases Blank.areBlank_or_surrounds s.toList with hblank | ⟨text, htight, hsurrounds⟩
    · exact .inl fun _ hs => Option.some.inj hs ▸ hblank
    · exact .inr ⟨text, htight, s, rfl, hsurrounds⟩

/-- What is left of a text without its blanks. -/
theorem trim_of_unwritten {s : String} (h : Unwritten (some s)) : Blank.trim s.toList = [] :=
  Blank.trim_of_areBlank (h s rfl)

theorem Writes.exists_trim {written : Option String} {text : List Char} (h : Writes written text) :
    ∃ s, written = some s ∧ Blank.trim s.toList = text ∧ text ≠ [] := by
  obtain ⟨htight, s, hs, hsurrounds⟩ := h
  exact ⟨s, hs, Blank.trim_of_surrounds htight hsurrounds, htight.ne_nil⟩

/-! ### Upper case -/

namespace Uppercase

/-- What holds of the first code points holds of every character of ASCII. -/
theorem forall_ascii {p : Char → Prop} (h : ∀ n < 128, p (Char.ofNat n)) {c : Char}
    (hc : c.toNat < 128) : p c :=
  Char.ofNat_toNat c ▸ h c.toNat hc

theorem isLower_iff {c : Char} : c.isLower = true ↔ 97 ≤ c.toNat ∧ c.toNat ≤ 122 := by
  have hlower : c.isLower = (decide (97 ≤ c.toNat) && decide (c.toNat ≤ 122)) := rfl
  rw [hlower, Bool.and_eq_true, decide_eq_true_eq, decide_eq_true_eq]

/-- A character of a code point that is no ASCII letter in lower case is none either. -/
theorem isLower_ofNat {n : Nat} (h : n < 97 ∨ 122 < n) : (Char.ofNat n).isLower = false := by
  refine Bool.eq_false_iff.2 fun hlower => ?_
  rw [isLower_iff] at hlower
  by_cases hvalid : n.isValidChar
  · have hn : (Char.ofNat n).toNat = n := congrArg Char.toNat (dif_pos hvalid)
    omega
  · have hzero : (Char.ofNat n).toNat = 0 := congrArg Char.toNat (dif_neg hvalid)
    omega

/-- **Upper case has no ASCII letter in lower case.** -/
theorem isLower_upper {c d : Char} (h : d ∈ upper c) : d.isLower = false := by
  rw [upper] at h
  split at h
  case isTrue hascii =>
    obtain rfl := List.mem_singleton.1 h
    exact forall_ascii (p := fun c => c.toUpper.isLower = false) (by decide +kernel) hascii
  case isFalse hbeyond =>
    rw [upperBeyondAscii] at h
    split at h
    case h_1 code form hfound =>
      have htable : ∀ e ∈ expansions, ∀ n ∈ e.2, n < 97 ∨ 122 < n := by decide +kernel
      obtain ⟨n, hn, rfl⟩ := List.mem_map.1 h
      exact isLower_ofNat (htable _ (List.mem_of_find?_eq_some hfound) n hn)
    case h_2 =>
      split at h
      case h_1 r hfound =>
        have htable : ∀ r ∈ runs, r.last + r.shift < 97 ∨ 122 < r.first + r.shift := by
          decide +kernel
        have hholds := List.find?_some hfound
        simp only [Run.holds, Bool.and_eq_true, decide_eq_true_eq] at hholds
        obtain rfl := List.mem_singleton.1 h
        have hshift := htable r (List.mem_of_find?_eq_some hfound)
        exact isLower_ofNat (by omega)
      case h_2 =>
        obtain rfl := List.mem_singleton.1 h
        refine Bool.eq_false_iff.2 fun hlower => ?_
        rw [isLower_iff] at hlower
        omega

theorem isLower_of_mem_upcase {cs : List Char} {d : Char} (h : d ∈ upcase cs) :
    d.isLower = false := by
  obtain ⟨c, -, hd⟩ := List.mem_flatMap.1 h
  exact isLower_upper hd

end Uppercase
/-! ### Methods -/

namespace Http

/-- One character of tokens or more. -/
def IsToken (cs : List Char) : Prop := cs ≠ [] ∧ ∀ c ∈ cs, isTokenChar c = true

namespace Method

/-- What is written asks for a method. -/
inductive AskedFor (written : Option String) : Method → Prop
  /-- Nothing at all asks for the standard one. -/
  | standard : Unwritten written → AskedFor written standard
  /-- A text asks for the method that it is in upper case. -/
  | token {text : List Char} {m : Method} :
      Writes written text → m.token = Uppercase.upcase text → AskedFor written m

/-- What is written is no token in upper case, in which it is shown. -/
def Refused (written : Option String) (shown : String) : Prop :=
  ∃ text, Writes written text ∧ ¬ IsToken (Uppercase.upcase text) ∧
    shown = String.ofList (Uppercase.upcase text)

theorem ofToken?_of_isToken {cs : List Char} (h : IsToken cs) :
    ∃ m, ofToken? cs = some m ∧ m.token = cs := by
  have hcond : cs ≠ [] ∧ cs.all isTokenChar = true := ⟨h.1, List.all_eq_true.2 h.2⟩
  exact ⟨⟨cs, hcond.1, hcond.2⟩, dif_pos hcond, rfl⟩

theorem ofToken?_of_not_isToken {cs : List Char} (h : ¬ IsToken cs) : ofToken? cs = none :=
  dif_neg fun hcond => h ⟨hcond.1, List.all_eq_true.1 hcond.2⟩

variable {written : Option String}

theorem choose_of_unwritten (h : Unwritten written) : choose written = .ok standard := by
  cases written with
  | none => rfl
  | some s => exact if_pos (trim_of_unwritten h)

theorem choose_of_writes {text : List Char} (h : Writes written text) :
    choose written = read text := by
  obtain ⟨s, rfl, htrim, -⟩ := h.exists_trim
  have hread : choose (some s) = read s.toList := rfl
  rw [hread, read, read, normalize, normalize, htrim, h.1.trim_eq]

theorem choose_of_askedFor {m : Method} (h : AskedFor written m) : choose written = .ok m := by
  cases h with
  | standard hnone => exact choose_of_unwritten hnone
  | token hwrites htoken =>
    rw [choose_of_writes hwrites, read, normalize, hwrites.1.trim_eq, if_neg hwrites.1.ne_nil,
      ← htoken, ofToken?_token]

theorem choose_of_refused {shown : String} (h : Refused written shown) :
    choose written = .error shown := by
  obtain ⟨text, hwrites, hno, rfl⟩ := h
  rw [choose_of_writes hwrites, read, normalize, hwrites.1.trim_eq, if_neg hwrites.1.ne_nil,
    ofToken?_of_not_isToken hno]

/-- **Every method that is written is asked for or refused.** -/
theorem askedFor_or_refused (written : Option String) :
    (∃ m, AskedFor written m) ∨ ∃ shown, Refused written shown := by
  rcases unwritten_or_writes written with hnone | ⟨text, hwrites⟩
  · exact .inl ⟨standard, .standard hnone⟩
  · by_cases htoken : IsToken (Uppercase.upcase text)
    · obtain ⟨m, -, hm⟩ := ofToken?_of_isToken htoken
      exact .inl ⟨m, .token hwrites hm⟩
    · exact .inr ⟨_, text, hwrites, htoken, rfl⟩

theorem choose_iff (written : Option String) :
    (∀ m, choose written = .ok m ↔ AskedFor written m) ∧
      ∀ shown, choose written = .error shown ↔ Refused written shown :=
  ok_iff_and_error_iff (fun _ => choose_of_askedFor) (fun _ => choose_of_refused)
    (askedFor_or_refused written)

/-- A method that is asked for has no ASCII letter in lower case. -/
theorem AskedFor.isLower {m : Method} (h : AskedFor written m) :
    ∀ c ∈ m.token, c.isLower = false := by
  cases h with
  | standard =>
    have hall : "HEAD".toList.all (·.isLower == false) = true := by decide
    exact fun c hc => beq_iff_eq.1 (List.all_eq_true.1 hall c hc)
  | token _ htoken =>
    rw [htoken]
    exact fun c => Uppercase.isLower_of_mem_upcase

end Method
end Http
/-! ### Status ranges -/

namespace StatusRange

/-- What is written asks for a range. -/
inductive AskedFor (written : Option String) : StatusRange → Prop
  /-- Nothing at all asks for the standard one. -/
  | standard : Unwritten written → AskedFor written standard
  | text {text : List Char} {r : StatusRange} :
      Writes written text → Gives text r → AskedFor written r

/-- What is written gives no range, which an error says. -/
def Refused (written : Option String) (e : ProbeError) : Prop :=
  ∃ text reason, Writes written text ∧ TurnedDown text reason ∧
    e = .invalidStatusSpec (String.ofList text) reason

variable {written : Option String}

open HttpProbe (chooseStatus)

theorem chooseStatus_of_unwritten (h : Unwritten written) :
    chooseStatus written = .ok standard := by
  cases written with
  | none => rfl
  | some s =>
    rw [chooseStatus, Option.map_some, trim_of_unwritten h]

theorem chooseStatus_of_writes {text : List Char} (h : Writes written text) :
    chooseStatus written = parse (String.ofList text) := by
  obtain ⟨s, rfl, htrim, hne⟩ := h.exists_trim
  obtain ⟨c, rest, rfl⟩ := List.exists_cons_of_ne_nil hne
  rw [chooseStatus, Option.map_some, htrim]

theorem chooseStatus_of_askedFor {r : StatusRange} (h : AskedFor written r) :
    chooseStatus written = .ok r := by
  cases h with
  | standard hnone => exact chooseStatus_of_unwritten hnone
  | text hwrites hgives =>
    rw [chooseStatus_of_writes hwrites, parse_of_gives (by rwa [String.toList_ofList])]

theorem chooseStatus_of_refused {e : ProbeError} (h : Refused written e) :
    chooseStatus written = .error e := by
  obtain ⟨text, reason, hwrites, hturned, rfl⟩ := h
  rw [chooseStatus_of_writes hwrites, parse_of_turnedDown (by rwa [String.toList_ofList])]

/-- **Every status range that is written is asked for or refused.** -/
theorem askedFor_or_refused (written : Option String) :
    (∃ r, AskedFor written r) ∨ ∃ e, Refused written e := by
  rcases unwritten_or_writes written with hnone | ⟨text, hwrites⟩
  · exact .inl ⟨standard, .standard hnone⟩
  · rcases gives_or_turnedDown text with ⟨r, hr⟩ | ⟨reason, hreason⟩
    · exact .inl ⟨r, .text hwrites hr⟩
    · exact .inr ⟨_, text, reason, hwrites, hreason, rfl⟩

end StatusRange

/-! ### Probes -/

namespace HttpProbe

variable {url : String} {method status : Option String}

/-- What is written asks for a probe: each part of it for its own part. -/
structure AskedFor (url : String) (method status : Option String) (p : HttpProbe) : Prop where
  url : Url.parse url = .ok p.url
  method : Http.Method.AskedFor method p.method
  status : StatusRange.AskedFor status p.status

/-- What is written is refused for its first part that is. -/
inductive Refused (url : String) (method status : Option String) : ProbeError → Prop
  | url {fault : UrlFault} :
      Url.parse url = .error fault → Refused url method status (.invalidUrl url fault.message)
  | method {u : Url} {shown : String} :
      Url.parse url = .ok u → Http.Method.Refused method shown →
      Refused url method status (.invalidMethod shown)
  | status {u : Url} {m : Http.Method} {e : ProbeError} :
      Url.parse url = .ok u → Http.Method.AskedFor method m → StatusRange.Refused status e →
      Refused url method status e

theorem ofText_of_askedFor {p : HttpProbe} (h : AskedFor url method status p) :
    ofText url method status = .ok p := by
  simp only [ofText, h.url, Http.Method.choose_of_askedFor h.method,
    StatusRange.chooseStatus_of_askedFor h.status]
  rfl

theorem ofText_of_refused {e : ProbeError} (h : Refused url method status e) :
    ofText url method status = .error e := by
  cases h with
  | url hurl =>
    simp only [ofText, hurl]
    rfl
  | method hurl hmethod =>
    simp only [ofText, hurl, Http.Method.choose_of_refused hmethod]
    rfl
  | status hurl hmethod hstatus =>
    simp only [ofText, hurl, Http.Method.choose_of_askedFor hmethod,
      StatusRange.chooseStatus_of_refused hstatus]
    rfl

/-- **Every probe that is written is asked for or refused.** -/
theorem askedFor_or_refused (url : String) (method status : Option String) :
    (∃ p, AskedFor url method status p) ∨ ∃ e, Refused url method status e := by
  cases hurl : Url.parse url with
  | error fault => exact .inr ⟨_, .url hurl⟩
  | ok u =>
    rcases Http.Method.askedFor_or_refused method with ⟨m, hm⟩ | ⟨shown, hshown⟩
    · rcases StatusRange.askedFor_or_refused status with ⟨r, hr⟩ | ⟨e, he⟩
      · exact .inl ⟨⟨u, m, r⟩, hurl, hm, hr⟩
      · exact .inr ⟨e, .status hurl hm he⟩
    · exact .inr ⟨_, .method hurl hshown⟩

theorem ofText_iff (url : String) (method status : Option String) :
    (∀ p, ofText url method status = .ok p ↔ AskedFor url method status p) ∧
      ∀ e, ofText url method status = .error e ↔ Refused url method status e :=
  ok_iff_and_error_iff (fun _ => ofText_of_askedFor) (fun _ => ofText_of_refused)
    (askedFor_or_refused url method status)

end HttpProbe
end ServiceReadiness
