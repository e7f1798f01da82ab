/-
# Arguments that stand for themselves

A setting with its value attached to it, and a switch, are arguments that need nothing after
them.  Each has one written form (`Argument.text`), and a scan finds the argument again,
whatever follows (`scan_text_cons`): a name has no `=`, so the first one ends it, and the
value may be any text.

The arguments are then entered one by one.  What has been entered so far is a function of the
arguments so far (`draftOf`) in which each setting is looked up on its own (`values`), so the
order of different settings makes no difference.  Arguments that give nothing twice, and whose
values can be read (`Consistent`), are entered one after the other (`enter_draftOf`), and
hence all of them (`enterAll_draftOf`); a subcommand of such arguments is what they give
(`parse_text_append`).
-/

import Mathlib.Data.List.TakeDrop
import Mathlib.Data.List.TakeWhile
import ServiceReadiness.CommandLine.Draft

namespace ServiceReadiness
namespace CommandLine

/-! ### Written arguments -/

/-- An argument that stands for itself. -/
inductive Argument where
  | valued (s : Setting) (value : String)
  | bare (w : Switch)
  deriving DecidableEq, Repr

namespace Argument

/-- The written form of an argument. -/
def text : Argument → String
  | valued s value => "--" ++ s.name ++ "=" ++ value
  | bare w => "--" ++ w.name

/-- The piece of a subcommand that an argument is. -/
def item : Argument → Item
  | valued s value => .setting s value
  | bare w => .switch w

/-- A subcommand knows the name of an argument. -/
def KnownTo (c : Subcommand) : Argument → Prop
  | valued s _ => s ∈ c.settings
  | bare w => w ∈ c.switches

/-- The value that an argument gives a setting. -/
def value? (s : Setting) : Argument → Option String
  | valued s' value => if s' = s then some value else none
  | bare _ => none

end Argument

/-! ### Scanning written arguments -/

theorem Setting.eq_notMem_name (s : Setting) : '=' ∉ s.name.toList := by cases s <;> decide

theorem Switch.eq_notMem_name (w : Switch) : '=' ∉ w.name.toList := by cases w <;> decide

section

variable {name : List Char} (h : '=' ∉ name)
include h

theorem bne_eq_of_notMem : ∀ c ∈ name, (c != '=') = true := fun _ hc =>
  bne_iff_ne.2 fun heq => h (heq ▸ hc)

/-- The first `=` ends a name, whatever the value is. -/
theorem splitValue_append (value : List Char) :
    splitValue (name ++ '=' :: value) = (name, some value) := by
  rw [splitValue, List.span_eq_takeWhile_dropWhile,
    List.takeWhile_append_of_pos (bne_eq_of_notMem h),
    List.dropWhile_append_of_pos (bne_eq_of_notMem h)]
  simp

theorem splitValue_eq_self : splitValue name = (name, none) := by
  rw [splitValue, List.span_eq_takeWhile_dropWhile,
    List.takeWhile_eq_self_iff.2 (bne_eq_of_notMem h),
    List.dropWhile_eq_nil_iff.2 (bne_eq_of_notMem h)]

end

theorem ofChars_long {rest : List Char} (h : rest ≠ []) :
    Token.ofChars ('-' :: '-' :: rest) = .long (splitValue rest).1 (splitValue rest).2 := by
  cases rest with
  | nil => exact absurd rfl h
  | cons c rest => rfl

/-- The token of a setting with its value. -/
theorem ofChars_valued (s : Setting) (value : String) :
    Token.ofChars (Argument.valued s value).text.toList =
      .long s.name.toList (some value.toList) := by
  have htext : (Argument.valued s value).text.toList =
      '-' :: '-' :: (s.name.toList ++ '=' :: value.toList) := by
    simp [Argument.text]
  rw [htext, ofChars_long (by simp), splitValue_append s.eq_notMem_name]

/-- The token of a switch. -/
theorem ofChars_bare (w : Switch) :
    Token.ofChars (Argument.bare w).text.toList = .long w.name.toList none := by
  have htext : (Argument.bare w).text.toList = '-' :: '-' :: w.name.toList := by
    simp [Argument.text]
  have hne : w.name.toList ≠ [] := by cases w <;> decide
  rw [htext, ofChars_long hne, splitValue_eq_self w.eq_notMem_name]

theorem known?_setting {c : Subcommand} {s : Setting} (h : s ∈ c.settings) :
    c.known? s.name.toList = some (.setting s) := by
  revert h
  cases c <;> cases s <;> decide

theorem known?_switch {c : Subcommand} {w : Switch} (h : w ∈ c.switches) :
    c.known? w.name.toList = some (.switch w) := by
  revert h
  cases c <;> cases w <;> decide

/-- **A written argument is found again,** whatever follows it. -/
theorem scan_text_cons {c : Subcommand} {a : Argument} (h : a.KnownTo c) (rest : List String) :
    c.scan (a.text :: rest) = ⟨a.item :: (c.scan rest).items, (c.scan rest).finish⟩ := by
  cases a with
  | valued s value =>
    simp only [Subcommand.scan, ofChars_valued, known?_setting h, String.ofList_toList]
    rfl
  | bare w =>
    simp only [Subcommand.scan, ofChars_bare, known?_switch h]
    rfl

/-- Written arguments are found again, and then what follows them. -/
theorem scan_text_append {c : Subcommand} {args : List Argument} (h : ∀ a ∈ args, a.KnownTo c)
    (rest : List String) :
    c.scan (args.map Argument.text ++ rest) =
      ⟨args.map Argument.item ++ (c.scan rest).items, (c.scan rest).finish⟩ := by
  induction args with
  | nil => rfl
  | cons a args ih =>
    obtain ⟨ha, hargs⟩ := List.forall_mem_cons.1 h
    rw [List.map_cons, List.cons_append, scan_text_cons ha, ih hargs]
    rfl

/-! ### Entering arguments -/

/-- The values that arguments give a setting, in order. -/
def values (s : Setting) (args : List Argument) : List String := args.filterMap (Argument.value? s)

@[simp]
theorem values_append (s : Setting) (xs ys : List Argument) :
    values s (xs ++ ys) = values s xs ++ values s ys := List.filterMap_append

theorem values_singleton (s : Setting) (a : Argument) :
    values s [a] = (a.value? s).toList := by
  rw [values, List.filterMap_cons, List.filterMap_nil]
  cases a.value? s <;> rfl

/-- The ports that a text spells, if it spells any. -/
def portsIn (text : String) : List UInt16 := (Draft.readPorts text).toOption.getD []

/-- The seconds that a text spells, if it spells any. -/
def secondsIn (text : String) : Int64 := (Draft.readTime text).toOption.getD 0

/-- What arguments give: the first value of every setting, and all ports. -/
def draftOf (args : List Argument) : Draft where
  url := (values .url args).head?
  method := (values .method args).head?
  status := (values .status args).head?
  tcpHost := (values .tcpHost args).head?
  tcpPorts := (values .tcpPort args).flatMap portsIn
  time := (values .time args).head?.map secondsIn
  container := (values .container args).head?
  keep := decide (.bare .keep ∈ args)
  json := decide (.bare .json ∈ args)
  logJson := decide (.bare .logJson ∈ args)

/-- Arguments that can be entered together: nothing but ports is given twice, ports and
seconds can be read, and there is no shell. -/
structure Consistent (args : List Argument) : Prop where
  once : ∀ s, s ≠ .tcpPort → (values s args).length ≤ 1
  switchedOnce : ∀ w, args.count (.bare w) ≤ 1
  readable_ports : ∀ text ∈ values .tcpPort args, ∃ ports, Draft.readPorts text = .ok ports
  readable_time : ∀ text ∈ values .time args, ∃ time, Draft.readTime text = .ok time
  no_shell : values .shell args = []

namespace Consistent

variable {done rest : List Argument} {s : Setting} {value : String} {w : Switch}

theorem values_eq_nil (h : Consistent (done ++ .valued s value :: rest)) (hs : s ≠ .tcpPort) :
    values s done = [] := by
  have hlen := h.once s hs
  rw [List.append_cons, values_append, values_append, values_singleton, Argument.value?,
    if_pos rfl] at hlen
  simp only [List.length_append, Option.toList_some, List.length_singleton] at hlen
  exact List.eq_nil_of_length_eq_zero (by omega)

theorem mem_values (done : List Argument) (s : Setting) (value : String) (rest : List Argument) :
    value ∈ values s (done ++ .valued s value :: rest) := by
  refine List.mem_filterMap.2 ⟨.valued s value, by simp, ?_⟩
  rw [Argument.value?, if_pos rfl]

theorem bare_notMem (h : Consistent (done ++ .bare w :: rest)) : .bare w ∉ done := by
  intro hmem
  have hcount := h.switchedOnce w
  have hpos := List.count_pos_iff.2 hmem
  rw [List.count_append, List.count_cons_self] at hcount
  omega

end Consistent

/-- **An argument goes where it belongs.** -/
theorem enter_draftOf {done rest : List Argument} {a : Argument}
    (h : Consistent (done ++ a :: rest)) :
    (draftOf done).enter a.item = .ok (draftOf (done ++ [a])) := by
  cases a with
  | bare w =>
    have hw := h.bare_notMem
    cases w <;>
      simp [Argument.item, Draft.enter, Draft.switch, Draft.turnOn, draftOf, hw, values_singleton,
        Argument.value?]
  | valued s value =>
    have hmem := Consistent.mem_values done s value rest
    by_cases hs : s = .tcpPort
    · subst hs
      obtain ⟨ports, hports⟩ := h.readable_ports value hmem
      simp [Argument.item, Draft.enter, Draft.set, draftOf, hports, values_singleton,
        Argument.value?, portsIn, Except.toOption]
    · have hnil := h.values_eq_nil hs
      cases s with
      | tcpPort => exact absurd rfl hs
      | time =>
        obtain ⟨time, htime⟩ := h.readable_time value hmem
        simp [Argument.item, Draft.enter, Draft.set, draftOf, hnil, htime, values_singleton,
          Argument.value?, secondsIn, Except.toOption]
      | shell =>
        rw [h.no_shell] at hmem
        exact absurd hmem List.not_mem_nil
      | _ =>
        simp [Argument.item, Draft.enter, Draft.set, Draft.once, draftOf, hnil, values_singleton,
          Argument.value?]

/-- **Consistent arguments are entered one after the other.** -/
theorem enterAll_draftOf {done rest : List Argument} (h : Consistent (done ++ rest)) :
    (draftOf done).enterAll (rest.map Argument.item) = .ok (draftOf (done ++ rest)) := by
  -- What has been entered grows at its end while what is left becomes shorter.
  induction rest generalizing done with
  | nil => rw [List.append_nil]; rfl
  | cons a rest ih =>
    have hstep := enter_draftOf h
    rw [List.append_cons] at h ⊢
    rw [List.map_cons, Draft.enterAll, hstep]
    exact ih h

/-- **A subcommand of written arguments is what they give,** together with what follows the
terminator, if there is one. -/
theorem parse_text_append {c : Subcommand} {args : List Argument} {rest trailing : List String}
    (hknown : ∀ a ∈ args, a.KnownTo c) (hargs : Consistent args)
    (hrest : c.scan rest = ⟨[], .complete trailing⟩) :
    c.parse (args.map Argument.text ++ rest) =
      ((draftOf args).command trailing c).map (⟨·, (draftOf args).logJson⟩) := by
  have henter : Draft.enterAll {} (args.map Argument.item) = .ok (draftOf args) :=
    enterAll_draftOf (show Consistent ([] ++ args) from hargs)
  rw [Subcommand.parse, scan_text_append hknown, hrest, List.append_nil, Subcommand.conclude,
    henter]
  rfl

end CommandLine
end ServiceReadiness
