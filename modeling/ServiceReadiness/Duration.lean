/-
# Durations

A length of time in whole nanoseconds, and its short text: the largest of the
units `s`, `ms`, `µs`, `ns` in which the whole part is not zero, with the rest
as a decimal fraction without trailing zeros (`1.007s`, `1.5ms`, `10µs`, `0ns`).
-/

import ServiceReadiness.Text.Numeral

namespace ServiceReadiness

/-- A length of time in nanoseconds. -/
structure Duration where
  nanos : Nat
  deriving DecidableEq, Repr

namespace Duration

/-- So many seconds and nanoseconds. -/
def ofParts (secs nanos : Nat) : Duration := ⟨secs * 1000000000 + nanos⟩

/-- So many whole seconds. -/
def ofSecs (secs : Nat) : Duration := ofParts secs 0

/-- So many whole milliseconds. -/
def ofMillis (millis : Nat) : Duration := ⟨millis * 1000000⟩

/-- The whole seconds of a duration. -/
def secs (d : Duration) : Nat := d.nanos / 1000000000

/-- What is left of a duration after its whole seconds, in nanoseconds. -/
def subsecNanos (d : Duration) : Nat := d.nanos % 1000000000

/-- The whole milliseconds of a duration. -/
def toMillis (d : Duration) : Nat := d.nanos / 1000000

@[simp]
theorem toMillis_ofMillis (millis : Nat) : (ofMillis millis).toMillis = millis := by
  simp [ofMillis, toMillis]

@[simp]
theorem secs_ofParts {s n : Nat} (h : n < 1000000000) : (ofParts s n).secs = s := by
  simp only [ofParts, secs]; omega

/-- The digits of `part / 10 ^ width` after the point, without trailing zeros. -/
def fraction (width part : Nat) : List Char :=
  let padded := List.replicate (width - (Numeral.digits part).length) '0' ++ Numeral.digits part
  (padded.reverse.dropWhile (· == '0')).reverse

/-- A whole part, a fraction of `width` places and a unit. -/
def renderIn (whole width part : Nat) (unit : String) : String :=
  match fraction width part with
  | [] => Numeral.render whole ++ unit
  | places => Numeral.render whole ++ "." ++ String.ofList places ++ unit

/-- The short text of a duration. -/
def render (d : Duration) : String :=
  if d.nanos ≥ 1000000000 then renderIn (d.nanos / 1000000000) 9 (d.nanos % 1000000000) "s"
  else if d.nanos ≥ 1000000 then renderIn (d.nanos / 1000000) 6 (d.nanos % 1000000) "ms"
  else if d.nanos ≥ 1000 then renderIn (d.nanos / 1000) 3 (d.nanos % 1000) "µs"
  else renderIn d.nanos 0 0 "ns"

end Duration
end ServiceReadiness
