/-
# Punycode

A label with other characters than ASCII is written in ASCII: first its ASCII
characters, then a hyphen if there were any, then the other characters in
ascending order as a run of numbers in base 36.  Each number counts the steps of
a machine that walks over all positions and all code points; its digits have
thresholds that adapt to the size of the numbers so far.
-/

namespace ServiceReadiness
namespace Punycode

/-- The base-36 digit of a value: letters, then digits. -/
def digit (value : Nat) : Char := Char.ofNat (if value < 26 then 97 + value else 22 + value)

/-- The value of a base-36 digit in lower case. -/
def digitValue? (c : Char) : Option Nat :=
  if 'a' ≤ c ∧ c ≤ 'z' then some (c.toNat - 97)
  else if '0' ≤ c ∧ c ≤ '9' then some (c.toNat - 22)
  else none

/-- Scales a distance down until it is at most 455, by steps of 36 in the bias. -/
def scale (distance bias : Nat) : Nat :=
  if 455 < distance then scale (distance / 35) (bias + 36)
  else bias + 36 * distance / (distance + 38)
termination_by distance

/-- The bias after a number of the given size, the `count`-th of its label. -/
def adapt (distance count : Nat) (first : Bool) : Nat :=
  let halved := if first then distance / 700 else distance / 2
  scale (halved + halved / count) 0

/-- The threshold of the digit at `place`, which grows by 36 from digit to digit. -/
def threshold (bias place : Nat) : Nat :=
  if place ≤ bias then 1 else if bias + 26 ≤ place then 26 else place - bias

theorem threshold_pos (bias place : Nat) : 1 ≤ threshold bias place := by
  unfold threshold; split
  · omega
  · split <;> omega

/-- The digits of a number from `place` on. -/
def encodeNumber (bias place number : Nat) : List Char :=
  let t := threshold bias place
  if number < t then [digit number]
  else
    digit (t + (number - t) % (36 - t)) ::
      encodeNumber bias (place + 36) ((number - t) / (36 - t))
termination_by number
decreasing_by
  have h1 := threshold_pos bias place
  have h2 : (number - threshold bias place) / (36 - threshold bias place) ≤
    number - threshold bias place := Nat.div_le_self _ _
  omega

/-- Where the machine stands while a label is written. -/
structure Writer where
  distance : Nat
  bias : Nat
  handled : Nat
  output : List Char

/-- Writes the occurrences of the code point `n` in a label. -/
def writeOccurrences (n basic : Nat) (w : Writer) (label : List Char) : Writer :=
  label.foldl (fun w c =>
    if c.toNat < n then { w with distance := w.distance + 1 }
    else if c.toNat = n then
      { distance := 0
        bias := adapt w.distance (w.handled + 1) (w.handled == basic)
        handled := w.handled + 1
        output := w.output ++ encodeNumber w.bias 36 w.distance }
    else w) w

/-- Writes the code points of an ascending list, from `n` on. -/
def writeAll (basic : Nat) (label : List Char) (n : Nat) (w : Writer) : List Nat → Writer
  | [] => w
  | m :: rest =>
    let reached := { w with distance := w.distance + (m - n) * (w.handled + 1) }
    let written := writeOccurrences m basic reached label
    writeAll basic label (m + 1) { written with distance := written.distance + 1 } rest

/-- The code points beyond ASCII of a label, each once and in ascending order. -/
def beyondAscii (label : List Char) : List Nat :=
  ((label.map Char.toNat).filter (128 ≤ ·)).eraseDups.mergeSort

/-- A label in ASCII. -/
def encode (label : List Char) : List Char :=
  let basic := label.filter (·.toNat < 128)
  let start : Writer :=
    { distance := 0, bias := 72, handled := basic.length
      output := if basic = [] then [] else basic ++ ['-'] }
  (writeAll basic.length label 128 start (beyondAscii label)).output

/-- A number at the front of a text, and what follows it. -/
def decodeNumber (bias : Nat) : (place weight acc : Nat) → List Char → Option (Nat × List Char)
  | _, _, _, [] => none
  | place, weight, acc, c :: rest =>
    (digitValue? c).bind fun d =>
      let t := threshold bias place
      if d < t then some (acc + d * weight, rest)
      else decodeNumber bias (place + 36) (weight * (36 - t)) (acc + d * weight) rest

/-- The character of a code point that has one. -/
def char? (n : Nat) : Option Char := if n.isValidChar then some (Char.ofNat n) else none

/-- Reads numbers into a label, `fuel` of them at most. -/
def decodeAll : (fuel n position bias : Nat) → List Char → List Char → Option (List Char)
  | _, _, _, _, label, [] => some label
  | 0, _, _, _, _, _ => none
  | fuel + 1, n, position, bias, label, text =>
    (decodeNumber bias 36 1 position text).bind fun (reached, rest) =>
      let size := label.length + 1
      let point := n + reached / size
      let index := reached % size
      (char? point).bind fun c =>
        decodeAll fuel point (index + 1) (adapt (reached - position) size (position == 0))
          (label.take index ++ c :: label.drop index) rest

/-- The label that an ASCII text stands for. -/
def decode (text : List Char) : Option (List Char) :=
  let tail := (text.reverse.takeWhile (· != '-')).reverse
  let basic := text.take (text.length - tail.length - 1)
  if text.all (·.toNat < 128) then decodeAll (tail.length + 1) 128 0 72 basic tail else none

/-- A label with one letter beyond ASCII, both ways. -/
example : encode "münchen".toList = "mnchen-3ya".toList ∧
    decode "mnchen-3ya".toList = some "münchen".toList := by
  constructor <;> decide +kernel

end Punycode
end ServiceReadiness
