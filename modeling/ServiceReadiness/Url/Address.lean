/-
# Numeric addresses

An IPv4 address is written as up to four numbers, each decimal, octal (`0…`) or
hexadecimal (`0x…`), the last of which fills all bytes that are left.  An IPv6
address is eight groups of hexadecimal digits, one run of zero groups of which
may be left out, and whose last two groups may be an IPv4 address.
-/

import ServiceReadiness.Text.Numeral

namespace ServiceReadiness

namespace Ipv4

/-- The value of a digit in a base up to sixteen. -/
def digitValue? (base : Nat) (c : Char) : Option Nat :=
  let value :=
    if '0' ≤ c ∧ c ≤ '9' then some (c.toNat - 48)
    else if 'a' ≤ c ∧ c ≤ 'f' then some (c.toNat - 87)
    else if 'A' ≤ c ∧ c ≤ 'F' then some (c.toNat - 55)
    else none
  value.filter (· < base)

/-- The number that digits of a base spell; no digits spell zero. -/
def readDigits (base : Nat) : (acc : Nat) → List Char → Option Nat
  | acc, [] => some acc
  | acc, c :: rest => (digitValue? base c).bind fun d => readDigits base (acc * base + d) rest

/-- A number of an address. -/
def readNumber : List Char → Option Nat
  | [] => none
  | '0' :: 'x' :: rest => readDigits 16 0 rest
  | '0' :: 'X' :: rest => readDigits 16 0 rest
  | '0' :: c :: rest => readDigits 8 0 (c :: rest)
  | cs => readDigits 10 0 cs

/-- The parts of a name between dots, without an empty last one. -/
def parts (name : List Char) : List (List Char) :=
  let all := name.splitOn '.'
  if all.getLast? = some [] then all.dropLast else all

/-- A name whose last part is a number can only be an address. -/
def endsInNumber (name : List Char) : Bool :=
  match (parts name).getLast? with
  | none => false
  | some last =>
    (last ≠ [] && last.all fun c => '0' ≤ c && c ≤ '9') || (readNumber last).isSome

/-- The address of numbers of which all but the last are bytes. -/
def combine : (place : Nat) → List Nat → Option Nat
  | _, [] => none
  | place, [n] => if n < 1 <<< (8 * place) then some n else none
  | place, n :: rest =>
    if n < 256 then (combine (place - 1) rest).map ((n <<< (8 * (place - 1))) + ·) else none

/-- The address that a name spells, as a number of 32 bits. -/
def read (name : List Char) : Option Nat := do
  let numbers ← (parts name).mapM readNumber
  if numbers.length ≤ 4 then combine 4 numbers else none

/-- An address in its dotted form. -/
def render (address : Nat) : List Char :=
  ['.'].intercalate ([3, 2, 1, 0].map fun place => Numeral.digits (address >>> (8 * place) % 256))

/-- Four spellings of one address. -/
example : (["127.0.0.1", "127.1", "0x7f.1", "2130706433"].map fun s => read s.toList) =
    List.replicate 4 (some 2130706433) := by decide +kernel

end Ipv4

namespace Ipv6

/-- A group of up to four hexadecimal digits. -/
def readGroup (cs : List Char) : Option Nat :=
  if cs ≠ [] ∧ cs.length ≤ 4 then Ipv4.readDigits 16 0 cs else none

/-- One byte of a trailing IPv4 address: decimal, without a leading zero. -/
def readByte (cs : List Char) : Option Nat :=
  match Numeral.readDigits 255 0 cs with
  | .ok n => if cs ≠ [] ∧ (cs.length = 1 ∨ cs.head? ≠ some '0') then some n else none
  | .error _ => none

/-- The two groups of a trailing IPv4 address. -/
def readTrailer (cs : List Char) : Option (List Nat) := do
  match ← (cs.splitOn '.').mapM readByte with
  | [a, b, c, d] => some [a * 256 + b, c * 256 + d]
  | _ => none

/-- Groups between colons, the last of which may be an IPv4 address. -/
def readGroups : List (List Char) → Option (List Nat)
  | [] => some []
  | [last] => if last.contains '.' then readTrailer last else (readGroup last).map ([·])
  | g :: rest => do return (← readGroup g) :: (← readGroups rest)

/-- The groups of one side of a `::`, or of an address without one. -/
def readSide (cs : List Char) : Option (List Nat) :=
  if cs = [] then some [] else readGroups (cs.splitOn ':')

/-- The text before the first `::` and after it. -/
def splitGap : List Char → Option (List Char × List Char)
  | ':' :: ':' :: rest => some ([], rest)
  | c :: rest => (splitGap rest).map fun (before, after) => (c :: before, after)
  | [] => none

/-- The eight groups that a text spells. -/
def read (cs : List Char) : Option (List Nat) :=
  match splitGap cs with
  | none => (readGroups (cs.splitOn ':')).filter (·.length == 8)
  | some (before, after) => do
    if before.contains '.' then none
    else
      let front ← readSide before
      let back ← readSide after
      if front.length + back.length < 8 then
        some (front ++ List.replicate (8 - front.length - back.length) 0 ++ back)
      else none

/-- The hexadecimal digits of a number, in lower case. -/
def hex (n : Nat) : List Char := (Nat.toDigits 16 n)

/-- The length of the run of zeros at the front of some groups. -/
def zeros (groups : List Nat) : Nat := (groups.takeWhile (· == 0)).length

/-- The position of the first longest run of at least two zeros, and its length. -/
def longestGap (groups : List Nat) : Option (Nat × Nat) :=
  let runs := (List.range groups.length).map fun i => (i, zeros (groups.drop i))
  let best := runs.foldl (fun b r => if b.2 < r.2 then r else b) (0, 1)
  if 2 ≤ best.2 then some best else none

/-- Groups between colons. -/
def renderGroups (groups : List Nat) : List Char := [':'].intercalate (groups.map hex)

/-- Eight groups in their shortest form. -/
def render (groups : List Nat) : List Char :=
  match longestGap groups with
  | none => renderGroups groups
  | some (start, length) =>
    renderGroups (groups.take start) ++ "::".toList ++ renderGroups (groups.drop (start + length))

end Ipv6
end ServiceReadiness
