/-
# Quoted text

A text in JSON stands between quotes.  Written, a quote, a backslash and every
control character is escaped, by a letter where there is one and otherwise by four
hexadecimal digits in lower case; all else stands for itself.  Reading takes every
escape that the format has, pairs of surrogates included, and no bare control
character.
-/

import ServiceReadiness.Text.Numeral

namespace ServiceReadiness
namespace Json

/-- Why a text is no JSON. -/
inductive Fault where
  /-- It ends too early. -/
  | cutShort
  /-- It holds something out of place. -/
  | misplaced
  deriving DecidableEq, Repr

namespace Quoted

/-- The hexadecimal digit of a value below sixteen. -/
def hexDigit (n : Nat) : Char := Char.ofNat (if n < 10 then 48 + n else 87 + n)

/-- The written form of a character. -/
def encodeChar (c : Char) : List Char :=
  if c = '"' then ['\\', '"']
  else if c = '\\' then ['\\', '\\']
  else if c = '\n' then ['\\', 'n']
  else if c = '\r' then ['\\', 'r']
  else if c = '\t' then ['\\', 't']
  else if c = '\x08' then ['\\', 'b']
  else if c = '\x0c' then ['\\', 'f']
  else if c.toNat < 0x20 then
    ['\\', 'u', '0', '0', hexDigit (c.toNat / 16), hexDigit (c.toNat % 16)]
  else [c]

/-- The written form of a text, with its quotes. -/
def encode (cs : List Char) : List Char := '"' :: cs.flatMap encodeChar ++ ['"']

/-- The value of a hexadecimal digit of either case. -/
def hexValue? (c : Char) : Option Nat :=
  if c.isDigit then some (c.toNat - 48)
  else if 'a' ≤ c ∧ c ≤ 'f' then some (c.toNat - 87)
  else if 'A' ≤ c ∧ c ≤ 'F' then some (c.toNat - 55)
  else none

/-- The value of four hexadecimal digits. -/
def unit? (a b c d : Char) : Option Nat := do
  let a ← hexValue? a
  let b ← hexValue? b
  let c ← hexValue? c
  let d ← hexValue? d
  return a * 4096 + b * 256 + c * 16 + d

/-- The first of a pair of surrogates. -/
def isHigh (n : Nat) : Bool := 0xD800 ≤ n && n < 0xDC00

/-- The second of a pair of surrogates. -/
def isLow (n : Nat) : Bool := 0xDC00 ≤ n && n < 0xE000

/-- The character that an escape of one letter stands for. -/
def letter? : Char → Option Char
  | '"' => some '"'
  | '\\' => some '\\'
  | '/' => some '/'
  | 'b' => some '\x08'
  | 'f' => some '\x0c'
  | 'n' => some '\n'
  | 'r' => some '\r'
  | 't' => some '\t'
  | _ => none

/-- What four digits mean after the surrogate `high`, if there was one: a
character, or the wait for the second surrogate. -/
def unitMeaning? (high : Option Nat) (n : Nat) : Option (Char ⊕ Nat) :=
  match high with
  | some h =>
    if isLow n then some (.inl (Char.ofNat (0x10000 + (h - 0xD800) * 1024 + (n - 0xDC00))))
    else none
  | none => if isHigh n then some (.inr n) else if isLow n then none else some (.inl (Char.ofNat n))

/-- A text with a character in front. -/
def push (c : Char) (r : Except Fault (List Char × List Char)) :
    Except Fault (List Char × List Char) :=
  r.map fun (text, rest) => (c :: text, rest)

/-- The text up to the closing quote, and what follows it.  The opening quote has
been read, and so has the surrogate `high`, if there was one. -/
def decode : (high : Option Nat) → List Char → Except Fault (List Char × List Char)
  | _, [] => .error .cutShort
  | high, '\\' :: 'u' :: a :: b :: c :: d :: rest =>
    match (unit? a b c d).bind (unitMeaning? high) with
    | some (.inl char) => push char (decode none rest)
    | some (.inr high) => decode (some high) rest
    | none => .error .misplaced
  | _, '\\' :: 'u' :: _ => .error .cutShort
  | some _, _ => .error .misplaced
  | none, '"' :: rest => .ok ([], rest)
  | none, ['\\'] => .error .cutShort
  | none, '\\' :: c :: rest =>
    match letter? c with
    | some char => push char (decode none rest)
    | none => .error .misplaced
  | none, c :: rest => if c.toNat < 0x20 then .error .misplaced else push c (decode none rest)

/-- A written text reads back, whatever it holds. -/
example :
    let text := "a\"\\\n\u0001é🚀".toList
    (decode none (encode text).tail).toOption = some (text, []) := by decide +kernel

end Quoted
end Json
end ServiceReadiness
