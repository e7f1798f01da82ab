/-
# Canonical composition

A text is brought into its composed canonical form in three steps: every
character is taken apart, the marks that follow a base are put into the order of
their classes, and base and marks are put together again wherever a composite
exists and no mark of the same or a higher class stands between.
-/

import ServiceReadiness.Url.Domain.NormalizationTable

namespace ServiceReadiness
namespace Normalization

/-- The parts of a syllable of Hangul: two or three letters. -/
def hangulParts (n : Nat) : List Char :=
  let index := n - 0xAC00
  let lead := Char.ofNat (0x1100 + index / 588)
  let vowel := Char.ofNat (0x1161 + index % 588 / 28)
  if index % 28 = 0 then [lead, vowel] else [lead, vowel, Char.ofNat (0x11A7 + index % 28)]

/-- The parts of a character. -/
def decompose (c : Char) : List Char :=
  let n := c.toNat
  if n < 0xC0 then [c]
  else if 0xAC00 ≤ n ∧ n ≤ 0xD7A3 then hangulParts n
  else
    match decompositions.find? (·.1 == n) with
    | some (_, parts) => parts.map Char.ofNat
    | none => [c]

/-- The syllable of two parts of Hangul. -/
def composeHangul (a b : Nat) : Option Char :=
  if 0x1100 ≤ a ∧ a < 0x1113 ∧ 0x1161 ≤ b ∧ b < 0x1176 then
    some (Char.ofNat (0xAC00 + ((a - 0x1100) * 21 + (b - 0x1161)) * 28))
  else if 0xAC00 ≤ a ∧ a ≤ 0xD7A3 ∧ (a - 0xAC00) % 28 = 0 ∧ 0x11A7 < b ∧ b < 0x11C3 then
    some (Char.ofNat (a + (b - 0x11A7)))
  else none

/-- The composite of two characters.  The first mark is U+0300, and nothing before it goes
into another character. -/
def compose (a b : Char) : Option Char :=
  if b.toNat < 0x300 then none
  else
    match composeHangul a.toNat b.toNat with
    | some c => some c
    | none =>
      (compositions.find? fun e => e.2.1 == a.toNat && e.2.2 == b.toNat).map (Char.ofNat ·.1)

/-- Puts a mark in its place among the marks before it. -/
def insertMark (c : Char) : List Char → List Char
  | [] => [c]
  | d :: rest =>
    if combiningClass c < combiningClass d then c :: d :: rest else d :: insertMark c rest

/-- The marks of each base in the order of their classes.  `marks` are those since
the last base. -/
def reorder (marks : List Char) : List Char → List Char
  | [] => marks
  | c :: rest =>
    if combiningClass c = 0 then marks ++ c :: reorder [] rest
    else reorder (insertMark c marks) rest

/-- A base and the marks after it that did not go into it. -/
structure Cluster where
  base : Char
  marks : List Char

/-- The text of a cluster. -/
def Cluster.text (k : Cluster) : List Char := k.base :: k.marks

/-- The cluster with one more character, if that goes into its base. -/
def Cluster.absorb (k : Cluster) (c : Char) : Option Cluster :=
  let open? :=
    match k.marks.getLast? with
    | none => true
    | some m => combiningClass m < combiningClass c
  if open? then (compose k.base c).map ({ k with base := · }) else none

/-- Puts bases and marks together. -/
def recompose : Cluster → List Char → List Char
  | k, [] => k.text
  | k, c :: rest =>
    match k.absorb c with
    | some k' => recompose k' rest
    | none =>
      if combiningClass c = 0 then k.text ++ recompose ⟨c, []⟩ rest
      else recompose { k with marks := k.marks ++ [c] } rest

/-- The composed canonical form of a text. -/
def nfc (cs : List Char) : List Char :=
  match reorder [] (cs.flatMap decompose) with
  | [] => []
  | c :: rest => recompose ⟨c, []⟩ rest

end Normalization
end ServiceReadiness
