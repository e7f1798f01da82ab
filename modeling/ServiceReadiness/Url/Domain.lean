/-
# Domain names

A domain name is brought into ASCII: its characters are mapped and composed, it
is split at the dots, and each label is checked and written in Punycode if it
needs to be.  A label that already begins with `xn--` must stand for one that
would be written so.  A name for which any step fails is no domain name.
-/

import ServiceReadiness.Url.Domain.DirectionTable
import ServiceReadiness.Url.Domain.MappingTable
import ServiceReadiness.Url.Domain.Normalization
import ServiceReadiness.Url.Domain.Punycode

namespace ServiceReadiness
namespace Domain

/-- An ASCII character that no domain name holds. -/
def isForbidden (c : Char) : Bool :=
  c.toNat ≤ 0x20 || c.toNat == 0x7F || "%#/:<>?@[\\]^|".toList.contains c

/-- A character of ASCII. -/
def isAscii (c : Char) : Bool := c.toNat < 128

/-- The characters of a name after mapping and composition. -/
def prepare (name : List Char) : Option (List Char) :=
  (name.mapM Mapping.map).map fun parts => Normalization.nfc parts.flatten

/-- The rule for a joiner: it follows a mark that links consonants, or stands
between letters that join towards it. -/
def joinerAllowed (before : List Char) (c : Char) (after : List Char) : Bool :=
  let linked := before.getLast?.any (Normalization.combiningClass · == 9)
  if c.toNat == 0x200D then linked
  else if c.toNat == 0x200C then
    let left := (before.reverse.dropWhile (joining · == .transparent)).head?
    let right := (after.dropWhile (joining · == .transparent)).head?
    linked || (left.any (fun l => joining l == .left || joining l == .both) &&
      right.any (fun r => joining r == .right || joining r == .both))
  else true

/-- Every joiner of a label is allowed where it stands. -/
def joinersAllowed (before : List Char) : List Char → Bool
  | [] => true
  | c :: rest => joinerAllowed before c rest && joinersAllowed (before ++ [c]) rest

/-- The checks for a label that is not in ASCII: no mark in front, and joiners
only where they are allowed. -/
def isWellFormed (label : List Char) : Bool :=
  !(label.head?.any isMark) && joinersAllowed [] label

/-- A label of a name, and what it is in ASCII. -/
structure Label where
  text : List Char
  ascii : List Char

/-- The label that stands behind `xn--`. -/
def decodeLabel (encoded : List Char) : Option (List Char) :=
  (Punycode.decode encoded).filter fun label =>
    !label.all isAscii && label.all Mapping.isKept && Normalization.nfc label == label &&
      isWellFormed label

/-- A label of a prepared name. -/
def readLabel (label : List Char) : Option Label :=
  match label with
  | 'x' :: 'n' :: '-' :: '-' :: encoded =>
    (decodeLabel encoded).map fun text => ⟨text, label⟩
  | _ =>
    if label.all isAscii then some ⟨label, label⟩
    else if isWellFormed label then some ⟨label, "xn--".toList ++ Punycode.encode label⟩
    else none

/-- A name holds text that runs from right to left.  The scripts that do begin with Hebrew,
at U+0590. -/
def isBidirectional (label : List Char) : Bool :=
  label.any fun c =>
    0x590 ≤ c.toNat && (direction c == .rightToLeft || direction c == .arabicNumber)

/-- The direction of the last character that is no mark. -/
def lastDirection (label : List Char) : Option Direction :=
  ((label.map direction).reverse.dropWhile (· == .mark)).head?

/-- The rule for a label from right to left. -/
def rightToLeftAllowed (label : List Char) : Bool :=
  let directions := label.map direction
  directions.all (fun d => d != .leftToRight && d != .other) &&
    (lastDirection label).any
      (fun d => d == .rightToLeft || d == .arabicNumber || d == .europeanNumber) &&
    !(directions.contains .arabicNumber && directions.contains .europeanNumber)

/-- The rule for a label from left to right. -/
def leftToRightAllowed (label : List Char) : Bool :=
  (label.map direction).all
      (fun d => d == .leftToRight || d == .europeanNumber || d == .neutral || d == .mark) &&
    (lastDirection label).any (fun d => d == .leftToRight || d == .europeanNumber)

/-- The rule for a label of a name that holds text from right to left. -/
def directionAllowed (label : List Char) : Bool :=
  match label.head?.map direction with
  | none => true
  | some .rightToLeft => rightToLeftAllowed label
  | some .leftToRight => leftToRightAllowed label
  | some _ => false

/-- The labels of a prepared name. -/
def readLabels (name : List Char) : Option (List Label) := do
  let labels ← (name.splitOn '.').mapM readLabel
  if labels.any (isBidirectional ·.text) && !labels.all (directionAllowed ·.text) then none
  else some labels

/-- A name in ASCII, or nothing if it is no domain name. -/
def toAscii (name : List Char) : Option (List Char) := do
  let prepared ← prepare name
  let labels ← readLabels prepared
  let ascii := ['.'].intercalate (labels.map (·.ascii))
  if ascii.any isForbidden then none else some ascii

end Domain
end ServiceReadiness
