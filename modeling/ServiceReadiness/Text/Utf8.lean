/-
# Text from bytes

Bytes that may be no text are read as one all the same.  Every character that they hold is kept.
Bytes that hold none are taken together as far as they could begin one, and U+FFFD stands for
them.
-/

namespace ServiceReadiness
namespace Utf8

/-- The character that bytes begin with, if they do. -/
def front? (bytes : List UInt8) : Option Char := (bytes.take 4).toByteArray.utf8DecodeChar? 0

/-- A byte of a character after its first. -/
def isContinuation (b : UInt8) : Bool := 0x80 ≤ b && b ≤ 0xBF

/-- Two bytes that may begin a character. -/
def mayFollow (lead second : UInt8) : Bool :=
  if lead = 0xE0 then 0xA0 ≤ second && second ≤ 0xBF
  else if lead = 0xED then 0x80 ≤ second && second ≤ 0x9F
  else if lead = 0xF0 then 0x90 ≤ second && second ≤ 0xBF
  else if lead = 0xF4 then 0x80 ≤ second && second ≤ 0x8F
  else 0xC2 ≤ lead && lead < 0xF4 && isContinuation second

/-- How many bytes at the front, which hold no character, are taken together: as many as could
begin one, and else the first. -/
def brokenLength : List UInt8 → Nat
  | lead :: second :: rest =>
    if mayFollow lead second then
      if 0xF0 ≤ lead && rest.head?.any isContinuation then 3 else 2
    else 1
  | _ => 1

/-- The text of bytes after the first `skip` of them. -/
def textAfter : (skip : Nat) → List UInt8 → List Char
  | _, [] => []
  | skip + 1, _ :: rest => textAfter skip rest
  | 0, b :: rest =>
    match front? (b :: rest) with
    | some c => c :: textAfter (c.utf8Size - 1) rest
    | none => '\uFFFD' :: textAfter (brokenLength (b :: rest) - 1) rest

/-- The text of bytes. -/
def text (bytes : List UInt8) : List Char := textAfter 0 bytes

/-- The bytes of characters. -/
def bytesOf (cs : List Char) : List UInt8 := cs.flatMap String.utf8EncodeChar

theorem textAfter_append (front rest : List UInt8) :
    textAfter front.length (front ++ rest) = textAfter 0 rest := by
  induction front with
  | nil => rfl
  | cons b front ih => simpa [textAfter] using ih

/-- The bytes of a character are found again in front of any others. -/
theorem front?_utf8EncodeChar_append (c : Char) (rest : List UInt8) :
    front? (String.utf8EncodeChar c ++ rest) = some c := by
  have hsize : (String.utf8EncodeChar c).length ≤ 4 := by
    rw [String.length_utf8EncodeChar]
    exact c.utf8Size_le_four
  rw [front?, List.take_append, List.take_of_length_le hsize, List.toByteArray_append]
  exact ByteArray.utf8DecodeChar?_utf8EncodeChar_append

/-- **Characters are read back from their bytes.** -/
theorem text_bytesOf (cs : List Char) : text (bytesOf cs) = cs := by
  induction cs with
  | nil => rfl
  | cons c cs ih =>
    obtain ⟨b, more, hbytes⟩ := List.exists_cons_of_ne_nil (String.utf8EncodeChar_ne_nil (c := c))
    have hfront : front? (b :: (more ++ bytesOf cs)) = some c := by
      rw [← List.cons_append, ← hbytes]
      exact front?_utf8EncodeChar_append c _
    have hmore : c.utf8Size - 1 = more.length := by
      rw [← String.length_utf8EncodeChar, hbytes, List.length_cons, Nat.add_sub_cancel]
    rw [bytesOf, List.flatMap_cons, ← bytesOf, hbytes, List.cons_append, text, textAfter, hfront]
    dsimp only
    rw [hmore, textAfter_append]
    exact congrArg (c :: ·) ih

/-- What is no character is taken together as far as it goes: two bytes of three, three of four,
a surrogate byte by byte, and the character in front is kept. -/
example :
    text [0xC3, 0xA9, 0xFF, 0xE2, 0x82, 0x41, 0xF0, 0x9F, 0x92, 0xED, 0xA0, 0x80] =
      ['é', '\uFFFD', '\uFFFD', 'A', '\uFFFD', '\uFFFD', '\uFFFD', '\uFFFD'] := by
  decide +kernel

end Utf8
end ServiceReadiness
