/-
# Percent encoding

A character that may not stand in some part of a URL is written as the bytes of
its UTF-8 form, each as `%` and two hexadecimal digits in upper case.  Which
ASCII characters that concerns depends on the part; every other character is
always encoded.
-/

namespace ServiceReadiness
namespace Percent

/-- The ASCII characters that some part of a URL encodes, controls aside. -/
structure EncodeSet where
  also : List Char

/-- What an opaque path or host encodes: controls alone. -/
def controls : EncodeSet := ⟨[]⟩

/-- What a fragment encodes. -/
def fragment : EncodeSet := ⟨" \"<>`".toList⟩

/-- What a query encodes. -/
def query : EncodeSet := ⟨" \"#<>".toList⟩

/-- What the query of a URL with a special scheme encodes. -/
def specialQuery : EncodeSet := ⟨"'".toList ++ query.also⟩

/-- What a path encodes. -/
def path : EncodeSet := ⟨"#?\x7b\x7d".toList ++ fragment.also⟩

/-- What a user name or password encodes. -/
def userinfo : EncodeSet := ⟨"/:;=@[\\]^|".toList ++ path.also⟩

/-- A character is encoded. -/
def EncodeSet.holds (s : EncodeSet) (c : Char) : Bool :=
  c.toNat < 0x20 || 0x7F ≤ c.toNat || s.also.contains c

/-- The hexadecimal digit of a value below sixteen. -/
def hexDigit (n : Nat) : Char := Char.ofNat (if n < 10 then 48 + n else 55 + n)

/-- The encoded form of a byte. -/
def encodeByte (b : UInt8) : List Char := ['%', hexDigit (b.toNat / 16), hexDigit (b.toNat % 16)]

/-- The encoded form of a character, whatever it is. -/
def encodeChar (c : Char) : List Char :=
  (String.singleton c).toUTF8.toList.flatMap encodeByte

/-- A text with the characters of a set encoded. -/
def encode (s : EncodeSet) (cs : List Char) : List Char :=
  cs.flatMap fun c => if s.holds c then encodeChar c else [c]

/-- The value of a hexadecimal digit of either case. -/
def hexValue? (b : UInt8) : Option UInt8 :=
  if 48 ≤ b ∧ b ≤ 57 then some (b - 48)
  else if 65 ≤ b ∧ b ≤ 70 then some (b - 55)
  else if 97 ≤ b ∧ b ≤ 102 then some (b - 87)
  else none

/-- Bytes with every encoded byte decoded; a `%` without two digits stays. -/
def decodeBytes : List UInt8 → List UInt8
  | 37 :: high :: low :: rest =>
    match hexValue? high, hexValue? low with
    | some h, some l => (h * 16 + l) :: decodeBytes rest
    | _, _ => 37 :: decodeBytes (high :: low :: rest)
  | b :: rest => b :: decodeBytes rest
  | [] => []

/-- A text with every encoded byte decoded, or nothing if that is not UTF-8. -/
def decode (cs : List Char) : Option (List Char) :=
  let bytes := decodeBytes (String.ofList cs).toUTF8.toList
  (String.fromUTF8? bytes.toByteArray).map String.toList

/-- A path is encoded, and a host decoded. -/
example : encode path "a b?é".toList = "a%20b%3F%C3%A9".toList := by decide +kernel

end Percent
end ServiceReadiness
