/-
# Responses

Reading what a server sends before it closes a connection: a status line, header
fields, an empty line and a body.  Interim answers before the final one are
skipped.  Where the body ends is for the header to say; a body that breaks off
spoils only whoever needs the body.
-/

import ServiceReadiness.Http.Method
import ServiceReadiness.Http.Status

namespace ServiceReadiness
namespace Http

/-- A final answer.  The body is missing when it breaks off. -/
structure Response where
  status : Status
  body : Option (List UInt8)
  deriving DecidableEq, Repr

/-- The head of an answer: its status, the second number of its version, and its
header fields with their names in lower case. -/
structure Head where
  minor : UInt8
  status : Status
  fields : List (List Char × List Char)
  deriving DecidableEq, Repr

namespace Head

/-- The character that a byte stands for in a header. -/
def charOf (b : UInt8) : Char := Char.ofNat b.toNat

/-- A byte that a header field or a phrase may hold. -/
def isFieldByte (b : UInt8) : Bool := b == 9 || (32 ≤ b && b != 127)

/-- A line without the carriage return at its end; the line is given backwards. -/
def chomp : List UInt8 → List UInt8
  | 13 :: line => line.reverse
  | line => line.reverse

/-- The lines up to the first empty one, and what follows it.  The line under way
is given backwards. -/
def splitLines : (line : List UInt8) → List UInt8 → Option (List (List UInt8) × List UInt8)
  | _, [] => none
  | line, b :: rest =>
    if b = 10 then
      match chomp line with
      | [] => some ([], rest)
      | done => (splitLines [] rest).map fun (lines, rest) => (done :: lines, rest)
    else splitLines (b :: line) rest

/-- A text without the empty lines in front. -/
def dropEmptyLines : List UInt8 → List UInt8
  | 10 :: rest => dropEmptyLines rest
  | 13 :: 10 :: rest => dropEmptyLines rest
  | bytes => bytes

/-- The value of a decimal digit. -/
def digit? (b : UInt8) : Option Nat := if 48 ≤ b ∧ b ≤ 57 then some (b.toNat - 48) else none

/-- The status that three digits give. -/
def status? (a b c : UInt8) : Option Status := do
  let hundreds ← digit? a
  let tens ← digit? b
  let ones ← digit? c
  Status.ofCode? (UInt16.ofNat (hundreds * 100 + tens * 10 + ones))

/-- The version and status that a status line gives: `HTTP/1.`, a 0 or a 1, a
space, three digits, and a phrase after another space, or nothing. -/
def statusLine? : List UInt8 → Option (UInt8 × Status)
  | 72 :: 84 :: 84 :: 80 :: 47 :: 49 :: 46 :: v :: 32 :: a :: b :: c :: phrase =>
    if (v = 48 ∨ v = 49) ∧ (phrase = [] ∨ phrase.head? = some 32) ∧ phrase.all isFieldByte then
      (status? a b c).map (v - 48, ·)
    else none
  | _ => none

/-- A blank inside a line. -/
def isLineBlank (c : Char) : Bool := c == ' ' || c == '\t'

/-- A text without blanks at its ends. -/
def trim (cs : List Char) : List Char :=
  ((cs.dropWhile isLineBlank).reverse.dropWhile isLineBlank).reverse

/-- The name, in lower case, and the value that a header line gives. -/
def field? (line : List UInt8) : Option (List Char × List Char) :=
  match (line.map charOf).span isTokenChar with
  | (name, ':' :: value) =>
    if name ≠ [] ∧ line.all isFieldByte then some (name.map Char.toLower, trim value) else none
  | _ => none

/-- The most header fields that an answer may have. -/
def maxFields : Nat := 100

/-- The head in front of a text, and what follows it. -/
def read (bytes : List UInt8) : Option (Head × List UInt8) := do
  let (lines, rest) ← splitLines [] (dropEmptyLines bytes)
  match lines with
  | [] => none
  | first :: more =>
    let (minor, status) ← statusLine? first
    let fields ← more.mapM field?
    if fields.length ≤ maxFields then some (⟨minor, status, fields⟩, rest) else none

/-- The values of a header field, in order. -/
def values (h : Head) (name : String) : List (List Char) :=
  (h.fields.filter (·.1 = name.toList)).map (·.2)

end Head

/-- Where a body ends. -/
inductive Framing where
  /-- There is none. -/
  | absent
  /-- After so many bytes. -/
  | counted (length : Nat)
  /-- In chunks, each with its size in front. -/
  | chunked
  /-- Where the connection ends. -/
  | untilClose
  deriving DecidableEq, Repr

namespace Framing

/-- The parts of a text between commas, without blanks around them. -/
def commaParts (cs : List Char) : List (List Char) := (cs.splitOn ',').map Head.trim

/-- The largest length that a body may announce. -/
def maxLength : Nat := Numeral.maxUnsigned - 2

/-- The length that header values announce: the same numeral every time. -/
def length? (values : List (List Char)) : Option Nat := do
  let numerals := values.flatMap commaParts
  let lengths ← numerals.mapM fun digits =>
    if digits = [] then none else (Numeral.readDigits maxLength 0 digits).toOption
  match lengths with
  | [] => none
  | first :: more => if more.all (· == first) then some first else none

/-- The last encoding that header values name is the chunked one. -/
def isChunked (values : List (List Char)) : Bool :=
  match values.getLast?.bind fun v => (commaParts v).getLast? with
  | some encoding => encoding.map Char.toLower == "chunked".toList
  | none => false

/-- The answer to a request of this method, by its status, has no body. -/
def isBodiless (method : String) (s : Status) : Bool :=
  method == "HEAD" || (method == "CONNECT" && s.isSuccess) ||
    s.code == 204 || s.code == 304 || s.code == 101

/-- Where the body of an answer ends, by the method of the request and the head of
the answer; nothing if the head contradicts itself. -/
def ofHead (method : String) (h : Head) : Option Framing :=
  let encodings := h.values "transfer-encoding"
  let lengths := h.values "content-length"
  if isBodiless method h.status then some .absent
  else if encodings ≠ [] then
    if h.minor = 0 then none else some (if isChunked encodings then .chunked else .untilClose)
  else if lengths ≠ [] then (length? lengths).map .counted
  else some .untilClose

/-- The value of a run of hexadecimal digits. -/
def hexValue? (acc : Nat) : List Char → Option Nat
  | [] => some acc
  | c :: rest =>
    if c.isDigit then hexValue? (acc * 16 + (c.toNat - 48)) rest
    else if 'a' ≤ c.toLower ∧ c.toLower ≤ 'f' then
      hexValue? (acc * 16 + (c.toLower.toNat - 87)) rest
    else none

/-- The size of a chunk, from the line in front of it; what follows a blank or a
semicolon does not matter. -/
def chunkSize? (line : List UInt8) : Option Nat :=
  let size := (line.map Head.charOf).takeWhile fun c => c != ';' && !Head.isLineBlank c
  if size = [] then none else hexValue? 0 size

/-- The bytes before the first line end, and those after it. -/
def takeLine? (bytes : List UInt8) : Option (List UInt8 × List UInt8) :=
  match bytes.span (· != 13) with
  | (line, 13 :: 10 :: rest) => some (line, rest)
  | _ => none

/-- The content of `count` chunks at most, up to the empty one and the lines after
it. -/
def dechunk : (count : Nat) → List UInt8 → Option (List UInt8)
  | 0, _ => none
  | count + 1, bytes => do
    let (line, rest) ← takeLine? bytes
    let size ← chunkSize? line
    if size = 0 then (Head.splitLines [] rest).map fun _ => []
    else
      let (data, rest) := (rest.take size, rest.drop size)
      match rest with
      | 13 :: 10 :: rest => (dechunk count rest).map (data ++ ·)
      | _ => none

/-- The body that the bytes after a head hold, if it is all there. -/
def body? (bytes : List UInt8) : Framing → Option (List UInt8)
  | .absent => some []
  | .counted length => if length ≤ bytes.length then some (bytes.take length) else none
  | .chunked => dechunk bytes.length bytes
  | .untilClose => some bytes

end Framing

namespace Response

/-- The final answer to a request of a method, after `interim` interim ones at
most. -/
def readAfter (method : String) : (interim : Nat) → List UInt8 → Option Response
  | 0, _ => none
  | interim + 1, bytes => do
    let (head, rest) ← Head.read bytes
    if head.status.isInterim then readAfter method interim rest
    else
      let framing ← Framing.ofHead method head
      some { status := head.status, body := framing.body? rest }

/-- The final answer to a request of a method that all bytes sent make.  Each
interim answer takes at least a byte, so there are no more of them than bytes. -/
def read (method : String) (bytes : List UInt8) : Option Response :=
  readAfter method bytes.length bytes

/-- The bytes of a text. -/
def bytesOf (text : String) : List UInt8 := text.toUTF8.toList

/-- An interim answer is skipped, and a body needs all its bytes. -/
example :
    (read "GET"
          (bytesOf "HTTP/1.1 103 E\r\n\r\nHTTP/1.1 404 X\r\nContent-Length: 2\r\n\r\nno!")).map
        (fun r => (r.status.code, r.body)) = some (404, some (bytesOf "no")) ∧
      (read "GET" (bytesOf "HTTP/1.0 200\ncontent-length: 9\n\nshort")).map
        (fun r => (r.status.code, r.body)) = some (200, none) := by
  constructor <;> decide +kernel

end Response
end Http
end ServiceReadiness
