/-
# Paths

A path is a list of segments.  A segment of one dot stands for nothing and one of
two dots for the step back to the segment before it; either dot may be written
`%2e`.  A drive letter, such as `C:`, is never stepped back over.  The path of a
file has no empty segments in front.
-/

import ServiceReadiness.Url

namespace ServiceReadiness
namespace Path

/-- What is left of a segment after one dot, plain or encoded. -/
def dropDot : List Char → Option (List Char)
  | '.' :: rest => some rest
  | '%' :: '2' :: 'e' :: rest => some rest
  | '%' :: '2' :: 'E' :: rest => some rest
  | _ => none

/-- A segment of one dot. -/
def isSingleDot (segment : List Char) : Bool := dropDot segment == some []

/-- A segment of two dots. -/
def isDoubleDot (segment : List Char) : Bool := (dropDot segment).bind dropDot == some []

/-- A drive letter with `:` or `|`. -/
def isDrive : List Char → Bool
  | [letter, mark] => letter.isAlpha && (mark == ':' || mark == '|')
  | _ => false

/-- The segments of a path: the text between slashes. -/
def split (kind : SchemeKind) : List Char → List (List Char)
  | [] => [[]]
  | c :: rest =>
    if kind.isSlash c then [] :: split kind rest
    else
      match split kind rest with
      | [] => [[c]]
      | s :: more => (c :: s) :: more

/-- The segments so far, newest first, after a step back. -/
def stepBack : List (List Char) → List (List Char)
  | [] => []
  | s :: before => if isDrive s then s :: before else before

/-- A segment as it is kept: the drive letter of a file has a colon. -/
def keep (kind : SchemeKind) (segment : List Char) : List Char :=
  match segment with
  | [letter, '|'] => if kind = .file ∧ letter.isAlpha then [letter, ':'] else segment
  | _ => segment

/-- The segments of a path without dots, newest first.  A dot at the end leaves an
empty segment. -/
def resolve (kind : SchemeKind) : (before : List (List Char)) → List (List Char) → List (List Char)
  | before, [] => before
  | before, s :: rest =>
    if isDoubleDot s then
      let back := stepBack before
      if rest = [] then [] :: back else resolve kind back rest
    else if isSingleDot s then
      if rest = [] then [] :: before else resolve kind before rest
    else resolve kind (keep kind s :: before) rest

/-- The text of segments. -/
def render (segments : List (List Char)) : List Char := segments.flatMap ('/' :: ·)

/-- A text without a slash in front. -/
def dropSlash (kind : SchemeKind) : List Char → List Char
  | c :: rest => if kind.isSlash c then rest else c :: rest
  | [] => []

/-- The encoded segments of a text after the authority. -/
def encodedSegments (kind : SchemeKind) (text : List Char) : List (List Char) :=
  (split kind (dropSlash kind text)).map (Percent.encode Percent.path)

/-- The path that a text after the authority spells. -/
def ofText (kind : SchemeKind) (text : List Char) : List Char :=
  let path := render (resolve kind [] (encodedSegments kind text)).reverse
  if kind = .file then '/' :: path.dropWhile (· == '/') else path

/-- Dots are resolved, and an encoded slash is no slash. -/
example : String.ofList (ofText .special "/a/./b/../%2E%2e/c%2Fd/..".toList) = "/" ∧
    String.ofList (ofText .other "/a\\b//c".toList) = "/a\\b//c" := by
  constructor <;> decide +kernel

end Path
end ServiceReadiness
