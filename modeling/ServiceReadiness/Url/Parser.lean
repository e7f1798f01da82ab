/-
# Reading URLs

An absolute URL is read from left to right: scheme, authority, path, query and
fragment.  Controls and blanks at the ends, and tabs and line breaks anywhere, are
left out first.  A text without a scheme is relative, and there is nothing that
it could be relative to.
-/

import ServiceReadiness.Url.Path

namespace ServiceReadiness
namespace Url

/-- A control character or a space. -/
def isPadding (c : Char) : Bool := c.toNat ≤ 0x20

/-- A text without padding at its ends and without tabs and line breaks. -/
def clean (cs : List Char) : List Char :=
  (((cs.dropWhile isPadding).reverse.dropWhile isPadding).reverse).filter fun c =>
    c != '\t' && c != '\n' && c != '\r'

/-- A character of a scheme after its first. -/
def isSchemeChar (c : Char) : Bool := c.isAlphanum || c == '+' || c == '-' || c == '.'

/-- The scheme of a text, in lower case, and what follows the colon. -/
def splitScheme (cs : List Char) : Option (List Char × List Char) :=
  match cs.span isSchemeChar with
  | (first :: more, ':' :: rest) =>
    if first.isAlpha then some ((first :: more).map Char.toLower, rest) else none
  | _ => none

/-- The text before the first character of a kind, and the rest with it. -/
def splitAtFirst (p : Char → Bool) (cs : List Char) : List Char × List Char :=
  cs.span fun c => !p c

/-- A character at which the part before the path ends. -/
def endsAuthority (kind : SchemeKind) (c : Char) : Bool := kind.isSlash c || c == '?' || c == '#'

/-- The query and fragment at the end of a text, encoded. -/
def readTail (kind : SchemeKind) (cs : List Char) : Option (List Char) × Option (List Char) :=
  let set := if kind = .other then Percent.query else Percent.specialQuery
  let fragmentOf (cs : List Char) :=
    match cs with
    | '#' :: rest => some (Percent.encode Percent.fragment rest)
    | _ => none
  match cs with
  | '?' :: rest =>
    let (query, rest) := splitAtFirst (· == '#') rest
    (some (Percent.encode set query), fragmentOf rest)
  | _ => (none, fragmentOf cs)

/-- A URL whose scheme, authority and path are known, with what `tail` adds. -/
def assemble (kind : SchemeKind) (scheme : List Char) (authority : Option Authority)
    (path tail : List Char) : Url :=
  let (query, fragment) := readTail kind tail
  { scheme, authority, path, query, fragment }

/-- The text before the last `@` and after it. -/
def splitUserinfo (cs : List Char) : Option (List Char × List Char) :=
  if cs.contains '@' then
    let (after, before) := cs.reverse.span (· != '@')
    some (before.tail.reverse, after.reverse)
  else none

/-- The user name and password before the last `@` of an authority, encoded. -/
def readUserinfo (cs : List Char) : List Char × List Char :=
  let (username, password) := splitAtFirst (· == ':') cs
  (Percent.encode Percent.userinfo username, Percent.encode Percent.userinfo password.tail)

/-- The host at the front of a text, and what follows it.  A colon in brackets
belongs to the host. -/
def splitHost (kind : SchemeKind) : (bracketed : Bool) → List Char → List Char × List Char
  | _, [] => ([], [])
  | bracketed, c :: rest =>
    if endsAuthority kind c || (c == ':' && !bracketed) then ([], c :: rest)
    else
      let (host, rest) :=
        splitHost kind (if c == '[' then true else if c == ']' then false else bracketed) rest
      (c :: host, rest)

/-- A character that ends a port. -/
def endsPort (c : Char) : Bool := c == '/' || c == '\\' || c == '?' || c == '#'

/-- The port after a host, unless it is the default one, and what follows it. -/
def readPort (default : Option UInt16) :
    List Char → Except UrlFault (Option UInt16 × List Char)
  | ':' :: rest =>
    let (digits, rest) := splitAtFirst endsPort rest
    match digits, Numeral.readDigits 65535 0 digits with
    | [], _ => .ok (none, rest)
    | _, .ok n =>
      .ok (if default = some (UInt16.ofNat n) then none else some (UInt16.ofNat n), rest)
    | _, .error _ => .error .invalidPort
  | cs => .ok (none, cs)

/-- The host at the front of a text by the rules of its scheme, and what follows
it. -/
def readHost (kind : SchemeKind) (cs : List Char) : Except UrlFault (Host × List Char) := do
  let (text, rest) := splitHost kind false cs
  if kind = .other then
    let host ← Host.readOpaque text
    if text = [] ∧ rest.head? = some ':' then .error .emptyHost else .ok (host, rest)
  else if text = [] then .error .emptyHost
  else
    let host ← Host.readSpecial text
    .ok (host, rest)

/-- The path after an authority, and the query and fragment text after it. -/
def readPath (kind : SchemeKind) (cs : List Char) : List Char × List Char :=
  let (text, tail) := splitAtFirst (fun c => c == '?' || c == '#') cs
  (if kind = .other ∧ text = [] then [] else Path.ofText kind text, tail)

/-- A URL after its scheme and the slashes before its authority. -/
def readAuthority (kind : SchemeKind) (scheme cs : List Char) : Except UrlFault Url := do
  let (front, after) := splitAtFirst (endsAuthority kind) cs
  let ((username, password), hostText) ←
    match splitUserinfo front with
    | none => pure (([], []), cs)
    | some ([], host) =>
      if host = [] ∧ after ≠ [] then throw .emptyHost else pure (([], []), host ++ after)
    | some (userinfo, host) => pure (readUserinfo userinfo, host ++ after)
  let (host, rest) ← readHost kind hostText
  let (port, rest) ← readPort (SchemeKind.defaultPort? scheme) rest
  if host = .name [] ∧ (username ≠ [] ∨ password ≠ []) then throw .emptyHost
  let (path, tail) := readPath kind rest
  return assemble kind scheme (some { username, password, host, port }) path tail

/-- A URL without special rules after its scheme. -/
def readOther (scheme cs : List Char) : Except UrlFault Url :=
  match cs with
  | '/' :: '/' :: rest => readAuthority .other scheme rest
  | '/' :: _ =>
    let (path, tail) := readPath .other cs
    .ok (assemble .other scheme none path tail)
  | _ =>
    let (path, tail) := splitAtFirst (fun c => c == '?' || c == '#') cs
    .ok (assemble .other scheme none (Percent.encode Percent.controls path) tail)

/-- The host of a file at the front of a text, and what follows it.  A drive letter
is no host, and `localhost` is as good as none. -/
def readFileHost (cs : List Char) : Except UrlFault (Host × List Char) := do
  let (text, rest) := splitAtFirst (endsAuthority .file) cs
  if Path.isDrive text then return (.name [], cs)
  else if text = [] then return (.name [], rest)
  else
    let host ← Host.readSpecial text
    return (if host = .name "localhost".toList then .name [] else host, rest)

/-- The URL of a file, after its host.  A path with a drive letter has no host. -/
def assembleFile (scheme : List Char) (host : Host) (cs : List Char) : Url :=
  let (text, tail) := splitAtFirst (fun c => c == '?' || c == '#') cs
  let host := if (Path.encodedSegments .file text).any Path.isDrive then .name [] else host
  assemble .file scheme (some { host }) (Path.ofText .file text) tail

/-- The URL of a file after its scheme. -/
def readFile (scheme cs : List Char) : Except UrlFault Url :=
  match cs with
  | a :: b :: rest =>
    if SchemeKind.file.isSlash a && SchemeKind.file.isSlash b then do
      let (host, rest) ← readFileHost rest
      return assembleFile scheme host rest
    else .ok (assembleFile scheme (.name []) cs)
  | _ => .ok (assembleFile scheme (.name []) cs)

/-- The absolute URL that a text spells. -/
def read (cs : List Char) : Except UrlFault Url :=
  match splitScheme (clean cs) with
  | none => .error .relativeWithoutBase
  | some (scheme, rest) =>
    match SchemeKind.ofScheme scheme with
    | .file => readFile scheme rest
    | .special => readAuthority .special scheme (rest.dropWhile (SchemeKind.special.isSlash ·))
    | .other => readOther scheme rest

/-- The absolute URL that a text spells. -/
def parse (text : String) : Except UrlFault Url := read text.toList

end Url
end ServiceReadiness
