/-
# URLs

An absolute URL by its parts, each in the form in which it is written, and the
text that the parts make.  A URL whose path does not begin with a slash has no
authority and an opaque path; a path that begins with two slashes, without an
authority before it, is written with `/.` in front so that it is not taken for
one.
-/

import ServiceReadiness.Url.Host

namespace ServiceReadiness

/-- Which rules a scheme follows. -/
inductive SchemeKind where
  /-- Schemes whose URLs have a host that is a domain name or an address. -/
  | special
  | file
  | other
  deriving DecidableEq, Repr

namespace SchemeKind

/-- The special schemes and their default ports. -/
def defaultPorts : List (String × UInt16) :=
  [("http", 80), ("https", 443), ("ws", 80), ("wss", 443), ("ftp", 21)]

/-- The default port of a scheme. -/
def defaultPort? (scheme : List Char) : Option UInt16 := defaultPorts.lookup (String.ofList scheme)

/-- The rules that a scheme follows. -/
def ofScheme (scheme : List Char) : SchemeKind :=
  if scheme = "file".toList then .file
  else if (defaultPort? scheme).isSome then .special
  else .other

/-- A backslash stands for a slash unless the scheme follows no special rules. -/
def isSlash (k : SchemeKind) (c : Char) : Bool := c == '/' || (k != .other && c == '\\')

end SchemeKind

/-- The part of a URL after `//`. -/
structure Authority where
  username : List Char := []
  password : List Char := []
  host : Host
  /-- The port, unless it is the default one of the scheme. -/
  port : Option UInt16 := none
  deriving DecidableEq, Repr

namespace Authority

/-- The user name and password of an authority, as they are written. -/
def credentials (a : Authority) : List Char :=
  if a.username = [] ∧ a.password = [] then []
  else a.username ++ (if a.password = [] then [] else ':' :: a.password) ++ ['@']

/-- The written form of an authority. -/
def render (a : Authority) : List Char :=
  a.credentials ++ a.host.render ++
    (match a.port with
      | none => []
      | some p => ':' :: Numeral.digits p.toNat)

end Authority

/-- An absolute URL. -/
structure Url where
  scheme : List Char
  authority : Option Authority
  path : List Char
  query : Option (List Char)
  fragment : Option (List Char)
  deriving DecidableEq, Repr

namespace Url

/-- The part of a URL between scheme and query. -/
def hierarchy (u : Url) : List Char :=
  match u.authority with
  | some a => "//".toList ++ a.render ++ u.path
  | none => if "//".toList.isPrefixOf u.path then "/.".toList ++ u.path else u.path

/-- A part that follows a mark, if it is there. -/
def marked (mark : Char) : Option (List Char) → List Char
  | none => []
  | some cs => mark :: cs

/-- The text of a URL. -/
def toText (u : Url) : List Char :=
  u.scheme ++ ':' :: u.hierarchy ++ marked '?' u.query ++ marked '#' u.fragment

/-- The text of a URL. -/
def render (u : Url) : String := String.ofList u.toText

/-- The path and query of a URL, as a request names them. -/
def requestTarget (u : Url) : List Char := u.path ++ marked '?' u.query

/-- A URL without a user name and password. -/
def withoutCredentials (u : Url) : Url :=
  { u with authority := u.authority.map fun a => { a with username := [], password := [] } }

/-- The port that a URL leads to. -/
def port? (u : Url) : Option UInt16 :=
  match u.authority.bind (·.port) with
  | some p => some p
  | none => SchemeKind.defaultPort? u.scheme

/-- The host of a URL, as it is written. -/
def hostText? (u : Url) : Option String := u.authority.map fun a => String.ofList a.host.render

end Url
end ServiceReadiness
