/-
# Methods

A method is a token: one or more of the ASCII letters, digits and the marks that
the protocol allows.  A method that someone writes is taken without the blanks
around it and in upper case; nothing at all stands for `HEAD`.
-/

import ServiceReadiness.Text.Blank
import ServiceReadiness.Text.Uppercase

namespace ServiceReadiness
namespace Http

/-- A character of a token. -/
def isTokenChar (c : Char) : Bool := c.isAlphanum || "!#$%&'*+-.^_`|~".toList.contains c

/-- A method: a token. -/
structure Method where
  token : List Char
  token_ne_nil : token ≠ []
  isToken : token.all isTokenChar = true
  deriving DecidableEq, Repr

namespace Method

/-- The method that a client uses when it is given none. -/
def standard : Method := ⟨"HEAD".toList, by decide, by decide⟩

/-- The name of a method. -/
def name (m : Method) : String := String.ofList m.token

/-- The method that is exactly a text, if the text is a token. -/
def ofToken? (cs : List Char) : Option Method :=
  if h : cs ≠ [] ∧ cs.all isTokenChar = true then some ⟨cs, h.1, h.2⟩ else none

theorem ofToken?_token (m : Method) : ofToken? m.token = some m := by
  simp [ofToken?, m.token_ne_nil, m.isToken]

/-- What is taken for a method that someone wrote: the text without blanks, in
upper case. -/
def normalize (cs : List Char) : List Char := Uppercase.upcase (Blank.trim cs)

/-- The method that someone wrote, or the text that is no token. -/
def read (cs : List Char) : Except String Method :=
  if Blank.trim cs = [] then .ok standard
  else
    match ofToken? (normalize cs) with
    | some m => .ok m
    | none => .error (String.ofList (normalize cs))

/-- The method that was asked for, `standard` if none was. -/
def choose (written : Option String) : Except String Method :=
  match written with
  | none => .ok standard
  | some text => read text.toList

end Method
end Http
end ServiceReadiness
