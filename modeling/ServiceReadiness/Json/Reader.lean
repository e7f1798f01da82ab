/-
# Reading JSON

A value is read from the front of a text, with blanks before it, and the rest is
handed on.  A text that ends too early is told apart from one that holds something
out of place.
-/

import ServiceReadiness.Json

namespace ServiceReadiness
namespace Json
namespace Reader

/-- A blank between the parts of a value. -/
def isBlank (c : Char) : Bool := c == ' ' || c == '\n' || c == '\r' || c == '\t'

/-- A text without the blanks in front. -/
def skip (cs : List Char) : List Char := cs.dropWhile isBlank

/-- What follows a word that must stand in front. -/
def word : (expected : List Char) → List Char → Except Fault (List Char)
  | [], rest => .ok rest
  | _ :: _, [] => .error .cutShort
  | e :: expected, c :: rest => if e = c then word expected rest else .error .misplaced

/-- The digits in front, at least one, and what follows them. -/
def digits (cs : List Char) : Except Fault (List Char × List Char) :=
  match cs.span Char.isDigit with
  | ([], []) => .error .cutShort
  | ([], _) => .error .misplaced
  | found => .ok found

/-- The whole part of a number in front: a zero alone, or digits that begin with
another. -/
def whole : List Char → Except Fault (List Char × List Char)
  | '0' :: rest => .ok (['0'], rest)
  | cs => digits cs

/-- The decimal places in front, if there are any. -/
def places : List Char → Except Fault (List Char × List Char)
  | '.' :: rest => do
    let (found, rest) ← digits rest
    return ('.' :: found, rest)
  | cs => .ok ([], cs)

/-- The exponent in front, if there is one. -/
def exponent : List Char → Except Fault (List Char × List Char)
  | e :: rest =>
    if e = 'e' ∨ e = 'E' then
      match rest with
      | sign :: more =>
        if sign = '+' ∨ sign = '-' then do
          let (found, rest) ← digits more
          return (e :: sign :: found, rest)
        else do
          let (found, rest) ← digits rest
          return (e :: found, rest)
      | [] => .error .cutShort
    else .ok ([], e :: rest)
  | [] => .ok ([], [])

/-- The number without a sign in front, and what follows it. -/
def unsigned (cs : List Char) : Except Fault (List Char × List Char) := do
  let (a, rest) ← whole cs
  let (b, rest) ← places rest
  let (c, rest) ← exponent rest
  return (a ++ b ++ c, rest)

/-- The number in front, and what follows it. -/
def number : List Char → Except Fault (List Char × List Char)
  | '-' :: rest => do
    let (written, rest) ← unsigned rest
    return ('-' :: written, rest)
  | cs => unsigned cs

/-- What stands before a colon: the name of a field. -/
def name (cs : List Char) : Except Fault (List Char × List Char) :=
  match skip cs with
  | [] => .error .cutShort
  | '"' :: rest => do
    let (found, rest) ← Quoted.decode none rest
    match skip rest with
    | [] => .error .cutShort
    | ':' :: rest => return (found, rest)
    | _ => .error .misplaced
  | _ => .error .misplaced

mutual

/-- The value in front, and what follows it. -/
def value : (allowance : Nat) → List Char → Except Fault (Json × List Char)
  | 0, _ => .error .cutShort
  | allowance + 1, cs =>
    match skip cs with
    | [] => .error .cutShort
    | 'n' :: rest => do return (null, ← word "ull".toList rest)
    | 't' :: rest => do return (bool true, ← word "rue".toList rest)
    | 'f' :: rest => do return (bool false, ← word "alse".toList rest)
    | '"' :: rest => do
      let (found, rest) ← Quoted.decode none rest
      return (text found, rest)
    | '[' :: rest =>
      match skip rest with
      | ']' :: rest => .ok (array [], rest)
      | rest => do
        let (items, rest) ← itemsFrom allowance rest
        return (array items, rest)
    | '\x7b' :: rest =>
      match skip rest with
      | '\x7d' :: rest => .ok (object [], rest)
      | rest => do
        let (fields, rest) ← fieldsFrom allowance rest
        return (object fields, rest)
    | c :: rest =>
      if c = '-' ∨ c.isDigit = true then do
        let (written, rest) ← number (c :: rest)
        return (Json.number written, rest)
      else .error .misplaced

/-- The items in front, at least one, up to the end of their array. -/
def itemsFrom : (allowance : Nat) → List Char → Except Fault (List Json × List Char)
  | 0, _ => .error .cutShort
  | allowance + 1, cs => do
    let (item, rest) ← value allowance cs
    match skip rest with
    | [] => .error .cutShort
    | ']' :: rest => return ([item], rest)
    | ',' :: rest => do
      let (items, rest) ← itemsFrom allowance rest
      return (item :: items, rest)
    | _ => .error .misplaced

/-- The fields in front, at least one, up to the end of their object. -/
def fieldsFrom :
    (allowance : Nat) → List Char → Except Fault (List (List Char × Json) × List Char)
  | 0, _ => .error .cutShort
  | allowance + 1, cs => do
    let (name, rest) ← name cs
    let (found, rest) ← value allowance rest
    match skip rest with
    | [] => .error .cutShort
    | '\x7d' :: rest => return ([(name, found)], rest)
    | ',' :: rest => do
      let (fields, rest) ← fieldsFrom allowance rest
      return ((name, found) :: fields, rest)
    | _ => .error .misplaced

end

end Reader

/-- The value that a whole text spells.  Every step into a value and every step
along one takes a character, so two steps for each are enough. -/
def parse (cs : List Char) : Except Fault Json := do
  let (found, rest) ← Reader.value (2 * cs.length + 1) cs
  if Reader.skip rest = [] then .ok found else .error .misplaced

/-- The compact text of a value reads back, and a comma promises another item. -/
example :
    ((parse " [1, -2.5e3 ,\"x\" , [ ] , null]".toList).map render).toOption =
        some "[1,-2.5e3,\"x\",[],null]".toList ∧
      ((parse "[1,]".toList).map render).toOption = none := by
  constructor <;> decide +kernel

end Json
end ServiceReadiness
