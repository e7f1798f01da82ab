/-
# JSON

JSON values and their compact text.  A number is kept as it is written, and an
object keeps its fields in order, also those of one name.
-/

import ServiceReadiness.Json.Quoted

namespace ServiceReadiness

/-- A JSON value. -/
inductive Json where
  | null
  | bool (value : Bool)
  | number (written : List Char)
  | text (value : List Char)
  | array (items : List Json)
  | object (fields : List (List Char × Json))

namespace Json

mutual

/-- The compact text of a value. -/
def render : Json → List Char
  | null => "null".toList
  | bool true => "true".toList
  | bool false => "false".toList
  | number written => written
  | text value => Quoted.encode value
  | array [] => "[]".toList
  | array (item :: items) => '[' :: item.render ++ renderItems items
  | object [] => "\x7b\x7d".toList
  | object ((name, value) :: fields) =>
    '\x7b' :: Quoted.encode name ++ ':' :: value.render ++ renderFields fields

/-- The text of the items after the first, up to the end of the array. -/
def renderItems : List Json → List Char
  | [] => [']']
  | item :: items => ',' :: item.render ++ renderItems items

/-- The text of the fields after the first, up to the end of the object. -/
def renderFields : List (List Char × Json) → List Char
  | [] => ['\x7d']
  | (name, value) :: fields =>
    ',' :: Quoted.encode name ++ ':' :: value.render ++ renderFields fields

end

/-- The values of a field of an object, in order. -/
def values (name : String) : Json → List Json
  | object fields => (fields.filter (·.1 = name.toList)).map (·.2)
  | _ => []

/-- The integer that a number spells in decimal digits alone. -/
def integer? : Json → Option Int
  | number ('-' :: digits) =>
    (Numeral.readDigits (Numeral.maxSigned + 1) 0 digits).toOption.map fun n => -(n : Int)
  | number digits => (Numeral.readDigits Numeral.maxUnsigned 0 digits).toOption.map Int.ofNat
  | _ => none

end Json
end ServiceReadiness
