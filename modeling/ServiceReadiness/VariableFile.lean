/-
# Files of variables

A file may hold variables, one assignment a line, that are set unless they are set
already.  A value may be quoted: between single quotes everything stands for
itself; between double quotes a backslash escapes, and so it does outside quotes;
and a dollar sign stands for the value of another variable except between single
quotes.  A quoted value may go on over several lines.  At the first line that
cannot be read, the rest of the file is left alone.
-/

import ServiceReadiness.Settings

namespace ServiceReadiness

/-- The variables of a process, by name; the first of a name counts. -/
abbrev Variables := List (String × ByteArray)

namespace Variables

/-- The text of a variable, if it is set and is text. -/
def text? (vars : Variables) (name : String) : Option String :=
  (vars.lookup name).bind String.fromUTF8?

/-- The variables that hold settings. -/
def environment (vars : Variables) : Environment := fun v => vars.lookup v.name

/-- Sets a variable, unless it is set to a text already. -/
def provide (vars : Variables) (name value : String) : Variables :=
  if (vars.text? name).isSome then vars else (name, value.toUTF8) :: vars

end Variables

namespace VariableFile

/-! ## Lines -/

/-- What is open at some place of a line. -/
inductive Openness where
  | nothing
  | escape
  | single
  | singleEscape
  | double
  | doubleEscape
  /-- A blank, after which a comment may begin. -/
  | blank
  | comment
  deriving DecidableEq, Repr

/-- What is open after a character outside quotes. -/
def Openness.outside (c : Char) : Openness :=
  if c = '\\' then escape else if c = '"' then double else if c = '\'' then single else nothing

/-- What is open after a character. -/
def Openness.step (c : Char) : Openness → Openness
  | nothing => if Blank.isBlank c ∧ c ≠ '\n' ∧ c ≠ '\r' then blank else outside c
  | blank => if c = '#' then comment else outside c
  | escape => nothing
  | double => if c = '\\' then doubleEscape else if c = '"' then nothing else double
  | doubleEscape => double
  | single => if c = '\\' then singleEscape else if c = '\'' then nothing else single
  | singleEscape => single
  | comment => comment

/-- What is open at the end of a line, and the line before a comment. -/
def scanLine : (openness : Openness) → List Char → List Char × Openness
  | openness, [] => ([], openness)
  | openness, c :: rest =>
    match openness.step c with
    | .comment => ([], .comment)
    | next =>
      let (kept, last) := scanLine next rest
      (c :: kept, last)

/-- The lines of a text, each with its line break. -/
def physicalLines : List Char → List (List Char)
  | [] => []
  | c :: rest =>
    if c = '\n' then [c] :: physicalLines rest
    else
      match physicalLines rest with
      | [] => [[c]]
      | line :: more => (c :: line) :: more

/-- A line without its line break. -/
def chomp (line : List Char) : List Char :=
  match line.reverse with
  | '\n' :: '\r' :: before => before.reverse
  | '\n' :: before => before.reverse
  | _ => line

/-- Lines joined where something is still open at the end of one; nothing where the
text ends with something open. -/
def logicalLines : (held : List Char) → (openness : Openness) → List (List Char) →
    List (Option (List Char))
  | _, openness, [] => if openness = .nothing then [] else [none]
  | held, openness, line :: rest =>
    if ((held ++ line).dropWhile Blank.isBlank).head? = some '#' then
      some [] :: logicalLines [] .nothing rest
    else
      match scanLine openness line with
      | (kept, .comment) => some (held ++ kept) :: logicalLines [] .nothing rest
      | (_, .nothing) => some (chomp (held ++ line)) :: logicalLines [] .nothing rest
      | (_, openness) => logicalLines (held ++ line) openness rest

/-! ## Values -/

/-- Where a value is being read. -/
inductive Mode where
  /-- Between double quotes or outside quotes. -/
  | plain (double : Bool)
  | single
  | escaped (double : Bool)
  /-- In the name of a variable, between braces or not. -/
  | name (braced : Bool) (sofar : List Char) (double : Bool)
  /-- After the value, where only a comment may stand. -/
  | ended
  deriving DecidableEq, Repr

/-- The character that an escaped one stands for. -/
def escaped? (c : Char) : Option Char :=
  if c = 'n' then some '\n'
  else if "\\'\"$ ".toList.contains c then some c
  else none

/-- The value that a text spells, with the values of variables filled in. -/
def readValue (lookup : List Char → List Char) : Mode → List Char → Option (List Char)
  | .ended, [] => some []
  | .ended, c :: rest =>
    if c = ' ' ∨ c = '\t' then readValue lookup .ended rest else if c = '#' then some [] else none
  | .escaped double, [] => if double then none else some []
  | .escaped double, c :: rest => do
    let c ← escaped? c
    return c :: (← readValue lookup (.plain double) rest)
  | .single, [] => none
  | .single, c :: rest =>
    if c = '\'' then readValue lookup (.plain false) rest
    else (readValue lookup .single rest).map (c :: ·)
  | .name braced sofar double, [] => if braced || double then none else some (lookup sofar)
  | .name true sofar double, c :: rest =>
    if c = '\x7d' then (readValue lookup (.plain double) rest).map (lookup sofar ++ ·)
    else readValue lookup (.name true (sofar ++ [c]) double) rest
  | .name false sofar double, c :: rest =>
    if c.isAlphanum then readValue lookup (.name false (sofar ++ [c]) double) rest
    else if c = '\x7b' ∧ sofar = [] then readValue lookup (.name true [] double) rest
    else if c = '$' then (readValue lookup (.name false [] double) rest).map (lookup sofar ++ ·)
    else (readValue lookup (.plain double) rest).map (lookup sofar ++ c :: ·)
  | .plain double, [] => if double then none else some []
  | .plain true, c :: rest =>
    if c = '$' then readValue lookup (.name false [] true) rest
    else if c = '"' then readValue lookup (.plain false) rest
    else if c = '\\' then readValue lookup (.escaped true) rest
    else (readValue lookup (.plain true) rest).map (c :: ·)
  | .plain false, c :: rest =>
    if c = '$' then readValue lookup (.name false [] false) rest
    else if c = '\'' then readValue lookup .single rest
    else if c = '"' then readValue lookup (.plain true) rest
    else if c = '\\' then readValue lookup (.escaped false) rest
    else if c = ' ' ∨ c = '\t' then readValue lookup .ended rest
    else (readValue lookup (.plain false) rest).map (c :: ·)

/-! ## Assignments -/

/-- A text without blanks in front. -/
def skip (cs : List Char) : List Char := cs.dropWhile Blank.isBlank

/-- The name in front, and what follows it and the blanks after it. -/
def readName : List Char → Option (List Char × List Char)
  | first :: rest =>
    if first.isAlpha || first == '_' then
      let (more, rest) := rest.span fun c => c.isAlphanum || c == '_' || c == '.'
      some (first :: more, skip rest)
    else none
  | [] => none

/-- The name in front of the equals sign, after the word `export` or without it, and
what follows the sign. -/
def readTarget (cs : List Char) : Option (List Char × List Char) :=
  match readName cs with
  | some (name, '=' :: rest) => some (name, skip rest)
  | some (word, rest) =>
    if word = "export".toList then
      match readName rest with
      | some (name, '=' :: rest) => some (name, skip rest)
      | _ => none
    else none
  | none => none

/-- What a line may hold. -/
inductive Line where
  | empty
  | assignment (name value : String)
  | unreadable
  deriving DecidableEq, Repr

/-- There is nothing, or only a comment. -/
def isVoid (cs : List Char) : Bool := cs.isEmpty || cs.head? == some '#'

/-- What a line holds. -/
def readLine (lookup : List Char → List Char) (line : List Char) : Line :=
  let content := Blank.trim line
  if isVoid content then .empty
  else
    match readTarget content with
    | none => .unreadable
    | some (name, rest) =>
      match (if isVoid rest then some [] else readValue lookup (.plain false) rest) with
      | none => .unreadable
      | some value => .assignment (String.ofList name) (String.ofList value)

/-- Provides the variables of lines in order, up to the first that cannot be read. -/
def provideLines : Variables → List (Option (List Char)) → Variables
  | vars, [] => vars
  | vars, none :: _ => vars
  | vars, some line :: rest =>
    match readLine (fun name => ((vars.text? (String.ofList name)).getD "").toList) line with
    | .empty => provideLines vars rest
    | .assignment name value => provideLines (vars.provide name value) rest
    | .unreadable => vars

/-- A text without the mark of its encoding in front. -/
def dropMark : List Char → List Char
  | '\uFEFF' :: rest => rest
  | cs => cs

/-- The variables of a process with those of a file. -/
def load (vars : Variables) (text : String) : Variables :=
  provideLines vars (logicalLines [] .nothing (physicalLines (dropMark text.toList)))

/-- A variable that is set stays as it is, and a value may name another variable. -/
example :
    let vars := load [("A", "1".toUTF8)] "A=2\nexport B = \"x\\n$\x7bA\x7d y\" # note\nC='$B'\n"
    (vars.text? "A", vars.text? "B", vars.text? "C") = (some "1", some "x\n1 y", some "$B") := by
  decide +kernel

end VariableFile
end ServiceReadiness
