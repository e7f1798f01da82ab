/-
# Filtering the log

A filter is written as directives between commas: a level, a target, or a target
with a level.  Of the directives whose target begins the path of a speaker, the one
with the longest target decides; of two with the same target, the later one.
-/

import ServiceReadiness.Log
import ServiceReadiness.Text.Blank

namespace ServiceReadiness

/-- A directive: the lines of speakers below a target that are shown are those from
a level on, or none. -/
structure LogDirective where
  target : List Char
  level : Option Level
  deriving DecidableEq, Repr

namespace LogDirective

/-- The levels by their names and numbers; the first shows nothing. -/
def levels : List (String × String × Option Level) :=
  [("off", "0", none), ("error", "1", some .error), ("warn", "2", some .warn),
    ("info", "3", some .info), ("debug", "4", some .debug), ("trace", "5", some .trace)]

/-- The level that a word names, in any case of its letters, or by its number. -/
def level? (word : List Char) : Option (Option Level) :=
  (levels.find? fun (name, number, _) =>
    name.toList == word.map Char.toLower || number.toList == word).map fun (_, _, level) => level

/-- A character with which a directive may begin. -/
def mayBegin (c : Char) : Bool := c.isAlphanum || c == '-' || c == ':' || c == '_'

/-- The directive that a text spells, which does not begin with a blank. -/
def read? (cs : List Char) : Option LogDirective :=
  if !(cs.head?.any mayBegin) then none
  else
    match cs.span (· != '=') with
    | (word, []) =>
      match level? word with
      | some level => some ⟨[], level⟩
      | none => some ⟨word, some .trace⟩
    | (target, _ :: []) => some ⟨target, some .trace⟩
    | (target, _ :: word) => (level? word).map (⟨target, ·⟩)

/-- A directive concerns a speaker. -/
def concerns (d : LogDirective) (s : Speaker) : Bool := d.target.isPrefixOf s.target.toList

/-- A directive shows lines of a level. -/
def shows (d : LogDirective) (l : Level) : Bool :=
  d.level.any fun least => least.severity ≤ l.severity

end LogDirective

/-- Directives in the order in which they are written. -/
structure LogFilter where
  directives : List LogDirective
  deriving DecidableEq, Repr

namespace LogFilter

/-- The filter that is used when none is asked for: what the program itself tells,
from `INFO` on. -/
def standard : LogFilter := ⟨[⟨"dockwait".toList, some .info⟩]⟩

/-- The filter of an empty text: errors of everyone. -/
def onlyErrors : LogFilter := ⟨[⟨[], some .error⟩]⟩

/-- The filter that a text spells. -/
def read? (text : String) : Option LogFilter :=
  match (text.toList.splitOn ',').filter (· != []) with
  | [] => some onlyErrors
  | parts => (parts.mapM fun part => LogDirective.read? (Blank.trim part)).map (⟨·⟩)

/-- The filter that is asked for, `standard` if none is or it cannot be read. -/
def choose (written : Option String) : LogFilter := (written.bind read?).getD standard

/-- The better of two directives, of which the second is the later one. -/
def better (a b : LogDirective) : LogDirective := if a.target.length ≤ b.target.length then b else a

/-- The directive that decides about a speaker. -/
def deciding? (f : LogFilter) (s : Speaker) : Option LogDirective :=
  (f.directives.filter (·.concerns s)).foldl (fun best d => some (best.elim d (better · d))) none

/-- A line is shown. -/
def admits (f : LogFilter) (l : LogLine) : Bool :=
  match f.deciding? l.speaker with
  | some d => d.shows l.level
  | none => false

/-- The longer target decides. -/
example :
    (choose (some "warn,dockwait::wait=debug")).admits ⟨.debug, .tcpProbe, ""⟩ = true ∧
      (choose (some "warn,dockwait::wait=debug")).admits ⟨.info, .runCommand, ""⟩ = false ∧
      (choose none).admits ⟨.info, .runCommand, ""⟩ = true := by
  refine ⟨?_, ?_, ?_⟩ <;> decide +kernel

end LogFilter
end ServiceReadiness
