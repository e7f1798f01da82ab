/-
# Reading a command line

Before the name of the subcommand there may be a switch that holds for every
subcommand, and requests for the help text or the version.  The help text may also
be asked for by a subcommand of its own, with the name of another after it.
-/

import ServiceReadiness.CommandLine.Draft

namespace ServiceReadiness
namespace CommandLine

/-- The name of the subcommand that shows help texts. -/
def helpName : String := "help"

/-- A name can be given as a subcommand. -/
def isSubcommandName (name : String) : Bool :=
  (Subcommand.ofName? name).isSome || name == helpName

/-- What comes of asking for the help text of what is named: the subcommands have
none of their own. -/
def helpFor : List String → UsageFault
  | [] => .displayHelp
  | [name] => if isSubcommandName name then .displayHelp else .invalidSubcommand
  | _ => .invalidSubcommand

/-- What comes of a command line without a subcommand. -/
def withoutSubcommand (logJson : Bool) : UsageFault :=
  if logJson then .missingSubcommand else .nothingGiven

/-- What comes of the arguments after a terminator in front of the subcommand. -/
def afterTerminator (logJson : Bool) : List String → UsageFault
  | [] => withoutSubcommand logJson
  | arg :: _ => if isSubcommandName arg then .unknownArgument else .invalidSubcommand

/-- What comes of a text that is asked for, with a value or without. -/
def shown (fault : UsageFault) (value : Option (List Char)) : UsageFault :=
  if value.isSome then .tooManyValues else fault

/-- What comes of letters after `-` in front of the subcommand. -/
def shortFault (first : Char) : UsageFault :=
  if first = 'h' then .displayHelp else if first = 'V' then .displayVersion else .unknownArgument

/-- What comes of a name after `--` in front of the subcommand, other than the
switch. -/
def longFault (name : List Char) (value : Option (List Char)) : UsageFault :=
  if name = "help".toList then shown .displayHelp value
  else if name = "version".toList then shown .displayVersion value
  else .unknownArgument

/-- The command line that arguments give, after `logJson` was given or not. -/
def parseFrom (logJson : Bool) : List String → Except UsageFault CommandLine
  | [] => .error (withoutSubcommand logJson)
  | arg :: rest =>
    match Token.ofChars arg.toList with
    | .terminator => .error (afterTerminator logJson rest)
    | .short first _ => .error (shortFault first)
    | .long name value =>
      if name = Switch.logJson.name.toList then
        if value.isSome then .error .tooManyValues
        else if logJson then .error .argumentConflict
        else parseFrom true rest
      else .error (longFault name value)
    | .plain =>
      match Subcommand.ofName? arg with
      | some c => (c.parse rest).map fun l => { l with logJson := logJson || l.logJson }
      | none => .error (if arg = helpName then helpFor rest else .invalidSubcommand)

/-- The command line that arguments give. -/
def parse (args : List String) : Except UsageFault CommandLine := parseFrom false args

/-- A wait for a port, and a program with options of its own. -/
example :
    (parse ["wait", "--tcp-port=80,443", "--log-json"]).toOption =
        some ⟨.wait { tcpPorts := [80, 443] }, true⟩ ∧
      (parse ["run", "--time=3", "--", "sleep", "--help"]).toOption =
        some ⟨.run 3 ["sleep", "--help"], false⟩ := by
  constructor <;> decide +kernel

end CommandLine
end ServiceReadiness
