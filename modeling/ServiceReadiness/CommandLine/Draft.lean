/-
# Putting a command together

The pieces of a subcommand are entered one by one: what may be given once must not
be given again, and a value must be readable.  At the end, what needs company must
have it: a method and a status need a URL, a container that is kept needs a
container, and a wait needs a URL or a port.
-/

import ServiceReadiness.CommandLine.Token

namespace ServiceReadiness
namespace CommandLine

/-- What has been given of a subcommand so far. -/
structure Draft where
  url : Option String := none
  method : Option String := none
  status : Option String := none
  tcpHost : Option String := none
  tcpPorts : List UInt16 := []
  time : Option Int64 := none
  container : Option String := none
  shell : Option Shell := none
  keep : Bool := false
  json : Bool := false
  logJson : Bool := false
  deriving DecidableEq, Repr

namespace Draft

/-- A value for what has none yet. -/
def once {α : Type} (given : Option α) (value : α) : Except UsageFault (Option α) :=
  match given with
  | none => .ok (some value)
  | some _ => .error .argumentConflict

/-- A switch that is not on yet. -/
def turnOn (given : Bool) : Except UsageFault Bool :=
  if given then .error .argumentConflict else .ok true

/-- A number of 64 bits with a sign. -/
def readNumber (cs : List Char) : Except UsageFault Int :=
  (Numeral.readSigned Numeral.maxSigned cs).mapError fun _ => .valueValidation

/-- The seconds that a text spells. -/
def readTime (text : String) : Except UsageFault Int64 := do
  return Int64.ofInt (← readNumber text.toList)

/-- The port that a text spells. -/
def readPort (cs : List Char) : Except UsageFault UInt16 := do
  let n ← readNumber cs
  if 0 ≤ n ∧ n ≤ 65535 then .ok (UInt16.ofNat n.toNat) else .error .valueValidation

/-- The ports that a text spells, with commas between them. -/
def readPorts (text : String) : Except UsageFault (List UInt16) :=
  (text.toList.splitOn ',').mapM readPort

/-- The shell that a text names. -/
def readShell (text : String) : Except UsageFault Shell :=
  match Shell.ofName? text with
  | some shell => .ok shell
  | none => .error .invalidValue

/-- Enters the value of a setting. -/
def set (d : Draft) (value : String) : Setting → Except UsageFault Draft
  | .url => return { d with url := ← once d.url value }
  | .method => return { d with method := ← once d.method value }
  | .status => return { d with status := ← once d.status value }
  | .tcpHost => return { d with tcpHost := ← once d.tcpHost value }
  | .tcpPort => return { d with tcpPorts := d.tcpPorts ++ (← readPorts value) }
  | .container => return { d with container := ← once d.container value }
  | .time =>
    if d.time.isSome then .error .argumentConflict else return { d with time := ← readTime value }
  | .shell =>
    if d.shell.isSome then .error .argumentConflict
    else return { d with shell := ← readShell value }

/-- Enters a switch. -/
def switch (d : Draft) : Switch → Except UsageFault Draft
  | .keep => return { d with keep := ← turnOn d.keep }
  | .json => return { d with json := ← turnOn d.json }
  | .logJson => return { d with logJson := ← turnOn d.logJson }

/-- Enters a piece. -/
def enter (d : Draft) : Item → Except UsageFault Draft
  | .setting s value | .apart s (some value) => d.set value s
  | .apart _ none => .error .invalidValue
  | .switch w => d.switch w

/-- Enters pieces in order. -/
def enterAll : Draft → List Item → Except UsageFault Draft
  | d, [] => .ok d
  | d, item :: items => do enterAll (← d.enter item) items

/-- A draft of a wait has all that it needs. -/
def waitComplete (d : Draft) : Bool :=
  (d.url.isSome || d.tcpPorts != []) &&
    (d.url.isSome || (d.method.isNone && d.status.isNone)) &&
    (d.container.isSome || !d.keep)

/-- The wait that a draft asks for. -/
def request (d : Draft) : WaitRequest :=
  let standard : WaitRequest := {}
  { url := d.url, method := d.method, status := d.status
    tcpHost := d.tcpHost.getD standard.tcpHost, tcpPorts := d.tcpPorts
    time := d.time.getD standard.time, container := d.container, keep := d.keep, json := d.json }

/-- The command that a draft and what follows the terminator ask for. -/
def command (d : Draft) (trailing : List String) : Subcommand → Except UsageFault Command
  | .wait => if d.waitComplete then .ok (.wait d.request) else .error .missingRequiredArgument
  | .run =>
    if trailing = [] then .error .missingRequiredArgument
    else .ok (.run (d.time.getD 0) trailing)
  | .completion =>
    match d.shell with
    | some shell => .ok (.completion shell)
    | none => .error .missingRequiredArgument

end Draft

/-- The command line that a scan of a subcommand gives. -/
def Subcommand.conclude (c : Subcommand) (s : Scan) : Except UsageFault CommandLine := do
  let draft ← Draft.enterAll {} s.items
  match s.finish with
  | .complete trailing => return { command := ← draft.command trailing c, logJson := draft.logJson }
  | .help => .error .displayHelp
  | .turnedDown fault => .error fault

/-- The command line that the arguments of a subcommand give. -/
def Subcommand.parse (c : Subcommand) (args : List String) : Except UsageFault CommandLine :=
  c.conclude (c.scan args)

end CommandLine
end ServiceReadiness
