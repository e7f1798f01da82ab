/-
# Tokens of a command line

Every argument is a token of one of four shapes.  Within a subcommand, the tokens
give its items in order: settings with their values, and switches.  A value is
attached by `=` or is the next argument, if that looks like a value.

A setting whose value stands apart is only looked into when something that is
known follows, or the end; if what follows is turned down, so is the command line,
whatever the value may be.
-/

import ServiceReadiness.CommandLine

namespace ServiceReadiness
namespace CommandLine

/-- The shape of an argument. -/
inductive Token where
  /-- The argument `--`. -/
  | terminator
  /-- A name after `--`, and what follows the first `=` after it. -/
  | long (name : List Char) (value : Option (List Char))
  /-- One or more letters after `-`. -/
  | short (first : Char) (more : List Char)
  | plain
  deriving DecidableEq, Repr

/-- A name, and what follows the first `=` after it. -/
def splitValue (cs : List Char) : List Char × Option (List Char) :=
  match cs.span (· != '=') with
  | (name, '=' :: value) => (name, some value)
  | (name, _) => (name, none)

/-- The shape of an argument. -/
def Token.ofChars : List Char → Token
  | ['-', '-'] => terminator
  | '-' :: '-' :: rest =>
    let (name, value) := splitValue rest
    long name value
  | '-' :: first :: more => short first more
  | _ => plain

/-- The commands that can be given. -/
inductive Subcommand where
  | wait
  | run
  | completion
  deriving DecidableEq, Repr

namespace Subcommand

/-- All subcommands. -/
def all : List Subcommand := [wait, run, completion]

/-- The name of a subcommand. -/
def name : Subcommand → String
  | wait => "wait"
  | run => "run"
  | completion => "completion"

/-- The subcommand of a name. -/
def ofName? (name : String) : Option Subcommand := all.find? (·.name == name)

end Subcommand

/-- What takes a value. -/
inductive Setting where
  | url
  | method
  | status
  | tcpHost
  | tcpPort
  | time
  | container
  | shell
  deriving DecidableEq, Repr

/-- The name of a setting. -/
def Setting.name : Setting → String
  | url => "url"
  | method => "method"
  | status => "status"
  | tcpHost => "tcp-host"
  | tcpPort => "tcp-port"
  | time => "time"
  | container => "container"
  | shell => "shell"

/-- What is given or not. -/
inductive Switch where
  | keep
  | json
  | logJson
  deriving DecidableEq, Repr

/-- The name of a switch. -/
def Switch.name : Switch → String
  | keep => "keep"
  | json => "json"
  | logJson => "log-json"

namespace Subcommand

/-- The settings of a subcommand. -/
def settings : Subcommand → List Setting
  | wait => [.url, .method, .status, .tcpHost, .tcpPort, .time, .container]
  | run => [.time]
  | completion => [.shell]

/-- The switches of a subcommand. -/
def switches : Subcommand → List Switch
  | wait => [.keep, .json, .logJson]
  | _ => [.logJson]

end Subcommand

/-- What a name after `--` stands for. -/
inductive Known where
  | setting (s : Setting)
  | switch (w : Switch)
  | help
  deriving DecidableEq, Repr

/-- What a name stands for within a subcommand. -/
def Subcommand.known? (c : Subcommand) (name : List Char) : Option Known :=
  match c.settings.find? (·.name.toList == name) with
  | some s => some (.setting s)
  | none =>
    match c.switches.find? (·.name.toList == name) with
    | some w => some (.switch w)
    | none => if name = "help".toList then some .help else none

/-- A piece of a subcommand. -/
inductive Item where
  | setting (s : Setting) (value : String)
  /-- A setting whose value stands apart, if there is one. -/
  | apart (s : Setting) (value : Option String)
  | switch (w : Switch)
  deriving DecidableEq, Repr

/-- How the pieces of a subcommand end. -/
inductive Finish where
  /-- All arguments are used up; these follow the terminator. -/
  | complete (trailing : List String)
  /-- The help text is asked for. -/
  | help
  /-- An argument is turned down. -/
  | turnedDown (fault : UsageFault)
  deriving DecidableEq, Repr

/-- The pieces of a subcommand and how they end. -/
structure Scan where
  items : List Item
  finish : Finish
  deriving DecidableEq, Repr

/-- A scan with a piece in front.  A value that stands apart right before an
argument that is turned down is never looked into. -/
def Scan.cons (item : Item) (s : Scan) : Scan :=
  match item, s with
  | .apart .., ⟨[], .turnedDown fault⟩ => ⟨[], .turnedDown fault⟩
  | _, _ => { s with items := item :: s.items }

/-- A mark or digit at its place in a decimal number: digits, one point that is not
in front, one `e` that is not in front, and no point after it. -/
def decimalFrom : (first pointed powered : Bool) → List Char → Bool
  | _, _, _, [] => true
  | first, pointed, powered, c :: rest =>
    if c.isDigit then decimalFrom false pointed powered rest
    else if c = '.' then !first && !pointed && !powered && decimalFrom false true powered rest
    else if c = 'e' ∨ c = 'E' then
      !first && !powered && rest != [] && decimalFrom false pointed true rest
    else false

/-- An argument that looks like a negative number. -/
def isNegativeNumber : List Char → Bool
  | '-' :: digits => digits != [] && decimalFrom true false false digits
  | _ => false

/-- An argument that is taken for the value of a setting. -/
def isValueOf (s : Setting) (arg : List Char) : Bool :=
  Token.ofChars arg == .plain || (s == .time && isNegativeNumber arg)

/-- How the pieces of a subcommand end at the terminator: only one of them takes
what follows it. -/
def Subcommand.afterTerminator (c : Subcommand) (trailing : List String) : Scan :=
  if c = .run ∨ trailing = [] then ⟨[], .complete trailing⟩
  else ⟨[], .turnedDown .unknownArgument⟩

/-- The pieces that the arguments of a subcommand give. -/
def Subcommand.scan (c : Subcommand) : List String → Scan
  | [] => ⟨[], .complete []⟩
  | arg :: rest =>
    match Token.ofChars arg.toList with
    | .terminator => c.afterTerminator rest
    | .plain => ⟨[], .turnedDown .unknownArgument⟩
    | .short first _ => if first = 'h' then ⟨[], .help⟩ else ⟨[], .turnedDown .unknownArgument⟩
    | .long name value =>
      match c.known? name, value with
      | none, _ => ⟨[], .turnedDown .unknownArgument⟩
      | some (.setting s), some value => (c.scan rest).cons (.setting s (String.ofList value))
      | some (.setting s), none =>
        match rest with
        | [] => (c.scan []).cons (.apart s none)
        | next :: rest =>
          if isValueOf s next.toList then (c.scan rest).cons (.apart s (some next))
          else (c.scan (next :: rest)).cons (.apart s none)
      | some (.switch w), none => (c.scan rest).cons (.switch w)
      | some .help, none => ⟨[], .help⟩
      | some _, some _ => ⟨[], .turnedDown .tooManyValues⟩

/-- Attached and detached values, and one that is never looked into. -/
example :
    Subcommand.wait.scan ["--url=a=b", "--time", "-5", "--keep"] =
        ⟨[.setting .url "a=b", .apart .time (some "-5"), .switch .keep], .complete []⟩ ∧
      Subcommand.wait.scan ["--tcp-port", "x", "--bogus"] =
        ⟨[], .turnedDown .unknownArgument⟩ := by
  constructor <;> decide +kernel

end CommandLine
end ServiceReadiness
