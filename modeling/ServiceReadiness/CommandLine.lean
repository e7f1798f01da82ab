/-
# The command line

What a command line can ask for, and why it may be turned down.  Turning down
includes showing a help text or the version, which is no error.
-/

import ServiceReadiness.WaitRequest

namespace ServiceReadiness

/-- The shells for which there are completion scripts. -/
inductive Shell where
  | bash
  | elvish
  | fish
  | powershell
  | zsh
  deriving DecidableEq, Repr

namespace Shell

/-- All shells. -/
def all : List Shell := [bash, elvish, fish, powershell, zsh]

/-- The name of a shell. -/
def name : Shell → String
  | bash => "bash"
  | elvish => "elvish"
  | fish => "fish"
  | powershell => "powershell"
  | zsh => "zsh"

/-- The shell of a name. -/
def ofName? (name : String) : Option Shell := all.find? (·.name == name)

theorem ofName?_name (s : Shell) : ofName? s.name = some s := by cases s <;> rfl

end Shell

/-- What is to be done. -/
inductive Command where
  | wait (request : WaitRequest)
  /-- Run a program with its arguments, for so many seconds at most. -/
  | run (time : Int64) (argv : List String)
  | completion (shell : Shell)
  deriving DecidableEq, Repr

/-- A command line that can be followed. -/
structure CommandLine where
  command : Command
  /-- Log in JSON. -/
  logJson : Bool
  deriving DecidableEq, Repr

/-- Why a command line is turned down. -/
inductive UsageFault where
  | displayHelp
  | displayVersion
  /-- Nothing at all was asked for. -/
  | nothingGiven
  | missingSubcommand
  | invalidSubcommand
  | unknownArgument
  /-- A value is missing, or is none of those allowed. -/
  | invalidValue
  /-- A value cannot be read. -/
  | valueValidation
  /-- A value is given to what takes none. -/
  | tooManyValues
  | missingRequiredArgument
  /-- What may be given once is given again. -/
  | argumentConflict
  deriving DecidableEq, Repr

/-- The exit code of a program that turns down its command line: showing a text
that was asked for is a success. -/
def UsageFault.exitCode : UsageFault → UInt8
  | displayHelp | displayVersion => 0
  | _ => 2

end ServiceReadiness
