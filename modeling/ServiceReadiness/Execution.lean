/-
# Running a command line

A command line is followed in the surroundings of a process: its variables, a file
of more of them, the network, the engine that runs containers, and the programs
that can be started.  The settings are looked at before anything outside is
touched.  A wait contacts the engine only for a container that it is to look after,
and gives up if no request can be made to it or it does not answer.  What is printed
is one line about a success, or nothing.
-/

import ServiceReadiness.BoundedWork
import ServiceReadiness.CommandLine.Parser
import ServiceReadiness.Container.Engine
import ServiceReadiness.Json.Quoted
import ServiceReadiness.LogFilter
import ServiceReadiness.ManagedWait
import ServiceReadiness.VariableFile

namespace ServiceReadiness

/-- How a program that was to be started ends. -/
inductive ChildEnd where
  | exited (code : Nat)
  /-- A signal ended it. -/
  | killed (signal : String)
  /-- It could not be started. -/
  | notStarted (reason : String)
  /-- It never ends. -/
  | never
  deriving DecidableEq, Repr

/-- A program that was to be started: how many milliseconds it takes, and its end. -/
structure Child where
  duration : Nat
  finish : ChildEnd
  deriving DecidableEq, Repr

namespace Child

/-- What is told of an exit that was no success. -/
def complaint (program status : String) : WorkError :=
  { root := "'" ++ program ++ "' exited with " ++ status }

/-- The last thing that a child does, as a unit of work, if it ends. -/
def finale? (program : String) : ChildEnd → Option Finale
  | .exited 0 => some .succeed
  | .exited code => some (.fail (complaint program ("exit status: " ++ Numeral.render code)))
  | .killed signal => some (.fail (complaint program ("signal: " ++ signal)))
  | .notStarted reason => some (.fail { root := reason })
  | .never => none

/-- A child as a unit of work that takes its course. -/
def course (program : String) (c : Child) : WorkRun :=
  match finale? program c.finish with
  | some finale => Work.run { sleeps := [c.duration], finale } none
  | none => ⟨[(0, .started)], 0, .unfinished⟩

end Child

/-- What surrounds a process. -/
structure Surroundings where
  /-- The variables that are set already. -/
  given : Variables
  /-- The file of variables, if there is one. -/
  file : Option String := none
  /-- The network in each round of a wait. -/
  networks : Nat → Network
  /-- What makes clients of the engine. -/
  client : EngineClient
  /-- The program that an argument list starts. -/
  child : List String → Child
  /-- The help text for arguments that ask for one. -/
  help : List String → String
  /-- The script that completes command lines in a shell. -/
  script : Shell → String

/-- What a process does to the world outside. -/
inductive Effect where
  /-- The engine at an address is contacted to see whether it answers. -/
  | ping (address : EngineAddress)
  | contact (contacted : Contacted)
  | spawn (argv : List String)
  deriving DecidableEq, Repr

/-- How a process ends: what it prints, what it complains about, and its exit
code. -/
structure Exit where
  output : String := ""
  complaint : Option String := none
  code : UInt8
  deriving DecidableEq, Repr

/-- A process that ran, with all that it did and logged, in order.  There is no exit
if it never ends. -/
structure Execution where
  effects : List Effect := []
  logs : List LogLine := []
  filter : LogFilter := .standard
  exit : Option Exit

namespace Execution

/-- The lines of the log that are shown. -/
def shownLogs (e : Execution) : List LogLine := e.logs.filter e.filter.admits

/-- An end with a complaint. -/
def failure (message : String) : Exit := { complaint := some ("Error: " ++ message), code := 1 }

/-- An end with a line. -/
def success (line : String) : Exit := { output := line ++ "\n", code := 0 }

@[simp]
theorem code_failure (message : String) : (failure message).code = 1 := rfl

@[simp]
theorem code_success (line : String) : (success line).code = 0 := rfl

/-- An execution that something came before. -/
def after (effects : List Effect) (logs : List LogLine) (e : Execution) : Execution :=
  { e with effects := effects ++ e.effects, logs := logs ++ e.logs }

/-! ## The wait command -/

/-- The line that a successful wait prints. -/
def reportLine (r : WaitRequest) (report : WaitReport) : String :=
  if r.json then report.render
  else "ready after " ++ Numeral.render report.elapsedMillis.toNat ++ " ms"

/-- The end of a wait. -/
def waitExit (r : WaitRequest) : Except ManagedFault WaitReport → Exit
  | .ok report => success (reportLine r report)
  | .error fault => failure fault.message

/-- The wait itself, with a daemon or without one. -/
def waitWith (allowance : Timing → Int → Nat) (behaviour : CheckBehaviour) (settings : Settings)
    (r : WaitRequest) (daemon : Option Daemon) : Execution :=
  let rounds := allowance settings.timing r.time.toInt
  let run := ManagedWait.runWithin rounds settings r daemon behaviour
  { effects := run.contacts.map .contact
    logs := run.logs
    exit := run.outcome.map (waitExit r) }

/-- The line that tells that a container is left alone. -/
def skipLine (id : String) : LogLine :=
  ⟨.info, .waitCommand, "Docker skipped, not starting container " ++ id⟩

/-- The wait command. -/
def wait (allowance : Timing → Int → Nat) (behaviour : CheckBehaviour) (s : Surroundings)
    (settings : Settings) (r : WaitRequest) : Execution :=
  match r.container with
  | none => waitWith allowance behaviour settings r none
  | some id =>
    if settings.docker.skip then
      after [] [skipLine id] (waitWith allowance behaviour settings r none)
    else
      match s.client.engine settings.docker with
      | .error fault => { exit := some (failure fault.message) }
      | .ok engine =>
        match engine.ping settings.docker.url with
        | .error fault =>
          { effects := [.ping engine.address], exit := some (failure fault.message) }
        | .ok () =>
          after [.ping engine.address] [Engine.connectedLine settings.docker.url]
            (waitWith allowance behaviour settings r (some engine.daemon))

/-! ## The run command -/

/-- A character of a quoted argument. -/
def quotedChar (c : Char) : List Char :=
  if c = '"' ∨ c = '\\' then ['\\', c]
  else if c = '\n' then ['\\', 'n']
  else if c = '\r' then ['\\', 'r']
  else if c = '\t' then ['\\', 't']
  else if c = '\x00' then ['\\', '0']
  else if c.toNat < 0x20 ∨ c.toNat = 0x7F then
    "\\u\x7b".toList ++
      (if 0x10 ≤ c.toNat then [Json.Quoted.hexDigit (c.toNat / 16)] else []) ++
      [Json.Quoted.hexDigit (c.toNat % 16), '\x7d']
  else [c]

/-- An argument between quotes, with its controls escaped. -/
def quoted (arg : String) : String :=
  String.ofList ('"' :: arg.toList.flatMap quotedChar ++ ['"'])

/-- The line that tells what is run. -/
def runLine (time : Int64) (argv : List String) : LogLine :=
  ⟨.debug, .runCommand,
    "Running [" ++ ", ".intercalate (argv.map quoted) ++ "] with a " ++
      Numeral.renderSigned time.toInt ++ " s limit"⟩

/-- The end of a program that was waited for, if it ever comes. -/
def runExit : Settlement → Option Exit
  | .elapsed time => some (success ("finished after " ++ Numeral.render time ++ " ms"))
  | .failed cause => some (failure cause.message)
  | .pending => none

/-- The run command. -/
def run (s : Surroundings) (time : Int64) (argv : List String) : Execution :=
  let program := argv.headD ""
  let bounded := BoundedWork.await ((s.child argv).course program) time.toInt 0
  { effects := [.spawn argv]
    logs := runLine time argv :: bounded.notes
    exit := runExit bounded.settlement }

/-! ## The whole command -/

/-- The program and its version. -/
def version : String := "dockwait 0.1.0"

/-- What is printed when arguments are turned down. -/
def shownText (s : Surroundings) (args : List String) : UsageFault → String
  | .displayHelp => s.help args
  | .displayVersion => version ++ "\n"
  | _ => ""

/-- The end of arguments that are turned down. -/
def turnedDown (s : Surroundings) (args : List String) (fault : UsageFault) : Exit :=
  { output := shownText s args fault, code := fault.exitCode }

/-- The variables of a process, those of the file included. -/
def allVariables (s : Surroundings) : Variables :=
  match s.file with
  | none => s.given
  | some text => VariableFile.load s.given text

/-- The completion command, which touches nothing. -/
def complete (s : Surroundings) (shell : Shell) : Execution :=
  { exit := some { output := s.script shell, code := 0 } }

/-- A command with its settings. -/
def perform (allowance : Timing → Int → Nat) (behaviour : CheckBehaviour) (s : Surroundings)
    (settings : Settings) : Command → Execution
  | .wait r => wait allowance behaviour s settings r
  | .run time argv => run s time argv
  | .completion shell => complete s shell

/-- A command other than a completion script, after the settings have been looked
at. -/
def configured (allowance : Timing → Int → Nat) (behaviour : CheckBehaviour) (s : Surroundings)
    (c : Command) : Execution :=
  let vars := allVariables s
  let filter := LogFilter.choose (vars.text? "RUST_LOG")
  match Settings.resolve vars.environment with
  | .error fault => { filter, exit := some (failure fault.message) }
  | .ok settings => { perform allowance behaviour s settings c with filter }

/-- A command line that can be followed. -/
def ofCommandLine (allowance : Timing → Int → Nat) (behaviour : CheckBehaviour)
    (s : Surroundings) (l : CommandLine) : Execution :=
  match l.command with
  | .completion shell => complete s shell
  | c => configured allowance behaviour s c

end Execution

/-- What comes of the arguments of a process in its surroundings, over checks that behave in a
certain way, if a wait may make as many rounds as its timing and bound allow. -/
def executeWithin (allowance : Timing → Int → Nat) (behaviour : CheckBehaviour)
    (s : Surroundings) (args : List String) : Execution :=
  match CommandLine.parse args with
  | .error fault => { exit := some (Execution.turnedDown s args fault) }
  | .ok l => Execution.ofCommandLine allowance behaviour s l

/-- What comes of the arguments of a process in its surroundings. -/
def execute (s : Surroundings) (args : List String) : Execution :=
  executeWithin Waiter.allowance (.ofNetworks s.networks) s args

end ServiceReadiness
