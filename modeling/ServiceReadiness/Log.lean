/-
# Log lines

What the program writes to its log: a level, the part of the program that
speaks, and one line of text.
-/

namespace ServiceReadiness

/-- How much a log line matters, least first. -/
inductive Level where
  | trace
  | debug
  | info
  | warn
  | error
  deriving DecidableEq, Repr

namespace Level

/-- The name of a level. -/
def name : Level → String
  | .trace => "TRACE"
  | .debug => "DEBUG"
  | .info => "INFO"
  | .warn => "WARN"
  | .error => "ERROR"

/-- The rank of a level: more severe is higher. -/
def severity : Level → Nat
  | .trace => 0
  | .debug => 1
  | .info => 2
  | .warn => 3
  | .error => 4

end Level

/-- The part of the program that writes a log line. -/
inductive Speaker where
  | waiter
  | httpProbe
  | tcpProbe
  | boundedTask
  | containerWatch
  | teardown
  | engineClient
  | waitCommand
  | runCommand
  deriving DecidableEq, Repr

/-- The path under which a part of the program logs. -/
def Speaker.target : Speaker → String
  | .waiter => "dockwait::wait"
  | .httpProbe => "dockwait::wait::http"
  | .tcpProbe => "dockwait::wait::tcp"
  | .boundedTask => "dockwait::wait::runner"
  | .containerWatch => "dockwait::container::probe"
  | .teardown => "dockwait::container::shutdown"
  | .engineClient => "dockwait::container::docker"
  | .waitCommand => "dockwait::cli::wait"
  | .runCommand => "dockwait::cli::run"

/-- One line of the log. -/
structure LogLine where
  level : Level
  speaker : Speaker
  text : String
  deriving DecidableEq, Repr

/-- The level and the text of a log line. -/
def LogLine.render (l : LogLine) : String := l.level.name ++ " " ++ l.text

end ServiceReadiness
