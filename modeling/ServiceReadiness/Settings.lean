/-
# Settings from the environment

Eight environment variables hold the settings.  A variable that is unset, or
blank, leaves its setting at the default; any other value is taken without the
blanks around it.  The variables are read in the order of `Variable`, and the
first that cannot be used is the one reported.
-/

import ServiceReadiness.Error
import ServiceReadiness.Text.Blank

namespace ServiceReadiness

/-- The environment variables that hold settings. -/
inductive Variable where
  | defaultMaxWait
  | retryInterval
  | dockerUrl
  | dockerHost
  | skip
  | keepOnFailure
  | stopGrace
  | dockerTimeout
  deriving DecidableEq, Repr

/-- The name of a variable. -/
def Variable.name : Variable → String
  | .defaultMaxWait => "DOCKWAIT_DEFAULT_MAX_WAIT_MS"
  | .retryInterval => "DOCKWAIT_RETRY_INTERVAL_MS"
  | .dockerUrl => "DOCKER_URL"
  | .dockerHost => "DOCKER_HOST"
  | .skip => "DOCKWAIT_SKIP"
  | .keepOnFailure => "DOCKWAIT_KEEP_ON_FAILURE"
  | .stopGrace => "DOCKWAIT_STOP_GRACE_SECS"
  | .dockerTimeout => "DOCKWAIT_DOCKER_TIMEOUT_SECS"

/-- What the environment gives for each variable: any bytes, or nothing. -/
abbrev Environment := Variable → Option ByteArray

/-- Why the value of a variable cannot be used. -/
inductive SettingFault where
  | notUtf8
  | number (fault : Numeral.Fault)
  | zero
  | notBoolean
  deriving DecidableEq, Repr

/-- The wording of a fault. -/
def SettingFault.message : SettingFault → String
  | .notUtf8 => "not valid UTF-8"
  | .number fault => fault.message
  | .zero => "must be greater than zero"
  | .notBoolean => "must be 'true' or 'false': provided string was not `true` or `false`"

/-- The error that reports a fault of a variable. -/
def SettingFault.report (f : SettingFault) (v : Variable) : ConfigError :=
  .invalidValue v.name f.message

namespace Environment

/-- The trimmed value of a variable, `none` when unset or blank. -/
def text? (env : Environment) (v : Variable) : Except SettingFault (Option String) :=
  match env v with
  | none => .ok none
  | some bytes =>
    match String.fromUTF8? bytes with
    | none => .error .notUtf8
    | some s =>
      match Blank.trim s.toList with
      | [] => .ok none
      | cs => .ok (some (String.ofList cs))

/-- The value of a variable as `read` takes it, `default` when unset or blank. -/
def get {α : Type} (env : Environment) (v : Variable) (default : α)
    (read : String → Except SettingFault α) : Except ConfigError α :=
  match env.text? v with
  | .error f => .error (f.report v)
  | .ok none => .ok default
  | .ok (some s) => (read s).mapError (·.report v)

end Environment

/-- A number of 64 bits. -/
def readCount (s : String) : Except SettingFault Nat :=
  (Numeral.read Numeral.maxUnsigned s.toList).mapError .number

/-- A number of 64 bits other than zero. -/
def readPositive (s : String) : Except SettingFault Nat := do
  match ← readCount s with
  | 0 => .error .zero
  | n => .ok n

/-- A flag, spelled out in lower case. -/
def readFlag (s : String) : Except SettingFault Bool :=
  if s = "true" then .ok true else if s = "false" then .ok false else .error .notBoolean

/-- The timing of a wait, in milliseconds. -/
structure Timing where
  /-- The deadline of a wait that is given none. -/
  defaultMaxWait : Nat := 10000
  /-- The pause between two rounds. -/
  retryInterval : Nat := 500
  deriving DecidableEq, Repr

/-- How the daemon is reached and how containers are stopped. -/
structure DockerSettings where
  /-- The address of the daemon. -/
  url : String := "http://localhost:2375"
  /-- Leave containers and the daemon alone. -/
  skip : Bool := false
  /-- Leave a started container in place when the wait fails. -/
  keepOnFailure : Bool := false
  /-- How long a container may take to stop before it is killed. -/
  stopGrace : Duration := Duration.ofSecs 10
  /-- How long a request to the daemon may take, in seconds. -/
  requestTimeout : Nat := 120
  deriving DecidableEq, Repr

/-- All settings. -/
structure Settings where
  timing : Timing := {}
  docker : DockerSettings := {}
  deriving DecidableEq, Repr

/-- A daemon's address with a leading `tcp://` replaced by `http://`. -/
def normalizeDockerUrl (url : String) : String :=
  match url.toList with
  | 't' :: 'c' :: 'p' :: ':' :: '/' :: '/' :: rest => "http://" ++ String.ofList rest
  | _ => url

namespace Settings

/-- The timing that the environment asks for. -/
def resolveTiming (env : Environment) : Except ConfigError Timing := do
  let defaults : Timing := {}
  let defaultMaxWait ← env.get .defaultMaxWait defaults.defaultMaxWait readPositive
  let retryInterval ← env.get .retryInterval defaults.retryInterval readPositive
  return { defaultMaxWait, retryInterval }

/-- The daemon's address that the environment asks for: `DOCKER_URL`, else
`DOCKER_HOST`, both of which are read. -/
def resolveUrl (env : Environment) : Except ConfigError String := do
  let url ← env.get .dockerUrl none (.ok ∘ some)
  let host ← env.get .dockerHost none (.ok ∘ some)
  return ((url.or host).map normalizeDockerUrl).getD ({} : DockerSettings).url

/-- The daemon's settings that the environment asks for. -/
def resolveDocker (env : Environment) : Except ConfigError DockerSettings := do
  let defaults : DockerSettings := {}
  let url ← resolveUrl env
  let skip ← env.get .skip defaults.skip readFlag
  let keepOnFailure ← env.get .keepOnFailure defaults.keepOnFailure readFlag
  let grace ← env.get .stopGrace defaults.stopGrace.secs readCount
  let requestTimeout ← env.get .dockerTimeout defaults.requestTimeout readCount
  return { url, skip, keepOnFailure, stopGrace := Duration.ofSecs grace, requestTimeout }

/-- The settings that the environment asks for. -/
def resolve (env : Environment) : Except ConfigError Settings := do
  let timing ← resolveTiming env
  let docker ← resolveDocker env
  return { timing, docker }

end Settings
end ServiceReadiness
