/-
# The container engine

A daemon that is reached by requests over a socket of the machine or over the
network.  A client is made for its address, and it is pinged once before it is used.
Every call is one request, and names the container in its path.
-/

import ServiceReadiness.Container.Daemon
import ServiceReadiness.Container.EngineAnswer
import ServiceReadiness.Settings
import ServiceReadiness.Url.Parser

namespace ServiceReadiness

/-- A call to the engine. -/
inductive EngineCall where
  | ping
  | daemon (call : DaemonCall)
  deriving DecidableEq, Repr

/-- Where the engine listens. -/
inductive EngineAddress where
  /-- A socket of the machine, by its path. -/
  | socket (path : String)
  /-- A host of the network, as it is written. -/
  | host (written : String)
  deriving DecidableEq, Repr

/-- The address that a URL gives: a socket after `unix://`, else a host. -/
def EngineAddress.ofUrl (url : String) : EngineAddress :=
  if "unix://".toList.isPrefixOf url.toList then .socket (String.ofList (url.toList.drop 7))
  else .host url

namespace EngineCall

/-- The scheme and host before the path of a request. -/
def origin : EngineAddress → String
  | .socket _ => "unix://engine"
  | .host _ => "http://engine"

/-- A path, with a query of its own or with the given one, as a request names it. -/
def target (address : EngineAddress) (path : String) (query : Option String) : String :=
  match Url.parse (origin address ++ path) with
  | .ok url =>
    String.ofList { url with query := (query.map String.toList).or url.query }.requestTarget
  | .error _ => path

/-- The seconds of a grace period as the engine is told them: a number of 64 bits
with a sign, into which a longer period wraps. -/
def graceSeconds (grace : Duration) : Int64 := Int64.ofNat grace.secs

/-- The path of a container. -/
def containerPath (id : String) : String := "/containers/" ++ id

/-- The request that a call sends. -/
def request (address : EngineAddress) : EngineCall → Http.Request
  | ping => ⟨"GET", target address "/_ping" none⟩
  | daemon (.start id) => ⟨"POST", target address (containerPath id ++ "/start") none⟩
  | daemon (.inspect id _) => ⟨"GET", target address (containerPath id ++ "/json") none⟩
  | daemon (.stop id grace) =>
    ⟨"POST", target address (containerPath id ++ "/stop")
      (some ("t=" ++ Numeral.renderSigned (graceSeconds grace).toInt))⟩
  | daemon (.remove id) =>
    ⟨"DELETE", target address (containerPath id) (some "force=true&link=false&v=true")⟩

end EngineCall

/-- An engine: where it listens, how many milliseconds a request may take, what stands
at the address when a call is made, and how its client reads the description of a
container. -/
structure Engine where
  address : EngineAddress
  bound : Nat
  serve : EngineCall → Service
  read : EngineAnswer.InfoReader

namespace Engine

/-- The exchange that a call makes. -/
def exchange (e : Engine) (call : EngineCall) : Http.Exchange :=
  Http.exchange e.bound (e.serve call) (call.request e.address)

/-- What came of a call. -/
def ask (e : Engine) (call : EngineCall) : Except EngineFault Http.Response :=
  EngineAnswer.ofExchange (e.exchange call)

/-- The line that tells that the engine answered the ping. -/
def connectedLine (url : String) : LogLine :=
  ⟨.debug, .engineClient, "Connected to Docker at " ++ url⟩

/-- The line that tells that a container was started. -/
def startedLine (id : String) : LogLine := ⟨.info, .engineClient, "Started container " ++ id⟩

/-- Whether the engine at a URL answers a ping, to the end of the answer. -/
def ping (e : Engine) (url : String) : Except ContainerError Unit :=
  ((e.ask .ping).bind EngineAnswer.complete).mapError
    fun fault => .dockerNotAvailable url fault.message

/-- What came of a call whose answer holds nothing else. -/
def perform (e : Engine) (call : DaemonCall) (report : String → ContainerError) :
    Except ContainerError Unit :=
  match e.ask (.daemon call) with
  | .ok _ => .ok ()
  | .error fault => .error (report fault.message)

/-- What came of an inspection. -/
def inspection (e : Engine) (id : String) (call : Nat) : Inspection :=
  let made := e.exchange (.daemon (.inspect id call))
  { duration := some made.duration
    answer :=
      ((EngineAnswer.ofExchange made).bind (EngineAnswer.inspected e.read)).mapError
        fun fault => .inspectFailed id fault.message }

/-- An engine as a daemon. -/
def daemon (e : Engine) : Daemon where
  start id := e.perform (.start id) (.startFailed id)
  startNotes id := [startedLine id]
  stop id grace := e.perform (.stop id grace) (.stopFailed id)
  remove id := e.perform (.remove id) (.removeFailed id)
  inspect id call := e.inspection id call

/-- A grace period of ten seconds is told as it is. -/
example : (EngineCall.daemon (.stop "app" (.ofSecs 10))).request (.socket "/run/engine") =
    ⟨"POST", "/containers/app/stop?t=10"⟩ := by decide +kernel

end Engine

/-- What makes clients of engines: for an address, what stands there when a call is
made, or why no request can be made to it; and how a client reads the description of
a container. -/
structure EngineClient where
  reach : EngineAddress → Except String (EngineCall → Service)
  read : EngineAnswer.InfoReader

/-- The engine at the address of the settings, if requests can be made to it. -/
def EngineClient.engine (c : EngineClient) (docker : DockerSettings) :
    Except ContainerError Engine :=
  let address := EngineAddress.ofUrl docker.url
  match c.reach address with
  | .error reason => .error (.dockerNotAvailable docker.url reason)
  | .ok serve =>
    .ok { address, bound := docker.requestTimeout * 1000, serve, read := c.read }

end ServiceReadiness
