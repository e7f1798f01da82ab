/-
# Errors

What can go wrong, by cause, and the sentence that reports each cause.  A probe
fails for good only for the causes of `ProbeError`; a connection that is refused
or late is no error but "not ready yet".
-/

import ServiceReadiness.Duration

namespace ServiceReadiness

/-- Why a probe cannot be built, or can never succeed. -/
inductive ProbeError where
  /-- The text gives no range of status codes. -/
  | invalidStatusSpec (spec reason : String)
  /-- The method is no token. -/
  | invalidMethod (method : String)
  /-- The text is no absolute URL. -/
  | invalidUrl (url reason : String)
  /-- The server answered that it does not know the method. -/
  | unsupportedMethod (method url : String)
  /-- The watched container is no longer running. -/
  | containerStopped (id : String)
  /-- The client itself failed. -/
  | client (reason : String)
  deriving DecidableEq, Repr

/-- The sentence for a probe's error. -/
def ProbeError.message : ProbeError → String
  | .invalidStatusSpec spec reason => "Invalid status spec '" ++ spec ++ "': " ++ reason
  | .invalidMethod method => "Invalid HTTP method '" ++ method ++ "'"
  | .invalidUrl url reason => "Invalid URL '" ++ url ++ "': " ++ reason
  | .unsupportedMethod method url =>
    "Invalid or not supported HTTP method '" ++ method ++ "' for checking " ++ url
  | .containerStopped id => "Container '" ++ id ++ "' stopped while waiting"
  | .client reason => "HTTP client error: " ++ reason

/-- The error of a unit of work: a root cause and the contexts wrapped around
it, innermost first. -/
structure WorkError where
  root : String
  contexts : List String := []
  deriving DecidableEq, Repr

/-- The sentence for a unit of work's error is its outermost context. -/
def WorkError.message (e : WorkError) : String := e.contexts.getLast?.getD e.root

/-- Why a wait or a bounded unit of work did not succeed. -/
inductive WaitError where
  /-- There was nothing to wait for. -/
  | noProbes
  /-- The deadline passed after `elapsed`. -/
  | timeout (text : String) (elapsed : Duration)
  /-- A probe failed for good. -/
  | probe (cause : ProbeError)
  /-- The work ended with an error. -/
  | work (cause : WorkError)
  /-- The work panicked. -/
  | panicked (text : String)
  deriving DecidableEq, Repr

namespace WaitError

/-- The sentence for a wait's error. -/
def message : WaitError → String
  | .noProbes => "No probes given to wait for"
  | .timeout text elapsed => text ++ " (waited " ++ elapsed.render ++ ")"
  | .probe cause => cause.message
  | .work cause => "Task failed: " ++ cause.message
  | .panicked text => "Task panicked: " ++ text

/-- Only a passed deadline is a timeout. -/
def isTimeout : WaitError → Bool
  | .timeout .. => true
  | _ => false

/-- The milliseconds waited before a timeout, in a word of 64 bits. -/
def elapsedMillis? : WaitError → Option UInt64
  | .timeout _ elapsed => some (UInt64.ofNat elapsed.toMillis)
  | _ => none

theorem isTimeout_iff_elapsedMillis? (e : WaitError) :
    e.isTimeout = true ↔ e.elapsedMillis?.isSome = true := by
  cases e <;> simp [isTimeout, elapsedMillis?]

end WaitError

/-- Why a setting from the environment cannot be used. -/
inductive ConfigError where
  | invalidValue (key reason : String)
  deriving DecidableEq, Repr

/-- The sentence for a setting's error. -/
def ConfigError.message : ConfigError → String
  | .invalidValue key reason => "Invalid value for " ++ key ++ ": " ++ reason

/-- Why a container, or the daemon that runs it, did not obey. -/
inductive ContainerError where
  | dockerNotAvailable (url reason : String)
  | startFailed (id reason : String)
  | stopFailed (id reason : String)
  | removeFailed (id reason : String)
  | inspectFailed (id reason : String)
  deriving DecidableEq, Repr

/-- The sentence for a container's error. -/
def ContainerError.message : ContainerError → String
  | .dockerNotAvailable url reason => "Docker not available at " ++ url ++ ": " ++ reason
  | .startFailed id reason => "Failed to start container '" ++ id ++ "': " ++ reason
  | .stopFailed id reason => "Failed to stop container '" ++ id ++ "': " ++ reason
  | .removeFailed id reason => "Failed to remove container '" ++ id ++ "': " ++ reason
  | .inspectFailed id reason => "Failed to inspect container '" ++ id ++ "': " ++ reason

end ServiceReadiness
