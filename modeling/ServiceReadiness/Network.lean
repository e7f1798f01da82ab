/-
# The network

What stands behind an address: whether it accepts connections, after how long,
and what it does with a request.  Everything is said from the side of someone who
tries to reach the address and has only so much time.
-/

import ServiceReadiness.Http.Request
import ServiceReadiness.Probe

namespace ServiceReadiness

/-- A host, by name or address, and a port. -/
structure Endpoint where
  host : String
  port : UInt16
  deriving DecidableEq, Repr

/-- The written form of an endpoint. -/
def Endpoint.render (e : Endpoint) : String := e.host ++ ":" ++ Numeral.render e.port.toNat

/-- How an attempt to connect goes if it is given all the time it wants. -/
inductive Connection where
  | accepted (delay : Nat)
  | refused (delay : Nat) (reason : String)
  /-- There is never an answer. -/
  | silent
  deriving DecidableEq, Repr

/-- How an attempt to connect ends for someone with a limited time. -/
inductive Contact where
  | opened
  | refused (reason : String)
  | late
  deriving DecidableEq, Repr

namespace Connection

/-- How long an attempt takes that is given up after `bound` milliseconds, and how
it ends.  An answer at the very bound is in time. -/
def within (bound : Nat) : Connection → Nat × Contact
  | accepted delay => if delay ≤ bound then (delay, .opened) else (bound, .late)
  | refused delay reason => if delay ≤ bound then (delay, .refused reason) else (bound, .late)
  | silent => (bound, .late)

theorem within_fst_le (bound : Nat) (c : Connection) : (c.within bound).1 ≤ bound := by
  cases c <;> simp only [within] <;> (try split) <;> simp_all

end Connection

/-- What a server does once it has read a request. -/
inductive Conduct where
  /-- It sends these bytes and closes the connection. -/
  | answers (delay : Nat) (bytes : List UInt8)
  | closes (delay : Nat)
  | silent
  deriving DecidableEq, Repr

/-- What stands behind an address at some moment. -/
structure Service where
  connection : Connection
  conduct : Http.Request → Conduct := fun _ => .silent

/-- What stands behind each address at some moment. -/
abbrev Network := Endpoint → Service

end ServiceReadiness
