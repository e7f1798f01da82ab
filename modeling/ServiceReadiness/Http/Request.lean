/-
# Requests

What a client asks of a server: a method and a target, the two parts of a request
line that say what is wanted.
-/

namespace ServiceReadiness
namespace Http

/-- A request, by the parts of its first line. -/
structure Request where
  method : String
  target : String
  deriving DecidableEq, Repr

/-- The written form of a request, without the version of the protocol. -/
def Request.render (r : Request) : String := r.method ++ " " ++ r.target

end Http
end ServiceReadiness
