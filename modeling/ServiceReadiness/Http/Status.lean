/-
# Status codes

The three digits with which a server sums up its answer, and the phrases that
usually stand beside them.
-/

import ServiceReadiness.Text.Numeral

namespace ServiceReadiness
namespace Http

/-- A status code: three digits, the first of which is not zero. -/
structure Status where
  code : UInt16
  inRange : 100 ≤ code ∧ code ≤ 999
  deriving DecidableEq, Repr

namespace Status

/-- The status of a code, if it is one. -/
def ofCode? (code : UInt16) : Option Status :=
  if h : 100 ≤ code ∧ code ≤ 999 then some ⟨code, h⟩ else none

/-- The server does not know the method. -/
def notImplemented : Status := ⟨501, by decide⟩

/-- The request has been fulfilled. -/
def isSuccess (s : Status) : Bool := 200 ≤ s.code && s.code < 300

/-- The answer is an interim one, which another follows; a switch of protocols is
final. -/
def isInterim (s : Status) : Bool := s.code < 200 && s.code != 101

/-- The usual phrases, by code. -/
def phrases : List (UInt16 × String) :=
  [(100, "Continue"), (101, "Switching Protocols"), (102, "Processing"),
   (200, "OK"), (201, "Created"), (202, "Accepted"), (203, "Non Authoritative Information"),
   (204, "No Content"), (205, "Reset Content"), (206, "Partial Content"), (207, "Multi-Status"),
   (208, "Already Reported"), (226, "IM Used"), (300, "Multiple Choices"),
   (301, "Moved Permanently"), (302, "Found"), (303, "See Other"), (304, "Not Modified"),
   (305, "Use Proxy"), (307, "Temporary Redirect"), (308, "Permanent Redirect"),
   (400, "Bad Request"), (401, "Unauthorized"), (402, "Payment Required"), (403, "Forbidden"),
   (404, "Not Found"), (405, "Method Not Allowed"), (406, "Not Acceptable"),
   (407, "Proxy Authentication Required"), (408, "Request Timeout"), (409, "Conflict"),
   (410, "Gone"), (411, "Length Required"), (412, "Precondition Failed"),
   (413, "Payload Too Large"), (414, "URI Too Long"), (415, "Unsupported Media Type"),
   (416, "Range Not Satisfiable"), (417, "Expectation Failed"), (418, "I'm a teapot"),
   (421, "Misdirected Request"), (422, "Unprocessable Entity"), (423, "Locked"),
   (424, "Failed Dependency"), (425, "Too Early"), (426, "Upgrade Required"),
   (428, "Precondition Required"), (429, "Too Many Requests"),
   (431, "Request Header Fields Too Large"), (451, "Unavailable For Legal Reasons"),
   (500, "Internal Server Error"), (501, "Not Implemented"), (502, "Bad Gateway"),
   (503, "Service Unavailable"), (504, "Gateway Timeout"), (505, "HTTP Version Not Supported"),
   (506, "Variant Also Negotiates"), (507, "Insufficient Storage"), (508, "Loop Detected"),
   (510, "Not Extended"), (511, "Network Authentication Required")]

/-- The phrase for a status. -/
def phrase (s : Status) : String := (phrases.lookup s.code).getD "<unknown status code>"

/-- A code with its phrase. -/
def render (s : Status) : String := Numeral.render s.code.toNat ++ " " ++ s.phrase

end Status
end Http
end ServiceReadiness
