import SignedGateway.Http.Message
import SignedGateway.Uri.Wire
import SignedGateway.World

namespace SignedGateway
namespace Http

/-!
# Requests that the gateway sends

The gateway asks other services by sending a request and waiting for a reply.  It
may get none, or one whose body breaks off.  How a request travels is left to a
transport; a text that is no web address and a header that may not be sent fail
before anything travels.
-/

/-- A request on its way. -/
structure Sent where
  method : String
  address : Wire.Address
  headers : Fields
  body : List UInt8
  deriving DecidableEq, Repr

/-- What becomes of a request that was sent.  The body of a reply may be
incomplete. -/
inductive Exchange where
  | unreachable (detail : String)
  | answered (reply : Response) (complete : Bool)
  deriving DecidableEq, Repr

abbrev Transport (Outside : Type) : Type :=
  Sent → Act Outside Exchange

/-- Send a request, if it can be sent. -/
def Transport.send {Outside : Type} (transport : Transport Outside) (method url : String)
    (headers : List (String × List UInt8)) (body : List UInt8) : Act Outside Exchange :=
  match Wire.parse? url, fieldsOfPairs headers with
  | some address, some fields => transport ⟨method, address, fields, body⟩
  | _, _ => pure (.unreachable "builder error")

/-- Statuses from 200 to 299. -/
def isSuccess (status : Nat) : Bool :=
  200 ≤ status && status ≤ 299

/-- What the registered statuses are called. -/
def reasons : List (Nat × String) :=
  [(100, "Continue"), (101, "Switching Protocols"), (102, "Processing"), (103, "Early Hints"),
   (200, "OK"), (201, "Created"), (202, "Accepted"), (203, "Non Authoritative Information"),
   (204, "No Content"), (205, "Reset Content"), (206, "Partial Content"), (207, "Multi-Status"),
   (208, "Already Reported"), (226, "IM Used"), (300, "Multiple Choices"),
   (301, "Moved Permanently"), (302, "Found"), (303, "See Other"), (304, "Not Modified"),
   (305, "Use Proxy"), (307, "Temporary Redirect"), (308, "Permanent Redirect"),
   (400, "Bad Request"), (401, "Unauthorized"), (402, "Payment Required"), (403, "Forbidden"),
   (404, "Not Found"), (405, "Method Not Allowed"), (406, "Not Acceptable"),
   (407, "Proxy Authentication Required"), (408, "Request Timeout"), (409, "Conflict"),
   (410, "Gone"), (411, "Length Required"), (412, "Precondition Failed"),
   (413, "Payload Too Large"), (414, "URI Too Long"), (415, "Unsupported Media Type"),
   (416, "Range Not Satisfiable"), (417, "Expectation Failed"), (418, "I'm a teapot"),
   (421, "Misdirected Request"), (422, "Unprocessable Entity"), (423, "Locked"),
   (424, "Failed Dependency"), (425, "Too Early"), (426, "Upgrade Required"),
   (428, "Precondition Required"), (429, "Too Many Requests"),
   (431, "Request Header Fields Too Large"), (451, "Unavailable For Legal Reasons"),
   (500, "Internal Server Error"), (501, "Not Implemented"), (502, "Bad Gateway"),
   (503, "Service Unavailable"), (504, "Gateway Timeout"), (505, "HTTP Version Not Supported"),
   (506, "Variant Also Negotiates"), (507, "Insufficient Storage"), (508, "Loop Detected"),
   (510, "Not Extended"), (511, "Network Authentication Required")]

/-- A status with what it is called. -/
def statusText (status : Nat) : String :=
  Text.decimal status ++ " " ++ (reasons.lookup status).getD "<unknown status code>"

end Http
end SignedGateway
