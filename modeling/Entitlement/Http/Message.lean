import Entitlement.Url

-- Requests to a server, and its responses.
namespace Entitlement.Http

inductive Method where
  | get
  | post
  | put
  | delete
deriving DecidableEq

def Method.name : Method → String
  | get => "GET"
  | post => "POST"
  | put => "PUT"
  | delete => "DELETE"

-- A request. Names of headers are in lower case.
structure Request where
  method : Method
  url : Url
  headers : List (String × String)
  body : Option String
deriving DecidableEq

structure Response where
  status : Nat
  headers : List (String × Bytes)
  body : Bytes
  -- Whether all of the body came. A connection may end before.
  isWhole : Bool := true
deriving DecidableEq

structure Proxy where
  address : Url
  authorization : Option String
deriving DecidableEq

structure Exchange where
  request : Request
  proxy : Option Proxy
deriving DecidableEq

-- The headers that are sent: those of the request, and what the proxy is told of the user.
def Exchange.headers (e : Exchange) : List (String × String) :=
  e.request.headers
    ++ ((e.proxy.bind (·.authorization)).map fun value => ("proxy-authorization", value)).toList

def isHeaderValue (value : String) : Bool :=
  value.toList.all fun c => c = '\t' || !Text.isControl c

-- The value of a header as text, if it holds nothing but visible ASCII, blanks and tabs.
def readableValue? (value : Bytes) : Option String :=
  if value.all fun b => b = 9 || (32 ≤ b && b < 127) then Text.decode? value else none

def Response.header? (r : Response) (name : String) : Option Bytes :=
  (r.headers.find? fun h => h.1 == name).map (·.2)

def Response.isSuccess (r : Response) : Bool := 200 ≤ r.status && r.status < 300

def hasNoBody (status : Nat) : Bool := status = 204 || status = 304

def reason? : Nat → Option String
  | 100 => some "Continue"
  | 101 => some "Switching Protocols"
  | 102 => some "Processing"
  | 103 => some "Early Hints"
  | 200 => some "OK"
  | 201 => some "Created"
  | 202 => some "Accepted"
  | 203 => some "Non Authoritative Information"
  | 204 => some "No Content"
  | 205 => some "Reset Content"
  | 206 => some "Partial Content"
  | 207 => some "Multi-Status"
  | 208 => some "Already Reported"
  | 226 => some "IM Used"
  | 300 => some "Multiple Choices"
  | 301 => some "Moved Permanently"
  | 302 => some "Found"
  | 303 => some "See Other"
  | 304 => some "Not Modified"
  | 305 => some "Use Proxy"
  | 307 => some "Temporary Redirect"
  | 308 => some "Permanent Redirect"
  | 400 => some "Bad Request"
  | 401 => some "Unauthorized"
  | 402 => some "Payment Required"
  | 403 => some "Forbidden"
  | 404 => some "Not Found"
  | 405 => some "Method Not Allowed"
  | 406 => some "Not Acceptable"
  | 407 => some "Proxy Authentication Required"
  | 408 => some "Request Timeout"
  | 409 => some "Conflict"
  | 410 => some "Gone"
  | 411 => some "Length Required"
  | 412 => some "Precondition Failed"
  | 413 => some "Payload Too Large"
  | 414 => some "URI Too Long"
  | 415 => some "Unsupported Media Type"
  | 416 => some "Range Not Satisfiable"
  | 417 => some "Expectation Failed"
  | 418 => some "I'm a teapot"
  | 421 => some "Misdirected Request"
  | 422 => some "Unprocessable Entity"
  | 423 => some "Locked"
  | 424 => some "Failed Dependency"
  | 425 => some "Too Early"
  | 426 => some "Upgrade Required"
  | 428 => some "Precondition Required"
  | 429 => some "Too Many Requests"
  | 431 => some "Request Header Fields Too Large"
  | 451 => some "Unavailable For Legal Reasons"
  | 500 => some "Internal Server Error"
  | 501 => some "Not Implemented"
  | 502 => some "Bad Gateway"
  | 503 => some "Service Unavailable"
  | 504 => some "Gateway Timeout"
  | 505 => some "HTTP Version Not Supported"
  | 506 => some "Variant Also Negotiates"
  | 507 => some "Insufficient Storage"
  | 508 => some "Loop Detected"
  | 510 => some "Not Extended"
  | 511 => some "Network Authentication Required"
  | _ => none

end Entitlement.Http
