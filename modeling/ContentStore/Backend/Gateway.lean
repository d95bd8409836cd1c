import ContentStore.Refusal
import ContentStore.Url.Normal

/-!
# Bytes behind a gateway

The bytes lie behind a server that is asked with `HEAD`. Success means present, 404 means absent,
and any other answer is a failure that quotes the URL as it was put together.
-/

namespace ContentStore

/-- How the server meets a request. -/
inductive Reply where
  | status (code : Nat)
  /-- No answer before the deadline. -/
  | silence
  /-- The connection is dropped. -/
  | dropped
  deriving DecidableEq, Repr

/-- A server, where it is, and the URL in front of every path. -/
structure Gateway where
  /-- Scheme, host and port of the server. -/
  site : String
  /-- The base URL, without slashes at its end. -/
  base : String
  /-- How the server meets a request for a path and query. -/
  reply : String → Reply

namespace Gateway

/-- A gateway with a base URL as it was configured. -/
def create (site base : String) (reply : String → Reply) : Gateway :=
  ⟨site, Text.dropAtEnd '/' base, reply⟩

/-- The phrase that goes with a status. -/
def reason : Nat → String
  | 100 => "Continue" | 101 => "Switching Protocols" | 102 => "Processing"
  | 103 => "Early Hints"
  | 200 => "OK" | 201 => "Created" | 202 => "Accepted"
  | 203 => "Non Authoritative Information" | 204 => "No Content" | 205 => "Reset Content"
  | 206 => "Partial Content" | 207 => "Multi-Status" | 208 => "Already Reported"
  | 226 => "IM Used"
  | 300 => "Multiple Choices" | 301 => "Moved Permanently" | 302 => "Found"
  | 303 => "See Other" | 304 => "Not Modified" | 305 => "Use Proxy"
  | 307 => "Temporary Redirect" | 308 => "Permanent Redirect"
  | 400 => "Bad Request" | 401 => "Unauthorized" | 402 => "Payment Required"
  | 403 => "Forbidden" | 404 => "Not Found" | 405 => "Method Not Allowed"
  | 406 => "Not Acceptable" | 407 => "Proxy Authentication Required" | 408 => "Request Timeout"
  | 409 => "Conflict" | 410 => "Gone" | 411 => "Length Required"
  | 412 => "Precondition Failed" | 413 => "Payload Too Large" | 414 => "URI Too Long"
  | 415 => "Unsupported Media Type" | 416 => "Range Not Satisfiable"
  | 417 => "Expectation Failed" | 418 => "I'm a teapot" | 421 => "Misdirected Request"
  | 422 => "Unprocessable Entity" | 423 => "Locked" | 424 => "Failed Dependency"
  | 425 => "Too Early" | 426 => "Upgrade Required" | 428 => "Precondition Required"
  | 429 => "Too Many Requests" | 431 => "Request Header Fields Too Large"
  | 451 => "Unavailable For Legal Reasons"
  | 500 => "Internal Server Error" | 501 => "Not Implemented" | 502 => "Bad Gateway"
  | 503 => "Service Unavailable" | 504 => "Gateway Timeout"
  | 505 => "HTTP Version Not Supported" | 506 => "Variant Also Negotiates"
  | 507 => "Insufficient Storage" | 508 => "Loop Detected" | 510 => "Not Extended"
  | 511 => "Network Authentication Required"
  | _ => "<unknown status code>"

/-- What a request that got no answer is refused with. -/
def transportFailure : Refusal :=
  .backend "transport"

/-- What the question about a URL comes to, given how the server met it. -/
def verdict (url : String) : Reply → Except Refusal Bool
  | .silence => .error (.timedOut "storage backend probe")
  | .dropped => .error transportFailure
  | .status code =>
    if 200 ≤ code ∧ code < 300 then .ok true
    else if code = 404 then .ok false
    else
      let phrase := reason code
      .error (.backend s!"HEAD {url} returned {code} {phrase}")

/-- Whether the server holds bytes at a path. -/
def holds (g : Gateway) (path : String) : Except Refusal Bool :=
  let url := g.base ++ "/" ++ path
  match Url.targetOn? g.site url with
  | none => .error transportFailure
  | some target => verdict url (g.reply target)

end Gateway
end ContentStore
