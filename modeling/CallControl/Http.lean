import CallControl.Failure

/-! # Requests over HTTP

The servers around a call are only ever read from. A request is an address with
headers, of which a later one replaces an earlier one of the same name; its outcome
is a response with a status and a body of octets, a failure in transport, or no
answer within the time allowed.
-/

namespace CallControl.Http

/-- A request to read an address. -/
structure Request where
  url : String
  headers : List (String × String)
  deriving Repr, DecidableEq

namespace Request

/-- A request without headers. -/
def get (url : String) : Request := ⟨url, []⟩

/-- A request with a header set. -/
def setHeader (request : Request) (name value : String) : Request :=
  { request with
    headers := request.headers.filter (fun header => header.1 != name) ++ [(name, value)] }

/-- A request that presents a token. -/
def withBearerToken (request : Request) (token : String) : Request :=
  request.setHeader "Authorization" ("Bearer " ++ token)

end Request

/-- The class of a status. -/
inductive StatusClass where
  | unknown
  | informational
  | success
  | redirection
  | clientError
  | serverError
  deriving Repr, DecidableEq

namespace StatusClass

/-- The class of a status code. -/
def ofCode (code : UInt16) : StatusClass :=
  if 100 ≤ code && code ≤ 199 then .informational
  else if 200 ≤ code && code ≤ 299 then .success
  else if 300 ≤ code && code ≤ 399 then .redirection
  else if 400 ≤ code && code ≤ 499 then .clientError
  else if 500 ≤ code && code ≤ 599 then .serverError
  else .unknown

/-- The number of a class: its least code. -/
def number : StatusClass → Nat
  | .unknown => 0
  | .informational => 100
  | .success => 200
  | .redirection => 300
  | .clientError => 400
  | .serverError => 500

/-- The title of a class. -/
def title : StatusClass → String
  | .unknown => "Unknown"
  | .informational => "Informational"
  | .success => "Success"
  | .redirection => "Redirection"
  | .clientError => "ClientError"
  | .serverError => "ServerError"

end StatusClass

/-- A status code that reports success. -/
def isSuccess (code : UInt16) : Bool :=
  StatusClass.ofCode code == .success

/-- A response. -/
structure Response where
  status : UInt16
  body : List UInt8
  deriving Repr, DecidableEq

/-- What comes of a request. -/
inductive Reply where
  | response (response : Response)
  /-- The request failed in transport. -/
  | failed
  /-- No answer came in time. -/
  | silence
  deriving Repr, DecidableEq

/-- The response to a request, or why there is none. -/
def Request.outcome (request : Request) : Reply → Except Failure Response
  | .response response => .ok response
  | .failed => .error (.call (.httpRequestFailed request.url))
  | .silence => .error (.call (.httpRequestFailed (request.url ++ " (no response)")))

end CallControl.Http
