import CallControl.Http
import CallControl.IceConfiguration

/-! # Fetching the ICE configuration

The configuration is read from a server with a token. Without a token no request is
sent; otherwise exactly one is, and its response counts only with a status of
success and a body that is a configuration.
-/

namespace CallControl

open CallControl.Http

/-- A fetch: the requests sent and what came of it. -/
structure IceConfigFetch where
  requests : List Request
  result : Except Failure IceConfiguration

namespace IceConfigFetch

/-- The configuration in a response. -/
def ofResponse (response : Response) : Except Failure IceConfiguration :=
  if isSuccess response.status then
    match IceConfiguration.ofOctets? response.body with
    | some configuration => .ok configuration
    | none => .error .malformedIceConfig
  else .error (.call (.iceConfigStatus response.status))

/-- The fetch from an address, with a token or the reason why there is none, where
the server answers requests as given. -/
def run (url : String) (token : Except Failure String) (answer : Request → Reply) :
    IceConfigFetch :=
  match token with
  | .error failure => ⟨[], .error failure⟩
  | .ok token =>
      let request := (Request.get url).withBearerToken token
      ⟨[request],
        match request.outcome (answer request) with
        | .error failure => .error failure
        | .ok response => ofResponse response⟩

end IceConfigFetch

end CallControl
