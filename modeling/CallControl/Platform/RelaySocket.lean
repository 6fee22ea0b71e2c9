import CallControl.Failure
import CallControl.Platform.Event

/-! # Relay sockets

A simulated socket records the frames sent on it. It tells one observer of its
events until it is detached or closed; of its closing it tells the observer last.
-/

namespace CallControl

/-- Who observes a socket. -/
inductive SocketAudience where
  /-- The link to the relay. -/
  | link
  /-- Somebody who writes everything down. -/
  | note
  deriving Repr, DecidableEq

/-- A socket. -/
structure RelaySocket where
  url : String
  observer : Option SocketAudience
  /-- The frames sent, oldest first. -/
  sent : List String
  isOpen : Bool
  closed : Bool
  detached : Bool
  failsToSend : Bool
  deriving Repr, DecidableEq

namespace RelaySocket

/-- A socket that has started to connect. -/
def make (url : String) (observer : SocketAudience) : RelaySocket :=
  ⟨url, some observer, [], false, false, false, false⟩

/-- A socket after a frame was sent on it, or why it could not be. -/
def send (socket : RelaySocket) (text : String) : Except Failure RelaySocket :=
  if socket.closed || !socket.isOpen then .error (.call .socketClosed)
  else if socket.failsToSend then .error (.injected .socketSend)
  else .ok { socket with sent := socket.sent ++ [text] }

/-- A socket that tells nobody any more. -/
def detach (socket : RelaySocket) : RelaySocket :=
  { socket with observer := none, detached := true }

/-- A closed socket; its observer is gone. -/
def shut (socket : RelaySocket) : RelaySocket :=
  { socket with isOpen := false, closed := true, observer := none }

end RelaySocket

end CallControl
