import CallControl.Platform.Basic

/-! # The link to the relay

A call reaches its peer over the relay before the two are connected directly. The
link holds the socket until it is cleaned up, counts the frames delivered to it, and
raises nothing once it is muted. What it does with events and signals is in
`CallControl.Signalling`.
-/

namespace CallControl

/-- The socket that a link holds. -/
inductive HeldSocket where
  | absent
  /-- A socket of the platform. -/
  | simulated (socket : SocketId)
  /-- A socket that accepts every request and heeds none: it goes on reporting to its
  link after it was told to stop. -/
  | unheeding
  deriving Repr, DecidableEq

/-- A link to the relay. -/
structure RelayLink where
  socket : HeldSocket
  muted : Bool
  /-- The frames delivered so far. -/
  received : Nat
  deriving Repr, DecidableEq

/-- A link that was never connected. -/
def RelayLink.unconnected : RelayLink := ⟨.absent, true, 0⟩

end CallControl
