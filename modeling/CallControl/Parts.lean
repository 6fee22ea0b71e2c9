import CallControl.PeerLink
import CallControl.RelayLink

/-! # The parts of a call

The two links of a call together with the platform they live on. Events reach a call
through its links, so this is all that an event can change. Work that consists of
several steps stops as soon as one of them breaks off (`Parts.eachUntilCrash`).
-/

namespace CallControl

/-- The links of a call and their platform. -/
structure Parts where
  platform : Platform
  relay : RelayLink
  peer : PeerLink

namespace Parts

/-- A platform with links that were never set up. -/
def onPlatform (platform : Platform) : Parts :=
  ⟨platform, .unconnected, .make ""⟩

/-- The parts after a step for each element, up to the first step that breaks off. -/
def eachUntilCrash {Element : Type} (step : Parts → Element → Parts) (parts : Parts)
    (elements : List Element) : Parts :=
  elements.foldl
    (fun current element => if current.platform.crashed then current else step current element)
    parts

/-- The parts with a note written down. -/
def note (parts : Parts) (note : Note) : Parts :=
  { parts with platform := parts.platform.note note }

/-- The parts with one socket changed. -/
def modifySocket (parts : Parts) (id : SocketId) (change : RelaySocket → RelaySocket) : Parts :=
  { parts with platform := parts.platform.modifySocket id change }

/-- The parts with one peer connection changed. -/
def modifyConnection (parts : Parts) (id : ConnectionId)
    (change : PeerConnection → PeerConnection) : Parts :=
  { parts with platform := parts.platform.modifyConnection id change }

/-- The parts with one data channel changed. -/
def modifyChannel (parts : Parts) (id : ChannelId) (change : DataChannel → DataChannel) : Parts :=
  { parts with platform := parts.platform.modifyChannel id change }

end Parts

end CallControl
