import CallControl.Failure
import CallControl.Text.WhiteSpace
import CallControl.WorkItem

/-! # Messages on the data channel

Next to the media a data channel carries each side's microphone and camera state. A
message is the full state as a JSON record, which may ask the receiver for its own,
or one bare event. A text is read as a state first and only then, with the white
space around it removed, as an event (`PeerMessage.parse?`).
-/

namespace CallControl

open CallControl.Json

/-- A change of the microphone or the camera. -/
inductive ToggleEvent where
  | micOn
  | micOff
  | videoOn
  | videoOff
  deriving Repr, DecidableEq

namespace ToggleEvent

/-- All events. -/
def all : List ToggleEvent := [.micOn, .micOff, .videoOn, .videoOff]

/-- The event of a microphone switched on or off. -/
def mic (enabled : Bool) : ToggleEvent := if enabled then .micOn else .micOff

/-- The event of a camera switched on or off. -/
def video (enabled : Bool) : ToggleEvent := if enabled then .videoOn else .videoOff

/-- The name of an event, which is its text on the channel. -/
def name : ToggleEvent → String
  | .micOn => "mic_on"
  | .micOff => "mic_off"
  | .videoOn => "video_on"
  | .videoOff => "video_off"

/-- The title of an event. -/
def title : ToggleEvent → String
  | .micOn => "MicOn"
  | .micOff => "MicOff"
  | .videoOn => "VideoOn"
  | .videoOff => "VideoOff"

/-- The event with a name. -/
def ofName? (text : String) : Option ToggleEvent :=
  all.find? fun event => event.name == text

/-- The item that reports the peer's event to the coordinator. -/
def report : ToggleEvent → CoordinatorItem
  | .micOn => .peerMicTurnedOn
  | .micOff => .peerMicTurnedOff
  | .videoOn => .peerVideoTurnedOn
  | .videoOff => .peerVideoTurnedOff

end ToggleEvent

/-- The full microphone and camera state of one side. -/
structure StateReport where
  /-- The receiver is asked to answer with its own state. -/
  requestState : Bool
  micOn : Bool
  videoOn : Bool
  deriving Repr, DecidableEq

namespace StateReport

/-- A state from a document. -/
def read? (document : Document) : Option StateReport :=
  match fields? ["requestState", "micOn", "videoOn"] document with
  | some [requestState, micOn, videoOn] =>
      (required bool? requestState).bind fun requestState =>
        (required bool? micOn).bind fun micOn =>
          (required bool? videoOn).map fun videoOn => ⟨requestState, micOn, videoOn⟩
  | _ => none

/-- A state from a text. -/
def parse? (text : String) : Option StateReport :=
  (Document.parse? text).bind read?

/-- The text of a state on the channel. -/
def toText (report : StateReport) : String :=
  String.ofList
    (writeObject [("requestState", writeBool report.requestState),
      ("micOn", writeBool report.micOn), ("videoOn", writeBool report.videoOn)])

end StateReport

/-- A message on the data channel. -/
inductive PeerMessage where
  | state (report : StateReport)
  | toggle (event : ToggleEvent)
  deriving Repr, DecidableEq

namespace PeerMessage

/-- The message of a text. -/
def parse? (text : String) : Option PeerMessage :=
  match StateReport.parse? text with
  | some report => some (.state report)
  | none => (ToggleEvent.ofName? (String.ofList (Text.trim text.toList))).map .toggle

/-- The message of a text, or the failure of a text that is none. -/
def read (text : String) : Except Failure PeerMessage :=
  match parse? text with
  | some message => .ok message
  | none => .error (.call (.dataChannelProtocol ("unknown call event: " ++ text)))

/-- The items a received message asks for, in order: the answer to a request for
state first, then the microphone, then the camera. -/
def items : PeerMessage → List WorkItem
  | .state report =>
      (if report.requestState then [.peer .sendInitialState] else []) ++
        [.coordinator (ToggleEvent.mic report.micOn).report,
          .coordinator (ToggleEvent.video report.videoOn).report]
  | .toggle event => [.coordinator event.report]

/-- The text of a message on the channel. -/
def toText : PeerMessage → String
  | .state report => report.toText
  | .toggle event => event.name

/-- The form of a message. -/
def form : PeerMessage → String
  | .state _ => "state"
  | .toggle _ => "event"

/-- The text of a message with its parts named. -/
def describe : PeerMessage → String
  | .state report =>
      let truth (value : Bool) : String := if value then "true" else "false"
      "State(CallRequestEvents \x7b request_state: " ++ truth report.requestState ++
        ", mic_on: " ++ truth report.micOn ++ ", video_on: " ++ truth report.videoOn ++ " \x7d)"
  | .toggle event => "Event(" ++ event.title ++ ")"

end PeerMessage

end CallControl
