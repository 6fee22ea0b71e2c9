import CallControl.Lifecycle
import CallControl.Platform.Event
import CallControl.Text.Decimal
import CallControl.Text.Quoted

/-! # Notes

What observers of a call and plain listeners on a platform write down, in the order
in which they were told.
-/

namespace CallControl

/-- A note of one notification. -/
inductive Note where
  /-- A line's call reached a stage. -/
  | lifecycle (line : String) (stage : Lifecycle)
  /-- A line's call shows other flags. -/
  | flags (line : String) (flags : CallFlags)
  /-- A line's remote stream has a track more and can be shown. -/
  | stream (line : String) (stream : String) (tracks : Nat)
  | socket (event : SocketEvent)
  | connection (kind : ConnectionEventKind)
  | channel (name : String) (event : ChannelEvent)
  deriving Repr, DecidableEq

/-- The text of a socket's report. -/
def SocketEvent.describe : SocketEvent → String
  | .opened => "open"
  | .message text => "message " ++ text
  | .closed code reason =>
      let shown :=
        match code with
        | none => "None"
        | some code => "Some(" ++ String.ofList (Text.decimal code.toNat) ++ ")"
      "close " ++ shown ++ " " ++ reason
  | .error text => "error " ++ text

/-- The text of a channel's report. -/
def ChannelEvent.describe : ChannelEvent → String
  | .opened => "Open"
  | .message text => "Message(" ++ Text.quote text ++ ")"
  | .closed => "Close"

/-- The text of a note. -/
def Note.text : Note → String
  | .lifecycle line stage => line ++ " state " ++ stage.title
  | .flags line shown => line ++ " ui " ++ shown.digits
  | .stream line id tracks =>
      line ++ " stream " ++ id ++ " " ++ String.ofList (Text.decimal tracks)
  | .socket event => "socket " ++ event.describe
  | .connection kind => "pc " ++ kind.title
  | .channel name event => name ++ " " ++ event.describe

end CallControl
