import CallControl.Bench.CellScript
import CallControl.Bench.QueueScript
import CallControl.Bench.Run
import CallControl.IceConfigFetch
import CallControl.Proofs.Aftermath
import CallControl.Proofs.Callee
import CallControl.Proofs.Candidates
import CallControl.Proofs.Channels
import CallControl.Proofs.Connecting
import CallControl.Proofs.Descriptions
import CallControl.Proofs.Endings
import CallControl.Proofs.Exchange
import CallControl.Proofs.Mirrored
import CallControl.Proofs.Opening
import CallControl.Proofs.Outgoing
import CallControl.Proofs.TaskOrder
import CallControl.Proofs.Verbatim
import CallControl.Proofs.Observer
import CallControl.Proofs.Deadlines
import CallControl.Proofs.Barriers
import CallControl.Proofs.HangUp
import CallControl.Proofs.Joining
import CallControl.Proofs.Listeners
import CallControl.Proofs.CleanText
import CallControl.Proofs.HiddenAddresses
import CallControl.Proofs.Starting
import CallControl.Proofs.PeerTexts
import CallControl.Proofs.TokenReuse
import CallControl.Proofs.ConfigForms
import CallControl.Proofs.LineAddresses
import CallControl.Proofs.IceOnTheWire
