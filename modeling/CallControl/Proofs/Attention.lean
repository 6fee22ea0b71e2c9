import CallControl.Proofs.CleanUp
import CallControl.Proofs.Raised

/-! # What a link hears of its peer connection

Until it is cleaned up, a link listens to the peer connection that it uses exactly once
for each kind of report, and to no other peer connection (`Parts.Attentive`). So each
report of the one in use is heard once, and reports of any other are not heard at all.
-/

namespace CallControl

namespace PeerConnection

/-- The kinds of report that a link listens for, in the order of registration. -/
def heard (connection : PeerConnection) : List ConnectionEventKind :=
  (connection.listeners.filter fun listener => listener.audience == .link).map
    ConnectionListener.kind

/-- Whether a peer connection is closed, and what a link hears of it. -/
def attention (_ : List IceCandidate) (connection : PeerConnection) :
    Bool × List ConnectionEventKind :=
  (connection.closed, connection.heard)

private theorem heard_addListener_note (connection : PeerConnection) (kind : ConnectionEventKind) :
    (connection.addListener kind .note).heard = connection.heard := by
  unfold heard addListener
  rw [List.filter_append, List.map_append]
  exact List.append_nil _

/-- A link is told of a report once for each time that it listens for its kind. -/
theorem flatMap_audience (connection : PeerConnection) (kind : ConnectionEventKind)
    (items : List WorkItem) :
    (connection.audience kind).flatMap (ConnectionAudience.asks items) =
      connection.heard.flatMap fun heard => if heard = kind then items else [] := by
  unfold audience heard
  induction connection.listeners with
  | nil => rfl
  | cons listener rest ih =>
      obtain ⟨number, listened, audience⟩ := listener
      by_cases same : listened = kind
      · cases audience <;> simpa [same, ConnectionAudience.asks] using ih
      · cases audience <;> simpa [same, ConnectionAudience.asks] using ih

private theorem mem_audience_link (connection : PeerConnection) (kind : ConnectionEventKind) :
    .link ∈ connection.audience kind ↔ kind ∈ connection.heard := by
  simp only [audience, heard, List.mem_map, List.mem_filter, beq_iff_eq]
  constructor
  · rintro ⟨listener, ⟨inside, same⟩, own⟩
    exact ⟨listener, ⟨inside, own⟩, same⟩
  · rintro ⟨listener, ⟨inside, own⟩, same⟩
    exact ⟨listener, ⟨inside, same⟩, own⟩

end PeerConnection

/-- Whether the path works after a report. -/
def ConnectionEvent.connectedAfter (connected : Bool) : ConnectionEvent → Bool
  | .iceState state => PeerLink.connectedAfter connected state
  | _ => connected

/-- Hearing of a report twice is no different from hearing of it once. -/
theorem ConnectionEvent.connectedAfter_idem (event : ConnectionEvent) (connected : Bool) :
    event.connectedAfter (event.connectedAfter connected) = event.connectedAfter connected := by
  cases event with
  | iceState state => cases state <;> rfl
  | _ => rfl

namespace Parts

private theorem connected_of_reports {before after : Parts}
    (same : after.besidesReports = before.besidesReports) :
    after.peer.connected = before.peer.connected :=
  (congrArg (fun rest : Parts => rest.peer.connected) same :)

/-- What happens to channels does not connect or disconnect a link. -/
theorem connected_of_channels {before after : Parts}
    (same : after.besidesChannels = before.besidesChannels) :
    after.peer.connected = before.peer.connected :=
  (congrArg (fun rest : Parts => rest.peer.connected) same :)

/-- What happens to the relay does not connect or disconnect a link to the peer. -/
theorem connected_of_relay {before after : Parts}
    (same : after.besidesRelay = before.besidesRelay) :
    after.peer.connected = before.peer.connected :=
  (congrArg (fun rest : Parts => rest.peer.connected) same :)

private theorem connected_peerHeard (parts : Parts) (event : ConnectionEvent) :
    (parts.peerHeard event).peer.connected = event.connectedAfter parts.peer.connected := by
  have raised (current : Parts) (item : WorkItem) :
      (current.raiseFromPeer item).peer.connected = current.peer.connected :=
    connected_of_reports (besidesReports_raiseFromPeer current item)
  cases event with
  | negotiationNeeded => exact raised ..
  | iceCandidate candidate =>
      cases candidate with
      | none => rfl
      | some candidate => exact raised ..
  | track track => exact raised ..
  | iceState state =>
      simp only [peerHeard, pathChanged]
      split
      · exact raised ..
      · rfl
  | dataChannel id => exact connected_of_channels (besidesChannels_channelAnnounced parts id)

/-- Nothing breaks off, so the link hears of the report if it listens at all. -/
theorem connected_eachUntilCrash {parts : Parts} (calm : parts.Calm) (event : ConnectionEvent)
    (audiences : List ConnectionAudience) :
    (parts.eachUntilCrash (connectionHeard event) audiences).peer.connected =
      if .link ∈ audiences then event.connectedAfter parts.peer.connected
      else parts.peer.connected := by
  unfold eachUntilCrash
  induction audiences generalizing parts with
  | nil => rfl
  | cons audience rest ih =>
      have going : ¬ parts.platform.crashed = true := Bool.eq_false_iff.mp calm.uncrashed
      rw [List.foldl_cons, if_neg going]
      cases audience with
      | link =>
          have told : (connectionHeard event parts .link).Calm := (raises_peerHeard calm event).calm
          rw [ih told, if_pos List.mem_cons_self]
          simp only [connectionHeard, connected_peerHeard, event.connectedAfter_idem, ite_self]
      | note =>
          have noted : parts.Raises (connectionHeard event parts .note) [] :=
            raises_of_voice calm rfl
          rw [ih noted.calm]
          simp only [List.mem_cons, reduceCtorEq, false_or]
          rfl

/-- A link uses an open peer connection and listens for each kind of report once. -/
def Attentive (parts : Parts) (id : ConnectionId) : Prop :=
  parts.shown PeerConnection.attention id = (some id, some (false, linkKinds))

namespace Attentive

variable {parts : Parts} {id : ConnectionId}

/-- The peer connection of an attentive link, which is open. -/
theorem connection (attentive : parts.Attentive id) :
    ∃ connection, parts.peer.connection = some id ∧
      parts.platform.connections[id]? = some connection ∧ connection.closed = false ∧
      connection.heard = linkKinds := by
  obtain ⟨connection, used, found, same⟩ := connection_of_shown attentive
  obtain ⟨working, heard⟩ := Prod.mk.inj same
  exact ⟨connection, used, found, working.symm, heard.symm⟩

/-- A link stays attentive whatever happens to its channels. -/
theorem of_channels {after : Parts} (attentive : parts.Attentive id)
    (same : after.besidesChannels = parts.besidesChannels) : after.Attentive id :=
  (shown_of_channels id same).trans attentive

/-- A link stays attentive whatever happens to the relay. -/
theorem of_relay {after : Parts} (attentive : parts.Attentive id)
    (same : after.besidesRelay = parts.besidesRelay) : after.Attentive id :=
  (shown_of_relay id same).trans attentive

private theorem modifyConnection (attentive : parts.Attentive id) (target : ConnectionId)
    {change : PeerConnection → PeerConnection}
    (kept : ∀ connection, parts.platform.connections[target]? = some connection →
      ∀ held, (change connection).attention held = connection.attention held) :
    (parts.modifyConnection target change).Attentive id :=
  (parts.shown_modifyConnection id target kept).trans attentive

/-- No event takes the listeners of a link off its peer connection. -/
theorem undergo (attentive : parts.Attentive id) (occurrence : Occurrence) :
    (parts.undergo occurrence).Attentive id :=
  (parts.shown_undergo id occurrence fun _ _ _ => rfl).trans attentive

/-- No change that nobody is told of takes the listeners of a link off. -/
theorem adjust (attentive : parts.Attentive id) (adjustment : Adjustment) :
    (parts.adjust adjustment).Attentive id := by
  cases adjustment with
  | refuseRemote target refuses => exact attentive.modifyConnection target fun _ _ _ => rfl
  | refuseTracks target refuses => exact attentive.modifyConnection target fun _ _ _ => rfl
  | refuseCandidates target refuses => exact attentive.modifyConnection target fun _ _ _ => rfl
  | overhearConnection target kind =>
      exact attentive.modifyConnection target fun connection _ _ =>
        congrArg (Prod.mk connection.closed) (connection.heard_addListener_note kind)
  | _ => exact attentive

private theorem addLocalTracks (attentive : parts.Attentive id) (target : ConnectionId) :
    (parts.addLocalTracks target).Attentive id :=
  (parts.shown_addLocalTracks id target fun _ _ _ => rfl).trans attentive

private theorem flushHeld (attentive : parts.Attentive id) (target : ConnectionId) :
    (parts.flushHeld target).Attentive id :=
  attentive.modifyConnection target fun connection _ _ => by
    rw [connection.foldl_addCandidate_eq]
    rfl

private theorem applyItem (attentive : parts.Attentive id) {connection : PeerConnection}
    (found : parts.platform.connections[id]? = some connection) (item : PeerItem) :
    (parts.applyItem id connection item).Attentive id := by
  cases item with
  | userJoined =>
      exact (attentive.of_channels (besidesChannels_openChannel parts connection)).addLocalTracks id
  | webrtcOffer offer =>
      have tracked := attentive.addLocalTracks id
      simp only [Parts.applyItem]
      split
      · exact tracked
      · rename_i current foundCurrent
        split
        · exact tracked
        · rename_i answer answered accepted
          refine of_channels ?_ (besidesChannels_raiseFromPeer _ _)
          refine flushHeld (tracked.modifyConnection id fun earlier foundEarlier _ => ?_) id
          rw [foundCurrent] at foundEarlier
          rw [← Option.some.inj foundEarlier, (acceptOffer_eq_ok accepted).2]
          rfl
  | webrtcAcceptance answer =>
      simp only [Parts.applyItem]
      split
      · exact attentive
      · rename_i described accepted
        refine flushHeld (attentive.modifyConnection id fun earlier foundEarlier _ => ?_) id
        rw [found] at foundEarlier
        rw [← Option.some.inj foundEarlier, (PeerConnection.setRemote_eq_ok accepted).2]
        rfl
  | webrtcCandidate candidate =>
      simp only [Parts.applyItem]
      split
      · exact attentive
      · exact attentive.modifyConnection id fun _ _ _ => rfl
  | dataChannel channel =>
      exact attentive.of_channels ((besidesChannels_sendState _ _).trans
        (besidesChannels_adoptChannel _ _))
  | sendInitialState => exact attentive.of_channels (besidesChannels_sendState _ _)
  | negotiationNeeded =>
      simp only [Parts.applyItem]
      split
      · exact attentive
      · rename_i offer offering made
        refine of_channels ?_ (besidesChannels_raiseFromPeer _ _)
        refine attentive.modifyConnection id fun earlier foundEarlier _ => ?_
        rw [found] at foundEarlier
        rw [← Option.some.inj foundEarlier, makeOffer_eq_ok made]
        rfl

/-- No item takes the listeners of a link off its peer connection. -/
theorem processItem (attentive : parts.Attentive id) (item : PeerItem) :
    (parts.processItem item).2.Attentive id := by
  obtain ⟨connection, used, found, _⟩ := attentive.connection
  unfold Parts.processItem
  rw [peerConnection?_eq used found]
  exact attentive.applyItem found item

/-- A link that was just set up. -/
theorem initPeer (absent : parts.peer.connection = none)
    (used : parts.initPeer.2.peer.connection = some id) : parts.initPeer.2.Attentive id := by
  obtain ⟨configuration, fresh⟩ := shown_initPeer PeerConnection.attention absent used
  exact fresh

/-! ## Reports -/

private theorem audienceOf_eq (attentive : parts.Attentive id) (items : List WorkItem)
    (kind : ConnectionEventKind) :
    (parts.audienceOf id kind).flatMap (ConnectionAudience.asks items) = items := by
  obtain ⟨connection, _, found, _, heard⟩ := attentive.connection
  unfold audienceOf
  rw [found]
  simp only [Option.elim_some, connection.flatMap_audience, heard]
  cases kind <;> exact List.append_nil items

/-- No listener of a link is on a peer connection that it does not use. -/
theorem audienceOf_other (attentive : parts.Attentive id) (accounted : parts.Accounted)
    {target : ConnectionId} (other : target ≠ id) (kind : ConnectionEventKind) :
    ∀ audience ∈ parts.audienceOf target kind, audience = .note := by
  obtain ⟨_, used, _⟩ := attentive.connection
  unfold audienceOf
  cases found : parts.platform.connections[target]? with
  | none => exact fun _ member => nomatch member
  | some connection =>
      have empty := accounted.connections.attached target connection found
      rw [used, if_neg fun same => other (Option.some.inj same).symm] at empty
      exact PeerConnection.audience_of_registered_nil empty kind

/-- The peer connection in use is heard, and no other one. -/
theorem reports_connection (attentive : parts.Attentive id) (accounted : parts.Accounted)
    (target : ConnectionId) (event : ConnectionEvent) :
    parts.reports (.connection target event) = if target = id then parts.hears event else [] := by
  simp only [reports]
  by_cases same : target = id
  · rw [if_pos same, same, attentive.audienceOf_eq]
  · rw [if_neg same]
    refine List.flatMap_eq_nil_iff.mpr fun audience member => ?_
    rw [attentive.audienceOf_other accounted same event.kind audience member]
    rfl

private theorem connected_connectionEmits (attentive : parts.Attentive id)
    (accounted : parts.Accounted)
    (calm : parts.Calm) (target : ConnectionId) (event : ConnectionEvent) :
    (parts.connectionEmits target event).peer.connected =
      if target = id then event.connectedAfter parts.peer.connected
      else parts.peer.connected := by
  unfold connectionEmits
  cases found : parts.platform.connections[target]? with
  | none =>
      by_cases same : target = id
      · obtain ⟨connection, _, present, _⟩ := attentive.connection
        rw [same, present] at found
        cases found
      · rw [if_neg same]
  | some connection =>
      have changed : parts.Raises (parts.modifyConnection target (·.after event)) [] :=
        raises_of_voice calm rfl
      have audience : parts.audienceOf target event.kind = connection.audience event.kind := by
        unfold audienceOf
        rw [found]
        rfl
      have told : .link ∈ connection.audience event.kind ↔ target = id := by
        constructor
        · intro member
          by_contra other
          rw [← audience] at member
          exact nomatch attentive.audienceOf_other accounted other event.kind .link member
        · rintro rfl
          obtain ⟨current, _, present, _, heard⟩ := attentive.connection
          rw [present] at found
          rw [← Option.some.inj found, PeerConnection.mem_audience_link, heard]
          cases event.kind <;> decide
      simp only [connected_eachUntilCrash changed.calm, told]
      rfl

/-- Only reports of the path of the peer connection in use tell whether it works. -/
theorem connected_undergo (attentive : parts.Attentive id) (accounted : parts.Accounted)
    (calm : parts.Calm) (occurrence : Occurrence) :
    (parts.undergo occurrence).peer.connected =
      match occurrence with
      | .connection target event =>
          if target = id then event.connectedAfter parts.peer.connected
          else parts.peer.connected
      | _ => parts.peer.connected := by
  cases occurrence with
  | socket socket event => exact connected_of_relay (besidesRelay_socketEmits parts socket event)
  | unheeding event =>
      simp only [Parts.undergo]
      split
      · exact connected_of_relay (besidesRelay_relayHeard parts .unheeding event)
      · rfl
  | connection target event => exact attentive.connected_connectionEmits accounted calm target event
  | channelOpened channel =>
      exact connected_of_channels (besidesChannels_openChannelNow parts channel)
  | channelMessage channel text =>
      exact connected_of_channels (besidesChannels_channelEmits parts channel _)
  | channelClosed channel =>
      exact connected_of_channels (besidesChannels_closeChannel parts channel)

end Attentive

end Parts

end CallControl
