import CallControl.Proofs.Registrations
import CallControl.Proofs.Requests

/-! # Every move of a link keeps its accounts

Each piece of work on the channels keeps `ChannelsAccounted`, and each move of a link
keeps `Parts.Accounted`. Two facts about single channels come along: a channel that is
released is closed, and cleaning up leaves nothing of the link anywhere.
-/

namespace CallControl

/-- A link but for its gate. -/
def PeerLink.besidesGate (link : PeerLink) : PeerLink := { link with gate := .passing }

/-- A link to the peer with all its listeners accounted for. -/
structure Parts.Accounted (parts : Parts) : Prop where
  channels : ChannelsAccounted parts.platform.channels parts.peer.pending parts.peer.adopted
  connections : ConnectionsAccounted parts.platform.connections parts.peer.connection
    parts.peer.registrations
  resting : parts.peer.connection = none → parts.peer.AtRest

namespace Parts

/-- The channels carry what the link remembers. -/
def ChannelsKept (parts : Parts) : Prop :=
  ChannelsAccounted parts.platform.channels parts.peer.pending parts.peer.adopted

private theorem ChannelsKept.congr {before after : Parts}
    (same : after.besidesReports = before.besidesReports) (kept : before.ChannelsKept) :
    after.ChannelsKept := by
  have erased : after.besidesReports.ChannelsKept := by
    rw [same]
    exact kept
  exact erased

/-- A change of a channel that keeps its listeners. -/
theorem ChannelsKept.modifyChannel {parts : Parts} (kept : parts.ChannelsKept) (id : ChannelId)
    {change : DataChannel → DataChannel}
    (same : ∀ channel : DataChannel, (change channel).listeners = channel.listeners ∧
      (change channel).nextListener = channel.nextListener) :
    (parts.modifyChannel id change).ChannelsKept :=
  ChannelsAccounted.modify_of_listeners kept id same

/-! ## What work on channels leaves of the link -/

private theorem besidesGate_of_reports {before after : Parts}
    (same : after.besidesReports = before.besidesReports) :
    after.peer.besidesGate = before.peer.besidesGate :=
  congrArg (fun rest : Parts => rest.peer) same

@[simp] theorem besidesGate_closeChannel (parts : Parts) (id : ChannelId) :
    (parts.closeChannel id).peer.besidesGate = parts.peer.besidesGate := by
  unfold closeChannel
  split
  · rfl
  · split
    · rfl
    · rw [besidesGate_of_reports (besidesReports_channelEmits _ _ _)]
      rfl

@[simp] theorem besidesGate_openChannelNow (parts : Parts) (id : ChannelId) :
    (parts.openChannelNow id).peer.besidesGate = parts.peer.besidesGate := by
  unfold openChannelNow
  rw [besidesGate_of_reports (besidesReports_channelEmits _ _ _)]
  rfl

@[simp] theorem peer_unregister (parts : Parts)
    (registrations : List ChannelRegistration) :
    (parts.unregister registrations).peer = parts.peer :=
  unregister_eq Parts.peer (fun _ _ _ => rfl) parts registrations

@[simp] theorem peer_sendToPeer (parts : Parts) (text : String) :
    (parts.sendToPeer text).peer = parts.peer := by
  unfold sendToPeer
  split <;> rfl

/-- No channel is in use once the one in use was let go. -/
theorem adopted_releaseChannel (parts : Parts) :
    parts.releaseChannel.peer.adopted = none := by
  unfold releaseChannel
  split
  · assumption
  · rename_i registration _
    have same := besidesGate_closeChannel
      (({ parts with peer := { parts.peer with adopted := none } } : Parts).unregister
        [registration]) registration.channel
    exact congrArg PeerLink.adopted same

/-- Letting go of the channel in use leaves those that are waited for. -/
theorem pending_releaseChannel (parts : Parts) :
    parts.releaseChannel.peer.pending = parts.peer.pending := by
  unfold releaseChannel
  split
  · rfl
  · rename_i registration _
    have same := besidesGate_closeChannel
      (({ parts with peer := { parts.peer with adopted := none } } : Parts).unregister
        [registration]) registration.channel
    have pending := congrArg PeerLink.pending same
    exact pending

/-! ## Work on the channels keeps them accounted for -/

private theorem ChannelsKept.closeChannel {parts : Parts} (kept : parts.ChannelsKept)
    (id : ChannelId) :
    (parts.closeChannel id).ChannelsKept := by
  unfold Parts.closeChannel
  split
  · exact kept
  · split
    · exact kept
    · exact .congr (besidesReports_channelEmits _ _ _)
        (kept.modifyChannel id fun _ => ⟨rfl, rfl⟩)

private theorem ChannelsKept.openChannelNow {parts : Parts} (kept : parts.ChannelsKept)
    (id : ChannelId) : (parts.openChannelNow id).ChannelsKept :=
  .congr (besidesReports_channelEmits _ _ _) (kept.modifyChannel id fun _ => ⟨rfl, rfl⟩)

private theorem ChannelsKept.sendToPeer {parts : Parts} (kept : parts.ChannelsKept)
    (text : String) :
    (parts.sendToPeer text).ChannelsKept := by
  unfold Parts.sendToPeer
  split
  · exact kept
  · refine kept.modifyChannel _ fun channel => ?_
    split
    · rename_i sent accepted
      unfold DataChannel.send at accepted
      split at accepted
      · cases accepted
      · cases accepted
        exact ⟨rfl, rfl⟩
    · exact ⟨rfl, rfl⟩

private theorem ChannelsKept.useChannel {parts : Parts} (kept : parts.ChannelsKept)
    (unused : parts.peer.adopted = none) (id : ChannelId) :
    (parts.useChannel id).ChannelsKept := by
  unfold Parts.useChannel
  split
  · exact kept
  · rename_i channel found
    have accounted : ChannelsAccounted parts.platform.channels parts.peer.pending none :=
      unused ▸ kept
    exact accounted.receive found

private theorem ChannelsKept.openChannel {parts : Parts} (kept : parts.ChannelsKept)
    (connection : PeerConnection) : (parts.openChannel connection).ChannelsKept := by
  unfold Parts.openChannel
  split
  · exact kept
  · rename_i free
    have unused : parts.peer.adopted = none := by
      rw [Bool.or_eq_true, not_or, Option.isSome_iff_ne_none, not_not] at free
      exact free.1
    have added : ChannelsKept { parts with
        platform := parts.platform.addChannel (.make .own parts.peer.label) } :=
      ChannelsAccounted.add kept _ _
    exact added.useChannel unused _

/-- The listeners taken off one channel are those that were named on it. -/
theorem getElem?_unregister (parts : Parts) (registrations : List ChannelRegistration)
    (id : ChannelId) :
    (parts.unregister registrations).platform.channels[id]? =
      parts.platform.channels[id]?.map fun channel =>
        (listenersOn id registrations).foldl DataChannel.removeListener channel := by
  unfold unregister
  induction registrations generalizing parts with
  | nil => simp [listenersOn]
  | cons registration rest ih =>
      rw [List.foldl_cons, ih]
      have split : listenersOn id (registration :: rest) =
          listenersOn id [registration] ++ listenersOn id rest :=
        listenersOn_append id [registration] rest
      rw [split, listenersOn_singleton]
      simp only [Parts.modifyChannel, Platform.modifyChannel, List.getElem?_modify]
      by_cases same : registration.channel = id
      · simp only [same, ↓reduceIte]
        exact Option.map_map ..
      · simp only [same, ↓reduceIte]
        exact Option.map_map ..

private theorem length_unregister (parts : Parts) (registrations : List ChannelRegistration) :
    (parts.unregister registrations).platform.channels.length =
      parts.platform.channels.length :=
  unregister_eq (·.platform.channels.length) (fun _ _ _ => List.length_modify ..) parts
    registrations

/-- Some pending registrations are given up, those of a channel all or none. -/
theorem ChannelsKept.unregister {parts : Parts} (kept : parts.ChannelsKept)
    {gone remaining : List ChannelRegistration}
    (settled : ∀ id,
      (listenersOn id gone = listenersOn id parts.peer.pending ∧ listenersOn id remaining = []) ∨
        (listenersOn id gone = [] ∧
          listenersOn id remaining = listenersOn id parts.peer.pending))
    (within : ∀ registration ∈ remaining, registration ∈ parts.peer.pending) :
    ChannelsAccounted (parts.unregister gone).platform.channels remaining
      parts.peer.adopted where
  carried := by
    intro id channel found
    rw [getElem?_unregister] at found
    obtain ⟨earlier, foundEarlier, rfl⟩ := Option.map_eq_some_iff.mp found
    have carries := kept.carried id earlier foundEarlier
    rcases settled id with ⟨all, none⟩ | ⟨none, all⟩
    · rw [all, none]
      exact carries.stopAwaiting
    · rw [none, all]
      exact carries
  pendingPresent := by
    intro registration member
    rw [length_unregister]
    exact kept.pendingPresent registration (within registration member)
  adoptedPresent := by
    rw [length_unregister]
    exact kept.adoptedPresent

/-- A link that waits for no channel any more has no listener left that waits. -/
theorem ChannelsKept.dropPending {parts : Parts} (kept : parts.ChannelsKept) :
    parts.dropPending.ChannelsKept := by
  have accounted : ChannelsAccounted (parts.unregister parts.peer.pending).platform.channels []
      parts.peer.adopted :=
    kept.unregister (fun _ => Or.inl ⟨rfl, rfl⟩) (fun _ member => (List.not_mem_nil member).elim)
  unfold ChannelsKept Parts.dropPending
  simpa only [peer_unregister] using accounted

/-- A link that stops waiting for a channel has no listener left that waits for it. -/
theorem ChannelsKept.settlePending {parts : Parts} (kept : parts.ChannelsKept)
    (target : ChannelId) : (parts.settlePending target).ChannelsKept := by
  have settled (id : ChannelId) :
      (listenersOn id (parts.peer.pending.filter fun entry => entry.channel == target) =
          listenersOn id parts.peer.pending ∧
        listenersOn id (parts.peer.pending.filter fun entry => entry.channel != target) = []) ∨
      (listenersOn id (parts.peer.pending.filter fun entry => entry.channel == target) = [] ∧
        listenersOn id (parts.peer.pending.filter fun entry => entry.channel != target) =
          listenersOn id parts.peer.pending) := by
    unfold listenersOn
    by_cases same : id = target
    · subst same
      refine Or.inl ⟨?_, ?_⟩
      · rw [List.filter_filter]
        simp only [Bool.and_self]
      · rw [List.filter_filter]
        simp [bne]
    · refine Or.inr ⟨?_, ?_⟩
      · rw [List.filter_filter, List.map_eq_nil_iff, List.filter_eq_nil_iff]
        intro entry _ both
        obtain ⟨first, second⟩ := (Bool.and_eq_true _ _).mp both
        exact same ((eq_of_beq first).symm.trans (eq_of_beq second))
      · rw [List.filter_filter]
        congr 1
        apply List.filter_congr
        intro entry _
        by_cases here : entry.channel = id
        · simp [here, same]
        · simp [here]
  have accounted := kept.unregister settled fun _ member => (List.mem_filter.mp member).1
  unfold ChannelsKept Parts.settlePending
  simpa only [peer_unregister] using accounted

/-- A link that lets go of its channel has no listener left on it. -/
theorem ChannelsKept.releaseChannel {parts : Parts} (kept : parts.ChannelsKept) :
    parts.releaseChannel.ChannelsKept := by
  unfold Parts.releaseChannel
  split
  · exact kept
  · rename_i registration used
    have accounted : ChannelsAccounted parts.platform.channels parts.peer.pending
        (some registration) := used ▸ kept
    have released : ChannelsKept
        (({ parts with peer := { parts.peer with adopted := none } } : Parts).unregister
          [registration]) :=
      accounted.release
    exact released.closeChannel _

private theorem ChannelsKept.adoptChannel {parts : Parts} (kept : parts.ChannelsKept)
    (id : ChannelId) :
    (parts.adoptChannel id).ChannelsKept := by
  unfold Parts.adoptChannel
  dsimp only
  split
  · exact kept.settlePending id
  · exact (kept.settlePending id).releaseChannel.useChannel (adopted_releaseChannel _) id

private theorem ChannelsKept.channelAnnounced {parts : Parts} (kept : parts.ChannelsKept)
    (id : ChannelId) : (parts.channelAnnounced id).ChannelsKept := by
  unfold Parts.channelAnnounced
  split
  · exact kept
  · rename_i channel found
    split
    · exact .congr (besidesReports_raiseFromPeer _ _) kept
    · exact ChannelsAccounted.await kept found

/-! ## A released channel is closed -/

/-- A channel is there and closed. -/
def ChannelClosed (parts : Parts) (id : ChannelId) : Prop :=
  ∃ channel, parts.platform.channels[id]? = some channel ∧ channel.isClosed = true

namespace ChannelClosed

variable {parts : Parts} {id : ChannelId}

/-- A channel stays closed when no channel changes. -/
theorem of_channels {after : Parts} (closed : parts.ChannelClosed id)
    (same : after.platform.channels = parts.platform.channels) : after.ChannelClosed id := by
  unfold ChannelClosed
  rw [same]
  exact closed

/-- A closed channel stays closed under changes that keep it so. -/
theorem modifyChannel (closed : parts.ChannelClosed id) (other : ChannelId)
    {change : DataChannel → DataChannel}
    (kept : other = id → ∀ channel : DataChannel, channel.isClosed = true →
      (change channel).isClosed = true) :
    (parts.modifyChannel other change).ChannelClosed id := by
  obtain ⟨channel, found, shut⟩ := closed
  unfold ChannelClosed
  simp only [Parts.modifyChannel, Platform.modifyChannel, List.getElem?_modify, found]
  by_cases same : other = id
  · simp only [same, ↓reduceIte]
    exact ⟨change channel, rfl, kept same channel shut⟩
  · simp only [same, ↓reduceIte]
    exact ⟨channel, rfl, shut⟩

end ChannelClosed

private theorem channelClosed_closeChannel {parts : Parts} {id : ChannelId}
    (present : id < parts.platform.channels.length) :
    (parts.closeChannel id).ChannelClosed id := by
  have found : parts.platform.channels[id]? = some parts.platform.channels[id] :=
    List.getElem?_eq_getElem present
  unfold Parts.closeChannel ChannelClosed
  rw [found]
  dsimp only
  split
  · rename_i closed
    exact ⟨_, found, closed⟩
  · rw [channels_of_reports (besidesReports_channelEmits _ _ _)]
    refine ⟨{ parts.platform.channels[id] with state := .closed }, ?_, rfl⟩
    simp only [modifyChannel, Platform.modifyChannel, List.getElem?_modify, found, ↓reduceIte]
    rfl

/-- The channel in use is closed when it is let go. -/
theorem ChannelsKept.channelClosed_releaseChannel {parts : Parts} (kept : parts.ChannelsKept)
    {registration : ChannelRegistration} (used : parts.peer.adopted = some registration) :
    parts.releaseChannel.ChannelClosed registration.channel := by
  unfold Parts.releaseChannel
  rw [used]
  apply channelClosed_closeChannel
  rw [length_unregister]
  exact kept.adoptedPresent registration (by rw [used]; exact List.mem_singleton_self _)

end Parts

/-! ## Peer connections stay accounted for -/

namespace ConnectionsAccounted

variable {connections : List PeerConnection} {current : Option ConnectionId}
  {registrations : List Nat}

/-- A change of a peer connection that keeps its listeners and does not open it. -/
theorem modify (accounted : ConnectionsAccounted connections current registrations)
    (target : ConnectionId) {change : PeerConnection → PeerConnection}
    (kept : ∀ connection, connections[target]? = some connection →
      (change connection).registered = connection.registered ∧
        (change connection).closed = connection.closed) :
    ConnectionsAccounted (connections.modify target change) current registrations where
  attached := by
    intro id connection found
    rw [List.getElem?_modify] at found
    obtain ⟨earlier, foundEarlier, rfl⟩ := Option.map_eq_some_iff.mp found
    rw [← accounted.attached id earlier foundEarlier]
    by_cases same : target = id
    · subst same
      simpa only [↓reduceIte] using (kept earlier foundEarlier).1
    · simp only [same, ↓reduceIte]
  spent := by
    intro id connection found other
    rw [List.getElem?_modify] at found
    obtain ⟨earlier, foundEarlier, rfl⟩ := Option.map_eq_some_iff.mp found
    have closed := accounted.spent id earlier foundEarlier other
    by_cases same : target = id
    · subst same
      simpa only [↓reduceIte, (kept earlier foundEarlier).2] using closed
    · simpa only [same, ↓reduceIte] using closed
  present := by
    intro id used
    rw [List.length_modify]
    exact accounted.present id used

/-- The peer connection in use given up with everything registered on it, and closed. -/
theorem release {id : ConnectionId} {change : PeerConnection → PeerConnection}
    (accounted : ConnectionsAccounted connections (some id) registrations)
    (cleared : ∀ connection : PeerConnection, connection.registered = registrations →
      (change connection).registered = [])
    (closes : ∀ connection : PeerConnection, (change connection).closed = true) :
    ConnectionsAccounted (connections.modify id change) none [] where
  attached := by
    intro other connection found
    rw [List.getElem?_modify] at found
    obtain ⟨earlier, foundEarlier, rfl⟩ := Option.map_eq_some_iff.mp found
    have attached := accounted.attached other earlier foundEarlier
    simp only [reduceCtorEq, ↓reduceIte]
    by_cases same : id = other
    · rw [if_pos (congrArg some same)] at attached
      simpa only [same, ↓reduceIte] using cleared earlier attached
    · rw [if_neg fun equal => same (Option.some.inj equal)] at attached
      simpa only [same, ↓reduceIte] using attached
  spent := by
    intro other connection found _
    rw [List.getElem?_modify] at found
    obtain ⟨earlier, foundEarlier, rfl⟩ := Option.map_eq_some_iff.mp found
    by_cases same : id = other
    · simpa only [same, ↓reduceIte] using closes earlier
    · have unused : some id ≠ some other := fun equal => same (Option.some.inj equal)
      simpa only [same, ↓reduceIte] using accounted.spent other earlier foundEarlier unused
  present := fun _ used => nomatch used

/-- A new peer connection put into use when there is none. -/
theorem create (accounted : ConnectionsAccounted connections none registrations)
    (connection : PeerConnection) :
    ConnectionsAccounted (connections ++ [connection]) (some connections.length)
      connection.registered where
  attached := by
    intro id present found
    rcases Nat.lt_or_ge id connections.length with inside | beyond
    · rw [List.getElem?_append_left inside] at found
      rw [accounted.attached id present found, if_neg (fun equal => nomatch equal),
        if_neg fun equal => Nat.ne_of_lt inside (Option.some.inj equal).symm]
    · have last : id = connections.length := by
        have bound := (List.getElem?_eq_some_iff.mp found).1
        rw [List.length_append, List.length_singleton] at bound
        exact Nat.le_antisymm (Nat.lt_succ_iff.mp bound) beyond
      subst last
      rw [List.getElem?_concat_length] at found
      rw [if_pos rfl, Option.some.inj found]
  spent := by
    intro id present found other
    rcases Nat.lt_or_ge id connections.length with inside | beyond
    · rw [List.getElem?_append_left inside] at found
      exact accounted.spent id present found (fun used => nomatch used)
    · have bound := (List.getElem?_eq_some_iff.mp found).1
      rw [List.length_append, List.length_singleton] at bound
      exact (other (congrArg some (Nat.le_antisymm beyond (Nat.lt_succ_iff.mp bound)))).elim
  present := by
    intro id used
    rw [← Option.some.inj used, List.length_append, List.length_singleton]
    exact Nat.lt_succ_self _

end ConnectionsAccounted

/-- An event of a peer connection neither adds a listener nor closes it. -/
theorem PeerConnection.after_kept (connection : PeerConnection) (event : ConnectionEvent) :
    (connection.after event).listeners = connection.listeners ∧
      (connection.after event).closed = connection.closed := by
  cases event <;> exact ⟨rfl, rfl⟩

/-! ## Every move keeps the accounts -/

namespace Parts

namespace Accounted

variable {parts : Parts}

/-- Reports alone do not unsettle the accounts. -/
theorem congr {before after : Parts} (same : after.besidesReports = before.besidesReports)
    (accounted : before.Accounted) : after.Accounted := by
  have erased : after.besidesReports.Accounted := by
    rw [same]
    exact ⟨accounted.channels, accounted.connections, accounted.resting⟩
  exact ⟨erased.channels, erased.connections, erased.resting⟩

/-- Work on the channels of a link with a peer connection. -/
theorem of_channels {before after : Parts} (accounted : before.Accounted)
    (same : after.besidesChannels = before.besidesChannels)
    (present : before.peer.connection ≠ none) (kept : after.ChannelsKept) : after.Accounted where
  channels := kept
  connections := by
    rw [connections_of_channels same, connection_of_channels same,
      registrations_of_channels same]
    exact accounted.connections
  resting := by
    intro absent
    exact (present ((connection_of_channels same).symm.trans absent)).elim

private theorem modifyConnection (accounted : parts.Accounted) (id : ConnectionId)
    {change : PeerConnection → PeerConnection}
    (kept : ∀ connection, parts.platform.connections[id]? = some connection →
      (change connection).listeners = connection.listeners ∧
        (change connection).closed = connection.closed) :
    (parts.modifyConnection id change).Accounted where
  channels := accounted.channels
  connections := accounted.connections.modify id fun connection found => by
    obtain ⟨listeners, closed⟩ := kept connection found
    refine ⟨?_, closed⟩
    rw [PeerConnection.registered, listeners]
    rfl
  resting := accounted.resting

private theorem raiseFromPeer (accounted : parts.Accounted) (item : WorkItem) :
    (parts.raiseFromPeer item).Accounted :=
  accounted.congr (besidesReports_raiseFromPeer parts item)

private theorem addLocalTracks (accounted : parts.Accounted) (id : ConnectionId) :
    (parts.addLocalTracks id).Accounted := by
  unfold Parts.addLocalTracks
  split
  · exact accounted.modifyConnection id fun connection _ => by
      rw [connection.addTracks_eq]
      exact ⟨rfl, rfl⟩
  · exact accounted

private theorem flushHeld (accounted : parts.Accounted) (id : ConnectionId) :
    (parts.flushHeld id).Accounted where
  channels := accounted.channels
  connections := accounted.connections.modify id fun connection _ => by
    rw [connection.foldl_addCandidate_eq]
    exact ⟨rfl, rfl⟩
  resting := fun absent =>
    have ⟨registrations, _, rest⟩ := accounted.resting absent
    ⟨registrations, rfl, rest⟩

/-- An item applied by a link with a peer connection. -/
theorem applyItem (accounted : parts.Accounted) {id : ConnectionId} {connection : PeerConnection}
    (used : parts.peer.connection = some id)
    (found : parts.platform.connections[id]? = some connection) (item : PeerItem) :
    (parts.applyItem id connection item).Accounted := by
  have present : parts.peer.connection ≠ none := by
    rw [used]
    exact Option.some_ne_none id
  cases item with
  | userJoined =>
      exact (accounted.of_channels (besidesChannels_openChannel parts connection) present
        (ChannelsKept.openChannel accounted.channels connection)).addLocalTracks id
  | webrtcOffer offer =>
      simp only [Parts.applyItem]
      split
      · exact accounted.addLocalTracks id
      · rename_i current foundCurrent
        split
        · exact accounted.addLocalTracks id
        · rename_i answer answered accepted
          refine (Accounted.flushHeld ?_ id).raiseFromPeer _
          refine (accounted.addLocalTracks id).modifyConnection id fun earlier foundEarlier => ?_
          rw [foundCurrent] at foundEarlier
          rw [← Option.some.inj foundEarlier, (acceptOffer_eq_ok accepted).2]
          exact ⟨rfl, rfl⟩
  | webrtcAcceptance answer =>
      simp only [Parts.applyItem]
      split
      · exact accounted
      · rename_i described accepted
        refine Accounted.flushHeld ?_ id
        refine accounted.modifyConnection id fun earlier foundEarlier => ?_
        rw [found] at foundEarlier
        rw [← Option.some.inj foundEarlier, (PeerConnection.setRemote_eq_ok accepted).2]
        exact ⟨rfl, rfl⟩
  | webrtcCandidate candidate =>
      simp only [Parts.applyItem]
      split
      · exact ⟨accounted.channels, accounted.connections, fun absent => (present absent).elim⟩
      · exact accounted.modifyConnection id fun _ _ => ⟨rfl, rfl⟩
  | dataChannel channel =>
      refine accounted.of_channels ?_ present
        ((ChannelsKept.adoptChannel accounted.channels channel).sendToPeer _)
      exact (besidesChannels_sendState _ _).trans (besidesChannels_adoptChannel _ _)
  | sendInitialState =>
      exact accounted.of_channels (besidesChannels_sendState _ _) present
        (ChannelsKept.sendToPeer accounted.channels _)
  | negotiationNeeded =>
      simp only [Parts.applyItem]
      split
      · exact accounted
      · rename_i offer offering made
        refine Accounted.raiseFromPeer ?_ _
        refine accounted.modifyConnection id fun earlier foundEarlier => ?_
        rw [found] at foundEarlier
        rw [← Option.some.inj foundEarlier, makeOffer_eq_ok made]
        exact ⟨rfl, rfl⟩

/-- The accounts of a link hold after each item. -/
theorem processItem (accounted : parts.Accounted) (item : PeerItem) :
    (parts.processItem item).2.Accounted := by
  unfold Parts.processItem
  split
  · exact accounted
  · rename_i id connection inUse
    obtain ⟨used, present⟩ := peerConnection?_eq_some inUse
    exact accounted.applyItem used present item

/-- A report heard by a link with a peer connection. -/
theorem peerHeard (accounted : parts.Accounted) (present : parts.peer.connection ≠ none)
    (event : ConnectionEvent) : (parts.peerHeard event).Accounted := by
  cases event with
  | negotiationNeeded => exact accounted.raiseFromPeer _
  | iceCandidate candidate =>
      cases candidate with
      | none => exact accounted
      | some candidate => exact accounted.raiseFromPeer _
  | track track =>
      refine Accounted.raiseFromPeer ?_ _
      exact ⟨accounted.channels, accounted.connections, accounted.resting⟩
  | iceState state =>
      simp only [Parts.peerHeard, pathChanged]
      have known : Accounted { parts with
          peer := { parts.peer with
            connected := PeerLink.connectedAfter parts.peer.connected state } } :=
        ⟨accounted.channels, accounted.connections, fun absent => (present absent).elim⟩
      split
      · exact known.raiseFromPeer _
      · exact known
  | dataChannel id =>
      exact accounted.of_channels (besidesChannels_channelAnnounced parts id) present
        (ChannelsKept.channelAnnounced accounted.channels id)

end Accounted

/-- No report makes a link give up its peer connection. -/
@[simp] theorem connection_peerHeard (parts : Parts) (event : ConnectionEvent) :
    (parts.peerHeard event).peer.connection = parts.peer.connection := by
  have raised (current : Parts) (item : WorkItem) :
      (current.raiseFromPeer item).peer.connection = current.peer.connection :=
    connection_of_channels (besidesChannels_raiseFromPeer current item)
  cases event with
  | negotiationNeeded => exact raised ..
  | iceCandidate candidate =>
      cases candidate with
      | none => rfl
      | some candidate => exact raised ..
  | track track => exact raised ..
  | iceState state =>
      simp only [peerHeard, pathChanged]
      split
      · exact raised ..
      · rfl
  | dataChannel id =>
      exact connection_of_channels (besidesChannels_channelAnnounced parts id)

namespace Accounted

variable {parts : Parts}

/-- A peer connection tells the link only if it is the one in use. -/
theorem connectionEmits (accounted : parts.Accounted) (id : ConnectionId)
    (event : ConnectionEvent) : (parts.connectionEmits id event).Accounted := by
  unfold Parts.connectionEmits
  split
  · exact accounted
  · rename_i connection found
    have changed : (parts.modifyConnection id (·.after event)).Accounted :=
      accounted.modifyConnection id fun current _ => current.after_kept event
    by_cases used : parts.peer.connection = some id
    · refine (eachUntilCrash_preserves
        (motive := fun current => current.Accounted ∧ current.peer.connection = some id) ?_
        ⟨changed, used⟩).1
      rintro current audience _ ⟨holds, same⟩
      cases audience with
      | link =>
          refine ⟨holds.peerHeard ?_ event, (connection_peerHeard current event).trans same⟩
          rw [same]
          exact Option.some_ne_none id
      | note => exact ⟨holds.congr (besidesReports_note current _), same⟩
    · have empty := accounted.connections.attached id connection found
      rw [if_neg used] at empty
      refine eachUntilCrash_preserves ?_ changed
      intro current audience member holds
      rw [PeerConnection.audience_of_registered_nil empty event.kind audience member]
      exact holds.congr (besidesReports_note current _)

/-- Only the channels of a link, which may rest, were changed, and none of its own
listeners. -/
theorem of_gate {before after : Parts} (accounted : before.Accounted)
    (link : after.peer.besidesGate = before.peer.besidesGate)
    (connections : after.platform.connections = before.platform.connections)
    (kept : after.ChannelsKept) : after.Accounted where
  channels := kept
  connections := by
    have current := congrArg PeerLink.connection link
    have registrations := congrArg PeerLink.registrations link
    change after.peer.connection = before.peer.connection at current
    change after.peer.registrations = before.peer.registrations at registrations
    rw [connections, current, registrations]
    exact accounted.connections
  resting := by
    intro absent
    have current := congrArg PeerLink.connection link
    have rests : before.peer.besidesGate.AtRest := accounted.resting (current.symm.trans absent)
    rw [← link] at rests
    exact rests

/-- The accounts of a link hold after a channel was closed. -/
theorem closeChannel (accounted : parts.Accounted) (id : ChannelId) :
    (parts.closeChannel id).Accounted :=
  accounted.of_gate (besidesGate_closeChannel parts id)
    (connections_of_channels (besidesChannels_closeChannel parts id))
    (ChannelsKept.closeChannel accounted.channels id)

/-- The accounts of a link hold after a channel opened. -/
theorem openChannelNow (accounted : parts.Accounted) (id : ChannelId) :
    (parts.openChannelNow id).Accounted :=
  accounted.of_gate (besidesGate_openChannelNow parts id)
    (connections_of_channels (besidesChannels_openChannelNow parts id))
    (ChannelsKept.openChannelNow accounted.channels id)

/-- The accounts of a link hold after a text was sent. -/
theorem sendToPeer (accounted : parts.Accounted) (text : String) :
    (parts.sendToPeer text).Accounted :=
  accounted.of_gate (congrArg PeerLink.besidesGate (peer_sendToPeer parts text))
    (connections_of_channels (besidesChannels_sendToPeer parts text))
    (ChannelsKept.sendToPeer accounted.channels text)

/-- Work on the relay does not concern the link to the peer. -/
theorem of_relay {before after : Parts} (accounted : before.Accounted)
    (same : after.besidesRelay = before.besidesRelay) : after.Accounted := by
  have erased : after.besidesRelay.Accounted := by
    rw [same]
    exact ⟨accounted.channels, accounted.connections, accounted.resting⟩
  exact ⟨erased.channels, erased.connections, erased.resting⟩

end Accounted

end Parts

end CallControl
