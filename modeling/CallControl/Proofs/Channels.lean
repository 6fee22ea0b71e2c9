import CallControl.Proofs.CleanUp
import CallControl.Proofs.Raised

/-! # The channel in use

A link opens one channel of its own at most, and none once a channel is in use; a channel
that is handed over later replaces the one in use and closes it. Its listeners on each
channel are those that it remembers, so a message is taken in once on the channel in use
and on no other (`Parts.channels_in_use`).
-/

namespace CallControl

/-- The channel in use, and where the channels come from. -/
structure Custody where
  adopted : Option ChannelRegistration
  origins : List ChannelOrigin

/-- One channel of this side's own was added at most, and none unless one is in use. -/
def Custody.Bounded (custody : Custody) (earlier : Nat) : Prop :=
  custody.origins.count .own ≤ earlier + if custody.adopted.isSome then 1 else 0

private theorem Custody.Bounded.le_succ {custody : Custody} {earlier : Nat}
    (bounded : custody.Bounded earlier) : custody.origins.count .own ≤ earlier + 1 := by
  unfold Bounded at bounded
  split at bounded
  · exact bounded
  · exact Nat.le_succ_of_le bounded

/-- Channels are made: by the peer, or on this side when none is in use. -/
inductive Custody.Grows (before : Custody) : Custody → Prop
  | same : Grows before before
  | announced : Grows before ⟨before.adopted, before.origins ++ [.announced]⟩
  | opened (unused : before.adopted = none) (registration : ChannelRegistration) :
      Grows before ⟨some registration, before.origins ++ [.own]⟩

private theorem Custody.Grows.adopted {before after : Custody} (grows : before.Grows after)
    {registration : ChannelRegistration} (used : before.adopted = some registration) :
    after.adopted = some registration := by
  cases grows with
  | same => exact used
  | announced => exact used
  | opened unused => exact nomatch unused.symm.trans used

private theorem Custody.Bounded.grow {before after : Custody} {earlier : Nat}
    (bounded : before.Bounded earlier) (grows : before.Grows after) : after.Bounded earlier := by
  unfold Bounded at *
  cases grows with
  | same => exact bounded
  | announced =>
      rw [List.count_append]
      exact bounded
  | opened unused registration =>
      rw [unused] at bounded
      rw [List.count_append]
      exact Nat.succ_le_succ bounded

namespace Parts

/-- The channel that a link uses, and where the channels of its platform come from. -/
def custody (parts : Parts) : Custody :=
  ⟨parts.peer.adopted, parts.platform.channels.map DataChannel.origin⟩

/-! ## What leaves the custody alone -/

/-- Reports leave the custody of the channels alone. -/
theorem custody_of_reports {before after : Parts}
    (same : after.besidesReports = before.besidesReports) : after.custody = before.custody :=
  (congrArg (fun rest : Parts => rest.custody) same :)

private theorem custody_of_relay {before after : Parts}
    (same : after.besidesRelay = before.besidesRelay) : after.custody = before.custody :=
  (congrArg (fun rest : Parts => rest.custody) same :)

private theorem custody_modifyChannel (parts : Parts) (id : ChannelId)
    {change : DataChannel → DataChannel}
    (kept : ∀ channel : DataChannel, (change channel).origin = channel.origin) :
    (parts.modifyChannel id change).custody = parts.custody :=
  congrArg (Custody.mk parts.peer.adopted) (map_modify_of_eq kept parts.platform.channels id)

private theorem custody_closeChannel (parts : Parts) (id : ChannelId) :
    (parts.closeChannel id).custody = parts.custody := by
  unfold closeChannel
  split
  · rfl
  · split
    · rfl
    · rw [custody_of_reports (besidesReports_channelEmits _ _ _)]
      exact custody_modifyChannel parts id fun _ => rfl

private theorem custody_openChannelNow (parts : Parts) (id : ChannelId) :
    (parts.openChannelNow id).custody = parts.custody :=
  (custody_of_reports (besidesReports_channelEmits _ _ _)).trans
    (custody_modifyChannel parts id fun _ => rfl)

/-- Sending leaves the custody of the channels alone. -/
theorem custody_sendToPeer (parts : Parts) (text : String) :
    (parts.sendToPeer text).custody = parts.custody := by
  unfold sendToPeer
  split
  · rfl
  · refine custody_modifyChannel parts _ fun channel => ?_
    split
    · rename_i sent accepted
      unfold DataChannel.send at accepted
      split at accepted
      · cases accepted
      · cases accepted
        rfl
    · rfl

private theorem custody_unregister (parts : Parts) (registrations : List ChannelRegistration) :
    (parts.unregister registrations).custody = parts.custody :=
  unregister_eq custody (fun current id _ => custody_modifyChannel current id fun _ => rfl) parts
    registrations

private theorem custody_settlePending (parts : Parts) (id : ChannelId) :
    (parts.settlePending id).custody = parts.custody :=
  custody_unregister parts _

private theorem custody_channelAnnounced (parts : Parts) (id : ChannelId) :
    (parts.channelAnnounced id).custody = parts.custody := by
  unfold channelAnnounced
  split
  · rfl
  · split
    · exact custody_of_reports (besidesReports_raiseFromPeer parts _)
    · exact custody_modifyChannel parts id fun _ => rfl

private theorem custody_peerHeard (parts : Parts) (event : ConnectionEvent) :
    (parts.peerHeard event).custody = parts.custody :=
  peerHeard_eq custody
    (fun current item => custody_of_reports (besidesReports_raiseFromPeer current item))
    custody_channelAnnounced (fun _ _ _ => rfl) parts event

private theorem custody_undergo (parts : Parts) (occurrence : Occurrence) :
    (parts.undergo occurrence).custody = parts.custody :=
  undergo_eq custody custody_of_relay
    (fun current _ event => connectionEmits_eq custody (fun _ => rfl)
      (fun current => custody_peerHeard current event) (fun _ => rfl) current)
    custody_openChannelNow (fun _ _ _ => custody_of_reports (besidesReports_channelEmits ..))
    custody_closeChannel parts occurrence

private theorem custody_initPeer (parts : Parts) : parts.initPeer.2.custody = parts.custody :=
  initPeer_eq custody fun _ => rfl

private theorem custody_addLocalTracks (parts : Parts) (id : ConnectionId) :
    (parts.addLocalTracks id).custody = parts.custody := by
  unfold addLocalTracks
  split <;> rfl

/-! ## What changes it -/

private theorem custody_releaseChannel (parts : Parts) :
    parts.releaseChannel.custody = ⟨none, parts.custody.origins⟩ := by
  unfold releaseChannel
  split
  · rename_i unused
    simp only [custody, unused]
  · rw [custody_closeChannel, custody_unregister]
    rfl

private theorem custody_useChannel {parts : Parts} {id : ChannelId}
    (present : id < parts.platform.channels.length) :
    ∃ listener, (parts.useChannel id).custody = ⟨some ⟨id, listener⟩, parts.custody.origins⟩ := by
  have found : parts.platform.channels[id]? = some parts.platform.channels[id] :=
    List.getElem?_eq_getElem present
  have listening : (parts.modifyChannel id (·.addListener .peerMessages)).custody =
      parts.custody :=
    custody_modifyChannel parts id fun _ => rfl
  refine ⟨parts.platform.channels[id].nextListener, ?_⟩
  unfold useChannel
  rw [found]
  exact congrArg (fun custody : Custody => Custody.mk _ custody.origins) listening

private theorem grows_openChannel (parts : Parts) (connection : PeerConnection) :
    parts.custody.Grows (parts.openChannel connection).custody := by
  unfold openChannel
  split
  · exact .same
  · rename_i free
    have unused : parts.peer.adopted = none := by
      rw [Bool.or_eq_true, not_or, Option.isSome_iff_ne_none, not_not] at free
      exact free.1
    let added : Parts := { parts with
      platform := parts.platform.addChannel (.make .own parts.peer.label) }
    have origins : added.custody.origins = parts.custody.origins ++ [.own] := List.map_append ..
    have present : parts.platform.channels.length < added.platform.channels.length := by
      change _ < (parts.platform.channels ++ [_]).length
      rw [List.length_append]
      exact Nat.lt_succ_self _
    obtain ⟨listener, used⟩ := custody_useChannel present
    rw [origins] at used
    change parts.custody.Grows (added.useChannel parts.platform.channels.length).custody
    rw [used]
    exact .opened unused _

/-- A channel that is handed over is the one in use afterwards. -/
theorem custody_adoptChannel {parts : Parts} {id : ChannelId}
    (present : id < parts.platform.channels.length) :
    ∃ listener,
      (parts.adoptChannel id).custody = ⟨some ⟨id, listener⟩, parts.custody.origins⟩ := by
  have settled := custody_settlePending parts id
  have released := custody_releaseChannel (parts.settlePending id)
  rw [settled] at released
  have length : (parts.settlePending id).releaseChannel.platform.channels.length =
      parts.platform.channels.length := by
    have same := congrArg (fun custody : Custody => custody.origins.length) released
    simpa only [custody, List.length_map] using same
  obtain ⟨listener, used⟩ := custody_useChannel (length ▸ present)
  rw [released] at used
  unfold adoptChannel
  dsimp only
  cases inUse : (parts.settlePending id).peer.adopted with
  | none => exact ⟨listener, used⟩
  | some registration =>
      rw [Option.any_some]
      split
      · rename_i same
        obtain ⟨channel, current⟩ := registration
        have here : channel = id := eq_of_beq same
        subst here
        refine ⟨current, ?_⟩
        rw [← settled, custody, inUse]
      · exact ⟨listener, used⟩

/-- Nothing changes in the use of channels when the one in use is handed over again. -/
theorem custody_adoptChannel_self {parts : Parts} {registration : ChannelRegistration}
    (used : parts.peer.adopted = some registration) :
    (parts.adoptChannel registration.channel).custody = parts.custody := by
  have settled := custody_settlePending parts registration.channel
  have still := (congrArg Custody.adopted settled).trans used
  change (parts.settlePending registration.channel).peer.adopted = some registration at still
  unfold adoptChannel
  dsimp only
  rw [still, Option.any_some, if_pos (beq_self_eq_true registration.channel)]
  exact settled

/-- The channel that was in use is closed when another one is handed over. -/
theorem ChannelsKept.channelClosed_adoptChannel {parts : Parts} (kept : parts.ChannelsKept)
    {registration : ChannelRegistration} (used : parts.peer.adopted = some registration)
    {id : ChannelId} (other : id ≠ registration.channel) :
    (parts.adoptChannel id).ChannelClosed registration.channel := by
  have still : (parts.settlePending id).peer.adopted = some registration :=
    (congrArg Custody.adopted (custody_settlePending parts id)).trans used
  have released := (kept.settlePending id).channelClosed_releaseChannel still
  unfold Parts.adoptChannel
  dsimp only
  rw [still, Option.any_some, if_neg fun same => other (eq_of_beq same).symm]
  unfold Parts.useChannel
  split
  · exact released
  · exact released.modifyChannel id fun _ _ closed => closed

private theorem channelClosed_sendToPeer {parts : Parts} {id : ChannelId}
    (closed : parts.ChannelClosed id) (text : String) :
    (parts.sendToPeer text).ChannelClosed id := by
  unfold sendToPeer
  split
  · exact closed
  · refine closed.modifyChannel _ fun _ channel shut => ?_
    have refused : channel.send text = .error (.call .dataChannelSend) := by
      have unable : (channel.failsToSend || channel.state == .closed) = true := by
        rw [Bool.or_eq_true]
        exact Or.inr shut
      exact if_pos unable
    rw [refused]
    exact shut

/-! ## Moves of a link -/

/-- A channel that a move hands over is there. -/
def HasChannelFor (parts : Parts) (move : LinkMove) : Prop :=
  ∀ id, move = .item (.dataChannel id) → id < parts.platform.channels.length

/-- Every channel that some moves hand over is there by then. -/
def HasChannelsFor (parts : Parts) : List LinkMove → Prop
  | [] => True
  | move :: rest => parts.HasChannelFor move ∧ (parts.linkMove move).HasChannelsFor rest

private theorem HasChannelsFor.concat {parts : Parts} {moves : List LinkMove} {move : LinkMove}
    (present : parts.HasChannelsFor moves) (last : (parts.linkRun moves).HasChannelFor move) :
    parts.HasChannelsFor (moves ++ [move]) := by
  induction moves generalizing parts with
  | nil => exact ⟨last, trivial⟩
  | cons first rest ih => exact ⟨present.1, ih present.2 last⟩

/-- Items that negotiate do not concern the channels. -/
theorem custody_applyItem (parts : Parts) (id : ConnectionId) (connection : PeerConnection)
    {item : PeerItem} (unjoined : item ≠ .userJoined)
    (other : ∀ channel, item ≠ .dataChannel channel) :
    (parts.applyItem id connection item).custody = parts.custody := by
  have raised (current : Parts) (raising : WorkItem) :
      (current.raiseFromPeer raising).custody = current.custody :=
    custody_of_reports (besidesReports_raiseFromPeer current raising)
  cases item with
  | userJoined => exact (unjoined rfl).elim
  | dataChannel channel => exact (other channel rfl).elim
  | webrtcOffer offer =>
      have tracked := custody_addLocalTracks parts id
      simp only [applyItem]
      split
      · exact tracked
      · split
        · exact tracked
        · exact (raised ..).trans tracked
  | webrtcAcceptance answer =>
      simp only [applyItem]
      split <;> rfl
  | webrtcCandidate candidate =>
      simp only [applyItem]
      split <;> rfl
  | sendInitialState => exact custody_sendToPeer parts _
  | negotiationNeeded =>
      simp only [applyItem]
      split
      · rfl
      · exact raised ..

/-- Only a channel that is handed over replaces the one in use. -/
theorem grows_linkMove (parts : Parts) {move : LinkMove} (kept : move ≠ .cleanUp)
    (other : ∀ id, move ≠ .item (.dataChannel id)) :
    parts.custody.Grows (parts.linkMove move).custody := by
  have quiet {after : Parts} (same : after.custody = parts.custody) :
      parts.custody.Grows after.custody := by
    rw [same]
    exact .same
  cases move with
  | initialise => exact quiet (custody_initPeer parts)
  | item item =>
      change parts.custody.Grows (parts.processItem item).2.custody
      unfold processItem
      split
      · exact .same
      · rename_i id connection _
        by_cases joined : item = .userJoined
        · subst joined
          change parts.custody.Grows ((parts.openChannel connection).addLocalTracks id).custody
          rw [custody_addLocalTracks]
          exact grows_openChannel parts connection
        · refine quiet (custody_applyItem parts id connection joined ?_)
          rintro channel rfl
          exact other channel rfl
  | sendState requestState => exact quiet (custody_sendToPeer parts _)
  | sendEvent event => exact quiet (custody_sendToPeer parts _)
  | cleanUp => exact (kept rfl).elim
  | event occurrence => exact quiet (custody_undergo parts occurrence)
  | adjust adjustment =>
      cases adjustment with
      | newChannel label =>
          have origins : (parts.linkMove (.adjust (.newChannel label))).custody =
              ⟨parts.custody.adopted, parts.custody.origins ++ [.announced]⟩ :=
            congrArg (Custody.mk parts.peer.adopted) (List.map_append ..)
          rw [origins]
          exact .announced
      | channelFails id fails => exact quiet (custody_modifyChannel parts id fun _ => rfl)
      | overhearChannel id => exact quiet (custody_modifyChannel parts id fun _ => rfl)
      | _ => exact .same

/-- A channel that is handed over to a link with a peer connection is put into use, and the
link asks for the peer's state on it. -/
theorem linkMove_dataChannel (parts : Parts) (id : ChannelId) :
    parts.linkMove (.item (.dataChannel id)) = parts.recover ∨
      parts.linkMove (.item (.dataChannel id)) =
        ((parts.adoptChannel id).sendState true).recover := by
  unfold linkMove processItem
  cases parts.peerConnection? with
  | none => exact Or.inl rfl
  | some current => exact Or.inr rfl

private theorem bounded_linkMove {parts : Parts} {earlier : Nat}
    (bounded : parts.custody.Bounded earlier)
    {move : LinkMove} (kept : move ≠ .cleanUp) (present : parts.HasChannelFor move) :
    (parts.linkMove move).custody.Bounded earlier := by
  by_cases handed : ∃ id, move = .item (.dataChannel id)
  · obtain ⟨id, rfl⟩ := handed
    rcases linkMove_dataChannel parts id with same | same
    · rw [same]
      exact bounded
    · obtain ⟨listener, used⟩ := custody_adoptChannel (present id rfl)
      rw [same]
      change ((parts.adoptChannel id).sendToPeer _).custody.Bounded earlier
      rw [custody_sendToPeer, used]
      exact bounded.le_succ
  · exact bounded.grow (grows_linkMove parts kept fun id same => handed ⟨id, same⟩)

private theorem bounded_linkRun {parts : Parts} {earlier : Nat}
    (bounded : parts.custody.Bounded earlier)
    {moves : List LinkMove} (kept : .cleanUp ∉ moves) (present : parts.HasChannelsFor moves) :
    (parts.linkRun moves).custody.Bounded earlier := by
  induction moves generalizing parts with
  | nil => exact bounded
  | cons move rest ih =>
      have uncleaned : move ≠ .cleanUp := by
        rintro rfl
        exact kept List.mem_cons_self
      exact ih (bounded_linkMove bounded uncleaned present.1)
        (fun member => kept (List.mem_cons_of_mem _ member)) present.2

/-- Until a link is cleaned up the channel in use stays in use, unless another one is
handed over; then it is closed. -/
theorem adopted_linkMove {parts : Parts} (channels : parts.ChannelsKept) {move : LinkMove}
    (kept : move ≠ .cleanUp) (present : parts.HasChannelFor move)
    {previous : ChannelRegistration} (used : parts.peer.adopted = some previous) :
    (parts.linkMove move).peer.adopted = some previous ∨
      (∃ next, (parts.linkMove move).peer.adopted = some next ∧
        next.channel ≠ previous.channel) ∧
      (parts.linkMove move).ChannelClosed previous.channel := by
  by_cases handed : ∃ id, move = .item (.dataChannel id)
  · obtain ⟨id, rfl⟩ := handed
    rcases linkMove_dataChannel parts id with same | same
    · rw [same]
      exact Or.inl used
    · have sent := custody_sendToPeer (parts.adoptChannel id)
        ((parts.adoptChannel id).stateReport true).toText
      rw [same]
      by_cases here : id = previous.channel
      · subst here
        rw [custody_adoptChannel_self used] at sent
        exact Or.inl ((congrArg Custody.adopted sent).trans used)
      · obtain ⟨listener, next⟩ := custody_adoptChannel (present id rfl)
        rw [next] at sent
        have closed := channels.channelClosed_adoptChannel used here
        exact Or.inr ⟨⟨⟨id, listener⟩, congrArg Custody.adopted sent, here⟩,
          channelClosed_sendToPeer closed _⟩
  · have grows := grows_linkMove parts kept fun id same => handed ⟨id, same⟩
    exact Or.inl (grows.adopted used)

/-! ## What a message raises -/

/-- Each listener that takes in messages raises what the message asks for. -/
theorem flatMap_asks_message (channel : DataChannel) (id : ChannelId) (text : String) :
    ((channel.listeners.map ChannelListener.role).flatMap fun role =>
        role.asks id (.message text)) =
      (channel.registered .peerMessages).flatMap fun _ => PeerMessage.asks text := by
  unfold DataChannel.registered
  generalize channel.listeners = listeners
  induction listeners with
  | nil => rfl
  | cons listener rest ih =>
      rw [List.map_cons, List.flatMap_cons, ih, List.filter_cons]
      cases listener.role <;> rfl

/-- A message is taken in once on the channel in use and on no other. -/
theorem ChannelsKept.reports_message {parts : Parts} (kept : parts.ChannelsKept) (id : ChannelId)
    (text : String) :
    parts.reports (.channelMessage id text) =
      if parts.peer.adopted.any fun registration => registration.channel == id then
        PeerMessage.asks text
      else [] := by
  have inUse : (listenersOn id parts.peer.adopted.toList).flatMap
      (fun _ => PeerMessage.asks text) =
      if parts.peer.adopted.any fun registration => registration.channel == id then
        PeerMessage.asks text
      else [] := by
    cases parts.peer.adopted with
    | none => rfl
    | some registration =>
        rw [Option.toList_some, listenersOn_singleton, Option.any_some]
        by_cases same : registration.channel = id
        · simp [same]
        · simp [same]
  rw [← inUse]
  simp only [reports, rolesOn]
  cases found : parts.platform.channels[id]? with
  | none =>
      have beyond := List.getElem?_eq_none_iff.mp found
      rw [listenersOn_of_length_le kept.adoptedPresent beyond]
      rfl
  | some channel =>
      rw [← (kept.carried id channel found).receiving]
      exact flatMap_asks_message channel id text

/-! ## Whatever happened before -/

private theorem count_origins (parts : Parts) :
    parts.custody.origins.count .own = Platform.countOrigin .own parts.platform.channels :=
  List.countP_map ..

/-- Whatever happened to a link before, as long as it is not cleaned up its listeners on
each channel are those that wait for the channel to open, one for each pending
registration, and one that takes in messages if it is the channel in use. A channel stays
in use until another one is handed over, and then it is closed. One channel of this side's
own is opened at most, however often the peer joins. So if nothing breaks off and the gate
was never shut, a message raises what it asks for, once and in order, on the channel in
use and nothing on another. -/
theorem channels_in_use (localStream : MediaStream) (tokens : TokenScript)
    (iceConfiguration : Except Failure IceConfiguration) (label : String)
    (history moves : List LinkMove) (kept : .cleanUp ∉ moves)
    (present : ((bareLink localStream tokens iceConfiguration label).linkRun
      history).HasChannelsFor moves) :
    let start := (bareLink localStream tokens iceConfiguration label).linkRun history
    let reached := start.linkRun moves
    (∀ (id : ChannelId) (channel : DataChannel), reached.platform.channels[id]? = some channel →
      channel.Carries (listenersOn id reached.peer.pending)
        (listenersOn id reached.peer.adopted.toList)) ∧
    (∀ move, move ≠ .cleanUp → reached.HasChannelFor move →
      ∀ previous, reached.peer.adopted = some previous →
        (reached.linkMove move).peer.adopted = some previous ∨
          (∃ next, (reached.linkMove move).peer.adopted = some next ∧
            next.channel ≠ previous.channel) ∧
          (reached.linkMove move).ChannelClosed previous.channel) ∧
    Platform.countOrigin .own reached.platform.channels ≤
      Platform.countOrigin .own start.platform.channels + 1 ∧
    (.cleanUp ∉ history → (∀ traps, .adjust (.trap traps) ∉ history ++ moves) →
      ∀ id text,
        (reached.linkMove (.event (.channelMessage id text))).platform.dispatched =
          reached.platform.dispatched ++
            if reached.peer.adopted.any fun registration => registration.channel == id then
              PeerMessage.asks text
            else []) := by
  intro start reached
  have whole : reached = (bareLink localStream tokens iceConfiguration label).linkRun
      (history ++ moves) := (linkRun_append _ history moves).symm
  have channels : reached.ChannelsKept := by
    rw [whole]
    exact (accounted_linkRun localStream tokens iceConfiguration label _).channels
  refine ⟨channels.carried, ?_, ?_, ?_⟩
  · intro move uncleaned there previous used
    exact adopted_linkMove channels uncleaned there used
  · have bounded : start.custody.Bounded (Platform.countOrigin .own start.platform.channels) := by
      unfold Custody.Bounded
      rw [count_origins]
      exact Nat.le_add_right _ _
    rw [← count_origins reached]
    exact (bounded_linkRun bounded kept present).le_succ
  · intro unshut unarmed id text
    have calm : reached.Calm := by
      rw [whole]
      refine (calm_bareLink localStream tokens iceConfiguration label).linkRun ?_ unarmed
      intro member
      exact (List.mem_append.mp member).elim unshut kept
    rw [← channels.reports_message id text]
    exact (raises_undergo calm (.channelMessage id text)).dispatched

/-- A link that opened a channel when its peer joined hears twice of one that the peer
made, and waits for it twice. When it is handed over it replaces the link's own, which is
closed. A message is then taken in on the new one and not on the other. -/
theorem channels_in_use_replaced :
    let start := bareLink ⟨"local", []⟩ (.ofAnswers []) (.ok ⟨[]⟩) "chat"
    let announced : LinkMove := .event (.connection 0 (.dataChannel 1))
    let moves : List LinkMove := [.initialise, .item .userJoined, .item .userJoined,
      .adjust (.newChannel "chat"), announced, announced]
    let handOver : LinkMove := .item (.dataChannel 1)
    let waiting := start.linkRun moves
    let replaced := start.linkRun (moves ++ [handOver])
    (∃ channel, waiting.platform.channels[1]? = some channel ∧ channel.Carries [1, 2] []) ∧
    (waiting.linkMove handOver).ChannelClosed 0 ∧
    Platform.countOrigin .own replaced.platform.channels ≤ 1 ∧
    (replaced.linkMove (.event (.channelMessage 1 " mic_off\n"))).platform.dispatched =
      replaced.platform.dispatched ++ [.coordinator .peerMicTurnedOff] ∧
    (replaced.linkMove (.event (.channelMessage 0 " mic_off\n"))).platform.dispatched =
      replaced.platform.dispatched := by
  intro start announced moves handOver waiting replaced
  have present : start.HasChannelsFor moves :=
    ⟨nofun, nofun, nofun, nofun, nofun, nofun, trivial⟩
  have there : 1 < waiting.platform.channels.length := by decide +kernel
  have handed : waiting.HasChannelFor handOver := by
    intro id same
    change LinkMove.item (.dataChannel 1) = .item (.dataChannel id) at same
    cases same
    exact there
  have earlier : waiting.peer.adopted = some ⟨0, 1⟩ := by decide +kernel
  have later : replaced.peer.adopted = some ⟨1, 3⟩ := by decide +kernel
  have next : (waiting.linkMove handOver).peer.adopted = some ⟨1, 3⟩ := by decide +kernel
  have pending : waiting.peer.pending = [⟨1, 1⟩, ⟨1, 2⟩] := by decide +kernel
  obtain ⟨carried, replaces, _, _⟩ := channels_in_use ⟨"local", []⟩ (.ofAnswers []) (.ok ⟨[]⟩)
    "chat" [] moves (by simp [moves, announced]) present
  obtain ⟨_, _, own, taken⟩ := channels_in_use ⟨"local", []⟩ (.ofAnswers []) (.ok ⟨[]⟩)
    "chat" [] (moves ++ [handOver]) (by simp [moves, announced, handOver])
    (present.concat handed)
  -- The states are named, so that they are not computed to compare them.
  have nameWaiting : waiting = ((bareLink ⟨"local", []⟩ (.ofAnswers []) (.ok ⟨[]⟩) "chat").linkRun
      []).linkRun moves := rfl
  have nameReplaced : replaced = ((bareLink ⟨"local", []⟩ (.ofAnswers []) (.ok ⟨[]⟩)
      "chat").linkRun []).linkRun (moves ++ [handOver]) := rfl
  rw [← nameWaiting] at carried replaces
  rw [← nameReplaced] at own taken
  have message := taken (by simp) (by simp [moves, announced, handOver])
  rw [later] at message
  refine ⟨?_, ?_, Nat.le_trans own (Nat.le_refl 1), message 1 " mic_off\n", ?_⟩
  · have found := List.getElem?_eq_getElem there
    have carries := carried 1 _ found
    rw [pending, earlier] at carries
    exact ⟨_, found, carries⟩
  · rcases replaces handOver nofun handed _ earlier with same | ⟨_, closed⟩
    · cases same.symm.trans next
    · exact closed
  · exact (message 0 " mic_off\n").trans (List.append_nil _)

end Parts

end CallControl
