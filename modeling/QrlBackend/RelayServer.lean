import QrlBackend.Runs
import QrlBackend.Wire

/-!
# The relay server

The Socket.IO handlers of `relay/relayServer.ts` over the channel manager, one event at a
time (`step`).

A handler runs to its next `await` without interruption. Only `join_channel` awaits, so
a session keeps where its join is suspended (`PendingJoin`), and the rest of the handler
runs at a `resumeJoin` event, with any other events in between. An adapter call that
rejects changes no room.

`sockets` is `io.sockets.sockets`. A socket is in it while it is connected and its
connection is open, and leaves it in the turn its `disconnect` handler runs. Socket.IO
puts every socket in the room of its own id (`ownRoom`), and such an id is a channel id. A `session`
is what the closures of a connection handler hold, which outlives the socket. Socket ids
are never used twice.

Writing a packet makes the transport unwritable until it is ready again. `sent` lists the
packets written, and `accepted` the messages acked with success.
-/

set_option autoImplicit false

namespace QrlBackend

def rateLimitWindowMs : ℕ := 60 * 1000
def rateLimitMaxMessages : ℕ := 100
def rateLimitMaxJoins : ℕ := 30
def rateLimitMaxConnections : ℕ := 60
def rateLimitMaxControlEvents : ℕ := 300

/-- The buckets of a rate limit entry. -/
inductive Bucket where
  | connect
  | handshake
  | message
  | join
  | control
  deriving DecidableEq

structure RateLimitEntry where
  counts : Bucket → ℕ
  resetAt : ℕ

/-- The room in which Socket.IO puts a socket when it connects, named by the socket's id. -/
def ownRoom (s : SocketId) : String := toString s

/-- A connected socket. -/
structure Socket where
  rooms : List String
  transport : TransportRef
  writable : Bool

/-- The locals of a `join_channel` handler. -/
structure JoinRequest where
  channelId : String
  clientType : ClientType
  publicKey : Option String
  switchingChannels : Bool
  joinedRoom : Bool
  ack : Bool

/-- Where a `join_channel` handler waits, and whether the awaited call will resolve. -/
inductive Stage (V : Type) where
  | joiningRoom (resolves : Bool)
  | leavingRefused (error : String) (resolves : Bool)
  | leavingTombstone (resolves : Bool)
  | leavingPrevious (bufferedMessages : List (RelayPayload V)) (channelPublicKey : Option String)
      (participants : List ClientType) (resolves : Bool)
  | undoing

/-- A suspended `join_channel` handler. -/
structure PendingJoin (V : Type) where
  request : JoinRequest
  stage : Stage V

/-- What the handlers of one socket share. `joinInProgress` is `joining.isSome`. -/
structure Session (V : Type) where
  clientIp : String
  currentChannelId : Option String
  releasedSocketCounter : Bool
  joining : Option (PendingJoin V)

/-- A listener on a transport, for its next event of one kind. -/
structure Listener where
  transport : TransportRef
  event : TransportEvent
  deriving DecidableEq

/-- A message the `message` handler acked with success, the channel it was routed on and
the role its sender had there. -/
structure Acceptance (V : Type) where
  channel : ChannelRef
  senderType : ClientType
  payload : RelayPayload V

structure RelayServer (V : Type) where
  channelManager : ChannelManager V
  sockets : JsMap SocketId Socket
  sessions : JsMap SocketId (Session V)
  directTransportListeners : JsMap SocketId Listener
  rateLimits : JsMap String RateLimitEntry
  activeSocketsByIp : JsMap String ℕ
  /-- The transport objects created so far. -/
  transports : ℕ
  /-- The payload objects created so far. -/
  payloads : ℕ
  accepted : List (Acceptance V)
  sent : List (SocketId × Packet V)

namespace RelayServer

variable {V : Type}

/-- `createRelayServer`. -/
def create (cfg : Config) : RelayServer V where
  channelManager := .new (some cfg.relayMaxChannelsPerIp)
  sockets := .empty
  sessions := .empty
  directTransportListeners := .empty
  rateLimits := .empty
  activeSocketsByIp := .empty
  transports := 0
  payloads := 0
  accepted := []
  sent := []

/-! ## Sockets -/

def isSocketActive (st : RelayServer V) (socketId : SocketId) : Bool := st.sockets.has socketId

def canSocketReceive (st : RelayServer V) (socketId : SocketId) : Bool :=
  ((st.sockets.get? socketId).any (·.writable)) && !st.directTransportListeners.has socketId

/-- Write a packet to a socket. A socket that is gone gets nothing. -/
def emit (st : RelayServer V) (s : SocketId) (packet : Packet V) : RelayServer V :=
  match st.sockets.get? s with
  | none => st
  | some socket =>
    { st with
      sockets := st.sockets.set s { socket with writable := false }
      sent := st.sent ++ [(s, packet)] }

/-- `volatile.emit` : the packet is dropped unless the transport is writable. -/
def emitVolatile (st : RelayServer V) (s : SocketId) (packet : Packet V) : RelayServer V :=
  if (st.sockets.get? s).any (·.writable) then st.emit s packet else st

/-- `socket.to(room).emit`. -/
def broadcast (st : RelayServer V) (s : SocketId) (room : String) (packet : Packet V) :
    RelayServer V :=
  let receivers :=
    (st.sockets.entries.filter fun e => e.1 ≠ s && e.2.rooms.contains room).map Prod.fst
  receivers.foldl (fun st receiver => st.emit receiver packet) st

/-- Tell the room of a channel that a participant left it, if it was one. -/
def notifyLeft (st : RelayServer V) (s : SocketId) (channelId : String) (event : PresenceEvent)
    (participant : Option Participant) : RelayServer V :=
  match participant with
  | none => st
  | some participant => st.broadcast s channelId (.participantsChanged event participant.clientType)

/-- `callback?.(response)`. -/
def respond (st : RelayServer V) (s : SocketId) (ack : Bool) (response : Response V) :
    RelayServer V :=
  if ack then st.emit s (.ack response) else st

/-- `socket.join`, unless the adapter rejects it. -/
def joinRoom (st : RelayServer V) (s : SocketId) (room : String) (resolves : Bool) :
    RelayServer V :=
  match st.sockets.get? s with
  | none => st
  | some socket =>
    if resolves then
      { st with sockets := st.sockets.set s { socket with rooms := socket.rooms.insert room } }
    else st

/-- `socket.leave`, unless the adapter rejects it. -/
def leaveRoom (st : RelayServer V) (s : SocketId) (room : String) (resolves : Bool) :
    RelayServer V :=
  match st.sockets.get? s with
  | none => st
  | some socket =>
    if resolves then
      { st with sockets := st.sockets.set s { socket with rooms := socket.rooms.erase room } }
    else st

/-- Assign to the closure variables of a socket's handlers. -/
def modifySession (st : RelayServer V) (s : SocketId) (f : Session V → Session V) :
    RelayServer V :=
  match st.sessions.get? s with
  | none => st
  | some session => { st with sessions := st.sessions.set s (f session) }

/-! ## Rate limits -/

/-- Check a named rate limit bucket for an IP address. Returns true if allowed. -/
def checkRateLimit (now : ℕ) (st : RelayServer V) (ip : String) (bucket : Bucket) (limit : ℕ) :
    Bool × RelayServer V :=
  let fresh : RateLimitEntry := ⟨fun _ => 0, now + rateLimitWindowMs⟩
  let entry := match st.rateLimits.get? ip with
    | none => fresh
    | some entry => if entry.resetAt < now then fresh else entry
  let count := entry.counts bucket + 1
  let entry := { entry with counts := fun b => if b = bucket then count else entry.counts b }
  (count ≤ limit, { st with rateLimits := st.rateLimits.set ip entry })

/-- Cleanup rate limit entries periodically. -/
def sweepRateLimits (now : ℕ) (st : RelayServer V) : RelayServer V :=
  let expired := (st.rateLimits.entries.filter fun e => e.2.resetAt < now).map Prod.fst
  { st with rateLimits := expired.foldl (fun limits ip => limits.delete ip) st.rateLimits }

/-! ## Direct deliveries -/

def releaseDirectDelivery (st : RelayServer V) (socketId : SocketId) : RelayServer V :=
  { st with
    directTransportListeners := st.directTransportListeners.delete socketId
    channelManager := st.channelManager.releaseDirectDelivery socketId }

def waitForDirectReady (st : RelayServer V) (socketId : SocketId) (transport : TransportRef) :
    RelayServer V :=
  { st with
    directTransportListeners := st.directTransportListeners.set socketId ⟨transport, .ready⟩ }

def armDirectDelivery (st : RelayServer V) (socketId : SocketId) : Bool × RelayServer V :=
  match st.sockets.get? socketId with
  | none => (false, st)
  | some target =>
    if !target.writable || st.directTransportListeners.has socketId then (false, st)
    else
      (true, { st with
        directTransportListeners :=
          st.directTransportListeners.set socketId ⟨target.transport, .drain⟩ })

/-! ## Disconnection -/

def releaseSocketCounter (st : RelayServer V) (s : SocketId) : RelayServer V :=
  match st.sessions.get? s with
  | none => st
  | some session =>
    if session.releasedSocketCounter then st
    else
      let st := st.modifySession s fun session => { session with releasedSocketCounter := true }
      let count := (st.activeSocketsByIp.get? session.clientIp).getD 0
      { st with
        activeSocketsByIp :=
          if count ≤ 1 then st.activeSocketsByIp.delete session.clientIp
          else st.activeSocketsByIp.set session.clientIp (count - 1) }

/-- Handle disconnection : clean up channel membership. -/
def onDisconnect (now : ℕ) (st : RelayServer V) (s : SocketId) : RelayServer V :=
  let st := (st.releaseSocketCounter s).releaseDirectDelivery s
  match (st.sessions.get? s).bind (·.currentChannelId) with
  | none => st
  | some channelId =>
    let (participant, m) := st.channelManager.leave now s channelId
    { st with channelManager := m }.notifyLeft s channelId .disconnect participant

/-- A connected socket goes away, and its `disconnect` handler runs. -/
def disconnect (now : ℕ) (st : RelayServer V) (s : SocketId) : RelayServer V :=
  match st.sockets.get? s with
  | none => st
  | some _ => { st with sockets := st.sockets.delete s }.onDisconnect now s

/-! ## Transport events -/

/-- The drain listener of `armDirectDelivery`. -/
def onDrain (st : RelayServer V) (s : SocketId) (transport : TransportRef) : RelayServer V :=
  { st with directTransportListeners := st.directTransportListeners.delete s }.waitForDirectReady
    s transport

/-- The ready listener of `waitForDirectReady`. -/
def onReady (now : ℕ) (st : RelayServer V) (s : SocketId) : RelayServer V :=
  let st := { st with directTransportListeners := st.directTransportListeners.delete s }
  match st.sockets.get? s with
  | none => { st with channelManager := st.channelManager.releaseDirectDelivery s }
  | some target =>
    if !target.writable then st.waitForDirectReady s target.transport
    else
      match st.armDirectDelivery s with
      | (false, st) =>
        { st with channelManager := st.channelManager.releaseDirectDelivery s }.disconnect now s
      | (true, st) =>
        match st.channelManager.advanceDirectDelivery s with
        | (none, m) => { st with channelManager := m }.releaseDirectDelivery s
        | (some nextPayload, m) =>
          { st with channelManager := m }.emitVolatile s (.message nextPayload)

/-- The socket's transport emits an event : the listener on that transport runs. -/
def fire (now : ℕ) (st : RelayServer V) (s : SocketId) (event : TransportEvent) :
    RelayServer V :=
  match st.sockets.get? s with
  | none => st
  | some socket =>
    if st.directTransportListeners.get? s = some ⟨socket.transport, event⟩ then
      match event with
      | .drain => st.onDrain s socket.transport
      | .ready => st.onReady now s
    else st

/-- Replace fields of a connected socket. -/
def modifySocket (st : RelayServer V) (s : SocketId) (f : Socket → Socket) : RelayServer V :=
  match st.sockets.get? s with
  | none => st
  | some socket => { st with sockets := st.sockets.set s (f socket) }

/-- Engine.IO replaces the transport. -/
def upgrade (st : RelayServer V) (s : SocketId) (writable : Bool) : RelayServer V :=
  { st.modifySocket s fun socket =>
      { socket with transport := st.transports, writable := writable } with
    transports := st.transports + 1 }

/-! ## Joining -/

/-- Suspend the `join_channel` handler. -/
def suspend (st : RelayServer V) (s : SocketId) (request : JoinRequest) (stage : Stage V) :
    RelayServer V :=
  st.modifySession s fun session => { session with joining := some ⟨request, stage⟩ }

/-- End the `join_channel` handler with a response. -/
def endJoin (st : RelayServer V) (s : SocketId) (request : JoinRequest) (response : Response V) :
    RelayServer V :=
  (st.modifySession s fun session => { session with joining := none }).respond s request.ack
    response

/-- The rest of the handler after the second `await`. -/
def finishJoin (st : RelayServer V) (s : SocketId) (request : JoinRequest)
    (bufferedMessages : List (RelayPayload V)) (channelPublicKey : Option String)
    (participants : List ClientType) : RelayServer V :=
  let st := st.modifySession s fun session =>
    { session with currentChannelId := some request.channelId }
  (st.broadcast s request.channelId (.participantsChanged .join request.clientType)).endJoin s
    request (.joined bufferedMessages channelPublicKey participants false)

/-- The `catch` block. -/
def abortJoin (now : ℕ) (st : RelayServer V) (s : SocketId) (request : JoinRequest)
    (joinedManager resolves : Bool) : RelayServer V :=
  let st := if joinedManager then
      { st with channelManager := (st.channelManager.leave now s request.channelId).2 }
    else st
  if request.joinedRoom then
    (st.leaveRoom s request.channelId resolves).suspend s request .undoing
  else st.endJoin s request (.failed "Unable to join channel")

/-- The handler from `channelManager.join` to its next `await` or its end. -/
def enterChannel (now : ℕ) (st : RelayServer V) (s : SocketId) (session : Session V)
    (request : JoinRequest) (resolves : Bool) : RelayServer V :=
  match st.channelManager.join st.isSocketActive now request.channelId s request.clientType
      request.publicKey (some session.clientIp) with
  | (.failure error, m) =>
    let st := { st with channelManager := m }
    if request.joinedRoom then
      (st.leaveRoom s request.channelId resolves).suspend s request
        (.leavingRefused error resolves)
    else st.endJoin s request (.failed error)
  | (.success bufferedMessages channelPublicKey participants terminated, m) =>
    let st := { st with channelManager := m }
    if terminated then
      if request.joinedRoom then
        (st.leaveRoom s request.channelId resolves).suspend s request (.leavingTombstone resolves)
      else st.endJoin s request (.joined [] none [] true)
    else
      match (if request.switchingChannels then session.currentChannelId else none) with
      | none => st.finishJoin s request bufferedMessages channelPublicKey participants
      | some previousChannelId =>
        let (previousParticipant, m) := st.channelManager.leave now s previousChannelId
        let st := { st with channelManager := m }.notifyLeft s previousChannelId .leave
          previousParticipant
        (st.leaveRoom s previousChannelId resolves).suspend s request
          (.leavingPrevious bufferedMessages channelPublicKey participants resolves)

/-- The rest of the handler after an `await`. -/
def onResume (now : ℕ) (st : RelayServer V) (s : SocketId) (session : Session V)
    (pending : PendingJoin V) (resolves : Bool) : RelayServer V :=
  let request := pending.request
  match pending.stage with
  | .joiningRoom true =>
    st.enterChannel now s session { request with joinedRoom := true } resolves
  | .leavingRefused error true => st.endJoin s request (.failed error)
  | .leavingTombstone true => st.endJoin s request (.joined [] none [] true)
  | .leavingPrevious bufferedMessages channelPublicKey participants true =>
    st.finishJoin s request bufferedMessages channelPublicKey participants
  | .joiningRoom false | .leavingRefused _ false | .leavingTombstone false =>
    st.abortJoin now s request false resolves
  | .leavingPrevious _ _ _ false => st.abortJoin now s request true resolves
  | .undoing => st.endJoin s request (.failed "Unable to join channel")

/-- join_channel : join or create a channel room. -/
def onJoinChannel (cfg : Config) (now : ℕ) (st : RelayServer V) (s : SocketId)
    (session : Session V) (payload : JoinPayload) (ack resolves : Bool) : RelayServer V :=
  if session.joining.isSome then
    st.respond s ack (.failed "Another channel join is in progress")
  else
    let (allowed, st) := st.checkRateLimit now session.clientIp .join rateLimitMaxJoins
    if !allowed then st.respond s ack (.failed "Join rate limit exceeded")
    else
      match isValidChannelId payload.channelId with
      | none => st.respond s ack (.failed "Invalid channelId")
      | some channelId =>
        if !st.channelManager.channels.has channelId &&
            cfg.relayMaxActiveChannels ≤ st.channelManager.getActiveChannelCount then
          st.respond s ack (.failed "Relay channel capacity reached")
        else
          match isClientType payload.clientType, parsePublicKey payload.publicKey with
          | none, _ => st.respond s ack (.failed "clientType must be \"dapp\" or \"wallet\"")
          | some _, none => st.respond s ack (.failed "publicKey must be a base64 string")
          | some clientType, some publicKey =>
            let switchingChannels := session.currentChannelId.any (· ≠ channelId)
            let request : JoinRequest :=
              ⟨channelId, clientType, publicKey, switchingChannels, false, ack⟩
            if session.currentChannelId ≠ some channelId then
              (st.joinRoom s channelId resolves).suspend s request (.joiningRoom resolves)
            else st.enterChannel now s session request resolves

/-! ## Messages -/

/-- Disconnect a target that could not take a message and has nothing in flight. -/
def disconnectSlow (now : ℕ) (st : RelayServer V) (backpressuredSocketId : Option SocketId) :
    RelayServer V :=
  match backpressuredSocketId with
  | none => st
  | some slowTarget =>
    if st.channelManager.hasDirectDelivery slowTarget then st else st.disconnect now slowTarget

/-- What is recorded of an accepted message. -/
def acceptance (m : ChannelManager V) (channelId : String) (s : SocketId)
    (payload : RelayPayload V) : List (Acceptance V) :=
  match m.channels.get? channelId with
  | none => []
  | some r =>
    match (m.channel r).participants.get? s with
    | none => []
    | some participant => [⟨r, participant.clientType, payload⟩]

/-- The payload of an admissible `message` event, without its identity. -/
def parseMessage [Unknown V] (payload : MessagePayload V) (origin : Origin) :
    Except String (RelayPayload V) :=
  match isValidChannelId payload.id, Unknown.narrow payload.message,
      isClientType payload.clientType with
  | none, _, _ | _, .undefined, _ | _, .null, _ | _, _, none =>
    .error "Invalid channelId, clientType, or missing message"
  | some channelId, _, some clientType =>
    match parseSeq payload.seq with
    | none => .error "seq must be a non-negative safe integer"
    | some seq =>
      if maxMessageBytes < getMessageSizeBytes payload.whole then
        .error "Message payload too large"
      else .ok ⟨channelId, clientType, payload.message, seq, origin⟩

/-- The `message` handler from `channelManager.routeMessage` on. -/
def relayMessage [Unknown V] (cfg : Config) (now bufferedAt : ℕ) (st : RelayServer V)
    (s : SocketId) (session : Session V) (canonicalPayload : RelayPayload V) (ack : Bool) :
    RelayServer V :=
  let entry := acceptance st.channelManager canonicalPayload.id s canonicalPayload
  let (result, m) := st.channelManager.routeMessage cfg st.canSocketReceive now bufferedAt
    canonicalPayload.id s canonicalPayload session.clientIp
  let st := { st with channelManager := m }.disconnectSlow now result.backpressuredSocketId
  match result.error, result.targetSocketId with
  | some error, _ => st.respond s ack (.failed error)
  | none, none =>
    { st with accepted := st.accepted ++ entry }.respond s ack (.routed result.buffered)
  | none, some target =>
    match st.armDirectDelivery target with
    | (false, st) =>
      ((st.releaseDirectDelivery target).disconnect now target).respond s ack
        (.failed "Counterparty transport unavailable")
    | (true, st) =>
      let st := st.emitVolatile target (.message canonicalPayload)
      { st with accepted := st.accepted ++ entry }.respond s ack (.routed result.buffered)

/-- message : route an encrypted message to the counterparty. -/
def onMessage [Unknown V] (cfg : Config) (now bufferedAt : ℕ) (st : RelayServer V)
    (s : SocketId) (session : Session V) (payload : MessagePayload V) (ack : Bool) :
    RelayServer V :=
  let (allowed, st) := st.checkRateLimit now session.clientIp .message rateLimitMaxMessages
  if !allowed then st.respond s ack (.failed "Rate limit exceeded")
  else
    match parseMessage payload ⟨s, st.payloads⟩ with
    | .error error => st.respond s ack (.failed error)
    | .ok canonicalPayload =>
      { st with payloads := st.payloads + 1 }.relayMessage cfg now bufferedAt s session
        canonicalPayload ack

/-! ## Leaving and closing -/

/-- leave_channel : explicitly leave a channel. -/
def onLeaveChannel (now : ℕ) (st : RelayServer V) (s : SocketId) (session : Session V)
    (requested : Narrowed) (ack : Bool) : RelayServer V :=
  let (allowed, st) := st.checkRateLimit now session.clientIp .control rateLimitMaxControlEvents
  if !allowed then st.respond s ack (.failed "Control rate limit exceeded")
  else
    let st := match resolveChannelId requested session.currentChannelId with
      | none => st
      | some channelId =>
        let (participant, m) := st.channelManager.leave now s channelId
        let st := { st.leaveRoom s channelId true with channelManager := m }
        (st.notifyLeft s channelId .leave participant).modifySession s fun session =>
          if session.currentChannelId = some channelId then
            { session with currentChannelId := none }
          else session
    st.respond s ack .left

/-- close_channel : explicitly terminate a channel. -/
def onCloseChannel (now : ℕ) (st : RelayServer V) (s : SocketId) (session : Session V)
    (requested : Narrowed) (ack : Bool) : RelayServer V :=
  let (allowed, st) := st.checkRateLimit now session.clientIp .control rateLimitMaxControlEvents
  if !allowed then st.respond s ack (.failed "Control rate limit exceeded")
  else
    match (resolveChannelId requested session.currentChannelId).bind fun channelId =>
        isValidChannelId (.string channelId) with
    | none => st.respond s ack (.closeFailed "Channel close was not confirmed")
    | some channelId =>
      match st.channelManager.leave now s channelId with
      | (none, m) =>
        { st with channelManager := m }.respond s ack
          (.closeFailed "Channel close was not confirmed")
      | (some participant, m) =>
        match m.close now channelId with
        | (false, m) =>
          { st with channelManager := m }.respond s ack
            (.closeFailed "Channel close was not confirmed")
        | (true, m) =>
          let st := { st with channelManager := m }.leaveRoom s channelId true
          let st := st.broadcast s channelId (.participantsChanged .close participant.clientType)
          let st := st.modifySession s fun session =>
            if session.currentChannelId = some channelId then
              { session with currentChannelId := none }
            else session
          st.respond s ack .closed

/-- ping : simple connectivity check. -/
def onPing (now : ℕ) (st : RelayServer V) (s : SocketId) (session : Session V) (ack : Bool) :
    RelayServer V :=
  let (allowed, st) := st.checkRateLimit now session.clientIp .control rateLimitMaxControlEvents
  if !allowed then st.respond s ack (.failed "Control rate limit exceeded")
  else st.respond s ack (.pong now)

/-! ## Connecting -/

/-- The connection handler. A refused socket is disconnected before it has handlers. -/
def onConnection (cfg : Config) (now : ℕ) (st : RelayServer V) (s : SocketId)
    (clientIp : String) (clientsCount : ℕ) : RelayServer V :=
  let (allowed, st) := st.checkRateLimit now clientIp .connect rateLimitMaxConnections
  if !allowed then st
  else
    let activeForIp := (st.activeSocketsByIp.get? clientIp).getD 0 + 1
    let withdrawn := if activeForIp - 1 ≤ 0 then st.activeSocketsByIp.delete clientIp
      else st.activeSocketsByIp.set clientIp (activeForIp - 1)
    if cfg.relayMaxSocketsPerIp < activeForIp || cfg.relayMaxActiveSockets < clientsCount then
      { st with activeSocketsByIp := withdrawn }
    else
      { st with
        activeSocketsByIp := st.activeSocketsByIp.set clientIp activeForIp
        sockets := st.sockets.set s ⟨[ownRoom s], st.transports, false⟩
        sessions := st.sessions.set s ⟨clientIp, none, false, none⟩
        transports := st.transports + 1 }

/-! ## Steps -/

/-- One event. A client's events are dispatched while its socket is connected. -/
def step [Unknown V] (cfg : Config) (st : RelayServer V) (input : Input V) : RelayServer V :=
  let now := input.now
  let dispatch := fun (s : SocketId) (handler : Session V → RelayServer V) =>
    match st.sockets.get? s, st.sessions.get? s with
    | some _, some session => handler session
    | _, _ => st
  match input.event with
  | .connection s clientIp clientsCount =>
    if st.sessions.has s then st else st.onConnection cfg now s clientIp clientsCount
  | .joinChannel s payload ack resolves =>
    dispatch s fun session => st.onJoinChannel cfg now s session payload ack resolves
  | .resumeJoin s resolves =>
    match st.sessions.get? s with
    | none => st
    | some session =>
      match session.joining with
      | none => st
      | some pending => st.onResume now s session pending resolves
  | .message s payload ack bufferedAt =>
    dispatch s fun session => st.onMessage cfg now bufferedAt s session payload ack
  | .leaveChannel s requested ack =>
    dispatch s fun session => st.onLeaveChannel now s session requested ack
  | .closeChannel s requested ack =>
    dispatch s fun session => st.onCloseChannel now s session requested ack
  | .ping s ack => dispatch s fun session => st.onPing now s session ack
  | .disconnect s => st.disconnect now s
  | .drain s => st.fire now s .drain
  | .ready s consumed =>
    (st.modifySocket s fun socket => { socket with writable := !consumed }).fire now s .ready
  | .controlPacket s => st.modifySocket s fun socket => { socket with writable := false }
  | .upgrade s writable => st.upgrade s writable
  | .cleanup => { st with channelManager := st.channelManager.cleanup now }
  | .sweepRateLimits => st.sweepRateLimits now

/-- A client's event runs its handler or changes nothing. -/
theorem dispatched {P : RelayServer V → Prop} {st : RelayServer V} (hidle : P st) (s : SocketId)
    (handler : Session V → RelayServer V)
    (h : ∀ session, (st.sockets.get? s).isSome = true → st.sessions.get? s = some session →
      P (handler session)) :
    P (match st.sockets.get? s, st.sessions.get? s with
      | some _, some session => handler session
      | _, _ => st) := by
  cases hsock : st.sockets.get? s with
  | none => exact hidle
  | some socket =>
    cases hses : st.sessions.get? s with
    | none => exact hidle
    | some session => exact h session (by simp [hsock]) hses

/-- The relay after a run. -/
def after [Unknown V] (cfg : Config) (inputs : List (Input V)) : RelayServer V :=
  Runs.run (step cfg) (create cfg) inputs

end RelayServer

end QrlBackend
