import QrlBackend.Base64
import QrlBackend.JsMap
import QrlBackend.ObjectHeap
import QrlBackend.Protocol

/-!
# The channel manager

Relay channel lifecycle, participant tracking, message buffering and TTL cleanup, as
`relay/channelManager.ts` computes them.

A channel is an object with identity. `channels` maps an id to a reference, and a direct
delivery keeps the reference of the channel it was granted on, so a reservation can
outlive the channel's entry in the map. `ChannelRef` is that reference.

Each operation reads the clock at `now`. `routeMessage` reads it again for a message it buffers,
at `bufferedAt`. Where `join` and `close` read it more than once, one of the readings is looked at
later, and `now` is that one. The callbacks the manager is constructed with,
`isSocketActive` and `canSocketReceive`, are arguments of the operations that ask them.
Byte counters are naturals, so `Math.max(0, a - b)` is `a - b`. `clamped` records whether
such a subtraction was ever cut off. No operation reads it.
-/

set_option autoImplicit false

namespace QrlBackend

def channelTtlMs : ℕ := 30 * 60 * 1000
def maxParticipants : ℕ := 2
def maxBufferedMessages : ℕ := 50
def bufferTtlMs : ℕ := 5 * 60 * 1000
def tombstoneTtlMs : ℕ := 24 * 60 * 60 * 1000
def maxTombstones : ℕ := 20000
def maxPublicKeyBytes : ℕ := 2048

/-- The identity of a channel object. -/
abbrev ChannelRef := ℕ

structure Participant where
  clientType : ClientType
  joinedAt : ℕ

structure BufferedMessage (V : Type) where
  data : RelayPayload V
  targetClientType : ClientType
  timestamp : ℕ
  sizeBytes : ℕ
  sourceIp : String

structure Channel (V : Type) where
  participants : JsMap SocketId Participant
  lastActivity : ℕ
  messageBuffer : List (BufferedMessage V)
  bufferedBytes : ℕ
  directInflightBytes : ℕ
  /-- Monotonic sequence numbers per sender socket. -/
  seqNumbers : JsMap SocketId ℤ
  /-- dApp's base64-encoded KEM public key. -/
  publicKey : Option String
  terminated : Bool
  terminatedAt : ℕ
  /-- Normalized address of the client whose join created the channel. -/
  creatorIp : Option String

/-- The record a first join creates. -/
def Channel.fresh {V : Type} (now : ℕ) (creatorIp : Option String) : Channel V where
  participants := .empty
  lastActivity := now
  messageBuffer := []
  bufferedBytes := 0
  directInflightBytes := 0
  seqNumbers := .empty
  publicKey := none
  terminated := false
  terminatedAt := 0
  creatorIp := creatorIp

instance {V : Type} : Inhabited (Channel V) := ⟨.fresh 0 none⟩

inductive JoinResult (V : Type) where
  | success (bufferedMessages : List (RelayPayload V)) (channelPublicKey : Option String)
      (participants : List ClientType) (terminated : Bool)
  | failure (error : String)

structure RouteResult where
  targetSocketId : Option SocketId
  backpressuredSocketId : Option SocketId
  buffered : Bool
  error : Option String
  deriving DecidableEq

/-- A refusal that names no counterparty. -/
def RouteResult.refused (error : String) : RouteResult := ⟨none, none, false, some error⟩

structure DirectDeliveryReservation where
  channel : ChannelRef
  sourceIp : String
  sizeBytes : ℕ

structure ChannelManager (V : Type) where
  /-- Every channel object created so far. -/
  objects : ObjectHeap (Channel V)
  channels : JsMap String ChannelRef
  /-- FIFO of terminated channel ids, for tombstone eviction. -/
  terminatedOrder : List String
  /-- Live channels one creator address may hold, `none` without a cap. -/
  maxChannelsPerIp : Option ℕ
  totalBufferedBytes : ℕ
  totalDirectInflightBytes : ℕ
  directDeliveries : JsMap SocketId DirectDeliveryReservation
  /-- Combined buffered plus live-egress bytes retained on behalf of each address. -/
  bufferedBytesByIp : JsMap String ℕ
  /-- Whether a `Math.max(0, ..)` ever changed a value. -/
  clamped : Bool

namespace ChannelManager

variable {V : Type}

/-- The constructor. -/
def new (maxChannelsPerIp : Option ℕ) : ChannelManager V where
  objects := .empty
  channels := .empty
  terminatedOrder := []
  maxChannelsPerIp := maxChannelsPerIp
  totalBufferedBytes := 0
  totalDirectInflightBytes := 0
  directDeliveries := .empty
  bufferedBytesByIp := .empty
  clamped := false

/-- The channel object behind a reference. -/
def channel (m : ChannelManager V) (r : ChannelRef) : Channel V := m.objects.get r

/-- Assign to fields of a channel object. -/
def modifyChannel (m : ChannelManager V) (r : ChannelRef) (f : Channel V → Channel V) :
    ChannelManager V :=
  { m with objects := m.objects.modify r f }

/-! ## Byte accounting -/

def retainIpBytes (m : ChannelManager V) (sourceIp : String) (sizeBytes : ℕ) : ChannelManager V :=
  { m with
    bufferedBytesByIp :=
      m.bufferedBytesByIp.set sourceIp ((m.bufferedBytesByIp.get? sourceIp).getD 0 + sizeBytes) }

def releaseIpBytes (m : ChannelManager V) (sourceIp : String) (sizeBytes : ℕ) : ChannelManager V :=
  let ipBytes := (m.bufferedBytesByIp.get? sourceIp).getD 0 - sizeBytes
  { m with
    bufferedBytesByIp :=
      if 0 < ipBytes then m.bufferedBytesByIp.set sourceIp ipBytes
      else m.bufferedBytesByIp.delete sourceIp }

def retainBufferedBytes (m : ChannelManager V) (r : ChannelRef) (message : BufferedMessage V) :
    ChannelManager V :=
  let m := m.modifyChannel r fun c =>
    { c with bufferedBytes := c.bufferedBytes + message.sizeBytes }
  { m with totalBufferedBytes := m.totalBufferedBytes + message.sizeBytes }.retainIpBytes
    message.sourceIp message.sizeBytes

def releaseBufferedBytes (m : ChannelManager V) (r : ChannelRef) (message : BufferedMessage V) :
    ChannelManager V :=
  let clamps := decide ((m.channel r).bufferedBytes < message.sizeBytes) ||
    decide (m.totalBufferedBytes < message.sizeBytes)
  let m := m.modifyChannel r fun c =>
    { c with bufferedBytes := c.bufferedBytes - message.sizeBytes }
  { m with
    totalBufferedBytes := m.totalBufferedBytes - message.sizeBytes
    clamped := m.clamped || clamps }.releaseIpBytes message.sourceIp message.sizeBytes

/-- Release each message of a list, in order. -/
def releaseAll (m : ChannelManager V) (r : ChannelRef) (messages : List (BufferedMessage V)) :
    ChannelManager V :=
  messages.foldl (fun m message => m.releaseBufferedBytes r message) m

/-- Release the one bounded live-egress reservation for a target socket. -/
def releaseDirectDelivery (m : ChannelManager V) (socketId : SocketId) : ChannelManager V :=
  match m.directDeliveries.get? socketId with
  | none => m
  | some reservation =>
    let clamps :=
      decide ((m.channel reservation.channel).directInflightBytes < reservation.sizeBytes) ||
        decide (m.totalDirectInflightBytes < reservation.sizeBytes)
    let m := m.modifyChannel reservation.channel fun c =>
      { c with directInflightBytes := c.directInflightBytes - reservation.sizeBytes }
    { m with
      directDeliveries := m.directDeliveries.delete socketId
      totalDirectInflightBytes := m.totalDirectInflightBytes - reservation.sizeBytes
      clamped := m.clamped || clamps }.releaseIpBytes reservation.sourceIp reservation.sizeBytes

/-- Reserve the next transport write of a socket, as `routeMessage` and
`advanceDirectDelivery` both do. -/
def reserveDirect (m : ChannelManager V) (socketId : SocketId)
    (reservation : DirectDeliveryReservation) : ChannelManager V :=
  let m := m.modifyChannel reservation.channel fun c =>
    { c with directInflightBytes := c.directInflightBytes + reservation.sizeBytes }
  { m with
    directDeliveries := m.directDeliveries.set socketId reservation
    totalDirectInflightBytes := m.totalDirectInflightBytes + reservation.sizeBytes }.retainIpBytes
    reservation.sourceIp reservation.sizeBytes

/-- Complete a target's in-flight delivery and reserve its oldest buffered message for the
next transport write. -/
def advanceDirectDelivery (m : ChannelManager V) (socketId : SocketId) :
    Option (RelayPayload V) × ChannelManager V :=
  match m.directDeliveries.get? socketId with
  | none => (none, m)
  | some reservation =>
    let r := reservation.channel
    let participant := (m.channel r).participants.get? socketId
    let m := m.releaseDirectDelivery socketId
    match participant with
    | none => (none, m)
    | some participant =>
      if (m.channel r).terminated then (none, m)
      else
        -- `findIndex` and `splice` of the oldest message for this role
        let forRole := fun message : BufferedMessage V =>
          decide (message.targetClientType = participant.clientType)
        match (m.channel r).messageBuffer.find? forRole with
        | none => (none, m)
        | some next =>
          let m := m.modifyChannel r fun c =>
            { c with messageBuffer := c.messageBuffer.eraseP forRole }
          let m := m.releaseBufferedBytes r next
          (some next.data, m.reserveDirect socketId ⟨r, next.sourceIp, next.sizeBytes⟩)

def hasDirectDelivery (m : ChannelManager V) (socketId : SocketId) : Bool :=
  m.directDeliveries.has socketId

/-! ## Joining -/

/-- Membership in the character class `[A-Za-z0-9+/]`. -/
def isBase64Char (c : Char) : Bool :=
  ('A' ≤ c && c ≤ 'Z') || ('a' ≤ c && c ≤ 'z') || ('0' ≤ c && c ≤ '9') || c = '+' || c = '/'

/-- The test `/^[A-Za-z0-9+/]+={0,2}$/`. -/
def isBase64Text (text : String) : Bool :=
  let body := text.toList.takeWhile isBase64Char
  let padding := text.toList.dropWhile isBase64Char
  !body.isEmpty && padding.length ≤ 2 && padding.all (· = '=')

/-- The key a join presents : none for a wallet or without a key, otherwise the canonical
base64 form of the bytes the text decodes to. -/
def canonicalPublicKey (clientType : ClientType) (publicKeyBase64 : Option String) :
    Except String (Option String) :=
  match clientType, publicKeyBase64 with
  | .dapp, some text =>
    if text.isEmpty then .ok none
    else if !isBase64Text text then .error "Public key is not valid base64"
    else
      let decoded := Base64.decode text.toList
      if decoded.length = 0 then .error "Public key is empty"
      else if maxPublicKeyBytes < decoded.length then .error "Public key exceeds size limit"
      else .ok (some (String.ofList (Base64.encode decoded)))
  | _, _ => .ok none

/-- Live channels whose creating join came from `ip`. -/
def countLiveChannelsCreatedBy (m : ChannelManager V) (ip : String) : ℕ :=
  m.channels.values.countP fun r =>
    !(m.channel r).terminated && (m.channel r).creatorIp = some ip

/-- Whether the per-address cap refuses a new channel. -/
def atChannelCap (m : ChannelManager V) (creatorIp : Option String) : Bool :=
  match creatorIp, m.maxChannelsPerIp with
  | some ip, some cap => cap ≤ m.countLiveChannelsCreatedBy ip
  | _, _ => false

/-- Allocate a channel under an id. -/
def createChannel (m : ChannelManager V) (now : ℕ) (channelId : String)
    (creatorIp : Option String) : ChannelManager V :=
  { m with
    objects := m.objects.alloc (.fresh now creatorIp)
    channels := m.channels.set channelId m.objects.next }

/-- The first participant of the role on another socket. -/
def sameRoleSocket (participants : JsMap SocketId Participant) (socketId : SocketId)
    (clientType : ClientType) : Option SocketId :=
  (participants.entries.find? fun e => e.2.clientType = clientType && e.1 ≠ socketId).map Prod.fst

/-- Replace a stale participant socket : drop its record, its sequence number and its
in-flight reservation. -/
def dropStale (m : ChannelManager V) (r : ChannelRef) (existingSocketId : SocketId) :
    ChannelManager V :=
  (m.modifyChannel r fun c =>
    { c with
      participants := c.participants.delete existingSocketId
      seqNumbers := c.seqNumbers.delete existingSocketId }).releaseDirectDelivery existingSocketId

/-- Add the participant, hand it the buffered messages for its role, and list the roles of
the others. -/
def addParticipant (now : ℕ) (m : ChannelManager V) (r : ChannelRef) (socketId : SocketId)
    (clientType : ClientType) : JoinResult V × ChannelManager V :=
  let m := m.modifyChannel r fun c =>
    { c with participants := c.participants.set socketId ⟨clientType, now⟩, lastActivity := now }
  let buffered := (m.channel r).messageBuffer.filter (·.targetClientType = clientType)
  let m := m.releaseAll r buffered
  let m := m.modifyChannel r fun c =>
    { c with messageBuffer := c.messageBuffer.filter (·.targetClientType ≠ clientType) }
  let counterpartyTypes :=
    ((m.channel r).participants.entries.filter (·.1 ≠ socketId)).map (·.2.clientType)
  (.success (buffered.map (·.data)) (m.channel r).publicKey counterpartyTypes
    (m.channel r).terminated, m)

/-- The capacity check and the key binding of a join. -/
def bindAndAdmit (now : ℕ) (m : ChannelManager V) (r : ChannelRef) (socketId : SocketId)
    (clientType : ClientType) (canonicalKey : Option String) : JoinResult V × ChannelManager V :=
  let c := m.channel r
  if !c.participants.has socketId && maxParticipants ≤ c.participants.size then
    (.failure "Channel is full (max 2 participants)", m)
  else
    match canonicalKey, c.publicKey with
    | none, _ => addParticipant now m r socketId clientType
    | some key, none =>
      addParticipant now (m.modifyChannel r fun c => { c with publicKey := some key }) r socketId
        clientType
    | some key, some bound =>
      if bound ≠ key then
        (.failure "Channel is already bound to a different dApp public key", m)
      else addParticipant now m r socketId clientType

/-- The part of `join` after the channel was looked up or created. -/
def joinChannel (isSocketActive : SocketId → Bool) (now : ℕ) (m : ChannelManager V)
    (r : ChannelRef) (socketId : SocketId) (clientType : ClientType)
    (canonicalKey : Option String) : JoinResult V × ChannelManager V :=
  let c := m.channel r
  if clientType = .dapp && c.publicKey.isSome && canonicalKey.isNone then
    (.failure "dApp public key required for this channel", m)
  else if ((c.participants.get? socketId).any fun p => p.clientType ≠ clientType) then
    (.failure "A participant cannot change clientType while joined", m)
  else
    match sameRoleSocket c.participants socketId clientType with
    | some existing =>
      if isSocketActive existing then
        (.failure ("A " ++ clientType.text ++ " participant is already connected"), m)
      else bindAndAdmit now (m.dropStale r existing) r socketId clientType canonicalKey
    | none => bindAndAdmit now m r socketId clientType canonicalKey

/-- Join or create a channel. -/
def join (isSocketActive : SocketId → Bool) (now : ℕ) (m : ChannelManager V) (channelId : String)
    (socketId : SocketId) (clientType : ClientType) (publicKeyBase64 : Option String)
    (creatorIp : Option String) : JoinResult V × ChannelManager V :=
  match canonicalPublicKey clientType publicKeyBase64 with
  | .error error => (.failure error, m)
  | .ok canonicalKey =>
    match m.channels.get? channelId with
    | some r =>
      -- a tombstone is reported, never resurrected
      if (m.channel r).terminated then (.success [] none [] true, m)
      else joinChannel isSocketActive now m r socketId clientType canonicalKey
    | none =>
      if m.atChannelCap creatorIp then
        (.failure "Too many open channels from this address", m)
      else
        joinChannel isSocketActive now (m.createChannel now channelId creatorIp) m.objects.next
          socketId clientType canonicalKey

/-! ## Leaving and closing -/

/-- Remove a participant. Returns the removed record. -/
def leave (now : ℕ) (m : ChannelManager V) (socketId : SocketId) (channelId : String) :
    Option Participant × ChannelManager V :=
  match m.channels.get? channelId with
  | none => (none, m)
  | some r =>
    match (m.channel r).participants.get? socketId with
    | none => (none, m)
    | some participant =>
      (some participant, m.modifyChannel r fun c =>
        { c with
          participants := c.participants.delete socketId
          seqNumbers := c.seqNumbers.delete socketId
          lastActivity := now })

/-- Drop a channel's entry if it is a tombstone. -/
def evictTombstone (m : ChannelManager V) (channelId : String) : ChannelManager V :=
  match m.channels.get? channelId with
  | some r =>
    if (m.channel r).terminated then { m with channels := m.channels.delete channelId } else m
  | none => m

/-- The eviction loop of `close` : shift the oldest id while the FIFO is over budget. -/
def evictTombstones (m : ChannelManager V) : List String → ChannelManager V
  | [] => { m with terminatedOrder := [] }
  | oldest :: rest =>
    if maxTombstones < (oldest :: rest).length then (m.evictTombstone oldest).evictTombstones rest
    else { m with terminatedOrder := oldest :: rest }

/-- Explicitly terminate a channel. -/
def close (now : ℕ) (m : ChannelManager V) (channelId : String) : Bool × ChannelManager V :=
  match m.channels.get? channelId with
  | none => (false, m)
  | some r =>
    if (m.channel r).terminated then (false, m)
    else
      let m := m.modifyChannel r fun c =>
        { c with terminated := true, terminatedAt := now, lastActivity := now }
      let m := m.releaseAll r (m.channel r).messageBuffer
      let m := m.modifyChannel r fun c =>
        { c with messageBuffer := [], participants := .empty, seqNumbers := .empty,
                 publicKey := none }
      (true, m.evictTombstones (m.terminatedOrder ++ [channelId]))

/-! ## Routing -/

/-- The other participant of a channel : the first that is not the sender. -/
def counterparty (participants : JsMap SocketId Participant) (senderSocketId : SocketId) :
    Option SocketId :=
  participants.keys.find? (· ≠ senderSocketId)

/-- Whether a message can be written to its target at once : nothing in flight, and every
budget holds it. -/
def admitsDirect (cfg : Config) (m : ChannelManager V) (r : ChannelRef) (targetSocketId : SocketId)
    (sourceIp : String) (sizeBytes : ℕ) : Bool :=
  let c := m.channel r
  let sourceBytes := (m.bufferedBytesByIp.get? sourceIp).getD 0
  !m.directDeliveries.has targetSocketId &&
    c.bufferedBytes + c.directInflightBytes + sizeBytes ≤ cfg.relayMaxBufferedBytesPerChannel &&
    sourceBytes + sizeBytes ≤ cfg.relayMaxBufferedBytesPerIp &&
    m.totalBufferedBytes + m.totalDirectInflightBytes + sizeBytes ≤
      cfg.relayMaxBufferedBytesGlobal

/-- Remember the sequence number of an accepted message. -/
def noteSeq (seqNumbers : JsMap SocketId ℤ) (senderSocketId : SocketId) (seq : Option ℤ) :
    JsMap SocketId ℤ :=
  match seq with
  | none => seqNumbers
  | some n => seqNumbers.set senderSocketId n

/-- The oldest entry of a buffer at its cap, which the next message evicts. -/
def evictedEntry (messages : List (BufferedMessage V)) : Option (BufferedMessage V) :=
  if maxBufferedMessages ≤ messages.length then messages.head? else none

/-- Which byte budget a message would break, `oldest` being the entry it evicts. -/
def bufferRefusal (cfg : Config) (m : ChannelManager V) (r : ChannelRef) (sourceIp : String)
    (sizeBytes : ℕ) (oldest : Option (BufferedMessage V)) : Option String :=
  let c := m.channel r
  let oldestSize : ℤ := (oldest.map (·.sizeBytes)).getD 0
  let sourceBytes : ℤ := (m.bufferedBytesByIp.get? sourceIp).getD 0
  let sourceOldestSize : ℤ := if oldest.map (·.sourceIp) = some sourceIp then oldestSize else 0
  let channelBytesAfter : ℤ :=
    (c.bufferedBytes : ℤ) + c.directInflightBytes - oldestSize + sizeBytes
  let sourceBytesAfter : ℤ := sourceBytes - sourceOldestSize + sizeBytes
  let globalBytesAfter : ℤ :=
    (m.totalBufferedBytes : ℤ) + m.totalDirectInflightBytes - oldestSize + sizeBytes
  if (cfg.relayMaxBufferedBytesPerChannel : ℤ) < channelBytesAfter then
    some "Channel buffered-byte capacity exceeded"
  else if (cfg.relayMaxBufferedBytesPerIp : ℤ) < sourceBytesAfter then
    some "Per-IP buffered-byte capacity exceeded"
  else if (cfg.relayMaxBufferedBytesGlobal : ℤ) < globalBytesAfter then
    some "Global buffered-byte capacity exceeded"
  else none

/-- Shift the evicted entry off the buffer. -/
def evictOldest (m : ChannelManager V) (r : ChannelRef) (oldest : Option (BufferedMessage V)) :
    ChannelManager V :=
  match oldest with
  | none => m
  | some oldest =>
    (m.modifyChannel r fun c => { c with messageBuffer := c.messageBuffer.tail })
      |>.releaseBufferedBytes r oldest

/-- Push a message and account for it. -/
def pushBuffered (m : ChannelManager V) (r : ChannelRef) (message : BufferedMessage V) :
    ChannelManager V :=
  (m.modifyChannel r fun c => { c with messageBuffer := c.messageBuffer ++ [message] })
    |>.retainBufferedBytes r message

/-- The buffering half of `routeMessage` : the budgets after a possible eviction of the
oldest entry, the eviction, and the append. -/
def bufferMessage (cfg : Config) (now : ℕ) (m : ChannelManager V) (r : ChannelRef)
    (sender : Participant) (senderSocketId : SocketId) (data : RelayPayload V) (sourceIp : String)
    (sizeBytes : ℕ) (backpressuredSocketId : Option SocketId) : RouteResult × ChannelManager V :=
  let oldest := evictedEntry (m.channel r).messageBuffer
  match m.bufferRefusal cfg r sourceIp sizeBytes oldest with
  | some error => (⟨none, backpressuredSocketId, false, some error⟩, m)
  | none =>
    let m := m.evictOldest r oldest
    let m := m.pushBuffered r ⟨data, sender.clientType.other, now, sizeBytes, sourceIp⟩
    (⟨none, backpressuredSocketId, true, none⟩,
      m.modifyChannel r fun c =>
        { c with seqNumbers := noteSeq c.seqNumbers senderSocketId data.seq })

/-- The delivery half of `routeMessage`, once the message passed every check. -/
def deliverMessage (cfg : Config) (canSocketReceive : SocketId → Bool) (now : ℕ)
    (m : ChannelManager V) (r : ChannelRef) (sender : Participant) (senderSocketId : SocketId)
    (data : RelayPayload V) (sourceIp : String) (sizeBytes : ℕ) :
    RouteResult × ChannelManager V :=
  match counterparty (m.channel r).participants senderSocketId with
  | none => bufferMessage cfg now m r sender senderSocketId data sourceIp sizeBytes none
  | some target =>
    if canSocketReceive target && m.admitsDirect cfg r target sourceIp sizeBytes then
      (⟨some target, none, false, none⟩,
        (m.reserveDirect target ⟨r, sourceIp, sizeBytes⟩).modifyChannel r fun c =>
          { c with seqNumbers := noteSeq c.seqNumbers senderSocketId data.seq })
    else bufferMessage cfg now m r sender senderSocketId data sourceIp sizeBytes (some target)

/-- Whether a sequence number is a duplicate or out of order. -/
def replays (seqNumbers : JsMap SocketId ℤ) (senderSocketId : SocketId) (seq : Option ℤ) : Bool :=
  seq.any fun n => n ≤ (seqNumbers.get? senderSocketId).getD (-1)

/-- Route a message to the counterparty in the channel. -/
def routeMessage [Unknown V] (cfg : Config) (canSocketReceive : SocketId → Bool)
    (now bufferedAt : ℕ) (m : ChannelManager V) (channelId : String) (senderSocketId : SocketId)
    (data : RelayPayload V) (sourceIp : String) : RouteResult × ChannelManager V :=
  match m.channels.get? channelId with
  | none => (.refused "Channel not found", m)
  | some r =>
    if (m.channel r).terminated then (.refused "Channel terminated", m)
    else
      match (m.channel r).participants.get? senderSocketId with
      | none => (.refused "Sender not in channel", m)
      | some sender =>
        if data.clientType ≠ sender.clientType then
          (.refused "clientType does not match channel participant", m)
        else
          let m := m.modifyChannel r fun c => { c with lastActivity := now }
          if replays (m.channel r).seqNumbers senderSocketId data.seq then
            (.refused "Duplicate or out-of-order message (replay rejected)", m)
          else
            match data.getSerializedSize with
            | none => (.refused "Message payload is not serializable", m)
            | some sizeBytes =>
              deliverMessage cfg canSocketReceive bufferedAt m r sender senderSocketId data sourceIp
                sizeBytes

/-! ## Cleanup -/

/-- One channel of a cleanup run : expired messages go, then the channel if it is an old
tombstone or an empty channel nobody used for `channelTtlMs`. -/
def cleanupChannel (now : ℕ) (m : ChannelManager V) (channelId : String) (r : ChannelRef) :
    ChannelManager V :=
  let live := fun message : BufferedMessage V => decide (now - message.timestamp < bufferTtlMs)
  let m := m.releaseAll r ((m.channel r).messageBuffer.filter fun message => !live message)
  let m := m.modifyChannel r fun c => { c with messageBuffer := c.messageBuffer.filter live }
  let c := m.channel r
  if c.terminated then
    if tombstoneTtlMs < now - c.terminatedAt then
      { m with channels := m.channels.delete channelId }
    else m
  else if c.participants.size = 0 && channelTtlMs < now - c.lastActivity then
    { m with channels := m.channels.delete channelId }
  else m

/-- Cleanup stale channels and expired buffered messages. -/
def cleanup (now : ℕ) (m : ChannelManager V) : ChannelManager V :=
  let m := m.channels.entries.foldl (fun m e => m.cleanupChannel now e.1 e.2) m
  { m with terminatedOrder := m.terminatedOrder.filter m.channels.has }

/-! ## Counting -/

/-- The number of live (non-terminated) channels. -/
def getActiveChannelCount (m : ChannelManager V) : ℕ :=
  m.channels.values.countP fun r => !(m.channel r).terminated

end ChannelManager

end QrlBackend
