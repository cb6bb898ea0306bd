import QrlBackend.ChannelManager

/-!
# Events and packets of the relay

What reaches the handlers of `relay/relayServer.ts`, and what they write back. A client's
payload is narrowed before a handler reads it, so an event carries what the `typeof`
guards see of each property. A payload that is no record has undefined properties only.

An ack slot that is no function counts as no ack (`ack = false`). A rejected adapter call
is a choice of the environment (`resolves = false`).
-/

set_option autoImplicit false

namespace QrlBackend

def maxChannelIdLength : ℕ := 128
def maxMessageBytes : ℕ := 256 * 1024

/-- Membership in the character class `[a-zA-Z0-9_-]`. -/
def isChannelIdChar (c : Char) : Bool :=
  ('a' ≤ c && c ≤ 'z') || ('A' ≤ c && c ≤ 'Z') || ('0' ≤ c && c ≤ '9') || c = '_' || c = '-'

/-- Validate channel identifiers to avoid unbounded relay state growth. -/
def isValidChannelId : Narrowed → Option String
  | .string s =>
    if 0 < s.toList.length && s.toList.length ≤ maxChannelIdLength && s.toList.all isChannelIdChar
    then some s else none
  | _ => none

theorem eq_of_isValidChannelId {s id : String} (h : isValidChannelId (.string s) = some id) :
    s = id := by
  simp only [isValidChannelId] at h
  split at h
  · exact Option.some.inj h
  · cases h

/-- The payload of `join_channel`. -/
structure JoinPayload where
  channelId : Narrowed
  clientType : Narrowed
  publicKey : Narrowed

/-- The payload of `message`. `whole` is `JSON.stringify` of all of it. -/
structure MessagePayload (V : Type) where
  id : Narrowed
  message : V
  clientType : Narrowed
  seq : Narrowed
  whole : Stringified

/-- The channel a `leave_channel` or `close_channel` is about : the one it names, or the
current one. -/
def resolveChannelId (requested : Narrowed) (currentChannelId : Option String) : Option String :=
  match requested with
  | .string s => if s.isEmpty then currentChannelId else some s
  | _ => currentChannelId

/-- Approximate message payload size for memory-DoS protection. -/
def getMessageSizeBytes : Stringified → ℕ
  | .text t => t.utf8ByteSize
  | _ => maxMessageBytes + 1

/-- The sequence number of a message, if it is none or a non-negative safe integer. -/
def parseSeq : Narrowed → Option (Option ℤ)
  | .undefined => some none
  | .integer n => if 0 ≤ n then some (some n) else none
  | _ => none

/-- The public key of a join, if it is none or a text. -/
def parsePublicKey : Narrowed → Option (Option String)
  | .undefined => some none
  | .string s => some (some s)
  | _ => none

/-- The transport object a connection writes to. -/
abbrev TransportRef := ℕ

/-- The transport events the relay listens to. -/
inductive TransportEvent where
  | drain
  | ready
  deriving DecidableEq

/-- What a participant's counterparty is told. -/
inductive PresenceEvent where
  | join
  | leave
  | close
  | disconnect
  deriving DecidableEq

/-- The response of an ack. -/
inductive Response (V : Type) where
  | failed (error : String)
  | joined (bufferedMessages : List (RelayPayload V)) (channelPublicKey : Option String)
      (participants : List ClientType) (terminated : Bool)
  | routed (buffered : Bool)
  | left
  | closed
  | closeFailed (error : String)
  | pong (timestamp : ℕ)

/-- A packet to a client. -/
inductive Packet (V : Type) where
  | message (payload : RelayPayload V)
  | participantsChanged (event : PresenceEvent) (clientType : ClientType)
  | ack (response : Response V)

/-- The relayed messages in a packet. -/
def Packet.messages {V : Type} : Packet V → List (RelayPayload V)
  | .message payload => [payload]
  | .ack (.joined bufferedMessages _ _ _) => bufferedMessages
  | _ => []

/-- What happens to the relay. -/
inductive Event (V : Type) where
  | connection (s : SocketId) (clientIp : String) (clientsCount : ℕ)
  | joinChannel (s : SocketId) (payload : JoinPayload) (ack resolves : Bool)
  /-- The awaited call of a suspended `join_channel` handler settles. `resolves` is about
  the next call the handler awaits. -/
  | resumeJoin (s : SocketId) (resolves : Bool)
  /-- `bufferedAt` : the second clock reading of `routeMessage`. -/
  | message (s : SocketId) (payload : MessagePayload V) (ack : Bool) (bufferedAt : ℕ)
  | leaveChannel (s : SocketId) (requested : Narrowed) (ack : Bool)
  | closeChannel (s : SocketId) (requested : Narrowed) (ack : Bool)
  | ping (s : SocketId) (ack : Bool)
  | disconnect (s : SocketId)
  /-- The socket's transport emits `drain`. -/
  | drain (s : SocketId)
  /-- The socket's transport becomes writable and emits `ready`. `consumed` : a packet
  Engine.IO had queued takes it before the relay's listener runs. -/
  | ready (s : SocketId) (consumed : Bool)
  /-- Engine.IO writes a packet of its own. -/
  | controlPacket (s : SocketId)
  /-- Engine.IO replaces the socket's transport by a new one. -/
  | upgrade (s : SocketId) (writable : Bool)
  | cleanup
  | sweepRateLimits

/-- An event at a clock reading. -/
structure Input (V : Type) where
  now : ℕ
  event : Event V

/-- The clock reading at which the input buffers a message, if it does. -/
def Input.bufferedAt {V : Type} (input : Input V) : ℕ :=
  match input.event with
  | .message _ _ _ bufferedAt => bufferedAt
  | _ => input.now

end QrlBackend
