import QrlBackend.ChannelManager

/-!
# What each operation does

The byte counters decide whether a message fits, and nothing else. `Content` is a channel
without them, and this file says what each operation of the channel manager does to the
contents, the channel map and the reservations, guards included. Later files read the
operations through these statements and do not unfold them.

The counters move on their own : `releaseAll` and `releaseDirectDelivery` keep every
content (`content_releaseAll`, `content_releaseDirectDelivery`). `leave`, `join` and `close`
have one inductive of outcomes each, and the operation always ends in one of them
(`leave_outcome`, `join_outcome`, `close_outcome`).
-/

set_option autoImplicit false

namespace QrlBackend

/-- A channel without its byte counters. -/
@[ext]
structure Content (V : Type) where
  participants : JsMap SocketId Participant
  lastActivity : ℕ
  messageBuffer : List (BufferedMessage V)
  seqNumbers : JsMap SocketId ℤ
  publicKey : Option String
  terminated : Bool
  terminatedAt : ℕ
  creatorIp : Option String

/-- Forget the byte counters. -/
def Channel.content {V : Type} (c : Channel V) : Content V where
  participants := c.participants
  lastActivity := c.lastActivity
  messageBuffer := c.messageBuffer
  seqNumbers := c.seqNumbers
  publicKey := c.publicKey
  terminated := c.terminated
  terminatedAt := c.terminatedAt
  creatorIp := c.creatorIp

/-- The content of the record a first join creates. -/
def Content.fresh {V : Type} (now : ℕ) (creatorIp : Option String) : Content V :=
  (Channel.fresh now creatorIp : Channel V).content

namespace ChannelManager

variable {V : Type}

/-- The content of the channel object behind a reference. -/
def content (m : ChannelManager V) (r : ChannelRef) : Content V := (m.channel r).content

/-- The channel map, the tombstone FIFO, the cap and the number of objects. -/
def tables (m : ChannelManager V) : JsMap String ChannelRef × List String × Option ℕ × ℕ :=
  (m.channels, m.terminatedOrder, m.maxChannelsPerIp, m.objects.next)

/-- The tables say which channels there are, and in which order they were closed. -/
theorem tables_eq_iff {m m' : ChannelManager V} : m'.tables = m.tables ↔
    m'.channels = m.channels ∧ m'.terminatedOrder = m.terminatedOrder ∧
      m'.maxChannelsPerIp = m.maxChannelsPerIp ∧ m'.objects.next = m.objects.next := by
  simp [tables]

/-! ## The byte counters move on their own -/

/-- Of a channel that is modified, the others stay as they are. -/
theorem channel_modifyChannel (m : ChannelManager V) (r r' : ChannelRef)
    (f : Channel V → Channel V) :
    (m.modifyChannel r f).channel r' = if r' = r then f (m.channel r) else m.channel r' :=
  m.objects.get_modify r r' f

/-- Assigning to fields of a channel changes its content alone. `g` is the assignment on
contents. -/
theorem content_modifyChannel (m : ChannelManager V) (r r' : ChannelRef)
    {f : Channel V → Channel V} (g : Content V → Content V)
    (hf : ∀ c, (f c).content = g c.content) :
    (m.modifyChannel r f).content r' = if r' = r then g (m.content r) else m.content r' := by
  rw [content, channel_modifyChannel]
  split
  · exact hf _
  · rfl

@[simp] theorem tables_modifyChannel (m : ChannelManager V) (r : ChannelRef)
    (f : Channel V → Channel V) : (m.modifyChannel r f).tables = m.tables :=
  rfl

@[simp] theorem directDeliveries_modifyChannel (m : ChannelManager V) (r : ChannelRef)
    (f : Channel V → Channel V) :
    (m.modifyChannel r f).directDeliveries = m.directDeliveries :=
  rfl

/-- An update that changes counters only keeps every content. -/
theorem content_eq_of_objects {m m' : ChannelManager V} {r : ChannelRef}
    {f : Channel V → Channel V} (h : m'.objects = m.objects.modify r f)
    (hf : ∀ c, (f c).content = c.content) (r' : ChannelRef) : m'.content r' = m.content r' := by
  have hm : m'.content r' = (m.modifyChannel r f).content r' := by
    rw [content, channel, h]
    rfl
  rw [hm, m.content_modifyChannel r r' id hf]
  split
  next h => rw [h, id]
  next => rfl

theorem objects_releaseBufferedBytes (m : ChannelManager V) (r : ChannelRef)
    (message : BufferedMessage V) : (m.releaseBufferedBytes r message).objects =
      m.objects.modify r fun c => { c with bufferedBytes := c.bufferedBytes - message.sizeBytes } :=
  rfl

theorem objects_retainBufferedBytes (m : ChannelManager V) (r : ChannelRef)
    (message : BufferedMessage V) : (m.retainBufferedBytes r message).objects =
      m.objects.modify r fun c => { c with bufferedBytes := c.bufferedBytes + message.sizeBytes } :=
  rfl

theorem objects_reserveDirect (m : ChannelManager V) (s : SocketId)
    (res : DirectDeliveryReservation) : (m.reserveDirect s res).objects =
      m.objects.modify res.channel fun c =>
        { c with directInflightBytes := c.directInflightBytes + res.sizeBytes } :=
  rfl

/-- A reservation that ends is taken off its own channel. -/
theorem objects_releaseDirectDelivery {m : ChannelManager V} {s : SocketId}
    {res : DirectDeliveryReservation} (h : m.directDeliveries.get? s = some res) :
    (m.releaseDirectDelivery s).objects = m.objects.modify res.channel fun c =>
      { c with directInflightBytes := c.directInflightBytes - res.sizeBytes } := by
  rw [releaseDirectDelivery, h]
  rfl

/-- Without a reservation there is nothing to end. -/
theorem releaseDirectDelivery_of_none {m : ChannelManager V} {s : SocketId}
    (h : m.directDeliveries.get? s = none) : m.releaseDirectDelivery s = m := by
  rw [releaseDirectDelivery, h]

@[simp] theorem content_releaseBufferedBytes (m : ChannelManager V) (r r' : ChannelRef)
    (message : BufferedMessage V) :
    (m.releaseBufferedBytes r message).content r' = m.content r' :=
  content_eq_of_objects (m.objects_releaseBufferedBytes r message) (fun _ => rfl) r'

@[simp] theorem content_releaseAll (m : ChannelManager V) (r r' : ChannelRef)
    (messages : List (BufferedMessage V)) :
    (m.releaseAll r messages).content r' = m.content r' := by
  induction messages generalizing m with
  | nil => rfl
  | cons message messages ih => exact (ih _).trans (m.content_releaseBufferedBytes r r' message)

@[simp] theorem tables_releaseAll (m : ChannelManager V) (r : ChannelRef)
    (messages : List (BufferedMessage V)) : (m.releaseAll r messages).tables = m.tables := by
  induction messages generalizing m with
  | nil => rfl
  | cons message messages ih => exact ih (m.releaseBufferedBytes r message)

@[simp] theorem directDeliveries_releaseAll (m : ChannelManager V) (r : ChannelRef)
    (messages : List (BufferedMessage V)) :
    (m.releaseAll r messages).directDeliveries = m.directDeliveries := by
  induction messages generalizing m with
  | nil => rfl
  | cons message messages ih => exact ih (m.releaseBufferedBytes r message)

@[simp] theorem content_retainBufferedBytes (m : ChannelManager V) (r r' : ChannelRef)
    (message : BufferedMessage V) :
    (m.retainBufferedBytes r message).content r' = m.content r' :=
  content_eq_of_objects (m.objects_retainBufferedBytes r message) (fun _ => rfl) r'

@[simp] theorem content_reserveDirect (m : ChannelManager V) (s : SocketId) (r' : ChannelRef)
    (reservation : DirectDeliveryReservation) :
    (m.reserveDirect s reservation).content r' = m.content r' :=
  content_eq_of_objects (m.objects_reserveDirect s reservation) (fun _ => rfl) r'

@[simp] theorem directDeliveries_reserveDirect (m : ChannelManager V) (s : SocketId)
    (reservation : DirectDeliveryReservation) :
    (m.reserveDirect s reservation).directDeliveries = m.directDeliveries.set s reservation :=
  rfl

/-- Reservations are no content of channels. -/
@[simp] theorem content_releaseDirectDelivery (m : ChannelManager V) (s : SocketId)
    (r' : ChannelRef) : (m.releaseDirectDelivery s).content r' = m.content r' := by
  cases h : m.directDeliveries.get? s with
  | none => rw [releaseDirectDelivery_of_none h]
  | some res => exact content_eq_of_objects (objects_releaseDirectDelivery h) (fun _ => rfl) r'

@[simp] theorem tables_releaseDirectDelivery (m : ChannelManager V) (s : SocketId) :
    (m.releaseDirectDelivery s).tables = m.tables := by
  unfold releaseDirectDelivery
  split <;> rfl

/-- Releasing a socket's reservation deletes it, if it has one. -/
@[simp] theorem directDeliveries_releaseDirectDelivery (m : ChannelManager V) (s s' : SocketId) :
    (m.releaseDirectDelivery s).directDeliveries.get? s' =
      if s' = s then none else m.directDeliveries.get? s' := by
  unfold releaseDirectDelivery
  split
  next h =>
    split
    next hs => rw [hs, h]
    next => rfl
  next => exact m.directDeliveries.get?_delete s s'

/-! ## Leaving -/

end ChannelManager

/-- A channel a socket is dropped from. -/
def Content.without {V : Type} (c : Content V) (s : SocketId) : Content V :=
  { c with participants := c.participants.delete s, seqNumbers := c.seqNumbers.delete s }

/-- A channel after a join, `stale` being the socket it replaced. -/
def Content.joined {V : Type} (c : Content V) (now : ℕ) (s : SocketId) (t : ClientType)
    (key : Option String) (stale : Option SocketId) : Content V :=
  let c := stale.elim c c.without
  { c with
    participants := c.participants.set s ⟨t, now⟩
    lastActivity := now
    publicKey := c.publicKey.or key
    messageBuffer := c.messageBuffer.filter (·.targetClientType ≠ t) }

/-- The roles of everybody but `s`. -/
def Content.rosterFor {V : Type} (c : Content V) (s : SocketId) : List ClientType :=
  (c.participants.entries.filter (·.1 ≠ s)).map (·.2.clientType)

namespace ChannelManager

variable {V : Type}

/-- The outcomes of `leave`. -/
inductive LeaveOutcome (now : ℕ) (m : ChannelManager V) (s : SocketId) (channelId : String) :
    Option Participant → ChannelManager V → Prop
  | absent (hnot : ∀ r, m.channels.get? channelId = some r →
      (m.content r).participants.get? s = none) : LeaveOutcome now m s channelId none m
  | left {m' : ChannelManager V} (r : ChannelRef) (p : Participant)
      (hget : m.channels.get? channelId = some r)
      (hp : (m.content r).participants.get? s = some p)
      (hcontent : ∀ r', m'.content r' =
        if r' = r then { (m.content r).without s with lastActivity := now } else m.content r')
      (htables : m'.tables = m.tables) (hdd : m'.directDeliveries = m.directDeliveries) :
      LeaveOutcome now m s channelId (some p) m'

/-- `leave` comes to one of its outcomes. -/
theorem leave_outcome (now : ℕ) (m : ChannelManager V) (s : SocketId) (channelId : String) :
    LeaveOutcome now m s channelId (leave now m s channelId).1 (leave now m s channelId).2 := by
  unfold leave
  split
  next hnone => exact .absent fun r h => by simp [hnone] at h
  next r hget =>
    split
    next hp =>
      refine .absent fun r' h => ?_
      rw [hget, Option.some.injEq] at h
      exact h ▸ hp
    next p hp =>
      refine .left r p hget hp (fun r' => ?_) rfl rfl
      exact m.content_modifyChannel r r' (fun c : Content V =>
        { c.without s with lastActivity := now }) fun _ => rfl

/-! ## Joining -/

/-- Where a join finds its channel : the one under the id, or a new one. -/
inductive Slot (now : ℕ) (m m' : ChannelManager V) (channelId : String)
    (creatorIp : Option String) : ChannelRef → Content V → Prop
  | existing (r : ChannelRef) (hget : m.channels.get? channelId = some r)
      (hchannels : m'.channels = m.channels) (hnext : m'.objects.next = m.objects.next) :
      Slot now m m' channelId creatorIp r (m.content r)
  | created (hget : m.channels.get? channelId = none)
      (hchannels : m'.channels = m.channels.set channelId m.objects.next)
      (hnext : m'.objects.next = m.objects.next + 1) :
      Slot now m m' channelId creatorIp m.objects.next (.fresh now creatorIp)

/-- The outcomes of `join`. -/
inductive JoinOutcome (isSocketActive : SocketId → Bool) (now : ℕ) (m : ChannelManager V)
    (channelId : String) (s : SocketId) (t : ClientType) (publicKey creatorIp : Option String) :
    JoinResult V → ChannelManager V → Prop
  | refused (error : String) :
      JoinOutcome isSocketActive now m channelId s t publicKey creatorIp (.failure error) m
  /-- The key mismatch is found after the stale socket is gone. -/
  | refusedAfterStale (error : String) (r : ChannelRef) (existing : SocketId)
      (hget : m.channels.get? channelId = some r) (hlive : (m.content r).terminated = false)
      (hstale : sameRoleSocket (m.content r).participants s t = some existing)
      (hinactive : isSocketActive existing = false) :
      JoinOutcome isSocketActive now m channelId s t publicKey creatorIp (.failure error)
        (m.dropStale r existing)
  | tombstone (r : ChannelRef) (hget : m.channels.get? channelId = some r)
      (hterm : (m.content r).terminated = true) :
      JoinOutcome isSocketActive now m channelId s t publicKey creatorIp
        (.success [] none [] true) m
  | admitted {res : JoinResult V} {m' : ChannelManager V} (r : ChannelRef) (c : Content V)
      (key : Option String) (stale : Option SocketId)
      (hslot : Slot now m m' channelId creatorIp r c)
      (hkey : canonicalPublicKey t publicKey = .ok key) (hlive : c.terminated = false)
      (hbound : t = .dapp → ∀ bound, c.publicKey = some bound → key = some bound)
      (hrole : ∀ p, c.participants.get? s = some p → p.clientType = t)
      (hstale : sameRoleSocket c.participants s t = stale)
      (hinactive : ∀ e, stale = some e → isSocketActive e = false)
      (hcontent : ∀ r', m'.content r' = if r' = r then c.joined now s t key stale else m.content r')
      (horder : m'.terminatedOrder = m.terminatedOrder)
      (hdd : ∀ s', m'.directDeliveries.get? s' =
        if stale = some s' then none else m.directDeliveries.get? s')
      (hres : res = .success ((c.messageBuffer.filter (·.targetClientType = t)).map (·.data))
        (c.publicKey.or key) ((c.joined now s t key stale).rosterFor s) false) :
      JoinOutcome isSocketActive now m channelId s t publicKey creatorIp res m'

/-- A stale socket is taken out of one channel. -/
theorem content_dropStale (m : ChannelManager V) (r : ChannelRef) (e : SocketId) (r' : ChannelRef) :
    (m.dropStale r e).content r' = if r' = r then (m.content r).without e else m.content r' := by
  rw [dropStale, content_releaseDirectDelivery]
  exact m.content_modifyChannel r r' (·.without e) fun _ => rfl

theorem tables_dropStale (m : ChannelManager V) (r : ChannelRef) (e : SocketId) :
    (m.dropStale r e).tables = m.tables := by
  rw [dropStale, tables_releaseDirectDelivery, tables_modifyChannel]

/-- Its reservation ends. -/
theorem directDeliveries_dropStale (m : ChannelManager V) (r : ChannelRef) (e s : SocketId) :
    (m.dropStale r e).directDeliveries.get? s =
      if s = e then none else m.directDeliveries.get? s := by
  rw [dropStale, directDeliveries_releaseDirectDelivery, directDeliveries_modifyChannel]

/-- `addParticipant` adds the participant and hands out the messages for its role. -/
theorem addParticipant_spec (now : ℕ) (m : ChannelManager V) (r : ChannelRef) (s : SocketId)
    (t : ClientType) :
    (∀ r', (addParticipant now m r s t).2.content r' =
      if r' = r then (m.content r).joined now s t none none else m.content r') ∧
    (addParticipant now m r s t).2.tables = m.tables ∧
    (addParticipant now m r s t).2.directDeliveries = m.directDeliveries ∧
    (addParticipant now m r s t).1 =
      .success (((m.content r).messageBuffer.filter (·.targetClientType = t)).map (·.data))
        (m.content r).publicKey (((m.content r).joined now s t none none).rosterFor s)
        (m.content r).terminated := by
  set m₁ := m.modifyChannel r fun c =>
    { c with participants := c.participants.set s ⟨t, now⟩, lastActivity := now } with hm₁
  set buffered := (m₁.content r).messageBuffer.filter (·.targetClientType = t)
  set m₂ := (m₁.releaseAll r buffered).modifyChannel r fun c =>
    { c with messageBuffer := c.messageBuffer.filter (·.targetClientType ≠ t) } with hm₂
  have h₁ : ∀ r', m₁.content r' = if r' = r then
      { m.content r with participants := (m.content r).participants.set s ⟨t, now⟩,
                         lastActivity := now } else m.content r' :=
    fun r' => m.content_modifyChannel r r' (fun c : Content V =>
      { c with participants := c.participants.set s ⟨t, now⟩, lastActivity := now }) fun _ => rfl
  have h₂ : ∀ r', m₂.content r' =
      if r' = r then (m.content r).joined now s t none none else m.content r' := by
    intro r'
    rw [hm₂, content_modifyChannel _ _ _ (fun c : Content V =>
      { c with messageBuffer := c.messageBuffer.filter (·.targetClientType ≠ t) }) fun _ => rfl,
      content_releaseAll, content_releaseAll, h₁, h₁, if_pos rfl]
    split
    · simp [Content.joined]
    · rfl
  have hsucc : (addParticipant now m r s t).1 =
    .success (buffered.map (·.data)) (m₂.content r).publicKey
      ((m₂.content r).rosterFor s) (m₂.content r).terminated := rfl
  refine ⟨h₂, ?_, ?_, ?_⟩
  · exact (m₁.tables_releaseAll r buffered).trans rfl
  · exact (m₁.directDeliveries_releaseAll r buffered).trans rfl
  · rw [hsucc, h₂, if_pos rfl]
    have hb : buffered = (m.content r).messageBuffer.filter (·.targetClientType = t) := by
      simp only [buffered, h₁, if_pos]
    rw [hb]
    simp [Content.joined]

/-- The outcomes of `bindAndAdmit`. -/
inductive AdmitOutcome (now : ℕ) (m : ChannelManager V) (r : ChannelRef) (s : SocketId)
    (t : ClientType) (key : Option String) : JoinResult V → ChannelManager V → Prop
  | refused (error : String) : AdmitOutcome now m r s t key (.failure error) m
  | admitted {res : JoinResult V} {m' : ChannelManager V}
      (hbound : ∀ bound k, (m.content r).publicKey = some bound → key = some k → k = bound)
      (hcontent : ∀ r', m'.content r' =
        if r' = r then (m.content r).joined now s t key none else m.content r')
      (htables : m'.tables = m.tables) (hdd : m'.directDeliveries = m.directDeliveries)
      (hres : res =
        .success (((m.content r).messageBuffer.filter (·.targetClientType = t)).map (·.data))
          ((m.content r).publicKey.or key) (((m.content r).joined now s t key none).rosterFor s)
          (m.content r).terminated) :
      AdmitOutcome now m r s t key res m'

/-- `bindAndAdmit` refuses and changes nothing, or binds the presented key and admits. -/
theorem bindAndAdmit_outcome (now : ℕ) (m : ChannelManager V) (r : ChannelRef) (s : SocketId)
    (t : ClientType) (key : Option String) :
    AdmitOutcome now m r s t key (bindAndAdmit now m r s t key).1
      (bindAndAdmit now m r s t key).2 := by
  unfold bindAndAdmit
  dsimp only
  split
  next => exact .refused _
  next =>
    obtain ⟨hc, ht, hd, hres⟩ := addParticipant_spec now m r s t
    cases key with
    | none =>
      exact .admitted (by simp) hc ht hd (by rw [hres, Option.or_none])
    | some k =>
      cases hpk : (m.channel r).publicKey with
      | none =>
        dsimp only
        set m₁ := m.modifyChannel r fun c => { c with publicKey := some k } with hm₁
        have h₁ : ∀ r', m₁.content r' =
            if r' = r then { m.content r with publicKey := some k } else m.content r' :=
          fun r' => m.content_modifyChannel r r' (fun c : Content V =>
            { c with publicKey := some k }) fun _ => rfl
        have hnone : (m.content r).publicKey = none := hpk
        have hjoin : (m₁.content r).joined now s t none none =
            (m.content r).joined now s t (some k) none := by
          rw [h₁, if_pos rfl]
          simp [Content.joined, hnone]
        obtain ⟨hc, ht, hd, hres⟩ := addParticipant_spec now m₁ r s t
        refine .admitted (by simp [hnone]) (fun r' => ?_) ht hd ?_
        · rw [hc, hjoin]
          split
          · rfl
          next hr => rw [h₁, if_neg hr]
        · rw [hres, hjoin, h₁, if_pos rfl, hnone, Option.none_or]
      | some bound =>
        dsimp only
        split
        next => exact .refused _
        next hne =>
          have hbound : (m.content r).publicKey = some bound := hpk
          have hk : bound = k := by simpa using hne
          have hjoin : (m.content r).joined now s t none none =
              (m.content r).joined now s t (some k) none := by
            simp [Content.joined, hbound]
          rw [hjoin] at hc hres
          refine .admitted (fun b k' hb hk' => ?_) hc ht hd ?_
          · rw [hbound, Option.some.injEq] at hb
            rw [Option.some.injEq] at hk'
            rw [← hb, ← hk', hk]
          · rw [hres, hbound, Option.some_or]

/-- No key is kept for a wallet. -/
theorem canonicalPublicKey_wallet {publicKey key : Option String}
    (h : canonicalPublicKey .wallet publicKey = .ok key) : key = none := by
  simpa [canonicalPublicKey, eq_comm] using h

/-- What the join of a found or created channel leads to, `m₀` being the state after the
lookup. -/
inductive JoinChannelOutcome (isSocketActive : SocketId → Bool) (now : ℕ) (m₀ : ChannelManager V)
    (r : ChannelRef) (s : SocketId) (t : ClientType) (key : Option String) :
    JoinResult V → ChannelManager V → Prop
  | refused (error : String) :
      JoinChannelOutcome isSocketActive now m₀ r s t key (.failure error) m₀
  | refusedAfterStale (error : String) (existing : SocketId)
      (hstale : sameRoleSocket (m₀.content r).participants s t = some existing)
      (hinactive : isSocketActive existing = false) :
      JoinChannelOutcome isSocketActive now m₀ r s t key (.failure error) (m₀.dropStale r existing)
  | admitted {res : JoinResult V} {m' : ChannelManager V} (stale : Option SocketId)
      (hbound : t = .dapp → ∀ bound, (m₀.content r).publicKey = some bound → key = some bound)
      (hrole : ∀ p, (m₀.content r).participants.get? s = some p → p.clientType = t)
      (hstale : sameRoleSocket (m₀.content r).participants s t = stale)
      (hinactive : ∀ e, stale = some e → isSocketActive e = false)
      (hcontent : ∀ r', m'.content r' =
        if r' = r then (m₀.content r).joined now s t key stale else m₀.content r')
      (htables : m'.tables = m₀.tables)
      (hdd : ∀ s', m'.directDeliveries.get? s' =
        if stale = some s' then none else m₀.directDeliveries.get? s')
      (hres : res =
        .success (((m₀.content r).messageBuffer.filter (·.targetClientType = t)).map (·.data))
          ((m₀.content r).publicKey.or key) (((m₀.content r).joined now s t key stale).rosterFor s)
          (m₀.content r).terminated) :
      JoinChannelOutcome isSocketActive now m₀ r s t key res m'

/-- `joinChannel` comes to one of its outcomes. -/
theorem joinChannel_outcome (isSocketActive : SocketId → Bool) (now : ℕ) (m₀ : ChannelManager V)
    (r : ChannelRef) (s : SocketId) (t : ClientType) (key : Option String) :
    JoinChannelOutcome isSocketActive now m₀ r s t key
      (joinChannel isSocketActive now m₀ r s t key).1
      (joinChannel isSocketActive now m₀ r s t key).2 := by
  unfold joinChannel
  dsimp only
  split
  next => exact .refused _
  next hneed =>
  split
  next => exact .refused _
  next hswitch =>
  have hrole : ∀ p, (m₀.content r).participants.get? s = some p → p.clientType = t := by
    intro p hp
    have hp : (m₀.channel r).participants.get? s = some p := hp
    simpa [hp] using hswitch
  have hneed : t = .dapp → ∀ bound, (m₀.content r).publicKey = some bound → key ≠ none := by
    intro ht bound hb hnone
    have hb : (m₀.channel r).publicKey = some bound := hb
    simp [ht, hb, hnone] at hneed
  have hbound : (∀ bound k, (m₀.content r).publicKey = some bound → key = some k → k = bound) →
      t = .dapp → ∀ bound, (m₀.content r).publicKey = some bound → key = some bound := by
    intro h ht bound hb
    obtain ⟨k, hk⟩ := Option.ne_none_iff_exists'.1 (hneed ht bound hb)
    rw [hk, h bound k hb hk]
  cases hst : sameRoleSocket (m₀.channel r).participants s t with
  | none =>
    have h := bindAndAdmit_outcome now m₀ r s t key
    generalize bindAndAdmit now m₀ r s t key = out at h
    obtain ⟨res, m'⟩ := out
    cases h with
    | refused error => exact .refused error
    | admitted hb hc ht hd hres =>
      have hd : m'.directDeliveries = m₀.directDeliveries := hd
      exact .admitted none (hbound hb) hrole hst (by simp) hc ht (by simp [hd]) hres
  | some existing =>
    dsimp only
    split
    next => exact .refused _
    next hactive =>
    have hinactive : isSocketActive existing = false := by simpa using hactive
    have hdrop : (m₀.dropStale r existing).content r = (m₀.content r).without existing := by
      rw [content_dropStale, if_pos rfl]
    have h := bindAndAdmit_outcome now (m₀.dropStale r existing) r s t key
    generalize bindAndAdmit now (m₀.dropStale r existing) r s t key = out at h
    obtain ⟨res, m'⟩ := out
    cases h with
    | refused error => exact .refusedAfterStale error existing hst hinactive
    | admitted hb hc ht hd hres =>
      have hjoin : ((m₀.dropStale r existing).content r).joined now s t key none =
          (m₀.content r).joined now s t key (some existing) := by
        rw [hdrop]
        rfl
      rw [hjoin, hdrop] at hres
      rw [hdrop] at hb
      refine .admitted (some existing) (hbound hb) hrole hst (by simpa using hinactive)
        (fun r' => ?_) (ht.trans (tables_dropStale _ _ _)) (fun s' => ?_) hres
      · rw [hc, hjoin]
        split
        · rfl
        next hr => rw [content_dropStale, if_neg hr]
      · rw [hd, directDeliveries_dropStale]
        simp [eq_comm]

/-- A first join always succeeds : nobody is in the channel and no key is bound. -/
theorem joinChannel_fresh (isSocketActive : SocketId → Bool) (now : ℕ) {m : ChannelManager V}
    {r : ChannelRef} (s : SocketId) (t : ClientType) (key : Option String) {now₀ : ℕ}
    {creatorIp : Option String} (h : m.channel r = .fresh now₀ creatorIp) :
    ∃ messages channelKey roster terminated,
      (joinChannel isSocketActive now m r s t key).1 =
        .success messages channelKey roster terminated := by
  have hempty : (m.channel r).participants = .empty := by rw [h]; rfl
  have hkey : (m.channel r).publicKey = none := by rw [h]; rfl
  unfold joinChannel bindAndAdmit
  simp only [hempty, hkey, sameRoleSocket, JsMap.entries_empty, JsMap.get?_empty, JsMap.has]
  cases key <;> simp [JsMap.size, maxParticipants, addParticipant]

/-- `join` ends in one of its outcomes. -/
theorem join_outcome (isSocketActive : SocketId → Bool) (now : ℕ) (m : ChannelManager V)
    (channelId : String) (s : SocketId) (t : ClientType) (publicKey creatorIp : Option String) :
    JoinOutcome isSocketActive now m channelId s t publicKey creatorIp
      (join isSocketActive now m channelId s t publicKey creatorIp).1
      (join isSocketActive now m channelId s t publicKey creatorIp).2 := by
  unfold join
  cases hkey : canonicalPublicKey t publicKey with
  | error error => exact .refused error
  | ok key =>
    dsimp only
    cases hget : m.channels.get? channelId with
    | some r =>
      dsimp only
      split
      next hterm => exact .tombstone r hget hterm
      next hterm =>
      have hlive : (m.content r).terminated = false := by
        simpa [content, Channel.content] using hterm
      have h := joinChannel_outcome isSocketActive now m r s t key
      generalize joinChannel isSocketActive now m r s t key = out at h
      obtain ⟨res, m'⟩ := out
      cases h with
      | refused error => exact .refused error
      | refusedAfterStale error e hst ha => exact .refusedAfterStale error r e hget hlive hst ha
      | admitted stale hbound hrole hst ha hc ht hd hres =>
        obtain ⟨h₁, h₂, -, h₄⟩ := tables_eq_iff.1 ht
        rw [hlive] at hres
        exact .admitted r _ key stale (.existing r hget h₁ h₄) hkey hlive hbound hrole hst ha hc h₂
          hd hres
    | none =>
      dsimp only
      split
      next => exact .refused _
      next =>
      have hfresh : (m.createChannel now channelId creatorIp).channel m.objects.next =
          .fresh now creatorIp :=
        m.objects.get_alloc_next _
      have hc₀ : (m.createChannel now channelId creatorIp).content m.objects.next =
          .fresh now creatorIp := by
        rw [content, hfresh]
        rfl
      obtain ⟨ms, ck, ro, te, hsucc⟩ := joinChannel_fresh isSocketActive now s t key hfresh
      have h := joinChannel_outcome isSocketActive now (m.createChannel now channelId creatorIp)
        m.objects.next s t key
      generalize joinChannel isSocketActive now (m.createChannel now channelId creatorIp)
        m.objects.next s t key = out at h hsucc
      obtain ⟨res, m'⟩ := out
      dsimp only at h hsucc ⊢
      cases h with
      | refused error => cases hsucc
      | refusedAfterStale error e hst ha => cases hsucc
      | admitted stale hbound hrole hst ha hc ht hd hres =>
        obtain ⟨h₁, h₂, -, h₄⟩ := tables_eq_iff.1 ht
        rw [hc₀] at hbound hrole hst hc hres
        refine .admitted m.objects.next _ key stale (.created hget h₁ h₄) hkey rfl hbound hrole hst
          ha (fun r' => ?_) h₂ hd hres
        rw [hc]
        split
        · rfl
        next hr => exact congrArg Channel.content (m.objects.get_alloc_of_ne _ hr)

/-! ## Closing -/

/-- The id names a tombstone. -/
def IsTombstone (m : ChannelManager V) (channelId : String) : Prop :=
  ∃ r, m.channels.get? channelId = some r ∧ (m.content r).terminated = true

/-- A tombstone is evicted. -/
theorem evictTombstone_of_isTombstone {m : ChannelManager V} {channelId : String}
    (h : m.IsTombstone channelId) :
    m.evictTombstone channelId = { m with channels := m.channels.delete channelId } := by
  obtain ⟨r, hget, hterm⟩ := h
  have hterm : (m.channel r).terminated = true := hterm
  simp [evictTombstone, hget, hterm]

/-- Nothing else is. -/
theorem evictTombstone_of_not {m : ChannelManager V} {channelId : String}
    (h : ¬m.IsTombstone channelId) : m.evictTombstone channelId = m := by
  unfold evictTombstone
  split
  next r hget => exact if_neg fun hterm => h ⟨r, hget, hterm⟩
  next => rfl

/-- The eviction loop shifts ids off the FIFO until it is within budget. -/
theorem evictTombstones_spec (l : List String) : ∀ m : ChannelManager V, ∃ evicted,
    l = evicted ++ (m.evictTombstones l).terminatedOrder ∧
    (∀ id, m.IsTombstone id → id ∈ evicted → (m.evictTombstones l).channels.get? id = none) ∧
    (∀ id, ¬(m.IsTombstone id ∧ id ∈ evicted) →
      (m.evictTombstones l).channels.get? id = m.channels.get? id) ∧
    (m.evictTombstones l).objects = m.objects ∧
    (m.evictTombstones l).directDeliveries = m.directDeliveries ∧
    (m.evictTombstones l).terminatedOrder.length ≤ maxTombstones ∧
    (evicted ≠ [] → (m.evictTombstones l).terminatedOrder.length = maxTombstones) := by
  induction l with
  | nil => exact fun m => ⟨[], by simp [evictTombstones, maxTombstones]⟩
  | cons oldest rest ih =>
    intro m
    rw [evictTombstones]
    split
    next hover =>
      obtain ⟨evicted, hsplit, hgone, hkept, hobj, hdd, hle, hfull⟩ := ih (m.evictTombstone oldest)
      have hobj₁ : (m.evictTombstone oldest).objects = m.objects := by
        by_cases h : m.IsTombstone oldest
        · rw [evictTombstone_of_isTombstone h]
        · rw [evictTombstone_of_not h]
      have hget₁ : ∀ id, id ≠ oldest →
          (m.evictTombstone oldest).channels.get? id = m.channels.get? id := by
        intro id hid
        by_cases h : m.IsTombstone oldest
        · rw [evictTombstone_of_isTombstone h]
          exact m.channels.get?_delete_of_ne hid
        · rw [evictTombstone_of_not h]
      have htomb₁ : ∀ id, id ≠ oldest →
          ((m.evictTombstone oldest).IsTombstone id ↔ m.IsTombstone id) := by
        intro id hid
        simp only [IsTombstone, hget₁ id hid, content, channel, hobj₁]
      refine ⟨oldest :: evicted, by rw [List.cons_append, ← hsplit], fun id ht hmem => ?_,
        fun id hnot => ?_, hobj.trans hobj₁, hdd.trans ?_, hle, fun _ => ?_⟩
      · by_cases hid : id = oldest
        · subst hid
          have hnone : (m.evictTombstone id).channels.get? id = none := by
            rw [evictTombstone_of_isTombstone ht]
            exact m.channels.get?_delete_self id
          have hnot : ¬(m.evictTombstone id).IsTombstone id := by
            rintro ⟨r, hr, -⟩
            rw [hnone] at hr
            cases hr
          rw [hkept id fun h => hnot h.1, hnone]
        · exact hgone id ((htomb₁ id hid).2 ht) ((List.mem_cons.1 hmem).resolve_left hid)
      · by_cases hid : id = oldest
        · subst hid
          have ht : ¬m.IsTombstone id := fun h => hnot ⟨h, List.mem_cons_self⟩
          rw [evictTombstone_of_not ht] at hkept ⊢
          exact hkept id fun h => ht h.1
        · rw [hkept id, hget₁ id hid]
          exact fun h => hnot ⟨(htomb₁ id hid).1 h.1, List.mem_cons_of_mem _ h.2⟩
      · by_cases h : m.IsTombstone oldest
        · rw [evictTombstone_of_isTombstone h]
        · rw [evictTombstone_of_not h]
      · by_cases hev : evicted = []
        · subst hev
          have hlen := congrArg List.length hsplit
          rw [List.nil_append] at hlen
          rw [List.length_cons] at hover
          omega
        · exact hfull hev
    next hunder =>
      exact ⟨[], by simpa using hunder⟩

end ChannelManager

/-- A channel after `close`. -/
def Content.closed {V : Type} (c : Content V) (now : ℕ) : Content V :=
  { c with
    participants := .empty
    lastActivity := now
    messageBuffer := []
    seqNumbers := .empty
    publicKey := none
    terminated := true
    terminatedAt := now }

namespace ChannelManager

variable {V : Type}

/-- The outcomes of `close`. -/
inductive CloseOutcome (now : ℕ) (m : ChannelManager V) (channelId : String) :
    Bool → ChannelManager V → Prop
  | refused (hnot : ∀ r, m.channels.get? channelId = some r → (m.content r).terminated = true) :
      CloseOutcome now m channelId false m
  | closed {m' : ChannelManager V} (r : ChannelRef) (evicted : List String)
      (hget : m.channels.get? channelId = some r) (hlive : (m.content r).terminated = false)
      (hcontent : ∀ r', m'.content r' =
        if r' = r then (m.content r).closed now else m.content r')
      (horder : m.terminatedOrder ++ [channelId] = evicted ++ m'.terminatedOrder)
      (hgone : ∀ id r', m.channels.get? id = some r' → (m'.content r').terminated = true →
        id ∈ evicted → m'.channels.get? id = none)
      (hkept : ∀ id, (∀ r', m.channels.get? id = some r' → (m'.content r').terminated = true →
        id ∉ evicted) → m'.channels.get? id = m.channels.get? id)
      (hnext : m'.objects.next = m.objects.next)
      (hdd : m'.directDeliveries = m.directDeliveries)
      (hle : m'.terminatedOrder.length ≤ maxTombstones)
      (hfull : evicted ≠ [] → m'.terminatedOrder.length = maxTombstones) :
      CloseOutcome now m channelId true m'

/-- `close` comes to one of its outcomes. -/
theorem close_outcome (now : ℕ) (m : ChannelManager V) (channelId : String) :
    CloseOutcome now m channelId (close now m channelId).1 (close now m channelId).2 := by
  unfold close
  split
  next hnone => exact .refused fun r h => by simp [hnone] at h
  next r hget =>
    split
    next hterm =>
      refine .refused fun r' h => ?_
      rw [hget, Option.some.injEq] at h
      exact h ▸ hterm
    next hlive =>
      dsimp only
      set m₁ := m.modifyChannel r fun c =>
        { c with terminated := true, terminatedAt := now, lastActivity := now } with hm₁
      set m₂ := (m₁.releaseAll r (m₁.channel r).messageBuffer).modifyChannel r fun c =>
        { c with messageBuffer := [], participants := .empty, seqNumbers := .empty,
                 publicKey := none } with hm₂
      have h₁ : ∀ r', m₁.content r' = if r' = r then
          { m.content r with terminated := true, terminatedAt := now, lastActivity := now }
            else m.content r' :=
        fun r' => m.content_modifyChannel r r' (fun c : Content V =>
          { c with terminated := true, terminatedAt := now, lastActivity := now }) fun _ => rfl
      have h₂ : ∀ r', m₂.content r' =
          if r' = r then (m.content r).closed now else m.content r' := by
        intro r'
        rw [hm₂, content_modifyChannel _ _ _ (fun c : Content V =>
          { c with messageBuffer := [], participants := .empty, seqNumbers := .empty,
                   publicKey := none }) fun _ => rfl,
          content_releaseAll, content_releaseAll, h₁, h₁, if_pos rfl]
        split <;> rfl
      have ht₂ : m₂.tables = m.tables := (m₁.tables_releaseAll r _).trans rfl
      have hd₂ : m₂.directDeliveries = m.directDeliveries :=
        (m₁.directDeliveries_releaseAll r _).trans rfl
      obtain ⟨hch, hord, -, hnx⟩ := tables_eq_iff.1 ht₂
      obtain ⟨evicted, hsplit, hgone, hkept, hobj, hdd, hle, hfull⟩ :=
        evictTombstones_spec (m₂.terminatedOrder ++ [channelId]) m₂
      set m₃ := m₂.evictTombstones (m₂.terminatedOrder ++ [channelId])
      have h₃ : ∀ r', m₃.content r' = m₂.content r' := fun r' => by
        rw [content, channel, hobj]
        rfl
      refine .closed r evicted hget (by simpa [content, Channel.content] using hlive)
        (fun r' => (h₃ r').trans (h₂ r')) (by rw [← hord, hsplit])
        (fun id r' hr' hterm hmem => hgone id ⟨r', ?_, ?_⟩ hmem) (fun id hnot => ?_) ?_
        (hdd.trans hd₂) hle hfull
      · rw [hch, hr']
      · rw [← h₃, hterm]
      · rw [hkept id, hch]
        rintro ⟨⟨r', hr', hterm⟩, hmem⟩
        exact hnot r' (hch ▸ hr') (by rw [h₃, hterm]) hmem
      · rw [hobj, hnx]

end ChannelManager

end QrlBackend
