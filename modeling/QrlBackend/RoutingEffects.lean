import QrlBackend.Effects

/-!
# What routing, promotion and cleanup do

The second half of the effects : `routeMessage` grants a direct reservation, buffers, or
refuses (`routeMessage_outcome`), `advanceDirectDelivery` moves at most one message from a
buffer to a reservation (`advance_outcome`), and `cleanup` shortens buffers and drops
entries of the map (`cleanup_spec`).
-/

set_option autoImplicit false

namespace QrlBackend

/-! ## Routing -/

/-- The messages left once the oldest made room, if the buffer is at its cap. -/
def afterEviction {V : Type} (messages : List (BufferedMessage V)) : List (BufferedMessage V) :=
  if maxBufferedMessages ≤ messages.length then messages.tail else messages

theorem afterEviction_sublist {V : Type} (messages : List (BufferedMessage V)) :
    (afterEviction messages).Sublist messages := by
  unfold afterEviction
  split
  · exact List.tail_sublist messages
  · exact .refl messages

/-- A channel once a message of `s` passed every check. -/
def Content.noted {V : Type} (c : Content V) (now : ℕ) (s : SocketId) (seq : Option ℤ) :
    Content V :=
  { c with lastActivity := now, seqNumbers := ChannelManager.noteSeq c.seqNumbers s seq }

namespace ChannelManager

variable {V : Type}

/-- The first other participant is a participant, and not the sender. -/
theorem counterparty_some {participants : JsMap SocketId Participant} {s target : SocketId}
    (h : counterparty participants s = some target) :
    target ≠ s ∧ ∃ p, participants.get? target = some p := by
  refine ⟨by simpa using List.find?_some h, ?_⟩
  exact JsMap.mem_keys.1 (List.mem_of_find?_eq_some h)

/-- Without a counterparty the sender is alone. -/
theorem counterparty_none {participants : JsMap SocketId Participant} {s : SocketId}
    (h : counterparty participants s = none) (s' : SocketId) (p : Participant)
    (hp : participants.get? s' = some p) : s' = s := by
  have hmem : s' ∈ participants.keys := JsMap.mem_keys.2 ⟨p, hp⟩
  simpa using List.find?_eq_none.1 h s' hmem

/-- What the delivery half of `routeMessage` leads to. -/
inductive DeliverOutcome (cfg : Config) (canSocketReceive : SocketId → Bool) (now : ℕ)
    (m : ChannelManager V) (r : ChannelRef) (sender : Participant) (s : SocketId)
    (data : RelayPayload V)
    (sourceIp : String) (sizeBytes : ℕ) : RouteResult → ChannelManager V → Prop
  | refused (error : String) :
      DeliverOutcome cfg canSocketReceive now m r sender s data sourceIp sizeBytes
        ⟨none, counterparty (m.content r).participants s, false, some error⟩ m
  | direct {m' : ChannelManager V} (target : SocketId)
      (htarget : counterparty (m.content r).participants s = some target)
      (hreceive : canSocketReceive target = true)
      (hfree : m.directDeliveries.get? target = none)
      (hfits : m.admitsDirect cfg r target sourceIp sizeBytes = true)
      (hcontent : ∀ r', m'.content r' = if r' = r then
        { m.content r with seqNumbers := noteSeq (m.content r).seqNumbers s data.seq }
          else m.content r')
      (htables : m'.tables = m.tables)
      (hdd : m'.directDeliveries = m.directDeliveries.set target ⟨r, sourceIp, sizeBytes⟩) :
      DeliverOutcome cfg canSocketReceive now m r sender s data sourceIp sizeBytes
        ⟨some target, none, false, none⟩ m'
  | buffered {m' : ChannelManager V}
      (hfits : m.bufferRefusal cfg r sourceIp sizeBytes
        (evictedEntry (m.content r).messageBuffer) = none)
      (hcontent : ∀ r', m'.content r' = if r' = r then
        { m.content r with
          seqNumbers := noteSeq (m.content r).seqNumbers s data.seq
          messageBuffer := afterEviction (m.content r).messageBuffer ++
            [⟨data, sender.clientType.other, now, sizeBytes, sourceIp⟩] } else m.content r')
      (htables : m'.tables = m.tables) (hdd : m'.directDeliveries = m.directDeliveries) :
      DeliverOutcome cfg canSocketReceive now m r sender s data sourceIp sizeBytes
        ⟨none, counterparty (m.content r).participants s, true, none⟩ m'

theorem evictedEntry_eq_none {messages : List (BufferedMessage V)}
    (h : evictedEntry messages = none) : afterEviction messages = messages := by
  unfold evictedEntry at h
  unfold afterEviction
  split at h
  next hfull =>
    rw [List.head?_eq_none_iff] at h
    simp [h, maxBufferedMessages] at hfull
  next hroom => rw [if_neg hroom]

theorem evictedEntry_eq_some {messages : List (BufferedMessage V)} {oldest : BufferedMessage V}
    (h : evictedEntry messages = some oldest) : messages = oldest :: afterEviction messages := by
  unfold evictedEntry at h
  unfold afterEviction
  split at h
  next hfull =>
    obtain ⟨rest, rfl⟩ := List.head?_eq_some_iff.1 h
    rw [if_pos hfull, List.tail_cons]
  next => cases h

/-- Evicting the oldest entry shortens a full buffer. -/
theorem content_evictOldest (m : ChannelManager V) (r r' : ChannelRef) :
    (m.evictOldest r (evictedEntry (m.content r).messageBuffer)).content r' = if r' = r then
      { m.content r with messageBuffer := afterEviction (m.content r).messageBuffer }
        else m.content r' := by
  cases h : evictedEntry (m.content r).messageBuffer with
  | none =>
    rw [evictedEntry_eq_none h, evictOldest]
    split
    next hr => rw [hr]
    next => rfl
  | some oldest =>
    have hsplit := evictedEntry_eq_some h
    rw [evictOldest, content_releaseBufferedBytes, m.content_modifyChannel r r'
      (fun c : Content V => { c with messageBuffer := c.messageBuffer.tail }) fun _ => rfl]
    rw [hsplit, List.tail_cons, ← hsplit]

@[simp] theorem tables_evictOldest (m : ChannelManager V) (r : ChannelRef)
    (oldest : Option (BufferedMessage V)) : (m.evictOldest r oldest).tables = m.tables := by
  cases oldest <;> rfl

@[simp] theorem directDeliveries_evictOldest (m : ChannelManager V) (r : ChannelRef)
    (oldest : Option (BufferedMessage V)) :
    (m.evictOldest r oldest).directDeliveries = m.directDeliveries := by
  cases oldest <;> rfl

theorem content_pushBuffered (m : ChannelManager V) (r r' : ChannelRef)
    (message : BufferedMessage V) :
    (m.pushBuffered r message).content r' = if r' = r then
      { m.content r with messageBuffer := (m.content r).messageBuffer ++ [message] }
        else m.content r' := by
  rw [pushBuffered, content_retainBufferedBytes]
  exact m.content_modifyChannel r r' (fun c : Content V =>
    { c with messageBuffer := c.messageBuffer ++ [message] }) fun _ => rfl

theorem bufferMessage_outcome (cfg : Config) (canSocketReceive : SocketId → Bool) (now : ℕ)
    (m : ChannelManager V) (r : ChannelRef) (sender : Participant) (s : SocketId)
    (data : RelayPayload V) (sourceIp : String) (sizeBytes : ℕ) :
    DeliverOutcome cfg canSocketReceive now m r sender s data sourceIp sizeBytes
      (bufferMessage cfg now m r sender s data sourceIp sizeBytes
        (counterparty (m.content r).participants s)).1
      (bufferMessage cfg now m r sender s data sourceIp sizeBytes
        (counterparty (m.content r).participants s)).2 := by
  unfold bufferMessage
  dsimp only
  split
  next => exact .refused _
  next hfits =>
  set oldest := evictedEntry (m.channel r).messageBuffer
  set message : BufferedMessage V := ⟨data, sender.clientType.other, now, sizeBytes, sourceIp⟩
  have hevict : ∀ r', (m.evictOldest r oldest).content r' = _ := m.content_evictOldest r
  refine .buffered hfits (fun r' => ?_) (m.tables_evictOldest r oldest)
    (m.directDeliveries_evictOldest r oldest)
  rw [content_modifyChannel _ _ _ (fun c : Content V =>
      { c with seqNumbers := noteSeq c.seqNumbers s data.seq }) fun _ => rfl,
    content_pushBuffered, content_pushBuffered, hevict, hevict, if_pos rfl, if_pos rfl]
  split <;> rfl

theorem deliverMessage_outcome (cfg : Config) (canSocketReceive : SocketId → Bool) (now : ℕ)
    (m : ChannelManager V) (r : ChannelRef) (sender : Participant) (s : SocketId)
    (data : RelayPayload V) (sourceIp : String) (sizeBytes : ℕ) :
    DeliverOutcome cfg canSocketReceive now m r sender s data sourceIp sizeBytes
      (deliverMessage cfg canSocketReceive now m r sender s data sourceIp sizeBytes).1
      (deliverMessage cfg canSocketReceive now m r sender s data sourceIp sizeBytes).2 := by
  have hbuffer := bufferMessage_outcome cfg canSocketReceive now m r sender s data sourceIp
    sizeBytes
  have hsame : (m.content r).participants = (m.channel r).participants := rfl
  unfold deliverMessage
  split
  next hnone =>
    rw [hsame, hnone] at hbuffer
    exact hbuffer
  next target htarget =>
    split
    next hok =>
      rw [Bool.and_eq_true] at hok
      obtain ⟨hreceive, hadmits⟩ := hok
      have hfree : m.directDeliveries.get? target = none := by
        simp only [admitsDirect, Bool.and_eq_true, Bool.not_eq_true', JsMap.has_eq] at hadmits
        simpa using hadmits.1.1.1
      refine .direct target htarget hreceive hfree hadmits (fun r' => ?_) rfl rfl
      rw [content_modifyChannel _ _ _ (fun c : Content V =>
        { c with seqNumbers := noteSeq c.seqNumbers s data.seq }) fun _ => rfl,
        content_reserveDirect, content_reserveDirect]
    next =>
      rw [hsame, htarget] at hbuffer
      exact hbuffer

/-- The outcomes of `routeMessage`. -/
inductive RouteOutcome [Unknown V] (cfg : Config) (canSocketReceive : SocketId → Bool)
    (now bufferedAt : ℕ) (m : ChannelManager V) (channelId : String) (s : SocketId)
    (data : RelayPayload V) (sourceIp : String) : RouteResult → ChannelManager V → Prop
  | refused (error : String) :
      RouteOutcome cfg canSocketReceive now bufferedAt m channelId s data sourceIp
        (.refused error) m
  /-- The sender may send, the message may not. -/
  | refusedLate {m' : ChannelManager V} (error : String) (target : Option SocketId)
      (r : ChannelRef) (hget : m.channels.get? channelId = some r)
      (hlive : (m.content r).terminated = false)
      (hsender : ∃ p, (m.content r).participants.get? s = some p)
      (htarget : target = none ∨ target = counterparty (m.content r).participants s)
      (hcontent : ∀ r', m'.content r' =
        if r' = r then { m.content r with lastActivity := now } else m.content r')
      (htables : m'.tables = m.tables) (hdd : m'.directDeliveries = m.directDeliveries) :
      RouteOutcome cfg canSocketReceive now bufferedAt m channelId s data sourceIp
        ⟨none, target, false, some error⟩ m'
  | direct {m' : ChannelManager V} (r : ChannelRef) (sender : Participant) (target : SocketId)
      (sizeBytes : ℕ) (hget : m.channels.get? channelId = some r)
      (hlive : (m.content r).terminated = false)
      (hsender : (m.content r).participants.get? s = some sender)
      (htype : data.clientType = sender.clientType)
      (hseq : replays (m.content r).seqNumbers s data.seq = false)
      (hsize : data.getSerializedSize = some sizeBytes)
      (htarget : counterparty (m.content r).participants s = some target)
      (hreceive : canSocketReceive target = true)
      (hfree : m.directDeliveries.get? target = none)
      (hfits : m.admitsDirect cfg r target sourceIp sizeBytes = true)
      (hcontent : ∀ r', m'.content r' =
        if r' = r then (m.content r).noted now s data.seq else m.content r')
      (htables : m'.tables = m.tables)
      (hdd : m'.directDeliveries = m.directDeliveries.set target ⟨r, sourceIp, sizeBytes⟩) :
      RouteOutcome cfg canSocketReceive now bufferedAt m channelId s data sourceIp
        ⟨some target, none, false, none⟩ m'
  | buffered {m' : ChannelManager V} (r : ChannelRef) (sender : Participant) (sizeBytes : ℕ)
      (hget : m.channels.get? channelId = some r) (hlive : (m.content r).terminated = false)
      (hsender : (m.content r).participants.get? s = some sender)
      (htype : data.clientType = sender.clientType)
      (hseq : replays (m.content r).seqNumbers s data.seq = false)
      (hsize : data.getSerializedSize = some sizeBytes)
      (hfits : m.bufferRefusal cfg r sourceIp sizeBytes
        (evictedEntry (m.content r).messageBuffer) = none)
      (hcontent : ∀ r', m'.content r' = if r' = r then
        { (m.content r).noted now s data.seq with
          messageBuffer := afterEviction (m.content r).messageBuffer ++
            [⟨data, sender.clientType.other, bufferedAt, sizeBytes, sourceIp⟩] } else m.content r')
      (htables : m'.tables = m.tables) (hdd : m'.directDeliveries = m.directDeliveries) :
      RouteOutcome cfg canSocketReceive now bufferedAt m channelId s data sourceIp
        ⟨none, counterparty (m.content r).participants s, true, none⟩ m'

/-- `routeMessage` ends in one of its outcomes. -/
theorem routeMessage_outcome [Unknown V] (cfg : Config) (canSocketReceive : SocketId → Bool)
    (now bufferedAt : ℕ) (m : ChannelManager V) (channelId : String) (s : SocketId)
    (data : RelayPayload V) (sourceIp : String) :
    RouteOutcome cfg canSocketReceive now bufferedAt m channelId s data sourceIp
      (routeMessage cfg canSocketReceive now bufferedAt m channelId s data sourceIp).1
      (routeMessage cfg canSocketReceive now bufferedAt m channelId s data sourceIp).2 := by
  unfold routeMessage
  split
  next => exact .refused _
  next r hget =>
  split
  next => exact .refused _
  next hterm =>
  split
  next => exact .refused _
  next sender hsender =>
  split
  next => exact .refused _
  next htype =>
  dsimp only
  have hlive : (m.content r).terminated = false := by
    simpa [content, Channel.content] using hterm
  have hsender : (m.content r).participants.get? s = some sender := hsender
  have htype : data.clientType = sender.clientType := not_not.1 htype
  set m₁ := m.modifyChannel r fun c => { c with lastActivity := now } with hm₁
  have hc₁ : ∀ r', m₁.content r' =
      if r' = r then { m.content r with lastActivity := now } else m.content r' :=
    fun r' => m.content_modifyChannel r r' (fun c : Content V =>
      { c with lastActivity := now }) fun _ => rfl
  have hc₁r : m₁.content r = { m.content r with lastActivity := now } := by rw [hc₁, if_pos rfl]
  split
  next => exact .refusedLate _ none r hget hlive ⟨sender, hsender⟩ (.inl rfl) hc₁ rfl rfl
  next hseq =>
  have hseq : replays (m.content r).seqNumbers s data.seq = false := by
    have hsame : (m₁.channel r).seqNumbers = (m.content r).seqNumbers :=
      congrArg Content.seqNumbers hc₁r
    rw [← hsame]
    simpa using hseq
  split
  next => exact .refusedLate _ none r hget hlive ⟨sender, hsender⟩ (.inl rfl) hc₁ rfl rfl
  next sizeBytes hsize =>
  have h := deliverMessage_outcome cfg canSocketReceive bufferedAt m₁ r sender s data sourceIp
    sizeBytes
  generalize deliverMessage cfg canSocketReceive bufferedAt m₁ r sender s data sourceIp
    sizeBytes = out
    at h
  obtain ⟨res, m'⟩ := out
  have hparts : (m₁.content r).participants = (m.content r).participants := by rw [hc₁r]
  have ht₁ : m₁.tables = m.tables := rfl
  have hd₁ : m₁.directDeliveries = m.directDeliveries := rfl
  have hch₁ : m₁.channel r = { m.channel r with lastActivity := now } := by
    rw [hm₁, channel_modifyChannel, if_pos rfl]
  have hadmits₁ : ∀ target, m₁.admitsDirect cfg r target sourceIp sizeBytes =
      m.admitsDirect cfg r target sourceIp sizeBytes := fun target => by
    simp only [admitsDirect, hch₁]
    rfl
  have hfits₁ : ∀ oldest, m₁.bufferRefusal cfg r sourceIp sizeBytes oldest =
      m.bufferRefusal cfg r sourceIp sizeBytes oldest := fun oldest => by
    simp only [bufferRefusal, hch₁]
    rfl
  clear_value m₁
  dsimp only at h ⊢
  cases h with
  | refused error =>
    exact .refusedLate error _ r hget hlive ⟨sender, hsender⟩ (.inr (by rw [hparts])) hc₁ ht₁ hd₁
  | direct target htarget hreceive hfree hfits hcontent htables hdd =>
    rw [hd₁] at hfree hdd
    refine .direct r sender target sizeBytes hget hlive hsender htype hseq hsize
      (by rw [← hparts, htarget]) hreceive hfree (by rw [← hadmits₁, hfits]) (fun r' => ?_)
      (htables.trans ht₁) hdd
    rw [hcontent, hc₁r]
    split
    · rfl
    next hr => rw [hc₁, if_neg hr]
  | buffered hfits hcontent htables hdd =>
    rw [hparts]
    rw [hfits₁, hc₁r] at hfits
    refine .buffered r sender sizeBytes hget hlive hsender htype hseq hsize hfits (fun r' => ?_)
      (htables.trans ht₁) (hdd.trans hd₁)
    rw [hcontent, hc₁r]
    split
    · rfl
    next hr => rw [hc₁, if_neg hr]

end ChannelManager

/-! ## Promotion -/

/-- Taking the first match out of a list. -/
theorem split_eraseP {α : Type} {p : α → Bool} {l : List α} {a : α} (h : l.find? p = some a) :
    ∃ pre post, l = pre ++ a :: post ∧ l.eraseP p = pre ++ post ∧ p a = true ∧
      ∀ b ∈ pre, ¬p b = true := by
  obtain ⟨hp, pre, post, rfl, hpre⟩ := List.find?_eq_some_iff_append.1 h
  have hpre : ∀ b ∈ pre, ¬p b = true := fun b hb => by simpa using hpre b hb
  refine ⟨pre, post, rfl, ?_, hp, hpre⟩
  rw [List.eraseP_append_right _ hpre, List.eraseP_cons_of_pos hp]

theorem perm_cons_eraseP {α : Type} {p : α → Bool} {l : List α} {a : α} (h : l.find? p = some a) :
    l.Perm (a :: l.eraseP p) := by
  obtain ⟨pre, post, hl, herase, -⟩ := split_eraseP h
  rw [herase, hl]
  exact List.perm_middle

/-- A channel whose oldest message for a role was taken out. -/
def Content.promoted {V : Type} (c : Content V) (t : ClientType) : Content V :=
  { c with messageBuffer := c.messageBuffer.eraseP fun message => message.targetClientType = t }

namespace ChannelManager

variable {V : Type}

/-- The outcomes of `advanceDirectDelivery`. -/
inductive AdvanceOutcome (m : ChannelManager V) (s : SocketId) :
    Option (RelayPayload V) → ChannelManager V → Prop
  | idle (hnone : m.directDeliveries.get? s = none) : AdvanceOutcome m s none m
  /-- The reservation's channel has nothing for the socket. -/
  | released {m' : ChannelManager V} (reservation : DirectDeliveryReservation)
      (hres : m.directDeliveries.get? s = some reservation)
      (hempty : ∀ p, (m.content reservation.channel).participants.get? s = some p →
        (m.content reservation.channel).terminated = false →
        ∀ message ∈ (m.content reservation.channel).messageBuffer,
          message.targetClientType ≠ p.clientType)
      (hcontent : ∀ r', m'.content r' = m.content r') (htables : m'.tables = m.tables)
      (hdd : ∀ s', m'.directDeliveries.get? s' =
        if s' = s then none else m.directDeliveries.get? s') :
      AdvanceOutcome m s none m'
  | promoted {m' : ChannelManager V} (reservation : DirectDeliveryReservation) (p : Participant)
      (next : BufferedMessage V) (hres : m.directDeliveries.get? s = some reservation)
      (hp : (m.content reservation.channel).participants.get? s = some p)
      (hlive : (m.content reservation.channel).terminated = false)
      (hnext : (m.content reservation.channel).messageBuffer.find?
        (·.targetClientType = p.clientType) = some next)
      (hcontent : ∀ r', m'.content r' = if r' = reservation.channel then
        (m.content reservation.channel).promoted p.clientType else m.content r')
      (htables : m'.tables = m.tables)
      (hdd : ∀ s', m'.directDeliveries.get? s' =
        if s' = s then some ⟨reservation.channel, next.sourceIp, next.sizeBytes⟩
        else m.directDeliveries.get? s') :
      AdvanceOutcome m s (some next.data) m'

/-- `advanceDirectDelivery` ends in one of its outcomes. -/
theorem advance_outcome (m : ChannelManager V) (s : SocketId) :
    AdvanceOutcome m s (m.advanceDirectDelivery s).1 (m.advanceDirectDelivery s).2 := by
  unfold advanceDirectDelivery
  split
  next hnone => exact .idle hnone
  next reservation hres =>
  dsimp only
  set r := reservation.channel
  set m₁ := m.releaseDirectDelivery s with hm₁
  have hc₁ : ∀ r', m₁.content r' = m.content r' := m.content_releaseDirectDelivery s
  have hr₁ : (m₁.channel r).content = m.content r := hc₁ r
  have hterm₁ : (m₁.channel r).terminated = (m.content r).terminated :=
    congrArg Content.terminated hr₁
  have hbuf₁ : (m₁.channel r).messageBuffer = (m.content r).messageBuffer :=
    congrArg Content.messageBuffer hr₁
  have ht₁ : m₁.tables = m.tables := m.tables_releaseDirectDelivery s
  have hd₁ : ∀ s', m₁.directDeliveries.get? s' =
      if s' = s then none else m.directDeliveries.get? s' :=
    m.directDeliveries_releaseDirectDelivery s
  split
  next hp =>
    have hp : (m.content r).participants.get? s = none := hp
    exact .released reservation hres (fun p h => by rw [hp] at h; cases h) hc₁ ht₁ hd₁
  next p hp =>
  have hp : (m.content r).participants.get? s = some p := hp
  split
  next hterm =>
    refine .released reservation hres (fun _ _ hlive => ?_) hc₁ ht₁ hd₁
    rw [hterm₁, hlive] at hterm
    cases hterm
  next hterm =>
  rw [hbuf₁]
  split
  next hnone =>
    refine .released reservation hres (fun p' hp' _ message hmem => ?_) hc₁ ht₁ hd₁
    rw [hp, Option.some.injEq] at hp'
    simpa [hp'] using List.find?_eq_none.1 hnone message hmem
  next next hnext =>
    have hlive : (m.content r).terminated = false := by
      rw [← hterm₁]
      simpa using hterm
    refine .promoted reservation p next hres hp hlive hnext (fun r' => ?_) ?_ (fun s' => ?_)
    · rw [content_reserveDirect, content_releaseBufferedBytes,
        content_modifyChannel _ _ _ (·.promoted p.clientType) fun _ => rfl, hc₁, hc₁]
    · exact ht₁
    · rw [directDeliveries_reserveDirect, JsMap.get?_set]
      split
      · rfl
      next hs => exact (hd₁ s').trans (if_neg hs)

/-! ## Cleanup -/

/-- The message is young enough to keep. -/
def isFresh (now : ℕ) (message : BufferedMessage V) : Bool :=
  now - message.timestamp < bufferTtlMs

end ChannelManager

/-- Cleanup removes the channel's entry. -/
def Content.expired {V : Type} (c : Content V) (now : ℕ) : Bool :=
  if c.terminated then tombstoneTtlMs < now - c.terminatedAt
  else c.participants.size = 0 && channelTtlMs < now - c.lastActivity

/-- A channel without its expired messages. -/
def Content.swept {V : Type} (c : Content V) (now : ℕ) : Content V :=
  { c with messageBuffer := c.messageBuffer.filter (ChannelManager.isFresh now) }

namespace ChannelManager

variable {V : Type}

theorem cleanupChannel_spec (now : ℕ) (m : ChannelManager V) (channelId : String)
    (r : ChannelRef) :
    (∀ r', (cleanupChannel now m channelId r).content r' =
      if r' = r then (m.content r).swept now else m.content r') ∧
    (cleanupChannel now m channelId r).channels =
      (if (m.content r).expired now then m.channels.delete channelId else m.channels) ∧
    (cleanupChannel now m channelId r).terminatedOrder = m.terminatedOrder ∧
    (cleanupChannel now m channelId r).objects.next = m.objects.next ∧
    (cleanupChannel now m channelId r).directDeliveries = m.directDeliveries := by
  unfold cleanupChannel
  dsimp only
  set expired := (m.channel r).messageBuffer.filter fun message =>
    !decide (now - message.timestamp < bufferTtlMs)
  set m₁ := (m.releaseAll r expired).modifyChannel r fun c =>
    { c with messageBuffer := c.messageBuffer.filter fun message =>
        decide (now - message.timestamp < bufferTtlMs) } with hm₁
  have hc : ∀ r', m₁.content r' =
      if r' = r then (m.content r).swept now else m.content r' := by
    intro r'
    rw [hm₁, content_modifyChannel _ _ _ (·.swept now) fun _ => rfl, content_releaseAll,
      content_releaseAll]
  have htables : m₁.tables = m.tables := (m.tables_releaseAll r expired).trans rfl
  have hdd : m₁.directDeliveries = m.directDeliveries :=
    (m.directDeliveries_releaseAll r expired).trans rfl
  obtain ⟨hch, hord, -, hnext⟩ := tables_eq_iff.1 htables
  have hr : m₁.content r = (m.content r).swept now := by rw [hc, if_pos rfl]
  have hterm : (m₁.channel r).terminated = (m.content r).terminated :=
    congrArg Content.terminated hr
  have hat : (m₁.channel r).terminatedAt = (m.content r).terminatedAt :=
    congrArg Content.terminatedAt hr
  have hparts : (m₁.channel r).participants = (m.content r).participants :=
    congrArg Content.participants hr
  have hact : (m₁.channel r).lastActivity = (m.content r).lastActivity :=
    congrArg Content.lastActivity hr
  rw [hterm, hat, hparts, hact]
  clear_value m₁
  simp only [Content.expired]
  split
  · by_cases hold : tombstoneTtlMs < now - (m.content r).terminatedAt
    · simp only [hold, decide_true, if_true]
      exact ⟨hc, by rw [hch], hord, hnext, hdd⟩
    · simp only [hold, decide_false, Bool.false_eq_true, if_false]
      exact ⟨hc, hch, hord, hnext, hdd⟩
  · split
    · exact ⟨hc, by rw [hch], hord, hnext, hdd⟩
    · exact ⟨hc, hch, hord, hnext, hdd⟩

/-- What the loop of `cleanup` over some entries of the map does. -/
theorem foldl_cleanupChannel_spec (now : ℕ) (l : List (String × ChannelRef)) :
    ∀ m : ChannelManager V, (l.map Prod.fst).Nodup →
    let m' := l.foldl (fun m e => m.cleanupChannel now e.1 e.2) m
    (∀ r, m'.content r = if r ∈ l.map Prod.snd then (m.content r).swept now else m.content r) ∧
    (∀ id, m'.channels.get? id =
      if id ∈ (l.filter fun e => (m.content e.2).expired now).map Prod.fst then none
      else m.channels.get? id) ∧
    m'.terminatedOrder = m.terminatedOrder ∧ m'.objects.next = m.objects.next ∧
    m'.directDeliveries = m.directDeliveries := by
  induction l with
  | nil => simp
  | cons e l ih =>
    obtain ⟨channelId, r₀⟩ := e
    intro m hnd
    rw [List.map_cons, List.nodup_cons] at hnd
    obtain ⟨hc₁, hch₁, hord₁, hnx₁, hdd₁⟩ := cleanupChannel_spec now m channelId r₀
    obtain ⟨hc, hch, hord, hnx, hdd⟩ := ih (m.cleanupChannel now channelId r₀) hnd.2
    have hexp : ∀ r, ((m.cleanupChannel now channelId r₀).content r).expired now =
        (m.content r).expired now := by
      intro r
      rw [hc₁]
      split
      next h => rw [h]; rfl
      next => rfl
    have hswept : ∀ c : Content V, (c.swept now).swept now = c.swept now := by
      intro c
      simp [Content.swept, List.filter_filter]
    simp only [List.foldl_cons]
    refine ⟨fun r => ?_, fun id => ?_, hord.trans hord₁, hnx.trans hnx₁, hdd.trans hdd₁⟩
    · rw [hc, hc₁]
      by_cases h : r = r₀
      · subst h
        simp [hswept]
      · rw [if_neg h, List.map_cons]
        simp only [List.mem_cons, h, false_or]
    · simp only [hch, hexp, hch₁]
      by_cases hid : id = channelId
      · subst hid
        have hnot : id ∉ (l.filter fun e => (m.content e.2).expired now).map Prod.fst :=
          fun h => hnd.1 ((List.filter_sublist.map Prod.fst).subset h)
        rw [if_neg hnot]
        by_cases hx : (m.content r₀).expired now
        · simp [hx]
        · rw [List.filter_cons_of_neg (by simpa using hx), if_neg hnot, if_neg hx]
      · have hkeep : (if (m.content r₀).expired now = true then m.channels.delete channelId
            else m.channels).get? id = m.channels.get? id := by
          split
          · exact m.channels.get?_delete_of_ne hid
          · rfl
        have hmem : id ∈ (((channelId, r₀) :: l).filter fun e =>
            (m.content e.2).expired now).map Prod.fst ↔
            id ∈ (l.filter fun e => (m.content e.2).expired now).map Prod.fst := by
          by_cases hx : (m.content r₀).expired now
          · simp [hx, hid]
          · simp [hx]
        rw [hkeep]
        simp only [hmem]

/-- `cleanup` drops the expired messages of the channels in the map, then the expired
channels, then the ids of the FIFO that name no channel any more. -/
theorem cleanup_spec (now : ℕ) (m : ChannelManager V) :
    (∀ r, (cleanup now m).content r =
      if r ∈ m.channels.values then (m.content r).swept now else m.content r) ∧
    (∀ id, (cleanup now m).channels.get? id =
      (m.channels.get? id).filter fun r => !(m.content r).expired now) ∧
    (cleanup now m).terminatedOrder =
      m.terminatedOrder.filter (cleanup now m).channels.has ∧
    (cleanup now m).objects.next = m.objects.next ∧
    (cleanup now m).directDeliveries = m.directDeliveries := by
  obtain ⟨hc, hch, hord, hnx, hdd⟩ :=
    foldl_cleanupChannel_spec now m.channels.entries m m.channels.nodup
  refine ⟨hc, fun id => ?_, ?_, hnx, hdd⟩
  · have hmem : id ∈ (m.channels.entries.filter fun e =>
        (m.content e.2).expired now).map Prod.fst ↔
        ∃ r, m.channels.get? id = some r ∧ (m.content r).expired now = true := by
      simp [JsMap.mem_entries]
    refine (hch id).trans ?_
    cases hget : m.channels.get? id with
    | none => simp
    | some r =>
      by_cases hx : (m.content r).expired now
      · rw [if_pos (hmem.2 ⟨r, hget, hx⟩)]
        simp [Option.filter, hx]
      · rw [if_neg fun h => ?_]
        · simp [Option.filter, hx]
        · obtain ⟨r', hr', hx'⟩ := hmem.1 h
          rw [hget, Option.some.injEq] at hr'
          exact hx (hr' ▸ hx')
  · unfold cleanup
    dsimp only
    rw [hord]

end ChannelManager

end QrlBackend
