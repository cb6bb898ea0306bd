import QrlBackend.Holdings
import QrlBackend.Lifetimes

/-!
# The byte counters are exact

Five counters account for what the manager holds : two on each channel, two totals and one
for each address. `ExactFor m held` says that they are what the buffered messages `held`
and the live reservations add up to. While an operation is between taking a message out of
a buffer and releasing its bytes, `held` is not yet what the buffers hold, and that is why
it is a parameter : each release takes one message out of `held`
(`ExactFor.releaseBufferedBytes`), each retain puts one in. Between operations `held` is
the buffers (`Exact`), and every operation keeps that (`exact_step`).

The addition behind it is about multisets of holdings, so orphaned channel objects count
like any other. `byte_accounting` restates the sums over the channels in the map, which is
the same because an orphan holds nothing under a clock that never goes back.
-/

set_option autoImplicit false

namespace QrlBackend

variable {V : Type}

/-! ## Bytes of holdings -/

/-- What is accounted for one retained message. -/
structure Holding where
  channel : ChannelRef
  sourceIp : String
  sizeBytes : ℕ

/-- The accounted part of a buffered message. -/
def heldInBuffer (e : ChannelRef × BufferedMessage V) : Holding :=
  ⟨e.1, e.2.sourceIp, e.2.sizeBytes⟩

/-- The accounted part of a reservation. -/
def heldInFlight (reservation : DirectDeliveryReservation) : Holding :=
  ⟨reservation.channel, reservation.sourceIp, reservation.sizeBytes⟩

/-- The bytes of the holdings that meet a condition. -/
def bytes (p : Holding → Prop) [DecidablePred p] (held : Multiset Holding) : ℕ :=
  ((held.filter p).map Holding.sizeBytes).sum

section Bytes

variable (p : Holding → Prop) [DecidablePred p]

@[simp] theorem bytes_zero : bytes p 0 = 0 := by simp [bytes]

@[simp] theorem bytes_cons (h : Holding) (held : Multiset Holding) :
    bytes p (h ::ₘ held) = (if p h then h.sizeBytes else 0) + bytes p held := by
  unfold bytes
  by_cases hp : p h
  · simp [hp]
  · simp [hp]

@[simp] theorem bytes_add (held held' : Multiset Holding) :
    bytes p (held + held') = bytes p held + bytes p held' := by
  simp [bytes, Multiset.filter_add]

/-- Fewer holdings have fewer bytes. -/
theorem bytes_le_of_le {held held' : Multiset Holding} (h : held ≤ held') :
    bytes p held ≤ bytes p held' := by
  obtain ⟨rest, rfl⟩ := Multiset.le_iff_exists_add.1 h
  rw [bytes_add]
  exact Nat.le_add_right _ _

end Bytes

/-- An address with nothing has no entry. -/
def nonzero (n : ℕ) : Option ℕ := if n = 0 then none else some n

@[simp] theorem nonzero_getD (n : ℕ) : (nonzero n).getD 0 = n := by
  unfold nonzero
  split
  next h => rw [h]; rfl
  next => rfl

theorem nonzero_of_pos {n : ℕ} (h : 0 < n) : nonzero n = some n := if_neg h.ne'

namespace ChannelManager

/-- Everything accounted for : the messages `held` and the live reservations. -/
def holdings (m : ChannelManager V) (held : Multiset (ChannelRef × BufferedMessage V)) :
    Multiset Holding :=
  held.map heldInBuffer + (reserved m).map heldInFlight

/-- The counters are what `held` and the live reservations add up to. -/
structure ExactFor (m : ChannelManager V) (held : Multiset (ChannelRef × BufferedMessage V)) :
    Prop where
  buffered : ∀ r, (m.channel r).bufferedBytes = bytes (·.channel = r) (held.map heldInBuffer)
  inflight : ∀ r, (m.channel r).directInflightBytes =
    bytes (·.channel = r) ((reserved m).map heldInFlight)
  totalBuffered : m.totalBufferedBytes = bytes (fun _ => True) (held.map heldInBuffer)
  totalInflight : m.totalDirectInflightBytes =
    bytes (fun _ => True) ((reserved m).map heldInFlight)
  byIp : ∀ ip, m.bufferedBytesByIp.get? ip = nonzero (bytes (·.sourceIp = ip) (m.holdings held))
  unclamped : m.clamped = false

/-- The counters are exact, for buffers of messages that weigh something and reservations
on channels that exist. -/
structure Exact (m : ChannelManager V) : Prop where
  exact : ExactFor m (buffered m)
  positive : ∀ e ∈ buffered m, 0 < e.2.sizeBytes
  refs : ∀ reservation ∈ reserved m, reservation.channel < m.objects.next

/-! ## Retaining and releasing -/

/-- Retaining adds to one address. -/
theorem get?_retainIpBytes {m : ChannelManager V} {f : String → ℕ} {ip₀ : String} {n : ℕ}
    (hn : 0 < n) (h : ∀ ip, m.bufferedBytesByIp.get? ip = nonzero (f ip)) (ip : String) :
    (m.retainIpBytes ip₀ n).bufferedBytesByIp.get? ip =
      nonzero ((if ip₀ = ip then n else 0) + f ip) := by
  rw [retainIpBytes, JsMap.get?_set, h, h, nonzero_getD]
  by_cases hip : ip = ip₀
  · rw [if_pos hip, if_pos hip.symm, nonzero_of_pos (by omega), hip, add_comm]
  · rw [if_neg hip, if_neg (Ne.symm hip), zero_add]

/-- Releasing takes it off again. -/
theorem get?_releaseIpBytes {m : ChannelManager V} {f : String → ℕ} {ip₀ : String} {n : ℕ}
    (h : ∀ ip, m.bufferedBytesByIp.get? ip = nonzero ((if ip₀ = ip then n else 0) + f ip))
    (ip : String) :
    (m.releaseIpBytes ip₀ n).bufferedBytesByIp.get? ip = nonzero (f ip) := by
  have h₀ : (m.bufferedBytesByIp.get? ip₀).getD 0 - n = f ip₀ := by
    rw [h, nonzero_getD, if_pos rfl]
    omega
  unfold releaseIpBytes
  dsimp only
  rw [h₀]
  by_cases hip : ip = ip₀
  · subst hip
    split
    next hpos => rw [JsMap.get?_set_self, nonzero_of_pos hpos]
    next hzero => rw [JsMap.get?_delete_self, nonzero, if_pos (by omega)]
  · have hkeep : m.bufferedBytesByIp.get? ip = nonzero (f ip) := by
      rw [h, if_neg (Ne.symm hip), zero_add]
    split
    · rw [JsMap.get?_set_of_ne _ _ hip, hkeep]
    · rw [JsMap.get?_delete_of_ne _ hip, hkeep]

/-- An update of fields that are not counters keeps the counters exact. -/
theorem ExactFor.modifyChannel {m : ChannelManager V}
    {held : Multiset (ChannelRef × BufferedMessage V)} (h : ExactFor m held) (r : ChannelRef)
    (f : Channel V → Channel V) (hb : ∀ c, (f c).bufferedBytes = c.bufferedBytes)
    (hd : ∀ c, (f c).directInflightBytes = c.directInflightBytes) :
    ExactFor (m.modifyChannel r f) held where
  buffered r' := by
    rw [channel_modifyChannel]
    split
    next hr => rw [hb, hr, h.buffered]
    next => exact h.buffered r'
  inflight r' := by
    rw [channel_modifyChannel]
    split
    next hr => rw [hd, hr]; exact h.inflight r
    next => exact h.inflight r'
  totalBuffered := h.totalBuffered
  totalInflight := h.totalInflight
  byIp := h.byIp
  unclamped := h.unclamped

/-- Releasing a held message takes it out, and clamps nothing. -/
theorem ExactFor.releaseBufferedBytes {m : ChannelManager V}
    {held : Multiset (ChannelRef × BufferedMessage V)} {r : ChannelRef}
    {message : BufferedMessage V} (h : ExactFor m ((r, message) ::ₘ held)) :
    ExactFor (m.releaseBufferedBytes r message) held := by
  have hbuf := h.buffered
  have htot := h.totalBuffered
  simp only [Multiset.map_cons, bytes_cons, heldInBuffer, if_true] at hbuf htot
  have hr := hbuf r
  rw [if_pos rfl] at hr
  constructor
  · intro r'
    change ((m.modifyChannel r fun c =>
      { c with bufferedBytes := c.bufferedBytes - message.sizeBytes }).channel r').bufferedBytes = _
    rw [channel_modifyChannel]
    split
    next heq => subst heq; dsimp only; omega
    next hne =>
      have := hbuf r'
      rw [if_neg (Ne.symm hne)] at this
      omega
  · intro r'
    change ((m.modifyChannel r fun c =>
      { c with bufferedBytes := c.bufferedBytes - message.sizeBytes }).channel
        r').directInflightBytes = _
    rw [channel_modifyChannel]
    split
    next heq => subst heq; exact h.inflight r'
    next => exact h.inflight r'
  · change m.totalBufferedBytes - message.sizeBytes = _
    omega
  · exact h.totalInflight
  · refine get?_releaseIpBytes fun ip => ?_
    have hip := h.byIp ip
    rw [holdings, Multiset.map_cons, Multiset.cons_add, bytes_cons] at hip
    exact hip
  · change (m.clamped || (decide _ || decide _)) = false
    rw [h.unclamped, Bool.false_or, Bool.or_eq_false_iff, decide_eq_false_iff_not,
      decide_eq_false_iff_not]
    omega

/-- Retaining a message of some size puts it in. -/
theorem ExactFor.retainBufferedBytes {m : ChannelManager V}
    {held : Multiset (ChannelRef × BufferedMessage V)} (h : ExactFor m held) (r : ChannelRef)
    {message : BufferedMessage V} (hpos : 0 < message.sizeBytes) :
    ExactFor (m.retainBufferedBytes r message) ((r, message) ::ₘ held) := by
  constructor
  · intro r'
    change ((m.modifyChannel r fun c =>
      { c with bufferedBytes := c.bufferedBytes + message.sizeBytes }).channel r').bufferedBytes = _
    simp only [Multiset.map_cons, bytes_cons, heldInBuffer]
    rw [channel_modifyChannel]
    split
    next heq => subst heq; rw [if_pos rfl, ← h.buffered]; exact Nat.add_comm _ _
    next hne => rw [if_neg (Ne.symm hne), zero_add, h.buffered]
  · intro r'
    change ((m.modifyChannel r fun c =>
      { c with bufferedBytes := c.bufferedBytes + message.sizeBytes }).channel
        r').directInflightBytes = _
    rw [channel_modifyChannel]
    split
    next heq => subst heq; exact h.inflight r'
    next => exact h.inflight r'
  · change m.totalBufferedBytes + message.sizeBytes = _
    simp only [Multiset.map_cons, bytes_cons, heldInBuffer, if_true]
    rw [h.totalBuffered, Nat.add_comm]
  · exact h.totalInflight
  · intro ip
    refine (get?_retainIpBytes hpos h.byIp ip).trans ?_
    rw [holdings, holdings, Multiset.map_cons, Multiset.cons_add, bytes_cons]
    rfl
  · exact h.unclamped

/-- Messages that are released one by one leave the books exact. -/
theorem ExactFor.releaseAll {held : Multiset (ChannelRef × BufferedMessage V)} {r : ChannelRef}
    {messages : List (BufferedMessage V)} : ∀ {m : ChannelManager V},
    ExactFor m (tagged r messages + held) → ExactFor (m.releaseAll r messages) held := by
  induction messages with
  | nil =>
    intro m h
    rwa [tagged_nil, zero_add] at h
  | cons message messages ih =>
    intro m h
    rw [tagged_cons, Multiset.cons_add] at h
    exact ih h.releaseBufferedBytes

/-- Releasing a reservation takes it out of the live ones, and clamps nothing. -/
theorem ExactFor.releaseDirectDelivery {m : ChannelManager V}
    {held : Multiset (ChannelRef × BufferedMessage V)} (h : ExactFor m held) (s : SocketId) :
    ExactFor (m.releaseDirectDelivery s) held := by
  cases hget : m.directDeliveries.get? s with
  | none => rwa [releaseDirectDelivery_of_none hget]
  | some res =>
    have hres := reserved_of_released hget (m.directDeliveries_releaseDirectDelivery s)
    have hin := h.inflight
    have htot := h.totalInflight
    simp only [hres, Multiset.map_cons, bytes_cons, heldInFlight, if_true] at hin htot
    have hr := hin res.channel
    rw [if_pos rfl] at hr
    have hch : ∀ r', (m.releaseDirectDelivery s).channel r' = if r' = res.channel then
        { m.channel res.channel with directInflightBytes :=
          (m.channel res.channel).directInflightBytes - res.sizeBytes } else m.channel r' := by
      intro r'
      change (m.releaseDirectDelivery s).objects.get r' = _
      rw [objects_releaseDirectDelivery hget]
      exact m.objects.get_modify res.channel r' _
    constructor
    · intro r'
      rw [hch]
      split
      next heq => rw [heq]; exact h.buffered res.channel
      next => exact h.buffered r'
    · intro r'
      rw [hch]
      split
      next heq => rw [heq]; dsimp only; omega
      next hne =>
        have := hin r'
        rw [if_neg (Ne.symm hne)] at this
        omega
    · have : (m.releaseDirectDelivery s).totalBufferedBytes = m.totalBufferedBytes := by
        rw [ChannelManager.releaseDirectDelivery, hget]
        rfl
      rw [this, h.totalBuffered]
    · have : (m.releaseDirectDelivery s).totalDirectInflightBytes =
          m.totalDirectInflightBytes - res.sizeBytes := by
        rw [ChannelManager.releaseDirectDelivery, hget]
        rfl
      rw [this]
      omega
    · intro ip
      have hrel : (m.releaseDirectDelivery s).bufferedBytesByIp =
          (m.releaseIpBytes res.sourceIp res.sizeBytes).bufferedBytesByIp := by
        rw [ChannelManager.releaseDirectDelivery, hget]
        rfl
      have hip : ∀ ip, m.bufferedBytesByIp.get? ip =
          nonzero ((if res.sourceIp = ip then res.sizeBytes else 0) +
            bytes (·.sourceIp = ip) ((m.releaseDirectDelivery s).holdings held)) := by
        intro ip
        rw [h.byIp, holdings, hres, Multiset.map_cons, Multiset.add_cons, bytes_cons]
        rfl
      rw [hrel]
      exact get?_releaseIpBytes hip ip
    · have : (m.releaseDirectDelivery s).clamped = (m.clamped ||
          (decide ((m.channel res.channel).directInflightBytes < res.sizeBytes) ||
            decide (m.totalDirectInflightBytes < res.sizeBytes))) := by
        rw [ChannelManager.releaseDirectDelivery, hget]
        rfl
      rw [this, h.unclamped, Bool.false_or, Bool.or_eq_false_iff, decide_eq_false_iff_not,
        decide_eq_false_iff_not]
      omega

/-- Reserving for a free socket puts the reservation among the live ones. -/
theorem ExactFor.reserveDirect {m : ChannelManager V}
    {held : Multiset (ChannelRef × BufferedMessage V)} (h : ExactFor m held) {s : SocketId}
    {res : DirectDeliveryReservation} (hfree : m.directDeliveries.get? s = none)
    (hpos : 0 < res.sizeBytes) : ExactFor (m.reserveDirect s res) held := by
  have hres : reserved (m.reserveDirect s res) = res ::ₘ reserved m :=
    reserved_of_granted hfree (m.directDeliveries_reserveDirect s res)
  have hch : ∀ r', (m.reserveDirect s res).channel r' = if r' = res.channel then
      { m.channel res.channel with directInflightBytes :=
        (m.channel res.channel).directInflightBytes + res.sizeBytes } else m.channel r' :=
    fun r' => m.objects.get_modify res.channel r' fun c : Channel V =>
      { c with directInflightBytes := c.directInflightBytes + res.sizeBytes }
  constructor
  · intro r'
    rw [hch]
    split
    next heq => rw [heq]; exact h.buffered res.channel
    next => exact h.buffered r'
  · intro r'
    rw [hch, hres, Multiset.map_cons, bytes_cons]
    split
    next heq =>
      rw [heq, if_pos (show (heldInFlight res).channel = res.channel from rfl), ← h.inflight]
      exact Nat.add_comm _ _
    next hne =>
      rw [if_neg (show ¬(heldInFlight res).channel = r' from Ne.symm hne), zero_add, h.inflight]
  · exact h.totalBuffered
  · rw [hres, Multiset.map_cons, bytes_cons, if_pos trivial, ← h.totalInflight]
    exact Nat.add_comm _ _
  · intro ip
    refine (get?_retainIpBytes hpos h.byIp ip).trans ?_
    rw [holdings, holdings, hres, Multiset.map_cons, Multiset.add_cons, bytes_cons]
    rfl
  · exact h.unclamped

/-! ## Every operation keeps the counters exact -/

/-- The part of the state the counters are read from. -/
theorem ExactFor.congr {m m' : ChannelManager V}
    {held : Multiset (ChannelRef × BufferedMessage V)} (h : ExactFor m held)
    (hobj : m'.objects = m.objects) (hdd : m'.directDeliveries = m.directDeliveries)
    (htot : m'.totalBufferedBytes = m.totalBufferedBytes)
    (hfly : m'.totalDirectInflightBytes = m.totalDirectInflightBytes)
    (hip : m'.bufferedBytesByIp = m.bufferedBytesByIp) (hcl : m'.clamped = m.clamped) :
    ExactFor m' held := by
  obtain ⟨objects, channels, order, cap, tb, td, dd, ip, cl⟩ := m'
  dsimp only at hobj hdd htot hfly hip hcl
  subst hobj hdd htot hfly hip hcl
  exact ⟨h.buffered, h.inflight, h.totalBuffered, h.totalInflight, h.byIp, h.unclamped⟩

theorem ExactFor.of_eq {m : ChannelManager V}
    {held held' : Multiset (ChannelRef × BufferedMessage V)} (h : ExactFor m held)
    (heq : held = held') : ExactFor m held' :=
  heq ▸ h

/-- Exactness survives whatever puts no message into a buffer and grants nothing new. -/
theorem Exact.of_le {m m' : ChannelManager V} (h : Exact m) (hexact : ExactFor m' (buffered m'))
    (hbuf : ∀ e ∈ buffered m', e ∈ buffered m) (hnext : m.objects.next ≤ m'.objects.next)
    (hdd : ∀ s d, m'.directDeliveries.get? s = some d → m.directDeliveries.get? s = some d) :
    Exact m' where
  exact := hexact
  positive e he := h.positive e (hbuf e he)
  refs d hd := by
    obtain ⟨s, hs⟩ := mem_reserved.1 hd
    exact (h.refs d (mem_reserved.2 ⟨s, hdd s d hs⟩)).trans_le hnext

/-- A stale socket holds no bytes. -/
theorem Exact.dropStale {m : ChannelManager V} (h : Exact m) (r : ChannelRef) (e : SocketId) :
    Exact (m.dropStale r e) := by
  have hnext : (m.dropStale r e).objects.next = m.objects.next :=
    (tables_eq_iff.1 (m.tables_dropStale r e)).2.2.2
  have hbuf : buffered (m.dropStale r e) = buffered m :=
    buffered_of_same hnext fun r' => by
      rw [content_dropStale]
      split
      next hr => rw [hr]; rfl
      next => rfl
  refine h.of_le ?_ (fun x hx => hbuf ▸ hx) hnext.ge fun s d hd => ?_
  · rw [hbuf]
    refine ExactFor.releaseDirectDelivery ?_ e
    exact h.exact.modifyChannel r _ (fun _ => by rfl) fun _ => by rfl
  · rw [directDeliveries_dropStale] at hd
    split at hd
    · cases hd
    · exact hd

theorem Exact.addParticipant {m : ChannelManager V} (h : Exact m) {r : ChannelRef}
    (hr : r < m.objects.next) (now : ℕ) (s : SocketId) (t : ClientType) :
    Exact (addParticipant now m r s t).2 := by
  obtain ⟨hc, htables, hdd, -⟩ := addParticipant_spec now m r s t
  have hnext := (tables_eq_iff.1 htables).2.2.2
  have hsplit := buffered_of_filter (fun message => decide (message.targetClientType = t)) hr hnext
    fun r' => by
      rw [hc]
      split <;> simp [Content.joined]
  refine h.of_le ?_ (fun e he => ?_) hnext.ge fun s' d hd => hdd ▸ hd
  · set f : Channel V → Channel V := fun c =>
      { c with participants := c.participants.set s ⟨t, now⟩, lastActivity := now }
    have hsame : ((m.modifyChannel r f).channel r).messageBuffer = (m.content r).messageBuffer := by
      rw [channel_modifyChannel, if_pos rfl]
      rfl
    have h₁ := (h.exact.modifyChannel r f (fun _ => rfl) fun _ => rfl).of_eq hsplit
    rw [← hsame] at h₁
    exact h₁.releaseAll.modifyChannel r _ (fun _ => by rfl) fun _ => by rfl
  · rw [hsplit]
    exact Multiset.mem_add.2 (.inr he)

/-- An update of fields that are neither counters nor the buffer. -/
theorem Exact.modifyChannel {m : ChannelManager V} (h : Exact m) (r : ChannelRef)
    (f : Channel V → Channel V) (hb : ∀ c, (f c).bufferedBytes = c.bufferedBytes)
    (hd : ∀ c, (f c).directInflightBytes = c.directInflightBytes)
    (hbuf : ∀ c, (f c).messageBuffer = c.messageBuffer) : Exact (m.modifyChannel r f) := by
  have hsame : buffered (m.modifyChannel r f) = buffered m := by
    refine buffered_of_same rfl fun r' => ?_
    change ((m.modifyChannel r f).channel r').messageBuffer = (m.channel r').messageBuffer
    rw [channel_modifyChannel]
    split
    next hr => rw [hbuf, hr]
    next => rfl
  refine h.of_le ?_ (fun e he => hsame ▸ he) le_rfl fun s d hd => hd
  exact (h.exact.modifyChannel r f hb hd).of_eq hsame.symm

theorem Exact.bindAndAdmit {m : ChannelManager V} (h : Exact m) {r : ChannelRef}
    (hr : r < m.objects.next) (now : ℕ) (s : SocketId) (t : ClientType) (key : Option String) :
    Exact (bindAndAdmit now m r s t key).2 := by
  unfold ChannelManager.bindAndAdmit
  dsimp only
  split
  · exact h
  cases key with
  | none => exact h.addParticipant hr now s t
  | some key =>
    cases (m.channel r).publicKey with
    | none =>
      exact (h.modifyChannel r (fun c => { c with publicKey := some key }) (fun _ => rfl)
        (fun _ => rfl) fun _ => rfl).addParticipant hr now s t
    | some bound =>
      dsimp only
      split
      · exact h
      · exact h.addParticipant hr now s t

/-- A join takes what it hands over off the books. -/
theorem Exact.joinChannel {m : ChannelManager V} (h : Exact m) {r : ChannelRef}
    (hr : r < m.objects.next) (isSocketActive : SocketId → Bool) (now : ℕ) (s : SocketId)
    (t : ClientType) (key : Option String) :
    Exact (joinChannel isSocketActive now m r s t key).2 := by
  unfold ChannelManager.joinChannel
  dsimp only
  split
  · exact h
  split
  · exact h
  split
  next e _ =>
    split
    · exact h
    · refine (h.dropStale r e).bindAndAdmit ?_ now s t key
      rw [(tables_eq_iff.1 (m.tables_dropStale r e)).2.2.2]
      exact hr
  next => exact h.bindAndAdmit hr now s t key

/-- What is held elsewhere does not count. -/
theorem bytes_eq_zero {p : Holding → Prop} [DecidablePred p] {held : Multiset Holding}
    (h : ∀ x ∈ held, ¬p x) : bytes p held = 0 := by
  rw [bytes, Multiset.filter_eq_nil.2 h]
  rfl

/-- No holding refers to an object before it is allocated. -/
theorem Exact.createChannel {m : ChannelManager V} (h : Exact m) (now : ℕ) (channelId : String)
    (creatorIp : Option String) : Exact (m.createChannel now channelId creatorIp) := by
  have hch : ∀ r, (m.createChannel now channelId creatorIp).channel r =
      if r = m.objects.next then .fresh now creatorIp else m.channel r :=
    fun r => m.objects.get_alloc (.fresh now creatorIp) r
  have hbuf : buffered (m.createChannel now channelId creatorIp) = buffered m := by
    refine buffered_of_created rfl (fun r hr => ?_) ?_
    · change ((m.createChannel now channelId creatorIp).channel r).messageBuffer = _
      rw [hch, if_neg hr]
      rfl
    · change ((m.createChannel now channelId creatorIp).channel m.objects.next).messageBuffer = _
      rw [hch, if_pos rfl]
      rfl
  have hzero : bytes (·.channel = m.objects.next) ((buffered m).map heldInBuffer) = 0 := by
    refine bytes_eq_zero fun x hx hr => ?_
    obtain ⟨⟨r, message⟩, hmem, rfl⟩ := Multiset.mem_map.1 hx
    exact (mem_buffered.1 hmem).1.ne hr
  have hzero' : bytes (·.channel = m.objects.next) ((reserved m).map heldInFlight) = 0 := by
    refine bytes_eq_zero fun x hx hr => ?_
    obtain ⟨d, hmem, rfl⟩ := Multiset.mem_map.1 hx
    exact (h.refs d hmem).ne hr
  refine h.of_le ?_ (fun e he => hbuf ▸ he) (Nat.le_succ _) fun s d hd => hd
  rw [hbuf]
  constructor
  · intro r
    rw [hch]
    split
    next hr => rw [hr, hzero]; rfl
    next => exact h.exact.buffered r
  · intro r
    rw [hch]
    split
    next hr => rw [hr]; exact hzero'.symm
    next => exact h.exact.inflight r
  · exact h.exact.totalBuffered
  · exact h.exact.totalInflight
  · exact h.exact.byIp
  · exact h.exact.unclamped

theorem Exact.join {m : ChannelManager V} (h : Exact m) (hm : MapSound m)
    (isSocketActive : SocketId → Bool) (now : ℕ) (channelId : String) (s : SocketId)
    (t : ClientType) (publicKey creatorIp : Option String) :
    Exact (join isSocketActive now m channelId s t publicKey creatorIp).2 := by
  unfold ChannelManager.join
  split
  · exact h
  split
  next r hget =>
    split
    · exact h
    · exact h.joinChannel (hm.lt_next channelId r hget) isSocketActive now s t _
  next =>
    split
    · exact h
    · exact (h.createChannel now channelId creatorIp).joinChannel (Nat.lt_succ_self _) _ now s t _

/-- Who leaves takes nothing along. -/
theorem Exact.leave {m : ChannelManager V} (h : Exact m) (now : ℕ) (s : SocketId)
    (channelId : String) : Exact (leave now m s channelId).2 := by
  unfold ChannelManager.leave
  split
  · exact h
  split
  · exact h
  · exact h.modifyChannel _ _ (fun _ => by rfl) (fun _ => by rfl) fun _ => by rfl

/-- An eviction takes a channel out of the map and leaves the books. -/
theorem ExactFor.evictTombstone {m : ChannelManager V}
    {held : Multiset (ChannelRef × BufferedMessage V)} (h : ExactFor m held) (channelId : String) :
    ExactFor (m.evictTombstone channelId) held := by
  unfold ChannelManager.evictTombstone
  split
  · split
    · exact h.congr rfl rfl rfl rfl rfl rfl
    · exact h
  · exact h

theorem ExactFor.evictTombstones {held : Multiset (ChannelRef × BufferedMessage V)}
    (l : List String) : ∀ {m : ChannelManager V}, ExactFor m held →
    ExactFor (m.evictTombstones l) held := by
  induction l with
  | nil => exact fun h => h.congr rfl rfl rfl rfl rfl rfl
  | cons oldest rest ih =>
    intro m h
    rw [ChannelManager.evictTombstones]
    split
    · exact ih (h.evictTombstone oldest)
    · exact h.congr rfl rfl rfl rfl rfl rfl

/-- A close releases its channel's buffer. -/
theorem ExactFor.close {m : ChannelManager V} {held : Multiset (ChannelRef × BufferedMessage V)}
    {r : ChannelRef} {channelId : String}
    (h : ExactFor m (tagged r (m.content r).messageBuffer + held))
    (hget : m.channels.get? channelId = some r) (hlive : (m.content r).terminated = false)
    (now : ℕ) : ExactFor (close now m channelId).2 held := by
  have hlive : (m.channel r).terminated = false := hlive
  rw [ChannelManager.close, hget]
  dsimp only
  rw [hlive]
  refine ExactFor.evictTombstones _ (ExactFor.modifyChannel ?_ r _ (fun _ => by rfl)
    fun _ => by rfl)
  set f : Channel V → Channel V := fun c =>
    { c with terminated := true, terminatedAt := now, lastActivity := now }
  have hsame : ((m.modifyChannel r f).channel r).messageBuffer = (m.content r).messageBuffer := by
    rw [channel_modifyChannel, if_pos rfl]
    rfl
  have h₁ := h.modifyChannel r f (fun _ => rfl) fun _ => rfl
  rw [← hsame] at h₁
  exact h₁.releaseAll

/-- A close takes the whole buffer off the books. -/
theorem Exact.close {m : ChannelManager V} (h : Exact m) (hm : MapSound m) (now : ℕ)
    (channelId : String) : Exact (close now m channelId).2 := by
  have hout := close_outcome now m channelId
  have hex : ∀ held r, ExactFor m (tagged r (m.content r).messageBuffer + held) →
      m.channels.get? channelId = some r → (m.content r).terminated = false →
      ExactFor (ChannelManager.close now m channelId).2 held :=
    fun _ _ h₁ h₂ h₃ => h₁.close h₂ h₃ now
  generalize ChannelManager.close now m channelId = out at hout hex ⊢
  obtain ⟨res, m'⟩ := out
  cases hout with
  | refused => exact h
  | closed r evicted hget hlive hcontent _ _ _ hnext hdd =>
    have hsum := buffered_of_filter (fun _ => true) (hm.lt_next channelId r hget) hnext
      fun r' => by
        rw [hcontent]
        split
        · simp [Content.closed]
        · rfl
    rw [List.filter_true] at hsum
    refine h.of_le (hex _ r (h.exact.of_eq hsum) hget hlive) (fun e he => ?_) hnext.ge
      fun s d hd => hdd ▸ hd
    rw [hsum]
    exact Multiset.mem_add.2 (.inr he)

/-- The eviction releases the oldest entry of a full buffer. -/
theorem Exact.evictOldest {m : ChannelManager V} (h : Exact m) {r : ChannelRef}
    (hr : r < m.objects.next) :
    Exact (m.evictOldest r (evictedEntry (m.content r).messageBuffer)) := by
  set oldest := evictedEntry (m.content r).messageBuffer with hold
  have hnext : (m.evictOldest r oldest).objects.next = m.objects.next :=
    (tables_eq_iff.1 (m.tables_evictOldest r oldest)).2.2.2
  have hsum := buffered_of_update (b := afterEviction (m.content r).messageBuffer) hr hnext
    fun r' => by
      rw [hold, content_evictOldest]
      split <;> rfl
  have hsplit : buffered m = tagged r oldest.toList + buffered (m.evictOldest r oldest) := by
    have hbuf : tagged r (m.content r).messageBuffer =
        tagged r oldest.toList + tagged r (afterEviction (m.content r).messageBuffer) := by
      rw [← tagged_append, hold, evictedEntry_append]
    rw [hbuf, ← add_assoc] at hsum
    rw [add_comm, add_right_cancel hsum]
  refine h.of_le ?_ (fun e he => ?_) hnext.ge fun s d hd => ?_
  · cases hcase : oldest with
    | none =>
      rw [hcase, Option.toList_none, tagged_nil, zero_add] at hsplit
      exact h.exact.of_eq hsplit
    | some o =>
      rw [hcase, Option.toList_some, tagged_cons, tagged_nil, Multiset.cons_add, zero_add] at hsplit
      refine ExactFor.releaseBufferedBytes (ExactFor.modifyChannel ?_ r _ (fun _ => by rfl)
        fun _ => by rfl)
      exact h.exact.of_eq hsplit
  · rw [hsplit]
    exact Multiset.mem_add.2 (.inr he)
  · rwa [directDeliveries_evictOldest] at hd

/-- A message more is buffered. -/
theorem buffered_pushBuffered {m : ChannelManager V} {r : ChannelRef} (hr : r < m.objects.next)
    (message : BufferedMessage V) :
    buffered (m.pushBuffered r message) = (r, message) ::ₘ buffered m := by
  have hcontent : ∀ r', ((m.pushBuffered r message).content r').messageBuffer = if r' = r then
      (m.content r).messageBuffer ++ [message] else (m.content r').messageBuffer := fun r' => by
    rw [content_pushBuffered]
    split <;> rfl
  have hsum := buffered_of_update hr (by rfl) hcontent
  rw [tagged_append, add_left_comm] at hsum
  have hsum := add_left_cancel (hsum.symm.trans (add_comm _ _))
  rw [← hsum, tagged_cons, tagged_nil, add_comm]
  rfl

/-- It is put on the books with its bytes. -/
theorem Exact.pushBuffered {m : ChannelManager V} (h : Exact m) {r : ChannelRef}
    (hr : r < m.objects.next) {message : BufferedMessage V} (hpos : 0 < message.sizeBytes) :
    Exact (m.pushBuffered r message) := by
  have hbuf := buffered_pushBuffered hr message
  constructor
  · rw [hbuf]
    refine ExactFor.retainBufferedBytes ?_ r hpos
    exact h.exact.modifyChannel r _ (fun _ => by rfl) fun _ => by rfl
  · intro e he
    rw [hbuf] at he
    rcases Multiset.mem_cons.1 he with rfl | he
    · exact hpos
    · exact h.positive e he
  · exact h.refs

/-- So is a reservation. -/
theorem Exact.reserveDirect {m : ChannelManager V} (h : Exact m) {s : SocketId}
    {res : DirectDeliveryReservation} (hfree : m.directDeliveries.get? s = none)
    (hpos : 0 < res.sizeBytes) (href : res.channel < m.objects.next) :
    Exact (m.reserveDirect s res) := by
  have hbuf : buffered (m.reserveDirect s res) = buffered m :=
    buffered_of_same rfl fun r => by rw [content_reserveDirect]
  constructor
  · rw [hbuf]
    exact h.exact.reserveDirect hfree hpos
  · rw [hbuf]
    exact h.positive
  · intro d hd
    rw [reserved_of_granted hfree (m.directDeliveries_reserveDirect s res)] at hd
    rcases Multiset.mem_cons.1 hd with rfl | hd
    · exact href
    · exact h.refs d hd

/-- A reservation that ends is taken off. -/
theorem Exact.releaseDirectDelivery {m : ChannelManager V} (h : Exact m) (s : SocketId) :
    Exact (m.releaseDirectDelivery s) := by
  have hnext := (tables_eq_iff.1 (m.tables_releaseDirectDelivery s)).2.2.2
  have hbuf : buffered (m.releaseDirectDelivery s) = buffered m :=
    buffered_of_same hnext fun r => by rw [content_releaseDirectDelivery]
  refine h.of_le ?_ (fun e he => hbuf ▸ he) hnext.ge fun s' d hd => ?_
  · rw [hbuf]
    exact h.exact.releaseDirectDelivery s
  · rw [directDeliveries_releaseDirectDelivery] at hd
    split at hd
    · cases hd
    · exact hd

theorem Exact.bufferMessage {m : ChannelManager V} (h : Exact m) {r : ChannelRef}
    (hr : r < m.objects.next) (cfg : Config) (now : ℕ) (sender : Participant) (s : SocketId)
    {data : RelayPayload V} (sourceIp : String) {sizeBytes : ℕ} (hpos : 0 < sizeBytes)
    (target : Option SocketId) :
    Exact (bufferMessage cfg now m r sender s data sourceIp sizeBytes target).2 := by
  unfold ChannelManager.bufferMessage
  dsimp only
  split
  · exact h
  · have h₁ : Exact (m.evictOldest r (evictedEntry (m.channel r).messageBuffer)) := h.evictOldest hr
    refine Exact.modifyChannel ?_ r _ (fun _ => by rfl) (fun _ => by rfl) fun _ => by rfl
    refine h₁.pushBuffered ?_ hpos
    rw [(tables_eq_iff.1 (m.tables_evictOldest r _)).2.2.2]
    exact hr

/-- Routing keeps the books exact. -/
theorem Exact.routeMessage [Unknown V] {m : ChannelManager V} (h : Exact m) (hm : MapSound m)
    (cfg : Config) (canSocketReceive : SocketId → Bool) (now bufferedAt : ℕ) (channelId : String)
    (s : SocketId) (data : RelayPayload V) (sourceIp : String) :
    Exact (routeMessage cfg canSocketReceive now bufferedAt m channelId s data sourceIp).2 := by
  unfold ChannelManager.routeMessage
  split
  · exact h
  next r hget =>
  have hr := hm.lt_next channelId r hget
  split
  · exact h
  split
  · exact h
  split
  · exact h
  dsimp only
  have h₁ : Exact (m.modifyChannel r fun c => { c with lastActivity := now }) :=
    h.modifyChannel r _ (fun _ => by rfl) (fun _ => by rfl) fun _ => by rfl
  split
  · exact h₁
  split
  · exact h₁
  next size hsize =>
  have hpos := RelayPayload.getSerializedSize_pos hsize
  unfold deliverMessage
  split
  · exact h₁.bufferMessage hr cfg bufferedAt _ s sourceIp hpos none
  next target _ =>
  split
  next hok =>
    simp only [admitsDirect, Bool.and_eq_true, Bool.not_eq_true', JsMap.has_eq] at hok
    refine Exact.modifyChannel ?_ r _ (fun _ => by rfl) (fun _ => by rfl) fun _ => by rfl
    exact h₁.reserveDirect (by simpa using hok.2.1.1.1) hpos hr
  next => exact h₁.bufferMessage hr cfg bufferedAt _ s sourceIp hpos _

/-- Promotion moves a message from a buffer to a reservation. -/
theorem Exact.advanceDirectDelivery {m : ChannelManager V} (h : Exact m) (s : SocketId) :
    Exact (m.advanceDirectDelivery s).2 := by
  unfold ChannelManager.advanceDirectDelivery
  split
  · exact h
  next res hres =>
  have href := h.refs res (mem_reserved.2 ⟨s, hres⟩)
  have h₁ := h.releaseDirectDelivery s
  have hfree : (m.releaseDirectDelivery s).directDeliveries.get? s = none := by
    rw [directDeliveries_releaseDirectDelivery, if_pos rfl]
  have hr : res.channel < (m.releaseDirectDelivery s).objects.next := by
    rw [(tables_eq_iff.1 (m.tables_releaseDirectDelivery s)).2.2.2]
    exact href
  dsimp only
  generalize m.releaseDirectDelivery s = m₁ at h₁ hfree hr ⊢
  split
  · exact h₁
  next p _ =>
  split
  · exact h₁
  split
  · exact h₁
  next next hnext =>
  set f : Channel V → Channel V := fun c => { c with
    messageBuffer := c.messageBuffer.eraseP fun message =>
      decide (message.targetClientType = p.clientType) }
  set m₂ := (m₁.modifyChannel res.channel f).releaseBufferedBytes res.channel next
  have hcontent : ∀ r', (m₂.content r').messageBuffer = if r' = res.channel then
      ((m₁.content res.channel).promoted p.clientType).messageBuffer
        else (m₁.content r').messageBuffer := fun r' => by
    rw [content_releaseBufferedBytes, content_modifyChannel _ _ _
      (·.promoted p.clientType) fun _ => rfl]
    split <;> rfl
  have hsum := buffered_of_update hr (by rfl) hcontent
  have hsplit : buffered m₁ = (res.channel, next) ::ₘ buffered m₂ := by
    have hperm : tagged res.channel (m₁.content res.channel).messageBuffer = _ :=
      tagged_perm (perm_cons_eraseP hnext)
    rw [hperm, tagged_cons, Multiset.add_cons, ← Multiset.cons_add] at hsum
    exact (add_right_cancel hsum).symm
  have hmem : (res.channel, next) ∈ buffered m₁ := by
    rw [hsplit]
    exact Multiset.mem_cons_self _ _
  have h₂ : Exact m₂ := by
    refine h₁.of_le ?_ (fun e he => ?_) le_rfl fun s' d hd => hd
    · refine ExactFor.releaseBufferedBytes (ExactFor.modifyChannel ?_ res.channel f (fun _ => rfl)
        fun _ => rfl)
      exact h₁.exact.of_eq hsplit
    · rw [hsplit]
      exact Multiset.mem_cons_of_mem he
  exact h₂.reserveDirect hfree (h₁.positive _ hmem) hr

/-- Expired messages are taken off. -/
theorem Exact.cleanupChannel {m : ChannelManager V} (h : Exact m) {r : ChannelRef}
    (hr : r < m.objects.next) (now : ℕ) (channelId : String) :
    Exact (cleanupChannel now m channelId r) := by
  obtain ⟨hc, -, -, hnext, hdd⟩ := cleanupChannel_spec now m channelId r
  have hsum := buffered_of_filter (fun message => !isFresh now message) hr hnext fun r' => by
    rw [hc]
    split <;> simp [Content.swept]
  refine h.of_le ?_ (fun e he => ?_) hnext.ge fun s d hd => hdd ▸ hd
  · have h₁ : ExactFor ((m.releaseAll r ((m.channel r).messageBuffer.filter fun message =>
        !decide (now - message.timestamp < bufferTtlMs))).modifyChannel r fun c =>
        { c with messageBuffer := c.messageBuffer.filter fun message =>
            decide (now - message.timestamp < bufferTtlMs) })
        (buffered (ChannelManager.cleanupChannel now m channelId r)) := by
      refine ExactFor.modifyChannel ?_ r _ (fun _ => by rfl) fun _ => by rfl
      exact (h.exact.of_eq hsum).releaseAll
    generalize buffered (ChannelManager.cleanupChannel now m channelId r) = held at h₁ ⊢
    unfold ChannelManager.cleanupChannel
    dsimp only
    split
    · split
      · exact h₁.congr rfl rfl rfl rfl rfl rfl
      · exact h₁
    · split
      · exact h₁.congr rfl rfl rfl rfl rfl rfl
      · exact h₁
  · rw [hsum]
    exact Multiset.mem_add.2 (.inr he)

/-- A cleanup keeps the books exact. -/
theorem Exact.cleanup {m : ChannelManager V} (h : Exact m) (hm : MapSound m) (now : ℕ) :
    Exact (cleanup now m) := by
  have hfold : ∀ (l : List (String × ChannelRef)) (m : ChannelManager V), Exact m →
      (∀ e ∈ l, e.2 < m.objects.next) →
      Exact (l.foldl (fun m e => m.cleanupChannel now e.1 e.2) m) := by
    intro l
    induction l with
    | nil => exact fun m h _ => h
    | cons e l ih =>
      intro m h hlt
      refine ih _ (h.cleanupChannel (hlt e List.mem_cons_self) now e.1) fun e' he' => ?_
      rw [(cleanupChannel_spec now m e.1 e.2).2.2.2.1]
      exact hlt e' (List.mem_cons_of_mem _ he')
  have h₁ := hfold m.channels.entries m h fun e he =>
    hm.lt_next e.1 e.2 (JsMap.mem_entries.1 he)
  exact ⟨h₁.exact.congr rfl rfl rfl rfl rfl rfl, h₁.positive, h₁.refs⟩

variable [Unknown V]

/-- Every call keeps the counters exact. -/
theorem exact_step (cfg : Config) {m : ChannelManager V} (c : Call V) (hm : MapSound m)
    (h : Exact m) : Exact (c.step cfg m) := by
  obtain ⟨now, op⟩ := c
  cases op with
  | join active channelId s t publicKey ip => exact h.join hm active now channelId s t publicKey ip
  | leave s channelId => exact h.leave now s channelId
  | close channelId => exact h.close hm now channelId
  | routeMessage canReceive channelId s data ip bufferedAt =>
    exact h.routeMessage hm cfg canReceive now bufferedAt channelId s data ip
  | releaseDirectDelivery s => exact h.releaseDirectDelivery s
  | advanceDirectDelivery s => exact h.advanceDirectDelivery s
  | cleanup => exact h.cleanup hm now

omit [Unknown V] in
/-- The books of a new manager are empty. -/
theorem exact_new (cap : Option ℕ) : Exact (new cap : ChannelManager V) := by
  refine ⟨?_, fun e he => ?_, fun d hd => ?_⟩
  · rw [buffered_new]
    refine ⟨fun r => ?_, fun r => ?_, ?_, ?_, fun ip => ?_, rfl⟩
    · exact (bytes_zero _).symm
    · exact (bytes_zero _).symm
    · exact (bytes_zero _).symm
    · exact (bytes_zero _).symm
    · rw [holdings, Multiset.map_zero, zero_add, reserved_new, Multiset.map_zero, bytes_zero]
      rfl
  · rw [buffered_new] at he
    exact absurd he (Multiset.notMem_zero e)
  · rw [reserved_new] at hd
    exact absurd hd (Multiset.notMem_zero d)

/-- The counters are exact after every run, whatever the clock reads. -/
theorem exact_after (cfg : Config) (cap : Option ℕ) (calls : List (Call V)) :
    Exact (after cfg cap calls) := by
  induction calls using List.reverseRecOn with
  | nil => exact exact_new cap
  | append_singleton calls c ih =>
    rw [after_snoc]
    exact exact_step cfg c (mapSound_after cfg cap calls) ih

end ChannelManager

end QrlBackend
