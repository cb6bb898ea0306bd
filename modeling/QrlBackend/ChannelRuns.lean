import QrlBackend.RoutingEffects
import QrlBackend.Runs

/-!
# Runs of the channel manager

A run is a list of calls. Each call carries the clock readings it makes and, where the
operation asks a callback, the callback's answers, so nothing is assumed of either.
Every prefix of a run is a run, so a property of the last call of every run is a
property of every call.
-/

set_option autoImplicit false

namespace QrlBackend

variable {V : Type}

/-- An operation of the channel manager. -/
inductive Op (V : Type) where
  | join (isSocketActive : SocketId → Bool) (channelId : String) (socketId : SocketId)
      (clientType : ClientType) (publicKeyBase64 creatorIp : Option String)
  | leave (socketId : SocketId) (channelId : String)
  | close (channelId : String)
  | routeMessage (canSocketReceive : SocketId → Bool) (channelId : String)
      (senderSocketId : SocketId) (data : RelayPayload V) (sourceIp : String) (bufferedAt : ℕ)
  | releaseDirectDelivery (socketId : SocketId)
  | advanceDirectDelivery (socketId : SocketId)
  | cleanup

/-- An operation at a clock reading. -/
structure Call (V : Type) where
  now : ℕ
  op : Op V

/-- What an operation returns. -/
inductive Outcome (V : Type) where
  | joined (result : JoinResult V)
  | left (participant : Option Participant)
  | closed (confirmed : Bool)
  | routed (result : RouteResult)
  | advanced (payload : Option (RelayPayload V))
  | nothing

namespace Call

variable [Unknown V]

/-- Perform a call. -/
def perform (cfg : Config) (m : ChannelManager V) (c : Call V) : Outcome V × ChannelManager V :=
  match c.op with
  | .join isSocketActive channelId s t publicKey creatorIp =>
    let (result, m) := m.join isSocketActive c.now channelId s t publicKey creatorIp
    (.joined result, m)
  | .leave s channelId =>
    let (participant, m) := m.leave c.now s channelId
    (.left participant, m)
  | .close channelId =>
    let (confirmed, m) := m.close c.now channelId
    (.closed confirmed, m)
  | .routeMessage canSocketReceive channelId s data sourceIp bufferedAt =>
    let (result, m) :=
      m.routeMessage cfg canSocketReceive c.now bufferedAt channelId s data sourceIp
    (.routed result, m)
  | .releaseDirectDelivery s => (.nothing, m.releaseDirectDelivery s)
  | .advanceDirectDelivery s =>
    let (payload, m) := m.advanceDirectDelivery s
    (.advanced payload, m)
  | .cleanup => (.nothing, m.cleanup c.now)

/-- The state after a call. -/
def step (cfg : Config) (m : ChannelManager V) (c : Call V) : ChannelManager V :=
  (c.perform cfg m).2

/-- What a call returns. -/
def outcome (cfg : Config) (m : ChannelManager V) (c : Call V) : Outcome V :=
  (c.perform cfg m).1

end Call

namespace ChannelManager

/-- The state after the calls of a run. -/
def after [Unknown V] (cfg : Config) (cap : Option ℕ) (calls : List (Call V)) : ChannelManager V :=
  Runs.run (Call.step cfg) (new cap) calls

@[simp] theorem after_nil [Unknown V] (cfg : Config) (cap : Option ℕ) :
    after cfg cap ([] : List (Call V)) = new cap :=
  rfl

@[simp] theorem after_snoc [Unknown V] (cfg : Config) (cap : Option ℕ) (calls : List (Call V))
    (c : Call V) : after cfg cap (calls ++ [c]) = c.step cfg (after cfg cap calls) :=
  Runs.run_snoc _ _ _

end ChannelManager

/-- The last clock reading of a call. -/
def Call.done (c : Call V) : ℕ :=
  match c.op with
  | .routeMessage _ _ _ _ _ bufferedAt => bufferedAt
  | _ => c.now

/-- The clock readings of a run never go back. -/
def ClockMonotone (calls : List (Call V)) : Prop :=
  calls.Pairwise (fun c c' => c.done ≤ c'.now) ∧ ∀ c ∈ calls, c.now ≤ c.done

instance (calls : List (Call V)) : Decidable (ClockMonotone calls) :=
  inferInstanceAs (Decidable (_ ∧ _))

/-- The last clock reading of a run. -/
def lastReading (calls : List (Call V)) : ℕ := (calls.getLast?.map Call.done).getD 0

theorem clockMonotone_snoc {calls : List (Call V)} {c : Call V} :
    ClockMonotone (calls ++ [c]) ↔
      ClockMonotone calls ∧ (∀ c' ∈ calls, c'.done ≤ c.now) ∧ c.now ≤ c.done := by
  simp only [ClockMonotone, List.pairwise_append, List.forall_mem_append, List.forall_mem_singleton,
    List.pairwise_singleton, true_and]
  exact ⟨fun ⟨⟨h₁, h₂⟩, h₃, h₄⟩ => ⟨⟨h₁, h₃⟩, h₂, h₄⟩, fun ⟨⟨h₁, h₃⟩, h₂, h₄⟩ => ⟨⟨h₁, h₂⟩, h₃, h₄⟩⟩

/-- The clock has not gone back since the last call. -/
theorem ClockMonotone.lastReading_le {calls : List (Call V)} {c : Call V}
    (h : ClockMonotone (calls ++ [c])) : lastReading calls ≤ c.now := by
  unfold lastReading
  cases hlast : calls.getLast? with
  | none => simp
  | some c' => exact (clockMonotone_snoc.1 h).2.1 c' (List.mem_of_getLast? hlast)

theorem ClockMonotone.le_done {calls : List (Call V)} {c : Call V}
    (h : ClockMonotone (calls ++ [c])) : c.now ≤ c.done :=
  (clockMonotone_snoc.1 h).2.2

@[simp] theorem lastReading_snoc (calls : List (Call V)) (c : Call V) :
    lastReading (calls ++ [c]) = c.done := by
  simp [lastReading]

/-! ## What one call can do to one channel -/

/-- What a call can make of a channel. -/
inductive ChannelEffect [Unknown V] (call : Call V) (c : Content V) : Content V → Prop
  | same : ChannelEffect call c c
  | dropped (s : SocketId) : ChannelEffect call c (c.without s)
  | left (s : SocketId) (channelId : String) (hop : call.op = .leave s channelId) :
      ChannelEffect call c { c.without s with lastActivity := call.now }
  | joined (isSocketActive : SocketId → Bool) (channelId : String) (s : SocketId) (t : ClientType)
      (publicKey creatorIp key : Option String)
      (hop : call.op = .join isSocketActive channelId s t publicKey creatorIp)
      (hkey : ChannelManager.canonicalPublicKey t publicKey = .ok key)
      (hlive : c.terminated = false)
      (hbound : t = .dapp → ∀ bound, c.publicKey = some bound → key = some bound)
      (hrole : ∀ p, c.participants.get? s = some p → p.clientType = t) :
      ChannelEffect call c
        (c.joined call.now s t key (ChannelManager.sameRoleSocket c.participants s t))
  | closed (channelId : String) (hop : call.op = .close channelId) (hlive : c.terminated = false) :
      ChannelEffect call c (c.closed call.now)
  | touched (hlive : c.terminated = false) :
      ChannelEffect call c { c with lastActivity := call.now }
  | noted (s : SocketId) (seq : Option ℤ) (hlive : c.terminated = false) :
      ChannelEffect call c (c.noted call.now s seq)
  | buffered (s : SocketId) (message : BufferedMessage V) (hlive : c.terminated = false)
      (htarget : message.targetClientType = message.data.clientType.other)
      (htime : message.timestamp = call.done)
      (hsize : message.data.getSerializedSize = some message.sizeBytes) :
      ChannelEffect call c
        { c.noted call.now s message.data.seq with
          messageBuffer := afterEviction c.messageBuffer ++ [message] }
  | promoted (s : SocketId) (t : ClientType) (hop : call.op = .advanceDirectDelivery s) :
      ChannelEffect call c (c.promoted t)
  | swept (hop : call.op = .cleanup) : ChannelEffect call c (c.swept call.now)

namespace ChannelManager

variable [Unknown V]

/-- The two ways a cell of the heap moves : by an effect on the object in it, or because
a join allocates it. -/
inductive CellEffect (call : Call V) (m m' : ChannelManager V) (r : ChannelRef) : Prop
  | moved (h : ChannelEffect call (m.content r) (m'.content r))
  | created (creatorIp : Option String) (hr : r = m.objects.next)
      (h : ChannelEffect call (.fresh call.now creatorIp) (m'.content r))

/-- A cell that changes at one reference only. -/
theorem CellEffect.of_ite {call : Call V} {m m' : ChannelManager V} {r₀ : ChannelRef}
    {c : Content V}
    (h : ∀ r, m'.content r = if r = r₀ then c else m.content r)
    (heff : ChannelEffect call (m.content r₀) c) (r : ChannelRef) : CellEffect call m m' r := by
  refine .moved ?_
  rw [h]
  split
  next hr => exact hr ▸ heff
  next => exact .same

/-- A channel object that stays as it is. -/
theorem CellEffect.of_same {call : Call V} {m m' : ChannelManager V}
    (h : ∀ r, m'.content r = m.content r) (r : ChannelRef) : CellEffect call m m' r := by
  refine .moved ?_
  rw [h]
  exact .same

/-- Every call moves every cell by one of the effects. -/
theorem step_cell (cfg : Config) (m : ChannelManager V) (c : Call V) (r : ChannelRef) :
    CellEffect c m (c.step cfg m) r := by
  obtain ⟨now, op⟩ := c
  unfold Call.step Call.perform
  cases op with
  | join isSocketActive channelId s t publicKey creatorIp =>
    have h := join_outcome isSocketActive now m channelId s t publicKey creatorIp
    dsimp only
    generalize join isSocketActive now m channelId s t publicKey creatorIp = out at h ⊢
    obtain ⟨res, m'⟩ := out
    cases h with
    | refused => exact .of_same (fun _ => rfl) r
    | refusedAfterStale _ r₀ e hget hlive hstale hinactive =>
      exact .of_ite (m.content_dropStale r₀ e) (.dropped e) r
    | tombstone => exact .of_same (fun _ => rfl) r
    | admitted r₀ c key stale hslot hkey hlive hbound hrole hstale _ hcontent =>
      subst hstale
      cases hslot with
      | existing hget =>
        exact .of_ite hcontent (.joined _ _ s t _ _ key rfl hkey hlive hbound hrole) r
      | created hget =>
        by_cases hr : r = m.objects.next
        · refine .created creatorIp hr ?_
          rw [hcontent, if_pos hr]
          exact .joined _ _ s t _ _ key rfl hkey hlive hbound hrole
        · refine .moved ?_
          rw [hcontent, if_neg hr]
          exact .same
  | leave s channelId =>
    have h := leave_outcome now m s channelId
    dsimp only
    generalize leave now m s channelId = out at h ⊢
    obtain ⟨res, m'⟩ := out
    cases h with
    | absent => exact .of_same (fun _ => rfl) r
    | left r₀ p hget hp hcontent => exact .of_ite hcontent (.left s _ rfl) r
  | close channelId =>
    have h := close_outcome now m channelId
    dsimp only
    generalize close now m channelId = out at h ⊢
    obtain ⟨res, m'⟩ := out
    cases h with
    | refused => exact .of_same (fun _ => rfl) r
    | closed r₀ evicted hget hlive hcontent => exact .of_ite hcontent (.closed _ rfl hlive) r
  | routeMessage canSocketReceive channelId s data sourceIp bufferedAt =>
    have h := routeMessage_outcome cfg canSocketReceive now bufferedAt m channelId s data sourceIp
    dsimp only
    generalize routeMessage cfg canSocketReceive now bufferedAt m channelId s data sourceIp = out
      at h ⊢
    obtain ⟨res, m'⟩ := out
    cases h with
    | refused => exact .of_same (fun _ => rfl) r
    | refusedLate _ _ r₀ hget hlive _ _ hcontent => exact .of_ite hcontent (.touched hlive) r
    | direct r₀ sender target size hget hlive _ _ _ _ _ _ _ _ hcontent =>
      exact .of_ite hcontent (.noted s data.seq hlive) r
    | buffered r₀ sender size hget hlive hsender htype _ hsize _ hcontent =>
      refine .of_ite hcontent (.buffered s
        ⟨data, sender.clientType.other, bufferedAt, size, sourceIp⟩ hlive ?_ rfl hsize) r
      rw [htype]
  | releaseDirectDelivery s => exact .of_same (m.content_releaseDirectDelivery s) r
  | advanceDirectDelivery s =>
    have h := advance_outcome m s
    dsimp only
    generalize advanceDirectDelivery m s = out at h ⊢
    obtain ⟨res, m'⟩ := out
    cases h with
    | idle => exact .of_same (fun _ => rfl) r
    | released _ _ _ hcontent => exact .of_same hcontent r
    | promoted reservation p next _ _ _ _ hcontent => exact .of_ite hcontent (.promoted s _ rfl) r
  | cleanup =>
    refine .moved ?_
    dsimp only
    rw [(cleanup_spec now m).1]
    split
    · exact .swept rfl
    · exact .same

/-- What every effect keeps, and every new channel has, every channel of every run has. -/
theorem channel_invariant {I : Content V → Prop}
    (hfresh : ∀ now creatorIp, I (.fresh now creatorIp))
    (hstep : ∀ call c c', I c → ChannelEffect call c c' → I c') (cfg : Config) (cap : Option ℕ)
    (calls : List (Call V)) (r : ChannelRef) : I ((after cfg cap calls).content r) := by
  induction calls using List.reverseRecOn generalizing r with
  | nil => exact hfresh 0 none
  | append_singleton calls c ih =>
    rw [after_snoc]
    cases step_cell cfg (after cfg cap calls) c r with
    | moved h => exact hstep _ _ _ (ih r) h
    | created creatorIp _ h => exact hstep _ _ _ (hfresh _ _) h

/-! ## What one call can do to the map -/

/-- What a call at a clock reading can make of an id's entry : nothing, a new object where
there was none, or no entry for a tombstone or an empty channel past its TTL. -/
inductive EntryEffect {V : Type} (now : ℕ) (m m' : ChannelManager V) (id : String) : Prop
  | kept (h : m'.channels.get? id = m.channels.get? id)
      (hnext : m.objects.next ≤ m'.objects.next)
  | created (hnone : m.channels.get? id = none)
      (h : m'.channels.get? id = some m.objects.next)
      (hnext : m'.objects.next = m.objects.next + 1)
      (hrest : ∀ id', id' ≠ id → m'.channels.get? id' = m.channels.get? id')
  | removed (r : ChannelRef) (hget : m.channels.get? id = some r)
      (h : m'.channels.get? id = none) (hnext : m'.objects.next = m.objects.next)
      (hwhy : (m'.content r).terminated = true ∨
        ((m.content r).participants.size = 0 ∧ channelTtlMs < now - (m.content r).lastActivity ∧
          m'.content r = (m.content r).swept now))

/-- What a call can make of the whole map. -/
inductive MapEffect {V : Type} (now : ℕ) (m m' : ChannelManager V) : Prop
  | same (hch : m'.channels = m.channels) (hnext : m'.objects.next = m.objects.next)
  | created (channelId : String) (hnone : m.channels.get? channelId = none)
      (hch : m'.channels = m.channels.set channelId m.objects.next)
      (hnext : m'.objects.next = m.objects.next + 1)
  | shrunk (hnext : m'.objects.next = m.objects.next)
      (hentry : ∀ id, EntryEffect now m m' id)
      (hnone : ∀ id, m.channels.get? id = none → m'.channels.get? id = none)

omit [Unknown V] in
/-- Where the tables stay, so does every entry. -/
theorem MapEffect.of_tables {now : ℕ} {m m' : ChannelManager V} (h : m'.tables = m.tables) :
    MapEffect now m m' := by
  obtain ⟨hch, -, -, hnext⟩ := tables_eq_iff.1 h
  exact .same hch hnext

/-- Every call moves the map by one of the effects. -/
theorem step_map (cfg : Config) (m : ChannelManager V) (c : Call V) :
    MapEffect c.now m (c.step cfg m) := by
  obtain ⟨now, op⟩ := c
  unfold Call.step Call.perform
  cases op with
  | join isSocketActive channelId s t publicKey creatorIp =>
    have h := join_outcome isSocketActive now m channelId s t publicKey creatorIp
    dsimp only
    generalize join isSocketActive now m channelId s t publicKey creatorIp = out at h ⊢
    obtain ⟨res, m'⟩ := out
    cases h with
    | refused => exact .of_tables rfl
    | refusedAfterStale _ r e => exact .of_tables (m.tables_dropStale r e)
    | tombstone => exact .of_tables rfl
    | admitted r c key stale hslot =>
      cases hslot with
      | existing _ hget hch hnext => exact .same hch hnext
      | created hget hch hnext => exact .created channelId hget hch hnext
  | leave s channelId =>
    have h := leave_outcome now m s channelId
    dsimp only
    generalize leave now m s channelId = out at h ⊢
    obtain ⟨res, m'⟩ := out
    cases h with
    | absent => exact .of_tables rfl
    | left _ _ _ _ _ htables => exact .of_tables htables
  | close channelId =>
    have h := close_outcome now m channelId
    dsimp only
    generalize close now m channelId = out at h ⊢
    obtain ⟨res, m'⟩ := out
    cases h with
    | refused => exact .of_tables rfl
    | closed r₀ evicted _ _ _ _ hgone hkept hnext =>
      refine .shrunk hnext (fun id => ?_) fun id hnone => ?_
      · by_cases hev : ∃ r, m.channels.get? id = some r ∧ (m'.content r).terminated = true ∧
            id ∈ evicted
        · obtain ⟨r, hr, hterm, hmem⟩ := hev
          exact .removed r hr (hgone id r hr hterm hmem) hnext (.inl hterm)
        · exact .kept (hkept id fun r hr hterm hmem => hev ⟨r, hr, hterm, hmem⟩) hnext.ge
      · exact (hkept id fun r hr => by rw [hnone] at hr; cases hr).trans hnone
  | routeMessage canSocketReceive channelId s data sourceIp bufferedAt =>
    have h := routeMessage_outcome cfg canSocketReceive now bufferedAt m channelId s data sourceIp
    dsimp only
    generalize routeMessage cfg canSocketReceive now bufferedAt m channelId s data sourceIp = out
      at h ⊢
    obtain ⟨res, m'⟩ := out
    cases h with
    | refused => exact .of_tables rfl
    | refusedLate _ _ _ _ _ _ _ _ htables => exact .of_tables htables
    | direct _ _ _ _ _ _ _ _ _ _ _ _ _ _ _ htables => exact .of_tables htables
    | buffered _ _ _ _ _ _ _ _ _ _ _ htables => exact .of_tables htables
  | releaseDirectDelivery s => exact .of_tables (m.tables_releaseDirectDelivery s)
  | advanceDirectDelivery s =>
    have h := advance_outcome m s
    dsimp only
    generalize advanceDirectDelivery m s = out at h ⊢
    obtain ⟨res, m'⟩ := out
    cases h with
    | idle => exact .of_tables rfl
    | released _ _ _ _ htables => exact .of_tables htables
    | promoted _ _ _ _ _ _ _ _ htables => exact .of_tables htables
  | cleanup =>
    obtain ⟨hc, hch, -, hnext, -⟩ := cleanup_spec now m
    refine .shrunk hnext (fun id => ?_) fun id hnone => ?_
    · dsimp only
      cases hget : m.channels.get? id with
      | none =>
        refine .kept ?_ hnext.ge
        rw [hch, hget, Option.filter_none]
      | some r =>
        have hswept : (cleanup now m).content r = (m.content r).swept now := by
          rw [hc, if_pos (JsMap.mem_values.2 ⟨id, hget⟩)]
        by_cases hx : (m.content r).expired now
        · have hgone : (cleanup now m).channels.get? id = none := by
            rw [hch, hget]
            simp [Option.filter, hx]
          refine .removed r hget hgone hnext ?_
          unfold Content.expired at hx
          split at hx
          next hterm =>
            left
            rw [hswept]
            exact hterm
          next =>
            right
            simp only [Bool.and_eq_true, decide_eq_true_eq] at hx
            exact ⟨hx.1, hx.2, hswept⟩
        · refine .kept ?_ hnext.ge
          rw [hch, hget]
          simp [Option.filter, hx]
    · rw [show (cleanup now m).channels.get? id = _ from hch id, hnone, Option.filter_none]

/-- Every call moves every entry by one of the effects. -/
theorem step_entry (cfg : Config) (m : ChannelManager V) (c : Call V) (id : String) :
    EntryEffect c.now m (c.step cfg m) id := by
  cases step_map cfg m c with
  | same hch hnext => exact .kept (by rw [hch]) hnext.ge
  | created channelId hnone hch hnext =>
    by_cases hid : id = channelId
    · subst hid
      refine .created hnone (by rw [hch, JsMap.get?_set_self]) hnext fun id' hid' => ?_
      rw [hch]
      exact m.channels.get?_set_of_ne _ hid'
    · refine .kept ?_ (by omega)
      rw [hch]
      exact m.channels.get?_set_of_ne _ hid
  | shrunk _ hentry => exact hentry id

omit [Unknown V] in
theorem EntryEffect.next_le {now : ℕ} {m m' : ChannelManager V} {id : String}
    (h : EntryEffect now m m' id) : m.objects.next ≤ m'.objects.next := by
  cases h with
  | kept _ h => exact h
  | created _ _ h => omega
  | removed _ _ _ h => exact h.ge

/-- The refs in the map are refs of objects, and no two ids share an object. -/
structure MapSound (m : ChannelManager V) : Prop where
  lt_next : ∀ id r, m.channels.get? id = some r → r < m.objects.next
  injective : ∀ id id' r, m.channels.get? id = some r → m.channels.get? id' = some r → id = id'

omit [Unknown V] in
theorem mapSound_new (cap : Option ℕ) : MapSound (new cap : ChannelManager V) where
  lt_next id r h := by simp [new] at h
  injective id id' r h := by simp [new] at h

/-- Every call keeps the map sound. -/
theorem mapSound_step (cfg : Config) {m : ChannelManager V} (c : Call V) (hm : MapSound m) :
    MapSound (c.step cfg m) := by
  have hold : ∀ id r, (c.step cfg m).channels.get? id = some r →
      m.channels.get? id = some r ∨ m.channels.get? id = none ∧ r = m.objects.next ∧
        (c.step cfg m).objects.next = m.objects.next + 1 ∧
        ∀ id', id' ≠ id → (c.step cfg m).channels.get? id' = m.channels.get? id' := by
    intro id r hr
    cases step_entry cfg m c id with
    | kept h => exact .inl (h ▸ hr)
    | created hnone h hnext hrest =>
      rw [h, Option.some.injEq] at hr
      exact .inr ⟨hnone, hr.symm, hnext, hrest⟩
    | removed r' hget h =>
      rw [h] at hr
      cases hr
  constructor
  · intro id r hr
    rcases hold id r hr with h | ⟨-, rfl, hnext, -⟩
    · exact (hm.lt_next id r h).trans_le (step_entry cfg m c id).next_le
    · exact hnext ▸ Nat.lt_succ_self _
  · intro id id' r hr hr'
    rcases hold id r hr with h | ⟨-, rfl, -, hrest⟩
    · rcases hold id' r hr' with h' | ⟨-, rfl, -, -⟩
      · exact hm.injective id id' r h h'
      · exact absurd (hm.lt_next id _ h) (lt_irrefl _)
    · by_contra hne
      rw [hrest id' (Ne.symm hne)] at hr'
      exact absurd (hm.lt_next id' _ hr') (lt_irrefl _)

/-- In every run the entries of the map are different channel objects. -/
theorem mapSound_after (cfg : Config) (cap : Option ℕ) (calls : List (Call V)) :
    MapSound (after cfg cap calls) :=
  Runs.run_invariant (fun _ c h => mapSound_step cfg c h) calls (mapSound_new cap)

end ChannelManager

end QrlBackend
