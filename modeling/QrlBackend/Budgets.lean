import QrlBackend.Flow
import QrlBackend.Ledger

/-!
# The budgets

What is retained never exceeds a budget (`budgets_respected`), whatever the sizes and
sources of the messages. Only `routeMessage` adds to it, and its two paths check the
budgets in different forms : a direct delivery against the counters, a buffered message
against the counters after the eviction it may cause. Since the counters are exact, both
forms bound the holdings afterwards (`WithinBudgets.direct`, `WithinBudgets.pushed`).
Promotion moves a holding from a buffer to a reservation and changes no sum, and every
other call only takes holdings away.
-/

set_option autoImplicit false

namespace QrlBackend

variable {V : Type}

open ChannelManager

theorem length_afterEviction_lt {messages : List (BufferedMessage V)}
    (h : messages.length ≤ maxBufferedMessages) :
    (afterEviction messages).length < maxBufferedMessages := by
  have hpos : 0 < maxBufferedMessages := by decide
  unfold afterEviction
  split
  · rw [List.length_tail]
    omega
  · omega

/-- Every effect keeps a buffer at the message cap. -/
theorem ChannelEffect.length_le [Unknown V] {call : Call V} {c c' : Content V}
    (heff : ChannelEffect call c c') (h : c.messageBuffer.length ≤ maxBufferedMessages) :
    c'.messageBuffer.length ≤ maxBufferedMessages := by
  cases heff with
  | same | dropped | left | touched | noted => exact h
  | closed => exact Nat.zero_le _
  | joined _ _ s t =>
    refine le_trans ?_ h
    unfold Content.joined
    cases sameRoleSocket c.participants s t <;> exact List.length_filter_le _ _
  | buffered =>
    have := length_afterEviction_lt h
    simp only [List.length_append, List.length_singleton]
    omega
  | promoted => exact (List.eraseP_sublist.length_le).trans h
  | swept => exact (List.length_filter_le _ _).trans h

namespace ChannelManager

/-- Everything the manager retains. -/
def retained (m : ChannelManager V) : Multiset Holding := m.holdings (buffered m)

/-- What is retained is within every budget. -/
structure WithinBudgets (cfg : Config) (m : ChannelManager V) : Prop where
  channel : ∀ r, bytes (·.channel = r) m.retained ≤ cfg.relayMaxBufferedBytesPerChannel
  ip : ∀ ip, bytes (·.sourceIp = ip) m.retained ≤ cfg.relayMaxBufferedBytesPerIp
  total : bytes (fun _ => True) m.retained ≤ cfg.relayMaxBufferedBytesGlobal

/-- Retaining less stays within. -/
theorem WithinBudgets.of_le {cfg : Config} {m m' : ChannelManager V} (h : WithinBudgets cfg m)
    (hle : m'.retained ≤ m.retained) : WithinBudgets cfg m' where
  channel r := (bytes_le_of_le _ hle).trans (h.channel r)
  ip ip := (bytes_le_of_le _ hle).trans (h.ip ip)
  total := (bytes_le_of_le _ hle).trans h.total

theorem retained_le {m m' : ChannelManager V} (hbuf : buffered m' ≤ buffered m)
    (hres : reserved m' ≤ reserved m) : m'.retained ≤ m.retained :=
  add_le_add (Multiset.map_le_map hbuf) (Multiset.map_le_map hres)

/-- The bytes the checks of one channel read. -/
theorem Exact.channelBytes {m : ChannelManager V} (h : Exact m) (r : ChannelRef) :
    (m.channel r).bufferedBytes + (m.channel r).directInflightBytes =
      bytes (·.channel = r) m.retained := by
  rw [retained, holdings, bytes_add, h.exact.buffered, h.exact.inflight]

theorem Exact.ipBytes {m : ChannelManager V} (h : Exact m) (ip : String) :
    (m.bufferedBytesByIp.get? ip).getD 0 = bytes (·.sourceIp = ip) m.retained := by
  rw [h.exact.byIp, nonzero_getD, retained]

theorem Exact.totalBytes {m : ChannelManager V} (h : Exact m) :
    m.totalBufferedBytes + m.totalDirectInflightBytes = bytes (fun _ => True) m.retained := by
  rw [retained, holdings, bytes_add, h.exact.totalBuffered, h.exact.totalInflight]

/-- A direct delivery that passed the checks fits. -/
theorem WithinBudgets.direct {cfg : Config} {m m' : ChannelManager V} (h : WithinBudgets cfg m)
    (hexact : Exact m) {r : ChannelRef} {target : SocketId} {sourceIp : String}
    {sizeBytes : ℕ} (hfits : m.admitsDirect cfg r target sourceIp sizeBytes = true)
    (hret : m'.retained = ⟨r, sourceIp, sizeBytes⟩ ::ₘ m.retained) : WithinBudgets cfg m' := by
  simp only [admitsDirect, Bool.and_eq_true, decide_eq_true_eq, hexact.channelBytes,
    hexact.ipBytes, hexact.totalBytes] at hfits
  obtain ⟨⟨⟨-, hchannel⟩, hip⟩, htotal⟩ := hfits
  constructor
  · intro r'
    rw [hret, bytes_cons]
    dsimp only
    split
    next heq => subst heq; omega
    next => have := h.channel r'; omega
  · intro ip
    rw [hret, bytes_cons]
    dsimp only
    split
    next heq => subst heq; omega
    next => have := h.ip ip; omega
  · rw [hret, bytes_cons, if_pos trivial]
    dsimp only
    omega

/-- What the checks of the buffering path allow. -/
theorem bufferRefusal_eq_none {cfg : Config} {m : ChannelManager V} {r : ChannelRef}
    {sourceIp : String} {sizeBytes : ℕ} {oldest : Option (BufferedMessage V)}
    (h : m.bufferRefusal cfg r sourceIp sizeBytes oldest = none) :
    ((m.channel r).bufferedBytes : ℤ) + (m.channel r).directInflightBytes -
        ((oldest.map (·.sizeBytes)).getD 0 : ℕ) + sizeBytes ≤
      cfg.relayMaxBufferedBytesPerChannel ∧
    (((m.bufferedBytesByIp.get? sourceIp).getD 0 : ℕ) : ℤ) -
        (if oldest.map (·.sourceIp) = some sourceIp then
          ((oldest.map (·.sizeBytes)).getD 0 : ℕ) else 0 : ℕ) + sizeBytes ≤
      cfg.relayMaxBufferedBytesPerIp ∧
    (m.totalBufferedBytes : ℤ) + m.totalDirectInflightBytes -
        ((oldest.map (·.sizeBytes)).getD 0 : ℕ) + sizeBytes ≤
      cfg.relayMaxBufferedBytesGlobal := by
  have hcast : (((oldest.map (·.sizeBytes)).getD 0 : ℕ) : ℤ) =
      (oldest.map fun message => (message.sizeBytes : ℤ)).getD 0 := by
    cases oldest <;> rfl
  unfold bufferRefusal at h
  dsimp only at h
  by_cases h₁ : (cfg.relayMaxBufferedBytesPerChannel : ℤ) <
      ((m.channel r).bufferedBytes : ℤ) + (m.channel r).directInflightBytes -
        (oldest.map fun message => (message.sizeBytes : ℤ)).getD 0 + sizeBytes
  · rw [if_pos h₁] at h
    cases h
  rw [if_neg h₁] at h
  by_cases h₂ : (cfg.relayMaxBufferedBytesPerIp : ℤ) <
      (((m.bufferedBytesByIp.get? sourceIp).getD 0 : ℕ) : ℤ) -
        (if oldest.map (·.sourceIp) = some sourceIp then
          (oldest.map fun message => (message.sizeBytes : ℤ)).getD 0 else 0) + sizeBytes
  · rw [if_pos h₂] at h
    cases h
  rw [if_neg h₂] at h
  by_cases h₃ : (cfg.relayMaxBufferedBytesGlobal : ℤ) <
      (m.totalBufferedBytes : ℤ) + m.totalDirectInflightBytes -
        (oldest.map fun message => (message.sizeBytes : ℤ)).getD 0 + sizeBytes
  · rw [if_pos h₃] at h
    cases h
  refine ⟨by rw [hcast]; exact not_lt.1 h₁, ?_, by rw [hcast]; exact not_lt.1 h₃⟩
  rw [apply_ite (Nat.cast : ℕ → ℤ), hcast]
  exact not_lt.1 h₂

/-- The bytes of the entry a message evicts. -/
theorem bytes_evicted (p : Holding → Prop) [DecidablePred p] (r : ChannelRef)
    (oldest : Option (BufferedMessage V)) :
    bytes p ((tagged r oldest.toList).map heldInBuffer) =
      if (oldest.any fun message => p (heldInBuffer (r, message))) = true then
        (oldest.map (·.sizeBytes)).getD 0 else 0 := by
  cases oldest with
  | none => simp
  | some message =>
    rw [Option.toList_some, tagged_cons, tagged_nil, Multiset.map_cons, bytes_cons,
      Multiset.map_zero, bytes_zero, add_zero]
    simp only [Option.any_some, Option.map_some, Option.getD_some, decide_eq_true_eq]
    rfl

/-- A buffered message that passed the checks fits, its eviction taken into account. -/
theorem WithinBudgets.pushed {cfg : Config} {m m' : ChannelManager V} (h : WithinBudgets cfg m)
    (hexact : Exact m) {r : ChannelRef} {message : BufferedMessage V}
    {oldest : Option (BufferedMessage V)}
    (hfits : m.bufferRefusal cfg r message.sourceIp message.sizeBytes oldest = none)
    (hret : (tagged r oldest.toList).map heldInBuffer + m'.retained =
      heldInBuffer (r, message) ::ₘ m.retained) : WithinBudgets cfg m' := by
  obtain ⟨hchannel, hip, htotal⟩ := bufferRefusal_eq_none hfits
  have hsum : ∀ (p : Holding → Prop) [DecidablePred p],
      bytes p ((tagged r oldest.toList).map heldInBuffer) + bytes p m'.retained =
        (if p (heldInBuffer (r, message)) then message.sizeBytes else 0) +
          bytes p m.retained := by
    intro p _
    rw [← bytes_add, hret, bytes_cons]
    rfl
  have hch := hexact.channelBytes r
  have hsrc := hexact.ipBytes message.sourceIp
  have htot := hexact.totalBytes
  constructor
  · intro r'
    have hs := hsum (·.channel = r')
    rw [bytes_evicted] at hs
    by_cases heq : r = r'
    · subst heq
      simp only [heldInBuffer, decide_true, if_true] at hs
      cases oldest with
      | none => simp at hs hchannel; omega
      | some o => simp at hs hchannel; omega
    · have hle := h.channel r'
      simp only [heldInBuffer, heq, if_false] at hs
      omega
  · intro ip
    have hs := hsum (·.sourceIp = ip)
    rw [bytes_evicted] at hs
    by_cases heq : message.sourceIp = ip
    · subst heq
      rw [if_pos (show (heldInBuffer (r, message)).sourceIp = message.sourceIp from rfl)] at hs
      cases oldest with
      | none => simp at hs hip; omega
      | some o =>
        by_cases ho : o.sourceIp = message.sourceIp
        · simp [heldInBuffer, ho] at hs hip
          omega
        · simp [heldInBuffer, ho] at hs hip
          omega
    · have hle := h.ip ip
      rw [if_neg (show ¬(heldInBuffer (r, message)).sourceIp = ip from heq)] at hs
      omega
  · have hs := hsum fun _ => True
    rw [bytes_evicted] at hs
    cases oldest with
    | none => simp at hs htotal; omega
    | some o => simp at hs htotal; omega

variable [Unknown V]

/-- Every call stays within the budgets. -/
theorem withinBudgets_step {cfg : Config} {m : ChannelManager V} (c : Call V) (hm : MapSound m)
    (hexact : Exact m) (h : WithinBudgets cfg m) : WithinBudgets cfg (c.step cfg m) := by
  have hflow := flow_of_call cfg c hm hexact.refs
  generalize c.outcome cfg m = out at hflow
  generalize c.step cfg m = m' at hflow ⊢
  cases hflow with
  | still _ _ hbuf hres => exact h.of_le (retained_le hbuf.le hres)
  | drained _ _ _ _ _ _ _ _ _ _ _ hbuf hres =>
    exact h.of_le (retained_le (hbuf ▸ Multiset.le_add_left _ _) hres)
  | direct _ _ _ _ sourceIp _ r target sizeBytes _ _ hfits hbuf hres =>
    refine h.direct hexact hfits ?_
    rw [retained, retained, holdings, holdings, hbuf, hres, Multiset.map_cons, Multiset.add_cons]
    rfl
  | pushed _ _ _ _ sourceIp _ r _ message _ _ _ hip hfits hbuf hres =>
    subst hip
    refine h.pushed hexact hfits ?_
    rw [retained, retained, holdings, holdings, hres, ← add_assoc, ← Multiset.map_add, hbuf,
      Multiset.map_cons, Multiset.cons_add]
  | promoted s reservation next rest _ hbuf hres hres' =>
    refine h.of_le ?_
    rw [retained, retained, holdings, holdings, hbuf, hres, hres', Multiset.map_cons,
      Multiset.map_cons, Multiset.map_cons, Multiset.add_cons, Multiset.add_cons,
      Multiset.cons_add]
    exact Multiset.le_cons_self _ (heldInFlight reservation)
  | closed _ _ _ _ hbuf hres =>
    exact h.of_le (retained_le (hbuf ▸ Multiset.le_add_left _ _) hres.le)
  | swept _ hbuf hres =>
    exact h.of_le (retained_le (hbuf ▸ Multiset.filter_le _ _) hres.le)

/-- In every run, what is retained is within every budget, and no buffer is over its
message cap. -/
theorem budgets_respected (cfg : Config) (cap : Option ℕ) (calls : List (Call V)) :
    WithinBudgets cfg (after cfg cap calls) ∧
      ∀ r, ((after cfg cap calls).content r).messageBuffer.length ≤ maxBufferedMessages := by
  constructor
  · induction calls using List.reverseRecOn with
    | nil =>
      have hzero : (new cap : ChannelManager V).retained = 0 := by
        rw [retained, holdings, buffered_new, reserved_new]
        rfl
      rw [after_nil]
      constructor <;> simp [hzero]
    | append_singleton calls c ih =>
      rw [after_snoc]
      exact withinBudgets_step c (mapSound_after cfg cap calls) (exact_after cfg cap calls) ih
  · have hinv := @channel_invariant V _ fun c => c.messageBuffer.length ≤ maxBufferedMessages
    exact hinv (fun _ _ => Nat.zero_le _) (fun _ _ _ h heff => heff.length_le h) cfg cap calls

end ChannelManager

end QrlBackend
