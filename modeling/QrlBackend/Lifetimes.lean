import QrlBackend.Roles

/-!
# Channels that lost their entry

A reservation can refer to a channel object after `cleanup` or a tombstone eviction took
the object's entry out of the map. Nobody is in such a channel, so nothing happens to it
any more (`step_orphan`).

Under a clock that never goes back its buffer is empty as well (`orphan_messageBuffer`),
if `routeMessage` is prompt. A channel loses its entry either as a tombstone, which is
empty, or after `channelTtlMs` without activity. `routeMessage` reads the clock once for
the activity and once more for the message it buffers. If the second reading is at most
`channelTtlMs - bufferTtlMs` later (`Prompt`), no message is newer than the last activity
by more than that (`TimesBounded`), so the same `cleanup` has dropped them all.
-/

set_option autoImplicit false

namespace QrlBackend

variable {V : Type}

open ChannelManager

/-- Some id names the channel. -/
def Mapped (m : ChannelManager V) (r : ChannelRef) : Prop :=
  ∃ id, m.channels.get? id = some r

/-- Between the two readings of a `routeMessage` passes at most the time by which a channel
outlives its messages. -/
def Prompt (calls : List (Call V)) : Prop :=
  ∀ c ∈ calls, c.done ≤ c.now + (channelTtlMs - bufferTtlMs)

instance (calls : List (Call V)) : Decidable (Prompt calls) :=
  inferInstanceAs (Decidable (∀ c ∈ calls, _))

theorem prompt_snoc {calls : List (Call V)} {c : Call V} : Prompt (calls ++ [c]) ↔
    Prompt calls ∧ c.done ≤ c.now + (channelTtlMs - bufferTtlMs) := by
  simp only [Prompt, List.forall_mem_append, List.forall_mem_singleton]

/-- Buffering a message is activity, and activity is in the past. -/
structure TimesBounded (now : ℕ) (c : Content V) : Prop where
  activity : c.lastActivity ≤ now
  messages : ∀ message ∈ c.messageBuffer,
    message.timestamp ≤ c.lastActivity + (channelTtlMs - bufferTtlMs)

theorem timesBounded_fresh (now : ℕ) (creatorIp : Option String) :
    TimesBounded now (.fresh now creatorIp : Content V) where
  activity := le_rfl
  messages _ hmem := by cases hmem

theorem TimesBounded.mono {now now' : ℕ} {c : Content V} (h : TimesBounded now c)
    (hle : now ≤ now') : TimesBounded now' c :=
  ⟨h.activity.trans hle, h.messages⟩

/-- Old activity means expired messages. -/
theorem TimesBounded.swept_messageBuffer {now now' : ℕ} {c : Content V} (h : TimesBounded now c)
    (hold : channelTtlMs < now' - c.lastActivity) : (c.swept now').messageBuffer = [] := by
  refine List.filter_eq_nil_iff.2 fun message hmem => ?_
  have hle := h.messages message hmem
  have hlt : bufferTtlMs < channelTtlMs := by decide
  simp only [isFresh, decide_eq_true_eq]
  omega

theorem participants_eq_empty {c : Content V} (h : c.participants.size = 0) :
    c.participants = .empty :=
  JsMap.ext (List.length_eq_zero_iff.1 h)

variable [Unknown V]

/-- Every effect of a prompt call keeps the times bounded, by the reading it happens at. -/
theorem ChannelEffect.timesBounded {call : Call V} {c c' : Content V}
    (heff : ChannelEffect call c c') {now : ℕ} (h : TimesBounded now c) (hle : now ≤ call.now)
    (hprompt : call.done ≤ call.now + (channelTtlMs - bufferTtlMs)) :
    TimesBounded call.now c' := by
  have hact : c.lastActivity ≤ call.now := h.activity.trans hle
  have hold : ∀ message ∈ c.messageBuffer,
      message.timestamp ≤ call.now + (channelTtlMs - bufferTtlMs) := fun message hmem =>
    (h.messages message hmem).trans (Nat.add_le_add_right hact _)
  cases heff with
  | same | dropped => exact ⟨hact, h.messages⟩
  | left | touched | noted => exact ⟨le_rfl, hold⟩
  | joined active id s t =>
    refine ⟨?_, fun message hmem => ?_⟩
    · unfold Content.joined
      cases sameRoleSocket c.participants s t <;> exact le_rfl
    · have hmem' : message ∈ c.messageBuffer := by
        unfold Content.joined at hmem
        cases hst : sameRoleSocket c.participants s t with
        | none =>
          rw [hst] at hmem
          exact List.mem_of_mem_filter hmem
        | some e =>
          rw [hst] at hmem
          exact List.mem_of_mem_filter hmem
      refine (hold message hmem').trans ?_
      unfold Content.joined
      cases sameRoleSocket c.participants s t <;> exact le_rfl
  | closed => exact ⟨le_rfl, fun _ hmem => by cases hmem⟩
  | buffered s message _ _ htime =>
    refine ⟨le_rfl, fun message' hmem => ?_⟩
    rcases List.mem_append.1 hmem with hmem | hmem
    · exact hold message' ((afterEviction_sublist _).subset hmem)
    · rw [List.mem_singleton.1 hmem, htime]
      exact hprompt
  | promoted => exact ⟨hact, fun message hmem => h.messages message (List.mem_of_mem_eraseP hmem)⟩
  | swept => exact ⟨hact, fun message hmem => h.messages message (List.mem_of_mem_filter hmem)⟩

namespace ChannelManager

/-- Nothing happens to a channel nobody is in once it lost its entry. -/
theorem step_orphan (cfg : Config) {m : ChannelManager V} (c : Call V) {r : ChannelRef}
    (hr : r < m.objects.next) (horphan : ¬Mapped m r)
    (hempty : (m.content r).participants = .empty) :
    (c.step cfg m).content r = m.content r := by
  have hne : ∀ {id r₀}, m.channels.get? id = some r₀ → r ≠ r₀ :=
    fun hget h => horphan ⟨_, h ▸ hget⟩
  obtain ⟨now, op⟩ := c
  unfold Call.step Call.perform
  cases op with
  | join isSocketActive channelId s t publicKey creatorIp =>
    have h := join_outcome isSocketActive now m channelId s t publicKey creatorIp
    dsimp only
    generalize join isSocketActive now m channelId s t publicKey creatorIp = out at h ⊢
    obtain ⟨res, m'⟩ := out
    cases h with
    | refused => rfl
    | tombstone => rfl
    | refusedAfterStale _ r₀ e hget =>
      exact (m.content_dropStale r₀ e r).trans (if_neg (hne hget))
    | admitted r₀ c key stale hslot _ _ _ _ _ _ hcontent =>
      refine (hcontent r).trans (if_neg ?_)
      cases hslot with
      | existing _ hget => exact hne hget
      | created => exact hr.ne
  | leave s channelId =>
    have h := leave_outcome now m s channelId
    dsimp only
    generalize leave now m s channelId = out at h ⊢
    obtain ⟨res, m'⟩ := out
    cases h with
    | absent => rfl
    | left r₀ p hget hp hcontent => exact (hcontent r).trans (if_neg (hne hget))
  | close channelId =>
    have h := close_outcome now m channelId
    dsimp only
    generalize close now m channelId = out at h ⊢
    obtain ⟨res, m'⟩ := out
    cases h with
    | refused => rfl
    | closed r₀ evicted hget hlive hcontent => exact (hcontent r).trans (if_neg (hne hget))
  | routeMessage canSocketReceive channelId s data sourceIp bufferedAt =>
    have h := routeMessage_outcome cfg canSocketReceive now bufferedAt m channelId s data sourceIp
    dsimp only
    generalize routeMessage cfg canSocketReceive now bufferedAt m channelId s data sourceIp = out
      at h ⊢
    obtain ⟨res, m'⟩ := out
    cases h with
    | refused => rfl
    | refusedLate _ _ r₀ hget _ _ _ hcontent => exact (hcontent r).trans (if_neg (hne hget))
    | direct r₀ _ _ _ hget _ _ _ _ _ _ _ _ _ hcontent =>
      exact (hcontent r).trans (if_neg (hne hget))
    | buffered r₀ _ _ hget _ _ _ _ _ _ hcontent => exact (hcontent r).trans (if_neg (hne hget))
  | releaseDirectDelivery s => exact m.content_releaseDirectDelivery s r
  | advanceDirectDelivery s =>
    have h := advance_outcome m s
    dsimp only
    generalize advanceDirectDelivery m s = out at h ⊢
    obtain ⟨res, m'⟩ := out
    cases h with
    | idle => rfl
    | released _ _ _ hcontent => exact hcontent r
    | promoted reservation p next _ hp _ _ hcontent =>
      refine (hcontent r).trans (if_neg fun heq => ?_)
      rw [← heq, hempty] at hp
      cases hp
  | cleanup =>
    refine ((cleanup_spec now m).1 r).trans (if_neg fun hmem => ?_)
    exact horphan (JsMap.mem_values.1 hmem)

/-- Where an orphan of the state after a call comes from. -/
theorem orphan_step (cfg : Config) {m : ChannelManager V} (c : Call V) {r : ChannelRef}
    (hr : r < (c.step cfg m).objects.next) (horphan : ¬Mapped (c.step cfg m) r) :
    (r < m.objects.next ∧ ¬Mapped m r) ∨
    ((c.step cfg m).content r).terminated = true ∨
    (r < m.objects.next ∧ (m.content r).participants.size = 0 ∧
      channelTtlMs < c.now - (m.content r).lastActivity ∧
      (c.step cfg m).content r = (m.content r).swept c.now) := by
  cases step_map cfg m c with
  | same hch hnext => exact .inl ⟨hnext ▸ hr, fun ⟨id, h⟩ => horphan ⟨id, hch ▸ h⟩⟩
  | created channelId hnone hch hnext =>
    have hne : r ≠ m.objects.next := fun h =>
      horphan ⟨channelId, by rw [hch, JsMap.get?_set_self, h]⟩
    have hlt : r < m.objects.next + 1 := hnext ▸ hr
    refine .inl ⟨lt_of_le_of_ne (Nat.lt_succ_iff.1 hlt) hne, fun ⟨id, h⟩ => ?_⟩
    refine horphan ⟨id, ?_⟩
    have hid : id ≠ channelId := fun h' => by rw [h', hnone] at h; cases h
    rw [hch, JsMap.get?_set_of_ne _ _ hid, h]
  | shrunk hnext hentry =>
    rw [hnext] at hr
    by_cases hm : Mapped m r
    · obtain ⟨id, hget⟩ := hm
      cases hentry id with
      | kept h => exact absurd ⟨id, h.trans hget⟩ horphan
      | created hnone => rw [hnone] at hget; cases hget
      | removed r' hget' _ _ hwhy =>
        obtain rfl : r' = r := Option.some.inj (hget'.symm.trans hget)
        rcases hwhy with h | ⟨h₁, h₂, h₃⟩
        · exact .inr (.inl h)
        · exact .inr (.inr ⟨hr, h₁, h₂, h₃⟩)
    · exact .inl ⟨hr, hm⟩

/-- Nobody is in a channel without an entry. -/
theorem orphan_participants (cfg : Config) (cap : Option ℕ) (calls : List (Call V)) :
    ∀ r < (after cfg cap calls).objects.next, ¬Mapped (after cfg cap calls) r →
      ((after cfg cap calls).content r).participants = .empty := by
  induction calls using List.reverseRecOn with
  | nil => exact fun _ _ _ => rfl
  | append_singleton calls c ih =>
    intro r hr horphan
    have htomb := cleanTombstone_after cfg cap (calls ++ [c]) r
    rw [after_snoc] at hr horphan htomb ⊢
    rcases orphan_step cfg c hr horphan with ⟨hr₀, h⟩ | h | ⟨_, h, -, hswept⟩
    · rw [step_orphan cfg c hr₀ h (ih r hr₀ h)]
      exact ih r hr₀ h
    · exact htomb.participants h
    · rw [hswept]
      exact participants_eq_empty h

theorem timesBounded_after (cfg : Config) (cap : Option ℕ) {calls : List (Call V)}
    (hclock : ClockMonotone calls) (hprompt : Prompt calls) (r : ChannelRef) :
    TimesBounded (lastReading calls) ((after cfg cap calls).content r) := by
  induction calls using List.reverseRecOn generalizing r with
  | nil => exact timesBounded_fresh 0 none
  | append_singleton calls c ih =>
    obtain ⟨hbefore, hc⟩ := prompt_snoc.1 hprompt
    rw [after_snoc, lastReading_snoc]
    refine TimesBounded.mono ?_ hclock.le_done
    cases step_cell cfg (after cfg cap calls) c r with
    | moved heff =>
      have hold := ih (clockMonotone_snoc.1 hclock).1 hbefore r
      exact heff.timesBounded hold hclock.lastReading_le hc
    | created creatorIp _ heff =>
      exact heff.timesBounded (timesBounded_fresh _ creatorIp) le_rfl hc

/-- Nothing is buffered in a channel without an entry. -/
theorem orphan_messageBuffer (cfg : Config) (cap : Option ℕ) {calls : List (Call V)}
    (hclock : ClockMonotone calls) (hprompt : Prompt calls) :
    ∀ r < (after cfg cap calls).objects.next, ¬Mapped (after cfg cap calls) r →
      ((after cfg cap calls).content r).messageBuffer = [] := by
  induction calls using List.reverseRecOn with
  | nil => exact fun _ _ _ => rfl
  | append_singleton calls c ih =>
    intro r hr horphan
    have htomb := cleanTombstone_after cfg cap (calls ++ [c]) r
    have hclock' := (clockMonotone_snoc.1 hclock).1
    have hprompt' := (prompt_snoc.1 hprompt).1
    rw [after_snoc] at hr horphan htomb ⊢
    rcases orphan_step cfg c hr horphan with ⟨hr₀, h⟩ | h | ⟨-, -, hold, hswept⟩
    · rw [step_orphan cfg c hr₀ h (orphan_participants cfg cap calls r hr₀ h)]
      exact ih hclock' hprompt' r hr₀ h
    · exact htomb.messageBuffer h
    · rw [hswept]
      exact (timesBounded_after cfg cap hclock' hprompt' r).swept_messageBuffer hold

/-- A `routeMessage` that is not prompt : 28 minutes after the activity it notes it stamps
its message. A dApp with another key drops the silent sender and is refused, so the channel
is empty, and the cleanup deletes it by its activity while its message is fresh. -/
def slowRouting : List (Call String) :=
  [⟨0, .join (fun _ => true) "channel" 1 .dapp (some "QUFB") none⟩,
    ⟨1, .routeMessage (fun _ => true) "channel" 1 ⟨"channel", .dapp, "hello", none, ⟨1, 1⟩⟩ "ip"
      1700000⟩,
    ⟨1700001, .join (fun s => s ≠ 1) "channel" 2 .dapp (some "QkJC") none⟩,
    ⟨1900000, .cleanup⟩]

end ChannelManager

end QrlBackend
