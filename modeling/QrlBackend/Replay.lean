import QrlBackend.Refusals

/-!
# Replay protection

Over any period in which a socket stays a participant of a channel, the sequence numbers of
its accepted messages strictly increase (`routing_safe`). The channel remembers the last
one, and while the socket stays no call but an accepted message of its own moves it
(`seqNumbers_step`) : a join, a replaced participant, a promotion or a sweep leaves it
alone, and what `leave` or `close` forgets belongs to a socket that is out.
-/

set_option autoImplicit false

namespace QrlBackend

variable {V : Type}

open ChannelManager

/-- The socket is a participant of the channel under the id. -/
def ChannelManager.TakesPart (m : ChannelManager V) (channelId : String) (s : SocketId) : Prop :=
  ∃ r, m.channels.get? channelId = some r ∧ (m.content r).participants.has s = true

instance (m : ChannelManager V) (channelId : String) (s : SocketId) :
    Decidable (m.TakesPart channelId s) :=
  decidable_of_iff ((m.channels.get? channelId).any fun r => (m.content r).participants.has s)
    (by simp [TakesPart, Option.any_eq_true])

/-- The sequence number of a message of the socket that the call accepts. -/
def Call.acceptedSeq [Unknown V] (cfg : Config) (channelId : String) (s : SocketId)
    (m : ChannelManager V) (c : Call V) : Option ℤ :=
  match c.op, c.outcome cfg m with
  | .routeMessage _ id sender data _ _, .routed result =>
    if id = channelId ∧ sender = s ∧ result.error.isNone then data.seq else none
  | _, _ => none

namespace ChannelManager

theorem get?_noteSeq (seqNumbers : JsMap SocketId ℤ) (sender s : SocketId) (seq : Option ℤ) :
    (noteSeq seqNumbers sender seq).get? s =
      if s = sender then seq.or (seqNumbers.get? s) else seqNumbers.get? s := by
  unfold noteSeq
  cases seq with
  | none => simp
  | some n => simp [JsMap.get?_set]

/-- What a channel keeps of another socket when it drops one. -/
theorem seqNumbers_without {c : Content V} {e s : SocketId}
    (h : (c.without e).participants.has s = true) :
    (c.without e).seqNumbers.get? s = c.seqNumbers.get? s := by
  have hne : s ≠ e := by
    rintro rfl
    rw [Content.without, JsMap.has_eq, JsMap.get?_delete_self] at h
    cases h
  exact JsMap.get?_delete_of_ne _ hne

/-- A join moves nobody's sequence number but that of the participant it replaces. -/
theorem seqNumbers_joined {c : Content V} {now : ℕ} {s s' : SocketId} {t : ClientType}
    {key : Option String}
    (h : (c.joined now s' t key (sameRoleSocket c.participants s' t)).participants.has s = true) :
    (c.joined now s' t key (sameRoleSocket c.participants s' t)).seqNumbers.get? s =
      c.seqNumbers.get? s := by
  cases hst : sameRoleSocket c.participants s' t with
  | none => rfl
  | some e =>
    rw [hst] at h
    refine JsMap.get?_delete_of_ne _ ?_
    rintro rfl
    have hself : s ≠ s' := (sameRoleSocket_some hst).1
    rw [JsMap.has_eq] at h
    change ((c.participants.delete s).set s' ⟨t, now⟩).get? s |>.isSome at h
    rw [JsMap.get?_set_of_ne _ _ hself, JsMap.get?_delete_self] at h
    cases h

variable {channelId : String} {s : SocketId} {r : ChannelRef}

/-- A join moves the sequence number of nobody who stays. -/
theorem seqNumbers_join {active : SocketId → Bool} {now : ℕ} {m m' : ChannelManager V}
    {id : String} {s' : SocketId} {t : ClientType} {publicKey ip : Option String}
    {res : JoinResult V} (h : JoinOutcome active now m id s' t publicKey ip res m')
    (hsound : MapSound m) (hget : m.channels.get? channelId = some r)
    (hstay : (m'.content r).participants.has s = true) :
    (m'.content r).seqNumbers.get? s = (m.content r).seqNumbers.get? s := by
  cases h with
  | refused | tombstone => rfl
  | refusedAfterStale _ r₀ e =>
    rw [content_dropStale] at hstay ⊢
    split at hstay
    next hr =>
      rw [if_pos hr, seqNumbers_without hstay, hr]
    next hr => rw [if_neg hr]
  | admitted r₀ c key stale hslot _ _ _ _ hstale _ hcontent =>
    subst hstale
    rw [hcontent] at hstay ⊢
    split at hstay
    next hr =>
      rw [if_pos hr, seqNumbers_joined hstay]
      cases hslot with
      | existing => rw [hr]
      | created => exact absurd (hsound.lt_next _ _ hget) (hr ▸ lt_irrefl _)
    next hr => rw [if_neg hr]

/-- Leaving moves the sequence number of nobody who stays. -/
theorem seqNumbers_leave {now : ℕ} {m m' : ChannelManager V} {s' : SocketId} {id : String}
    {res : Option Participant} (h : LeaveOutcome now m s' id res m')
    (hstay : (m'.content r).participants.has s = true) :
    (m'.content r).seqNumbers.get? s = (m.content r).seqNumbers.get? s := by
  cases h with
  | absent => rfl
  | left r₀ p _ _ hcontent =>
    rw [hcontent] at hstay ⊢
    split at hstay
    next hr =>
      rw [if_pos hr, hr]
      exact seqNumbers_without hstay
    next hr => rw [if_neg hr]

/-- Nobody stays in a channel that is closed. -/
theorem seqNumbers_close {now : ℕ} {m m' : ChannelManager V} {id : String} {confirmed : Bool}
    (h : CloseOutcome now m id confirmed m')
    (hstay : (m'.content r).participants.has s = true) :
    (m'.content r).seqNumbers.get? s = (m.content r).seqNumbers.get? s := by
  cases h with
  | refused => rfl
  | closed r₀ evicted _ _ hcontent =>
    rw [hcontent] at hstay ⊢
    split at hstay
    next => cases hstay
    next hr => rw [if_neg hr]

/-- Promotion moves no sequence number. -/
theorem seqNumbers_advance {m m' : ChannelManager V} {s' : SocketId}
    {res : Option (RelayPayload V)} (h : AdvanceOutcome m s' res m') :
    (m'.content r).seqNumbers.get? s = (m.content r).seqNumbers.get? s := by
  cases h with
  | idle => rfl
  | released _ _ _ hcontent => rw [hcontent]
  | promoted reservation p next _ _ _ _ hcontent =>
    rw [hcontent]
    split
    next hr =>
      rw [hr]
      rfl
    next => rfl

variable [Unknown V] {cfg : Config}

/-- Routing moves the sender's sequence number to that of the message, if it accepts it. -/
theorem seqNumbers_route {canReceive : SocketId → Bool} {now bufferedAt : ℕ}
    {m m' : ChannelManager V} {id : String} {sender : SocketId} {data : RelayPayload V}
    {sourceIp : String} {res : RouteResult}
    (h : RouteOutcome cfg canReceive now bufferedAt m id sender data sourceIp res m')
    (hsound : MapSound m) (hget : m.channels.get? channelId = some r) :
    (m'.content r).seqNumbers.get? s = (if id = channelId ∧ sender = s ∧ res.error.isNone then
      data.seq else none).or ((m.content r).seqNumbers.get? s) := by
  have hnoted : ∀ (r₀ : ChannelRef) (c : Content V), m.channels.get? id = some r₀ →
      (∀ r', m'.content r' = if r' = r₀ then c else m.content r') →
      c.seqNumbers = ((m.content r₀).noted now sender data.seq).seqNumbers →
      (m'.content r).seqNumbers.get? s =
        (if id = channelId ∧ sender = s then data.seq else none).or
          ((m.content r).seqNumbers.get? s) := by
    intro r₀ c hget₀ hcontent hseq
    rw [hcontent]
    by_cases hr : r = r₀
    · subst hr
      obtain rfl : id = channelId := hsound.injective _ _ _ hget₀ hget
      rw [if_pos rfl, hseq, Content.noted, get?_noteSeq]
      by_cases hs : s = sender
      · simp [hs]
      · simp [hs, Ne.symm hs]
    · rw [if_neg hr, if_neg, Option.none_or]
      rintro ⟨rfl, -⟩
      exact hr (Option.some.inj (hget.symm.trans hget₀))
  cases h with
  | refused => simp [RouteResult.refused]
  | refusedLate _ _ r₀ _ _ _ _ hcontent =>
    rw [hcontent]
    split
    next hr => simp [hr]
    next => simp
  | direct r₀ _ target size hget₀ _ _ _ _ _ _ _ _ _ hcontent =>
    simpa using hnoted r₀ _ hget₀ hcontent rfl
  | buffered r₀ _ size hget₀ _ _ _ _ _ _ hcontent =>
    simpa using hnoted r₀ _ hget₀ hcontent rfl

variable {m : ChannelManager V} {c : Call V}

/-- While a socket stays in a channel, its sequence number moves with its accepted messages
only. -/
theorem seqNumbers_step (hsound : MapSound m) (hget : m.channels.get? channelId = some r)
    (hstay : ((c.step cfg m).content r).participants.has s = true) :
    ((c.step cfg m).content r).seqNumbers.get? s =
      (c.acceptedSeq cfg channelId s m).or ((m.content r).seqNumbers.get? s) := by
  obtain ⟨now, op⟩ := c
  cases op with
  | join active id s' t publicKey ip =>
    exact seqNumbers_join (join_outcome active now m id s' t publicKey ip) hsound hget hstay
  | leave s' id => exact seqNumbers_leave (leave_outcome now m s' id) hstay
  | close id => exact seqNumbers_close (close_outcome now m id) hstay
  | routeMessage canReceive id sender data sourceIp bufferedAt =>
    exact seqNumbers_route
      (routeMessage_outcome cfg canReceive now bufferedAt m id sender data sourceIp) hsound hget
  | releaseDirectDelivery s' =>
    change ((m.releaseDirectDelivery s').content r).seqNumbers.get? s =
      (m.content r).seqNumbers.get? s
    rw [content_releaseDirectDelivery]
  | advanceDirectDelivery s' => exact seqNumbers_advance (advance_outcome m s')
  | cleanup =>
    change ((m.cleanup now).content r).seqNumbers.get? s = (m.content r).seqNumbers.get? s
    rw [(cleanup_spec now m).1]
    split <;> rfl

/-- An accepted sequence number is above the last one. -/
theorem acceptedSeq_fresh {n last : ℤ} (hget : m.channels.get? channelId = some r)
    (haccepted : c.acceptedSeq cfg channelId s m = some n)
    (hlast : (m.content r).seqNumbers.get? s = some last) : last < n := by
  obtain ⟨now, op⟩ := c
  cases op with
  | routeMessage canSocketReceive id sender data sourceIp bufferedAt =>
    have h := routeMessage_outcome cfg canSocketReceive now bufferedAt m id sender data sourceIp
    change (if id = channelId ∧ sender = s ∧ (routeMessage cfg canSocketReceive now bufferedAt
      m id sender data sourceIp).1.error.isNone then data.seq else none) = some n at haccepted
    generalize routeMessage cfg canSocketReceive now bufferedAt m id sender data sourceIp = out
      at h haccepted
    obtain ⟨res, m'⟩ := out
    split at haccepted
    next hmine =>
      obtain ⟨rfl, rfl, herror⟩ := hmine
      have hfresh : ∀ r₀, m.channels.get? id = some r₀ →
          replays (m.content r₀).seqNumbers sender data.seq = false → last < n := by
        intro r₀ hget₀ hseq
        obtain rfl : r = r₀ := Option.some.inj (hget.symm.trans hget₀)
        simpa [replays, haccepted, hlast] using hseq
      cases h with
      | refused | refusedLate => cases herror
      | direct r₀ _ _ _ hget₀ _ _ _ hseq => exact hfresh r₀ hget₀ hseq
      | buffered r₀ _ _ hget₀ _ _ _ hseq => exact hfresh r₀ hget₀ hseq
    next => cases haccepted
  | join | leave | close | releaseDirectDelivery | advanceDirectDelivery | cleanup =>
    cases haccepted

/-- A participant that stays stays in the same channel object. -/
theorem TakesPart.step (h : m.TakesPart channelId s)
    (hstay : (c.step cfg m).TakesPart channelId s) : ∃ r, m.channels.get? channelId = some r ∧
      (c.step cfg m).channels.get? channelId = some r ∧
      ((c.step cfg m).content r).participants.has s = true := by
  obtain ⟨r, hget, -⟩ := h
  obtain ⟨r', hget', hhas⟩ := hstay
  cases step_entry cfg m c channelId with
  | kept hkept =>
    obtain rfl : r = r' := Option.some.inj (hget.symm.trans (hkept.symm.trans hget'))
    exact ⟨r, hget, hget', hhas⟩
  | created hnone =>
    rw [hnone] at hget
    cases hget
  | removed _ _ hgone =>
    rw [hgone] at hget'
    cases hget'

/-- What the channel remembers is the newest sequence number it accepted in the period. -/
theorem accepted_increasing (cap : Option ℕ) (before period : List (Call V))
    (hmember : ∀ calls, calls <+: period →
      (after cfg cap (before ++ calls)).TakesPart channelId s) :
    (Runs.collect (Call.step cfg) (Call.acceptedSeq cfg channelId s) (after cfg cap before)
      period).Pairwise (· < ·) ∧
    ∀ n ∈ Runs.collect (Call.step cfg) (Call.acceptedSeq cfg channelId s) (after cfg cap before)
      period, ∃ r last, (after cfg cap (before ++ period)).channels.get? channelId = some r ∧
        ((after cfg cap (before ++ period)).content r).seqNumbers.get? s = some last ∧
        n ≤ last := by
  induction period using List.reverseRecOn with
  | nil => exact ⟨.nil, fun _ hn => by cases hn⟩
  | append_singleton period c ih =>
    have hrun : Runs.run (Call.step cfg) (after cfg cap before) period =
        after cfg cap (before ++ period) := (Runs.run_append _ _ _).symm
    have hpart := hmember period (List.prefix_append _ _)
    have hstay := hmember (period ++ [c]) (List.prefix_refl _)
    rw [← List.append_assoc, after_snoc] at hstay ⊢
    obtain ⟨hsorted, hnewest⟩ := ih fun calls hcalls =>
      hmember calls (hcalls.trans (List.prefix_append _ _))
    rw [Runs.collect_snoc, hrun]
    obtain ⟨r, hget, hget', hhas⟩ := hpart.step hstay
    have hseq := seqNumbers_step (mapSound_after cfg cap (before ++ period)) hget hhas
    cases hnow : c.acceptedSeq cfg channelId s (after cfg cap (before ++ period)) with
    | none =>
      rw [hnow, Option.none_or] at hseq
      rw [Option.toList_none, List.append_nil]
      refine ⟨hsorted, fun n hn => ?_⟩
      obtain ⟨r', last, hget₀, hlast, hle⟩ := hnewest n hn
      obtain rfl : r = r' := Option.some.inj (hget.symm.trans hget₀)
      exact ⟨r, last, hget', hseq.trans hlast, hle⟩
    | some n =>
      rw [hnow, Option.some_or] at hseq
      rw [Option.toList_some]
      have hbelow : ∀ n' ∈ Runs.collect (Call.step cfg) (Call.acceptedSeq cfg channelId s)
          (after cfg cap before) period, n' < n := by
        intro n' hn'
        obtain ⟨r', last, hget₀, hlast, hle⟩ := hnewest n' hn'
        obtain rfl : r = r' := Option.some.inj (hget.symm.trans hget₀)
        exact hle.trans_lt (acceptedSeq_fresh hget hnow hlast)
      constructor
      · refine List.pairwise_append.2 ⟨hsorted, List.pairwise_singleton _ _, ?_⟩
        intro n' hn' n'' hn''
        rw [List.mem_singleton] at hn''
        exact hn'' ▸ hbelow n' hn'
      · intro n' hn'
        refine ⟨r, n, hget', hseq, ?_⟩
        rcases List.mem_append.1 hn' with hold | hnew
        · exact (hbelow n' hold).le
        · exact (List.mem_singleton.1 hnew).le

/-- A refused message changes nothing but the time of the last activity, so its sequence
number is as good as before, and while a socket stays in a channel the sequence numbers of
its accepted messages strictly increase. -/
theorem routing_safe (cfg : Config) (cap : Option ℕ) :
    (∀ (calls : List (Call V)) canSocketReceive now bufferedAt channelId s data sourceIp,
      (routeMessage cfg canSocketReceive now bufferedAt (after cfg cap calls) channelId s data
        sourceIp).1.error ≠ none →
      SameButActivity (after cfg cap calls)
        (routeMessage cfg canSocketReceive now bufferedAt (after cfg cap calls) channelId s data
          sourceIp).2 ∧
      ∀ r, replays ((routeMessage cfg canSocketReceive now bufferedAt (after cfg cap calls)
          channelId s data sourceIp).2.channel r).seqNumbers s data.seq =
        replays ((after cfg cap calls).channel r).seqNumbers s data.seq) ∧
    ∀ (before period : List (Call V)) channelId s,
      (∀ calls, calls <+: period → (after cfg cap (before ++ calls)).TakesPart channelId s) →
      (Runs.collect (Call.step cfg) (Call.acceptedSeq cfg channelId s) (after cfg cap before)
        period).Pairwise (· < ·) := by
  constructor
  · intro calls canSocketReceive now bufferedAt channelId s data sourceIp herror
    have hsame := routeMessage_refused herror
    exact ⟨hsame, fun r => hsame.replays_eq r s data.seq⟩
  · exact fun before period channelId s hmember =>
      (accepted_increasing cap before period hmember).1

/-- A dapp sends a message, sends it again, and sends the next one. -/
def resent : List (Call String) :=
  [3, 3, 5].map fun n =>
    ⟨1, .routeMessage (fun _ => true) "c" 1 ⟨"c", .dapp, "hi", some n, ⟨1, 0⟩⟩ "ip" 1⟩

theorem routing_safe_resent :
    SameButActivity (after .unset none (dappJoined ++ resent)) (routeMessage .unset (fun _ => true)
      2 2 (after .unset none (dappJoined ++ resent)) "c" 1 ⟨"c", .dapp, "hi", some 5, ⟨1, 0⟩⟩
        "ip").2 ∧
    (Runs.collect (Call.step .unset) (Call.acceptedSeq .unset "c" 1) (after .unset none dappJoined)
      resent).Pairwise (· < ·) := by
  have hmember : ∀ calls ∈ resent.inits,
      (after .unset none (dappJoined ++ calls)).TakesPart "c" 1 := by decide
  refine ⟨((routing_safe .unset none).1 (dappJoined ++ resent) _ 2 2 "c" 1 _ _ (by decide)).1, ?_⟩
  exact (routing_safe .unset none).2 dappJoined resent "c" 1 fun calls hcalls =>
    hmember calls ((List.mem_inits _ _).2 hcalls)

end ChannelManager

end QrlBackend
