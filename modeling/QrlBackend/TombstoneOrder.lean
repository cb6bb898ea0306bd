import QrlBackend.Tombstones

/-!
# The tombstone FIFO is in order of age

`terminatedOrder` and the map are changed apart : `close` pushes an id and shifts others
off, `cleanup` deletes entries and filters the ids that are left without one. `Tombstoned`
says that the list still names exactly the tombstones of the map. Under a clock that never
goes back it also names them by age and keeps within `maxTombstones` (`Queued`), so what
`close` shifts off is the oldest tombstone (`tombstone_fifo`).

A call can only lengthen the list when it is a `close` (`ChannelEffect.closes`), and then the
eviction loop has just run.
-/

set_option autoImplicit false

namespace QrlBackend

variable {V : Type}

open ChannelManager

/-- Only a close terminates a channel. -/
theorem ChannelEffect.closes [Unknown V] {call : Call V} {c c' : Content V}
    (heff : ChannelEffect call c c') (hlive : c.terminated = false)
    (hterm : c'.terminated = true) : ∃ channelId, call.op = .close channelId := by
  cases heff with
  | closed channelId hop => exact ⟨channelId, hop⟩
  | joined _ _ s t =>
    rw [Content.joined] at hterm
    cases hstale : sameRoleSocket c.participants s t <;> simp_all [Content.without]
  | same | dropped | left | touched | noted | buffered | promoted | swept =>
    exact absurd (hlive.symm.trans hterm) Bool.false_ne_true

namespace ChannelManager

/-- When the channel of an id was closed. -/
def closedAt (m : ChannelManager V) (channelId : String) : ℕ :=
  (m.channels.get? channelId).elim 0 fun r => (m.content r).terminatedAt

theorem closedAt_of_get? {m : ChannelManager V} {channelId : String} {r : ChannelRef}
    (h : m.channels.get? channelId = some r) :
    m.closedAt channelId = (m.content r).terminatedAt := by
  rw [closedAt, h, Option.elim_some]

/-- `terminatedOrder` lists the terminated channels of the map, each once, by age and within
the bound. -/
structure FifoOfTombstones (m : ChannelManager V) : Prop extends Tombstoned m where
  inOrder : m.terminatedOrder.Pairwise fun id id' => m.closedAt id ≤ m.closedAt id'
  bounded : m.terminatedOrder.length ≤ maxTombstones

/-- The FIFO lists the tombstones, all of them closed by `now`. -/
structure Queued (now : ℕ) (m : ChannelManager V) : Prop extends FifoOfTombstones m where
  past : ∀ id ∈ m.terminatedOrder, m.closedAt id ≤ now

theorem Queued.mono {now now' : ℕ} {m : ChannelManager V} (h : Queued now m) (hle : now ≤ now') :
    Queued now' m :=
  ⟨h.toFifoOfTombstones, fun id hmem => (h.past id hmem).trans hle⟩

theorem queued_new (now : ℕ) (cap : Option ℕ) : Queued now (new cap : ChannelManager V) where
  toTombstoned := tombstoned_new cap
  inOrder := List.Pairwise.nil
  past _ hmem := by cases hmem
  bounded := Nat.zero_le _

/-! ## What a close does to the FIFO -/

/-- How `close` changes the FIFO and the map : not at all, by one tombstone more, or by one
more and the oldest gone. -/
inductive ClosesInOrder (now : ℕ) (m : ChannelManager V) (channelId : String) :
    Bool → ChannelManager V → Prop
  | refused (hnot : ∀ r, m.channels.get? channelId = some r → (m.content r).terminated = true) :
      ClosesInOrder now m channelId false m
  | kept {m' : ChannelManager V} (r : ChannelRef) (hget : m.channels.get? channelId = some r)
      (hlive : (m.content r).terminated = false)
      (hroom : m.terminatedOrder.length < maxTombstones)
      (horder : m'.terminatedOrder = m.terminatedOrder ++ [channelId])
      (hentries : ∀ id, m'.channels.get? id = m.channels.get? id) :
      ClosesInOrder now m channelId true m'
  | evicted {m' : ChannelManager V} (r : ChannelRef) (oldest : String) (younger : List String)
      (hget : m.channels.get? channelId = some r) (hlive : (m.content r).terminated = false)
      (hfull : m.terminatedOrder.length = maxTombstones)
      (hsplit : m.terminatedOrder = oldest :: younger)
      (horder : m'.terminatedOrder = younger ++ [channelId])
      (hentries : ∀ id, m'.channels.get? id = if id = oldest then none else m.channels.get? id)
      (hne : oldest ≠ channelId)
      (htomb : ∃ r', m.channels.get? oldest = some r' ∧ (m.content r').terminated = true)
      (holdest : ∀ id ∈ younger ++ [channelId], m.closedAt oldest ≤ m'.closedAt id) :
      ClosesInOrder now m channelId true m'

/-- The ids of the FIFO keep their age when a channel is closed, and the new one is as young
as the clock. -/
theorem closedAt_close {now : ℕ} {m m' : ChannelManager V} {channelId : String} {r : ChannelRef}
    (hm : MapSound m) (hget : m.channels.get? channelId = some r)
    (hcontent : ∀ r', m'.content r' = if r' = r then (m.content r).closed now else m.content r')
    {id : String} (hentry : m'.channels.get? id = m.channels.get? id) :
    m'.closedAt id = if id = channelId then now else m.closedAt id := by
  unfold closedAt
  rw [hentry]
  split
  next hid =>
    rw [hid, hget, Option.elim_some, hcontent, if_pos rfl]
    rfl
  next hid =>
    cases hold : m.channels.get? id with
    | none => rfl
    | some r' =>
      rw [Option.elim_some, Option.elim_some, hcontent, if_neg]
      rintro rfl
      exact hid (hm.injective _ _ _ hold hget)

/-- The FIFO with the new id is in order of age. -/
theorem Queued.pairwise_snoc {now now' : ℕ} {m : ChannelManager V} (h : Queued now m)
    (hle : now ≤ now') {channelId : String} (hnot : channelId ∉ m.terminatedOrder) :
    (m.terminatedOrder ++ [channelId]).Pairwise fun id id' =>
      (if id = channelId then now' else m.closedAt id) ≤
        if id' = channelId then now' else m.closedAt id' := by
  have hne : ∀ id ∈ m.terminatedOrder, id ≠ channelId := fun id hmem hid => hnot (hid ▸ hmem)
  rw [List.pairwise_append]
  refine ⟨h.inOrder.imp_of_mem fun {id id'} hmem hmem' hage => ?_, List.pairwise_singleton _ _,
    fun id hmem id' hmem' => ?_⟩
  · rwa [if_neg (hne id hmem), if_neg (hne id' hmem')]
  · rw [List.mem_singleton] at hmem'
    rw [if_pos hmem', if_neg (hne id hmem)]
    exact (h.past id hmem).trans hle

/-- `close` shifts off nothing, or the oldest tombstone. -/
theorem Queued.close {now now' : ℕ} {m : ChannelManager V} (h : Queued now m) (hle : now ≤ now')
    (hm : MapSound m) (channelId : String) :
    ClosesInOrder now' m channelId (m.close now' channelId).1 (m.close now' channelId).2 := by
  have hout := close_outcome now' m channelId
  generalize m.close now' channelId = out at hout ⊢
  obtain ⟨confirmed, m'⟩ := out
  cases hout with
  | refused hnot => exact .refused hnot
  | closed r evicted hget hlive hcontent horder hgone hkept _ _ hlength hfull =>
    have hnodup := h.toTombstoned.nodup_snoc hget hlive
    have hlen := congrArg List.length horder
    rw [List.length_append, List.length_append, List.length_singleton] at hlen
    have hbounded := h.bounded
    rcases evicted with _ | ⟨oldest, evicted⟩
    · rw [List.nil_append] at horder
      rw [List.length_nil] at hlen
      exact .kept r hget hlive (by omega) horder.symm fun id =>
        hkept id fun _ _ _ hmem => by cases hmem
    · have hmax := hfull (List.cons_ne_nil _ _)
      rw [List.length_cons] at hlen
      obtain rfl : evicted = [] := List.eq_nil_of_length_eq_zero (by omega)
      obtain ⟨younger, hsplit, hyounger⟩ : ∃ younger, m.terminatedOrder = oldest :: younger ∧
          m'.terminatedOrder = younger ++ [channelId] := by
        cases hold : m.terminatedOrder with
        | nil =>
          rw [hold, List.length_nil, hmax] at hlen
          cases hlen
        | cons oldest' younger =>
          rw [hold, List.cons_append, List.cons_append, List.cons.injEq] at horder
          exact ⟨younger, by rw [horder.1], horder.2.symm⟩
      have hmem : oldest ∈ m.terminatedOrder := by rw [hsplit]; exact List.mem_cons_self
      have hnot : channelId ∉ m.terminatedOrder := fun h => (List.nodup_append.1 hnodup).2.2 _ h
        channelId (List.mem_singleton_self _) rfl
      obtain ⟨r', hget', hterm'⟩ := (h.toTombstoned.mem oldest).1 hmem
      have hstill : (m'.content r').terminated = true := by
        rw [hcontent]
        split
        · rfl
        · exact hterm'
      have hentries : ∀ id, m'.channels.get? id =
          if id = oldest then none else m.channels.get? id := by
        intro id
        split
        next hid => exact hgone id r' (hid ▸ hget') hstill (hid ▸ List.mem_singleton_self _)
        next hid => exact hkept id fun _ _ _ hmem => hid (List.mem_singleton.1 hmem)
      have hne : oldest ≠ channelId := fun hid => hnot (hid ▸ hmem)
      refine .evicted r oldest younger hget hlive (by omega) hsplit hyounger hentries hne
        ⟨r', hget', hterm'⟩ fun id hid => ?_
      have hinOrder := h.pairwise_snoc hle hnot
      have hdistinct := hnodup
      rw [hsplit, List.cons_append, List.pairwise_cons] at hinOrder
      rw [hsplit, List.cons_append, List.nodup_cons] at hdistinct
      have hage := hinOrder.1 id hid
      have hid' : id ≠ oldest := fun heq => hdistinct.1 (heq ▸ hid)
      rwa [if_neg hne, ← closedAt_close hm hget hcontent (by rw [hentries, if_neg hid'])] at hage

/-! ## What every call keeps -/

/-- A call that changes no tombstone's entry or age keeps the age of the ids in the FIFO. -/
theorem Queued.of_sublist {now now' : ℕ} {m m' : ChannelManager V} (h : Queued now m)
    (hle : now ≤ now') (htomb : Tombstoned m')
    (hsub : m'.terminatedOrder.Sublist m.terminatedOrder)
    (hage : ∀ id ∈ m'.terminatedOrder, m'.closedAt id = m.closedAt id) : Queued now' m' where
  toTombstoned := htomb
  inOrder := (h.inOrder.sublist hsub).imp_of_mem fun {id id'} hmem hmem' hold => by
    rwa [hage id hmem, hage id' hmem']
  past id hmem := by
    rw [hage id hmem]
    exact (h.past id (hsub.subset hmem)).trans hle
  bounded := hsub.length_le.trans h.bounded

theorem length_terminatedOrder_close {now : ℕ} {m : ChannelManager V} (channelId : String)
    (h : m.terminatedOrder.length ≤ maxTombstones) :
    (m.close now channelId).2.terminatedOrder.length ≤ maxTombstones := by
  have hout := close_outcome now m channelId
  generalize m.close now channelId = out at hout ⊢
  obtain ⟨confirmed, m'⟩ := out
  cases hout with
  | refused => exact h
  | closed _ _ _ _ _ _ _ _ _ _ hle => exact hle

/-- A call that terminates a channel is a close, so the eviction loop has bounded the FIFO. -/
theorem length_terminatedOrder_step [Unknown V] (cfg : Config) {m : ChannelManager V} (c : Call V)
    (h : m.terminatedOrder.length ≤ maxTombstones) (hm : MapSound m) {id : String} {r : ChannelRef}
    (hget : m.channels.get? id = some r) (hlive : (m.content r).terminated = false)
    (hterm : ((c.step cfg m).content r).terminated = true) :
    (c.step cfg m).terminatedOrder.length ≤ maxTombstones := by
  cases step_cell cfg m c r with
  | moved heff =>
    obtain ⟨channelId, hop⟩ := heff.closes hlive hterm
    have hstep : c.step cfg m = (m.close c.now channelId).2 := by
      rw [Call.step, Call.perform, hop]
    rw [hstep]
    exact length_terminatedOrder_close channelId h
  | created _ hr => exact absurd (hm.lt_next id r hget) (hr ▸ lt_irrefl r)

/-- Every call keeps the FIFO in order. -/
theorem Queued.step [Unknown V] (cfg : Config) {now : ℕ} {m : ChannelManager V} (c : Call V)
    (h : Queued now m) (hle : now ≤ c.now) (hm : MapSound m) : Queued c.now (c.step cfg m) := by
  have heffect := step_tombstones cfg m c
  have htomb := h.toTombstoned.step hm heffect
  cases heffect with
  | still horder hnext hmark hkept hnew =>
    refine h.of_sublist hle htomb (horder ▸ List.Sublist.refl _) fun id hmem => ?_
    rw [horder] at hmem
    obtain ⟨r, hget, -⟩ := (h.toTombstoned.mem id).1 hmem
    rw [closedAt_of_get? hget, closedAt_of_get? (hkept id r hget),
      (hmark r (hm.lt_next id r hget)).2]
  | closed channelId r evicted hget hlive hcontent horder hgone hkept hnext hfull =>
    have hclosed : ((c.step cfg m).content r).terminated = true := by
      rw [hcontent, if_pos rfl]
      rfl
    have hnodup := h.toTombstoned.nodup_snoc hget hlive
    have hnot : channelId ∉ m.terminatedOrder := fun h => (List.nodup_append.1 hnodup).2.2 _ h
      channelId (List.mem_singleton_self _) rfl
    have hage : ∀ id ∈ (c.step cfg m).terminatedOrder, (c.step cfg m).closedAt id =
        if id = channelId then c.now else m.closedAt id := by
      intro id hmem
      rw [horder, List.nodup_append] at hnodup
      exact closedAt_close hm hget hcontent
        (hkept id fun _ _ _ hevicted => hnodup.2.2 id hevicted id hmem rfl)
    have hinOrder := h.pairwise_snoc hle hnot
    rw [horder, List.pairwise_append] at hinOrder
    refine ⟨⟨htomb, hinOrder.2.1.imp_of_mem fun {id id'} hmem hmem' hold => ?_,
      length_terminatedOrder_step cfg c h.bounded hm hget hlive hclosed⟩, fun id hmem => ?_⟩
    · rwa [hage id hmem, hage id' hmem']
    · rw [hage id hmem]
      split
      next => exact le_rfl
      next hid =>
        have hmem : id ∈ m.terminatedOrder ++ [channelId] := by
          rw [horder]
          exact List.mem_append_right _ hmem
        rw [List.mem_append, List.mem_singleton] at hmem
        exact (h.past id (hmem.resolve_right hid)).trans hle
  | cleaned heq =>
    rw [heq] at htomb ⊢
    obtain ⟨hcontent, hget, horder, -, -⟩ := cleanup_spec c.now m
    have hsub : (m.cleanup c.now).terminatedOrder.Sublist m.terminatedOrder :=
      horder ▸ List.filter_sublist
    refine h.of_sublist hle htomb hsub fun id hmem => ?_
    obtain ⟨r, hnow, -⟩ := (htomb.mem id).1 hmem
    have hold := (Option.filter_eq_some_iff.1 ((hget id).symm.trans hnow)).1
    rw [closedAt_of_get? hnow, closedAt_of_get? hold, hcontent]
    split <;> rfl

theorem queued_after [Unknown V] (cfg : Config) (cap : Option ℕ) {calls : List (Call V)}
    (hclock : ClockMonotone calls) : Queued (lastReading calls) (after cfg cap calls) := by
  induction calls using List.reverseRecOn with
  | nil => exact queued_new 0 cap
  | append_singleton calls c ih =>
    rw [after_snoc, lastReading_snoc]
    have hqueued := (ih (clockMonotone_snoc.1 hclock).1).step cfg c hclock.lastReading_le
      (mapSound_after cfg cap calls)
    exact hqueued.mono hclock.le_done

/-- Under a clock that never goes back, the FIFO of every run lists the tombstones by age, and
the next `close` pushes out nothing or the oldest of them. -/
theorem tombstone_fifo [Unknown V] (cfg : Config) (cap : Option ℕ) {calls : List (Call V)}
    (hclock : ClockMonotone calls) :
    FifoOfTombstones (after cfg cap calls) ∧
      ∀ now, lastReading calls ≤ now → ∀ channelId,
        ClosesInOrder now (after cfg cap calls) channelId
          ((after cfg cap calls).close now channelId).1
          ((after cfg cap calls).close now channelId).2 := by
  have h := queued_after cfg cap hclock
  exact ⟨h.toFifoOfTombstones, fun now hnow channelId =>
    h.close hnow (mapSound_after cfg cap calls) channelId⟩

/-- A channel closed, cleaned up a day later, created again and closed again is in the FIFO
once. -/
theorem tombstone_fifo_again :
    let m : ChannelManager String := after .unset none
      [⟨0, .join (fun _ => true) "channel" 1 .dapp none (some "ip")⟩, ⟨1, .close "channel"⟩,
        ⟨2 + tombstoneTtlMs, .cleanup⟩,
        ⟨2 + tombstoneTtlMs, .join (fun _ => true) "channel" 2 .dapp none (some "ip")⟩,
        ⟨3 + tombstoneTtlMs, .close "channel"⟩]
    FifoOfTombstones m ∧ m.terminatedOrder = ["channel"] ∧
      m.closedAt "channel" = 3 + tombstoneTtlMs :=
  ⟨(tombstone_fifo .unset none (by decide)).1, by decide, by decide⟩

end ChannelManager

end QrlBackend
