import QrlBackend.ChannelRuns
import QrlBackend.Roles
import Mathlib.Data.Finset.Card

/-!
# Tombstones

A closed channel stays in the map as a tombstone until it is `tombstoneTtlMs` old or
`maxTombstones` newer ones push it out of the FIFO. `terminatedOrder` names each tombstone
of the map once and nothing else (`Tombstoned`), whatever is called in which order. So the
tombstones behind one in the FIFO are channels closed after it, and it stays while fewer
than `maxTombstones` were (`Entombed.step`). While it does, every join under its id reports
it and changes nothing, and every message is refused (`Entombed.sealed`).
-/

set_option autoImplicit false

namespace QrlBackend

variable {V : Type}

open ChannelManager

namespace ChannelManager

/-- The channels closed so far. -/
def closedChannels (m : ChannelManager V) : Finset ChannelRef :=
  (Finset.range m.objects.next).filter fun r => (m.content r).terminated = true

/-- What a call can do to tombstones : nothing, add one and push out the oldest, or drop the
old ones. -/
inductive TombstoneEffect (now : ℕ) (m m' : ChannelManager V) : Prop
  | still (horder : m'.terminatedOrder = m.terminatedOrder)
      (hnext : m.objects.next ≤ m'.objects.next)
      (hmark : ∀ r, r < m.objects.next → (m'.content r).terminated = (m.content r).terminated ∧
        (m'.content r).terminatedAt = (m.content r).terminatedAt)
      (hkept : ∀ id r, m.channels.get? id = some r → m'.channels.get? id = some r)
      (hnew : ∀ id r, m'.channels.get? id = some r → m.channels.get? id = some r ∨
        (m'.content r).terminated = false)
  | closed (channelId : String) (r : ChannelRef) (evicted : List String)
      (hget : m.channels.get? channelId = some r) (hlive : (m.content r).terminated = false)
      (hcontent : ∀ r', m'.content r' =
        if r' = r then (m.content r).closed now else m.content r')
      (horder : m.terminatedOrder ++ [channelId] = evicted ++ m'.terminatedOrder)
      (hgone : ∀ id r', m.channels.get? id = some r' → (m'.content r').terminated = true →
        id ∈ evicted → m'.channels.get? id = none)
      (hkept : ∀ id, (∀ r', m.channels.get? id = some r' → (m'.content r').terminated = true →
        id ∉ evicted) → m'.channels.get? id = m.channels.get? id)
      (hnext : m'.objects.next = m.objects.next)
      (hfull : evicted ≠ [] → m'.terminatedOrder.length = maxTombstones)
  | cleaned (h : m' = m.cleanup now)

/-- A call that keeps the tables and the marks. -/
theorem TombstoneEffect.of_ite {now : ℕ} {m m' : ChannelManager V} {r : ChannelRef}
    {c : Content V} (h : ∀ r', m'.content r' = if r' = r then c else m.content r')
    (hterm : c.terminated = (m.content r).terminated)
    (hat : c.terminatedAt = (m.content r).terminatedAt) (htables : m'.tables = m.tables) :
    TombstoneEffect now m m' := by
  obtain ⟨hch, horder, -, hnext⟩ := tables_eq_iff.1 htables
  refine .still horder hnext.ge (fun r' _ => ?_) (fun id r' hget => hch ▸ hget)
    fun id r' hget => .inl (hch ▸ hget)
  rw [h]
  split
  next hr => rw [hr, hterm, hat]; exact ⟨rfl, rfl⟩
  next => exact ⟨rfl, rfl⟩

theorem TombstoneEffect.of_content {now : ℕ} {m m' : ChannelManager V}
    (h : ∀ r, m'.content r = m.content r) (htables : m'.tables = m.tables) :
    TombstoneEffect now m m' := by
  refine .of_ite (r := 0) (c := m.content 0) (fun r' => ?_) rfl rfl htables
  rw [h]
  split
  next hr => rw [hr]
  next => rfl

/-- Every call has one of the effects. -/
theorem step_tombstones [Unknown V] (cfg : Config) (m : ChannelManager V) (c : Call V) :
    TombstoneEffect c.now m (c.step cfg m) := by
  obtain ⟨now, op⟩ := c
  unfold Call.step Call.perform
  cases op with
  | join isSocketActive channelId s t publicKey creatorIp =>
    have h := join_outcome isSocketActive now m channelId s t publicKey creatorIp
    dsimp only
    generalize join isSocketActive now m channelId s t publicKey creatorIp = out at h ⊢
    obtain ⟨res, m'⟩ := out
    cases h with
    | refused => exact .of_content (fun _ => rfl) rfl
    | refusedAfterStale _ r e =>
      exact .of_ite (m.content_dropStale r e) rfl rfl (m.tables_dropStale r e)
    | tombstone => exact .of_content (fun _ => rfl) rfl
    | admitted r c key stale hslot _ hlive _ _ _ _ hcontent horder =>
      have hmark : (c.joined now s t key stale).terminated = c.terminated ∧
          (c.joined now s t key stale).terminatedAt = c.terminatedAt := by
        cases stale <;> exact ⟨rfl, rfl⟩
      cases hslot with
      | existing _ hget hch hnext =>
        refine .still horder hnext.ge (fun r' _ => ?_) (fun id r' hget => hch ▸ hget)
          fun id r' hget => .inl (hch ▸ hget)
        rw [hcontent]
        split
        next hr => rw [hr]; exact hmark
        next => exact ⟨rfl, rfl⟩
      | created hget hch hnext =>
        refine .still horder (by omega) (fun r' hr' => ?_) (fun id r' hget' => ?_)
          fun id r' hget' => ?_
        · rw [hcontent, if_neg hr'.ne]
          exact ⟨rfl, rfl⟩
        · rw [hch, m.channels.get?_set_of_ne]
          · exact hget'
          · rintro rfl
            rw [hget] at hget'
            cases hget'
        · rw [hch, JsMap.get?_set] at hget'
          split at hget'
          · right
            rw [hcontent, if_pos (Option.some.inj hget').symm, hmark.1]
            exact hlive
          · exact .inl hget'
  | leave s channelId =>
    have h := leave_outcome now m s channelId
    dsimp only
    generalize leave now m s channelId = out at h ⊢
    obtain ⟨res, m'⟩ := out
    cases h with
    | absent => exact .of_content (fun _ => rfl) rfl
    | left r p _ _ hcontent htables => exact .of_ite hcontent rfl rfl htables
  | close channelId =>
    have h := close_outcome now m channelId
    dsimp only
    generalize close now m channelId = out at h ⊢
    obtain ⟨res, m'⟩ := out
    cases h with
    | refused => exact .of_content (fun _ => rfl) rfl
    | closed r evicted hget hlive hcontent horder hgone hkept hnext _ _ hfull =>
      exact .closed channelId r evicted hget hlive hcontent horder hgone hkept hnext hfull
  | routeMessage canSocketReceive channelId s data sourceIp bufferedAt =>
    have h := routeMessage_outcome cfg canSocketReceive now bufferedAt m channelId s data sourceIp
    dsimp only
    generalize routeMessage cfg canSocketReceive now bufferedAt m channelId s data sourceIp = out
      at h ⊢
    obtain ⟨res, m'⟩ := out
    cases h with
    | refused => exact .of_content (fun _ => rfl) rfl
    | refusedLate _ _ _ _ _ _ _ hcontent htables => exact .of_ite hcontent rfl rfl htables
    | direct _ _ _ _ _ _ _ _ _ _ _ _ _ _ hcontent htables =>
      exact .of_ite hcontent rfl rfl htables
    | buffered _ _ _ _ _ _ _ _ _ _ hcontent htables => exact .of_ite hcontent rfl rfl htables
  | releaseDirectDelivery s =>
    exact .of_content (m.content_releaseDirectDelivery s) (m.tables_releaseDirectDelivery s)
  | advanceDirectDelivery s =>
    have h := advance_outcome m s
    dsimp only
    generalize advanceDirectDelivery m s = out at h ⊢
    obtain ⟨res, m'⟩ := out
    cases h with
    | idle => exact .of_content (fun _ => rfl) rfl
    | released _ _ _ hcontent htables => exact .of_content hcontent htables
    | promoted _ _ _ _ _ _ _ hcontent htables => exact .of_ite hcontent rfl rfl htables
  | cleanup => exact .cleaned rfl

/-! ## The FIFO names the tombstones -/

/-- The FIFO names each tombstone of the map once, and nothing else. -/
structure Tombstoned (m : ChannelManager V) : Prop where
  nodup : m.terminatedOrder.Nodup
  mem : ∀ id, id ∈ m.terminatedOrder ↔
    ∃ r, m.channels.get? id = some r ∧ (m.content r).terminated = true

theorem tombstoned_new (cap : Option ℕ) : Tombstoned (new cap : ChannelManager V) where
  nodup := List.nodup_nil
  mem id := by simp [new]

/-- A live channel is not in the FIFO, so closing it keeps the FIFO without repetition. -/
theorem Tombstoned.nodup_snoc {m : ChannelManager V} (h : Tombstoned m) {channelId : String}
    {r : ChannelRef} (hget : m.channels.get? channelId = some r)
    (hlive : (m.content r).terminated = false) : (m.terminatedOrder ++ [channelId]).Nodup := by
  refine List.Nodup.append h.nodup (List.nodup_singleton _) ?_
  rw [List.disjoint_singleton]
  intro hmem
  obtain ⟨r', hget', hterm⟩ := (h.mem channelId).1 hmem
  rw [Option.some.inj (hget'.symm.trans hget), hlive] at hterm
  cases hterm

theorem Tombstoned.step {now : ℕ} {m m' : ChannelManager V} (h : Tombstoned m) (hm : MapSound m)
    (heffect : TombstoneEffect now m m') : Tombstoned m' := by
  cases heffect with
  | still horder hnext hmark hkept hnew =>
    refine ⟨horder ▸ h.nodup, fun id => ?_⟩
    rw [horder, h.mem]
    constructor
    · rintro ⟨r, hget, hterm⟩
      exact ⟨r, hkept id r hget, (hmark r (hm.lt_next id r hget)).1 ▸ hterm⟩
    · rintro ⟨r, hget, hterm⟩
      rcases hnew id r hget with hget | hlive
      · exact ⟨r, hget, (hmark r (hm.lt_next id r hget)).1 ▸ hterm⟩
      · rw [hlive] at hterm
        cases hterm
  | closed channelId r₀ evicted hget₀ hlive₀ hcontent horder hgone hkept hnext hfull =>
    have hnodup := h.nodup_snoc hget₀ hlive₀
    rw [horder, List.nodup_append] at hnodup
    obtain ⟨-, hnodup, hdisjoint⟩ := hnodup
    have hclosed : (m'.content r₀).terminated = true := by
      rw [hcontent, if_pos rfl]
      rfl
    have hother : ∀ r, r ≠ r₀ → m'.content r = m.content r := fun r hr => by
      rw [hcontent, if_neg hr]
    refine ⟨hnodup, fun id => ?_⟩
    constructor
    · intro hmem
      have hkeeps : m'.channels.get? id = m.channels.get? id :=
        hkept id fun _ _ _ hevicted => hdisjoint id hevicted id hmem rfl
      rw [hkeeps]
      have hmem : id ∈ m.terminatedOrder ++ [channelId] := by
        rw [horder]
        exact List.mem_append_right _ hmem
      rcases List.mem_append.1 hmem with hmem | hmem
      · obtain ⟨r, hget, hterm⟩ := (h.mem id).1 hmem
        refine ⟨r, hget, ?_⟩
        rwa [hother r fun hr => by rw [hr, hlive₀] at hterm; cases hterm]
      · rw [List.mem_singleton.1 hmem]
        exact ⟨r₀, hget₀, hclosed⟩
    · rintro ⟨r, hget, hterm⟩
      have hnotin : id ∉ evicted := by
        intro hevicted
        by_cases hold : ∀ r', m.channels.get? id = some r' → (m'.content r').terminated = true →
            id ∉ evicted
        · have hget := (hkept id hold).symm.trans hget
          exact hold r hget hterm hevicted
        · push Not at hold
          obtain ⟨r', hget', hterm', -⟩ := hold
          rw [hgone id r' hget' hterm' hevicted] at hget
          cases hget
      rw [hkept id fun _ _ _ => hnotin] at hget
      have hmem : id ∈ m.terminatedOrder ++ [channelId] := by
        by_cases hr : r = r₀
        · rw [hm.injective id channelId r hget (hr ▸ hget₀)]
          exact List.mem_append_right _ (List.mem_singleton_self _)
        · rw [hother r hr] at hterm
          exact List.mem_append_left _ ((h.mem id).2 ⟨r, hget, hterm⟩)
      rw [horder] at hmem
      exact (List.mem_append.1 hmem).resolve_left hnotin
  | cleaned heq =>
    subst heq
    obtain ⟨hcontent, hget, horder, -, -⟩ := cleanup_spec now m
    have hterm : ∀ r, ((m.cleanup now).content r).terminated = (m.content r).terminated := by
      intro r
      rw [hcontent]
      split <;> rfl
    refine ⟨horder ▸ h.nodup.filter _, fun id => ?_⟩
    rw [horder, List.mem_filter, h.mem]
    constructor
    · rintro ⟨⟨r, hold, hmark⟩, hhas⟩
      obtain ⟨r', hnow⟩ := Option.isSome_iff_exists.1 hhas
      have hsame := (Option.filter_eq_some_iff.1 ((hget id).symm.trans hnow)).1
      rw [Option.some.inj (hold.symm.trans hsame)] at hmark
      exact ⟨r', hnow, hterm r' ▸ hmark⟩
    · rintro ⟨r, hnow, hmark⟩
      have hold := (Option.filter_eq_some_iff.1 ((hget id).symm.trans hnow)).1
      exact ⟨⟨r, hold, hterm r ▸ hmark⟩, by rw [JsMap.has_eq, hnow]; rfl⟩

theorem tombstoned_after [Unknown V] (cfg : Config) (cap : Option ℕ) (calls : List (Call V)) :
    Tombstoned (after cfg cap calls) := by
  induction calls using List.reverseRecOn with
  | nil => exact tombstoned_new cap
  | append_singleton calls c ih =>
    rw [after_snoc]
    exact ih.step (mapSound_after cfg cap calls) (step_tombstones cfg _ c)

/-! ## How long a tombstone stays -/

theorem mem_closedChannels {m : ChannelManager V} {r : ChannelRef} :
    r ∈ m.closedChannels ↔ r < m.objects.next ∧ (m.content r).terminated = true := by
  simp [closedChannels]

/-- A closed channel stays closed. -/
theorem TombstoneEffect.closedChannels_subset {now : ℕ} {m m' : ChannelManager V}
    (heffect : TombstoneEffect now m m') : m.closedChannels ⊆ m'.closedChannels := by
  intro r hr
  rw [mem_closedChannels] at hr ⊢
  obtain ⟨hlt, hterm⟩ := hr
  cases heffect with
  | still _ hnext hmark => exact ⟨hlt.trans_le hnext, (hmark r hlt).1 ▸ hterm⟩
  | closed _ r₀ _ _ _ hcontent _ _ _ hnext =>
    refine ⟨hnext ▸ hlt, ?_⟩
    rw [hcontent]
    split
    · rfl
    · exact hterm
  | cleaned heq =>
    subst heq
    obtain ⟨hcontent, -, -, hnext, -⟩ := cleanup_spec now m
    refine ⟨hnext ▸ hlt, ?_⟩
    rw [hcontent]
    split <;> exact hterm

/-- The tombstone of a channel closed at `t₀`, when `n` channels had been closed. Each id
behind it in the FIFO stands for a channel closed since. -/
structure Entombed (m : ChannelManager V) (channelId : String) (r : ChannelRef) (t₀ n : ℕ) :
    Prop where
  get : m.channels.get? channelId = some r
  terminated : (m.content r).terminated = true
  terminatedAt : (m.content r).terminatedAt = t₀
  behind : ∃ older newer, m.terminatedOrder = older ++ channelId :: newer ∧
    newer.length + n ≤ m.closedChannels.card

/-- A close counts one channel more. -/
theorem card_closedChannels_close {now : ℕ} {m m' : ChannelManager V} {r₀ : ChannelRef}
    (hlt : r₀ < m.objects.next) (hlive : (m.content r₀).terminated = false)
    (hcontent : ∀ r', m'.content r' = if r' = r₀ then (m.content r₀).closed now else m.content r')
    (hnext : m'.objects.next = m.objects.next) :
    m'.closedChannels.card = m.closedChannels.card + 1 := by
  have hinsert : m'.closedChannels = insert r₀ m.closedChannels := by
    ext r
    rw [Finset.mem_insert, mem_closedChannels, mem_closedChannels, hnext, hcontent]
    by_cases hr : r = r₀
    · simp [hr, hlt, Content.closed]
    · simp [hr]
  rw [hinsert, Finset.card_insert_of_notMem]
  rw [mem_closedChannels, hlive]
  simp

/-- A channel just closed is the newest tombstone. -/
theorem entombed_of_close {now : ℕ} {m : ChannelManager V} (hm : MapSound m)
    (htomb : Tombstoned m) {channelId : String} (hclosed : (m.close now channelId).1 = true) :
    ∃ r, m.channels.get? channelId = some r ∧ Entombed (m.close now channelId).2 channelId r now
      (m.close now channelId).2.closedChannels.card := by
  have hout := close_outcome now m channelId
  generalize m.close now channelId = out at hout hclosed ⊢
  obtain ⟨confirmed, m'⟩ := out
  cases hout with
  | refused => cases hclosed
  | closed r evicted hget hlive hcontent horder hgone hkept hnext _ hle hfull =>
    have hnonempty : m'.terminatedOrder ≠ [] := by
      intro hnil
      rw [hnil, List.append_nil] at horder
      have hlen := hfull (by rw [← horder]; simp)
      rw [hnil] at hlen
      cases hlen
    obtain ⟨older, hlast⟩ : ∃ older, m'.terminatedOrder = older ++ [channelId] := by
      rw [← List.dropLast_append_getLast hnonempty, ← List.append_assoc] at horder
      refine ⟨m'.terminatedOrder.dropLast, ?_⟩
      conv_lhs => rw [← List.dropLast_append_getLast hnonempty]
      rw [(List.append_inj' horder rfl).2]
    have hnodup := htomb.nodup_snoc hget hlive
    rw [horder, List.nodup_append] at hnodup
    have hnot : channelId ∉ evicted := fun hevicted =>
      hnodup.2.2 _ hevicted channelId (by rw [hlast]; simp) rfl
    refine ⟨r, hget, (hkept _ fun _ _ _ => hnot).trans hget, ?_, ?_, older, [], hlast, by simp⟩
    · rw [hcontent, if_pos rfl]
      rfl
    · rw [hcontent, if_pos rfl]
      rfl

/-- What pushes the oldest ids out of a full FIFO leaves an id with few others behind it. -/
theorem survives_eviction {older newer evicted order : List String} {id added : String}
    (hsplit : (older ++ id :: newer) ++ [added] = evicted ++ order)
    (hfull : evicted ≠ [] → order.length = maxTombstones)
    (hfew : newer.length + 1 < maxTombstones) :
    ∃ older', order = older' ++ id :: (newer ++ [added]) := by
  rw [List.append_assoc, List.cons_append] at hsplit
  rcases List.append_eq_append_iff.1 hsplit with ⟨a, rfl, ha⟩ | ⟨a, -, ha⟩
  · rcases a with _ | ⟨b, a⟩
    · exact ⟨[], ha.symm⟩
    · exfalso
      rw [List.cons_append, List.cons.injEq] at ha
      have hlen := congrArg List.length ha.2
      rw [List.length_append, List.length_append, List.length_singleton, hfull (by simp)] at hlen
      omega
  · exact ⟨a, ha⟩

/-- A tombstone that is young and has few behind it stays. -/
theorem Entombed.step {now : ℕ} {m m' : ChannelManager V} {channelId : String} {r : ChannelRef}
    {t₀ n : ℕ} (h : Entombed m channelId r t₀ n) (hm : MapSound m) (htomb : Tombstoned m)
    (heffect : TombstoneEffect now m m') (hnow : now ≤ t₀ + tombstoneTtlMs)
    (hfew : m'.closedChannels.card < n + maxTombstones) : Entombed m' channelId r t₀ n := by
  obtain ⟨older, newer, horder₀, hbehind⟩ := h.behind
  have hsubset := Finset.card_le_card heffect.closedChannels_subset
  cases heffect with
  | still horder hnext hmark hkept =>
    obtain ⟨hterm, hat⟩ := hmark r (hm.lt_next _ _ h.get)
    exact ⟨hkept _ _ h.get, hterm ▸ h.terminated, hat ▸ h.terminatedAt,
      older, newer, horder ▸ horder₀, hbehind.trans hsubset⟩
  | closed added r₀ evicted hget₀ hlive₀ hcontent horder hgone hkept hnext hfull =>
    have hcard := card_closedChannels_close (hm.lt_next _ _ hget₀) hlive₀ hcontent hnext
    rw [horder₀] at horder
    obtain ⟨older', horder'⟩ := survives_eviction horder hfull (by omega)
    have hnodup := htomb.nodup_snoc hget₀ hlive₀
    rw [horder₀, horder, List.nodup_append] at hnodup
    have hmem : channelId ∈ m'.terminatedOrder := by
      rw [horder']
      simp
    have hnot : channelId ∉ evicted := fun hevicted => hnodup.2.2 _ hevicted _ hmem rfl
    have hsame : m'.content r = m.content r := by
      rw [hcontent, if_neg]
      rintro rfl
      rw [h.terminated] at hlive₀
      cases hlive₀
    refine ⟨(hkept _ fun _ _ _ => hnot).trans h.get, hsame ▸ h.terminated, hsame ▸ h.terminatedAt,
      older', newer ++ [added], horder', ?_⟩
    rw [List.length_append, List.length_singleton]
    omega
  | cleaned heq =>
    subst heq
    obtain ⟨hcontent, hget, horder, -, -⟩ := cleanup_spec now m
    have hmark : ((m.cleanup now).content r).terminated = (m.content r).terminated ∧
        ((m.cleanup now).content r).terminatedAt = (m.content r).terminatedAt := by
      rw [hcontent]
      split <;> exact ⟨rfl, rfl⟩
    have hstays : (m.cleanup now).channels.get? channelId = some r := by
      rw [hget, h.get, Option.filter_eq_some_iff]
      refine ⟨rfl, ?_⟩
      have hyoung : ¬tombstoneTtlMs < now - t₀ := by omega
      simp [Content.expired, h.terminated, h.terminatedAt, hyoung]
    refine ⟨hstays, hmark.1 ▸ h.terminated, hmark.2 ▸ h.terminatedAt,
      older.filter (m.cleanup now).channels.has, newer.filter (m.cleanup now).channels.has, ?_, ?_⟩
    · rw [horder, horder₀, List.filter_append, List.filter_cons_of_pos]
      rw [JsMap.has_eq, hstays]
      rfl
    · have := List.length_filter_le (m.cleanup now).channels.has newer
      omega

/-- A tombstone stays through any calls while it is young and few channels were closed
since. -/
theorem Entombed.run [Unknown V] (cfg : Config) {m : ChannelManager V} {channelId : String}
    {r : ChannelRef} {t₀ n : ℕ} (h : Entombed m channelId r t₀ n) (hm : MapSound m)
    (htomb : Tombstoned m) {calls : List (Call V)}
    (hnow : ∀ c ∈ calls, c.now ≤ t₀ + tombstoneTtlMs)
    (hfew : (Runs.run (Call.step cfg) m calls).closedChannels.card < n + maxTombstones) :
    Entombed (Runs.run (Call.step cfg) m calls) channelId r t₀ n := by
  induction calls generalizing m with
  | nil => exact h
  | cons c calls ih =>
    rw [Runs.run_cons] at hfew ⊢
    have heffect := step_tombstones cfg m c
    have hgrows : ∀ (calls : List (Call V)) (m : ChannelManager V),
        m.closedChannels.card ≤ (Runs.run (Call.step cfg) m calls).closedChannels.card := by
      intro calls
      induction calls with
      | nil => exact fun m => le_rfl
      | cons c calls ih =>
        intro m
        rw [Runs.run_cons]
        exact (Finset.card_le_card (step_tombstones cfg m c).closedChannels_subset).trans (ih _)
    exact ih (h.step hm htomb heffect (hnow c List.mem_cons_self)
      ((hgrows calls _).trans_lt hfew)) (mapSound_step cfg c hm) (htomb.step hm heffect)
      (fun c hc => hnow c (List.mem_cons_of_mem _ hc)) hfew

/-- Joins and messages that meet a tombstone : every join with a usable key reports it and
changes nothing, and every message is refused. -/
structure Sealed (m : ChannelManager V) (channelId : String) : Prop where
  join : ∀ isSocketActive now s t publicKey creatorIp key,
    canonicalPublicKey t publicKey = .ok key →
    m.join isSocketActive now channelId s t publicKey creatorIp = (.success [] none [] true, m)
  route : ∀ [Unknown V] (cfg : Config) canSocketReceive now bufferedAt s (data : RelayPayload V)
    sourceIp, m.routeMessage cfg canSocketReceive now bufferedAt channelId s data sourceIp =
      (.refused "Channel terminated", m)

theorem Entombed.sealed {m : ChannelManager V} {channelId : String} {r : ChannelRef} {t₀ n : ℕ}
    (h : Entombed m channelId r t₀ n) : Sealed m channelId where
  join isSocketActive now s t publicKey creatorIp key hkey := by
    have hterm : (m.channel r).terminated = true := h.terminated
    unfold ChannelManager.join
    rw [hkey, h.get]
    dsimp only
    rw [if_pos hterm]
  route cfg canSocketReceive now bufferedAt s data sourceIp := by
    have hterm : (m.channel r).terminated = true := h.terminated
    unfold routeMessage
    rw [h.get]
    dsimp only
    rw [if_pos hterm]

end ChannelManager

end QrlBackend
