import QrlBackend.ChannelRuns

/-!
# Who is in a channel

A channel has at most one participant of each role (`RoleExclusive`), and a tombstone has
nobody and nothing (`CleanTombstone`). Every effect on a channel keeps both, so every
channel of every run has them. Role exclusivity is what makes the first other
participant, which `routeMessage` picks without looking, the one of the other role
(`RoleExclusive.counterparty_clientType`), and what leaves the capacity check of `join`
nothing to refuse (`join_ne_full`).
-/

set_option autoImplicit false

namespace QrlBackend

variable {V : Type}

open ChannelManager

/-! ## Looking up a role -/

/-- The socket a join replaces is another one of the same role. -/
theorem sameRoleSocket_some {participants : JsMap SocketId Participant} {s e : SocketId}
    {t : ClientType} (h : sameRoleSocket participants s t = some e) :
    e ≠ s ∧ ∃ p, participants.get? e = some p ∧ p.clientType = t := by
  obtain ⟨⟨e', p⟩, hfind, rfl⟩ := Option.map_eq_some_iff.1 h
  have hprop := List.find?_some hfind
  simp only [Bool.and_eq_true, decide_eq_true_eq] at hprop
  exact ⟨hprop.2, p, JsMap.mem_entries.1 (List.mem_of_find?_eq_some hfind), hprop.1⟩

/-- Without such a socket every other participant has the other role. -/
theorem sameRoleSocket_none {participants : JsMap SocketId Participant} {s : SocketId}
    {t : ClientType} (h : sameRoleSocket participants s t = none) {e : SocketId} {p : Participant}
    (hp : participants.get? e = some p) (he : e ≠ s) : p.clientType ≠ t := by
  have hfind := Option.map_eq_none_iff.1 h
  have hnot := List.find?_eq_none.1 hfind (e, p) (JsMap.mem_entries.2 hp)
  intro ht
  exact hnot (by simp [ht, he])

/-! ## The invariants -/

/-- At most one participant of each role. -/
def RoleExclusive (participants : JsMap SocketId Participant) : Prop :=
  ∀ s s' p p', participants.get? s = some p → participants.get? s' = some p' →
    p.clientType = p'.clientType → s = s'

/-- A terminated channel holds nobody and nothing. -/
structure CleanTombstone (c : Content V) : Prop where
  participants : c.terminated = true → c.participants = .empty
  messageBuffer : c.terminated = true → c.messageBuffer = []
  seqNumbers : c.terminated = true → c.seqNumbers = .empty
  publicKey : c.terminated = true → c.publicKey = none

theorem roleExclusive_empty : RoleExclusive .empty := by
  intro s s' p p' hp
  simp at hp

/-- Fewer participants stay exclusive. -/
theorem RoleExclusive.delete {participants : JsMap SocketId Participant}
    (h : RoleExclusive participants) (e : SocketId) : RoleExclusive (participants.delete e) := by
  intro s s' p p' hp hp'
  rw [JsMap.get?_delete] at hp hp'
  split at hp
  · cases hp
  · split at hp'
    · cases hp'
    · exact h s s' p p' hp hp'

/-- Who is in the channel once the stale socket is gone. -/
def withoutStale (participants : JsMap SocketId Participant) (s : SocketId) (t : ClientType) :
    JsMap SocketId Participant :=
  (sameRoleSocket participants s t).elim participants participants.delete

/-- Once the stale socket is gone, every participant but the joining one has the other
role. -/
theorem RoleExclusive.withoutStale_ne {participants : JsMap SocketId Participant}
    (h : RoleExclusive participants) {s e : SocketId} {t : ClientType} {p : Participant}
    (hp : (withoutStale participants s t).get? e = some p) (he : e ≠ s) : p.clientType ≠ t := by
  unfold withoutStale at hp
  cases hst : sameRoleSocket participants s t with
  | none =>
    rw [hst] at hp
    exact sameRoleSocket_none hst hp he
  | some x =>
    obtain ⟨-, q, hq, hqt⟩ := sameRoleSocket_some hst
    rw [hst, Option.elim_some, JsMap.get?_delete] at hp
    split at hp
    · cases hp
    next hx =>
      intro ht
      exact hx (h e x p q hp hq (ht.trans hqt.symm))

theorem RoleExclusive.withoutStale {participants : JsMap SocketId Participant}
    (h : RoleExclusive participants) (s : SocketId) (t : ClientType) :
    RoleExclusive (withoutStale participants s t) := by
  unfold QrlBackend.withoutStale
  cases sameRoleSocket participants s t with
  | none => exact h
  | some x => exact h.delete x

theorem participants_joined (c : Content V) (now : ℕ) (s : SocketId) (t : ClientType)
    (key : Option String) :
    (c.joined now s t key (sameRoleSocket c.participants s t)).participants =
      (withoutStale c.participants s t).set s ⟨t, now⟩ := by
  unfold Content.joined withoutStale
  cases sameRoleSocket c.participants s t <;> rfl

/-- A join puts its socket in the one place of its role. -/
theorem RoleExclusive.joined {c : Content V} (h : RoleExclusive c.participants) (now : ℕ)
    (s : SocketId) (t : ClientType) (key : Option String) :
    RoleExclusive
      (c.joined now s t key (sameRoleSocket c.participants s t)).participants := by
  rw [participants_joined]
  intro a b p q hp hq hpq
  rw [JsMap.get?_set] at hp hq
  split at hp
  next ha =>
    cases hp
    split at hq
    next hb => rw [ha, hb]
    next hb => exact absurd hpq.symm (h.withoutStale_ne hq hb)
  next ha =>
    split at hq
    next hb =>
      cases hq
      exact absurd hpq (h.withoutStale_ne hp ha)
    next => exact h.withoutStale s t a b p q hp hq hpq

variable [Unknown V]

/-- Every effect keeps both invariants. -/
theorem ChannelEffect.roleExclusive {call : Call V} {c c' : Content V}
    (heff : ChannelEffect call c c')
    (h : RoleExclusive c.participants) : RoleExclusive c'.participants := by
  cases heff with
  | dropped s => exact h.delete s
  | left s => exact h.delete s
  | joined _ _ s t _ _ key => exact h.joined call.now s t key
  | closed => exact roleExclusive_empty
  | same | touched | noted | buffered | promoted | swept => exact h

theorem ChannelEffect.cleanTombstone {call : Call V} {c c' : Content V}
    (heff : ChannelEffect call c c')
    (h : CleanTombstone c) : CleanTombstone c' := by
  have hlive : ∀ {d : Content V}, d.terminated = c.terminated → c.terminated = false →
      CleanTombstone d := fun hd hc => by
    constructor <;> (intro hterm; rw [hd, hc] at hterm; cases hterm)
  cases heff with
  | same => exact h
  | dropped s | left s =>
    refine ⟨fun ht => ?_, h.messageBuffer, fun ht => ?_, h.publicKey⟩
    · simp [Content.without, h.participants ht, JsMap.delete, JsMap.empty]
    · simp [Content.without, h.seqNumbers ht, JsMap.delete, JsMap.empty]
  | joined _ _ s t _ _ key _ _ hc =>
    refine hlive ?_ hc
    unfold Content.joined
    cases sameRoleSocket c.participants s t <;> rfl
  | closed => exact ⟨fun _ => rfl, fun _ => rfl, fun _ => rfl, fun _ => rfl⟩
  | touched hc | noted _ _ hc | buffered _ _ hc => exact hlive rfl hc
  | promoted _ t =>
    refine ⟨h.participants, fun ht => ?_, h.seqNumbers, h.publicKey⟩
    simp [Content.promoted, h.messageBuffer ht]
  | swept =>
    refine ⟨h.participants, fun ht => ?_, h.seqNumbers, h.publicKey⟩
    simp [Content.swept, h.messageBuffer ht]

/-- A participant that stays keeps its role. -/
theorem ChannelEffect.clientType_eq {call : Call V} {c c' : Content V}
    (heff : ChannelEffect call c c')
    {s : SocketId} {p p' : Participant} (hp : c.participants.get? s = some p)
    (hp' : c'.participants.get? s = some p') : p'.clientType = p.clientType := by
  have hdelete : ∀ e, (c.participants.delete e).get? s = some p' → p' = p := by
    intro e h
    rw [JsMap.get?_delete] at h
    split at h
    · cases h
    · rw [hp] at h
      exact (Option.some.inj h).symm
  have hsame : c.participants.get? s = some p' → p' = p := fun h => by
    rw [hp] at h
    exact (Option.some.inj h).symm
  cases heff with
  | dropped e | left e => rw [hdelete e hp']
  | joined _ _ s₀ t _ _ key _ _ _ _ hrole =>
    rw [participants_joined, JsMap.get?_set] at hp'
    split at hp'
    next hs =>
      cases hp'
      exact (hrole p (hs ▸ hp)).symm
    next =>
      unfold withoutStale at hp'
      cases hst : sameRoleSocket c.participants s₀ t with
      | none => rw [hsame (by simpa [hst] using hp')]
      | some e => rw [hdelete e (by simpa [hst] using hp')]
  | closed => cases hp'
  | same | touched | noted | buffered | promoted | swept => rw [hsame hp']

/-- A tombstone stays one. -/
theorem ChannelEffect.terminated {call : Call V} {c c' : Content V} (heff : ChannelEffect call c c')
    (h : c.terminated = true) : c'.terminated = true := by
  cases heff with
  | closed => rfl
  | joined _ _ _ _ _ _ _ _ _ hlive => rw [h] at hlive; cases hlive
  | same | dropped | left | touched | noted | buffered | promoted | swept => exact h

namespace ChannelManager

theorem roleExclusive_after (cfg : Config) (cap : Option ℕ) (calls : List (Call V))
    (r : ChannelRef) : RoleExclusive ((after cfg cap calls).content r).participants := by
  have hinv := @channel_invariant V _ fun c => RoleExclusive c.participants
  exact hinv (fun _ _ => roleExclusive_empty) (fun _ _ _ h heff => heff.roleExclusive h) cfg cap
    calls r

theorem cleanTombstone_after (cfg : Config) (cap : Option ℕ) (calls : List (Call V))
    (r : ChannelRef) : CleanTombstone ((after cfg cap calls).content r) := by
  refine channel_invariant (fun _ _ => ?_) (fun _ _ _ h heff => heff.cleanTombstone h) cfg cap
    calls r
  constructor <;> (intro hterm; cases hterm)

end ChannelManager

/-! ## What role exclusivity gives -/

omit [Unknown V] in
/-- Of two participants one is the counterparty of the other, in the other role. -/
theorem RoleExclusive.counterparty_clientType {participants : JsMap SocketId Participant}
    (h : RoleExclusive participants) {s target : SocketId} {p q : Participant}
    (hp : participants.get? s = some p) (ht : counterparty participants s = some target)
    (hq : participants.get? target = some q) : q.clientType = p.clientType.other := by
  refine ClientType.eq_other_of_ne fun hpq => ?_
  exact (counterparty_some ht).1 (h target s q p hq hp hpq)

omit [Unknown V] in
/-- If everybody but `s` has the other role, there is at most one such participant. -/
theorem RoleExclusive.size_delete_le_one {participants : JsMap SocketId Participant}
    (h : RoleExclusive participants) {s : SocketId} {t : ClientType}
    (hother : ∀ e p, participants.get? e = some p → e ≠ s → p.clientType ≠ t) :
    (participants.delete s).size ≤ 1 := by
  refine JsMap.size_le_one fun a b ha hb => ?_
  rw [JsMap.has_iff_mem_keys, JsMap.mem_keys] at ha hb
  obtain ⟨p, hp⟩ := ha
  obtain ⟨q, hq⟩ := hb
  rw [JsMap.get?_delete] at hp hq
  split at hp
  · cases hp
  next has =>
    split at hq
    · cases hq
    next hbs =>
      refine h a b p q hp hq ?_
      rw [ClientType.eq_other_of_ne (hother a p hp has),
        ClientType.eq_other_of_ne (hother b q hq hbs)]

/-- What the capacity check of a join answers. -/
def channelFull : String := "Channel is full (max 2 participants)"

namespace ChannelManager

omit [Unknown V] in
/-- With the stale socket gone there is room. -/
theorem bindAndAdmit_ne_full (now : ℕ) {m : ChannelManager V} {r : ChannelRef} {s : SocketId}
    {t : ClientType} (key : Option String) (h : RoleExclusive (m.content r).participants)
    (hother : ∀ e p, (m.content r).participants.get? e = some p → e ≠ s → p.clientType ≠ t) :
    (bindAndAdmit now m r s t key).1 ≠ .failure channelFull := by
  unfold bindAndAdmit
  dsimp only
  split
  next hfull =>
    simp only [Bool.and_eq_true, Bool.not_eq_true', decide_eq_true_eq] at hfull
    obtain ⟨habsent, hsize⟩ := hfull
    have htwo : maxParticipants = 2 := rfl
    have hsame : (m.channel r).participants.delete s = (m.channel r).participants := by
      refine JsMap.ext (List.filter_eq_self.2 fun e he => ?_)
      have hs : s ∉ (m.channel r).participants.keys := (JsMap.has_eq_false_iff _ _).1 habsent
      have : e.1 ≠ s := fun hes => hs (List.mem_map.2 ⟨e, he, hes⟩)
      simpa using this
    have hle : ((m.channel r).participants.delete s).size ≤ 1 := h.size_delete_le_one hother
    rw [hsame] at hle
    omega
  next =>
    split
    · simp [addParticipant]
    · simp [addParticipant]
    · split
      · simp [channelFull]
      · simp [addParticipant]

omit [Unknown V] in
theorem joinChannel_ne_full (isSocketActive : SocketId → Bool) (now : ℕ) {m : ChannelManager V}
    {r : ChannelRef} (s : SocketId) (t : ClientType) (key : Option String)
    (h : RoleExclusive (m.content r).participants) :
    (joinChannel isSocketActive now m r s t key).1 ≠ .failure channelFull := by
  unfold joinChannel
  dsimp only
  split
  · simp [channelFull]
  split
  · simp [channelFull]
  split
  next e hst =>
    split
    · cases t <;> simp [channelFull, ClientType.text]
    · have hst : sameRoleSocket (m.content r).participants s t = some e := hst
      have hdrop : ((m.dropStale r e).content r).participants =
          withoutStale (m.content r).participants s t := by
        rw [content_dropStale, if_pos rfl, withoutStale, hst]
        rfl
      refine bindAndAdmit_ne_full now key ?_ fun x p hp hx => ?_
      · rw [hdrop]
        exact h.withoutStale s t
      · rw [hdrop] at hp
        exact h.withoutStale_ne hp hx
  next hst =>
    exact bindAndAdmit_ne_full now key h fun x p hp hx => sameRoleSocket_none hst hp hx

omit [Unknown V] in
/-- The capacity check refuses no join. -/
theorem join_ne_full (isSocketActive : SocketId → Bool) (now : ℕ) {m : ChannelManager V}
    (channelId : String) (s : SocketId) (t : ClientType) (publicKey creatorIp : Option String)
    (h : ∀ r, RoleExclusive (m.content r).participants) :
    (join isSocketActive now m channelId s t publicKey creatorIp).1 ≠ .failure channelFull := by
  have hkey : canonicalPublicKey t publicKey ≠ .error channelFull := by
    unfold canonicalPublicKey
    split
    · split
      · simp
      split
      · simp [channelFull]
      dsimp only
      split
      · simp [channelFull]
      split
      · simp [channelFull]
      · simp
    · simp
  unfold join
  split
  next error herror =>
    intro hfull
    rw [JoinResult.failure.injEq] at hfull
    exact hkey (hfull ▸ herror)
  next key _ =>
    split
    next r _ =>
      split
      · simp
      · exact joinChannel_ne_full isSocketActive now s t key (h r)
    next =>
      split
      · simp [channelFull]
      · refine joinChannel_ne_full isSocketActive now s t key ?_
        have hfresh : (m.createChannel now channelId creatorIp).channel m.objects.next =
            .fresh now creatorIp := m.objects.get_alloc_next _
        rw [content, hfresh]
        exact roleExclusive_empty

/-- What a call must respect in the channels that exist. -/
structure RespectsMembers (cfg : Config) (m : ChannelManager V) (c : Call V) : Prop where
  role : ∀ r < m.objects.next, ∀ s p p', (m.content r).participants.get? s = some p →
    ((c.step cfg m).content r).participants.get? s = some p' → p'.clientType = p.clientType
  /-- A join keeps every active participant, and touches only its own record. -/
  active : ∀ isSocketActive channelId s t publicKey creatorIp,
    c.op = .join isSocketActive channelId s t publicKey creatorIp →
    ∀ r < m.objects.next, ∀ e p, isSocketActive e = true →
      (m.content r).participants.get? e = some p →
      ∃ p', ((c.step cfg m).content r).participants.get? e = some p' ∧ (e ≠ s → p' = p)
  tombstone : ∀ r < m.objects.next, (m.content r).terminated = true →
    ((c.step cfg m).content r).terminated = true
  /-- An id leaves its tombstone only by losing its entry. -/
  entry : ∀ channelId r, m.channels.get? channelId = some r → (m.content r).terminated = true →
    (c.step cfg m).channels.get? channelId = some r ∨
      (c.step cfg m).channels.get? channelId = none
  notFull : c.outcome cfg m ≠ .joined (.failure channelFull)
  roster : ∀ isSocketActive channelId s t publicKey creatorIp bufferedMessages key participants
    terminated, c.op = .join isSocketActive channelId s t publicKey creatorIp →
    c.outcome cfg m = .joined (.success bufferedMessages key participants terminated) →
    participants.length ≤ 1 ∧ ∀ u ∈ participants, u = t.other

omit [Unknown V] in
/-- The roster of a join names at most the one participant of the other role. -/
theorem rosterFor_joined {c : Content V} (h : RoleExclusive c.participants) (now : ℕ)
    (s : SocketId) (t : ClientType) (key : Option String) :
    ((c.joined now s t key (sameRoleSocket c.participants s t)).rosterFor s).length ≤ 1 ∧
      ∀ u ∈ (c.joined now s t key (sameRoleSocket c.participants s t)).rosterFor s,
        u = t.other := by
  set d := c.joined now s t key (sameRoleSocket c.participants s t) with hd
  have hexcl : RoleExclusive d.participants := h.joined now s t key
  have hother : ∀ e p, d.participants.get? e = some p → e ≠ s → p.clientType ≠ t := by
    intro e p hp he
    rw [hd, participants_joined, JsMap.get?_set, if_neg he] at hp
    exact h.withoutStale_ne hp he
  have hroster : d.rosterFor s = (d.participants.delete s).entries.map (·.2.clientType) := rfl
  rw [hroster]
  constructor
  · rw [List.length_map]
    exact hexcl.size_delete_le_one hother
  · intro u hu
    obtain ⟨⟨e, p⟩, he, rfl⟩ := List.mem_map.1 hu
    rw [JsMap.mem_entries, JsMap.get?_delete] at he
    split at he
    · cases he
    next hes => exact ClientType.eq_other_of_ne (hother e p he hes)

theorem respectsMembers (cfg : Config) {m : ChannelManager V} (c : Call V)
    (h : ∀ r, RoleExclusive (m.content r).participants) : RespectsMembers cfg m c where
  role r hr s p p' hp hp' := by
    cases step_cell cfg m c r with
    | moved heff => exact heff.clientType_eq hp hp'
    | created _ hnext => exact absurd hr (hnext ▸ lt_irrefl _)
  active isSocketActive channelId s t publicKey creatorIp hop r hr e p hact hp := by
    obtain ⟨now, op⟩ := c
    subst hop
    unfold Call.step Call.perform
    have hout := join_outcome isSocketActive now m channelId s t publicKey creatorIp
    dsimp only
    generalize join isSocketActive now m channelId s t publicKey creatorIp = out at hout ⊢
    obtain ⟨res, m'⟩ := out
    cases hout with
    | refused => exact ⟨p, hp, fun _ => rfl⟩
    | tombstone => exact ⟨p, hp, fun _ => rfl⟩
    | refusedAfterStale _ r₀ x hget hlive hstale hinactive =>
      refine ⟨p, ?_, fun _ => rfl⟩
      change ((m.dropStale r₀ x).content r).participants.get? e = some p
      rw [content_dropStale]
      split
      next hr₀ =>
        have hex : e ≠ x := fun hex => by rw [hex, hinactive] at hact; cases hact
        rw [Content.without, JsMap.get?_delete_of_ne _ hex, ← hr₀, hp]
      next => exact hp
    | admitted r₀ c key stale hslot hkey hlive hbound hrole hstale hinactive hcontent =>
      subst hstale
      by_cases hr₀ : r = r₀
      · have hc : c = m.content r := by
          cases hslot with
          | existing => rw [hr₀]
          | created => exact absurd hr (hr₀ ▸ lt_irrefl _)
        rw [hcontent, if_pos hr₀, participants_joined, JsMap.get?_set, hc]
        split
        next hes => exact ⟨_, rfl, fun hne => absurd hes hne⟩
        next hes =>
          refine ⟨p, ?_, fun _ => rfl⟩
          unfold withoutStale
          cases hst : sameRoleSocket (m.content r).participants s t with
          | none => exact hp
          | some x =>
            have hex : e ≠ x := fun hex => by
              rw [hex, hinactive x (hc ▸ hst)] at hact
              cases hact
            rw [Option.elim_some, JsMap.get?_delete_of_ne _ hex, hp]
      · rw [hcontent, if_neg hr₀]
        exact ⟨p, hp, fun _ => rfl⟩
  tombstone r hr hterm := by
    cases step_cell cfg m c r with
    | moved heff => exact heff.terminated hterm
    | created _ hnext => exact absurd hr (hnext ▸ lt_irrefl _)
  entry channelId r hget _ := by
    cases step_entry cfg m c channelId with
    | kept hkept => exact .inl (hkept.trans hget)
    | created hnone => rw [hnone] at hget; cases hget
    | removed _ _ hgone => exact .inr hgone
  notFull hfull := by
    obtain ⟨now, op⟩ := c
    unfold Call.outcome Call.perform at hfull
    cases op with
    | join isSocketActive channelId s t publicKey creatorIp =>
      exact join_ne_full isSocketActive now channelId s t publicKey creatorIp h
        (Outcome.joined.inj hfull)
    | leave | close | routeMessage | releaseDirectDelivery | advanceDirectDelivery | cleanup =>
      cases hfull
  roster isSocketActive channelId s t publicKey creatorIp bm key participants term hop hsucc := by
    obtain ⟨now, op⟩ := c
    subst hop
    unfold Call.outcome Call.perform at hsucc
    have hout := join_outcome isSocketActive now m channelId s t publicKey creatorIp
    dsimp only at hsucc
    generalize join isSocketActive now m channelId s t publicKey creatorIp = out at hout hsucc
    obtain ⟨res, m'⟩ := out
    have hsucc := Outcome.joined.inj hsucc
    cases hout with
    | refused => cases hsucc
    | refusedAfterStale => cases hsucc
    | tombstone =>
      cases hsucc
      simp
    | admitted r₀ c key stale hslot _ _ _ _ hstale _ _ _ _ hres =>
      have hc : RoleExclusive c.participants := by
        cases hslot with
        | existing => exact h r₀
        | created => exact roleExclusive_empty
      rw [show res = _ from hres] at hsucc
      obtain ⟨-, -, rfl, -⟩ := JoinResult.success.inj hsucc
      rw [← hstale]
      exact rosterFor_joined hc now s t key

/-- Every channel of every run has at most one participant of each role, tombstones are
empty, and every call respects the members it finds. -/
theorem role_exclusive_membership (cfg : Config) (cap : Option ℕ) (calls : List (Call V)) :
    (∀ r, RoleExclusive ((after cfg cap calls).content r).participants) ∧
    (∀ r, CleanTombstone ((after cfg cap calls).content r)) ∧
    ∀ c, RespectsMembers cfg (after cfg cap calls) c :=
  ⟨roleExclusive_after cfg cap calls, cleanTombstone_after cfg cap calls,
    fun c => respectsMembers cfg c (roleExclusive_after cfg cap calls)⟩

end ChannelManager

end QrlBackend
