import QrlBackend.Roles

/-!
# Refused calls

What a refused call of the channel manager changes. `join` validates before it writes, with
one exception : a key that does not match the bound one is refused after the stale
participant it would replace is gone (`refusesAfterStale`), so a refused join changes
nothing if and only if that is not its case (`failed_join_unchanged_iff`). A refused
`routeMessage` writes the time of the last activity at most (`routeMessage_refused`).
-/

set_option autoImplicit false

namespace QrlBackend

variable {V : Type}

namespace ChannelManager

/-! ## Refused joins -/

/-- The requested role of a live channel is held by another socket that is gone, and the
channel is bound to another key. -/
def refusesAfterStale (isSocketActive : SocketId → Bool) (m : ChannelManager V)
    (channelId : String) (s : SocketId) (t : ClientType) (publicKeyBase64 : Option String) : Bool :=
  match canonicalPublicKey t publicKeyBase64, m.channels.get? channelId with
  | .ok (some key), some r =>
    !(m.channel r).terminated && (m.channel r).publicKey.any (· ≠ key) &&
      !((m.channel r).participants.get? s).any (·.clientType ≠ t) &&
      (sameRoleSocket (m.channel r).participants s t).any (!isSocketActive ·)
  | _, _ => false

section Refused

variable {isSocketActive : SocketId → Bool} {now : ℕ} {m : ChannelManager V} {r : ChannelRef}
  {s : SocketId} {t : ClientType} {key : Option String} {error : String}

/-- The capacity check and the key check write nothing. -/
theorem bindAndAdmit_failure (h : (bindAndAdmit now m r s t key).1 = .failure error) :
    (bindAndAdmit now m r s t key).2 = m ∧ (error = channelFull ∨
      ∃ k bound, key = some k ∧ (m.channel r).publicKey = some bound ∧ bound ≠ k) := by
  unfold bindAndAdmit at h ⊢
  dsimp only at h ⊢
  split at h
  next hfull =>
    rw [if_pos hfull]
    cases h
    exact ⟨rfl, .inl rfl⟩
  next hfull =>
    rw [if_neg hfull]
    split at h
    · cases h
    · cases h
    next k bound hkey =>
      split at h
      next hne => exact ⟨if_pos hne ▸ rfl, .inr ⟨k, bound, rfl, hkey, hne⟩⟩
      next => cases h

/-- With room in the channel, a join that is refused writes nothing or drops a stale
participant before its key is refused. -/
theorem joinChannel_failure (h : (joinChannel isSocketActive now m r s t key).1 = .failure error)
    (hroom : error ≠ channelFull) : (joinChannel isSocketActive now m r s t key).2 = m ∨
      ∃ k bound e, key = some k ∧ (m.channel r).publicKey = some bound ∧ bound ≠ k ∧
        ((m.channel r).participants.get? s).any (·.clientType ≠ t) = false ∧
        sameRoleSocket (m.channel r).participants s t = some e ∧ isSocketActive e = false := by
  unfold joinChannel at h ⊢
  dsimp only at h ⊢
  split at h
  next hneed => exact .inl (if_pos hneed ▸ rfl)
  next hneed =>
    rw [if_neg hneed]
    split at h
    next hrole => exact .inl (if_pos hrole ▸ rfl)
    next hrole =>
      rw [if_neg hrole]
      cases hst : sameRoleSocket (m.channel r).participants s t with
      | none =>
        rw [hst] at h
        exact .inl (bindAndAdmit_failure h).1
      | some e =>
        rw [hst] at h
        dsimp only at h ⊢
        split at h
        next hactive => exact .inl (if_pos hactive ▸ rfl)
        next hactive =>
          rcases (bindAndAdmit_failure h).2 with hfull | ⟨k, bound, hkey, hbound, hne⟩
          · exact absurd hfull hroom
          · have hsame := congrArg Content.publicKey (m.content_dropStale r e r)
            rw [if_pos rfl] at hsame
            exact .inr ⟨k, bound, e, hkey, hsame.symm.trans hbound, hne, eq_false_of_ne_true hrole,
              rfl, eq_false_of_ne_true hactive⟩

/-- Dropping a participant is a change. -/
theorem dropStale_ne {e : SocketId} (hst : sameRoleSocket (m.channel r).participants s t = some e) :
    m.dropStale r e ≠ m := by
  intro hsame
  obtain ⟨-, p, hp, -⟩ := sameRoleSocket_some hst
  have hgone := m.content_dropStale r e r
  rw [hsame, if_pos rfl] at hgone
  have hp' : (m.content r).participants.get? e = some p := hp
  rw [hgone, Content.without, JsMap.get?_delete_self] at hp'
  cases hp'

theorem join_of_refusesAfterStale {channelId : String} {publicKey creatorIp : Option String}
    (h : m.refusesAfterStale isSocketActive channelId s t publicKey = true) :
    (∃ error, (join isSocketActive now m channelId s t publicKey creatorIp).1 = .failure error) ∧
      (join isSocketActive now m channelId s t publicKey creatorIp).2 ≠ m := by
  unfold refusesAfterStale at h
  split at h
  next k r hkey hget =>
    simp only [Bool.and_eq_true, Bool.not_eq_true', Option.any_eq_true, decide_eq_true_eq] at h
    obtain ⟨⟨⟨hlive, bound, hbound, hne⟩, hrole⟩, e, hst, hinactive⟩ := h
    have hjoin : join isSocketActive now m channelId s t publicKey creatorIp =
        bindAndAdmit now (m.dropStale r e) r s t (some k) := by
      unfold join joinChannel
      rw [hkey, hget]
      dsimp only
      rw [if_neg (by simp [hlive]), if_neg (by simp), hrole, if_neg Bool.false_ne_true, hst]
      dsimp only
      rw [if_neg (by simp [hinactive])]
    have hkept : ((m.dropStale r e).channel r).publicKey = some bound := by
      have hsame := congrArg Content.publicKey (m.content_dropStale r e r)
      rw [if_pos rfl] at hsame
      exact hsame.trans hbound
    rw [hjoin]
    unfold bindAndAdmit
    dsimp only
    split
    · exact ⟨⟨_, rfl⟩, dropStale_ne hst⟩
    · rw [hkept]
      dsimp only
      rw [if_pos hne]
      exact ⟨⟨_, rfl⟩, dropStale_ne hst⟩
  next => cases h

/-- In a state with exclusive roles, a refused join changes nothing unless its key is refused
after the stale participant is gone. -/
theorem join_failure {channelId : String} {publicKey creatorIp : Option String}
    (hexclusive : ∀ r, RoleExclusive (m.content r).participants)
    (h : (join isSocketActive now m channelId s t publicKey creatorIp).1 = .failure error)
    (hguard : m.refusesAfterStale isSocketActive channelId s t publicKey = false) :
    (join isSocketActive now m channelId s t publicKey creatorIp).2 = m := by
  have hroom : error ≠ channelFull := by
    rintro rfl
    exact join_ne_full isSocketActive now channelId s t publicKey creatorIp hexclusive h
  unfold join at h ⊢
  cases hkey : canonicalPublicKey t publicKey with
  | error error => rfl
  | ok key =>
    rw [hkey] at h
    dsimp only at h ⊢
    cases hget : m.channels.get? channelId with
    | some r =>
      rw [hget] at h
      dsimp only at h ⊢
      split at h
      next => cases h
      next hlive =>
        rw [if_neg hlive]
        refine (joinChannel_failure h hroom).resolve_right ?_
        rintro ⟨k, bound, e, rfl, hbound, hne, hrole, hst, hinactive⟩
        have hlate : m.refusesAfterStale isSocketActive channelId s t publicKey = true := by
          unfold refusesAfterStale
          rw [hkey, hget]
          dsimp only
          rw [eq_false_of_ne_true hlive, hbound, hrole, hst]
          simp [hne, hinactive]
        rw [hguard] at hlate
        cases hlate
    | none =>
      rw [hget] at h
      dsimp only at h ⊢
      split at h
      next hcap => rw [if_pos hcap]
      next =>
        have hfresh : (m.createChannel now channelId creatorIp).channel m.objects.next =
            .fresh now creatorIp := m.objects.get_alloc_next _
        obtain ⟨_, _, _, _, hsuccess⟩ := joinChannel_fresh isSocketActive now s t key hfresh
        rw [hsuccess] at h
        cases h

end Refused

/-- A refused join of a reachable manager changes nothing if and only if it is not one whose
key is refused after the stale participant is gone. -/
theorem failed_join_unchanged_iff [Unknown V] (cfg : Config) (cap : Option ℕ)
    (calls : List (Call V)) (isSocketActive : SocketId → Bool) (now : ℕ) (channelId : String)
    (s : SocketId) (t : ClientType) (publicKey creatorIp : Option String) :
    (∀ error, (join isSocketActive now (after cfg cap calls) channelId s t publicKey creatorIp).1 =
        .failure error →
      (join isSocketActive now (after cfg cap calls) channelId s t publicKey creatorIp).2 =
        after cfg cap calls) ↔
      (after cfg cap calls).refusesAfterStale isSocketActive channelId s t publicKey = false := by
  constructor
  · intro hsame
    by_contra hlate
    obtain ⟨⟨error, hres⟩, hchanged⟩ := @join_of_refusesAfterStale V isSocketActive now
      (after cfg cap calls) s t channelId publicKey creatorIp (eq_true_of_ne_false hlate)
    exact hchanged (hsame error hres)
  · exact fun hguard error hres => join_failure (roleExclusive_after cfg cap calls) hres hguard

/-- A dapp joins "c" with a key. -/
def dappJoined : List (Call String) :=
  [⟨0, .join (fun _ => true) "c" 1 .dapp (some "QQ==") none⟩]

/-- Its socket is gone, and a join with another key is refused, but the dapp is out. -/
theorem failed_join_drops :
    ¬∀ error, (join (fun _ => false) 1 (after .unset none dappJoined) "c" 2 .dapp (some "QUE=")
        none).1 = .failure error →
      (join (fun _ => false) 1 (after .unset none dappJoined) "c" 2 .dapp (some "QUE=") none).2 =
        after .unset none dappJoined := by
  intro hsame
  obtain ⟨⟨error, hres⟩, hchanged⟩ := @join_of_refusesAfterStale String (fun _ => false) 1
    (after .unset none dappJoined) 2 .dapp "c" (some "QUE=") none (by decide)
  exact hchanged (hsame error hres)

/-! ## Refused messages -/

/-- The managers differ in the time of the last activity of a channel at most. -/
def SameButActivity (m m' : ChannelManager V) : Prop :=
  m' = m ∨ ∃ r now, m' = m.modifyChannel r fun c => { c with lastActivity := now }

/-- A sequence number is as good after as before. -/
theorem SameButActivity.replays_eq {m m' : ChannelManager V} (h : SameButActivity m m')
    (r : ChannelRef) (s : SocketId) (seq : Option ℤ) :
    replays (m'.channel r).seqNumbers s seq = replays (m.channel r).seqNumbers s seq := by
  rcases h with rfl | ⟨r', now, rfl⟩
  · rfl
  · rw [channel_modifyChannel]
    split
    next hr => rw [hr]
    next => rfl

theorem bufferMessage_refused {cfg : Config} {now : ℕ} {m : ChannelManager V} {r : ChannelRef}
    {sender : Participant} {s : SocketId} {data : RelayPayload V} {sourceIp : String}
    {sizeBytes : ℕ} {target : Option SocketId}
    (h : (bufferMessage cfg now m r sender s data sourceIp sizeBytes target).1.error ≠ none) :
    (bufferMessage cfg now m r sender s data sourceIp sizeBytes target).2 = m := by
  unfold bufferMessage at h ⊢
  dsimp only at h ⊢
  split at h
  next => rfl
  next => exact absurd rfl h

theorem deliverMessage_refused {cfg : Config} {canSocketReceive : SocketId → Bool} {now : ℕ}
    {m : ChannelManager V} {r : ChannelRef} {sender : Participant} {s : SocketId}
    {data : RelayPayload V} {sourceIp : String} {sizeBytes : ℕ}
    (h : (deliverMessage cfg canSocketReceive now m r sender s data sourceIp sizeBytes).1.error ≠
      none) :
    (deliverMessage cfg canSocketReceive now m r sender s data sourceIp sizeBytes).2 = m := by
  unfold deliverMessage at h ⊢
  split at h
  next htarget => exact bufferMessage_refused h
  next target htarget =>
    split at h
    next => exact absurd rfl h
    next hadmits =>
      rw [if_neg hadmits]
      exact bufferMessage_refused h

theorem routeMessage_refused [Unknown V] {cfg : Config} {canSocketReceive : SocketId → Bool}
    {now bufferedAt : ℕ} {m : ChannelManager V} {channelId : String} {s : SocketId}
    {data : RelayPayload V} {sourceIp : String}
    (h : (routeMessage cfg canSocketReceive now bufferedAt m channelId s data
      sourceIp).1.error ≠ none) :
    SameButActivity m
      (routeMessage cfg canSocketReceive now bufferedAt m channelId s data sourceIp).2 := by
  unfold routeMessage at h ⊢
  split
  · exact .inl rfl
  next r hget =>
    split
    · exact .inl rfl
    next hlive =>
      split
      · exact .inl rfl
      next sender hsender =>
        split
        · exact .inl rfl
        next htype =>
          refine .inr ⟨r, now, ?_⟩
          dsimp only
          split
          · rfl
          next hseq =>
            split
            · rfl
            next sizeBytes hsize =>
              rw [hget] at h
              dsimp only at h
              rw [if_neg hlive, hsender] at h
              dsimp only at h
              rw [if_neg htype, if_neg hseq, hsize] at h
              exact deliverMessage_refused h

end ChannelManager

end QrlBackend
