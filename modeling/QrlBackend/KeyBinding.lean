import QrlBackend.Roles

/-!
# The key a channel is bound to

The first dApp join that presents a key binds it to its channel, and only `close` unbinds
it. The bound text is canonical base64, so a later dApp join is admitted exactly if the
text it presents decodes to the same bytes, and a wallet is served the bound text.

`key_binding` says this of every run. Its hardest part looks back : every dApp participant
of a bound channel presented the key at its latest admitted join (`latestJoin`). A dApp
that joined before the key was bound loses its place to the one that binds it, because a
channel has one place for a dApp.
-/

set_option autoImplicit false

namespace QrlBackend

variable {V : Type}

open ChannelManager

/-- The text is base64 of the bytes the bound key stands for. -/
def Presents (publicKey : Option String) (bound : String) : Prop :=
  ∃ text, publicKey = some text ∧ isBase64Text text = true ∧
    Base64.decode text.toList = Base64.decode bound.toList

/-- The text is the base64 form `Buffer.toString` writes. -/
def IsCanonical (bound : String) : Prop :=
  bound = String.ofList (Base64.encode (Base64.decode bound.toList))

/-- A key that passes the checks is canonical, and was presented. -/
theorem canonicalPublicKey_some {t : ClientType} {publicKey : Option String} {key : String}
    (h : canonicalPublicKey t publicKey = .ok (some key)) :
    Presents publicKey key ∧ IsCanonical key := by
  unfold canonicalPublicKey at h
  split at h
  next text =>
    split at h
    · cases h
    split at h
    · cases h
    next hbase64 =>
    dsimp only at h
    split at h
    · cases h
    split at h
    · cases h
    cases h
    have hdecode :
        Base64.decode (String.ofList (Base64.encode (Base64.decode text.toList))).toList =
        Base64.decode text.toList := by
      rw [String.toList_ofList, Base64.decode_encode]
    refine ⟨⟨text, rfl, by simpa using hbase64, hdecode.symm⟩, ?_⟩
    rw [IsCanonical, hdecode]
  next => cases h

/-! ## What a call does to a key -/

variable [Unknown V]

/-- A call other than a join keeps the key or removes it, and admits nobody. -/
theorem ChannelEffect.key_kept {call : Call V} {c c' : Content V} (heff : ChannelEffect call c c')
    (hnot : ∀ active id s t publicKey creatorIp,
      call.op ≠ .join active id s t publicKey creatorIp) :
    (c'.publicKey = c.publicKey ∨ c'.publicKey = none) ∧
      ∀ s p, c'.participants.get? s = some p → c.participants.get? s = some p := by
  have hdelete : ∀ e s p, (c.participants.delete e).get? s = some p →
      c.participants.get? s = some p := by
    intro e s p hp
    rw [JsMap.get?_delete] at hp
    split at hp
    · cases hp
    · exact hp
  cases heff with
  | dropped e | left e => exact ⟨.inl rfl, hdelete e⟩
  | joined _ _ _ _ _ _ _ hop => exact absurd hop (hnot _ _ _ _ _ _)
  | closed => exact ⟨.inr rfl, fun _ _ hp => by cases hp⟩
  | same | touched | noted | buffered | promoted | swept => exact ⟨.inl rfl, fun _ _ hp => hp⟩

/-- Every effect but a close keeps a bound key. -/
theorem ChannelEffect.key_stable {call : Call V} {c c' : Content V} (heff : ChannelEffect call c c')
    {bound : String} (h : c.publicKey = some bound) : c'.publicKey = some bound ∨
      (∃ channelId, call.op = .close channelId) ∧ c'.terminated = true := by
  cases heff with
  | closed channelId hop => exact .inr ⟨⟨channelId, hop⟩, rfl⟩
  | joined =>
    left
    unfold Content.joined
    cases sameRoleSocket c.participants _ _ <;> simp [Content.without, h]
  | same | dropped | left | touched | noted | buffered | promoted | swept => exact .inl h

/-- Every effect keeps the keys canonical. -/
theorem ChannelEffect.canonical {call : Call V} {c c' : Content V} (heff : ChannelEffect call c c')
    (h : ∀ bound, c.publicKey = some bound → IsCanonical bound) :
    ∀ bound, c'.publicKey = some bound → IsCanonical bound := by
  cases heff with
  | closed => exact fun _ hb => by cases hb
  | joined active id s t publicKey creatorIp key hop hkey =>
    intro bound hb
    have hor : c.publicKey.or key = some bound := by
      rw [← hb]
      unfold Content.joined
      cases sameRoleSocket c.participants s t <;> rfl
    cases hpk : c.publicKey with
    | some b =>
      rw [hpk, Option.some_or] at hor
      exact h bound (hpk.trans hor)
    | none =>
      rw [hpk, Option.none_or] at hor
      exact (canonicalPublicKey_some (hor ▸ hkey)).2
  | same | dropped | left | touched | noted | buffered | promoted | swept => exact h

namespace Call

/-- The key text a join presents. -/
def presented (c : Call V) : Option String :=
  match c.op with
  | .join _ _ _ _ publicKey _ => publicKey
  | _ => none

/-- The call is a join that admits the socket to the channel. -/
def admits (cfg : Config) (r : ChannelRef) (s : SocketId) (m : ChannelManager V) (c : Call V) :
    Bool :=
  match c.op, c.outcome cfg m with
  | .join _ channelId s' _ _ _, .joined (.success _ _ _ false) =>
    s' = s && (c.step cfg m).channels.get? channelId = some r
  | _, _ => false

end Call

namespace ChannelManager

/-- The latest join of a run that admitted the socket to the channel. -/
def latestJoin (cfg : Config) (cap : Option ℕ) (calls : List (Call V)) (r : ChannelRef)
    (s : SocketId) : Option (Call V) :=
  Runs.latest? (Call.step cfg) (Call.admits cfg r s) (new cap) calls

/-- What an admitting join does to the channel its id names afterwards, `before` being
the channel it found or created. -/
structure Admission (cfg : Config) (m : ChannelManager V) (c : Call V) (channelId : String)
    (s : SocketId) (t : ClientType) (publicKey served : Option String) (r : ChannelRef)
    (before : Content V) (key : Option String) : Prop where
  get : (c.step cfg m).channels.get? channelId = some r
  found : before = m.content r ∨ r = m.objects.next ∧ before.publicKey = none
  checked : canonicalPublicKey t publicKey = .ok key
  bound : t = .dapp → ∀ bound, before.publicKey = some bound → key = some bound
  content : ∀ r', (c.step cfg m).content r' = if r' = r then
    before.joined c.now s t key (sameRoleSocket before.participants s t) else m.content r'
  served : served = before.publicKey.or key

omit [Unknown V] in
theorem publicKey_joined (c : Content V) (now : ℕ) (s : SocketId) (t : ClientType)
    (key : Option String) :
    (c.joined now s t key (sameRoleSocket c.participants s t)).publicKey = c.publicKey.or key := by
  unfold Content.joined
  cases sameRoleSocket c.participants s t <;> rfl

/-- A join that answers with success, and not with a tombstone, is an admission. -/
theorem admission_of_success (cfg : Config) {m : ChannelManager V} {c : Call V}
    {active : SocketId → Bool} {channelId : String} {s : SocketId} {t : ClientType}
    {publicKey creatorIp : Option String} {messages : List (RelayPayload V)}
    {served : Option String} {roster : List ClientType}
    (hop : c.op = .join active channelId s t publicKey creatorIp)
    (hsucc : c.outcome cfg m = .joined (.success messages served roster false)) :
    ∃ r before key, Admission cfg m c channelId s t publicKey served r before key := by
  obtain ⟨now, op⟩ := c
  subst hop
  have hout := join_outcome active now m channelId s t publicKey creatorIp
  have hstep : Call.step cfg m ⟨now, .join active channelId s t publicKey creatorIp⟩ =
      (join active now m channelId s t publicKey creatorIp).2 := rfl
  have hres : (join active now m channelId s t publicKey creatorIp).1 =
      .success messages served roster false := Outcome.joined.inj hsucc
  generalize join active now m channelId s t publicKey creatorIp = out at hout hstep hres
  obtain ⟨res, m'⟩ := out
  dsimp only at hout hstep hres
  cases hout with
  | refused | refusedAfterStale | tombstone => cases hres
  | admitted r before key stale hslot hkey _ hbound _ hstale _ hcontent _ _ hres' =>
    subst hstale
    rw [hres'] at hres
    obtain ⟨-, hserved, -, -⟩ := JoinResult.success.inj hres
    refine ⟨r, before, key, ?_, ?_, hkey, hbound, ?_, hserved.symm⟩
    · rw [hstep]
      cases hslot with
      | existing _ hget hch => rw [hch, hget]
      | created hget hch => rw [hch, JsMap.get?_set_self]
    · cases hslot with
      | existing => exact .inl rfl
      | created => exact .inr ⟨rfl, rfl⟩
    · rw [hstep]
      exact hcontent

/-- A join that does not admit changes no key and admits nobody. -/
theorem join_key_kept (cfg : Config) {m : ChannelManager V} {c : Call V}
    {active : SocketId → Bool} {channelId : String} {s : SocketId} {t : ClientType}
    {publicKey creatorIp : Option String}
    (hop : c.op = .join active channelId s t publicKey creatorIp)
    (hnot : ∀ messages served roster,
      c.outcome cfg m ≠ .joined (.success messages served roster false)) (r : ChannelRef) :
    ((c.step cfg m).content r).publicKey = (m.content r).publicKey ∧
      ∀ s p, ((c.step cfg m).content r).participants.get? s = some p →
        (m.content r).participants.get? s = some p := by
  obtain ⟨now, op⟩ := c
  subst hop
  have hout := join_outcome active now m channelId s t publicKey creatorIp
  have hstep : Call.step cfg m ⟨now, .join active channelId s t publicKey creatorIp⟩ =
      (join active now m channelId s t publicKey creatorIp).2 := rfl
  have hres : Call.outcome cfg m ⟨now, .join active channelId s t publicKey creatorIp⟩ =
      .joined (join active now m channelId s t publicKey creatorIp).1 := rfl
  rw [hstep]
  rw [hres] at hnot
  generalize join active now m channelId s t publicKey creatorIp = out at hout hnot
  obtain ⟨res, m'⟩ := out
  dsimp only at hout hnot ⊢
  cases hout with
  | refused => exact ⟨rfl, fun _ _ h => h⟩
  | tombstone => exact ⟨rfl, fun _ _ h => h⟩
  | refusedAfterStale _ r₀ e =>
    rw [content_dropStale]
    split
    next hr =>
      refine ⟨by rw [hr]; rfl, fun s' p hp => ?_⟩
      rw [Content.without, JsMap.get?_delete] at hp
      split at hp
      · cases hp
      · rw [hr, hp]
    next => exact ⟨rfl, fun _ _ h => h⟩
  | admitted _ _ _ _ _ _ _ _ _ _ _ _ _ _ hres' => exact absurd (congrArg _ hres') (hnot _ _ _)

/-! ## Runs -/

theorem canonical_after (cfg : Config) (cap : Option ℕ) (calls : List (Call V)) (r : ChannelRef) :
    ∀ bound, ((after cfg cap calls).content r).publicKey = some bound → IsCanonical bound := by
  have hinv := @channel_invariant V _ fun c => ∀ bound, c.publicKey = some bound → IsCanonical bound
  exact hinv (fun _ _ _ h => by cases h) (fun _ _ _ h heff => heff.canonical h) cfg cap calls r

section

variable {cfg : Config} {m : ChannelManager V} {c : Call V} {r : ChannelRef} {s : SocketId}
  {p : Participant} {bound : String}

/-- A dApp in a bound channel after an admission has just joined with the key, or was there
before, in a channel bound to it. -/
theorem Admission.presented {active : SocketId → Bool} {channelId : String} {s' : SocketId}
    {t : ClientType} {publicKey creatorIp served key : Option String} {r₀ : ChannelRef}
    {before : Content V} (h : Admission cfg m c channelId s' t publicKey served r₀ before key)
    (hop : c.op = .join active channelId s' t publicKey creatorIp)
    (hexcl : RoleExclusive ((c.step cfg m).content r).participants)
    (hpk : ((c.step cfg m).content r).publicKey = some bound)
    (hp : ((c.step cfg m).content r).participants.get? s = some p) (ht : p.clientType = .dapp) :
    (s' = s ∧ r₀ = r) ∧ Presents c.presented bound ∨
      ¬(s' = s ∧ r₀ = r) ∧ (m.content r).publicKey = some bound ∧
        (m.content r).participants.get? s = some p := by
  by_cases hr : r = r₀
  · subst hr
    rw [h.content, if_pos rfl] at hpk hp hexcl
    rw [publicKey_joined] at hpk
    by_cases hs : s' = s
    · subst hs
      rw [participants_joined, JsMap.get?_set_self, Option.some.injEq] at hp
      have htd : t = .dapp := by rw [← ht, ← hp]
      have hk : key = some bound := by
        cases hb : before.publicKey with
        | none => simpa [hb] using hpk
        | some b =>
          rw [hb, Option.some_or] at hpk
          rw [h.bound htd b hb, hpk]
      refine .inl ⟨⟨rfl, rfl⟩, ?_⟩
      have hpres := (canonicalPublicKey_some (hk ▸ h.checked)).1
      rwa [Call.presented, hop]
    · refine .inr ⟨fun hsame => hs hsame.1, ?_⟩
      -- the slot of a dApp is taken, so the join is a wallet's, and binds nothing
      have hself := hexcl s s' p ⟨t, c.now⟩ hp (by
        rw [participants_joined, JsMap.get?_set_self])
      have htw : t = .wallet := by
        cases t with
        | wallet => rfl
        | dapp => exact absurd (hself ht).symm hs
      have hnone : key = none := canonicalPublicKey_wallet (htw ▸ h.checked)
      rw [hnone, Option.or_none] at hpk
      rcases h.found with hb | ⟨-, hb⟩
      · rw [hb] at hpk hp
        refine ⟨hpk, ?_⟩
        rw [participants_joined, JsMap.get?_set_of_ne _ _ (Ne.symm hs)] at hp
        unfold withoutStale at hp
        cases hst : sameRoleSocket (m.content r).participants s' t with
        | none => simpa [hst] using hp
        | some e =>
          rw [hst, Option.elim_some, JsMap.get?_delete] at hp
          split at hp
          · cases hp
          · exact hp
      · rw [hb] at hpk
        cases hpk
  · rw [h.content, if_neg hr] at hpk hp
    exact .inr ⟨fun hsame => hr hsame.2.symm, hpk, hp⟩

/-- A dApp in a bound channel after a call was admitted by it with the key, or was there before,
in a channel bound to it. -/
theorem presented_step (hexcl : RoleExclusive ((c.step cfg m).content r).participants)
    (hpk : ((c.step cfg m).content r).publicKey = some bound)
    (hp : ((c.step cfg m).content r).participants.get? s = some p) (ht : p.clientType = .dapp) :
    Call.admits cfg r s m c = true ∧ Presents c.presented bound ∨
      Call.admits cfg r s m c = false ∧ (m.content r).publicKey = some bound ∧
        (m.content r).participants.get? s = some p := by
  by_cases hjoin : ∃ active id s' t publicKey ip, c.op = .join active id s' t publicKey ip
  · obtain ⟨active, id, s', t, publicKey, ip, hop⟩ := hjoin
    by_cases hsucc : ∃ messages served roster,
        c.outcome cfg m = .joined (.success messages served roster false)
    · obtain ⟨messages, served, roster, hsucc⟩ := hsucc
      obtain ⟨r₀, before, key, hadm⟩ := admission_of_success cfg hop hsucc
      have hadmits : Call.admits cfg r s m c = decide (s' = s ∧ r₀ = r) := by
        unfold Call.admits
        rw [hop, hsucc]
        simp [hadm.get]
      rw [hadmits, decide_eq_true_eq, decide_eq_false_iff_not]
      exact hadm.presented hop hexcl hpk hp ht
    · have hnot : ∀ messages served roster,
          c.outcome cfg m ≠ .joined (.success messages served roster false) :=
        fun messages served roster h => hsucc ⟨messages, served, roster, h⟩
      obtain ⟨hkey, hparts⟩ := join_key_kept cfg hop hnot r
      refine .inr ⟨?_, hkey ▸ hpk, hparts s p hp⟩
      unfold Call.admits
      split
      next hop' hout => exact absurd hout (hnot _ _ _)
      next => rfl
  · have hnot : ∀ active id s' t publicKey ip, c.op ≠ .join active id s' t publicKey ip :=
      fun active id s' t publicKey ip h => hjoin ⟨active, id, s', t, publicKey, ip, h⟩
    have hadmits : Call.admits cfg r s m c = false := by
      unfold Call.admits
      split
      next hop' _ => exact absurd hop' (hnot _ _ _ _ _ _)
      next => rfl
    refine .inr ⟨hadmits, ?_⟩
    cases step_cell cfg m c r with
    | moved heff =>
      obtain ⟨hkey, hparts⟩ := heff.key_kept hnot
      refine ⟨?_, hparts s p hp⟩
      rcases hkey with h | h
      · rw [← h, hpk]
      · rw [hpk] at h
        cases h
    | created ip hr heff =>
      have hnone := (heff.key_kept hnot).2 s p hp
      cases hnone

end

/-- Every dApp participant of a bound channel presented the key at its latest join. -/
theorem dapp_presented (cfg : Config) (cap : Option ℕ) (calls : List (Call V)) :
    ∀ r s p bound, ((after cfg cap calls).content r).publicKey = some bound →
      ((after cfg cap calls).content r).participants.get? s = some p → p.clientType = .dapp →
      ∃ c, latestJoin cfg cap calls r s = some c ∧ Presents c.presented bound := by
  induction calls using List.reverseRecOn with
  | nil =>
    intro r s p bound hpk
    cases hpk
  | append_singleton calls c ih =>
    intro r s p bound hpk hp ht
    have hexcl := roleExclusive_after cfg cap (calls ++ [c]) r
    rw [after_snoc] at hpk hp hexcl
    rw [latestJoin, Runs.latest?_snoc]
    change ∃ c', (if Call.admits cfg r s (after cfg cap calls) c then some c
      else latestJoin cfg cap calls r s) = some c' ∧ _
    rcases presented_step hexcl hpk hp ht with ⟨hadmits, hpresents⟩ | ⟨hadmits, hpk, hp⟩
    · rw [hadmits, if_pos rfl]
      exact ⟨c, rfl, hpresents⟩
    · rw [hadmits, if_neg Bool.false_ne_true]
      exact ih r s p bound hpk hp ht

/-- What a call must respect in the keys that are bound. -/
structure RespectsKeys (cfg : Config) (m : ChannelManager V) (c : Call V) : Prop where
  /-- Only a close takes the key away. -/
  stable : ∀ r < m.objects.next, ∀ bound, (m.content r).publicKey = some bound →
    ((c.step cfg m).content r).publicKey = some bound ∨
      (∃ channelId, c.op = .close channelId) ∧ ((c.step cfg m).content r).terminated = true
  /-- An admitted dApp presented the key its channel is bound to, before or by the join. -/
  dapp : ∀ active channelId s publicKey creatorIp messages served roster,
    c.op = .join active channelId s .dapp publicKey creatorIp →
    c.outcome cfg m = .joined (.success messages served roster false) →
    ∀ r, (c.step cfg m).channels.get? channelId = some r →
    ∀ bound, ((c.step cfg m).content r).publicKey = some bound → Presents publicKey bound
  /-- An admitted wallet is served the key its channel was bound to. -/
  wallet : ∀ active channelId s publicKey creatorIp messages served roster,
    c.op = .join active channelId s .wallet publicKey creatorIp →
    c.outcome cfg m = .joined (.success messages served roster false) →
    ∀ r, (c.step cfg m).channels.get? channelId = some r →
    served = ((c.step cfg m).content r).publicKey ∧
      (r < m.objects.next → served = (m.content r).publicKey)

theorem respectsKeys (cfg : Config) (m : ChannelManager V) (c : Call V) : RespectsKeys cfg m c where
  stable r hr bound hpk := by
    cases step_cell cfg m c r with
    | moved heff => exact heff.key_stable hpk
    | created _ hnext => exact absurd hr (hnext ▸ lt_irrefl _)
  dapp active channelId s publicKey creatorIp messages served roster hop hsucc r hget bound
      hpk := by
    obtain ⟨r₀, before, key, hadm⟩ := admission_of_success cfg hop hsucc
    obtain rfl : r = r₀ := Option.some.inj (hget.symm.trans hadm.get)
    rw [hadm.content, if_pos rfl, publicKey_joined] at hpk
    have hk : key = some bound := by
      cases hb : before.publicKey with
      | none => simpa [hb] using hpk
      | some b =>
        rw [hb, Option.some_or] at hpk
        rw [hadm.bound rfl b hb, hpk]
    exact (canonicalPublicKey_some (hk ▸ hadm.checked)).1
  wallet active channelId s publicKey creatorIp messages served roster hop hsucc r hget := by
    obtain ⟨r₀, before, key, hadm⟩ := admission_of_success cfg hop hsucc
    obtain rfl : r = r₀ := Option.some.inj (hget.symm.trans hadm.get)
    have hnone : key = none := canonicalPublicKey_wallet hadm.checked
    have hserved : served = before.publicKey := by rw [hadm.served, hnone, Option.or_none]
    refine ⟨?_, fun hr => ?_⟩
    · rw [hadm.content, if_pos rfl, publicKey_joined, hnone, Option.or_none, hserved]
    · rcases hadm.found with hb | ⟨hb, -⟩
      · rw [hserved, hb]
      · exact absurd hr (hb ▸ lt_irrefl _)

/-- The key of a channel is canonical, every dApp in a bound channel presented its key at
its latest join, and every call respects the keys it finds. -/
theorem key_binding (cfg : Config) (cap : Option ℕ) (calls : List (Call V)) :
    (∀ r bound, ((after cfg cap calls).content r).publicKey = some bound → IsCanonical bound) ∧
    (∀ r s p bound, ((after cfg cap calls).content r).publicKey = some bound →
      ((after cfg cap calls).content r).participants.get? s = some p → p.clientType = .dapp →
      ∃ c, latestJoin cfg cap calls r s = some c ∧ Presents c.presented bound) ∧
    ∀ c, RespectsKeys cfg (after cfg cap calls) c :=
  ⟨canonical_after cfg cap calls, dapp_presented cfg cap calls, respectsKeys cfg _⟩

end ChannelManager

end QrlBackend
