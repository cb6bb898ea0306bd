import QrlBackend.RequestRules

/-!
# Integrity of IPFS responses

What a client gets of the gateways' bytes. `gatewayBody` follows a run and keeps what the
gateway that a request has contacted last has sent of its body. `Sound` is the invariant of a
request under way : the client has been sent just these bytes, and another gateway is
contacted only while there are none.

A response is `complete`, `failed` or `truncated` (`Receipt.Holds`), and a connected client
gets exactly one of them (`Receipt`).
-/

set_option autoImplicit false

namespace QrlBackend

/-- What a gateway has sent of its body, and whether the stream has ended. -/
structure GatewayBody where
  bytes : List UInt8
  ended : Bool

namespace GatewayBody

def empty : GatewayBody := ⟨[], false⟩

def extend (b : GatewayBody) : Option Chunk → GatewayBody
  | some .done => { b with ended := true }
  | some (.bytes value _) => { b with bytes := b.bytes ++ value }
  | some .nonBinary => b
  | none => b

end GatewayBody

namespace IpfsProxy

/-- The chunk that an event reads for a request. -/
def chunk? (st : IpfsProxy) (r : ℕ) : IpfsEvent → Option Chunk
  | .read r' _ (.ok chunk) =>
    if r' = r then
      match (st.requests.get? r).map IpfsRequest.stage with
      | some (.reading _) => some chunk
      | _ => none
    else none
  | _ => none

/-- Every contact begins a new body. -/
def trackBody (parseDate : String → Option ℤ) (cfg : IpfsConfig) (r : ℕ)
    (s : IpfsProxy × GatewayBody) (e : IpfsEvent) : IpfsProxy × GatewayBody :=
  let st := s.1.step parseDate cfg e
  (st, if (st.contactsOf r).length ≠ (s.1.contactsOf r).length then .empty
    else s.2.extend (s.1.chunk? r e))

/-- The body of the gateway that the request has contacted last, as far as it has come. -/
def gatewayBody (parseDate : String → Option ℤ) (cfg : IpfsConfig) (r : ℕ)
    (es : List IpfsEvent) : GatewayBody :=
  (Runs.run (trackBody parseDate cfg r) (.init cfg, .empty) es).2

end IpfsProxy

/-! ## Outcomes -/

/-- What a client gets. -/
inductive Receipt where
  | complete
  | failed
  | truncated
  deriving DecidableEq

/-- The response is of this kind, for the body of the last gateway. -/
def Receipt.Holds (cfg : IpfsConfig) (b : GatewayBody) (res : ClientResponse) : Receipt → Prop
  | .complete => res.ended = true ∧ res.destroyed = false ∧ res.json.isNone ∧ res.status = 200 ∧
      b.ended = true ∧ res.body = b.bytes ∧ b.bytes.length ≤ cfg.maxSizeBytes
  | .failed => res.ended = true ∧ res.destroyed = false ∧ res.json.isSome ∧ res.body = []
  | .truncated => res.ended = false ∧ res.destroyed = true ∧ res.json.isNone ∧
      res.body <+: b.bytes ∧ res.body.length ≤ cfg.maxSizeBytes

/-- No response is of two kinds. -/
theorem Receipt.Holds.unique {cfg : IpfsConfig} {b : GatewayBody} {res : ClientResponse}
    {o o' : Receipt} (h : o.Holds cfg b res) (h' : o'.Holds cfg b res) : o' = o := by
  cases o <;> cases o' <;> simp_all [Holds]

/-! ## Requests under way -/

namespace IpfsProxy

/-- The client has been sent the bytes that have come of the body, and nothing else. -/
structure Sent (cfg : IpfsConfig) (b : GatewayBody) (res : ClientResponse) : Prop where
  json : res.json = none
  ended : res.ended = false
  destroyed : res.destroyed = false
  status : res.status = 200
  sent : res.headersSent = true ↔ res.body ≠ []
  bytes : res.body = b.bytes
  size : b.bytes.length ≤ cfg.maxSizeBytes

/-- `here` says that the client has not left. -/
structure Sound (cfg : IpfsConfig) (here : Prop) (b : GatewayBody) (req : IpfsRequest) : Prop
    extends Sent cfg b req.res where
  connected : here → req.clientDisconnected = false
  started : req.streamingStarted = true ↔ req.res.body ≠ []
  unfinished : b.ended = false
  received : match req.stage with
    | .fetching => b.bytes = []
    | .reading stream => stream.received = b.bytes.length
    | .writing stream => stream.received = b.bytes.length

variable {cfg : IpfsConfig} {st : IpfsProxy} {r : ℕ} {now : Clock} {req : IpfsRequest}
  {res : ClientResponse} {here : Prop} {b : GatewayBody}

/-- What a handler has returned is one of the kinds, if its client is there. -/
def Answered (cfg : IpfsConfig) (here : Prop) (b : GatewayBody) (req : IpfsRequest) : Prop :=
  here → ∃ o : Receipt, o.Holds cfg b req.res

/-- Error responses have no bytes of gateways. -/
theorem holds_sendJson (hdestroyed : res.destroyed = false)
    (hbody : res.body = []) (status : ℕ) (body : List (String × Json)) :
    Receipt.failed.Holds cfg b (res.sendJson status body) :=
  ⟨rfl, hdestroyed, rfl, hbody⟩

/-- A response that ends early is destroyed, or an error if nothing was sent. -/
theorem Sent.holds_destroy (h : Sent cfg b res) {b' : GatewayBody} (hb : b.bytes <+: b'.bytes) :
    Receipt.truncated.Holds cfg b' res.destroy := by
  refine ⟨h.ended, rfl, by rw [ClientResponse.destroy, h.json]; rfl, ?_, ?_⟩
  · exact h.bytes ▸ hb
  · exact h.bytes ▸ h.size

/-- Before the headers nothing of a body was sent. -/
theorem Sent.body_eq_nil (h : Sent cfg b res) (hsent : res.headersSent = false) :
    res.body = [] := by
  by_contra hne
  rw [h.sent.2 hne] at hsent
  cases hsent

theorem Sent.holds_sendStreamError (h : Sent cfg b res) {b' : GatewayBody}
    (hb : b.bytes <+: b'.bytes) (status : ℕ) (error : String) :
    ∃ o : Receipt, o.Holds cfg b' (sendStreamError res status error) := by
  unfold sendStreamError
  split
  next => exact ⟨_, h.holds_destroy hb⟩
  next hsent =>
    exact ⟨_, holds_sendJson h.destroyed (h.body_eq_nil (Bool.eq_false_iff.2 hsent)) _ _⟩

theorem Sent.setProxyHeaders (h : Sent cfg b req.res) (stream : StreamState) :
    Sent cfg b (setProxyHeaders req stream) := by
  unfold QrlBackend.setProxyHeaders
  split
  · exact h
  · exact ⟨h.json, h.ended, h.destroyed, h.status, h.sent, h.bytes, h.size⟩

/-- A failure is told in full. -/
theorem holds_answerFailure (gateways : List GatewayState)
    (hhere : here → req.clientDisconnected = false) (hdestroyed : req.res.destroyed = false)
    (hbody : req.res.body = []) : Answered cfg here b (answerFailure gateways now req) := by
  intro h
  unfold answerFailure
  rw [hhere h, if_neg Bool.false_ne_true]
  refine ⟨.failed, holds_sendJson ?_ ?_ _ _⟩
  · split_ifs <;> exact hdestroyed
  · split_ifs <;> exact hbody

/-- A gateway is contacted for a request while nothing has been sent. -/
structure Renewed (cfg : IpfsConfig) (here : Prop) (r : ℕ) (body : List UInt8)
    (req : IpfsRequest) (c : Contact) : Prop where
  request : c.request = r
  unsent : body = []
  sound : Sound cfg here .empty req

/-- The loop starts over only while nothing was sent. -/
theorem Sound.loops (h : Sound cfg here b req) (hbody : req.res.body = []) {b' : GatewayBody}
    (gateways : List GatewayState) (now : Clock) (failure : GatewayFailure) (index : ℕ) :
    Loops cfg r (Answered cfg here b') (Renewed cfg here r req.res.body) gateways now
      { req with failure } index := by
  refine .intro (fun failure => holds_answerFailure _ h.connected h.destroyed hbody)
    fun index' c _ hc => ?_
  refine ⟨hc, hbody, ⟨h.json, h.ended, h.destroyed, h.status, h.sent, hbody, Nat.zero_le _⟩,
    h.connected, ?_, rfl, rfl⟩
  exact iff_of_false Bool.false_ne_true fun hne => hne hbody

/-- After an attempt that threw, the loop goes on only if nothing was sent. -/
theorem Sound.throws (h : Sound cfg here b req) {b' : GatewayBody} (hb : b.bytes <+: b'.bytes)
    (gateways : List GatewayState) (now : Clock) (failure : GatewayFailure) :
    Throws cfg r (Answered cfg here b') (Renewed cfg here r req.res.body) gateways now req
      failure where
  gone hgone hhere := by
    rw [h.connected hhere] at hgone
    cases hgone
  sent _ _ _ := h.holds_sendStreamError hb _ _
  next _ hsent := by
    rw [Bool.or_eq_false_iff] at hsent
    exact h.loops (h.body_eq_nil hsent.2) _ _ _ _

/-! ## The parts of the handler -/

/-- A gateway that answers begins a new body. -/
theorem Sound.fetched (h : Sound cfg here b req) (hreq : st.requests.get? r = some req)
    (hstage : req.stage = .fetching) (parseDate : String → Option ℤ)
    (answer : Except String GatewayResponse) :
    Handled st r (Answered cfg here b) (Sound cfg here b) (Renewed cfg here r req.res.body)
      (st.fetched parseDate cfg r now req answer) := by
  have hbytes : b.bytes = [] := by
    have hreceived := h.received
    rwa [hstage] at hreceived
  have hbody : req.res.body = [] := h.bytes.trans hbytes
  refine .fetched hreq (fun _ => h.throws (List.prefix_refl _) _ _ _) (fun _ _ _ _ _ _ => ?_)
    (fun _ _ _ => ?_) (fun status body _ _ => ?_) (fun headers => ?_) fun _ => h
  · exact h.loops hbody _ _ _ _
  · exact holds_answerFailure _ h.connected h.destroyed hbody
  · exact ⟨.failed, holds_sendJson h.destroyed hbody status body⟩
  · exact ⟨h.toSent, h.connected, h.started, h.unfinished, (congrArg List.length hbytes).symm⟩

/-- A chunk that is read is the next of its body. -/
theorem Sound.read (h : Sound cfg here b req) {stream : StreamState}
    (hstage : req.stage = .reading stream) (result : Except String Chunk) :
    Handled st r (Answered cfg here (b.extend result.toOption))
      (Sound cfg here (b.extend result.toOption)) (Renewed cfg here r req.res.body)
      (st.read cfg r now req stream result) := by
  have hreceived : stream.received = b.bytes.length := by
    have hreceived := h.received
    rwa [hstage] at hreceived
  have hset := h.setProxyHeaders stream
  have hpre : b.bytes <+: (b.extend result.toOption).bytes := by
    rcases result with _ | (_ | ⟨value, _⟩ | _)
    · exact List.prefix_refl _
    · exact List.prefix_refl _
    · exact List.prefix_append _ _
    · exact List.prefix_refl _
  refine .read (fun _ => h.throws hpre _ _ _) ?_ ?_ ?_ ?_ ?_ ?_
  · rintro - rfl -
    refine ⟨.complete, rfl, hset.destroyed, ?_, hset.status, rfl, hset.bytes, hset.size⟩
    rw [ClientResponse.finish, hset.json]
    rfl
  · rintro value writeThrows rfl hsize -
    dsimp only
    split
    next => exact ⟨_, h.holds_destroy hpre⟩
    next hsent =>
      exact ⟨_, holds_sendJson h.destroyed (h.body_eq_nil (Bool.eq_false_iff.2 hsent)) _ _⟩
  · rintro writeThrows rfl
    have hsame : b.extend (Except.toOption (.ok (.bytes [] writeThrows) : Except String Chunk)) =
        b := by
      rw [Except.toOption, GatewayBody.extend, List.append_nil]
    rw [hsame]
    exact ⟨h.toSent, h.connected, h.started, h.unfinished, hreceived⟩
  · -- The headers are set, and the bytes are not sent.
    rintro value rfl
    refine ⟨fun hgone hhere => ?_, fun _ _ _ => ?_, fun _ hsent => ?_⟩
    · exact absurd hgone (by rw [h.connected hhere]; exact Bool.false_ne_true)
    · exact hset.holds_sendStreamError hpre _ _
    · cases hsent
  · rintro value rfl hvalue hsize -
    have hne : (setProxyHeaders req stream).body ++ value ≠ [] := fun hnil =>
      hvalue (List.append_eq_nil_iff.1 hnil).2
    rw [hreceived, ← List.length_append] at hsize
    refine ⟨⟨hset.json, hset.ended, hset.destroyed, hset.status, iff_of_true rfl hne, ?_, hsize⟩,
      h.connected, iff_of_true rfl hne, h.unfinished, ?_⟩
    · exact congrArg (· ++ value) hset.bytes
    · rw [hreceived]
      exact List.length_append.symm
  · exact fun _ => h.holds_sendStreamError hpre _ _

/-- A chunk that was written is sent. -/
theorem Sound.written (h : Sound cfg here b req) {stream : StreamState}
    (hstage : req.stage = .writing stream) (result : Except String Unit) :
    Handled st r (Answered cfg here b) (Sound cfg here b) (Renewed cfg here r req.res.body)
      (st.written cfg r now req stream result) := by
  refine .written (fun _ => h.throws (List.prefix_refl _) _ _ _) ?_
  have hreceived := h.received
  rw [hstage] at hreceived
  exact ⟨h.toSent, h.connected, h.started, h.unfinished, hreceived⟩

/-! ## Steps -/

theorem chunk?_of_about {e : IpfsEvent} (he : e.about? ≠ some r) : st.chunk? r e = none := by
  cases e with
  | read r' now result =>
    cases result with
    | error errorName => rfl
    | ok chunk => exact if_neg fun heq => he (congrArg some heq)
  | request | fetched | written | attemptTimeout | deadline | disconnect => rfl

theorem chunk?_of_none {e : IpfsEvent} (hreq : st.requests.get? r = none) :
    st.chunk? r e = none := by
  cases e with
  | read r' now result =>
    cases result with
    | error errorName => rfl
    | ok chunk =>
      unfold chunk?
      rw [hreq]
      exact ite_self _
  | request | fetched | written | attemptTimeout | deadline | disconnect => rfl

theorem Sound.mono {here' : Prop} (h : Sound cfg here b req) (hhere : here' → here) :
    Sound cfg here' b req :=
  ⟨h.toSent, fun h' => h.connected (hhere h'), h.started, h.unfinished, h.received⟩

/-- A read that settles is a chunk if the handler awaits it. -/
theorem chunk?_read (hreq : st.requests.get? r = some req) {stream : StreamState}
    (hstage : req.stage = .reading stream) (now : Clock) (result : Except String Chunk) :
    st.chunk? r (.read r now result) = result.toOption := by
  cases result with
  | error errorName => rfl
  | ok chunk =>
    unfold chunk?
    dsimp only
    rw [if_pos rfl, hreq, Option.map_some, hstage]
    rfl

theorem chunk?_of_ignored (hreq : st.requests.get? r = some req) {e : IpfsEvent}
    (hread : ∀ now result stream, e = .read r now result → req.stage ≠ .reading stream) :
    st.chunk? r e = none := by
  by_cases habout : e.about? = some r
  · cases e with
    | read r' now result =>
      cases habout
      cases result with
      | error errorName => rfl
      | ok chunk =>
        unfold chunk?
        dsimp only
        rw [if_pos rfl, hreq, Option.map_some]
        split
        next stream hstage =>
          exact absurd (Option.some.inj hstage) (hread now (.ok chunk) stream rfl)
        next => rfl
    | request | fetched | written | attemptTimeout | deadline | disconnect => rfl
  · exact chunk?_of_about habout

/-- An event of a request under way. -/
theorem Sound.step (h : Sound cfg here b req) (hreq : st.requests.get? r = some req)
    (parseDate : String → Option ℤ) {e : IpfsEvent} (he : e.about? = some r)
    (hhere : here → e ≠ .disconnect r) :
    Handled st r (Answered cfg here (b.extend (st.chunk? r e)))
      (Sound cfg here (b.extend (st.chunk? r e))) (Renewed cfg here r req.res.body)
      (st.step parseDate cfg e) := by
  have hreacts := reacts parseDate cfg he hreq
  generalize st.step parseDate cfg e = st' at hreacts ⊢
  cases hreacts with
  | fetched now answer hstage => exact h.fetched hreq hstage parseDate answer
  | read now result stream hstage =>
    rw [chunk?_read hreq hstage now result]
    exact h.read hstage result
  | written now result stream hstage => exact h.written hstage result
  | attemptTimeout hstarted =>
    exact .await ⟨h.toSent, h.connected, h.started, h.unfinished, h.received⟩
  | deadline => exact .await ⟨h.toSent, h.connected, h.started, h.unfinished, h.received⟩
  | disconnect =>
    exact .await ⟨h.toSent, fun h' => absurd rfl (hhere h'), h.started, h.unfinished, h.received⟩
  | ignored e hfetched hread =>
    rw [chunk?_of_ignored hreq hread]
    exact .same hreq h

/-! ## Runs -/

/-- What holds of a request in every state of a run, with the body of its last gateway. -/
structure Delivered (cfg : IpfsConfig) (here : Prop) (r : ℕ) (st : IpfsProxy) (b : GatewayBody) :
    Prop where
  underWay : ∀ req, st.requests.get? r = some req → Sound cfg here b req ∧ st.answersOf r = []
  answered : here → ∀ res ∈ st.answersOf r, ∃ o : Receipt, o.Holds cfg b res
  once : (st.answersOf r).length ≤ 1
  finished : r < st.next → st.requests.get? r = none → st.answersOf r ≠ []
  fresh : st.next ≤ r →
    st.requests.get? r = none ∧ st.answersOf r = [] ∧ st.contactsOf r = [] ∧ b = .empty

/-- At first nothing was asked for. -/
theorem delivered_init (cfg : IpfsConfig) (here : Prop) (r : ℕ) :
    Delivered cfg here r (.init cfg) .empty where
  underWay _ h := by cases h
  answered _ _ h := by cases h
  once := Nat.zero_le _
  finished h := absurd h (Nat.not_lt_zero r)
  fresh _ := ⟨rfl, rfl, rfl, rfl⟩

theorem Delivered.mono {here' : Prop} (h : Delivered cfg here r st b) (hhere : here' → here) :
    Delivered cfg here' r st b where
  underWay req hreq := ⟨(h.underWay req hreq).1.mono hhere, (h.underWay req hreq).2⟩
  answered h' := h.answered (hhere h')
  once := h.once
  finished := h.finished
  fresh := h.fresh

/-- The other requests do not matter. -/
theorem Delivered.of_untouched (h : Delivered cfg here r st b) {st' : IpfsProxy}
    (hsame : Untouched r st st') : Delivered cfg here r st' b where
  underWay req hreq := by
    rw [hsame.get?] at hreq
    rw [hsame.answers]
    exact h.underWay req hreq
  answered := hsame.answers ▸ h.answered
  once := hsame.answers ▸ h.once
  finished hlt hnone := by
    rw [hsame.answers]
    exact h.finished (hsame.posted hlt) (hsame.get? ▸ hnone)
  fresh hr := by
    rw [hsame.get?, hsame.answers, hsame.contacts]
    exact h.fresh (hsame.next.trans hr)

theorem Delivered.of_underWay (hlt : r < st.next) (hreq : st.requests.get? r = some req)
    (hanswers : st.answersOf r = []) (h : Sound cfg here b req) : Delivered cfg here r st b where
  underWay req' hreq' := by
    cases hreq.symm.trans hreq'
    exact ⟨h, hanswers⟩
  answered _ res hmem := by
    rw [hanswers] at hmem
    cases hmem
  once := by
    rw [hanswers]
    exact Nat.zero_le _
  finished _ hnone := by
    rw [hreq] at hnone
    cases hnone
  fresh hr := absurd hr (not_le.2 hlt)

theorem Delivered.of_answered (hlt : r < st.next) (hreq : st.requests.get? r = none)
    (hanswers : st.answersOf r = [res]) (h : here → ∃ o : Receipt, o.Holds cfg b res) :
    Delivered cfg here r st b where
  underWay req hreq' := by
    rw [hreq] at hreq'
    cases hreq'
  answered hhere res' hmem := by
    rw [hanswers, List.mem_singleton] at hmem
    rw [hmem]
    exact h hhere
  once := by
    rw [hanswers]
    exact le_rfl
  finished _ _ := by
    rw [hanswers]
    exact List.cons_ne_nil _ _
  fresh hr := absurd hr (not_le.2 hlt)

/-- After the handler has run, the body is a new one if it has contacted a gateway. -/
theorem Delivered.of_handled {b' : GatewayBody} {body : List UInt8} {st' : IpfsProxy}
    (hlt : r < st.next)
    (hanswers : st.answersOf r = [])
    (hstep : Handled st r (Answered cfg here b') (Sound cfg here b')
      (Renewed cfg here r body) st') :
    Delivered cfg here r st'
      (if (st'.contactsOf r).length ≠ (st.contactsOf r).length then .empty else b') := by
  cases hstep with
  | finished req hreq hframe hanswered hcontacted =>
    rw [contactsOf, hcontacted, contactsOf, if_neg (not_not.2 rfl)]
    refine .of_answered (hframe.next ▸ hlt) ((hframe.get? r).trans (if_pos rfl)) ?_ hreq
    rw [answersOf] at hanswers ⊢
    rw [hanswered, List.filter_append, List.map_append, hanswers]
    simp
  | awaits req hreq hframe hanswered hcontacted =>
    rw [contactsOf, hcontacted, contactsOf, if_neg (not_not.2 rfl)]
    refine .of_underWay (hframe.next ▸ hlt) ((hframe.get? r).trans (if_pos rfl)) ?_ hreq
    rw [answersOf, hanswered]
    exact hanswers
  | contacts req c hreq hframe hanswered hcontacted =>
    have hcontacts : (st'.contactsOf r).length = (st.contactsOf r).length + 1 := by
      rw [contactsOf, hcontacted, List.filter_append, contactsOf]
      simp [hreq.request]
    rw [hcontacts, if_pos (Nat.succ_ne_self _)]
    refine .of_underWay (hframe.next ▸ hlt) ((hframe.get? r).trans (if_pos rfl)) ?_ hreq.sound
    rw [answersOf, hanswered]
    exact hanswers

/-- A new request has sent nothing. -/
theorem sound_newRequest (cfg : IpfsConfig) (here : Prop) (opened : ℚ) (cid rest : String)
    (slot : ℕ) : Sound cfg here .empty (newRequest cfg opened cid rest slot) where
  json := rfl
  ended := rfl
  destroyed := rfl
  status := rfl
  sent := iff_of_false Bool.false_ne_true fun h => h rfl
  bytes := rfl
  size := Nat.zero_le _
  connected _ := rfl
  started := iff_of_false Bool.false_ne_true fun h => h rfl
  unfinished := rfl
  received := rfl

/-- A request that comes in. -/
theorem Delivered.request (h : Delivered cfg here st.next st b) (parseDate : String → Option ℤ)
    (opened : ℚ) (now : Clock) (cid : String) (splat : List String) :
    Delivered cfg here st.next (st.step parseDate cfg (.request opened now cid splat)) .empty := by
  obtain ⟨hnone, hanswers, hcontacts, -⟩ := h.fresh le_rfl
  obtain ⟨res, hrefused⟩ | ⟨slots, hhandled⟩ := Handled.request
    (F := Answered cfg here .empty) (A := Sound cfg here .empty)
    (C := Renewed cfg here st.next [])
    cfg st opened now cid (readWildcardParam splat)
    fun slot => (sound_newRequest cfg here opened cid _ slot).loops rfl _ _ coolingFailure _
  · obtain ⟨res₀, status, body, rfl, hbody, hdestroyed, -⟩ := hrefused.error
    refine .of_answered (hrefused.next ▸ Nat.lt_succ_self _) ?_ ?_ fun _ =>
      ⟨.failed, holds_sendJson hdestroyed hbody status body⟩
    · exact (congrArg (JsMap.get? · st.next) hrefused.requests).trans hnone
    · rw [answersOf] at hanswers ⊢
      rw [IpfsProxy.step, hrefused.answered, List.filter_append, List.map_append, hanswers]
      simp
  · have hsame : ({ st with slots, next := st.next + 1 } : IpfsProxy).answersOf st.next = [] :=
      hanswers
    have hd := Delivered.of_handled (Nat.lt_succ_self _) hsame hhandled
    rwa [ite_self] at hd

/-- Every event keeps what holds of a request. -/
theorem Delivered.step (h : Delivered cfg here r st b) (parseDate : String → Option ℤ)
    {e : IpfsEvent} (hhere : here → e ≠ .disconnect r) :
    Delivered cfg here r (trackBody parseDate cfg r (st, b) e).1
      (trackBody parseDate cfg r (st, b) e).2 := by
  unfold trackBody
  dsimp only
  by_cases habout : e.about? = some r
  · cases hreq : st.requests.get? r with
    | none =>
      rw [step_of_none parseDate cfg habout hreq, if_neg (not_not.2 rfl), chunk?_of_none hreq]
      exact h
    | some req =>
      obtain ⟨hsound, hanswers⟩ := h.underWay req hreq
      have hlt : r < st.next := by
        by_contra hle
        rw [(h.fresh (not_lt.1 hle)).1] at hreq
        cases hreq
      exact .of_handled hlt hanswers (hsound.step hreq parseDate habout hhere)
  · rw [chunk?_of_about habout]
    by_cases hnew : e.about? = none ∧ r = st.next
    · obtain ⟨hnone, rfl⟩ := hnew
      cases e with
      | request opened now cid splat =>
        have hb := (h.fresh le_rfl).2.2.2
        have hd := h.request parseDate opened now cid splat
        rw [hb]
        split
        · exact hd
        · exact hd
      | fetched | read | written | attemptTimeout | deadline | disconnect => cases hnone
    · have hsame := untouched_step parseDate cfg (fun hnone hr => hnew ⟨hnone, hr⟩) habout
      rw [hsame.contacts, if_neg (not_not.2 rfl)]
      exact h.of_untouched hsame

/-- In every state of a run, with what has come of the last body. -/
theorem delivered_run (parseDate : String → Option ℤ) (cfg : IpfsConfig) (r : ℕ)
    (es : List IpfsEvent) : (Runs.run (trackBody parseDate cfg r) (.init cfg, .empty) es).1 =
        Runs.run (IpfsProxy.step parseDate cfg) (.init cfg) es ∧
      Delivered cfg (.disconnect r ∉ es) r
        (Runs.run (IpfsProxy.step parseDate cfg) (.init cfg) es)
        (gatewayBody parseDate cfg r es) := by
  induction es using List.reverseRecOn with
  | nil => exact ⟨rfl, delivered_init cfg _ r⟩
  | append_singleton es e ih =>
    obtain ⟨hst, hd⟩ := ih
    have hpair : Runs.run (trackBody parseDate cfg r) (.init cfg, .empty) es =
        (Runs.run (IpfsProxy.step parseDate cfg) (.init cfg) es, gatewayBody parseDate cfg r es) :=
      Prod.ext hst rfl
    rw [gatewayBody, Runs.run_snoc, Runs.run_snoc, hpair]
    refine ⟨rfl, (hd.mono fun hhere => ?_).step parseDate fun hhere => ?_⟩
    · exact fun hmem => hhere (List.mem_append_left _ hmem)
    · rintro rfl
      exact hhere (List.mem_append_right _ (List.mem_singleton_self _))

/-! ## After the first byte -/

/-- A body only grows. -/
theorem prefix_extend (b : GatewayBody) (chunk : Option Chunk) :
    b.bytes <+: (b.extend chunk).bytes := by
  rcases chunk with _ | _ | ⟨value, _⟩ | _
  · exact List.prefix_refl _
  · exact List.prefix_refl _
  · exact List.prefix_append _ _
  · exact List.prefix_refl _

/-- The request is over, or bytes of a body have been sent. -/
structure Streaming (r : ℕ) (st : IpfsProxy) : Prop where
  lt_next : r < st.next
  body : ∀ req, st.requests.get? r = some req → req.res.body ≠ []

/-- No gateway is contacted for a request after the first byte. -/
theorem Streaming.step (h : Streaming r st) (hd : Delivered cfg here r st b)
    (parseDate : String → Option ℤ) (e : IpfsEvent) :
    (st.step parseDate cfg e).contactsOf r = st.contactsOf r ∧
      Streaming r (st.step parseDate cfg e) := by
  by_cases habout : e.about? = some r
  · cases hreq : st.requests.get? r with
    | none =>
      rw [step_of_none parseDate cfg habout hreq]
      exact ⟨rfl, h⟩
    | some req =>
      have hne := h.body req hreq
      have hsound : Sound cfg False b req := (hd.underWay req hreq).1.mono False.elim
      have hbytes : (b.extend (st.chunk? r e)).bytes ≠ [] := fun hnil =>
        hne (hsound.bytes.trans (List.prefix_nil.1 (hnil ▸ prefix_extend b _)))
      cases hsound.step hreq parseDate habout False.elim with
      | finished req' _ hframe _ hcontacted =>
        refine ⟨congrArg (List.filter _) hcontacted, hframe.next ▸ h.lt_next,
          fun req'' hreq'' => ?_⟩
        rw [hframe.get?, if_pos rfl] at hreq''
        cases hreq''
      | awaits req' h' hframe _ hcontacted =>
        refine ⟨congrArg (List.filter _) hcontacted, hframe.next ▸ h.lt_next,
          fun req'' hreq'' => ?_⟩
        rw [hframe.get?, if_pos rfl] at hreq''
        cases hreq''
        exact h'.bytes ▸ hbytes
      | contacts req' c h' => exact absurd h'.unsent hne
  · have hsame := untouched_step parseDate cfg (fun _ => h.lt_next.ne) habout
    refine ⟨hsame.contacts, h.lt_next.trans_le hsame.next, fun req hreq => ?_⟩
    exact h.body req (hsame.get? ▸ hreq)

/-- Once a body is on its way no other gateway is contacted. -/
theorem Streaming.run (parseDate : String → Option ℤ) (cfg : IpfsConfig) (es es' : List IpfsEvent)
    (h : Streaming r (Runs.run (IpfsProxy.step parseDate cfg) (.init cfg) es)) :
    (Runs.run (IpfsProxy.step parseDate cfg) (.init cfg) (es ++ es')).contactsOf r =
        (Runs.run (IpfsProxy.step parseDate cfg) (.init cfg) es).contactsOf r ∧
      Streaming r (Runs.run (IpfsProxy.step parseDate cfg) (.init cfg) (es ++ es')) := by
  induction es' using List.reverseRecOn with
  | nil =>
    rw [List.append_nil]
    exact ⟨rfl, h⟩
  | append_singleton es' e ih =>
    have hstep := ih.2.step (delivered_run parseDate cfg r (es ++ es')).2 parseDate e
    rw [← List.append_assoc, Runs.run_snoc]
    exact ⟨hstep.1.trans ih.1, hstep.2⟩

end IpfsProxy

/-- A connected client gets exactly one of : the whole body of one gateway, within the size
limit; an error without gateway bytes; a destroyed connection after a prefix of one body.
Until then it has been sent what has come of one body, and after the first byte no further
gateway is contacted. A request that is over has its answer. -/
theorem ipfs_response_integrity (parseDate : String → Option ℤ) (cfg : IpfsConfig)
    (es : List IpfsEvent) (r : ℕ) :
    let st := Runs.run (IpfsProxy.step parseDate cfg) (.init cfg) es
    let b := IpfsProxy.gatewayBody parseDate cfg r es
    (.disconnect r ∉ es → ∀ res ∈ st.answersOf r, ∃! receipt : Receipt,
      receipt.Holds cfg b res) ∧
    (st.answersOf r).length ≤ 1 ∧
    (r < st.next → st.requests.get? r = none → ∃ res, st.answersOf r = [res]) ∧
    (∀ req, st.requests.get? r = some req → st.answersOf r = [] ∧ req.res.json = none ∧
      req.res.ended = false ∧ req.res.destroyed = false ∧ req.res.body = b.bytes ∧
      b.bytes.length ≤ cfg.maxSizeBytes) ∧
    ∀ req es', st.requests.get? r = some req → req.res.body ≠ [] →
      (Runs.run (IpfsProxy.step parseDate cfg) (.init cfg) (es ++ es')).contactsOf r =
        st.contactsOf r := by
  have hd := (IpfsProxy.delivered_run parseDate cfg r es).2
  refine ⟨fun hhere res hres => ?_, hd.once, fun hposted hover => ?_, fun req hreq => ?_,
    fun req es' hreq hbody => ?_⟩
  · obtain ⟨receipt, h⟩ := hd.answered hhere res hres
    exact ⟨receipt, h, fun receipt' h' => h.unique h'⟩
  · obtain ⟨res, rest, hanswers⟩ := List.exists_cons_of_ne_nil (hd.finished hposted hover)
    have hrest : rest = [] := by
      simpa [hanswers] using hd.once
    exact ⟨res, by rw [hanswers, hrest]⟩
  · obtain ⟨hsound, hanswers⟩ := hd.underWay req hreq
    exact ⟨hanswers, hsound.json, hsound.ended, hsound.destroyed, hsound.bytes, hsound.size⟩
  · refine (IpfsProxy.Streaming.run parseDate cfg es es' ⟨?_, fun req' hreq' => ?_⟩).1
    · by_contra hle
      rw [(hd.fresh (not_lt.1 hle)).1] at hreq
      cases hreq
    · cases hreq.symm.trans hreq'
      exact hbody

/-- A second gateway serves what the first one does not. -/
theorem ipfs_response_integrity_fallback :
    let cfg : IpfsConfig := {
      gateways := ["https://a.test/ipfs/", "https://b.test/ipfs/"]
      fetchTimeoutMs := 8000
      fallbackReserveMs := 1000
      maxCooldownMs := 900000
      serverErrorMinCids := 3
      serverErrorWindowMs := 60000
      maxSizeBytes := 10485760
      maxConcurrent := 8
      maxInflightBytes := 41943040
      le_fallbackReserveMs := by decide
      le_maxCooldownMs := by decide
      le_serverErrorMinCids := by decide }
    let es : List IpfsEvent :=
      [.request 0 ⟨0, 0⟩ "QmYwAPJzv5CZsnA625s3Xf2nemtYgPpHdWEz79ojWnPbdG" [],
        .fetched 0 ⟨10, 10⟩ (.ok ⟨503, none, none, none, true⟩),
        .fetched 0 ⟨20, 20⟩ (.ok ⟨200, none, some "2", some "image/png", true⟩),
        .read 0 ⟨30, 30⟩ (.ok (.bytes [1, 2] false)), .written 0 ⟨31, 31⟩ (.ok ()),
        .read 0 ⟨40, 40⟩ (.ok .done)]
    let st := Runs.run (IpfsProxy.step (fun _ => none) cfg) (.init cfg) es
    (st.answersOf 0).map (·.body) = [[1, 2]] ∧ ∀ res ∈ st.answersOf 0,
      ∃! receipt : Receipt,
        receipt.Holds cfg (IpfsProxy.gatewayBody (fun _ => none) cfg 0 es) res := by
  intro cfg es st
  refine ⟨by decide +kernel, (ipfs_response_integrity (fun _ => none) cfg es 0).1 ?_⟩
  simp [es]

end QrlBackend
