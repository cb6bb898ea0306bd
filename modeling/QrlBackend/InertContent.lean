import QrlBackend.Integrity

/-!
# What content is served as

The wallet's origin serves what the gateways send, so a body must not be run there. Every
response with gateway bytes has the headers of `setProxyHeaders`, for the content type that the
gateway of these bytes declared (`ipfs_content_inert`), and with them it is `Inert` : not sniffed,
sandboxed, and a download unless its media type is on the list. Between two attempts nothing is
set, so no response has the headers of two. An error has none of them, unless a write threw.

`res.set` of Express adds the charset of a content type to it. What it makes of one comes from a
package (`fullType`), of which only that it adds parameters matters (`AddsParameters`).
-/

set_option autoImplicit false

namespace QrlBackend

/-! ## Inert headers -/

/-- The headers as they are sent. -/
def sentHeaders (fullType : String → String) (headers : List (String × String)) :
    List (String × String) :=
  headers.map fun header =>
    if header.1 = "Content-Type" then (header.1, fullType header.2) else header

/-- A content type, or one with parameters after it. -/
def Extends (contentType value : String) : Prop :=
  contentType = value ∨ ∃ parameters, contentType = value ++ ";" ++ parameters

/-- Nothing but parameters is added to the content types that the proxy sets. -/
def AddsParameters (fullType : String → String) : Prop :=
  ∀ value, isInlineMediaType value = true ∨ value = "application/octet-stream" →
    Extends (fullType value) value

/-- A browser shows the content as a media type of the list, or saves it. -/
structure Inert (headers : List (String × String)) : Prop where
  nodup : (headers.map Prod.fst).Nodup
  nosniff : headers.lookup "X-Content-Type-Options" = some "nosniff"
  sandbox : headers.lookup "Content-Security-Policy" =
    some "default-src 'none'; img-src 'self' data: blob:; sandbox"
  shown : ∃ contentType, headers.lookup "Content-Type" = some contentType ∧
    (isInlineMediaType contentType = true ∧ headers.lookup "Content-Disposition" = none ∨
      Extends contentType "application/octet-stream" ∧
        headers.lookup "Content-Disposition" = some "attachment")

/-- The media type comes before the parameters. -/
theorem isInlineMediaType_of_extends {contentType value : String} (h : Extends contentType value) :
    isInlineMediaType contentType = isInlineMediaType value := by
  rcases h with rfl | ⟨parameters, rfl⟩
  · rfl
  · have hlist : (value ++ ";" ++ parameters).toList =
        value.toList ++ ';' :: parameters.toList := by
      simp
    obtain ⟨first, rest, hsplit⟩ := List.exists_cons_of_ne_nil
      (List.splitOn_ne_nil ';' value.toList)
    unfold isInlineMediaType
    rw [hlist, List.splitOn_append_cons_self, hsplit]
    rfl

theorem inert_proxyHeaders {fullType : String → String} (hfull : AddsParameters fullType)
    (upstreamContentType : Option String) :
    Inert (sentHeaders fullType (proxyHeaders upstreamContentType)) := by
  unfold proxyHeaders
  cases h : upstreamContentType.filter isInlineMediaType with
  | none =>
    have hextends := hfull "application/octet-stream" (.inr rfl)
    exact ⟨by simp [sentHeaders], rfl, rfl, _, rfl, .inr ⟨hextends, rfl⟩⟩
  | some contentType =>
    have hinline := (Option.filter_eq_some_iff.1 h).2
    have hextends := hfull contentType (.inl hinline)
    refine ⟨by simp [sentHeaders], rfl, rfl, _, rfl, .inl ⟨?_, rfl⟩⟩
    exact (isInlineMediaType_of_extends hextends).trans hinline

namespace IpfsProxy

/-! ## Declared content types -/

section Declared

variable (parseDate : String → Option ℤ) (cfg : IpfsConfig) (r : ℕ)

/-- The gateway that was contacted last declared the content type, in the response that the
request awaited. -/
def Declared (es : List IpfsEvent) (contacts : List Contact) (contentType : Option String) :
    Prop :=
  ∃ before now response after req,
    es = before ++ .fetched r now (.ok response) :: after ∧
    (Runs.run (IpfsProxy.step parseDate cfg) (.init cfg) before).requests.get? r = some req ∧
    req.stage = .fetching ∧ isOk response.status = true ∧ response.contentType = contentType ∧
    (Runs.run (IpfsProxy.step parseDate cfg) (.init cfg) before).contactsOf r = contacts

/-- A write of the request threw. -/
def WriteThrew (es : List IpfsEvent) : Prop :=
  ∃ now value, IpfsEvent.read r now (.ok (.bytes value true)) ∈ es

variable {parseDate cfg r} {es : List IpfsEvent}

theorem Declared.snoc {contacts : List Contact} {contentType : Option String}
    (h : Declared parseDate cfg r es contacts contentType) (e : IpfsEvent) :
    Declared parseDate cfg r (es ++ [e]) contacts contentType := by
  obtain ⟨before, now, response, after, req, rfl, hrest⟩ := h
  exact ⟨before, now, response, after ++ [e], req, by simp, hrest⟩

theorem WriteThrew.snoc (h : WriteThrew r es) (e : IpfsEvent) : WriteThrew r (es ++ [e]) := by
  obtain ⟨now, value, hmem⟩ := h
  exact ⟨now, value, List.mem_append_left _ hmem⟩

end Declared

/-! ## Labels -/

/-- Content has the headers of what was declared, and an error has none of them. -/
structure Labelled (D : Option String → Prop) (threw : Prop) (res : ClientResponse) : Prop where
  content : res.json = none → res.body ≠ [] ∨ res.ended = true →
    ∃ contentType, D contentType ∧ res.headers = proxyHeaders contentType
  error : res.json.isSome = true → ¬threw →
    res.headers = [] ∨ ∃ seconds, res.headers = [("Retry-After", seconds)]

/-- The headers that a request under way has set. -/
structure Labelling (D : Option String → Prop) (req : IpfsRequest) : Prop where
  fetching : req.stage = .fetching → req.res.headers = []
  streaming : ∀ stream, req.stage = .reading stream ∨ req.stage = .writing stream →
    (stream.proxyHeadersSet = true ↔ req.res.body ≠ []) ∧
      (∃ contentType, D contentType ∧ stream.proxyHeaders = proxyHeaders contentType) ∧
        req.res.headers = if stream.proxyHeadersSet then stream.proxyHeaders else []

/-- A gateway is contacted again before anything is set. -/
structure Unlabelled (r : ℕ) (req : IpfsRequest) (c : Contact) : Prop where
  request : c.request = r
  stage : req.stage = .fetching
  headers : req.res.headers = []

variable {cfg : IpfsConfig} {st : IpfsProxy} {r : ℕ} {now : Clock} {req : IpfsRequest}
  {res : ClientResponse} {here threw : Prop} {b : GatewayBody} {D : Option String → Prop}

theorem Labelled.mono {D' : Option String → Prop} {threw' : Prop} (h : Labelled D threw res)
    (hD : ∀ contentType, D contentType → D' contentType) (hthrew : threw → threw') :
    Labelled D' threw' res where
  content hjson hbody := by
    obtain ⟨contentType, hdeclared, hheaders⟩ := h.content hjson hbody
    exact ⟨contentType, hD _ hdeclared, hheaders⟩
  error hjson hno := h.error hjson fun hyes => hno (hthrew hyes)

theorem Labelling.mono {D' : Option String → Prop} (h : Labelling D req)
    (hD : ∀ contentType, D contentType → D' contentType) : Labelling D' req where
  fetching := h.fetching
  streaming stream hstage := by
    obtain ⟨hset, ⟨contentType, hdeclared, hproxy⟩, hheaders⟩ := h.streaming stream hstage
    exact ⟨hset, ⟨contentType, hD _ hdeclared, hproxy⟩, hheaders⟩

/-- An error to which at most a `Retry-After` was added. -/
theorem labelled_sendJson (hheaders : res.headers = [] ∨
    ∃ seconds, res.headers = [("Retry-After", seconds)]) (status : ℕ)
    (body : List (String × Json)) : Labelled D threw (res.sendJson status body) where
  content hjson := by cases hjson
  error _ _ := hheaders

/-- The response as it is, for a client that left or a connection that is destroyed. -/
theorem labelled_partial {res' : ClientResponse} (hjson : res'.json = none)
    (hended : res'.ended = false)
    (hheaders : res'.body ≠ [] → ∃ contentType, D contentType ∧
      res'.headers = proxyHeaders contentType) : Labelled D threw res' where
  content _ hcontent := by
    refine hheaders (hcontent.resolve_right fun h => ?_)
    cases hended.symm.trans h
  error h := by
    rw [hjson] at h
    cases h

/-- Before the first byte nothing is set. -/
theorem Labelling.headers_eq_nil (h : Labelling D req) (hbody : req.res.body = []) :
    req.res.headers = [] := by
  have hunset : ∀ stream, req.stage = .reading stream ∨ req.stage = .writing stream →
      req.res.headers = [] := by
    intro stream hstage
    obtain ⟨hset, -, hheaders⟩ := h.streaming stream hstage
    rw [hheaders, if_neg fun hyes => hset.1 hyes hbody]
  cases hstage : req.stage with
  | fetching => exact h.fetching hstage
  | reading stream => exact hunset stream (.inl hstage)
  | writing stream => exact hunset stream (.inr hstage)

/-- With the first byte the headers are those of the gateway. -/
theorem Labelling.headers_eq (h : Labelling D req) (hsound : Sound cfg here b req)
    (hbody : req.res.body ≠ []) :
    ∃ contentType, D contentType ∧ req.res.headers = proxyHeaders contentType := by
  have hset : ∀ stream, req.stage = .reading stream ∨ req.stage = .writing stream →
      ∃ contentType, D contentType ∧ req.res.headers = proxyHeaders contentType := by
    intro stream hstage
    obtain ⟨hset, ⟨contentType, hdeclared, hproxy⟩, hheaders⟩ := h.streaming stream hstage
    rw [if_pos (hset.2 hbody)] at hheaders
    exact ⟨contentType, hdeclared, hheaders.trans hproxy⟩
  cases hstage : req.stage with
  | fetching =>
    have hreceived := hsound.received
    rw [hstage] at hreceived
    exact absurd (hsound.bytes.trans hreceived) hbody
  | reading stream => exact hset stream (.inl hstage)
  | writing stream => exact hset stream (.inr hstage)

/-! ## The parts of the handler -/

theorem labelled_answerFailure (h : Labelling D req) (hsound : Sound cfg here b req)
    (gateways : List GatewayState) (now : Clock) (failure : GatewayFailure)
    (hbody : req.res.body = []) :
    Labelled D threw (answerFailure gateways now { req with failure }).res := by
  have hnil := h.headers_eq_nil hbody
  have hretry : ∀ seconds, (req.res.set [("Retry-After", seconds)]).headers =
      [("Retry-After", seconds)] := by
    intro seconds
    rw [ClientResponse.set, hnil]
    rfl
  unfold answerFailure
  split
  · exact labelled_partial hsound.json hsound.ended fun hne => absurd hbody hne
  · refine labelled_sendJson ?_ _ _
    split_ifs
    · exact .inr ⟨_, hretry _⟩
    · exact .inl hnil
    · exact .inr ⟨_, hretry _⟩
    · exact .inl hnil

theorem Labelling.loops (h : Labelling D req) (hsound : Sound cfg here b req)
    (hbody : req.res.body = []) (gateways : List GatewayState) (now : Clock)
    (failure : GatewayFailure) (index : ℕ) :
    Loops cfg r (fun req => Labelled D threw req.res) (Unlabelled r) gateways now
      { req with failure } index :=
  .intro (fun failure => labelled_answerFailure h hsound gateways now failure hbody)
    fun _ _ _ hc => ⟨hc, rfl, h.headers_eq_nil hbody⟩

theorem Labelling.labelled (h : Labelling D req) (hsound : Sound cfg here b req) :
    Labelled D threw req.res :=
  labelled_partial hsound.json hsound.ended (h.headers_eq hsound)

theorem Labelling.sendStreamError (h : Labelling D req) (hsound : Sound cfg here b req)
    (status : ℕ) (error : String) : Labelled D threw (sendStreamError req.res status error) := by
  unfold QrlBackend.sendStreamError
  split
  · exact labelled_partial hsound.json hsound.ended (h.headers_eq hsound)
  next hsent =>
    refine labelled_sendJson (.inl (h.headers_eq_nil ?_)) _ _
    exact hsound.toSent.body_eq_nil (Bool.eq_false_iff.2 hsent)

theorem Labelling.throws (h : Labelling D req) (hsound : Sound cfg here b req)
    (gateways : List GatewayState) (now : Clock) (failure : GatewayFailure) :
    Throws cfg r (fun req => Labelled D threw req.res) (Unlabelled r) gateways now req failure where
  gone _ := h.labelled hsound
  sent _ _ := h.sendStreamError hsound _ _
  next _ hsent := by
    rw [Bool.or_eq_false_iff] at hsent
    exact h.loops hsound (hsound.toSent.body_eq_nil hsent.2) _ _ _ _

theorem Labelling.fetched (h : Labelling D req) (hsound : Sound cfg here b req)
    (hreq : st.requests.get? r = some req) (hstage : req.stage = .fetching)
    (parseDate : String → Option ℤ) (answer : Except String GatewayResponse)
    (hD : ∀ response, answer = .ok response → isOk response.status = true →
      D response.contentType) :
    Handled st r (fun req => Labelled D threw req.res) (Labelling D) (Unlabelled r)
      (st.fetched parseDate cfg r now req answer) := by
  have hbody : req.res.body = [] := by
    have hreceived := hsound.received
    rw [hstage] at hreceived
    exact hsound.bytes.trans hreceived
  refine .fetchedResponse hreq (fun _ => h.throws hsound _ _ _)
    (fun _ _ _ _ _ _ => h.loops hsound hbody _ _ _ _)
    (fun _ _ _ => labelled_answerFailure h hsound _ _ _ hbody)
    (fun status body _ => labelled_sendJson (.inl (h.headers_eq_nil hbody)) _ _)
    (fun response hanswer hok => ⟨fun hno => ?_, ?_⟩) fun _ => h
  · cases hno
  · rintro stream (heq | heq)
    · cases heq
      refine ⟨iff_of_false Bool.false_ne_true (not_not.2 hbody),
        ⟨_, hD response hanswer hok, rfl⟩, h.headers_eq_nil hbody⟩
    · cases heq

/-- The headers are set with the first chunk. -/
theorem Labelling.setProxyHeaders (h : Labelling D req) {stream : StreamState}
    (hstage : req.stage = .reading stream) : ∃ contentType, D contentType ∧
      stream.proxyHeaders = proxyHeaders contentType ∧
        (setProxyHeaders req stream).headers = proxyHeaders contentType := by
  obtain ⟨hset, ⟨contentType, hdeclared, hproxy⟩, hheaders⟩ := h.streaming stream (.inl hstage)
  refine ⟨contentType, hdeclared, hproxy, ?_⟩
  unfold QrlBackend.setProxyHeaders
  cases hyes : stream.proxyHeadersSet with
  | true =>
    rw [hyes, if_pos rfl, hproxy] at hheaders
    exact hheaders
  | false =>
    rw [hyes, if_neg Bool.false_ne_true] at hheaders
    rw [if_neg Bool.false_ne_true, ClientResponse.set, hheaders, hproxy]
    rfl

theorem Labelling.read (h : Labelling D req) (hsound : Sound cfg here b req)
    {stream : StreamState} (hstage : req.stage = .reading stream) (result : Except String Chunk)
    (hthrew : ∀ value, result = .ok (.bytes value true) → threw) :
    Handled st r (fun req => Labelled D threw req.res) (Labelling D) (Unlabelled r)
      (st.read cfg r now req stream result) := by
  obtain ⟨contentType, hdeclared, hproxy, hheaders⟩ := h.setProxyHeaders hstage
  have hsent := hsound.toSent.setProxyHeaders stream
  refine .read (fun _ => h.throws hsound _ _ _) ?_ ?_ ?_ ?_ ?_ (h.sendStreamError hsound _ _)
  · refine fun _ _ => ⟨fun _ _ => ⟨contentType, hdeclared, hheaders⟩, fun hjson => ?_⟩
    rw [show (ClientResponse.finish _).json = none from hsent.json] at hjson
    cases hjson
  · intro value writeThrows _ _
    dsimp only
    split
    · exact labelled_partial hsound.json hsound.ended (h.headers_eq hsound)
    next hno =>
      refine labelled_sendJson (.inl (h.headers_eq_nil ?_)) _ _
      exact hsound.toSent.body_eq_nil (Bool.eq_false_iff.2 hno)
  · refine fun _ _ => ⟨fun hno => ?_, ?_⟩
    · cases hno
    · rintro stream' (heq | heq)
      · cases heq
        exact h.streaming stream (.inl hstage)
      · cases heq
  · -- The headers are set, and the write throws before the response has begun.
    rintro value hresult
    have hyes := hthrew value hresult
    refine ⟨fun _ => ?_, fun _ _ => ?_, fun _ hno => ?_⟩
    · exact labelled_partial hsent.json hsent.ended fun _ => ⟨contentType, hdeclared, hheaders⟩
    · dsimp only
      unfold QrlBackend.sendStreamError
      split
      · exact labelled_partial hsent.json hsent.ended fun _ => ⟨contentType, hdeclared, hheaders⟩
      · exact ⟨fun hjson => (by cases hjson), fun _ hno => absurd hyes hno⟩
    · cases hno
  · rintro value _ hvalue _ _
    refine ⟨fun hno => ?_, ?_⟩
    · cases hno
    · rintro stream' (heq | heq)
      · cases heq
      · cases heq
        refine ⟨iff_of_true rfl fun hnil => ?_, ⟨contentType, hdeclared, hproxy⟩, ?_⟩
        · exact hvalue (List.append_eq_nil_iff.1 hnil).2
        · exact hheaders.trans hproxy.symm

theorem Labelling.written (h : Labelling D req) (hsound : Sound cfg here b req)
    {stream : StreamState} (hstage : req.stage = .writing stream)
    (result : Except String Unit) :
    Handled st r (fun req => Labelled D threw req.res) (Labelling D) (Unlabelled r)
      (st.written cfg r now req stream result) := by
  refine .written (fun _ => h.throws hsound _ _ _) ⟨fun hno => ?_, ?_⟩
  · cases hno
  · rintro stream' (heq | heq)
    · cases heq
      exact h.streaming stream (.inr hstage)
    · cases heq

/-! ## Steps -/

variable {parseDate : String → Option ℤ} {es : List IpfsEvent}

/-- What holds of the headers of a request in the state after a run. -/
structure Labels (parseDate : String → Option ℤ) (cfg : IpfsConfig) (r : ℕ) (es : List IpfsEvent)
    (st : IpfsProxy) : Prop where
  underWay : ∀ req, st.requests.get? r = some req →
    Labelling (Declared parseDate cfg r es (st.contactsOf r)) req
  answered : ∀ res ∈ st.answersOf r,
    Labelled (Declared parseDate cfg r es (st.contactsOf r)) (WriteThrew r es) res

/-- Nothing happens to the request. -/
theorem Labels.snoc (h : Labels parseDate cfg r es st) (e : IpfsEvent) {st' : IpfsProxy}
    (hget : st'.requests.get? r = st.requests.get? r)
    (hcontacts : st'.contactsOf r = st.contactsOf r)
    (hanswers : st'.answersOf r = st.answersOf r) : Labels parseDate cfg r (es ++ [e]) st' where
  underWay req hreq := by
    rw [hcontacts]
    exact (h.underWay req (hget ▸ hreq)).mono fun _ hdeclared => hdeclared.snoc e
  answered res hres := by
    rw [hcontacts]
    exact (h.answered res (hanswers ▸ hres)).mono (fun _ hdeclared => hdeclared.snoc e)
      fun hthrew => hthrew.snoc e

/-- What the handler has made of a request without an answer. -/
theorem Labels.of_handled {st' : IpfsProxy} (hanswers : st.answersOf r = [])
    (hstep : Handled st r
      (fun req =>
        Labelled (Declared parseDate cfg r es (st.contactsOf r)) (WriteThrew r es) req.res)
      (Labelling (Declared parseDate cfg r es (st.contactsOf r))) (Unlabelled r) st') :
    Labels parseDate cfg r es st' := by
  cases hstep with
  | finished req hreq hframe hanswered hcontacted =>
    have hcontacts : st'.contactsOf r = st.contactsOf r := congrArg (List.filter _) hcontacted
    refine ⟨fun req' hreq' => ?_, fun res hres => ?_⟩
    · rw [hframe.get?, if_pos rfl] at hreq'
      cases hreq'
    · rw [answersOf] at hanswers hres
      rw [hanswered, List.filter_append, List.map_append, hanswers] at hres
      obtain rfl : res = req.res := by simpa using hres
      rw [hcontacts]
      exact hreq
  | awaits req hreq hframe hanswered hcontacted =>
    have hcontacts : st'.contactsOf r = st.contactsOf r := congrArg (List.filter _) hcontacted
    refine ⟨fun req' hreq' => ?_, fun res hres => ?_⟩
    · rw [hframe.get?, if_pos rfl] at hreq'
      cases hreq'
      rw [hcontacts]
      exact hreq
    · rw [answersOf, hanswered, ← answersOf, hanswers] at hres
      cases hres
  | contacts req c hreq hframe hanswered hcontacted =>
    refine ⟨fun req' hreq' => ?_, fun res hres => ?_⟩
    · rw [hframe.get?, if_pos rfl] at hreq'
      cases hreq'
      refine ⟨fun _ => hreq.headers, ?_⟩
      rintro stream (hstage | hstage)
      · cases hreq.stage.symm.trans hstage
      · cases hreq.stage.symm.trans hstage
    · rw [answersOf, hanswered, ← answersOf, hanswers] at hres
      cases hres

/-- A request that comes in is answered at once, or enters the loop. -/
theorem labelled_request (cfg : IpfsConfig) (st : IpfsProxy) (opened : ℚ) (now : Clock)
    (cid rest : String) :
    (∃ res, (∀ D threw, Labelled D threw res) ∧
      RefusedAtOnce st res (st.request cfg opened now cid rest)) ∨
    ∃ slot slots, st.request cfg opened now cid rest =
      { st with slots, next := st.next + 1 }.advance cfg st.next now
        (newRequest cfg opened cid rest slot) 0 := by
  have herror : ∀ (status : ℕ) (body : List (String × Json)) D threw,
      Labelled D threw (ClientResponse.new.sendJson status body) :=
    fun status body _ _ => labelled_sendJson (.inl rfl) status body
  unfold IpfsProxy.request
  dsimp only
  split
  · exact .inl ⟨_, herror _ _, rfl, rfl, rfl, rfl, rfl, _, _, _, rfl, rfl, rfl, .inl rfl⟩
  · split
    · exact .inl ⟨_, herror _ _, rfl, rfl, rfl, rfl, rfl, _, _, _, rfl, rfl, rfl, .inl rfl⟩
    · split
      · exact .inl ⟨_, fun _ _ => labelled_sendJson (.inr ⟨_, rfl⟩) _ _, rfl, rfl, rfl, rfl, rfl,
          _, _, _, rfl, rfl, rfl, .inr rfl⟩
      next slot slots _ => exact .inr ⟨slot, slots, rfl⟩

theorem Labels.request (hnone : st.requests.get? st.next = none)
    (hanswers : st.answersOf st.next = []) (opened : ℚ) (now : Clock) (cid rest : String) :
    Labels parseDate cfg st.next es (st.request cfg opened now cid rest) := by
  obtain ⟨res, hlabelled, hrefused⟩ | ⟨slot, slots, hrequest⟩ :=
    labelled_request cfg st opened now cid rest
  · refine ⟨fun req hreq => ?_, fun res' hres' => ?_⟩
    · rw [hrefused.requests, hnone] at hreq
      cases hreq
    · rw [answersOf] at hanswers hres'
      rw [hrefused.answered, List.filter_append, List.map_append, hanswers] at hres'
      obtain rfl : res' = res := by simpa using hres'
      exact hlabelled _ _
  · have hsame : ({ st with slots, next := st.next + 1 } : IpfsProxy).answersOf st.next = [] :=
      hanswers
    rw [hrequest]
    refine .of_handled hsame (.advance ?_)
    refine Labelling.loops ⟨fun _ => rfl, ?_⟩ (sound_newRequest cfg True opened cid rest slot) rfl
      _ _ coolingFailure _
    rintro stream (hstage | hstage)
    · cases hstage
    · cases hstage

/-- An event of a request under way. -/
theorem Labels.react (h : Labels parseDate cfg r es st)
    (hst : Runs.run (IpfsProxy.step parseDate cfg) (.init cfg) es = st)
    (hreq : st.requests.get? r = some req) (hsound : Sound cfg here b req)
    (hanswers : st.answersOf r = []) {e : IpfsEvent} (he : e.about? = some r) :
    Labels parseDate cfg r (es ++ [e]) (st.step parseDate cfg e) := by
  have hlabelling := (h.underWay req hreq).mono fun _ hdeclared => hdeclared.snoc e
  refine .of_handled hanswers ?_
  have hreacts := reacts parseDate cfg he hreq
  generalize st.step parseDate cfg e = st' at hreacts ⊢
  cases hreacts with
  | fetched now answer hstage =>
    refine hlabelling.fetched hsound hreq hstage parseDate answer fun response hanswer hok => ?_
    subst hanswer
    exact ⟨es, now, response, [], req, rfl, hst ▸ hreq, hstage, hok, rfl, by rw [hst]⟩
  | read now result stream hstage =>
    refine hlabelling.read hsound hstage result fun value hresult => ⟨now, value, ?_⟩
    subst hresult
    exact List.mem_append_right _ (List.mem_singleton_self _)
  | written now result stream hstage => exact hlabelling.written hsound hstage result
  | attemptTimeout | deadline | disconnect =>
    exact .await ⟨hlabelling.fetching, hlabelling.streaming⟩
  | ignored e hfetched hread => exact .same hreq hlabelling

theorem labels_run (parseDate : String → Option ℤ) (cfg : IpfsConfig) (r : ℕ)
    (es : List IpfsEvent) : Labels parseDate cfg r es
      (Runs.run (IpfsProxy.step parseDate cfg) (.init cfg) es) := by
  induction es using List.reverseRecOn with
  | nil => exact ⟨fun _ hreq => (by cases hreq), fun _ hres => (by cases hres)⟩
  | append_singleton es e ih =>
    obtain ⟨-, hd⟩ := delivered_run parseDate cfg r es
    rw [Runs.run_snoc]
    generalize hst : Runs.run (IpfsProxy.step parseDate cfg) (.init cfg) es = st at ih hd
    by_cases habout : e.about? = some r
    · cases hreq : st.requests.get? r with
      | none =>
        rw [step_of_none parseDate cfg habout hreq]
        exact ih.snoc e rfl rfl rfl
      | some req =>
        obtain ⟨hsound, hanswers⟩ := hd.underWay req hreq
        exact ih.react hst hreq hsound hanswers habout
    · by_cases hnew : e.about? = none ∧ r = st.next
      · obtain ⟨hnone, rfl⟩ := hnew
        obtain ⟨hget, hanswers, -, -⟩ := hd.fresh le_rfl
        cases e with
        | request opened now cid splat => exact .request hget hanswers opened now cid _
        | fetched | read | written | attemptTimeout | deadline | disconnect => cases hnone
      · have hsame := untouched_step parseDate cfg (fun hnone hr => hnew ⟨hnone, hr⟩) habout
        exact ih.snoc e hsame.get? hsame.contacts hsame.answers

/-- The handler has set just the proxy headers for the content type that the gateway of the bytes
declared, and they are sent as inert ones. -/
def Served (parseDate : String → Option ℤ) (fullType : String → String) (cfg : IpfsConfig) (r : ℕ)
    (es : List IpfsEvent) (res : ClientResponse) : Prop :=
  ∃ contentType, Declared parseDate cfg r es
      ((Runs.run (IpfsProxy.step parseDate cfg) (.init cfg) es).contactsOf r) contentType ∧
    res.headers = proxyHeaders contentType ∧ Inert (sentHeaders fullType res.headers)

end IpfsProxy

/-- Every complete response, and whatever a client has been sent of a gateway's body, is served
with inert headers for what this gateway declared. The handler sets none of them for an error,
unless a write threw. -/
theorem ipfs_content_inert (parseDate : String → Option ℤ) (fullType : String → String)
    (hfull : AddsParameters fullType) (cfg : IpfsConfig) (es : List IpfsEvent) (r : ℕ) :
    let st := Runs.run (IpfsProxy.step parseDate cfg) (.init cfg) es
    (∀ res ∈ st.answersOf r, res.json = none → res.body ≠ [] ∨ res.ended = true →
      IpfsProxy.Served parseDate fullType cfg r es res) ∧
    (∀ req, st.requests.get? r = some req → req.res.body ≠ [] →
      IpfsProxy.Served parseDate fullType cfg r es req.res) ∧
    ∀ res ∈ st.answersOf r, res.json.isSome = true → ¬IpfsProxy.WriteThrew r es →
      res.headers = [] ∨ ∃ seconds, res.headers = [("Retry-After", seconds)] := by
  have hlabels := IpfsProxy.labels_run parseDate cfg r es
  have hd := (IpfsProxy.delivered_run parseDate cfg r es).2
  have hserved : ∀ {res : ClientResponse}, (∃ contentType, IpfsProxy.Declared parseDate cfg r es
      ((Runs.run (IpfsProxy.step parseDate cfg) (.init cfg) es).contactsOf r) contentType ∧
        res.headers = proxyHeaders contentType) →
      IpfsProxy.Served parseDate fullType cfg r es res := by
    rintro res ⟨contentType, hdeclared, hheaders⟩
    exact ⟨contentType, hdeclared, hheaders, hheaders ▸ inert_proxyHeaders hfull contentType⟩
  refine ⟨fun res hres hjson hcontent => ?_, fun req hreq hbody => ?_,
    fun res hres => (hlabels.answered res hres).error⟩
  · exact hserved ((hlabels.answered res hres).content hjson hcontent)
  · exact hserved ((hlabels.underWay req hreq).headers_eq (hd.underWay req hreq).1 hbody)

/-- A gateway with the metadata of a token. -/
def metadataGateway : IpfsConfig where
  gateways := ["https://a.test/ipfs/"]
  fetchTimeoutMs := 8000
  fallbackReserveMs := 2000
  maxCooldownMs := 1200000
  serverErrorMinCids := 4
  serverErrorWindowMs := 60000
  maxSizeBytes := 10485760
  maxConcurrent := 8
  maxInflightBytes := 41943040
  le_fallbackReserveMs := by decide
  le_maxCooldownMs := by decide
  le_serverErrorMinCids := by decide

def metadataServed : List IpfsEvent :=
  [.request 0 ⟨0, 0⟩ "QmYwAPJzv5CZsnA625s3Xf2nemtYgPpHdWEz79ojWnPbdG" [],
    .fetched 0 ⟨20, 20⟩ (.ok ⟨200, none, some "2", some "application/json", true⟩),
    .read 0 ⟨30, 30⟩ (.ok (.bytes [123, 125] false)), .written 0 ⟨31, 31⟩ (.ok ()),
    .read 0 ⟨40, 40⟩ (.ok .done)]

/-- JSON is in UTF-8. -/
def withCharset (value : String) : String :=
  if value = "application/json" then value ++ "; charset=utf-8" else value

theorem ipfs_content_inert_json :
    let st := Runs.run (IpfsProxy.step (fun _ => none) metadataGateway) (.init metadataGateway)
      metadataServed
    (st.answersOf 0).map (fun res => (sentHeaders withCharset res.headers).lookup "Content-Type") =
        [some "application/json; charset=utf-8"] ∧
      ∀ res ∈ st.answersOf 0, res.json = none → res.ended = true →
        Inert (sentHeaders withCharset res.headers) := by
  have hfull : AddsParameters withCharset := by
    intro value _
    unfold withCharset
    split
    · exact .inr ⟨" charset=utf-8", by rw [String.append_assoc]; rfl⟩
    · exact .inl rfl
  intro st
  refine ⟨by decide +kernel, fun res hres hjson hended => ?_⟩
  obtain ⟨-, -, -, hinert⟩ := (ipfs_content_inert (fun _ => none) withCharset hfull metadataGateway
    metadataServed 0).1 res hres hjson (.inr hended)
  exact hinert

end QrlBackend
