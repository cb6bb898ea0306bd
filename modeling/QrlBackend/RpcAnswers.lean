import QrlBackend.RpcRefusals

/-!
# Answers of the RPC routes

`rpc_answered_once` says what a client gets. Whatever else happens, a request either waits for
an upstream or has one answer, which stays. It is the refusal of the check that stopped the
request (`Refusal`), or one of those of its call (`Answer`) : the envelope an upstream gave for
this very request, the result of an earlier call's envelope under the request's own id, or a
failure that says nothing of the upstreams.
-/

set_option autoImplicit false

namespace QrlBackend

namespace RpcService

variable {cfg : RpcConfig} {st : RpcService}

/-! ## Numbers of calls -/

section Numbers

variable {V : Type} [Unknown V]

/-- The calls an event starts. -/
def starts : RpcEvent V → ℕ
  | .execute _ _ _ _ _ _ => 1
  | .monitor _ | .settle _ _ | .retry _ | .expire _ => 0

theorem next_step (st : RpcService) (event : RpcEvent V) :
    (st.step cfg event).next = st.next + starts event := by
  have hsteps := steps cfg st event
  generalize st.step cfg event = st' at hsteps
  cases hsteps with
  | monitor | expire => rfl
  | execute _ _ _ _ _ _ h => exact h.next
  | settle _ _ h | retry _ h => exact h.next

theorem next_le_run (st : RpcService) (events : List (RpcEvent V)) :
    st.next ≤ (Runs.run (RpcService.step cfg) st events).next := by
  refine @Runs.run_invariant _ _ (RpcService.step cfg) (fun st' => st.next ≤ st'.next)
    (fun st' event h => h.trans ?_) events st le_rfl
  rw [next_step]
  exact Nat.le_add_right _ _

/-- The call that starts at a place of a run is counted in every state after it. -/
theorem next_lt_run (st : RpcService) (before rest : List (RpcEvent V)) {now : ℕ}
    {text method : String} {params : V} {id : RpcId} {clientKey : Option String} :
    (Runs.run (RpcService.step cfg) st before).next <
      (Runs.run (RpcService.step cfg) st
        (before ++ .execute now text method params id clientKey :: rest)).next := by
  rw [Runs.run_append, Runs.run_cons]
  refine lt_of_lt_of_le ?_ (next_le_run _ rest)
  rw [next_step]
  exact Nat.lt_succ_self _

/-- A number is that of one call, at one place of the run. -/
theorem start_unique {st : RpcService} {before rest before' rest' : List (RpcEvent V)}
    {now now' : ℕ} {text text' method method' : String} {params params' : V} {id id' : RpcId}
    {clientKey clientKey' : Option String}
    (h : before ++ .execute now text method params id clientKey :: rest =
      before' ++ .execute now' text' method' params' id' clientKey' :: rest')
    (hnext : (Runs.run (RpcService.step cfg) st before).next =
      (Runs.run (RpcService.step cfg) st before').next) :
    before = before' ∧ now = now' ∧ text = text' ∧ method = method' ∧ params = params' ∧
      id = id' ∧ clientKey = clientKey' := by
  have hlength : before.length = before'.length := by
    rcases List.append_eq_append_iff.1 h with ⟨between, rfl, hbetween⟩ | ⟨between, rfl, hbetween⟩
    · cases between with
      | nil => simp
      | cons event between =>
        obtain ⟨rfl, -⟩ := List.cons.inj hbetween
        exact absurd hnext (next_lt_run st before between).ne
    · cases between with
      | nil => simp
      | cons event between =>
        obtain ⟨rfl, -⟩ := List.cons.inj hbetween
        exact absurd hnext (next_lt_run st before' between).ne'
  obtain ⟨hbefore, hrest⟩ := List.append_inj h hlength
  have hevent := (List.cons.inj hrest).1
  exact ⟨hbefore, by simpa using hevent⟩

end Numbers

/-! ## Replies -/

/-- A call has no reply while it is under way, and one after it. -/
theorem Phase.replies {requests : List Request} {trace : List Attempt} {standing : Standing}
    (h : Phase cfg requests trace standing) :
    standing.call.isSome = true ∧ standing.replies = [] ∨
      standing.call.isSome = false ∧ ∃ reply, standing.replies = [reply] := by
  cases h with
  | unknown reply => exact .inr ⟨rfl, reply, rfl⟩
  | @untried r reply => exact .inr ⟨rfl, reply, rfl⟩
  | next => exact .inl ⟨rfl, rfl⟩
  | waiting => exact .inl ⟨rfl, rfl⟩
  | @ended r trace reply => exact .inr ⟨rfl, reply, rfl⟩

section Replies

variable {V : Type} [Unknown V]

/-- Replies are never taken back. -/
theorem replies_step (st : RpcService) (event : RpcEvent V) :
    st.replies <+: (st.step cfg event).replies := by
  have hsteps := steps cfg st event
  generalize st.step cfg event = st' at hsteps
  cases hsteps with
  | monitor | expire => exact List.prefix_rfl
  | execute _ _ _ _ _ _ h => exact h.replies_mono
  | settle _ _ h | retry _ h => exact h.replies_mono

/-- The failures among the replies. -/
def Sound (st : RpcService) : Prop :=
  ∀ e ∈ st.replies, ∀ failure, e.2 = .error failure → Fails failure

theorem Sound.step (h : st.Sound) (event : RpcEvent V) : (st.step cfg event).Sound := by
  have hsteps := steps cfg st event
  generalize st.step cfg event = st' at hsteps
  intro e he failure hfailure
  cases hsteps with
  | monitor | expire => exact h e he failure hfailure
  | execute _ _ _ _ _ _ hturn =>
    exact (hturn.failure he hfailure).elim (fun he => h e he failure hfailure) id
  | settle _ _ hturn | retry _ hturn =>
    exact (hturn.failure he hfailure).elim (fun he => h e he failure hfailure) id

theorem sound_after (now : ℕ) (expectedIdentities : NetworkName → Option RpcIdentity)
    (events : List (RpcEvent V)) :
    (Runs.run (RpcService.step cfg) (init now cfg expectedIdentities) events).Sound :=
  Runs.run_invariant (fun _ event h => h.step event) events fun _ he => by cases he

theorem isolated_after (cfg : RpcConfig) (now : ℕ)
    (expectedIdentities : NetworkName → Option RpcIdentity) (events : List (RpcEvent V)) :
    Isolated cfg (init now cfg expectedIdentities) events := by
  induction events using List.reverseRecOn with
  | nil =>
    refine ⟨fun key result hget => ?_, fun i call hget => ?_, fun i response hmem => ?_⟩
    · cases hget
    · cases hget
    · cases hmem
  | append_singleton events event ih => exact isolated_step ih

omit [Unknown V] in
/-- What a call receives is the body of an answer to it. -/
theorem received?_eq_some {event : RpcEvent V} {r : Received}
    (h : received? st event = some r) :
    ∃ answer, event = .settle r.call answer ∧ callResult answer = .ok r.envelope := by
  cases event with
  | monitor | execute | retry | expire => cases h
  | settle i answer =>
    unfold received? at h
    dsimp only at h
    split at h
    · cases h
    · split at h
      next hresult =>
        cases h
        exact ⟨answer, rfl, hresult⟩
      · cases h

end Replies

end RpcService

/-! ## Answers of the routes -/

/-- What a call may be answered with that started after the events `before`. -/
inductive Answer (before events : List RpcProxyEvent) (st : RpcProxy) (i : ℕ) (x : RpcExecution) :
    HttpResponse → Prop
  /-- The body of an upstream's answer to an attempt of the call. -/
  | upstream {url : String} {answer : Fetched} {body : Json}
      (hcontacted : (i, url) ∈ st.service.contacted) (hanswer : .settle i answer ∈ events)
      (hresult : callResult answer = .ok body) : Answer before events st i x ⟨200, body⟩
  /-- The result of an upstream's answer to an earlier call. -/
  | cached {j : ℕ} {answer : Fetched} {body result : Json} (hmethod : x.method ∈ cacheableMethods)
      (hanswer : .settle j answer ∈ before) (hbody : callResult answer = .ok body)
      (hresult : RpcService.resultOf body = some result) :
      Answer before events st i x ⟨200, RpcService.cachedResponse x.id result⟩
  | unknownNetwork : Answer before events st i x ⟨404, errorBody "Unknown network"⟩
  | clientBusy : Answer before events st i x ⟨429, errorBody clientBusyMessage⟩
  | failed {status : ℕ} (hstatus : status ∈ [500, 502, 503]) :
      Answer before events st i x ⟨status, errorBody "Internal Server Error"⟩

/-- The failures of a call are answers. -/
theorem answer_of_fails {before events : List RpcProxyEvent} {st : RpcProxy} {i : ℕ}
    {x : RpcExecution} {failure : RpcFailure} (h : Fails failure) :
    Answer before events st i x (rpcResponse (.error failure)) := by
  cases h with
  | unknownNetwork =>
    rw [show rpcResponse (.error (.http ⟨404, "Unknown network"⟩)) =
      ⟨404, errorBody "Unknown network"⟩ from errorHandler_http (by decide) (by decide)]
    exact .unknownNetwork
  | clientBusy =>
    rw [show rpcResponse (.error (.http ⟨429, clientBusyMessage⟩)) =
      ⟨429, errorBody clientBusyMessage⟩ from errorHandler_http (by decide) (by decide)]
    exact .clientBusy
  | @unavailable err hstatus =>
    rw [show rpcResponse (.error (.http err)) = ⟨err.status, errorBody "Internal Server Error"⟩ from
      errorHandler_server (by omega)]
    exact .failed (by rcases hstatus with h | h <;> simp [h])
  | unserializable => exact .failed List.mem_cons_self

namespace RpcProxy

variable [Unknown (Option Json)] {app : RpcApp} {now : ℕ}
variable {expectedIdentities : NetworkName → Option RpcIdentity}

/-- Where the request stands that came with this number, after the events `before`. -/
inductive Stands (app : RpcApp) (before events : List RpcProxyEvent) (st : RpcProxy) (k : ℕ)
    (post : RpcPost) : Prop
  | refused {response : HttpResponse} (hresponses : st.responsesTo k = [response])
      (hawaiting : st.awaiting k = false) (h : Refusal app post response)
  | waiting {x : RpcExecution} (hresponses : st.responsesTo k = [])
      (hawaiting : st.awaiting k = true) (h : Vetted app post x)
  | answered {x : RpcExecution} {i : ℕ} {response : HttpResponse}
      (hresponses : st.responsesTo k = [response]) (hawaiting : st.awaiting k = false)
      (hvetted : Vetted app post x) (hcall : st.posts[k]? = some (.called i))
      (h : Answer before events st i x response)

omit [Unknown (Option Json)] in
/-- An answer the service sees is one of the run. -/
theorem mem_of_mem_serviceEvents {events : List RpcProxyEvent} {i : ℕ} {answer : Fetched}
    (h : .settle i answer ∈ events.filterMap (serviceEvent? app)) : .settle i answer ∈ events := by
  obtain ⟨event, hmem, hevent⟩ := List.mem_filterMap.1 h
  cases event with
  | post post =>
    unfold serviceEvent? at hevent
    dsimp only at hevent
    split at hevent <;> cases hevent
  | monitor | retry | expire => cases hevent
  | settle j answer' =>
    cases hevent
    exact hmem

theorem posts_prefix_step (st : RpcProxy) (event : RpcProxyEvent) :
    st.posts <+: (st.step app event).posts := by
  rw [posts_step]
  exact List.prefix_append _ _

theorem replies_prefix_step (st : RpcProxy) (event : RpcProxyEvent) :
    st.service.replies <+: (st.step app event).service.replies := by
  rw [service_step]
  cases serviceEvent? app event with
  | none => exact List.prefix_rfl
  | some event => exact RpcService.replies_step _ _

/-- Answers are never taken back. -/
theorem responsesTo_prefix_run (st : RpcProxy) (events : List RpcProxyEvent) (k : ℕ) :
    st.responsesTo k <+: (Runs.run (step app) st events).responsesTo k := by
  have hposts : st.posts <+: (Runs.run (step app) st events).posts :=
    @Runs.run_invariant _ _ (step app) (fun st' => st.posts <+: st'.posts)
      (fun st' event h => h.trans (posts_prefix_step st' event)) events st List.prefix_rfl
  have hreplies : st.service.replies <+: (Runs.run (step app) st events).service.replies :=
    @Runs.run_invariant _ _ (step app) (fun st' => st.service.replies <+: st'.service.replies)
      (fun st' event h => h.trans (replies_prefix_step st' event)) events st List.prefix_rfl
  unfold responsesTo
  cases hpost : st.posts[k]? with
  | none => exact List.nil_prefix
  | some outcome =>
    obtain ⟨more, hmore⟩ := hposts
    rw [← hmore, List.getElem?_append_left (List.getElem?_eq_some_iff.1 hpost).1, hpost]
    cases outcome with
    | refused => exact List.prefix_rfl
    | called i => exact ((hreplies.filter _).map _).map _

/-- A reply is one of the answers of its call. -/
theorem answer_of_reply {before rest : List RpcProxyEvent} {post : RpcPost} {x : RpcExecution}
    (hvet : vet app post = .ok x) {reply : Except RpcFailure Json}
    (hreply : ((after app now expectedIdentities before).service.next, reply) ∈
      (after app now expectedIdentities (before ++ .post post :: rest)).service.replies) :
    Answer before (before ++ .post post :: rest)
      (after app now expectedIdentities (before ++ .post post :: rest))
      (after app now expectedIdentities before).service.next x (rpcResponse reply) := by
  have hservice := @service_after app _ now expectedIdentities
  have hevent : serviceEvent? app (.post post) = some (execution post x) := by
    unfold serviceEvent?
    dsimp only
    rw [hvet]
  have hcut : (before ++ .post post :: rest).filterMap (serviceEvent? app) =
      before.filterMap (serviceEvent? app) ++
        execution post x :: rest.filterMap (serviceEvent? app) := by
    rw [List.filterMap_append, List.filterMap_cons_some hevent]
  cases reply with
  | error failure =>
    rw [hservice] at hreply
    exact answer_of_fails (RpcService.sound_after now expectedIdentities _ _ hreply failure rfl)
  | ok body =>
    have hisolated := RpcService.isolated_after app.rpc now expectedIdentities
      ((before ++ .post post :: rest).filterMap (serviceEvent? app))
    rw [hservice] at hreply
    rcases hisolated.answered _ _ hreply with ⟨⟨url, hurl⟩, r, hr, hcall, rfl⟩ |
      ⟨before', t, text, method, params, id, clientKey, rest', network, hcut', hnext, hnetwork,
        hserved⟩
    · obtain ⟨s, e, he, hreceived⟩ := Runs.exists_of_mem_collect hr
      obtain ⟨answer, rfl, hresult⟩ := RpcService.received?_eq_some hreceived
      rw [hcall] at he
      rw [← hservice] at hurl
      exact .upstream hurl (mem_of_mem_serviceEvents he) hresult
    · obtain ⟨rfl, -, -, rfl, -, rfl, -⟩ :=
        @RpcService.start_unique app.rpc _ _ (.init now app.rpc expectedIdentities) _ _ _ _ _ _
          _ _ _ _ _ _ _ _ _ _ (hcut.symm.trans hcut') (by rw [hnext, hservice])
      obtain ⟨r, hr, result, hresult, rfl, -⟩ := hserved.earlier
      obtain ⟨s, e, he, hreceived⟩ := Runs.exists_of_mem_collect hr
      obtain ⟨answer, rfl, hbody⟩ := RpcService.received?_eq_some hreceived
      exact .cached hserved.cacheable (mem_of_mem_serviceEvents he) hbody hresult

theorem stands (before rest : List RpcProxyEvent) (post : RpcPost) :
    Stands app before (before ++ .post post :: rest)
      (after app now expectedIdentities (before ++ .post post :: rest)) (posted before).length
      post := by
  have hpost := @posts_after app _ now expectedIdentities before rest post
  cases hvet : vet app post with
  | error response =>
    rw [outcome, hvet] at hpost
    refine .refused ?_ ?_ (refusal_of_vet hvet)
    · rw [responsesTo, hpost]
    · rw [awaiting, hpost]
  | ok x =>
    rw [outcome, hvet] at hpost
    dsimp only at hpost
    have hservice := @service_after app _ now expectedIdentities
    have htracked := RpcService.tracked_after app.rpc now expectedIdentities
      ((before ++ .post post :: rest).filterMap (serviceEvent? app))
      (after app now expectedIdentities before).service.next
    rw [← hservice] at htracked
    rcases htracked with ⟨hle, -⟩ | ⟨-, hphase⟩
    · refine absurd hle (not_le.2 ?_)
      have hevent : serviceEvent? app (.post post) = some (execution post x) := by
        unfold serviceEvent?
        dsimp only
        rw [hvet]
      rw [hservice, hservice, List.filterMap_append, List.filterMap_cons_some hevent]
      exact RpcService.next_lt_run _ _ _
    have hresponses : ∀ replies, ((after app now expectedIdentities
        (before ++ .post post :: rest)).service.standing
          (after app now expectedIdentities before).service.next).replies = replies →
        (after app now expectedIdentities (before ++ .post post :: rest)).responsesTo
          (posted before).length = replies.map rpcResponse := by
      rintro _ rfl
      rw [responsesTo, hpost]
    have hawaiting : (after app now expectedIdentities (before ++ .post post :: rest)).awaiting
        (posted before).length = ((after app now expectedIdentities
          (before ++ .post post :: rest)).service.standing
            (after app now expectedIdentities before).service.next).call.isSome := by
      rw [awaiting, hpost]
      rfl
    rcases hphase.replies with ⟨hcall, hreplies⟩ | ⟨hcall, reply, hreplies⟩
    · exact .waiting (hresponses _ hreplies) (hawaiting.trans hcall) (vetted_of_vet hvet)
    · refine .answered (hresponses _ hreplies) (hawaiting.trans hcall) (vetted_of_vet hvet) hpost
        (answer_of_reply hvet ?_)
      obtain ⟨e, he, rfl⟩ := List.mem_map.1 (hreplies ▸ List.mem_singleton_self reply)
      rw [List.mem_filter, decide_eq_true_eq] at he
      rw [← he.2]
      exact he.1

end RpcProxy

end QrlBackend
