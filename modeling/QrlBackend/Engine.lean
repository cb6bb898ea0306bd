import QrlBackend.RelayServer
import QrlBackend.Tallies

/-!
# Engine.IO sessions

The admission of Engine.IO sessions of `relay/relayServer.ts`, around the relay's own
events. `admitEngineRequest` decides on each HTTP request, the `connection` event opens the
session of an admitted request, and its `close` event ends it. Engine.IO makes the session
id between the two, so other events may come in between.

`clientsCount` is `io.engine.clientsCount`. `admitted` are the admitted requests whose
session is not open yet, `sessions` the addresses of the open ones. A request id stands for
one request.
-/

set_option autoImplicit false

namespace QrlBackend

variable {V : Type}

/-- What `admitEngineRequest` reads of a request : its normalised address, and whether it
carries a session id. -/
structure EngineRequest where
  clientIp : String
  isExistingEngineSession : Bool
  deriving DecidableEq

structure EngineServer (V : Type) where
  relay : RelayServer V
  engineSessionsByIp : JsMap String ℕ
  clientsCount : ℕ
  admitted : JsMap ℕ EngineRequest
  sessions : JsMap ℕ String

inductive EngineEvent (V : Type) where
  | request (now : ℕ) (id : ℕ) (req : EngineRequest)
  | connection (id : ℕ)
  | close (id : ℕ)
  | relay (input : Input V)

namespace EngineServer

def create (cfg : Config) : EngineServer V where
  relay := .create cfg
  engineSessionsByIp := .empty
  clientsCount := 0
  admitted := .empty
  sessions := .empty

/-- Engine.IO admission. Only requests without a session id open a new session. -/
def admitEngineRequest (cfg : Config) (now : ℕ) (st : EngineServer V) (req : EngineRequest) :
    Bool × EngineServer V :=
  if req.isExistingEngineSession then (true, st)
  else
    let (allowed, relay) :=
      st.relay.checkRateLimit now req.clientIp .handshake rateLimitMaxConnections
    let st := { st with relay }
    if !allowed then (false, st)
    else if cfg.relayMaxSocketsPerIp ≤ (st.engineSessionsByIp.get? req.clientIp).getD 0 then
      (false, st)
    else if cfg.relayMaxActiveSockets ≤ st.clientsCount then (false, st)
    else (true, st)

/-- Engine.IO opens a session, and the `connection` handler runs. -/
def onConnection (st : EngineServer V) (id : ℕ) (ip : String) : EngineServer V :=
  { st with
    admitted := st.admitted.delete id
    sessions := st.sessions.set id ip
    clientsCount := st.clientsCount + 1
    engineSessionsByIp :=
      st.engineSessionsByIp.set ip ((st.engineSessionsByIp.get? ip).getD 0 + 1) }

/-- Engine.IO closes a session, and the `close` handler runs. -/
def onClose (st : EngineServer V) (id : ℕ) (ip : String) : EngineServer V :=
  let count := (st.engineSessionsByIp.get? ip).getD 0
  { st with
    sessions := st.sessions.delete id
    clientsCount := st.clientsCount - 1
    engineSessionsByIp :=
      if count ≤ 1 then st.engineSessionsByIp.delete ip
      else st.engineSessionsByIp.set ip (count - 1) }

def step [Unknown V] (cfg : Config) (st : EngineServer V) (event : EngineEvent V) :
    EngineServer V :=
  match event with
  | .request now id req =>
    if st.admitted.has id || st.sessions.has id then st
    else
      match st.admitEngineRequest cfg now req with
      | (false, st) => st
      | (true, st) => { st with admitted := st.admitted.set id req }
  | .connection id =>
    match st.admitted.get? id with
    | none => st
    | some req => st.onConnection id req.clientIp
  | .close id =>
    match st.sessions.get? id with
    | none => st
    | some ip => st.onClose id ip
  | .relay input => { st with relay := st.relay.step cfg input }

def after [Unknown V] (cfg : Config) (events : List (EngineEvent V)) : EngineServer V :=
  Runs.run (step cfg) (create cfg) events

/-! ## The counts -/

/-- The addresses of the admitted requests that may still open a new session. -/
def outstanding (st : EngineServer V) : List String :=
  (st.admitted.values.filter fun req => !req.isExistingEngineSession).map (·.clientIp)

/-- The counters count the open sessions, and a request is open or not yet. -/
structure Counted (st : EngineServer V) : Prop where
  byIp : st.engineSessionsByIp.Tallies st.sessions.values
  total : st.clientsCount = st.sessions.values.length
  fresh : ∀ id, st.sessions.has id = true → st.admitted.get? id = none

theorem counted_create (cfg : Config) : Counted (create cfg : EngineServer V) where
  byIp := JsMap.tallies_empty
  total := rfl
  fresh id h := by cases h

namespace Counted

variable {st : EngineServer V} {id : ℕ}

theorem connection (h : Counted st) {req : EngineRequest}
    (hget : st.admitted.get? id = some req) :
    Counted (st.onConnection id req.clientIp) ∧
    (st.onConnection id req.clientIp).sessions.values.Perm
      (req.clientIp :: st.sessions.values) := by
  have hnone : st.sessions.get? id = none := by
    by_contra hsome
    rw [h.fresh id (Option.isSome_iff_ne_none.2 hsome)] at hget
    cases hget
  have hperm : (st.onConnection id req.clientIp).sessions.values.Perm
      (req.clientIp :: st.sessions.values) := by
    rw [onConnection, JsMap.values_set_of_none _ hnone]
    exact List.perm_append_singleton _ _
  refine ⟨⟨(h.byIp.enter req.clientIp).perm hperm.symm, ?_, fun id' hopen => ?_⟩, hperm⟩
  · rw [hperm.length_eq, List.length_cons, ← h.total]
    rfl
  · simp only [onConnection, JsMap.has_eq, JsMap.get?_set] at hopen
    simp only [onConnection, JsMap.get?_delete]
    by_cases hid : id' = id
    · rw [if_pos hid]
    · rw [if_neg hid] at hopen ⊢
      exact h.fresh id' hopen

theorem close (h : Counted st) {ip : String} (hget : st.sessions.get? id = some ip) :
    Counted (st.onClose id ip) ∧
    st.sessions.values.Perm (ip :: (st.onClose id ip).sessions.values) := by
  have hperm : st.sessions.values.Perm (ip :: (st.onClose id ip).sessions.values) :=
    JsMap.values_perm_delete hget
  refine ⟨⟨(h.byIp.perm hperm).leave, ?_, fun id' hopen => ?_⟩, hperm⟩
  · have hlen := hperm.length_eq
    rw [List.length_cons, ← h.total] at hlen
    exact Nat.sub_eq_of_eq_add hlen
  · simp only [onClose, JsMap.has_eq, JsMap.get?_delete] at hopen
    by_cases hid : id' = id
    · rw [if_pos hid] at hopen
      cases hopen
    · rw [if_neg hid] at hopen
      exact h.fresh id' hopen

end Counted

/-- An admission changes the rate limits only. -/
theorem admitEngineRequest_state (cfg : Config) (now : ℕ) (st : EngineServer V)
    (req : EngineRequest) :
    (st.admitEngineRequest cfg now req).2 =
      { st with relay := (st.admitEngineRequest cfg now req).2.relay } := by
  unfold admitEngineRequest
  split
  · rfl
  · dsimp only
    split
    · rfl
    · split
      · rfl
      · split <;> rfl

/-! ## The caps -/

/-- The addresses of the open sessions and of the admitted requests that may still open one. -/
def claimed (st : EngineServer V) : List String := st.sessions.values ++ st.outstanding

/-- The list stays within the caps with one more session of the address. -/
def hasSpace (cfg : Config) (ip : String) (l : List String) : Bool :=
  l.count ip < cfg.relayMaxSocketsPerIp && l.length < cfg.relayMaxActiveSockets

/-- Sessions of the addresses stay within the caps. -/
structure Bounded (cfg : Config) (l : List String) : Prop where
  perIp : ∀ ip, l.count ip ≤ cfg.relayMaxSocketsPerIp
  overall : l.length ≤ cfg.relayMaxActiveSockets

/-- The open sessions are within the caps, per address and overall. -/
def WithinSessionCaps (cfg : Config) (st : EngineServer V) : Prop :=
  Bounded cfg st.sessions.values

/-- The event uses room that is not there : a new session is admitted into room that
outstanding sessions already fill, or a session opens for a request that carries a session
id, which passes no cap. -/
def overAdmits (cfg : Config) (st : EngineServer V) : EngineEvent V → Bool
  | .request now id req =>
    !(st.admitted.has id || st.sessions.has id) && !req.isExistingEngineSession &&
      (st.relay.checkRateLimit now req.clientIp .handshake rateLimitMaxConnections).1 &&
      hasSpace cfg req.clientIp st.sessions.values && !hasSpace cfg req.clientIp st.claimed
  | .connection id => (st.admitted.get? id).any (·.isExistingEngineSession)
  | .close _ | .relay _ => false

namespace Bounded

variable {cfg : Config} {l l' : List String} {ip : String}

theorem perm (h : Bounded cfg l) (hperm : l.Perm l') : Bounded cfg l' where
  perIp ip := hperm.count_eq ip ▸ h.perIp ip
  overall := hperm.length_eq ▸ h.overall

theorem sublist (h : Bounded cfg l) (hsub : l'.Sublist l) : Bounded cfg l' where
  perIp ip := (hsub.count_le ip).trans (h.perIp ip)
  overall := hsub.length_le.trans h.overall

theorem snoc (h : Bounded cfg l) (hspace : hasSpace cfg ip l = true) :
    Bounded cfg (l ++ [ip]) := by
  simp only [hasSpace, Bool.and_eq_true, decide_eq_true_eq] at hspace
  constructor
  · intro ip'
    rw [List.count_append, List.count_singleton]
    split
    next heq =>
      rw [← beq_iff_eq.1 heq]
      exact hspace.1
    next => exact h.perIp ip'
  · rw [List.length_append, List.length_singleton]
    exact hspace.2

end Bounded

/-! ### Admitted requests -/

section Outstanding

variable {st : EngineServer V} {id : ℕ} {req : EngineRequest}

/-- A request that may open a session joins the outstanding ones. -/
theorem outstanding_set (hnone : st.admitted.get? id = none) (relay : RelayServer V) :
    ({ st with relay := relay, admitted := st.admitted.set id req } : EngineServer V).outstanding =
      st.outstanding ++ if req.isExistingEngineSession then [] else [req.clientIp] := by
  simp only [outstanding, JsMap.values_set_of_none _ hnone, List.filter_append, List.map_append]
  congr 1
  cases h : req.isExistingEngineSession <;> simp [h]

/-- An outstanding request is one no more when its session opens. -/
theorem outstanding_delete (hget : st.admitted.get? id = some req)
    (hnew : req.isExistingEngineSession = false) :
    st.outstanding.Perm (req.clientIp :: (st.onConnection id req.clientIp).outstanding) := by
  have hperm := ((JsMap.values_perm_delete hget).filter
    fun req => !req.isExistingEngineSession).map (·.clientIp)
  rw [List.filter_cons_of_pos (by simp [hnew])] at hperm
  exact hperm

end Outstanding

variable {cfg : Config} {st : EngineServer V}

/-- The counters are checked, so an admitted request finds room among the open sessions. -/
theorem hasSpace_of_admitted {now : ℕ} {req : EngineRequest} (h : Counted st)
    (hnew : req.isExistingEngineSession = false)
    (hadmitted : (st.admitEngineRequest cfg now req).1 = true) :
    (st.relay.checkRateLimit now req.clientIp .handshake rateLimitMaxConnections).1 = true ∧
    hasSpace cfg req.clientIp st.sessions.values = true := by
  unfold admitEngineRequest at hadmitted
  rw [hnew, if_neg Bool.false_ne_true] at hadmitted
  dsimp only at hadmitted
  rw [h.byIp.getD, h.total] at hadmitted
  split at hadmitted
  · cases hadmitted
  next hallowed =>
    split at hadmitted
    · cases hadmitted
    · split at hadmitted
      · cases hadmitted
      · simp only [hasSpace, Bool.and_eq_true, decide_eq_true_eq]
        exact ⟨by simpa using hallowed, by omega, by omega⟩

/-- What every event keeps that does not admit too many. -/
structure Capped (cfg : Config) (st : EngineServer V) : Prop where
  counted : Counted st
  bounded : Bounded cfg st.claimed

theorem Capped.request {now id : ℕ} {req : EngineRequest} (h : Capped cfg st)
    (hnone : st.admitted.get? id = none) (hopen : st.sessions.has id = false)
    (hadmitted : (st.admitEngineRequest cfg now req).1 = true)
    (hfits : overAdmits cfg st (.request now id req) = false) :
    Capped cfg { st with
      relay := (st.admitEngineRequest cfg now req).2.relay
      admitted := st.admitted.set id req } := by
  refine ⟨⟨h.counted.byIp, h.counted.total, fun id' hid' => ?_⟩, ?_⟩
  · have hne : id' ≠ id := by
      rintro rfl
      rw [hopen] at hid'
      cases hid'
    dsimp only
    rw [JsMap.get?_set_of_ne _ _ hne]
    exact h.counted.fresh id' hid'
  · unfold claimed
    rw [outstanding_set hnone, ← List.append_assoc]
    cases hnew : req.isExistingEngineSession with
    | true =>
      rw [if_pos rfl, List.append_nil]
      exact h.bounded
    | false =>
      obtain ⟨hallowed, hspace⟩ := hasSpace_of_admitted h.counted hnew hadmitted
      have hunknown : st.admitted.has id = false := by rw [JsMap.has_eq, hnone]; rfl
      rw [if_neg Bool.false_ne_true]
      refine h.bounded.snoc ?_
      simpa [overAdmits, hunknown, hopen, hnew, hallowed, hspace] using hfits

theorem Capped.connection {id : ℕ} {req : EngineRequest} (h : Capped cfg st)
    (hget : st.admitted.get? id = some req)
    (hnew : req.isExistingEngineSession = false) :
    Capped cfg (st.onConnection id req.clientIp) := by
  obtain ⟨hcounted, hperm⟩ := h.counted.connection hget
  have hopened : st.claimed.Perm (req.clientIp :: st.sessions.values ++
      (st.onConnection id req.clientIp).outstanding) :=
    ((outstanding_delete hget hnew).append_left _).trans List.perm_middle
  exact ⟨hcounted, h.bounded.perm (hopened.trans (hperm.symm.append_right _))⟩

theorem Capped.close {id : ℕ} {ip : String} (h : Capped cfg st)
    (hget : st.sessions.get? id = some ip) : Capped cfg (st.onClose id ip) := by
  obtain ⟨hcounted, hperm⟩ := h.counted.close hget
  exact ⟨hcounted, (h.bounded.perm (hperm.append_right st.outstanding)).sublist
    (List.sublist_cons_self _ _)⟩

variable [Unknown V]

theorem Capped.step {event : EngineEvent V} (h : Capped cfg st)
    (hfits : overAdmits cfg st event = false) : Capped cfg (step cfg st event) := by
  cases event with
  | request now id req =>
    unfold EngineServer.step
    dsimp only
    split
    · exact h
    next hknown =>
      rw [Bool.not_eq_true, Bool.or_eq_false_iff] at hknown
      have hnone : st.admitted.get? id = none := by simpa [JsMap.has_eq] using hknown.1
      split
      next st' hout =>
        have hstate := admitEngineRequest_state cfg now st req
        rw [hout] at hstate
        dsimp only at hstate
        rw [hstate]
        exact ⟨⟨h.counted.byIp, h.counted.total, h.counted.fresh⟩, h.bounded⟩
      next st' hout =>
        have hstate := admitEngineRequest_state cfg now st req
        have hcapped := h.request hnone hknown.2 (by rw [hout]) hfits
        rw [hout] at hstate hcapped
        dsimp only at hstate hcapped
        rwa [hstate]
  | connection id =>
    unfold EngineServer.step
    dsimp only
    split
    · exact h
    next req hget => exact h.connection hget (by simpa [overAdmits, hget] using hfits)
  | close id =>
    unfold EngineServer.step
    dsimp only
    split
    · exact h
    next ip hget => exact h.close hget
  | relay input => exact ⟨⟨h.counted.byIp, h.counted.total, h.counted.fresh⟩, h.bounded⟩

/-- In every run that admits no session beyond the room that open and outstanding ones
leave, the open sessions are within the caps at every moment. -/
theorem session_caps_hold (cfg : Config) (events : List (EngineEvent V))
    (hfits : Runs.Guarded (EngineServer.step cfg) (fun st event => overAdmits cfg st event = false)
      (create cfg) events) :
    WithinSessionCaps cfg (after cfg events) := by
  have hinit : Capped cfg (create cfg : EngineServer V) :=
    ⟨counted_create cfg, fun ip => Nat.zero_le _, Nat.zero_le _⟩
  have hcapped : Capped cfg (after cfg events) :=
    hfits.run_invariant (fun st event h hok => h.step hok) hinit
  exact hcapped.bounded.sublist (List.sublist_append_left _ _)

/-- One address opens a session, and closes it before it opens the next one. -/
theorem session_caps_hold_one : WithinSessionCaps { Config.unset with relayMaxSocketsPerIp := 1 }
    (after { Config.unset with relayMaxSocketsPerIp := 1 } ([.request 0 1 ⟨"a", false⟩,
      .connection 1, .close 1, .request 0 2 ⟨"a", false⟩, .connection 2] :
        List (EngineEvent String))) :=
  session_caps_hold _ _ (by decide)

/-- Two requests of one address are admitted before either session opens. -/
theorem session_cap_overrun : ¬WithinSessionCaps { Config.unset with relayMaxSocketsPerIp := 1 }
    (after { Config.unset with relayMaxSocketsPerIp := 1 } ([.request 0 1 ⟨"a", false⟩,
      .request 0 2 ⟨"a", false⟩, .connection 1, .connection 2] : List (EngineEvent String))) :=
  fun h => absurd (h.perIp "a") (by decide)

end EngineServer

end QrlBackend
