import OtelHive.Api.Concurrent
import OtelHive.Lib.Lists
import OtelHive.Lib.Runs
import OtelHive.Proofs.Opamp.Concurrent
import OtelHive.Proofs.Opamp.Groups

/-!
# `OtelHive.Proofs.Api.Concurrent`: a push and the handlers of its agent

`HandleSendConfigToAgent` stores a config and then sets it on the agent. A message handler looks a
config up and sets it later, so it can set an older one after the request has set its own.

`Delivered` says that the server holds the config of the request once the request has returned, if
this config is the latest stored one. `Keeps` is the condition on a step, and `PushInv` the
invariant. `delivered_along` is the result over runs of one request and any handlers of its agent.
`push_stores` says that the storage calls of the request, in a row, are `StoreConfigForAgent`.
-/

set_option autoImplicit false

namespace OtelHive.Api.Concurrent

open OtelHive.Lib
open OtelHive.Opamp
open OtelHive.Opamp.Concurrent (System Call Handler)
open OtelHive.Sqlite (Storage)
open OtelHive.Types (Config)

/-! ### What the server holds -/

/-- The latest stored config of the agent has the content. -/
def Latest (srv : System) (a : UUID) (c : Bytes) : Prop :=
  ∃ config ∈ srv.store.getLatestConfigForAgent a, config.content = c

instance (srv : System) (a : UUID) (c : Bytes) : Decidable (Latest srv a c) :=
  inferInstanceAs (Decidable (∃ config ∈ srv.store.getLatestConfigForAgent a, config.content = c))

/-- The server holds the config for the agent that is registered under the id. -/
def ServerHolds (srv : System) (a : UUID) (c : Bytes) : Prop :=
  ∃ ref ∈ srv.agentsById.lookup a, ∃ agent ∈ srv.heap[ref]?, agent.Holds c

/-- Once the request has returned: if its config is the latest stored one of the agent, then the
server holds it. -/
def Delivered (a : UUID) (c : Bytes) (p : Process) : Prop :=
  (∀ push ∈ p.pushes, ∃ reply, push.stage = .returned reply) → Latest p.server a c →
    ServerHolds p.server a c

/-! ### The condition -/

/-- The call has set its config on the agent, or it has ended. -/
def Assigned : Call.Stage → Bool
  | .findAgent | .checkCapability _ | .setCustomConfig _ => false
  | .send _ _ | .notifyNow | .select | .returned _ => true

/-- The config that the next step of a handler sets. -/
def assigns : Handler.Stage → Option Bytes
  | .setInitialConfig config => config
  | _ => none

/-- The next step of the call does not end it early: the agent is registered, and it accepts remote
config. -/
def Reaches (srv : System) (call : Call) : Bool :=
  match call.stage with
  | .findAgent => (srv.agentsById.lookup call.agentId).isSome
  | .checkCapability ref =>
    srv.heap[ref]?.all (·.hasCapability AgentCapabilities.acceptsRemoteConfig)
  | _ => true

/-- The next step of the request does not end it early: the agent has a row with the capability,
and the config can be stored. -/
def Stores (s : Storage) (push : Push) : Bool :=
  match push.stage with
  | .getAgent =>
    match Services.getAgent push.env s push.agentID with
    | .ok (some agent) => agent.capabilities.contains "accepts_remote_config"
    | _ => false
  | .createConfig version =>
    match Services.createConfig push.env s (push.config version) with
    | .ok _ => true
    | .error _ => false
  | _ => true

/-- The request ends neither before it has stored its config nor before it has set it, and no
handler sets another config after that, while the config of the request is the latest stored
one. -/
def Keeps (a : UUID) (c : Bytes) (p : Process) : Event → Prop
  | .server (.handle h) => ∀ handler ∈ p.server.handlers[h]?, ∀ body ∈ assigns handler.stage,
      (∃ call ∈ p.server.calls, Assigned call.stage = true) → Latest p.server a c → body = c
  | .server (.advance ch) => ∀ call ∈ p.server.calls[ch]?, Reaches p.server call = true
  | .push i => ∀ push ∈ p.pushes[i]?, Stores p.server.store push = true
  | _ => True

instance (a : UUID) (c : Bytes) (p : Process) (e : Event) : Decidable (Keeps a c p e) :=
  match e with
  | .server (.handle h) => inferInstanceAs <| Decidable <|
      ∀ handler ∈ p.server.handlers[h]?, ∀ body ∈ assigns handler.stage,
        (∃ call ∈ p.server.calls, Assigned call.stage = true) → Latest p.server a c → body = c
  | .server (.advance ch) => inferInstanceAs <| Decidable <|
      ∀ call ∈ p.server.calls[ch]?, Reaches p.server call = true
  | .push i => inferInstanceAs <| Decidable <|
      ∀ push ∈ p.pushes[i]?, Stores p.server.store push = true
  | .server (.message _ _ _) | .server (.disconnect _ _) | .server (.sendConfigToAgent _ _)
  | .server (.sent _ _) | .server (.timeout _) | .server (.write _) | .sendConfig _ _ _ =>
    .isTrue trivial

/-- The steps of the request and of the handlers of the agent. -/
def Event.About (a : UUID) : Event → Prop
  | .server (.message _ _ msg) => UUID.ofSlice msg.instanceUid = .ok a
  | .server (.handle _) | .server (.advance _) | .server (.sent _ _) | .server (.timeout _) => True
  | .server (.disconnect _ _) | .server (.sendConfigToAgent _ _) | .server (.write _) => False
  | .sendConfig _ _ _ => False
  | .push _ => True

instance (a : UUID) (e : Event) : Decidable (e.About a) :=
  match e with
  | .server (.message _ _ msg) => inferInstanceAs (Decidable (UUID.ofSlice msg.instanceUid = .ok a))
  | .server (.handle _) | .server (.advance _) | .server (.sent _ _) | .server (.timeout _)
  | .push _ => .isTrue trivial
  | .server (.disconnect _ _) | .server (.sendConfigToAgent _ _) | .server (.write _)
  | .sendConfig _ _ _ => .isFalse not_false

/-! ### Holding a config -/

/-- A section that writes neither config keeps the body, and a report recalculates the same. -/
theorem holds_updateStatus {agent agent' : Agent} {c : Bytes} (h : agent.Holds c) {x509 : X509}
    {msg : AgentToServer} {response response' : ServerToAgent} {watchers : List ChanId}
    (hupdate : agent.updateStatus x509 msg response = .ok (agent', response', watchers)) :
    agent'.Holds c := by
  obtain ⟨⟨startedAt, effectiveConfig, rfl⟩, _, _⟩ := Agent.updateStatus_ok hupdate
  obtain ⟨hcustom, hremote⟩ := h
  refine ⟨hcustom, ?_⟩
  show (agent.reportedRemoteConfig msg).bind AgentRemoteConfig.onlyBody = some c
  rw [Agent.reportedRemoteConfig]
  split
  · rw [hcustom]
    rfl
  · exact hremote

/-- After the config of the handler, the server holds it. -/
theorem holds_setInitialConfig (agent : Agent) (c : Bytes) :
    (agent.setInitialConfig (some c)).Holds c := ⟨rfl, rfl⟩

/-- The server holds the config after a write to an agent that holds it, too, if the agent did. -/
theorem ServerHolds.setAgent {srv srv' : System} {a : UUID} {c : Bytes} {ref : Ref}
    {agent agent' : Agent} (h : ServerHolds srv a c) (hget : srv.heap[ref]? = some agent)
    (hkeeps : agent.Holds c → agent'.Holds c) (hids : srv'.agentsById = srv.agentsById)
    (hheap : srv'.heap = srv.heap.set ref agent') : ServerHolds srv' a c := by
  obtain ⟨found, hfound, registered, hregistered, hholds⟩ := h
  refine ⟨found, by rw [hids]; exact hfound, ?_⟩
  by_cases heq : found = ref
  · have hsame : registered = agent := Option.some.inj (hregistered.symm.trans (heq ▸ hget))
    refine ⟨agent', ?_, hkeeps (hsame ▸ hholds)⟩
    rw [hheap, Option.mem_def, getElem?_set_iff (lt_length_of_getElem? hget)]
    exact Or.inl ⟨heq, rfl⟩
  · refine ⟨registered, ?_, hholds⟩
    rw [hheap, Option.mem_def, getElem?_set_iff (lt_length_of_getElem? hget)]
    exact Or.inr ⟨heq, hregistered⟩

/-! ### The invariant -/

/-- The agent that a call works on next. -/
def callRef : Call.Stage → Option Ref
  | .checkCapability ref | .setCustomConfig ref => some ref
  | _ => none

/-- The goroutines of the server.

* `calls`: the call is that of the request, and it works on the registered agent.
* `held`: once the call has set its config, the server holds it while it is the latest one. -/
structure ServerInv (a : UUID) (c : Bytes) (srv : System) : Prop where
  calls : ∀ call ∈ srv.calls, call.agentId = a ∧ call.configContent = c ∧
    ∀ ref ∈ callRef call.stage, srv.agentsById.lookup a = some ref
  held : (∃ call ∈ srv.calls, Assigned call.stage = true) → Latest srv a c → ServerHolds srv a c

/-- How far the request is, and its call. -/
def PushStage (calls : List Call) : Push.Stage → Prop
  | .getAgent | .getLatestConfig | .createConfig _ => calls = []
  | .sendConfigToAgent _ _ => True
  | .returned _ => ∃ call ∈ calls, Assigned call.stage = true

/-- The request and the server. -/
structure PushInv (a : UUID) (c : Bytes) (p : Process) : Prop where
  push : ∃ push, p.pushes = [push] ∧ push.agentID = a ∧ push.content = c ∧
    PushStage p.server.calls push.stage
  server : ServerInv a c p.server

/-- A request that has returned has set its config. -/
theorem PushInv.delivered {a : UUID} {c : Bytes} {p : Process} (h : PushInv a c p) :
    Delivered a c p := by
  intro hreturned hlatest
  obtain ⟨push, hpushes, _, _, hstage⟩ := h.push
  obtain ⟨reply, hreply⟩ := hreturned push (by rw [hpushes]; exact List.mem_cons_self)
  rw [hreply] at hstage
  exact h.server.held hstage hlatest

/-- What a step of the server does to the calls: none begins, and a call that has set its config
stays. -/
structure CallsGoOn (calls calls' : List Call) : Prop where
  none : calls = [] → calls' = []
  assigned : (∃ call ∈ calls, Assigned call.stage = true) →
    ∃ call ∈ calls', Assigned call.stage = true

theorem CallsGoOn.refl (calls : List Call) : CallsGoOn calls calls := ⟨id, id⟩

/-- One call goes on. -/
theorem CallsGoOn.set {calls : List Call} {ch : ChanId} {call call' : Call}
    (hcall : calls[ch]? = some call)
    (hassigned : Assigned call.stage = true → Assigned call'.stage = true) :
    CallsGoOn calls (calls.set ch call') := by
  refine ⟨?_, ?_⟩
  · intro hnone
    rw [hnone] at hcall
    cases hcall
  · rintro ⟨other, hother, hother'⟩
    rcases (mem_iff_of_getElem? hcall).mp hother with rfl | hother
    · exact ⟨call', (mem_set_iff hcall).mpr (Or.inl rfl), hassigned hother'⟩
    · exact ⟨other, (mem_set_iff hcall).mpr (Or.inr hother), hother'⟩

/-- The stage of the request stays possible. -/
theorem CallsGoOn.pushStage {calls calls' : List Call} (h : CallsGoOn calls calls')
    {stage : Push.Stage} (hstage : PushStage calls stage) : PushStage calls' stage := by
  cases stage with
  | getAgent | getLatestConfig | createConfig => exact h.none hstage
  | sendConfigToAgent ch configID => trivial
  | returned reply => exact h.assigned hstage

section Server

variable {a : UUID} {c : Bytes} {srv srv' : System}

/-- A step that leaves the calls, the registry and the configs alone. -/
theorem ServerInv.frame (h : ServerInv a c srv) (hcalls : srv'.calls = srv.calls)
    (hids : srv'.agentsById = srv.agentsById) (hconfigs : srv'.store.configs = srv.store.configs)
    (hheld : (∃ call ∈ srv.calls, Assigned call.stage = true) → Latest srv a c →
      ServerHolds srv a c → ServerHolds srv' a c) : ServerInv a c srv' := by
  have hlatest : Latest srv' a c → Latest srv a c := by
    rintro ⟨config, hconfig, hcontent⟩
    refine ⟨config, ?_, hcontent⟩
    rw [Storage.getLatestConfigForAgent, Storage.latestWhere, hconfigs] at hconfig
    exact hconfig
  refine ⟨?_, ?_⟩
  · rw [hcalls, hids]
    exact h.calls
  · rw [hcalls]
    intro hassigned hnow
    exact hheld hassigned (hlatest hnow) (h.held hassigned (hlatest hnow))

/-- A step of a handler. -/
theorem ServerInv.handle (h : ServerInv a c srv) {i : Nat}
    (hkeeps : ∀ handler ∈ srv.handlers[i]?, ∀ body ∈ assigns handler.stage,
      (∃ call ∈ srv.calls, Assigned call.stage = true) → Latest srv a c → body = c)
    (hstep : srv.handle i = some srv') : ServerInv a c srv' ∧ srv'.calls = srv.calls := by
  obtain ⟨handler, agent, hhandler, hagent, hhandled⟩ := System.handle_inv hstep
  cases hhandled with
  | noDescription => exact ⟨h.frame rfl rfl rfl fun _ _ hh => hh, rfl⟩
  | setGroup desc =>
    have hgroup : agent.Holds c → (agent.setGroup desc).1.Holds c := id
    exact ⟨h.frame rfl rfl rfl fun _ _ hh => hh.setAgent hagent hgroup rfl rfl, rfl⟩
  | findInitialConfig groupChanged => exact ⟨h.frame rfl rfl rfl fun _ _ hh => hh, rfl⟩
  | setInitialConfig config hstage =>
    refine ⟨h.frame rfl rfl rfl fun hassigned hlatest hh => hh.setAgent hagent ?_ rfl rfl, rfl⟩
    intro hholds
    cases config with
    | none => exact hholds
    | some body =>
      have hbody : body = c := hkeeps handler hhandler body (by rw [hstage]; rfl) hassigned hlatest
      rw [hbody]
      exact holds_setInitialConfig agent c
  | updateStatus agent' response watchers hstage hupdate =>
    exact ⟨h.frame rfl rfl rfl fun _ _ hh =>
      hh.setAgent hagent (fun hholds => holds_updateStatus hholds hupdate) rfl rfl, rfl⟩
  | notify ch watchers =>
    obtain ⟨tokens, heq, _⟩ := srv.notify_frame ch
    rw [heq]
    exact ⟨h.frame rfl rfl rfl fun _ _ hh => hh, rfl⟩
  | notified => exact ⟨h.frame rfl rfl rfl fun _ _ hh => hh, rfl⟩
  | persistAgent =>
    obtain ⟨groupID, hpersist⟩ := persistAgent_fst_frame handler.env srv.store agent handler.msg
    refine ⟨h.frame rfl rfl (configs_persistAgent handler.env srv.store agent handler.msg) ?_, rfl⟩
    intro _ _ hh
    refine hh.setAgent hagent ?_ rfl rfl
    intro hholds
    rw [hpersist]
    exact hholds

/-- A message arrives. -/
theorem ServerInv.message (h : ServerInv a c srv) {env : Env} {conn : Conn} {msg : AgentToServer}
    (hstep : srv.onMessage env conn msg = some srv') :
    ServerInv a c srv' ∧ srv'.calls = srv.calls := by
  obtain ⟨instanceId, -, ⟨ref, -, rfl⟩ | ⟨hfind, connections, rfl⟩⟩ := System.onMessage_inv hstep
  · exact ⟨h.frame rfl rfl rfl fun _ _ hh => hh, rfl⟩
  · -- A registered agent stays where it is.
    have hkept : ∀ ref, srv.agentsById.lookup a = some ref →
        (srv.agentsById.insert instanceId srv.heap.length).lookup a = some ref := by
      intro ref hlookup
      have hne : a ≠ instanceId := by
        intro heq
        rw [heq, hfind] at hlookup
        cases hlookup
      rw [GoMap.lookup_insert_eq, if_neg hne]
      exact hlookup
    refine ⟨⟨?_, ?_⟩, rfl⟩
    · intro call hcall
      obtain ⟨hagentId, hcontent, href⟩ := h.calls call hcall
      exact ⟨hagentId, hcontent, fun ref hmem => hkept ref (href ref hmem)⟩
    · intro hassigned hlatest
      obtain ⟨ref, href, agent, hagent, hholds⟩ := h.held hassigned hlatest
      exact ⟨ref, hkept ref href, agent, getElem?_append_of_getElem? hagent _, hholds⟩

/-- A call that goes on without a write to its agent. -/
theorem ServerInv.setCall (h : ServerInv a c srv) {ch : ChanId} {call : Call} {stage : Call.Stage}
    (hcall : srv.calls[ch]? = some call)
    (href : ∀ ref ∈ callRef stage, srv.agentsById.lookup a = some ref)
    (hsame : Assigned stage = Assigned call.stage) :
    ServerInv a c (srv.setCall ch call stage) ∧
      CallsGoOn srv.calls (srv.setCall ch call stage).calls := by
  have hmem : call ∈ srv.calls := List.mem_of_getElem? hcall
  refine ⟨⟨?_, ?_⟩, CallsGoOn.set hcall (fun hassigned => hsame.trans hassigned)⟩
  · intro other hother
    rcases (mem_set_iff hcall).mp hother with rfl | hother
    · obtain ⟨hagentId, hcontent, _⟩ := h.calls call hmem
      exact ⟨hagentId, hcontent, href⟩
    · exact h.calls other (List.mem_of_mem_eraseIdx hother)
  · rintro ⟨other, hother, hassigned⟩ hlatest
    refine h.held ?_ hlatest
    rcases (mem_set_iff hcall).mp hother with rfl | hother
    · exact ⟨call, hmem, hsame.symm.trans hassigned⟩
    · exact ⟨other, List.mem_of_mem_eraseIdx hother, hassigned⟩

/-- A step of the call. -/
theorem ServerInv.advance (h : ServerInv a c srv) {ch : ChanId}
    (hreaches : ∀ call ∈ srv.calls[ch]?, Reaches srv call = true)
    (hstep : srv.advance ch = some srv') :
    ServerInv a c srv' ∧ CallsGoOn srv.calls srv'.calls := by
  obtain ⟨call, hcall, hadvanced⟩ := System.advance_inv hstep
  have hreach := hreaches call hcall
  obtain ⟨hagentId, hcontent, href⟩ := h.calls call (List.mem_of_getElem? hcall)
  cases hadvanced with
  | notFound hstage hfind =>
    rw [Reaches, hstage] at hreach
    dsimp only at hreach
    rw [hfind] at hreach
    cases hreach
  | found ref hstage hfind =>
    refine h.setCall hcall ?_ (by rw [hstage]; rfl)
    rintro _ ⟨⟩
    rw [← hagentId]
    exact hfind
  | refused ref agent hstage hagent hcap =>
    rw [Reaches, hstage] at hreach
    dsimp only at hreach
    rw [hagent, Option.all_some, hcap] at hreach
    cases hreach
  | accepted ref agent hstage hagent hcap =>
    refine h.setCall hcall ?_ (by rw [hstage]; rfl)
    rintro _ ⟨⟩
    exact href ref (by rw [hstage]; rfl)
  | setCustomConfig ref agent stage hstage hagent hnext =>
    have hlookup : srv.agentsById.lookup a = some ref := href ref (by rw [hstage]; rfl)
    have hholds : (agent.setCustomConfig (.single call.configContent) (some ch)).1.Holds c :=
      hcontent ▸ Agent.holds_setCustomConfig agent call.configContent (some ch)
    have hnew : callRef stage = none ∧ Assigned stage = true := by
      rcases hnext with ⟨rfl, _⟩ | ⟨msg, rfl, _⟩ <;> exact ⟨rfl, rfl⟩
    refine ⟨⟨?_, ?_⟩, CallsGoOn.set hcall fun _ => hnew.2⟩
    · intro other hother
      rcases (mem_set_iff hcall).mp hother with rfl | hother
      · refine ⟨hagentId, hcontent, ?_⟩
        intro ref' href'
        rw [hnew.1] at href'
        cases href'
      · exact h.calls other (List.mem_of_mem_eraseIdx hother)
    · -- From here on the server holds the config.
      intro _ _
      refine ⟨ref, hlookup, _, ?_, hholds⟩
      exact (getElem?_set_iff (lt_length_of_getElem? hagent) _).mpr (Or.inl ⟨rfl, rfl⟩)
  | notifyNow hstage htoken =>
    obtain ⟨tokens, heq, _⟩ := srv.notify_frame ch
    rw [heq]
    have hframe : ServerInv a c { srv with tokens } := h.frame rfl rfl rfl fun _ _ hh => hh
    exact hframe.setCall hcall (by rintro _ ⟨⟩) (by rw [hstage]; rfl)
  | select hstage htoken =>
    have hframe : ServerInv a c { srv with tokens := srv.tokens.erase ch } :=
      h.frame rfl rfl rfl fun _ _ hh => hh
    exact hframe.setCall hcall (by rintro _ ⟨⟩) (by rw [hstage]; rfl)

/-- A step of the server, by the request's call or a handler of the agent. -/
theorem ServerInv.step {p : Process} (h : ServerInv a c p.server) {e : Opamp.Concurrent.Event}
    (habout : (Event.server e).About a) (hkeeps : Keeps a c p (.server e))
    (hstep : p.server.step e = some srv') :
    ServerInv a c srv' ∧ CallsGoOn p.server.calls srv'.calls := by
  -- A step that leaves the calls alone.
  have hsame : ServerInv a c srv' ∧ srv'.calls = p.server.calls →
      ServerInv a c srv' ∧ CallsGoOn p.server.calls srv'.calls := by
    rintro ⟨hinv, hcalls⟩
    rw [hcalls]
    exact ⟨hinv, CallsGoOn.refl _⟩
  cases e with
  | message env conn msg => exact hsame (h.message hstep)
  | handle i => exact hsame (h.handle hkeeps hstep)
  | advance ch => exact h.advance hkeeps hstep
  | sent ch err =>
    have hsent : p.server.sent ch err = some srv' := hstep
    obtain ⟨call, ref, msg, hcall, hstage, rfl⟩ := System.sent_inv hsent
    exact h.setCall hcall (by rintro _ ⟨⟩) (by rw [hstage]; rfl)
  | timeout ch =>
    obtain ⟨call, hcall, hstage, rfl⟩ := System.timeout_inv hstep
    exact h.setCall hcall (by rintro _ ⟨⟩) (by rw [hstage]; rfl)
  | disconnect env conn => exact absurd habout not_false
  | sendConfigToAgent agentId configContent => exact absurd habout not_false
  | write store => exact absurd habout not_false

end Server

/-! ### Steps of the request -/

/-- A step of the request `i`. -/
inductive Pushed (p : Process) (i : Nat) (push : Push) : Process → Prop where
  | failed (message : String) (hfails : Stores p.server.store push = false) :
      Pushed p i push (p.setPush i push (.returned (Push.storeFailed message)))
  | found (hstage : push.stage = .getAgent) :
      Pushed p i push (p.setPush i push .getLatestConfig)
  | numbered (version : GoInt) (hstage : push.stage = .getLatestConfig) :
      Pushed p i push (p.setPush i push (.createConfig version))
  | stored (version : GoInt) (store : Storage) (hstage : push.stage = .createConfig version) :
      Pushed p i push
        (Process.setPush { p with server := { p.server with
            store
            calls := p.server.calls
              ++ [{ agentId := push.agentID, configContent := push.content }] } } i push
          (.sendConfigToAgent p.server.calls.length (push.config version).id))
  | returned (ch : ChanId) (configID : String) (call : Call) (err : Option String)
      (hstage : push.stage = .sendConfigToAgent ch configID)
      (hcall : p.server.calls[ch]? = some call) (hreturned : call.stage = .returned err) :
      Pushed p i push (p.setPush i push (.returned (Push.reply configID err)))

/-- A step of a request is one of those listed. -/
theorem push_inv {p p' : Process} {i : Nat} (hstep : p.push i = some p') :
    ∃ push, p.pushes[i]? = some push ∧ Pushed p i push p' := by
  rw [Process.push] at hstep
  obtain ⟨push, hpush, hstep⟩ := Option.bind_eq_some_iff.mp hstep
  refine ⟨push, hpush, ?_⟩
  cases hstage : push.stage with
  | getAgent =>
    rw [hstage] at hstep
    dsimp only at hstep
    rcases getAgent_cases push.env p.server.store push.agentID with
      ⟨row, _, _, hget⟩ | hget | ⟨err, hget⟩
    · rw [hget] at hstep
      dsimp only at hstep
      cases hcap : row.capabilities.contains "accepts_remote_config" with
      | false =>
        rw [hcap] at hstep
        cases hstep
        exact .failed _ (by simp only [Stores, hstage, hget, hcap])
      | true =>
        rw [hcap] at hstep
        cases hstep
        exact .found hstage
    · rw [hget] at hstep
      cases hstep
      exact .failed _ (by simp only [Stores, hstage, hget])
    · rw [hget] at hstep
      cases hstep
      exact .failed _ (by simp only [Stores, hstage, hget])
  | getLatestConfig =>
    rw [hstage] at hstep
    cases hstep
    exact .numbered _ hstage
  | createConfig version =>
    rw [hstage] at hstep
    dsimp only at hstep
    cases hcreate : Services.createConfig push.env p.server.store (push.config version) with
    | error err =>
      rw [hcreate] at hstep
      cases hstep
      exact .failed _ (by simp only [Stores, hstage, hcreate])
    | ok store =>
      rw [hcreate] at hstep
      cases hstep
      exact .stored version store hstage
  | sendConfigToAgent ch configID =>
    rw [hstage] at hstep
    obtain ⟨call, hcall, hstep⟩ := Option.bind_eq_some_iff.mp hstep
    cases hreturned : call.stage with
    | returned err =>
      rw [hreturned] at hstep
      cases hstep
      exact .returned ch configID call err hstage hcall hreturned
    | _ =>
      rw [hreturned] at hstep
      cases hstep
  | returned reply =>
    rw [hstage] at hstep
    cases hstep

/-- The storage calls of a request in a row, with no other goroutine between them, are
`StoreConfigForAgent`: it returns the error, or it stores the config and calls
`SendConfigToAgent`. -/
theorem push_stores (srv : System) (env : Env) (a : UUID) (c : Bytes) :
    (∀ message, Services.storeConfigForAgent env srv.store a c = .error message →
      ∃ n, run Process.push ⟨srv, [⟨env, a, c, .getAgent⟩]⟩ (List.replicate n 0)
        = some ⟨srv, [⟨env, a, c, .returned (Push.storeFailed message)⟩]⟩) ∧
    ∀ config store, Services.storeConfigForAgent env srv.store a c = .ok (config, store) →
      ∃ n, run Process.push ⟨srv, [⟨env, a, c, .getAgent⟩]⟩ (List.replicate n 0)
        = some ⟨{ srv with store, calls := srv.calls ++ [{ agentId := a, configContent := c }] },
            [⟨env, a, c, .sendConfigToAgent srv.calls.length config.id⟩]⟩ := by
  rw [Services.storeConfigForAgent]
  -- A request that ends at the read of the agent.
  have hends : ∀ message, Process.push ⟨srv, [⟨env, a, c, .getAgent⟩]⟩ 0
        = some ⟨srv, [⟨env, a, c, .returned (Push.storeFailed message)⟩]⟩ →
      ∃ n, run Process.push ⟨srv, [⟨env, a, c, .getAgent⟩]⟩ (List.replicate n 0)
        = some ⟨srv, [⟨env, a, c, .returned (Push.storeFailed message)⟩]⟩ :=
    fun message h => exists_run_replicate h ⟨0, rfl⟩
  rcases getAgent_cases env srv.store a with ⟨row, _, _, hget⟩ | hget | ⟨err, hget⟩
  · cases hcap : row.capabilities.contains "accepts_remote_config" with
    | false =>
      simp only [hget, hcap]
      refine ⟨?_, by rintro _ _ ⟨⟩⟩
      rintro message ⟨⟩
      exact hends _ (by simpa [Process.push, Process.setPush, hget] using hcap)
    | true =>
      have hfound : Process.push ⟨srv, [⟨env, a, c, .getAgent⟩]⟩ 0
          = some ⟨srv, [⟨env, a, c, .getLatestConfig⟩]⟩ := by
        simpa [Process.push, Process.setPush, hget] using hcap
      have hnumbered : Process.push ⟨srv, [⟨env, a, c, .getLatestConfig⟩]⟩ 0
          = some ⟨srv, [⟨env, a, c, .createConfig (Services.nextVersion env srv.store a)⟩]⟩ := by
        simp [Process.push, Process.setPush]
      simp only [hget, hcap]
      cases hcreate : Services.createConfig env srv.store (Push.config ⟨env, a, c, .getAgent⟩
          (Services.nextVersion env srv.store a)) with
      | error err =>
        rw [Push.config] at hcreate
        simp only [hcreate]
        refine ⟨?_, by rintro _ _ ⟨⟩⟩
        rintro message ⟨⟩
        refine exists_run_replicate hfound (exists_run_replicate hnumbered
          (exists_run_replicate ?_ ⟨0, rfl⟩))
        simp [Process.push, Process.setPush, Push.config, hcreate]
      | ok store =>
        rw [Push.config] at hcreate
        simp only [hcreate]
        refine ⟨by rintro _ ⟨⟩, ?_⟩
        rintro config _ ⟨⟩
        refine exists_run_replicate hfound (exists_run_replicate hnumbered
          (exists_run_replicate ?_ ⟨0, rfl⟩))
        simp [Process.push, Process.setPush, Push.config, hcreate]
  · simp only [hget]
    refine ⟨?_, by rintro _ _ ⟨⟩⟩
    rintro message ⟨⟩
    exact hends _ (by simp [Process.push, Process.setPush, hget])
  · simp only [hget]
    refine ⟨?_, by rintro _ _ ⟨⟩⟩
    rintro message ⟨⟩
    exact hends _ (by simp [Process.push, Process.setPush, hget])

/-- A step of the request. -/
theorem PushInv.pushStep {a : UUID} {c : Bytes} {p p' : Process} {i : Nat} (h : PushInv a c p)
    (hstores : ∀ push ∈ p.pushes[i]?, Stores p.server.store push = true)
    (hstep : p.push i = some p') : PushInv a c p' := by
  obtain ⟨push, hpushes, hagentID, hcontent, hstage⟩ := h.push
  obtain ⟨push', hget, hpushed⟩ := push_inv hstep
  have hstore := hstores push' hget
  -- There is one request.
  have hone : i = 0 ∧ push' = push := by
    rw [hpushes] at hget
    have hlt := lt_length_of_getElem? hget
    have hi : i = 0 := by simpa using hlt
    subst hi
    exact ⟨rfl, (Option.some.inj hget).symm⟩
  obtain ⟨rfl, rfl⟩ := hone
  have hset : ∀ stage, p.pushes.set 0 { push' with stage } = [{ push' with stage }] := by
    intro stage
    rw [hpushes]
    rfl
  cases hpushed with
  | failed message hfails =>
    rw [hfails] at hstore
    cases hstore
  | found hnow =>
    rw [hnow] at hstage
    exact ⟨⟨_, hset _, hagentID, hcontent, hstage⟩, h.server⟩
  | numbered version hnow =>
    rw [hnow] at hstage
    exact ⟨⟨_, hset _, hagentID, hcontent, hstage⟩, h.server⟩
  | stored version store hnow =>
    rw [hnow] at hstage
    refine ⟨⟨_, hset _, hagentID, hcontent, trivial⟩, ?_⟩
    have hcalls : p.server.calls = [] := hstage
    refine ⟨?_, ?_⟩
    · intro call hcall
      have hmem : call ∈ p.server.calls
          ++ [{ agentId := push'.agentID, configContent := push'.content }] := hcall
      rw [hcalls, List.nil_append, List.mem_singleton] at hmem
      rw [hmem]
      exact ⟨hagentID, hcontent, by rintro _ ⟨⟩⟩
    · rintro ⟨call, hcall, hassigned⟩
      have hmem : call ∈ p.server.calls
          ++ [{ agentId := push'.agentID, configContent := push'.content }] := hcall
      rw [hcalls, List.nil_append, List.mem_singleton] at hmem
      rw [hmem] at hassigned
      cases hassigned
  | returned ch configID call err hnow hcall hreturned =>
    refine ⟨⟨_, hset _, hagentID, hcontent, ?_⟩, h.server⟩
    exact ⟨call, List.mem_of_getElem? hcall, by rw [hreturned]; rfl⟩

/-- One step. -/
theorem PushInv.step {a : UUID} {c : Bytes} {p p' : Process} {e : Event} (h : PushInv a c p)
    (habout : e.About a) (hkeeps : Keeps a c p e) (hstep : p.step e = some p') :
    PushInv a c p' := by
  cases e with
  | server e =>
    obtain ⟨srv', hserver, rfl⟩ := Option.map_eq_some_iff.mp hstep
    obtain ⟨hinv, hcalls⟩ := h.server.step habout hkeeps hserver
    obtain ⟨push, hpushes, hagentID, hcontent, hstage⟩ := h.push
    exact ⟨⟨push, hpushes, hagentID, hcontent, hcalls.pushStage hstage⟩, hinv⟩
  | sendConfig env agentID body => exact absurd habout not_false
  | push i => exact h.pushStep hkeeps hstep

/-! ### Runs -/

/-- A request to send the config `c` to the agent `a`, and any message handlers of the agent, from a
server without calls. In every run whose steps meet `Keeps`, the server holds the config once the
request has returned, if it is the latest stored config of the agent. -/
theorem delivered_along (a : UUID) (c : Bytes) (env : Env) (srv : System) (hidle : srv.calls = [])
    (es : List Event) (habout : ∀ e ∈ es, e.About a)
    (hkeeps : StepsMeet Process.step (Keeps a c)
      ⟨srv, [{ env, agentID := a, content := c }]⟩ es) :
    Along Process.step (Delivered a c) ⟨srv, [{ env, agentID := a, content := c }]⟩ es := by
  refine along_of_stepsMeet (I := PushInv a c) (fun _ h => h.delivered) ?_ ?_
    (hkeeps.and (stepsMeet_of_forall habout _))
  · intro p e p' h hmeet hstep
    exact h.step hmeet.2 hmeet.1 hstep
  · refine ⟨⟨_, rfl, rfl, rfl, hidle⟩, ?_, ?_⟩
    · intro call hcall
      rw [hidle] at hcall
      cases hcall
    · rintro ⟨call, hcall, _⟩
      rw [hidle] at hcall
      cases hcall

/-! ### A config that is overwritten -/

/-- The database has an agent that accepts remote config, with the config `old`. -/
def oldStore (old : Bytes) : Storage where
  agents := [{
    id := .nil, name := "collector", labels := ∅, status := .offline, lastSeen := 0
    groupID := none, groupName := none, version := ""
    capabilities := ["accepts_remote_config"], createdAt := 0, updatedAt := 0 }]
  groups := []
  configs := [{
    id := "c-1", agentID := some .nil, configHash := "", content := old, version := .wrap 1
    createdAt := 0 }]

/-- The agent reports that it accepts remote config, with a description or without. -/
def willingReport (desc : Option AgentDescription) : AgentToServer where
  instanceUid := UUID.nil.bytes
  capabilities := AgentCapabilities.acceptsRemoteConfig
  agentDescription := desc

/-- Steps of the handler `h`. -/
def handles (h n : Nat) : List Event := List.replicate n (.server (.handle h))

/-- The agent connects, and the handler of its first report ends. Then it describes itself. -/
def connects : List Event :=
  [.server (.message (.quiet 1 "") 1 (willingReport none))] ++ handles 0 4
    ++ [.server (.message (.quiet 2 "") 1 (willingReport (some ⟨[], []⟩)))]

/-- The request stores the config and sets it on the agent. -/
def pushes : List Event :=
  [.push 0, .push 0, .push 0, .server (.advance 0), .server (.advance 0), .server (.advance 0),
    .server (.sent 0 none)]

/-- The steps after the handler has set its config. -/
def ends (h n : Nat) : List Event := handles h n ++ [.server (.advance 0), .push 0]

/-- The request and the handlers, from the database with the old config. -/
def oldProcess (old new : Bytes) : Process :=
  ⟨.newSystem (oldStore old) "" "", [{ env := .quiet 3 "c-2", agentID := .nil, content := new }]⟩

/-- The handler sets its config before the request does. -/
theorem delivered_along_in_turn :
    Along Process.step (Delivered .nil [2]) (oldProcess [1] [2])
      (connects ++ handles 1 3 ++ pushes ++ ends 1 4) :=
  delivered_along .nil [2] (.quiet 3 "c-2") (.newSystem (oldStore [1]) "" "") rfl _
    (by decide +kernel) (by decide +kernel)

/-- The handler looks its config up before the request stores its own, and sets it after the request
has set its own. Everything has ended, and the latest stored config is not the one that the server
holds. -/
theorem pushed_config_overwritten :
    ∃ p, run Process.step (oldProcess [1] [2])
        (connects ++ handles 1 2 ++ pushes ++ ends 1 5) = some p ∧
      (∀ handler ∈ p.server.handlers, handler.stage = .returned) ∧
      (∀ push ∈ p.pushes, ∃ reply, push.stage = .returned reply) ∧
      Latest p.server .nil [2] ∧ ¬ ServerHolds p.server .nil [2] := by
  have hend : ((run Process.step (oldProcess [1] [2])
      (connects ++ handles 1 2 ++ pushes ++ ends 1 5)).map fun p =>
        (p.server.handlers.map (·.stage), p.pushes.map (·.stage),
          decide (Latest p.server .nil [2]),
          (p.server.agentsById.lookup .nil).bind fun ref =>
            p.server.heap[ref]?.map (·.customInstanceConfig)))
      = some ([.returned, .returned],
        [.returned (.sendConfig 200 true "Configuration sent to agent successfully" "c-2")],
        true, some [1]) := by
    decide +kernel
  obtain ⟨p, hrun, hend⟩ := Option.map_eq_some_iff.mp hend
  simp only [Prod.mk.injEq, decide_eq_true_eq] at hend
  obtain ⟨hhandlers, hpushes, hlatest, hcustom⟩ := hend
  refine ⟨p, hrun, ?_, ?_, hlatest, ?_⟩
  · intro handler hmem
    have hstage := List.mem_map_of_mem (f := (·.stage)) hmem
    rw [hhandlers] at hstage
    simpa using hstage
  · intro push hmem
    have hstage := List.mem_map_of_mem (f := (·.stage)) hmem
    rw [hpushes, List.mem_singleton] at hstage
    exact ⟨_, hstage⟩
  · rintro ⟨ref, href, agent, hagent, hholds, _⟩
    rw [Option.mem_def] at href hagent
    rw [href, Option.bind_some, hagent, Option.map_some, hholds] at hcustom
    cases hcustom

end OtelHive.Api.Concurrent
