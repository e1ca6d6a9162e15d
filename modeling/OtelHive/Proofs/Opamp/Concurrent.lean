import OtelHive.Opamp.Concurrent
import OtelHive.Proofs.Opamp.Server

/-!
# `OtelHive.Proofs.Opamp.Concurrent`: what a step of a goroutine does

`Handled` lists the steps of a message handler, and `Advanced` those of a push, each with its
guard and the system after it. `handle_inv` and `advance_inv` take a step apart into one of
them, and `onMessage_inv` says what a new message does. Proofs about runs of
`Opamp.Concurrent` go by cases on these and do not unfold the step functions.
-/

set_option autoImplicit false

namespace OtelHive.Opamp.Concurrent

open OtelHive.Lib

namespace System

/-- A step of the handler `h`, which works on `agent`. -/
inductive Handled (sys : System) (h : Nat) (handler : Handler) (agent : Agent) : System → Prop where
  | noDescription (hstage : handler.stage = .setGroup)
      (hdesc : handler.msg.agentDescription = none) :
      Handled sys h handler agent (sys.setHandler h handler .updateStatus)
  | setGroup (desc : AgentDescription) (hstage : handler.stage = .setGroup)
      (hdesc : handler.msg.agentDescription = some desc) :
      Handled sys h handler agent
        ((sys.setAgent handler.agent (agent.setGroup desc).1).setHandler h handler
          (.findInitialConfig (agent.setGroup desc).2))
  | findInitialConfig (groupChanged : Bool)
      (hstage : handler.stage = .findInitialConfig groupChanged) :
      Handled sys h handler agent (sys.setHandler h handler
        (.setInitialConfig (agent.findInitialConfig handler.env sys.store groupChanged)))
  | setInitialConfig (config : Option Bytes) (hstage : handler.stage = .setInitialConfig config) :
      Handled sys h handler agent
        ((sys.setAgent handler.agent (agent.setInitialConfig config)).setHandler h handler
          .updateStatus)
  | updateStatus (agent' : Agent) (response : ServerToAgent) (watchers : List ChanId)
      (hstage : handler.stage = .updateStatus)
      (hupdate : agent.updateStatus handler.env.x509 handler.msg handler.response
        = .ok (agent', response, watchers)) :
      Handled sys h handler agent
        ((sys.setAgent handler.agent agent').setHandler h { handler with response }
          (.notifyStatusWatchers watchers))
  | notify (ch : ChanId) (watchers : List ChanId)
      (hstage : handler.stage = .notifyStatusWatchers (ch :: watchers)) :
      Handled sys h handler agent
        ((sys.notify ch).setHandler h handler (.notifyStatusWatchers watchers))
  | notified (hstage : handler.stage = .notifyStatusWatchers []) :
      Handled sys h handler agent (sys.setHandler h { handler with
        response := sys.server.calcConnectionSettings agent handler.response } .persistAgent)
  | persistAgent (hstage : handler.stage = .persistAgent) :
      Handled sys h handler agent
        (({ sys with store := (persistAgent handler.env sys.store agent handler.msg).2 }.setAgent
          handler.agent (persistAgent handler.env sys.store agent handler.msg).1).setHandler h
            handler .returned)

/-- A step of a handler is one of those listed. -/
theorem handle_inv {sys sys' : System} {h : Nat} (hstep : sys.handle h = some sys') :
    ∃ handler agent, sys.handlers[h]? = some handler ∧ sys.heap[handler.agent]? = some agent ∧
      Handled sys h handler agent sys' := by
  unfold handle at hstep
  obtain ⟨handler, hhandler, hstep⟩ := Option.bind_eq_some_iff.mp hstep
  obtain ⟨agent, hagent, hstep⟩ := Option.bind_eq_some_iff.mp hstep
  refine ⟨handler, agent, hhandler, hagent, ?_⟩
  cases hstage : handler.stage with
  | setGroup =>
    rw [hstage] at hstep
    dsimp only at hstep
    cases hdesc : handler.msg.agentDescription with
    | none =>
      rw [hdesc] at hstep
      cases hstep
      exact .noDescription hstage hdesc
    | some desc =>
      rw [hdesc] at hstep
      cases hstep
      exact .setGroup desc hstage hdesc
  | findInitialConfig groupChanged =>
    rw [hstage] at hstep
    cases hstep
    exact .findInitialConfig groupChanged hstage
  | setInitialConfig config =>
    rw [hstage] at hstep
    cases hstep
    exact .setInitialConfig config hstage
  | updateStatus =>
    rw [hstage] at hstep
    dsimp only at hstep
    cases hupdate : agent.updateStatus handler.env.x509 handler.msg handler.response with
    | error err =>
      rw [hupdate] at hstep
      cases hstep
    | ok result =>
      obtain ⟨agent', response, watchers⟩ := result
      rw [hupdate] at hstep
      cases hstep
      exact .updateStatus agent' response watchers hstage hupdate
  | notifyStatusWatchers watchers =>
    rw [hstage] at hstep
    cases watchers with
    | nil =>
      cases hstep
      exact .notified hstage
    | cons ch watchers =>
      cases hstep
      exact .notify ch watchers hstage
  | persistAgent =>
    rw [hstage] at hstep
    cases hstep
    exact .persistAgent hstage
  | returned =>
    rw [hstage] at hstep
    cases hstep

/-- A step of the push `ch`. -/
inductive Advanced (sys : System) (ch : ChanId) (call : Call) : System → Prop where
  | notFound (hstage : call.stage = .findAgent)
      (hfind : sys.agentsById.lookup call.agentId = none) :
      Advanced sys ch call (sys.setCall ch call (.returned (some "agent not found")))
  | found (ref : Ref) (hstage : call.stage = .findAgent)
      (hfind : sys.agentsById.lookup call.agentId = some ref) :
      Advanced sys ch call (sys.setCall ch call (.checkCapability ref))
  | refused (ref : Ref) (agent : Agent) (hstage : call.stage = .checkCapability ref)
      (hagent : sys.heap[ref]? = some agent)
      (hcap : agent.hasCapability AgentCapabilities.acceptsRemoteConfig = false) :
      Advanced sys ch call
        (sys.setCall ch call (.returned (some "agent does not support remote config")))
  | accepted (ref : Ref) (agent : Agent) (hstage : call.stage = .checkCapability ref)
      (hagent : sys.heap[ref]? = some agent)
      (hcap : agent.hasCapability AgentCapabilities.acceptsRemoteConfig = true) :
      Advanced sys ch call (sys.setCall ch call (.setCustomConfig ref))
  | setCustomConfig (ref : Ref) (agent : Agent) (stage : Call.Stage)
      (hstage : call.stage = .setCustomConfig ref) (hagent : sys.heap[ref]? = some agent)
      (hnext : stage = .notifyNow ∧
          (agent.setCustomConfig (.single call.configContent) (some ch)).2 = .notifyNow ∨
        ∃ msg, stage = .send ref msg ∧
          (agent.setCustomConfig (.single call.configContent) (some ch)).2 = .send msg) :
      Advanced sys ch call ((sys.setAgent ref
        (agent.setCustomConfig (.single call.configContent) (some ch)).1).setCall ch call stage)
  | notifyNow (hstage : call.stage = .notifyNow) (htoken : ch ∉ sys.tokens) :
      Advanced sys ch call ((sys.notify ch).setCall ch call .select)
  | select (hstage : call.stage = .select) (htoken : ch ∈ sys.tokens) :
      Advanced sys ch call
        ({ sys with tokens := sys.tokens.erase ch }.setCall ch call (.returned none))

/-- A step of a push is one of those listed. -/
theorem advance_inv {sys sys' : System} {ch : ChanId} (hstep : sys.advance ch = some sys') :
    ∃ call, sys.calls[ch]? = some call ∧ Advanced sys ch call sys' := by
  unfold advance at hstep
  obtain ⟨call, hcall, hstep⟩ := Option.bind_eq_some_iff.mp hstep
  refine ⟨call, hcall, ?_⟩
  cases hstage : call.stage with
  | findAgent =>
    rw [hstage] at hstep
    dsimp only at hstep
    cases hfind : sys.agentsById.lookup call.agentId with
    | none =>
      rw [hfind] at hstep
      cases hstep
      exact .notFound hstage hfind
    | some ref =>
      rw [hfind] at hstep
      cases hstep
      exact .found ref hstage hfind
  | checkCapability ref =>
    rw [hstage] at hstep
    obtain ⟨agent, hagent, hstep⟩ := Option.bind_eq_some_iff.mp hstep
    cases hcap : agent.hasCapability AgentCapabilities.acceptsRemoteConfig with
    | false =>
      rw [hcap] at hstep
      cases hstep
      exact .refused ref agent hstage hagent hcap
    | true =>
      rw [hcap] at hstep
      cases hstep
      exact .accepted ref agent hstage hagent hcap
  | setCustomConfig ref =>
    rw [hstage] at hstep
    obtain ⟨agent, hagent, hstep⟩ := Option.bind_eq_some_iff.mp hstep
    dsimp only at hstep
    cases hresult : (agent.setCustomConfig (.single call.configContent) (some ch)).2 with
    | send msg =>
      rw [hresult] at hstep
      cases hstep
      exact .setCustomConfig ref agent _ hstage hagent (.inr ⟨msg, rfl, hresult⟩)
    | notifyNow =>
      rw [hresult] at hstep
      cases hstep
      exact .setCustomConfig ref agent _ hstage hagent (.inl ⟨rfl, hresult⟩)
  | notifyNow =>
    rw [hstage] at hstep
    dsimp only at hstep
    by_cases htoken : ch ∈ sys.tokens
    · rw [if_pos htoken] at hstep
      cases hstep
    · rw [if_neg htoken] at hstep
      cases hstep
      exact .notifyNow hstage htoken
  | select =>
    rw [hstage] at hstep
    dsimp only at hstep
    by_cases htoken : ch ∈ sys.tokens
    · rw [if_pos htoken] at hstep
      cases hstep
      exact .select hstage htoken
    · rw [if_neg htoken] at hstep
      cases hstep
  | send ref msg =>
    rw [hstage] at hstep
    cases hstep
  | returned err =>
    rw [hstage] at hstep
    cases hstep

/-- The answer of the connection moves one call to the select statement. -/
theorem sent_inv {sys sys' : System} {ch : ChanId} {err : Option String}
    (hstep : sys.sent ch err = some sys') :
    ∃ call ref msg, sys.calls[ch]? = some call ∧ call.stage = .send ref msg ∧
      sys' = sys.setCall ch call .select := by
  unfold sent at hstep
  obtain ⟨call, hcall, hstep⟩ := Option.bind_eq_some_iff.mp hstep
  cases hstage : call.stage with
  | send ref msg =>
    rw [hstage] at hstep
    cases hstep
    exact ⟨call, ref, msg, hcall, hstage, rfl⟩
  | _ =>
    rw [hstage] at hstep
    cases hstep

/-- A timeout ends one call. -/
theorem timeout_inv {sys sys' : System} {ch : ChanId} (hstep : sys.timeout ch = some sys') :
    ∃ call, sys.calls[ch]? = some call ∧ call.stage = .select ∧ sys' = sys.setCall ch call
      (.returned (some "timeout waiting for agent to apply config")) := by
  unfold timeout at hstep
  obtain ⟨call, hcall, hstep⟩ := Option.bind_eq_some_iff.mp hstep
  cases hstage : call.stage with
  | select =>
    rw [hstage] at hstep
    cases hstep
    exact ⟨call, hcall, hstage, rfl⟩
  | _ =>
    rw [hstage] at hstep
    cases hstep

/-- A message that arrives gets a handler. A known agent stays as it is, and another one is new:
it joins the heap and the registry. -/
theorem onMessage_inv {sys sys' : System} {env : Env} {conn : Conn} {msg : AgentToServer}
    (hstep : sys.onMessage env conn msg = some sys') :
    ∃ instanceId, UUID.ofSlice msg.instanceUid = .ok instanceId ∧
      ((∃ agent, sys.agentsById.lookup instanceId = some agent ∧
          sys' = { sys with handlers := sys.handlers ++ [{ env, instanceId, msg, agent }] }) ∨
        sys.agentsById.lookup instanceId = none ∧ ∃ connections, sys' = { sys with
          heap := sys.heap ++ [newAgent instanceId conn]
          agentsById := sys.agentsById.insert instanceId sys.heap.length
          connections
          handlers := sys.handlers ++ [{ env, instanceId, msg, agent := sys.heap.length }] }) := by
  rw [onMessage] at hstep
  cases hid : UUID.ofSlice msg.instanceUid with
  | error err =>
    rw [hid] at hstep
    cases hstep
  | ok instanceId =>
    rw [hid] at hstep
    dsimp only at hstep
    cases hfind : sys.agentsById.lookup instanceId with
    | some ref =>
      rw [findOrCreateAgent, hfind] at hstep
      cases hstep
      exact ⟨instanceId, rfl, .inl ⟨ref, hfind, rfl⟩⟩
    | none =>
      rw [findOrCreateAgent, hfind] at hstep
      cases hstep
      exact ⟨instanceId, rfl, .inr ⟨hfind, _, rfl⟩⟩

/-- A token changes the tokens only, and the channel has one afterwards. -/
theorem notify_frame (sys : System) (ch : ChanId) :
    ∃ tokens, sys.notify ch = { sys with tokens } ∧ ch ∈ tokens := by
  unfold notify
  split
  · rename_i htoken
    exact ⟨sys.tokens, rfl, htoken⟩
  · exact ⟨ch :: sys.tokens, rfl, List.mem_cons_self⟩

end System

end OtelHive.Opamp.Concurrent
