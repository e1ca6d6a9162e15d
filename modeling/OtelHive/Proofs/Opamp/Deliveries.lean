import OtelHive.Opamp.Deliveries
import OtelHive.Proofs.Opamp.RemoteConfig

/-!
# `OtelHive.Proofs.Opamp.Deliveries`: which agents get a remote config

`Observed` records, along a run, the capabilities that each agent has sent last and the messages
that the sections make. `OnlyWilling` says that a message with a remote config is for an agent
whose latest capabilities include AcceptsRemoteConfig. `recorded_of_run` connects the record to
the goroutines: every response that a handler returns and every message in `conn.Send` is in it.

`UpdateStatus` and `UpdateConfig` do not look at the capabilities, and `SendConfigToAgent` looks
at those of the first report. `Section.Attaches` says when a section makes a message with a
remote config, and `SendsToWilling` asks for the capability there. `onlyWilling_along_iff`: the
messages of a run go to willing agents exactly if every step meets this condition.
-/

set_option autoImplicit false

namespace OtelHive.Opamp

open OtelHive.Lib

/-! ### Sections that make a message with a remote config -/

namespace Agent.Section

/-- The section makes a message with a remote config: the agent has none yet, or it has reported
the hash of another config, or the config that is set is a new one. -/
def Attaches (agent : Agent) : Section → Prop
  | .updateStatus _ msg => agent.remoteConfig = none ∨ agent.StatusDiffers msg
  | .setCustomConfig config _ =>
    agent.remoteConfig = none ∨ agent.customInstanceConfig ≠ config.file.body
  | _ => False

instance (agent : Agent) : (sec : Section) → Decidable (sec.Attaches agent)
  | .updateStatus _ msg =>
    inferInstanceAs (Decidable (agent.remoteConfig = none ∨ agent.StatusDiffers msg))
  | .setCustomConfig config _ => inferInstanceAs
      (Decidable (agent.remoteConfig = none ∨ agent.customInstanceConfig ≠ config.file.body))
  | .setGroup _ => .isFalse id
  | .setInitialConfig _ => .isFalse id
  | .setGroupID _ => .isFalse id

/-- `Attaches` is exact for a section that returns. -/
theorem attaches_iff {agent agent' : Agent} (hsynced : agent.Synced)
    (hconfigured : agent.Configured) {sec : Section} (h : agent.enter sec = some agent') :
    (∃ msg, sec.message agent = some msg ∧ msg.remoteConfig.isSome) ↔ sec.Attaches agent := by
  cases sec with
  | updateStatus x509 msg =>
    obtain ⟨response, watchers, hupdate⟩ := enter_updateStatus.mp h
    have hresponse := updateStatus_remoteConfig hsynced hconfigured hupdate
    have hmessage : (Section.updateStatus x509 msg).message agent = some response := by
      simp only [message, hupdate]
    have hattaches : (agent.reportChangesConfig msg || (agent.statusInForce msg).any
        (·.lastRemoteConfigHash != sha256 agent.customInstanceConfig)) = true ↔
          (Section.updateStatus x509 msg).Attaches agent := by
      rw [Bool.or_eq_true, reportChangesConfig_iff hsynced hconfigured, statusDiffers_iff]
      rfl
    rw [← hattaches, hmessage]
    simp only [Option.some.injEq, exists_eq_left', hresponse]
    split <;> simp_all
  | setCustomConfig config notify =>
    have hsame : isEqualRemoteConfig agent.remoteConfig (some (remoteConfigOf config.file.body))
        = true ↔ ¬ (Section.setCustomConfig config notify).Attaches agent := by
      cases hremote : agent.remoteConfig with
      | none => simp [Attaches, hremote, isEqualRemoteConfig]
      | some cfg =>
        rw [hsynced cfg hremote, isEqualRemoteConfig_remoteConfigOf]
        simp [Attaches, hremote]
    dsimp only [message]
    rw [setCustomConfig_snd]
    by_cases hequal : isEqualRemoteConfig agent.remoteConfig
        (some (remoteConfigOf config.file.body)) = true
    · rw [if_pos hequal]
      simp [hsame.mp hequal]
    · rw [if_neg hequal]
      simp [not_not.mp (mt hsame.mpr hequal)]
  | setGroup desc => simp [message, Attaches]
  | setInitialConfig config => simp [message, Attaches]
  | setGroupID groupID => simp [message, Attaches]

end Agent.Section

namespace Deliveries

open Concurrent (System)

/-! ### What is observed -/

/-- A message that was made for an agent, with the capabilities that the agent had sent last. -/
structure Delivery where
  agentId : UUID
  msg : ServerToAgent
  capabilities : Option UInt64
deriving DecidableEq

/-- The capabilities include AcceptsRemoteConfig. -/
def acceptsRemoteConfig (capabilities : Option UInt64) : Bool :=
  capabilities.any (· &&& AgentCapabilities.acceptsRemoteConfig != 0)

/-- The capabilities that were received last from each agent, and the messages made so far. -/
structure Observed where
  received : GoMap UUID UInt64 := ∅
  log : List Delivery := []
deriving DecidableEq

namespace Observed

/-- A message from an agent arrives. -/
def receive (observed : Observed) : Event → Observed
  | .server (.message _ _ msg) =>
    match UUID.ofSlice msg.instanceUid with
    | .ok agentId =>
      { observed with received := observed.received.insert agentId msg.capabilities }
    | .error _ => observed
  | _ => observed

/-- A section makes a message for an agent. -/
def send (observed : Observed) (agentId : UUID) (msg : ServerToAgent) : Observed :=
  { observed with
    log := observed.log ++ [{ agentId, msg, capabilities := observed.received.lookup agentId }] }

/-- Observe a step. -/
def step (observed : Observed) (p : Process) (e : Event) : Observed :=
  match p.sendingSection e with
  | some (agentId, agent, sec) =>
    match sec.message agent with
    | some msg => observed.send agentId msg
    | none => observed
  | none => observed.receive e

end Observed

/-- Every message with a remote config was made for an agent whose latest capabilities include
AcceptsRemoteConfig. -/
def OnlyWilling (s : Process × Observed) : Prop :=
  ∀ d ∈ s.2.log, d.msg.remoteConfig.isSome → acceptsRemoteConfig d.capabilities = true

instance (s : Process × Observed) : Decidable (OnlyWilling s) :=
  inferInstanceAs (Decidable (∀ d ∈ s.2.log, _ → _))

/-- A step attaches a remote config only for an agent whose latest capabilities include
AcceptsRemoteConfig. -/
def SendsToWilling (s : Process × Observed) (e : Event) : Prop :=
  ∀ x ∈ (s.1.sendingSection e).toList, x.2.2.Attaches x.2.1 →
    acceptsRemoteConfig (s.2.received.lookup x.1) = true

instance (s : Process × Observed) (e : Event) : Decidable (SendsToWilling s e) :=
  inferInstanceAs (Decidable (∀ x ∈ (s.1.sendingSection e).toList, _ → _))

/-! ### One step -/

/-- The system of a process and its observer. -/
def observedStep : Process × Observed → Event → Option (Process × Observed) :=
  withGhost Process.step Observed.step

/-- The sending section of a step is one that an agent of the heap enters. -/
theorem enter_sendingSection {p p' : Process} {e : Event} (h : p.step e = some p') {agentId : UUID}
    {agent : Agent} {sec : Agent.Section} (hsec : p.sendingSection e = some (agentId, agent, sec)) :
    agent ∈ p.server.heap ∧ ∃ agent', agent.enter sec = some agent' := by
  cases e with
  | server e =>
    obtain ⟨server, hserver, -⟩ := Option.map_eq_some_iff.mp h
    cases e with
    | handle i =>
      obtain ⟨handler, agent₀, hhandler, hagent, hhandled⟩ := System.handle_inv hserver
      simp only [Process.sendingSection, hhandler, hagent, Option.bind_eq_bind, Option.bind_some]
        at hsec
      -- Only the section of `UpdateStatus` is left, and it has returned.
      cases hhandled with
      | updateStatus agent' response watchers hstage hupdate =>
        rw [if_pos hstage] at hsec
        cases hsec
        exact ⟨List.mem_of_getElem? hagent, agent', Agent.enter_of_updateStatus hupdate⟩
      | _ => simp_all
    | advance ch =>
      obtain ⟨call, hcall, hsec⟩ := Option.bind_eq_some_iff.mp hsec
      cases hstage : call.stage with
      | setCustomConfig ref =>
        rw [hstage] at hsec
        obtain ⟨agent₀, hagent, hsec⟩ := Option.bind_eq_some_iff.mp hsec
        cases hsec
        exact ⟨List.mem_of_getElem? hagent, _, rfl⟩
      | _ =>
        rw [hstage] at hsec
        cases hsec
    | _ => cases hsec
  | advanceUpdate u =>
    obtain ⟨update, hupdate, hsec⟩ := Option.bind_eq_some_iff.mp hsec
    cases hstage : update.stage with
    | setCustomConfig ref =>
      rw [hstage] at hsec
      obtain ⟨agent₀, hagent, hsec⟩ := Option.bind_eq_some_iff.mp hsec
      cases hsec
      exact ⟨List.mem_of_getElem? hagent, _, rfl⟩
    | _ =>
      rw [hstage] at hsec
      cases hsec
  | _ => cases hsec

namespace Process

/-- A step of `UpdateConfig` goes on to a stage before or after the send, or it is the section of
`SetCustomConfig`. -/
theorem advanceUpdate_cases {p p' : Process} {u : Nat} (h : p.advanceUpdate u = some p') :
    ∃ update stage, p.updates[u]? = some update ∧
      ((∀ ref msg, stage ≠ .send ref msg) ∧ p' = p.setUpdate u update stage ∨
        ∃ ref agent, update.stage = .setCustomConfig ref ∧ p.server.heap[ref]? = some agent ∧
          (∀ ref' msg, stage = .send ref' msg → ref' = ref ∧ (agent.setCustomConfig
            (.single defaultOTelConfig) update.notifyNextStatusUpdate).2 = .send msg) ∧
          p' = Process.setUpdate { p with server := p.server.setAgent ref (agent.setCustomConfig
            (.single defaultOTelConfig) update.notifyNextStatusUpdate).1 } u update stage) := by
  obtain ⟨update, hupdate, h⟩ := Option.bind_eq_some_iff.mp h
  cases hstage : update.stage with
  | findAgent =>
    rw [hstage] at h
    dsimp only at h
    cases hfind : p.server.agentsById.lookup update.agentId with
    | none =>
      rw [hfind] at h
      cases h
      exact ⟨update, _, hupdate, .inl ⟨by rintro _ _ ⟨⟩, rfl⟩⟩
    | some ref =>
      rw [hfind] at h
      cases h
      exact ⟨update, _, hupdate, .inl ⟨by rintro _ _ ⟨⟩, rfl⟩⟩
  | setCustomConfigForAgent =>
    rw [hstage] at h
    dsimp only at h
    cases hfind : p.server.agentsById.lookup update.agentId with
    | none =>
      rw [hfind] at h
      cases h
      exact ⟨update, _, hupdate, .inl ⟨by rintro _ _ ⟨⟩, rfl⟩⟩
    | some ref =>
      rw [hfind] at h
      cases h
      exact ⟨update, _, hupdate, .inl ⟨by rintro _ _ ⟨⟩, rfl⟩⟩
  | setCustomConfig ref =>
    rw [hstage] at h
    obtain ⟨agent, hagent, h⟩ := Option.bind_eq_some_iff.mp h
    dsimp only at h
    cases hresult : (agent.setCustomConfig (.single defaultOTelConfig)
        update.notifyNextStatusUpdate).2 with
    | send msg =>
      rw [hresult] at h
      cases h
      refine ⟨update, _, hupdate, .inr ⟨ref, agent, hstage, hagent, ?_, rfl⟩⟩
      rintro ref' msg' ⟨⟩
      exact ⟨rfl, hresult⟩
    | notifyNow =>
      rw [hresult] at h
      cases h
      exact ⟨update, _, hupdate, .inr ⟨ref, agent, hstage, hagent, by rintro _ _ ⟨⟩, rfl⟩⟩
  | send ref msg =>
    rw [hstage] at h
    cases h
    exact ⟨update, _, hupdate, .inl ⟨by rintro _ _ ⟨⟩, rfl⟩⟩
  | notifyNow =>
    rw [hstage] at h
    cases h
    exact ⟨update, _, hupdate, .inl ⟨by rintro _ _ ⟨⟩, rfl⟩⟩
  | returned err =>
    rw [hstage] at h
    cases h

/-- A step of a group push leaves the server alone, or it calls `SendConfigToAgent`. -/
theorem advanceGroupPush_cases {p p' : Process} {g : Nat} (h : p.advanceGroupPush g = some p') :
    p'.updates = p.updates ∧ (p'.server = p.server ∨
      ∃ agentId configContent,
        p.server.step (.sendConfigToAgent agentId configContent) = some p'.server) := by
  obtain ⟨push, hpush, h⟩ := Option.bind_eq_some_iff.mp h
  cases hstage : push.stage with
  | clone agents clones =>
    rw [hstage] at h
    cases agents with
    | nil =>
      cases h
      exact ⟨rfl, .inl rfl⟩
    | cons head agents =>
      obtain ⟨agent, hagent, h⟩ := Option.bind_eq_some_iff.mp h
      cases h
      exact ⟨rfl, .inl rfl⟩
  | loop clones =>
    rw [hstage] at h
    cases clones with
    | nil =>
      cases h
      exact ⟨rfl, .inl rfl⟩
    | cons head clones =>
      dsimp only at h
      by_cases hgroup : head.2 = some push.groupId
      · rw [if_pos hgroup] at h
        cases h
        exact ⟨rfl, .inr ⟨head.1, push.configContent, rfl⟩⟩
      · rw [if_neg hgroup] at h
        cases h
        exact ⟨rfl, .inl rfl⟩
  | sendConfigToAgent agentId ch clones =>
    rw [hstage] at h
    obtain ⟨call, hcall, h⟩ := Option.bind_eq_some_iff.mp h
    cases hreturned : call.stage with
    | returned err =>
      rw [hreturned] at h
      cases h
      exact ⟨rfl, .inl rfl⟩
    | _ =>
      rw [hreturned] at h
      cases h
  | returned =>
    rw [hstage] at h
    cases h

/-- Every agent in the heap stays reached by sections. -/
theorem reachable_step {p p' : Process} {e : Event}
    (hreachable : ∀ agent ∈ p.server.heap, agent.Reachable) (h : p.step e = some p') :
    ∀ agent ∈ p'.server.heap, agent.Reachable := by
  cases e with
  | server e =>
    obtain ⟨server, hserver, rfl⟩ := Option.map_eq_some_iff.mp h
    exact System.reachable_step hreachable hserver
  | updateConfig agentId notify =>
    cases h
    exact hreachable
  | advanceUpdate u =>
    obtain ⟨update, stage, -, ⟨-, rfl⟩ | ⟨ref, agent, -, hagent, -, rfl⟩⟩ := advanceUpdate_cases h
    · exact hreachable
    · intro agent' hmem
      rcases List.mem_or_eq_of_mem_set hmem with hmem | rfl
      · exact hreachable agent' hmem
      · exact @Agent.Reachable.run agent _ (hreachable agent (List.mem_of_getElem? hagent))
          [.setCustomConfig (.single defaultOTelConfig) update.notifyNextStatusUpdate] rfl
  | sendConfigToAgentsInGroup cloneOrder order groupId configContent =>
    cases h
    exact hreachable
  | advanceGroupPush g =>
    obtain ⟨-, hserver | ⟨agentId, configContent, hserver⟩⟩ := advanceGroupPush_cases h
    · rw [hserver]
      exact hreachable
    · exact System.reachable_step hreachable hserver

end Process

/-- A message that arrives leaves the log alone. -/
theorem log_receive (observed : Observed) (e : Event) :
    (observed.receive e).log = observed.log := by
  unfold Observed.receive
  split
  · split <;> rfl
  · rfl

/-- A message joins the log under the same condition as the messages before it. -/
theorem onlyWilling_send (p : Process) (observed : Observed) (agentId : UUID)
    (msg : ServerToAgent) : OnlyWilling (p, observed.send agentId msg) ↔
      OnlyWilling (p, observed) ∧ (msg.remoteConfig.isSome →
        acceptsRemoteConfig (observed.received.lookup agentId) = true) := by
  simp only [OnlyWilling, Observed.send, List.mem_append, List.mem_singleton, or_imp, forall_and,
    forall_eq]

/-- A step keeps `OnlyWilling` exactly if it meets the condition. -/
theorem onlyWilling_step {s s' : Process × Observed} {e : Event}
    (hreachable : ∀ agent ∈ s.1.server.heap, agent.Reachable) (hwilling : OnlyWilling s)
    (h : observedStep s e = some s') : OnlyWilling s' ↔ SendsToWilling s e := by
  obtain ⟨hstep, hobserved⟩ := withGhost_eq_some.mp h
  obtain ⟨p, observed⟩ := s
  obtain ⟨p', observed'⟩ := s'
  dsimp only at hstep hobserved hreachable
  subst hobserved
  have hcondition : SendsToWilling (p, observed) e ↔
      ∀ x ∈ (p.sendingSection e).toList, x.2.2.Attaches x.2.1 →
        acceptsRemoteConfig (observed.received.lookup x.1) = true := Iff.rfl
  cases hsec : p.sendingSection e with
  | none =>
    rw [hcondition, hsec, Observed.step, hsec]
    refine ⟨fun _ => by simp, fun _ => ?_⟩
    intro d hd
    rw [log_receive] at hd
    exact hwilling d hd
  | some x =>
    obtain ⟨agentId, agent, sec⟩ := x
    obtain ⟨hmem, agent', henter⟩ := enter_sendingSection hstep hsec
    obtain ⟨hsynced, hconfigured⟩ := (hreachable agent hmem).invariant
    have hattaches := Agent.Section.attaches_iff hsynced hconfigured henter
    rw [hcondition, hsec, Observed.step, hsec, Option.toList_some, List.forall_mem_singleton,
      ← hattaches]
    cases hmsg : sec.message agent with
    | none =>
      have hlog : OnlyWilling (p', observed) := hwilling
      simp [hmsg, hlog]
    | some msg =>
      have hlog : OnlyWilling (p', observed) := hwilling
      simp only [hmsg, onlyWilling_send, hlog, true_and, Option.some.injEq, exists_eq_left']

/-! ### The log and the goroutines -/

/-- The log only grows. -/
theorem mem_log_step {observed : Observed} {d : Delivery} (hd : d ∈ observed.log) (p : Process)
    (e : Event) : d ∈ (observed.step p e).log := by
  unfold Observed.step
  split
  · split
    · exact List.mem_append_left _ hd
    · exact hd
  · rw [log_receive]
    exact hd

/-- The message of a sending section joins the log. -/
theorem mem_log_of_message {p : Process} {e : Event} {agentId : UUID} {agent : Agent}
    {sec : Agent.Section} {msg : ServerToAgent}
    (hsec : p.sendingSection e = some (agentId, agent, sec)) (hmsg : sec.message agent = some msg)
    (observed : Observed) : ∃ d ∈ (observed.step p e).log, d.agentId = agentId ∧ d.msg = msg := by
  rw [Observed.step, hsec]
  dsimp only
  rw [hmsg]
  exact ⟨_, List.mem_append_right _ (List.mem_singleton_self _), rfl, rfl⟩

/-- `UpdateStatus` has returned in the handler. -/
def reported : Concurrent.Handler.Stage → Bool
  | .notifyStatusWatchers _ => true
  | .persistAgent => true
  | .returned => true
  | _ => false

/-- The response of the handler is empty until `UpdateStatus` returns. From then on the log has a
response to the agent with the same remote config. -/
def ResponseLogged (log : List Delivery) (handler : Concurrent.Handler) : Prop :=
  (reported handler.stage = false → handler.response = {}) ∧
    (reported handler.stage = true → ∃ d ∈ log,
      d.agentId = handler.instanceId ∧ d.msg.remoteConfig = handler.response.remoteConfig)

/-- The log has the message, for the agent at this place of the heap. -/
def SendLogged (log : List Delivery) (heap : List Agent) (ref : Ref) (msg : ServerToAgent) : Prop :=
  ∃ agent, heap[ref]? = some agent ∧ ∃ d ∈ log, d.agentId = agent.instanceId ∧ d.msg = msg

/-- The log has every message that leaves the server: the responses that the handlers return,
and the messages in `conn.Send`. -/
structure Recorded (s : Process × Observed) : Prop where
  responses : ∀ handler ∈ s.1.server.handlers, ResponseLogged s.2.log handler
  pushes : ∀ call ∈ s.1.server.calls, ∀ ref msg, call.stage = .send ref msg →
    SendLogged s.2.log s.1.server.heap ref msg
  updates : ∀ update ∈ s.1.updates, ∀ ref msg, update.stage = .send ref msg →
    SendLogged s.2.log s.1.server.heap ref msg

/-- Every agent stays in its place and keeps its id. -/
def KeepsIds (heap heap' : List Agent) : Prop :=
  ∀ (ref : Ref) (agent : Agent), heap[ref]? = some agent →
    ∃ agent', heap'[ref]? = some agent' ∧ agent'.instanceId = agent.instanceId

theorem KeepsIds.refl (heap : List Agent) : KeepsIds heap heap :=
  fun _ agent hagent => ⟨agent, hagent, rfl⟩

/-- A section of one agent. -/
theorem KeepsIds.set {heap : List Agent} {ref : Ref} {agent agent' : Agent}
    (hagent : heap[ref]? = some agent) (hid : agent'.instanceId = agent.instanceId) :
    KeepsIds heap (heap.set ref agent') := by
  intro ref' other hother
  by_cases hsame : ref' = ref
  · subst hsame
    rw [hagent] at hother
    cases hother
    exact ⟨agent', List.getElem?_set_self (lt_length_of_getElem? hagent), hid⟩
  · exact ⟨other, by rw [List.getElem?_set_ne (Ne.symm hsame)]; exact hother, rfl⟩

/-- No section changes the id. -/
theorem instanceId_enter {agent agent' : Agent} {sec : Agent.Section}
    (h : agent.enter sec = some agent') : agent'.instanceId = agent.instanceId := by
  cases sec with
  | updateStatus x509 msg =>
    obtain ⟨response, watchers, hupdate⟩ := Agent.enter_updateStatus.mp h
    obtain ⟨⟨startedAt, effectiveConfig, rfl⟩, -⟩ := Agent.updateStatus_ok hupdate
    rfl
  | setCustomConfig config notify =>
    cases h
    obtain ⟨watchers, hset⟩ := Agent.setCustomConfig_file agent config notify
    rw [hset]
  | setInitialConfig config =>
    cases h
    cases config <;> rfl
  | _ =>
    cases h
    rfl

/-- The goroutines of the server keep the agents in their places. -/
theorem keepsIds_server {sys sys' : System} {e : Concurrent.Event} (h : sys.step e = some sys') :
    KeepsIds sys.heap sys'.heap := by
  rcases System.heap_step h with heap | ⟨id, conn, heap⟩ |
    ⟨ref, agent, sec, agent', hget, hsec, heap⟩
  · rw [heap]
    exact .refl sys.heap
  · rw [heap]
    intro ref agent hagent
    exact ⟨agent, getElem?_append_of_getElem? hagent _, rfl⟩
  · rw [heap]
    exact .set hget (instanceId_enter hsec)

/-- A push section of the agent at this place of the heap. -/
theorem sendLogged_of_message {p : Process} {e : Event} {ref : Ref} {agent : Agent}
    {sec : Agent.Section} {msg : ServerToAgent} {heap' : List Agent}
    (hagent : p.server.heap[ref]? = some agent) (hkeeps : KeepsIds p.server.heap heap')
    (hsec : p.sendingSection e = some (agent.instanceId, agent, sec))
    (hmsg : sec.message agent = some msg) (observed : Observed) :
    SendLogged (observed.step p e).log heap' ref msg := by
  obtain ⟨agent', hagent', hid'⟩ := hkeeps ref agent hagent
  obtain ⟨d, hd, hid, hdmsg⟩ := mem_log_of_message hsec hmsg observed
  exact ⟨agent', hagent', d, hd, hid.trans hid'.symm, hdmsg⟩

theorem SendLogged.mono {log log' : List Delivery} {heap heap' : List Agent} {ref : Ref}
    {msg : ServerToAgent} (h : SendLogged log heap ref msg) (hlog : log ⊆ log')
    (hheap : KeepsIds heap heap') : SendLogged log' heap' ref msg := by
  obtain ⟨agent, hagent, d, hd, hid, hmsg⟩ := h
  obtain ⟨agent', hagent', hid'⟩ := hheap ref agent hagent
  exact ⟨agent', hagent', d, hlog hd, hid.trans hid'.symm, hmsg⟩

theorem ResponseLogged.mono {log log' : List Delivery} {handler : Concurrent.Handler}
    (h : ResponseLogged log handler) (hlog : log ⊆ log') : ResponseLogged log' handler := by
  refine ⟨h.1, ?_⟩
  intro hreported
  obtain ⟨d, hd, hid, hconfig⟩ := h.2 hreported
  exact ⟨d, hlog hd, hid, hconfig⟩

/-- The log grows and the agents stay in their places. So the goroutines that do not take a step
stay recorded. -/
theorem Recorded.of_changed {p p' : Process} {observed observed' : Observed}
    (h : Recorded (p, observed)) (hgrows : observed.log ⊆ observed'.log)
    (hkeeps : KeepsIds p.server.heap p'.server.heap)
    (hhandlers : ∀ handler ∈ p'.server.handlers,
      handler ∈ p.server.handlers ∨ ResponseLogged observed'.log handler)
    (hcalls : ∀ call ∈ p'.server.calls, call ∈ p.server.calls ∨
      ∀ ref msg, call.stage = .send ref msg → SendLogged observed'.log p'.server.heap ref msg)
    (hupdates : ∀ update ∈ p'.updates, update ∈ p.updates ∨
      ∀ ref msg, update.stage = .send ref msg → SendLogged observed'.log p'.server.heap ref msg) :
    Recorded (p', observed') where
  responses := by
    intro handler hmem
    rcases hhandlers handler hmem with hold | hlogged
    · exact (h.responses handler hold).mono hgrows
    · exact hlogged
  pushes := by
    intro call hmem ref msg hstage
    rcases hcalls call hmem with hold | hlogged
    · exact (h.pushes call hold ref msg hstage).mono hgrows hkeeps
    · exact hlogged ref msg hstage
  updates := by
    intro update hmem ref msg hstage
    rcases hupdates update hmem with hold | hlogged
    · exact (h.updates update hold ref msg hstage).mono hgrows hkeeps
    · exact hlogged ref msg hstage

/-- A handler takes a step. The response that `UpdateStatus` makes joins the log. -/
theorem responseLogged_handle {p : Process} {observed : Observed} {h : Nat} {server' : System}
    (hresponses : ∀ handler ∈ p.server.handlers, ResponseLogged observed.log handler)
    (hstep : p.server.handle h = some server') :
    ∃ handler', server'.handlers = p.server.handlers.set h handler' ∧
      server'.calls = p.server.calls ∧
      ResponseLogged (observed.step p (.server (.handle h))).log handler' := by
  obtain ⟨handler, agent, hhandler, hagent, hhandled⟩ := System.handle_inv hstep
  have hold := hresponses handler (List.mem_of_getElem? hhandler)
  have hafter := hold.mono (fun d hd => mem_log_step hd p (.server (.handle h)))
  cases hhandled with
  | noDescription hstage => exact ⟨_, rfl, rfl, fun _ => hold.1 (by rw [hstage]; rfl), nofun⟩
  | setGroup desc hstage => exact ⟨_, rfl, rfl, fun _ => hold.1 (by rw [hstage]; rfl), nofun⟩
  | findInitialConfig changed hstage =>
    exact ⟨_, rfl, rfl, fun _ => hold.1 (by rw [hstage]; rfl), nofun⟩
  | setInitialConfig config hstage =>
    exact ⟨_, rfl, rfl, fun _ => hold.1 (by rw [hstage]; rfl), nofun⟩
  | updateStatus agent' response watchers hstage hupdate =>
    rw [hold.1 (by rw [hstage]; rfl)] at hupdate
    have hsec : p.sendingSection (.server (.handle h)) = some (handler.instanceId, agent,
        .updateStatus handler.env.x509 handler.msg) := by
      simp [Process.sendingSection, hhandler, hagent, hstage]
    have hmsg : (Agent.Section.updateStatus handler.env.x509 handler.msg).message agent
        = some response := by
      simp only [Agent.Section.message, hupdate]
    obtain ⟨d, hd, hid, hdmsg⟩ := mem_log_of_message hsec hmsg observed
    exact ⟨_, rfl, rfl, nofun, fun _ => ⟨d, hd, hid, by rw [hdmsg]⟩⟩
  | notify ch watchers hstage =>
    obtain ⟨tokens, htokens, -⟩ := p.server.notify_frame ch
    rw [htokens]
    exact ⟨_, rfl, rfl, nofun, fun _ => hafter.2 (by rw [hstage]; rfl)⟩
  | notified hstage =>
    obtain ⟨d, hd, hid, hconfig⟩ := hafter.2 (by rw [hstage]; rfl)
    refine ⟨_, rfl, rfl, nofun, fun _ => ⟨d, hd, hid, ?_⟩⟩
    rw [hconfig, Server.calcConnectionSettings_remoteConfig]
  | persistAgent hstage =>
    exact ⟨_, rfl, rfl, nofun, fun _ => hafter.2 (by rw [hstage]; rfl)⟩

/-- A push takes a step. The message that `SetCustomConfig` makes joins the log. -/
theorem sendLogged_advance {p : Process} {observed : Observed} {ch : ChanId} {server' : System}
    (hkeeps : KeepsIds p.server.heap server'.heap) (hstep : p.server.advance ch = some server') :
    ∃ call', server'.calls = p.server.calls.set ch call' ∧
      server'.handlers = p.server.handlers ∧
      ∀ ref msg, call'.stage = .send ref msg →
        SendLogged (observed.step p (.server (.advance ch))).log server'.heap ref msg := by
  obtain ⟨call, hcall, hadvanced⟩ := System.advance_inv hstep
  cases hadvanced with
  | notFound => exact ⟨_, rfl, rfl, by rintro _ _ ⟨⟩⟩
  | found => exact ⟨_, rfl, rfl, by rintro _ _ ⟨⟩⟩
  | refused => exact ⟨_, rfl, rfl, by rintro _ _ ⟨⟩⟩
  | accepted => exact ⟨_, rfl, rfl, by rintro _ _ ⟨⟩⟩
  | setCustomConfig ref agent stage hstage hagent hnext =>
    refine ⟨_, rfl, rfl, ?_⟩
    rintro ref' msg rfl
    rcases hnext with ⟨hnow, -⟩ | ⟨msg', hsend, hresult⟩
    · cases hnow
    · cases hsend
      have hsec : p.sendingSection (.server (.advance ch)) = some (agent.instanceId, agent,
          .setCustomConfig (.single call.configContent) (some ch)) := by
        simp [Process.sendingSection, hcall, hstage, hagent]
      have hmsg : (Agent.Section.setCustomConfig (.single call.configContent) (some ch)).message
          agent = some msg := by
        simp only [Agent.Section.message, hresult]
      exact sendLogged_of_message hagent hkeeps hsec hmsg observed
  | notifyNow =>
    obtain ⟨tokens, htokens, -⟩ := p.server.notify_frame ch
    rw [htokens]
    exact ⟨_, rfl, rfl, by rintro _ _ ⟨⟩⟩
  | select => exact ⟨_, rfl, rfl, by rintro _ _ ⟨⟩⟩

/-- A call of `UpdateConfig` takes a step. The message that `SetCustomConfig` makes joins the
log. -/
theorem sendLogged_advanceUpdate {p p' : Process} {observed : Observed} {u : Nat}
    (hstep : p.advanceUpdate u = some p') :
    KeepsIds p.server.heap p'.server.heap ∧
    ∃ update', p'.updates = p.updates.set u update' ∧ p'.server.calls = p.server.calls ∧
      p'.server.handlers = p.server.handlers ∧
      ∀ ref msg, update'.stage = .send ref msg →
        SendLogged (observed.step p (.advanceUpdate u)).log p'.server.heap ref msg := by
  obtain ⟨update, stage, hupdate, ⟨hstage, rfl⟩ | ⟨ref, agent, hbefore, hagent, hstage, rfl⟩⟩ :=
    Process.advanceUpdate_cases hstep
  · exact ⟨.refl _, _, rfl, rfl, rfl, fun ref msg hsend => absurd hsend (hstage ref msg)⟩
  · have hkeeps : KeepsIds p.server.heap (p.server.heap.set ref (agent.setCustomConfig
        (.single defaultOTelConfig) update.notifyNextStatusUpdate).1) :=
      .set hagent (@instanceId_enter agent _ (.setCustomConfig (.single defaultOTelConfig)
        update.notifyNextStatusUpdate) rfl)
    refine ⟨hkeeps, _, rfl, rfl, rfl, ?_⟩
    intro ref' msg hsend
    obtain ⟨rfl, hresult⟩ := hstage ref' msg hsend
    have hsec : p.sendingSection (.advanceUpdate u) = some (agent.instanceId, agent,
        .setCustomConfig (.single defaultOTelConfig) update.notifyNextStatusUpdate) := by
      simp [Process.sendingSection, hupdate, hbefore, hagent]
    have hmsg : (Agent.Section.setCustomConfig (.single defaultOTelConfig)
        update.notifyNextStatusUpdate).message agent = some msg := by
      simp only [Agent.Section.message, hresult]
    exact sendLogged_of_message hagent hkeeps hsec hmsg observed

/-- The other steps of the server: a handler is new or goes on unchanged, and no call enters
`conn.Send`. -/
theorem frame_server {sys sys' : System} {e : Concurrent.Event} (h : sys.step e = some sys')
    (hhandle : ∀ i, e ≠ .handle i) (hadvance : ∀ ch, e ≠ .advance ch) :
    (∀ handler ∈ sys'.handlers, handler ∈ sys.handlers ∨
      handler.response = {} ∧ reported handler.stage = false) ∧
    (∀ call ∈ sys'.calls, call ∈ sys.calls ∨ ∀ ref msg, call.stage ≠ .send ref msg) := by
  cases e with
  | message env conn msg =>
    -- The heap, the registry and the connections are other fields.
    have hframe : ∃ handler : Concurrent.Handler, handler.response = {} ∧
        reported handler.stage = false ∧ sys'.handlers = sys.handlers ++ [handler] ∧
        sys'.calls = sys.calls := by
      obtain ⟨instanceId, -, ⟨ref, -, rfl⟩ | ⟨-, connections, rfl⟩⟩ := System.onMessage_inv h
      · exact ⟨_, rfl, rfl, rfl, rfl⟩
      · exact ⟨_, rfl, rfl, rfl, rfl⟩
    obtain ⟨new, hempty, hfresh, hhandlers, hcalls⟩ := hframe
    rw [hhandlers, hcalls]
    refine ⟨?_, fun _ => .inl⟩
    intro handler hmem
    rcases List.mem_append.mp hmem with hmem | hmem
    · exact .inl hmem
    · rw [List.mem_singleton.mp hmem]
      exact .inr ⟨hempty, hfresh⟩
  | handle i => exact absurd rfl (hhandle i)
  | disconnect env conn =>
    cases h
    exact ⟨fun _ => .inl, fun _ => .inl⟩
  | sendConfigToAgent agentId configContent =>
    cases h
    refine ⟨fun _ => .inl, ?_⟩
    intro call hmem
    rcases List.mem_append.mp hmem with hmem | hmem
    · exact .inl hmem
    · rw [List.mem_singleton.mp hmem]
      exact .inr (by rintro _ _ ⟨⟩)
  | advance ch => exact absurd rfl (hadvance ch)
  | sent ch err =>
    have hsent : sys.sent ch err = some sys' := h
    obtain ⟨call, _, _, -, -, rfl⟩ := System.sent_inv hsent
    refine ⟨fun _ => .inl, ?_⟩
    intro other hmem
    rcases List.mem_or_eq_of_mem_set hmem with hmem | rfl
    · exact .inl hmem
    · exact .inr (by rintro _ _ ⟨⟩)
  | timeout ch =>
    obtain ⟨call, -, -, rfl⟩ := System.timeout_inv h
    refine ⟨fun _ => .inl, ?_⟩
    intro other hmem
    rcases List.mem_or_eq_of_mem_set hmem with hmem | rfl
    · exact .inl hmem
    · exact .inr (by rintro _ _ ⟨⟩)
  | write store =>
    cases h
    exact ⟨fun _ => .inl, fun _ => .inl⟩

/-- A step of the server that makes no message. -/
theorem Recorded.quiet {p p' : Process} {observed observed' : Observed}
    (h : Recorded (p, observed)) {e : Concurrent.Event} (hserver : p.server.step e = some p'.server)
    (hhandle : ∀ i, e ≠ .handle i) (hadvance : ∀ ch, e ≠ .advance ch)
    (hupdates : p'.updates = p.updates) (hgrows : observed.log ⊆ observed'.log) :
    Recorded (p', observed') := by
  obtain ⟨hhandlers, hcalls⟩ := frame_server hserver hhandle hadvance
  refine h.of_changed hgrows (keepsIds_server hserver) ?_ ?_ ?_
  · intro handler hmem
    refine (hhandlers handler hmem).imp id ?_
    rintro ⟨hempty, hfresh⟩
    exact ⟨fun _ => hempty, fun hreported => by rw [hfresh] at hreported; cases hreported⟩
  · intro call hmem
    exact (hcalls call hmem).imp id fun hother ref msg hsend => absurd hsend (hother ref msg)
  · rw [hupdates]
    exact fun _ => .inl

/-- A step of the goroutines of the server. -/
theorem Recorded.server {p : Process} {observed : Observed} (h : Recorded (p, observed))
    {e : Concurrent.Event} {server' : System} (hserver : p.server.step e = some server') :
    Recorded ({ p with server := server' }, observed.step p (.server e)) := by
  have hgrows : observed.log ⊆ (observed.step p (.server e)).log :=
    fun d hd => mem_log_step hd p _
  have hkeeps := keepsIds_server hserver
  cases e with
  | handle i =>
    obtain ⟨handler', hhandlers, hcalls, hlogged⟩ := responseLogged_handle h.responses hserver
    refine h.of_changed hgrows hkeeps ?_ ?_ (fun _ => .inl)
    · rw [hhandlers]
      intro handler hmem
      rcases List.mem_or_eq_of_mem_set hmem with hold | rfl
      · exact .inl hold
      · exact .inr hlogged
    · rw [hcalls]
      exact fun _ => .inl
  | advance ch =>
    obtain ⟨call', hcalls, hhandlers, hlogged⟩ := sendLogged_advance hkeeps hserver
    refine h.of_changed hgrows hkeeps ?_ ?_ (fun _ => .inl)
    · rw [hhandlers]
      exact fun _ => .inl
    · rw [hcalls]
      intro call hmem
      rcases List.mem_or_eq_of_mem_set hmem with hold | rfl
      · exact .inl hold
      · exact .inr hlogged
  | _ => exact h.quiet hserver nofun nofun rfl hgrows

/-- Every step keeps `Recorded`. -/
theorem Recorded.step {s s' : Process × Observed} {e : Event} (h : Recorded s)
    (hstep : observedStep s e = some s') : Recorded s' := by
  obtain ⟨hprocess, hobserved⟩ := withGhost_eq_some.mp hstep
  obtain ⟨p, observed⟩ := s
  obtain ⟨p', observed'⟩ := s'
  dsimp only at hprocess hobserved
  subst hobserved
  have hgrows : observed.log ⊆ (observed.step p e).log := fun d hd => mem_log_step hd p e
  cases e with
  | server e =>
    obtain ⟨server', hserver, rfl⟩ := Option.map_eq_some_iff.mp hprocess
    exact h.server hserver
  | updateConfig agentId notify =>
    cases hprocess
    refine h.of_changed hgrows (.refl _) (fun _ => .inl) (fun _ => .inl) ?_
    intro update hmem
    refine (List.mem_append.mp hmem).imp id ?_
    intro hnew ref msg hsend
    rw [List.mem_singleton.mp hnew] at hsend
    cases hsend
  | advanceUpdate u =>
    obtain ⟨hkeeps, update', hupdates, hcalls, hhandlers, hlogged⟩ :=
      sendLogged_advanceUpdate hprocess
    refine h.of_changed hgrows hkeeps ?_ ?_ ?_
    · rw [hhandlers]
      exact fun _ => .inl
    · rw [hcalls]
      exact fun _ => .inl
    · rw [hupdates]
      intro update hmem
      rcases List.mem_or_eq_of_mem_set hmem with hold | rfl
      · exact .inl hold
      · exact .inr hlogged
  | sendConfigToAgentsInGroup cloneOrder order groupId configContent =>
    cases hprocess
    exact h.of_changed hgrows (.refl _) (fun _ => .inl) (fun _ => .inl) (fun _ => .inl)
  | advanceGroupPush g =>
    obtain ⟨hupdates, hserver | ⟨agentId, configContent, hserver⟩⟩ :=
      Process.advanceGroupPush_cases hprocess
    · refine h.of_changed hgrows ?_ ?_ ?_ ?_
      · rw [hserver]
        exact .refl _
      · rw [hserver]
        exact fun _ => .inl
      · rw [hserver]
        exact fun _ => .inl
      · rw [hupdates]
        exact fun _ => .inl
    · exact h.quiet hserver nofun nofun hupdates hgrows

/-- In every run the log has every message that leaves the server. -/
theorem recorded_of_run {store : Sqlite.Storage} {otlpGRPCEndpoint otlpHTTPEndpoint : String}
    {events : List Event} {s : Process × Observed}
    (hrun : run observedStep (Process.newProcess store otlpGRPCEndpoint otlpHTTPEndpoint, {}) events
      = some s) : Recorded s := by
  refine run_invariant Recorded (fun _ _ _ h hstep => h.step hstep) ?_ hrun
  refine ⟨?_, ?_, ?_⟩
  · intro handler hmem
    cases hmem
  · intro call hmem
    cases hmem
  · intro update hmem
    cases hmem

/-! ### Runs -/

/-- The messages with a remote config in a run go to agents whose latest capabilities include
AcceptsRemoteConfig exactly if every step attaches a remote config for such agents only. -/
theorem onlyWilling_along_iff (store : Sqlite.Storage) (otlpGRPCEndpoint otlpHTTPEndpoint : String)
    (events : List Event)
    (hrun : (run Process.step (Process.newProcess store otlpGRPCEndpoint otlpHTTPEndpoint)
      events).isSome) :
    Along observedStep OnlyWilling
        (Process.newProcess store otlpGRPCEndpoint otlpHTTPEndpoint, {}) events ↔
      StepsMeet observedStep SendsToWilling
        (Process.newProcess store otlpGRPCEndpoint otlpHTTPEndpoint, {}) events := by
  have hrun' : (run observedStep (Process.newProcess store otlpGRPCEndpoint otlpHTTPEndpoint,
      ({} : Observed)) events).isSome := by
    rw [observedStep, isSome_run_withGhost]
    exact hrun
  refine along_iff_stepsMeet (I := fun s => ∀ agent ∈ s.1.server.heap, agent.Reachable)
    (D := fun _ => True) ?_ ?_ (fun _ _ => trivial) ?_ ?_ hrun'
  · intro s e s' hreachable hstep
    exact Process.reachable_step hreachable (withGhost_eq_some.mp hstep).1
  · intro s e s' _ hreachable hwilling hstep
    exact onlyWilling_step hreachable hwilling hstep
  · intro agent hmem
    cases hmem
  · intro d hd
    cases hd

/-- A report of the agent `UUID.nil` in the group `"g"`, with the capabilities and a config
status. -/
def groupMember (capabilities : UInt64) (remoteConfigStatus : Option RemoteConfigStatus) :
    AgentToServer where
  instanceUid := UUID.nil.bytes
  agentDescription := some {
    identifyingAttributes := [{ key := "group.id", value := some (.stringValue "g") }]
    nonIdentifyingAttributes := [] }
  capabilities
  remoteConfigStatus

/-- A message arrives, and its handler `h` takes its steps up to `UpdateStatus`. -/
def report (h : Nat) (msg : AgentToServer) : List Event :=
  .server (.message (.quiet 0 "") 1 msg) :: List.replicate 4 (.server (.handle h))

/-- A call of `SendConfigToAgent` up to the end of `SetCustomConfig`. -/
def push (ch : ChanId) : List Event := List.replicate 3 (.server (.advance ch))

/-- A push to the agent, then a group push, then `UpdateConfig`. -/
def pushes : List Event :=
  [.server (.sendConfigToAgent .nil [1])] ++ push 0 ++
    [.sendConfigToAgentsInGroup ⟨id, fun _ => .refl _⟩ ⟨id, fun _ => .refl _⟩ "g" [2]] ++
    List.replicate 3 (.advanceGroupPush 0) ++ push 1 ++
    [.updateConfig .nil none] ++ List.replicate 3 (.advanceUpdate 0)

/-- The agent accepts remote config and gets all the pushes. -/
def willingSchedule : List Event :=
  report 0 (groupMember AgentCapabilities.acceptsRemoteConfig none) ++ pushes

/-- The first report has no capability. -/
def firstReportSchedule : List Event := report 0 (groupMember 0 none)

/-- The agent accepts remote config at first. Then it withdraws the capability, reports another
hash, and gets all the pushes. -/
def withdrawnSchedule : List Event :=
  report 0 (groupMember AgentCapabilities.acceptsRemoteConfig none) ++
    report 1 (groupMember 0 (some { lastRemoteConfigHash := [] })) ++ pushes

/-- The messages with a remote config, and whether the agent accepts it. -/
def offers (observed : Observed) : List (UUID × Bool) :=
  (observed.log.filter (·.msg.remoteConfig.isSome)).map fun d =>
    (d.agentId, acceptsRemoteConfig d.capabilities)

/-- The first schedule meets the condition. -/
theorem onlyWilling_willingSchedule :
    (run Process.step (Process.newProcess .empty "" "") willingSchedule).isSome ∧
      Along observedStep OnlyWilling (Process.newProcess .empty "" "", {}) willingSchedule := by
  have hrun : (run Process.step (Process.newProcess .empty "" "") willingSchedule).isSome := by
    decide +kernel
  have hmeet : StepsMeet observedStep SendsToWilling (Process.newProcess .empty "" "", {})
      willingSchedule := by decide +kernel
  exact ⟨hrun, (onlyWilling_along_iff .empty "" "" willingSchedule hrun).mpr hmeet⟩

/-- In the other two schedules the agent gets a remote config that it has not agreed to: in the
response to its first report; and once it has withdrawn the capability, in a response and from
each of the three calls. -/
theorem unwilling_agent_gets_config :
    ¬ (∀ (store : Sqlite.Storage) (events : List Event),
      (run Process.step (Process.newProcess store "" "") events).isSome →
        Along observedStep OnlyWilling (Process.newProcess store "" "", {}) events) ∧
    (∃ s, run observedStep (Process.newProcess .empty "" "", {}) firstReportSchedule = some s ∧
      offers s.2 = [(.nil, false)]) ∧
    ∃ s, run observedStep (Process.newProcess .empty "" "", {}) withdrawnSchedule = some s ∧
      offers s.2
        = [(.nil, true), (.nil, false), (.nil, false), (.nil, false), (.nil, false)] := by
  have hfirst : (run observedStep (Process.newProcess .empty "" "", {}) firstReportSchedule).map
      (fun s => (offers s.2, decide (OnlyWilling s))) = some ([(.nil, false)], false) := by
    decide +kernel
  have hwithdrawn : (run observedStep (Process.newProcess .empty "" "", {})
      withdrawnSchedule).map (fun s => offers s.2)
        = some [(.nil, true), (.nil, false), (.nil, false), (.nil, false), (.nil, false)] := by
    decide +kernel
  obtain ⟨s, hs, hsummary⟩ := Option.map_eq_some_iff.mp hfirst
  obtain ⟨t, ht, hoffers⟩ := Option.map_eq_some_iff.mp hwithdrawn
  simp only [Prod.mk.injEq] at hsummary
  refine ⟨?_, ⟨s, hs, hsummary.1⟩, ⟨t, ht, hoffers⟩⟩
  intro hall
  have hrun : (run Process.step (Process.newProcess .empty "" "") firstReportSchedule).isSome := by
    decide +kernel
  exact of_decide_eq_false hsummary.2 ((hall .empty firstReportSchedule hrun).last hs)

end Deliveries

end OtelHive.Opamp
