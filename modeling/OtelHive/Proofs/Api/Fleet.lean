import Mathlib.Logic.Relation
import OtelHive.Api.Fleet
import OtelHive.Lib.Runs
import OtelHive.Proofs.Api.Panics
import OtelHive.Proofs.Opamp.ConfigSender
import OtelHive.Proofs.Opamp.Groups
import OtelHive.Proofs.Opamp.Server
import OtelHive.Proofs.Sqlite.Storage

/-!
# `OtelHive.Proofs.Api.Fleet`: what an event writes

Every event is a sequence of calls of the application store, and `Event.Writes` says which ones it
can make: a message writes agents and at most creates a group, a config endpoint creates configs,
and only `HandleDeleteGroup` deletes. `step_calls` proves it for every event.

So what every such call keeps holds after the event (`step_keeps`). `uniqueIds_run` is the first
example: no table ever holds two rows with one id.

The registry changes by the OpAMP handlers, by a start of the process, and otherwise by pushes only
(`step_sender`).
-/

set_option autoImplicit false

namespace OtelHive.Api.Fleet

open OtelHive.Lib
open OtelHive.Opamp
open OtelHive.Sqlite (Storage)
open OtelHive.Types (Config Group Operation)
open Relation (ReflTransGen)

/-! ### Calls of the store -/

/-- The environment of an endpoint or an OpAMP handler. -/
def Event.env : Event → Option Env
  | .request (.opamp (.message env _ _)) => some env
  | .request (.opamp (.disconnect env _)) => some env
  | .request (.createConfig env _ _) => some env
  | .request (.updateConfig env _ _) => some env
  | .request (.assignConfig env _ _ _) => some env
  | .request (.sendConfig env _ _ _) => some env
  | .push _ _ _ => none
  | .createGroup env _ => some env
  | .deleteGroup env _ _ => some env
  | .restart => none

/-- The event is an OpAMP handler. -/
def Event.Opamp : Event → Prop
  | .request (.opamp _) => True
  | _ => False

/-- The writes that an event can make, with the pragma of the connection. -/
def Event.Writes (e : Event) (foreignKeys : Bool) : Operation → Prop
  | .createAgent _ => e.Opamp
  | .updateAgentStatus _ _ => e.Opamp
  | .updateAgentLastSeen _ _ => e.Opamp
  | .updateAgentEffectiveConfig _ _ => e.Opamp
  | .createGroup group => ∃ env ∈ e.env, group.id = env.newUUID
  | .createConfig config =>
    ∃ env ∈ e.env, config.id = env.newUUID ∧ foreignKeys = env.foreignKeys
  | .deleteGroup id =>
    ∃ env, e = .deleteGroup env none id ∧ id ≠ "" ∧ foreignKeys = env.foreignKeys
  | _ => False

/-- One call of the store that satisfies `P`. -/
def Call (P : Bool → Operation → Prop) (s s' : Storage) : Prop :=
  ∃ foreignKeys now op, P foreignKeys op ∧ s' = (s.perform foreignKeys now op).1

section Calls

variable {P : Bool → Operation → Prop} {env : Env} {s s' : Storage}

/-- A call of the agent service whose error is only logged: it is a call of the store, or it
changes nothing. -/
theorem logged_calls (hcalls : ReflTransGen (Call P) s s') (env : Env) (o : StoreOp)
    {foreignKeys : Bool} (op : Operation) {result : Except String Storage}
    (hop : P foreignKeys op)
    (hperform : (s'.perform foreignKeys env.now op).1 = (s'.written result).1) :
    ReflTransGen (Call P) s (logged s' (env.call o result)) := by
  unfold Env.call
  cases env.faults o with
  | some err => exact hcalls
  | none =>
    cases result with
    | error err => exact hcalls
    | ok s'' => exact hcalls.tail ⟨foreignKeys, env.now, op, hop, hperform.symm⟩

/-- A call of the agent service that succeeds. -/
theorem calls_of_ok {o : StoreOp} {foreignKeys : Bool} (op : Operation)
    {result : Except String Storage} (hop : P foreignKeys op)
    (hperform : (s.perform foreignKeys env.now op).1 = (s.written result).1)
    (h : env.call o result = .ok s') : ReflTransGen (Call P) s s' := by
  obtain ⟨_, rfl⟩ := Env.call_eq_ok h
  exact .single ⟨foreignKeys, env.now, op, hop, hperform.symm⟩

end Calls

/-! ### One event -/

/-- The writes of `persistAgent`. -/
theorem persistAgent_calls {P : Bool → Operation → Prop} {env : Env}
    (hagent : ∀ row, P env.foreignKeys (.createAgent row))
    (hstatus : ∀ id status, P env.foreignKeys (.updateAgentStatus id status))
    (hlastSeen : ∀ id lastSeen, P env.foreignKeys (.updateAgentLastSeen id lastSeen))
    (hconfig : ∀ id content, P env.foreignKeys (.updateAgentEffectiveConfig id content))
    (hgroup : ∀ group : Group, group.id = env.newUUID → P env.foreignKeys (.createGroup group))
    (s : Storage) (agent : Agent) (msg : AgentToServer) :
    ReflTransGen (Call P) s (persistAgent env s agent msg).2 := by
  rcases getAgent_cases env s agent.instanceId with ⟨row, _, _, hget⟩ | hget
  · -- The row is there: its status, its time and, if there is one, its config.
    rw [persistAgent_of_row hget]
    unfold updateServiceAgent
    dsimp only
    have htwo := logged_calls
      (logged_calls (.refl (r := Call P) (a := s)) env .updateAgentStatus
        (.updateAgentStatus agent.instanceId (determineAgentStatus msg)) (hstatus _ _) rfl)
      env .updateAgentLastSeen (.updateAgentLastSeen agent.instanceId env.now) (hlastSeen _ _) rfl
    split
    · exact htwo
    · exact logged_calls htwo env .updateAgentEffectiveConfig
        (.updateAgentEffectiveConfig agent.instanceId agent.effectiveConfig) (hconfig _ _) rfl
  · -- There is none: the group of the name, and the row.
    rw [persistAgent_of_noRow hget]
    have hfirst : ReflTransGen (Call P) s (autoCreateGroup env s agent).2 := by
      unfold autoCreateGroup
      split
      · exact .refl
      · split
        · exact .refl
        · split
          · exact .refl
          · dsimp only
            split
            · exact .refl
            · rename_i store hstore
              exact calls_of_ok (.createGroup _) (hgroup _ rfl) rfl hstore
    exact logged_calls hfirst env .createAgent (.createAgent _) (hagent _) rfl

/-- What a config endpoint does to the tables: nothing, or it creates a config with the fresh id. -/
inductive Creates (env : Env) (s : Storage) : Storage → Prop where
  | nothing : Creates env s s
  | config (config : Config) (s' : Storage) (hid : config.id = env.newUUID)
      (h : Services.createConfig env s config = .ok s') : Creates env s s'

theorem handleCreateConfig_creates (env : Env) (delivery : Delivery)
    (body : Except String CreateConfigRequest) (s : State) :
    Creates env s.store (handleCreateConfig env delivery body s).1.store := by
  unfold handleCreateConfig
  split
  · exact .nothing
  · dsimp only
    split
    · exact .nothing
    · rename_i store hstore
      exact .config _ store rfl hstore

theorem handleUpdateConfig_creates (env : Env) (configID : String)
    (body : Except String UpdateConfigRequest) (s : State) :
    Creates env s.store (handleUpdateConfig env configID body s).1.store := by
  unfold handleUpdateConfig
  split
  · exact .nothing
  · split
    · exact .nothing
    · split
      · exact .nothing
      · exact .nothing
      · split
        · exact .nothing
        · dsimp only
          split
          · exact .nothing
          · rename_i store hstore
            exact .config _ store rfl hstore

theorem handleAssignConfig_creates (env : Env) (delivery : Delivery) (groupID : String)
    (body : Except String AssignConfigRequest) (s : State) :
    Creates env s.store (handleAssignConfig env delivery groupID body s).1.store := by
  unfold handleAssignConfig
  split
  · exact .nothing
  · split
    · exact .nothing
    · split
      · split
        · dsimp only
          split
          · exact .nothing
          · rename_i store hstore
            exact .config _ store rfl hstore
        · exact .nothing
      · exact .nothing

theorem handleSendConfigToAgent_creates (env : Env) (delivery : Delivery) (agentID : String)
    (body : Except String SendConfigRequest) (s : State) :
    Creates env s.store (handleSendConfigToAgent env delivery agentID body s).1.store := by
  have hstored : ∀ {agentUUID content config store},
      Services.storeConfigForAgent env s.store agentUUID content = .ok (config, store) →
      Creates env s.store store := by
    intro agentUUID content config store h
    unfold Services.storeConfigForAgent at h
    split at h
    · cases h
    · cases h
    · split at h
      · cases h
      · dsimp only at h
        split at h
        · cases h
        · rename_i store' hstore
          cases h
          exact .config _ store rfl hstore
  unfold handleSendConfigToAgent
  split
  · exact .nothing
  · split
    · exact .nothing
    · split
      · exact .nothing
      · split
        · exact .nothing
        · split
          · exact .nothing
          · rename_i config store hstore
            -- The config stays, whether the push succeeds or not.
            split
            · exact hstored hstore
            · exact hstored hstore

/-- The writes of a config endpoint. -/
theorem Creates.calls {e : Event} {env : Env} {s s' : Storage} (h : Creates env s s')
    (henv : e.env = some env) : ReflTransGen (Call e.Writes) s s' := by
  cases h with
  | nothing => exact .refl
  | config config s' hid h =>
    have hwrites : e.Writes env.foreignKeys (.createConfig config) := ⟨env, henv, hid, rfl⟩
    exact calls_of_ok (.createConfig config) hwrites rfl h

/-- The writes of the OpAMP server. -/
theorem server_calls {srv srv' : Server} {e : Server.Event} (h : Server.step srv e = some srv') :
    ReflTransGen (Call (Event.request (.opamp e)).Writes) srv.store srv'.store := by
  cases e with
  | message env conn msg =>
    simp only [Server.step] at h
    split at h
    · rename_i response srv₁ hok
      cases h
      obtain ⟨_, agent, _, _, _, _, _, rfl⟩ := Server.onMessage_ok hok
      exact persistAgent_calls (fun _ => trivial) (fun _ _ => trivial) (fun _ _ => trivial)
        (fun _ _ => trivial) (fun group hid => ⟨env, rfl, hid⟩) srv.store agent msg
    · cases h
  | disconnect env conn =>
    cases h
    -- Every agent of the connection is marked.
    refine List.foldlRecOn
      (motive :=
        ReflTransGen (Call (Event.request (.opamp (.disconnect env conn))).Writes) srv.store)
      (srv.agents.agentsOf conn) _ .refl ?_
    intro store hstore id _
    have hwrites : (Event.request (.opamp (.disconnect env conn))).Writes env.foreignKeys
        (.updateAgentStatus id .offline) := trivial
    exact logged_calls hstore env .updateAgentStatus (.updateAgentStatus id .offline) hwrites rfl

/-- Every event writes by calls of the store, those that `Event.Writes` allows. -/
theorem step_calls {s s' : State} {e : Event} (h : step s e = some s') :
    ReflTransGen (Call e.Writes) s.store s'.store := by
  cases e with
  | request r =>
    cases r with
    | opamp e =>
      obtain ⟨srv, hstep, rfl⟩ := Option.map_eq_some_iff.mp h
      exact server_calls hstep
    | createConfig env delivery body =>
      cases h
      exact (handleCreateConfig_creates env delivery body s).calls rfl
    | updateConfig env configID body =>
      cases h
      exact (handleUpdateConfig_creates env configID body s).calls rfl
    | assignConfig env delivery groupID body =>
      cases h
      exact (handleAssignConfig_creates env delivery groupID body s).calls rfl
    | sendConfig env delivery agentID body =>
      cases h
      exact (handleSendConfigToAgent_creates env delivery agentID body s).calls rfl
  | push acked agentID content =>
    cases h
    exact .refl
  | createGroup env body =>
    cases h
    show ReflTransGen _ s.store (Groups.handleCreateGroup env body s.store).1
    unfold Groups.handleCreateGroup
    split
    · exact .refl
    · rename_i req _
      dsimp only
      split
      · exact .refl
      · rename_i store hstore
        let group : Group := {
          id := env.newUUID
          name := req.name
          labels := req.labels
          createdAt := env.now
          updatedAt := env.now }
        have hwrites : (Event.createGroup env body).Writes env.foreignKeys (.createGroup group) :=
          ⟨env, rfl, rfl⟩
        exact calls_of_ok (.createGroup group) hwrites rfl hstore
  | deleteGroup env fault groupID =>
    cases h
    show ReflTransGen _ s.store (Groups.handleDeleteGroup env fault groupID s.store).1
    unfold Groups.handleDeleteGroup
    split
    · exact .refl
    · rename_i hempty
      cases fault with
      | some err => exact .refl
      | none =>
        dsimp only [Groups.deleteGroup]
        cases hdelete : s.store.deleteGroup env.foreignKeys groupID with
        | error err => exact .refl
        | ok store =>
          refine .single ⟨env.foreignKeys, env.now, .deleteGroup groupID,
            ⟨env, rfl, hempty, rfl⟩, ?_⟩
          show store = (s.store.written (s.store.deleteGroup env.foreignKeys groupID)).1
          rw [hdelete]
          rfl
  | restart =>
    cases h
    exact .refl

/-! ### Runs -/

/-- What every call of an event keeps holds after it. -/
theorem step_keeps {I : Storage → Prop} {s s' : State} {e : Event}
    (hcall : ∀ s foreignKeys now op, e.Writes foreignKeys op → I s →
      I (s.perform foreignKeys now op).1)
    (h : step s e = some s') (hI : I s.store) : I s'.store := by
  have hcalls := step_calls h
  generalize s'.store = store at hcalls
  induction hcalls with
  | refl => exact hI
  | tail _ hstep ih =>
    obtain ⟨foreignKeys, now, op, hop, rfl⟩ := hstep
    exact hcall _ foreignKeys now op hop ih

/-- In every reachable state, no table has two rows with one id. -/
theorem uniqueIds_run {s t : State} {es : List Event} (hids : s.store.UniqueIds)
    (hrun : run step s es = some t) : t.store.UniqueIds := by
  refine run_invariant (fun s => s.store.UniqueIds) ?_ hids hrun
  intro s e s' h hstep
  exact step_keeps (fun s foreignKeys now op _ h => h.perform foreignKeys now op) hstep h

/-! ### The registry -/

/-- A group push keeps what each push keeps. -/
theorem sendConfigToAgentsInGroup_keeps {P : ConfigSender → Prop}
    (hpush : ∀ cs acked agentId content, P cs → P (cs.sendConfigToAgent acked agentId content).1)
    (acked : ChanId → Bool) (order : IterOrder UUID) (groupId : String) (content : Bytes)
    {cs : ConfigSender} (h : P cs) :
    P (cs.sendConfigToAgentsInGroup acked order groupId content).1 := by
  refine List.foldlRecOn (motive := fun acc : ConfigSender × ConfigSender.GroupResult => P acc.1)
    (ConfigSender.agentsInGroup order groupId cs.agents) _ h ?_
  intro acc hacc id _
  exact hpush acc.1 acked id content hacc

/-- The event is no OpAMP handler and no start of the process. -/
def Event.Pushes : Event → Prop
  | .request (.opamp _) => False
  | .restart => False
  | _ => True

/-- Such an event changes the registry by pushes only. -/
theorem step_sender {P : ConfigSender → Prop}
    (hpush : ∀ cs acked agentId content, P cs → P (cs.sendConfigToAgent acked agentId content).1)
    {s s' : State} {e : Event} (he : e.Pushes) (hs : P s.sender) (h : step s e = some s') :
    P s'.sender := by
  cases e with
  | request r =>
    refine State.step_sender hpush ?_ hs ?_ h
    · intro cs acked order groupId content hcs
      exact sendConfigToAgentsInGroup_keeps hpush acked order groupId content hcs
    · rintro e rfl
      exact he
  | push acked agentID content =>
    cases h
    exact hpush _ acked agentID content hs
  | createGroup _ _ | deleteGroup _ _ _ =>
    cases h
    exact hs
  | restart => cases he

/-- A push keeps the two maps of the registry together. -/
theorem wellFormed_sendConfigToAgent (cs : ConfigSender) (acked : ChanId → Bool) (agentId : UUID)
    (content : Bytes) (hwf : cs.agents.WellFormed) :
    (cs.sendConfigToAgent acked agentId content).1.agents.WellFormed := by
  unfold ConfigSender.sendConfigToAgent
  split
  · exact hwf
  · rename_i agent hfind
    split
    · exact hwf
    · dsimp only
      obtain ⟨watchers, hset⟩ := Agent.setCustomConfig_fst agent content (some cs.nextChan)
      rw [hset]
      refine hwf.update ?_ ?_
      · intro agent₀ hfind₀
        rw [hfind] at hfind₀
        cases hfind₀
        rfl
      · intro agent₀ hfind₀
        rw [hfind] at hfind₀
        cases hfind₀
        rfl

/-- A push registers no agent and drops none. -/
theorem isSome_sendConfigToAgent (cs : ConfigSender) (acked : ChanId → Bool) (agentId : UUID)
    (content : Bytes) (id : UUID) :
    ((cs.sendConfigToAgent acked agentId content).1.agents.findAgent id).isSome
      = (cs.agents.findAgent id).isSome := by
  rw [ConfigSender.findAgent_sendConfigToAgent]
  split
  · rename_i hid
    rw [hid, Option.isSome_map]
  · rfl

/-- Every event keeps the two maps of the registry together. -/
theorem wellFormed_step {s s' : State} {e : Event} (hwf : s.sender.agents.WellFormed)
    (h : step s e = some s') : s'.sender.agents.WellFormed := by
  by_cases he : e.Pushes
  · exact step_sender (P := fun cs => cs.agents.WellFormed) wellFormed_sendConfigToAgent he hwf h
  · cases e with
    | request r =>
      cases r with
      | opamp e =>
        obtain ⟨srv, hstep, rfl⟩ := Option.map_eq_some_iff.mp h
        have hserver : s.server.agents.WellFormed := hwf
        exact Server.wellFormed_step hserver hstep
      | createConfig _ _ _ | updateConfig _ _ _ | assignConfig _ _ _ _ | sendConfig _ _ _ _ =>
        exact absurd trivial he
    | restart =>
      cases h
      exact Agents.wellFormed_newAgents
    | push _ _ _ | createGroup _ _ | deleteGroup _ _ _ => exact absurd trivial he

theorem wellFormed_run {s t : State} {es : List Event} (hwf : s.sender.agents.WellFormed)
    (hrun : run step s es = some t) : t.sender.agents.WellFormed :=
  run_invariant (fun s => s.sender.agents.WellFormed) (fun _ _ _ hwf h => wellFormed_step hwf h)
    hwf hrun

end OtelHive.Api.Fleet
