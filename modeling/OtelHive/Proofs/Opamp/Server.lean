import OtelHive.Proofs.Opamp.Agent
import OtelHive.Proofs.Opamp.Agents
import OtelHive.Proofs.Sqlite.Storage

/-!
# `OtelHive.Proofs.Opamp.Server`: what the handlers do

`onMessage_ok` takes a message handler apart into its sections. `persistAgent` is described
by the row it leaves: `getAgent_persistAgent` for the agent of the message, and
`getAgent_persistAgent_of_ne` for the others. `getAgent_onDisconnect` describes the rows
after a closed connection.

The facts about a row assume that the storage calls succeed (`Env.FaultFree`). The facts
about the other rows and about the registry do not.
-/

set_option autoImplicit false

namespace OtelHive.Opamp

open OtelHive.Lib
open OtelHive.Sqlite (Storage)

/-- The default config is not empty. -/
theorem defaultOTelConfig_ne_nil : defaultOTelConfig ≠ [] := by decide +kernel

/-! ### Frames of the grouping and the report -/

namespace Agent

/-- The grouping keeps the id, the connection, the status and the watchers. -/
theorem processAgentGrouping_frame (env : Env) (store : Storage) (agent : Agent)
    (msg : AgentToServer) :
    ∃ groupID groupName customInstanceConfig remoteConfig,
      agent.processAgentGrouping env store msg
        = { agent with groupID, groupName, customInstanceConfig, remoteConfig } := by
  unfold processAgentGrouping
  dsimp only
  rw [setInitialConfig_eq]
  cases hdesc : msg.agentDescription with
  | none =>
    have hresolve : agent.resolveGrouping env store msg = (agent, none) := by
      simp [resolveGrouping, hdesc]
    rw [hresolve]
    exact ⟨_, _, _, _, rfl⟩
  | some desc =>
    rw [(resolveGrouping_some hdesc).1]
    split
    · exact ⟨_, _, _, _, rfl⟩
    · exact ⟨_, _, _, _, rfl⟩

/-- The group of the agent after the grouping. -/
theorem processAgentGrouping_group (env : Env) (store : Storage) (agent : Agent)
    (msg : AgentToServer) :
    (agent.processAgentGrouping env store msg).groupID
        = (match msg.agentDescription with
          | some desc => some (extractGroupInfo desc).1
          | none => agent.groupID) ∧
      (agent.processAgentGrouping env store msg).groupName
        = (match msg.agentDescription with
          | some desc => some (extractGroupInfo desc).2
          | none => agent.groupName) := by
  cases hdesc : msg.agentDescription with
  | none =>
    rw [processAgentGrouping_of_none env store agent hdesc]
    exact ⟨rfl, rfl⟩
  | some desc =>
    unfold processAgentGrouping
    dsimp only
    rw [setInitialConfig_eq, (resolveGrouping_some hdesc).1]
    split <;> exact ⟨rfl, rfl⟩

end Agent

/-- `calcConnectionSettings` leaves the remote config of the response alone. -/
theorem Server.calcConnectionSettings_remoteConfig (srv : Server) (agent : Agent)
    (response : ServerToAgent) :
    (srv.calcConnectionSettings agent response).remoteConfig = response.remoteConfig := by
  unfold calcConnectionSettings
  dsimp only
  split <;> rfl

/-! ### `persistAgent` -/

/-- The status of a message is not offline. -/
theorem determineAgentStatus_ne_offline (msg : AgentToServer) :
    determineAgentStatus msg ≠ .offline := by
  unfold determineAgentStatus
  split
  · split <;> decide
  · decide

/-- The group step changes the group id of the agent and the groups table only. -/
theorem autoCreateGroup_frame (env : Env) (store : Storage) (agent : Agent) :
    (∃ groupID, (autoCreateGroup env store agent).1 = { agent with groupID }) ∧
      ∃ groups, (autoCreateGroup env store agent).2 = { store with groups } := by
  have hcreate : ∀ group store', Services.createGroup env store group = .ok store' →
      ∃ groups, store' = { store with groups } := by
    intro group store' h
    unfold Services.createGroup Env.call Storage.createGroup at h
    repeat' split at h
    all_goals cases h
    exact ⟨_, rfl⟩
  unfold autoCreateGroup
  split
  · exact ⟨⟨_, rfl⟩, ⟨_, rfl⟩⟩
  · split
    · exact ⟨⟨_, rfl⟩, ⟨_, rfl⟩⟩
    · split
      · exact ⟨⟨_, rfl⟩, ⟨_, rfl⟩⟩
      · dsimp only
        split
        · exact ⟨⟨_, rfl⟩, ⟨_, rfl⟩⟩
        · rename_i store' hstore
          exact ⟨⟨_, rfl⟩, hcreate _ store' hstore⟩

/-- An agent without a group name keeps its group id. -/
theorem autoCreateGroup_of_unnamed {agent : Agent} (env : Env) (store : Storage)
    (h : agent.groupName = none ∨ agent.groupName = some "") :
    autoCreateGroup env store agent = (agent, store) := by
  unfold autoCreateGroup
  rcases h with h | h <;> simp [h]

/-- A logged update changes the rows with the id, or nothing at all. -/
theorem logged_updateAgent_cases (env : Env) (op : StoreOp) (store : Storage) (id : UUID)
    (f : Types.Agent → Types.Agent) :
    logged store (env.call op (store.updateAgent id f)) = store ∨
      logged store (env.call op (store.updateAgent id f)) = { store with
        agents := store.agents.map fun row => if row.id = id then f row else row } := by
  rw [Env.call, Storage.updateAgent]
  cases env.faults op with
  | some err => exact .inl rfl
  | none =>
    dsimp only
    split
    · exact .inr rfl
    · exact .inl rfl

/-- A change of a row that keeps its id, its labels and its group. -/
structure KeepsOwner (f : Types.Agent → Types.Agent) : Prop where
  id : ∀ row, (f row).id = row.id
  labels : ∀ row, (f row).labels = row.labels
  groupID : ∀ row, (f row).groupID = row.groupID

/-- The writes for an agent that has a row keep what every logged update of the row keeps. -/
theorem updateServiceAgent_keeps {P : Storage → Prop} {env : Env} {agent : Agent}
    (hkeeps : ∀ op store f, KeepsOwner f → P store →
      P (logged store (env.call op (store.updateAgent agent.instanceId f))))
    {store : Storage} (h : P store) (msg : AgentToServer) :
    P (updateServiceAgent env store agent msg) := by
  unfold updateServiceAgent Services.updateAgentStatus Services.updateAgentLastSeen
    Services.updateAgentEffectiveConfig Storage.updateAgentStatus Storage.updateAgentLastSeen
    Storage.updateAgentEffectiveConfig
  dsimp only
  have hstatus := hkeeps .updateAgentStatus store
    (fun row => { row with status := determineAgentStatus msg, updatedAt := env.now })
    ⟨fun _ => rfl, fun _ => rfl, fun _ => rfl⟩ h
  have hlastSeen := hkeeps .updateAgentLastSeen _
    (fun row => { row with lastSeen := env.now, updatedAt := env.now })
    ⟨fun _ => rfl, fun _ => rfl, fun _ => rfl⟩ hstatus
  split
  · exact hlastSeen
  · exact hkeeps .updateAgentEffectiveConfig _
      (fun row => { row with effectiveConfig := agent.effectiveConfig, updatedAt := env.now })
      ⟨fun _ => rfl, fun _ => rfl, fun _ => rfl⟩ hlastSeen

/-- A logged update of one row leaves the other rows alone, whether or not it succeeds. -/
theorem getAgent_logged_of_ne {env : Env} {op : StoreOp} {store : Storage} {id id' : UUID}
    {f : Types.Agent → Types.Agent} (hf : ∀ row, (f row).id = row.id) (hne : id' ≠ id) :
    (logged store (env.call op (store.updateAgent id f))).getAgent id' = store.getAgent id' := by
  unfold logged Env.call
  split
  · rename_i store' h
    split at h
    · cases h
    · rw [Storage.getAgent_updateAgent h hf, if_neg hne]
  · rfl

/-- A logged update of a row that exists, when the call succeeds. -/
theorem getAgent_logged {env : Env} {op : StoreOp} {store : Storage} {id : UUID}
    {row : Types.Agent} {f : Types.Agent → Types.Agent} (hf : ∀ row, (f row).id = row.id)
    (hop : env.faults op = none) (hrow : store.getAgent id = some row) :
    (logged store (env.call op (store.updateAgent id f))).getAgent id = some (f row) := by
  rw [Env.call_of_faults_eq_none hop]
  obtain ⟨store', h⟩ : ∃ store', store.updateAgent id f = .ok store' :=
    ⟨_, Storage.updateAgent_of_some hrow f⟩
  rw [h]
  show store'.getAgent id = some (f row)
  rw [Storage.getAgent_updateAgent h hf, if_pos rfl, hrow, Option.map_some]

/-- A logged update of a row. A refused call, and an update of a missing row, change
nothing. -/
theorem getAgent_logged_self {f : Types.Agent → Types.Agent} (hf : ∀ row, (f row).id = row.id)
    (env : Env) (op : StoreOp) (store : Storage) (id : UUID) :
    (logged store (env.call op (store.updateAgent id f))).getAgent id
      = if env.faults op = none then (store.getAgent id).map f else store.getAgent id := by
  by_cases hop : env.faults op = none
  · rw [if_pos hop]
    cases hrow : store.getAgent id with
    | some row => exact getAgent_logged hf hop hrow
    | none =>
      have hmissing : store.updateAgent id f = .error ("agent not found: " ++ id.toString) := by
        unfold Storage.updateAgent
        rw [Storage.any_agents_eq, hrow]
        rfl
      rw [Env.call_of_faults_eq_none hop, hmissing]
      exact hrow
  · rw [if_neg hop]
    obtain ⟨err, herr⟩ := Option.ne_none_iff_exists'.mp hop
    simp [logged, Env.call, herr]

/-- The writes for an agent that has a row leave the other rows alone. -/
theorem getAgent_updateServiceAgent_of_ne (env : Env) (store : Storage) (agent : Agent)
    (msg : AgentToServer) {id : UUID} (hne : id ≠ agent.instanceId) :
    (updateServiceAgent env store agent msg).getAgent id = store.getAgent id := by
  refine @updateServiceAgent_keeps (fun s => s.getAgent id = store.getAgent id) env agent ?_
    store rfl msg
  intro op s f hf h
  rw [getAgent_logged_of_ne hf.id hne]
  exact h

/-- The row after the writes for an agent that has one. -/
theorem row_updateServiceAgent {env : Env} (hfree : env.FaultFree) {store : Storage}
    {agent : Agent} (msg : AgentToServer) {row : Types.Agent}
    (hrow : store.getAgent agent.instanceId = some row) :
    (updateServiceAgent env store agent msg).getAgent agent.instanceId = some { row with
      status := determineAgentStatus msg
      lastSeen := env.now
      effectiveConfig :=
        if agent.effectiveConfig = [] then row.effectiveConfig else agent.effectiveConfig
      updatedAt := env.now } := by
  unfold updateServiceAgent Services.updateAgentStatus Services.updateAgentLastSeen
    Services.updateAgentEffectiveConfig Storage.updateAgentStatus Storage.updateAgentLastSeen
    Storage.updateAgentEffectiveConfig
  dsimp only
  have hstatus := getAgent_logged
    (f := fun row => { row with status := determineAgentStatus msg, updatedAt := env.now })
    (fun _ => rfl) (hfree .updateAgentStatus) hrow
  have hlastSeen := getAgent_logged
    (f := fun row => { row with lastSeen := env.now, updatedAt := env.now })
    (fun _ => rfl) (hfree .updateAgentLastSeen) hstatus
  split
  · exact hlastSeen
  · exact getAgent_logged
      (f := fun row => { row with
        effectiveConfig := agent.effectiveConfig, updatedAt := env.now })
      (fun _ => rfl) (hfree .updateAgentEffectiveConfig) hlastSeen

/-- `persistAgent` changes the group id of the agent only. -/
theorem persistAgent_fst_frame (env : Env) (store : Storage) (agent : Agent)
    (msg : AgentToServer) :
    ∃ groupID, (persistAgent env store agent msg).1 = { agent with groupID } := by
  unfold persistAgent
  split
  · exact ⟨_, rfl⟩
  · exact (autoCreateGroup_frame env store agent).1

/-- `persistAgent` leaves the other rows alone. -/
theorem getAgent_persistAgent_of_ne (env : Env) (store : Storage) (agent : Agent)
    (msg : AgentToServer) {id : UUID} (hne : id ≠ agent.instanceId) :
    (persistAgent env store agent msg).2.getAgent id = store.getAgent id := by
  unfold persistAgent
  split
  · exact getAgent_updateServiceAgent_of_ne env store agent msg hne
  · obtain ⟨⟨groupID, hagent⟩, ⟨groups, hstore⟩⟩ := autoCreateGroup_frame env store agent
    dsimp only
    rw [hagent, hstore]
    unfold logged Services.createAgent Env.call
    split
    · rename_i store' h
      split at h
      · cases h
      · rw [Storage.getAgent_createAgent h, if_neg]
        · rfl
        · exact hne
    · rfl

/-- The row after the insert of `persistAgent`. A row that exists makes the insert fail. -/
theorem getAgent_insert (env : Env) (store : Storage) (agent : Types.Agent) :
    (logged store (Services.createAgent env store agent)).getAgent agent.id
      = match store.getAgent agent.id with
        | some row => some row
        | none =>
          if env.faults .createAgent = none then some { agent with effectiveConfig := [] }
          else none := by
  unfold Services.createAgent
  by_cases hop : env.faults .createAgent = none
  · rw [Env.call_of_faults_eq_none hop]
    cases hrow : store.getAgent agent.id with
    | some row =>
      have hexists : store.createAgent agent
          = .error "failed to create agent: UNIQUE constraint failed: agents.id" := by
        unfold Storage.createAgent
        rw [Storage.any_agents_eq, hrow]
        rfl
      rw [hexists]
      exact hrow
    | none =>
      have hcreate := Storage.createAgent_of_none hrow
      rw [hcreate]
      dsimp only
      rw [if_pos hop]
      exact (Storage.getAgent_createAgent hcreate agent.id).trans (if_pos rfl)
  · obtain ⟨err, herr⟩ := Option.ne_none_iff_exists'.mp hop
    have hrefused : logged store (env.call .createAgent (store.createAgent agent)) = store := by
      simp [logged, Env.call, herr]
    rw [hrefused]
    cases store.getAgent agent.id with
    | some row => rfl
    | none => exact (if_neg hop).symm

/-- `persistAgent` when the read does not return a row: there is none, or the read fails. -/
theorem getAgent_persistAgent_of_insert {env : Env} {store : Storage} {agent : Agent}
    (msg : AgentToServer)
    (hread : ∀ row, Services.getAgent env store agent.instanceId ≠ .ok (some row)) :
    (persistAgent env store agent msg).2.getAgent agent.instanceId
      = match store.getAgent agent.instanceId with
        | some row => some row
        | none =>
          if env.faults .createAgent = none then
            some (newServiceAgent env (persistAgent env store agent msg).1 msg)
          else none := by
  obtain ⟨⟨groupID, hagent⟩, ⟨groups, hstore⟩⟩ := autoCreateGroup_frame env store agent
  unfold persistAgent
  split
  · rename_i row hrow
    exact absurd hrow (hread row)
  · dsimp only
    rw [hagent, hstore]
    exact getAgent_insert env { store with groups } (newServiceAgent env { agent with groupID } msg)

/-- `persistAgent` for an agent that has a row, when the storage calls succeed. -/
theorem row_persistAgent_of_some {env : Env} (hfree : env.FaultFree) {store : Storage}
    {agent : Agent} (msg : AgentToServer) {row : Types.Agent}
    (hrow : store.getAgent agent.instanceId = some row) :
    (persistAgent env store agent msg).2.getAgent agent.instanceId = some { row with
      status := determineAgentStatus msg
      lastSeen := env.now
      effectiveConfig :=
        if agent.effectiveConfig = [] then row.effectiveConfig else agent.effectiveConfig
      updatedAt := env.now } := by
  have hget : Services.getAgent env store agent.instanceId = .ok (some row) := by
    unfold Services.getAgent
    rw [Env.call_of_faults_eq_none (hfree _), hrow]
  unfold persistAgent
  rw [hget]
  exact row_updateServiceAgent hfree msg hrow

/-- `persistAgent` for an agent without a row, when the storage calls succeed. -/
theorem row_persistAgent_of_none {env : Env} (hfree : env.FaultFree) {store : Storage}
    {agent : Agent} (msg : AgentToServer) (hrow : store.getAgent agent.instanceId = none) :
    (persistAgent env store agent msg).2.getAgent agent.instanceId
      = some (newServiceAgent env (persistAgent env store agent msg).1 msg) := by
  have hget : ∀ row, Services.getAgent env store agent.instanceId ≠ .ok (some row) := by
    intro row hread
    unfold Services.getAgent at hread
    rw [Env.call_of_faults_eq_none (hfree _), hrow] at hread
    cases hread
  rw [getAgent_persistAgent_of_insert msg hget, hrow]
  exact if_pos (hfree _)

/-- The row after `persistAgent`, when the storage calls succeed. A row that exists keeps its
group, and a new row gets the group of the agent. -/
theorem getAgent_persistAgent {env : Env} (hfree : env.FaultFree) (store : Storage)
    (agent : Agent) (msg : AgentToServer) :
    ∃ row, (persistAgent env store agent msg).2.getAgent agent.instanceId = some row ∧
      row.status = determineAgentStatus msg ∧
      row.groupID = (match store.getAgent agent.instanceId with
        | some row₀ => row₀.groupID
        | none => (persistAgent env store agent msg).1.groupID) ∧
      ((store.getAgent agent.instanceId).isSome →
        (persistAgent env store agent msg).1 = agent) := by
  cases hrow : store.getAgent agent.instanceId with
  | some row₀ =>
    refine ⟨_, row_persistAgent_of_some hfree msg hrow, rfl, rfl, ?_⟩
    intro _
    unfold persistAgent Services.getAgent
    rw [Env.call_of_faults_eq_none (hfree _), hrow]
  | none =>
    refine ⟨_, row_persistAgent_of_none hfree msg hrow, rfl, rfl, ?_⟩
    intro hsome
    cases hsome

/-! ### The handlers -/

namespace Server

/-- A message handler that does not panic, section by section. -/
theorem onMessage_ok {env : Env} {conn : Conn} {msg : AgentToServer} {srv srv' : Server}
    {response : ServerToAgent} (h : onMessage env conn msg srv = .ok (response, srv')) :
    ∃ instanceId agent response₀ watchers, UUID.ofSlice msg.instanceUid = .ok instanceId ∧
      ((srv.agents.findOrCreateAgent instanceId conn).2.processAgentGrouping env srv.store
        msg).updateStatus env.x509 msg {} = .ok (agent, response₀, watchers) ∧
      response = srv.calcConnectionSettings agent response₀ ∧
      srv' = { srv with
        agents := (srv.agents.findOrCreateAgent instanceId conn).1.update instanceId
          fun _ => (persistAgent env srv.store agent msg).1
        store := (persistAgent env srv.store agent msg).2 } := by
  unfold onMessage at h
  obtain ⟨instanceId, hid, h⟩ := bind_eq_ok h
  obtain ⟨⟨agent, response₀, watchers⟩, hupdate, h⟩ := bind_eq_ok h
  cases h
  exact ⟨instanceId, agent, response₀, watchers, hid, hupdate, rfl, rfl⟩

/-- A closed connection keeps what every logged update of one of its agents keeps. -/
theorem onDisconnect_keeps {P : Storage → Prop} {env : Env} {conn : Conn} {srv : Server}
    (hkeeps : ∀ op store id f, id ∈ srv.agents.agentsOf conn → KeepsOwner f → P store →
      P (logged store (env.call op (store.updateAgent id f))))
    (h : P srv.store) : P (onDisconnect env conn srv).store := by
  refine List.foldlRecOn (motive := P) (srv.agents.agentsOf conn) _ h ?_
  intro store hstore id hid
  exact hkeeps .updateAgentStatus store id
    (fun row => { row with status := .offline, updatedAt := env.now }) hid
    ⟨fun _ => rfl, fun _ => rfl, fun _ => rfl⟩ hstore

/-- A closed connection leaves the rows of the agents that are not on it alone. -/
theorem getAgent_onDisconnect_of_notMem {env : Env} {conn : Conn} {srv : Server} {id : UUID}
    (h : id ∉ srv.agents.agentsOf conn) :
    (onDisconnect env conn srv).store.getAgent id = srv.store.getAgent id := by
  refine @onDisconnect_keeps (fun s => s.getAgent id = srv.store.getAgent id) env conn srv ?_ rfl
  intro op store id' f hid hf hstore
  have hne : id ≠ id' := by
    rintro rfl
    exact h hid
  rw [getAgent_logged_of_ne hf.id hne]
  exact hstore

/-- A closed connection changes the status and the time of a row at most. -/
theorem row_onDisconnect (env : Env) (conn : Conn) {srv : Server} {id : UUID}
    {row : Types.Agent} (h : srv.store.getAgent id = some row) :
    ∃ status updatedAt, (onDisconnect env conn srv).store.getAgent id
      = some { row with status, updatedAt } := by
  unfold onDisconnect
  dsimp only
  generalize srv.agents.agentsOf conn = ids
  generalize srv.store = store at h
  induction ids generalizing store row with
  | nil => exact ⟨_, _, h⟩
  | cons id₀ ids ih =>
    rw [List.foldl_cons]
    -- One mark keeps the row, or rewrites its status.
    obtain ⟨status₁, updatedAt₁, hrow₁⟩ : ∃ status updatedAt,
        (logged store (Services.updateAgentStatus env store id₀ .offline)).getAgent id
          = some { row with status, updatedAt } := by
      unfold Services.updateAgentStatus Storage.updateAgentStatus
      by_cases hid : id = id₀
      · subst hid
        rw [getAgent_logged_self (by exact fun _ => rfl), h]
        split
        · exact ⟨_, _, rfl⟩
        · exact ⟨_, _, rfl⟩
      · rw [getAgent_logged_of_ne (by exact fun _ => rfl) hid, h]
        exact ⟨_, _, rfl⟩
    obtain ⟨status, updatedAt, hrow⟩ := ih _ hrow₁
    exact ⟨status, updatedAt, hrow⟩

/-- A closed connection keeps the group of every row. -/
theorem groupID_onDisconnect (env : Env) (conn : Conn) {srv : Server} {id : UUID}
    {row : Types.Agent} (h : srv.store.getAgent id = some row) :
    ∃ row', (onDisconnect env conn srv).store.getAgent id = some row' ∧
      row'.groupID = row.groupID := by
  obtain ⟨status, updatedAt, hrow⟩ := row_onDisconnect env conn h
  exact ⟨_, hrow, rfl⟩

/-- The storage calls of a message succeed. -/
def Event.StorageWorks : Event → Prop
  | .message env _ _ => env.FaultFree
  | .disconnect _ _ => True

/-- The group of the agent `id` after the grouping of a message: the one the description
names, else the one in memory. -/
def groupAfter (srv : Server) (id : UUID) (msg : AgentToServer) : Option String :=
  match msg.agentDescription with
  | some desc => some (extractGroupInfo desc).1
  | none => (srv.agents.findAgent id).bind (·.groupID)

/-- The group name of the agent `id` after the grouping of a message. -/
def groupNameAfter (srv : Server) (id : UUID) (msg : AgentToServer) : Option String :=
  match msg.agentDescription with
  | some desc => some (extractGroupInfo desc).2
  | none => (srv.agents.findAgent id).bind (·.groupName)

/-- What a message does. The agent of the message is registered after it, bound to the
connection it was registered on before, or to the connection of the message. The other
agents stay as they are, and `persistAgent` writes the rows. -/
theorem step_message {env : Env} {conn : Conn} {msg : AgentToServer} {srv srv' : Server}
    (hwf : srv.agents.WellFormed) (h : step srv (.message env conn msg) = some srv') :
    ∃ id agent, UUID.ofSlice msg.instanceUid = .ok id ∧ agent.instanceId = id ∧
      agent.conn = ((srv.agents.findAgent id).map (·.conn)).getD conn ∧
      agent.groupID = srv.groupAfter id msg ∧
      (∀ id', srv'.agents.findAgent id'
        = if id' = id then some (persistAgent env srv.store agent msg).1
          else srv.agents.findAgent id') ∧
      srv'.store = (persistAgent env srv.store agent msg).2 ∧
      agent.groupName = srv.groupNameAfter id msg ∧ srv'.agents.WellFormed := by
  simp only [step] at h
  split at h
  · rename_i response srv₁ hok
    cases h
    obtain ⟨id, agent, response₀, watchers, hid, hupdate, _, rfl⟩ := onMessage_ok hok
    obtain ⟨⟨startedAt, effectiveConfig, hagent⟩, _, _⟩ := Agent.updateStatus_ok hupdate
    -- The agent that `findOrCreateAgent` returns.
    obtain ⟨agent₀, hcreate, hagent₀⟩ :
        ∃ agent₀, (srv.agents.findOrCreateAgent id conn).2 = agent₀ ∧
          agent₀.instanceId = id ∧
          agent₀.conn = ((srv.agents.findAgent id).map (·.conn)).getD conn ∧
          agent₀.groupID = (srv.agents.findAgent id).bind (·.groupID) ∧
          agent₀.groupName = (srv.agents.findAgent id).bind (·.groupName) := by
      cases hfind : srv.agents.findAgent id with
      | some agent₀ =>
        rw [Agents.findOrCreateAgent_of_some hfind]
        exact ⟨agent₀, rfl, (hwf.bound id agent₀ hfind).1, rfl, rfl, rfl⟩
      | none =>
        rw [Agents.findOrCreateAgent_snd_of_none hfind]
        exact ⟨newAgent id conn, rfl, rfl, rfl, rfl, rfl⟩
    rw [hcreate] at hagent
    obtain ⟨groupID, groupName, custom, remote, hframe⟩ :=
      Agent.processAgentGrouping_frame env srv.store agent₀ msg
    obtain ⟨hgroup, hname⟩ := Agent.processAgentGrouping_group env srv.store agent₀ msg
    have hinstance : agent.instanceId = id := by
      rw [hagent, hframe]
      exact hagent₀.1
    have hconn : agent.conn = ((srv.agents.findAgent id).map (·.conn)).getD conn := by
      rw [hagent, hframe]
      exact hagent₀.2.1
    obtain ⟨persisted, hpersist⟩ := persistAgent_fst_frame env srv.store agent msg
    refine ⟨id, agent, hid, hinstance, hconn, ?_, ?_, rfl, ?_, ?_⟩
    · rw [hagent]
      show (agent₀.processAgentGrouping env srv.store msg).groupID = _
      rw [hgroup, hagent₀.2.2.1]
      rfl
    · intro id'
      show ((srv.agents.findOrCreateAgent id conn).1.update id _).findAgent id' = _
      rw [Agents.findAgent_update, Agents.findAgent_findOrCreateAgent]
      split <;> simp
    · rw [hagent]
      show (agent₀.processAgentGrouping env srv.store msg).groupName = _
      rw [hname, hagent₀.2.2.2]
      rfl
    · refine (hwf.findOrCreateAgent id conn).update ?_ ?_
      · intro agent₁ hfind₁
        rw [Agents.findAgent_findOrCreateAgent, if_pos rfl, hcreate] at hfind₁
        cases hfind₁
        rw [hpersist]
        exact hinstance.trans hagent₀.1.symm
      · intro agent₁ hfind₁
        rw [Agents.findAgent_findOrCreateAgent, if_pos rfl, hcreate] at hfind₁
        cases hfind₁
        rw [hpersist]
        exact hconn.trans hagent₀.2.1.symm
  · cases h

/-- Every handler keeps the two maps of the registry together. -/
theorem wellFormed_step {srv srv' : Server} {e : Event} (hwf : srv.agents.WellFormed)
    (h : step srv e = some srv') : srv'.agents.WellFormed := by
  cases e with
  | message env conn msg =>
    obtain ⟨_, _, _, _, _, _, _, _, _, hwf'⟩ := step_message hwf h
    exact hwf'
  | disconnect env conn =>
    cases h
    exact hwf.removeConnection conn

end Server

end OtelHive.Opamp
