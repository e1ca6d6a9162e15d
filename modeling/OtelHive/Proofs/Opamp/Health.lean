import OtelHive.Lib.Runs
import OtelHive.Proofs.Opamp.Server

/-!
# `OtelHive.Proofs.Opamp.Health`: the stored status and the reported health

OpAMP leaves a field out of a report when it has not changed. `updateHealth` keeps the last
health in memory, but `determineAgentStatus` reads the current message alone and takes a
missing health for a healthy agent. So a report without health sets the stored status to
online, whatever the agent reported before.

`StatusFollowsHealth` compares the stored status of each registered agent with the last
health that it reported since it connected. A message keeps it exactly if it carries health,
or there is no unhealthy one to remember (`KeepsStatus`). A message whose write the database
refuses keeps it if the stored status is already right. `statusFollowsHealth_along_iff`
carries this to runs.
-/

set_option autoImplicit false

namespace OtelHive.Opamp

open OtelHive.Lib
open OtelHive.Sqlite (Storage)

/-! ### The status write -/

/-- A logged update that keeps the status. -/
theorem status_logged_self {f : Types.Agent → Types.Agent} (hf : ∀ row, (f row).id = row.id)
    (hstatus : ∀ row, (f row).status = row.status) (env : Env) (op : StoreOp) (store : Storage)
    (id : UUID) :
    ((logged store (env.call op (store.updateAgent id f))).getAgent id).map (·.status)
      = (store.getAgent id).map (·.status) := by
  rw [getAgent_logged_self hf]
  split
  · rw [Option.map_map]
    congr 1
    funext row
    exact hstatus row
  · rfl

/-- The storage calls that write the status of an agent succeed: those of an update if it has
a row, and the insert if it has none. -/
def WritesStatus (env : Env) (store : Storage) (id : UUID) : Prop :=
  match store.getAgent id with
  | some _ => env.faults .getAgent = none ∧ env.faults .updateAgentStatus = none
  | none => env.faults .createAgent = none

/-- The status after the writes for an agent that has a row. -/
theorem status_updateServiceAgent (env : Env) (store : Storage) (agent : Agent)
    (msg : AgentToServer) {row : Types.Agent} (hrow : store.getAgent agent.instanceId = some row) :
    ((updateServiceAgent env store agent msg).getAgent agent.instanceId).map (·.status)
      = some (if env.faults .updateAgentStatus = none then determineAgentStatus msg
          else row.status) := by
  have hwrite : ((logged store (Services.updateAgentStatus env store agent.instanceId
      (determineAgentStatus msg))).getAgent agent.instanceId).map (·.status)
        = some (if env.faults .updateAgentStatus = none then determineAgentStatus msg
            else row.status) := by
    unfold Services.updateAgentStatus Storage.updateAgentStatus
    rw [getAgent_logged_self (by exact fun _ => rfl), hrow]
    split <;> rfl
  rw [← hwrite]
  unfold updateServiceAgent
  dsimp only
  generalize logged store (Services.updateAgentStatus env store agent.instanceId
    (determineAgentStatus msg)) = written
  -- The two other updates keep the status.
  have hlastSeen : ((logged written (Services.updateAgentLastSeen env written agent.instanceId
      env.now)).getAgent agent.instanceId).map (·.status)
        = (written.getAgent agent.instanceId).map (·.status) := by
    unfold Services.updateAgentLastSeen Storage.updateAgentLastSeen
    exact status_logged_self (by exact fun _ => rfl) (by exact fun _ => rfl) env _ _ _
  split
  · exact hlastSeen
  · rw [← hlastSeen]
    unfold Services.updateAgentEffectiveConfig Storage.updateAgentEffectiveConfig
    exact status_logged_self (by exact fun _ => rfl) (by exact fun _ => rfl) env _ _ _

/-- The stored status after `persistAgent`, whatever the database answers. -/
theorem status_persistAgent (env : Env) (store : Storage) (agent : Agent) (msg : AgentToServer) :
    (WritesStatus env store agent.instanceId →
      ((persistAgent env store agent msg).2.getAgent agent.instanceId).map (·.status)
        = some (determineAgentStatus msg)) ∧
    (¬ WritesStatus env store agent.instanceId →
      ((persistAgent env store agent msg).2.getAgent agent.instanceId).map (·.status)
        = (store.getAgent agent.instanceId).map (·.status)) := by
  unfold WritesStatus
  by_cases hread : ∃ row, Services.getAgent env store agent.instanceId = .ok (some row)
  · -- The update of the row that was read.
    obtain ⟨row, hread⟩ := hread
    obtain ⟨hfault, hget⟩ := Env.call_eq_ok hread
    have hrow : store.getAgent agent.instanceId = some row := Except.ok.inj hget
    have hstatus := status_updateServiceAgent env store agent msg hrow
    have hpersist : (persistAgent env store agent msg).2
        = updateServiceAgent env store agent msg := by
      unfold persistAgent
      rw [hread]
    rw [hpersist, hstatus, hrow]
    constructor
    · rintro ⟨_, hwrite⟩
      rw [if_pos hwrite]
    · intro hnot
      rw [if_neg fun hwrite => hnot ⟨hfault, hwrite⟩]
      rfl
  · -- The read found no row, or it failed: then the insert decides.
    rw [getAgent_persistAgent_of_insert msg fun row hrow => hread ⟨row, hrow⟩]
    cases hrow : store.getAgent agent.instanceId with
    | some row =>
      refine ⟨?_, fun _ => rfl⟩
      rintro ⟨hfault, _⟩
      refine absurd ⟨row, ?_⟩ hread
      unfold Services.getAgent
      rw [Env.call_of_faults_eq_none hfault, hrow]
    | none =>
      constructor
      · intro hwrite
        have hcreate : env.faults .createAgent = none := hwrite
        dsimp only
        rw [if_pos hcreate]
        rfl
      · intro hnot
        have hcreate : ¬ env.faults .createAgent = none := hnot
        dsimp only
        rw [if_neg hcreate]

namespace Server

/-! ### The last health of an agent -/

/-- The last health that each agent has reported since it connected. -/
abbrev LastHealth : Type := UUID → Option ComponentHealth

/-- The last health of the agent `id` after a message of it. An agent that is not registered
connects with the message. -/
def healthAfter (last : LastHealth) (srv : Server) (id : UUID) (msg : AgentToServer) :
    Option ComponentHealth :=
  match msg.health with
  | some health => some health
  | none => if (srv.agents.findAgent id).isSome then last id else none

/-- Follow the reported health of the agents. A closed connection disconnects its agents. -/
def recordHealth (last : LastHealth) (srv : Server) : Event → LastHealth
  | .message _ _ msg =>
    match UUID.ofSlice msg.instanceUid with
    | .ok id => Function.update last id (healthAfter last srv id msg)
    | .error _ => last
  | .disconnect _ conn => fun id => if id ∈ srv.agents.agentsOf conn then none else last id

/-- The status that a health stands for. -/
def statusOf : Option ComponentHealth → Types.AgentStatus
  | some health => if health.healthy then .online else .error
  | none => .online

/-- The stored status of each registered agent is that of its last health. -/
def StatusFollowsHealth (p : Server × LastHealth) : Prop :=
  ∀ id agent, p.1.agents.findAgent id = some agent →
    (p.1.store.getAgent id).map (·.status) = some (statusOf (p.2 id))

/-- The message carries health, or the agent has no unhealthy one to remember. If the database
refuses the write, the stored status is that of the last health already. -/
def KeepsStatus (p : Server × LastHealth) : Event → Prop
  | .message env _ msg => ∀ id, UUID.ofSlice msg.instanceUid = .ok id →
      (WritesStatus env p.1.store id ∧
        (msg.health.isSome ∨ statusOf (healthAfter p.2 p.1 id msg) = .online)) ∨
      (¬ WritesStatus env p.1.store id ∧
        (p.1.store.getAgent id).map (·.status) = some (statusOf (healthAfter p.2 p.1 id msg)))
  | .disconnect _ _ => True

/-- The status that a message writes is that of the last health exactly if it carries health
or there is no unhealthy one. -/
theorem determineAgentStatus_eq_iff (last : LastHealth) (srv : Server) (id : UUID)
    (msg : AgentToServer) :
    determineAgentStatus msg = statusOf (healthAfter last srv id msg) ↔
      msg.health.isSome ∨ statusOf (healthAfter last srv id msg) = .online := by
  unfold determineAgentStatus healthAfter
  cases msg.health with
  | some health => simp [statusOf]
  | none =>
    constructor
    · exact fun h => Or.inr h.symm
    · rintro (h | h)
      · cases h
      · exact h.symm

/-- A message keeps the agreement exactly under `KeepsStatus`. -/
theorem statusFollowsHealth_message_iff {env : Env} {conn : Conn} {msg : AgentToServer}
    {srv srv' : Server} {last : LastHealth} (hwf : srv.agents.WellFormed)
    (hfollows : StatusFollowsHealth (srv, last))
    (h : step srv (.message env conn msg) = some srv') :
    StatusFollowsHealth (srv', recordHealth last srv (.message env conn msg)) ↔
      KeepsStatus (srv, last) (.message env conn msg) := by
  obtain ⟨id, agent, hid, hinstance, _, _, hfind, hstore, _⟩ := step_message hwf h
  have hrecord : recordHealth last srv (.message env conn msg)
      = Function.update last id (healthAfter last srv id msg) := by
    simp only [recordHealth, hid]
  obtain ⟨hwrites, hrefused⟩ := status_persistAgent env srv.store agent msg
  rw [hinstance, ← hstore] at hwrites hrefused
  -- The agent of the message decides, because the other rows do not change.
  have hself : (srv'.store.getAgent id).map (·.status)
        = some (statusOf (healthAfter last srv id msg)) ↔
      KeepsStatus (srv, last) (.message env conn msg) := by
    have hkeeps : KeepsStatus (srv, last) (.message env conn msg) ↔
        (WritesStatus env srv.store id ∧
          determineAgentStatus msg = statusOf (healthAfter last srv id msg)) ∨
        (¬ WritesStatus env srv.store id ∧ (srv.store.getAgent id).map (·.status)
          = some (statusOf (healthAfter last srv id msg))) := by
      rw [determineAgentStatus_eq_iff]
      simp [KeepsStatus, hid]
    rw [hkeeps]
    by_cases hwrite : WritesStatus env srv.store id
    · rw [hwrites hwrite]
      simp [hwrite]
    · rw [hrefused hwrite]
      simp [hwrite]
  rw [← hself, hrecord]
  constructor
  · intro hfollows'
    have hstatus := hfollows' id _ ((hfind id).trans (if_pos rfl))
    dsimp only at hstatus
    rw [Function.update_self] at hstatus
    exact hstatus
  · intro hstatus id' agent' hfind'
    by_cases heq : id' = id
    · subst heq
      dsimp only
      rw [Function.update_self]
      exact hstatus
    · dsimp only at hfind' ⊢
      rw [hfind id', if_neg heq] at hfind'
      rw [Function.update_of_ne heq, hstore,
        getAgent_persistAgent_of_ne env srv.store agent msg (by rw [hinstance]; exact heq)]
      exact hfollows id' agent' hfind'

/-- A closed connection keeps the agreement. -/
theorem statusFollowsHealth_onDisconnect {srv : Server} {last : LastHealth}
    (hfollows : StatusFollowsHealth (srv, last)) (env : Env) (conn : Conn) :
    StatusFollowsHealth
      (onDisconnect env conn srv, recordHealth last srv (.disconnect env conn)) := by
  intro id agent hfind
  have hremoved : (srv.agents.removeConnection conn).findAgent id = some agent := hfind
  rw [Agents.findAgent_removeConnection] at hremoved
  split at hremoved
  · cases hremoved
  · -- The agent is on another connection.
    rename_i hmem
    have hlast : recordHealth last srv (.disconnect env conn) id = last id := if_neg hmem
    dsimp only
    rw [hlast, getAgent_onDisconnect_of_notMem hmem]
    exact hfollows id agent hremoved

/-- Take a run from a fresh registry on any database. In every state of the run the stored
status of every connected agent follows its health, if and only if every message of the run
carries health, or comes from an agent without an unhealthy one to remember. -/
theorem statusFollowsHealth_along_iff (store : Storage) (grpc http : String) (es : List Event)
    (hrun : (run (withGhost step recordHealth) (newServer store grpc http, fun _ => none)
      es).isSome) :
    Along (withGhost step recordHealth) StatusFollowsHealth
        (newServer store grpc http, fun _ => none) es ↔
      StepsMeet (withGhost step recordHealth) KeepsStatus
        (newServer store grpc http, fun _ => none) es := by
  refine along_iff_stepsMeet (I := fun p => p.1.agents.WellFormed) (D := fun _ => True) ?_ ?_
    (fun _ _ => trivial) Agents.wellFormed_newAgents ?_ hrun
  · intro p e p' hwf hstep
    exact wellFormed_step hwf (withGhost_eq_some.mp hstep).1
  · rintro ⟨srv, last⟩ e ⟨srv', last'⟩ _ hwf hfollows hstep
    obtain ⟨hstep, hlast⟩ := withGhost_eq_some.mp hstep
    dsimp only at hstep hlast
    rw [hlast]
    cases e with
    | message env conn msg => exact statusFollowsHealth_message_iff hwf hfollows hstep
    | disconnect env conn =>
      cases hstep
      exact ⟨fun _ => trivial, fun _ => statusFollowsHealth_onDisconnect hfollows env conn⟩
  · intro id agent hfind
    have hnone : newAgents.findAgent id = none := GoMap.lookup_empty id
    exact absurd (hnone.symm.trans hfind) (by simp)

/-! ### A report without health -/

/-- A report of an agent, with or without health. -/
def healthReport (health : Option ComponentHealth) : AgentToServer where
  instanceUid := UUID.nil.bytes
  health

/-- The agent reports that it is unhealthy. -/
def unhealthyReport : Event := .message (.quiet 0 "") 1 (healthReport (some { healthy := false }))

/-- A later report that leaves the health out. -/
def compressedReport : Event := .message (.quiet 1 "") 1 (healthReport none)

/-- Two reports, both with health. -/
theorem statusFollowsHealth_along_iff_full_reports :
    Along (withGhost step recordHealth) StatusFollowsHealth (newServer .empty "" "", fun _ => none)
        [unhealthyReport, unhealthyReport] ↔
      StepsMeet (withGhost step recordHealth) KeepsStatus (newServer .empty "" "", fun _ => none)
        [unhealthyReport, unhealthyReport] :=
  statusFollowsHealth_along_iff .empty "" "" [unhealthyReport, unhealthyReport]
    (by decide +kernel)

/-- The report without health sets the stored status of the unhealthy agent to online. -/
theorem compressed_report_clears_error :
    ¬ ∀ (store : Storage) (es : List Event) (p : Server × LastHealth),
      run (withGhost step recordHealth) (newServer store "" "", fun _ => none) es = some p →
      StatusFollowsHealth p := by
  intro hall
  have hend : (run (withGhost step recordHealth) (newServer .empty "" "", fun _ => none)
      [unhealthyReport, compressedReport]).map (fun p =>
        ((p.1.agents.findAgent .nil).isSome, (p.1.store.getAgent .nil).map (·.status),
          statusOf (p.2 .nil))) = some (true, some .online, .error) := by decide +kernel
  obtain ⟨p, hrun, hp⟩ := Option.map_eq_some_iff.mp hend
  simp only [Prod.mk.injEq] at hp
  obtain ⟨hsome, hstatus, hlast⟩ := hp
  obtain ⟨agent, hfind⟩ := Option.isSome_iff_exists.mp hsome
  have hfollows := hall .empty [unhealthyReport, compressedReport] p hrun .nil agent hfind
  rw [hstatus, hlast] at hfollows
  exact absurd hfollows (by decide)

end Server

end OtelHive.Opamp
