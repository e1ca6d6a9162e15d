import OtelHive.Lib.Runs
import OtelHive.Proofs.Opamp.Server

/-!
# `OtelHive.Proofs.Opamp.Reconnect`: an agent that speaks on another connection

`FindOrCreateAgent` binds an agent to the connection of its first message and keeps that
binding while the agent is registered. A message on another connection changes neither the
`conn` field nor the id sets. So pushes still go to the first connection, and closing the
first connection removes the agent and marks it offline.

`lastSpoke` is a ghost value: the connection of the last message of each agent, until that
connection is closed. `Connected` says that every agent with such a connection is registered
on it and is not stored as offline.

A message keeps `Connected` exactly when it arrives on the connection its agent is bound to
(`OnBoundConnection`). `connected_along_iff` carries this from one step to a run.
-/

set_option autoImplicit false

namespace OtelHive.Opamp.Server

open OtelHive.Lib

/-- The connection of the last message of each agent, if it has not been closed since. -/
abbrev LastSpoke : Type := UUID → Option Conn

/-- What an event does to `LastSpoke`. -/
def lastSpoke (spoke : LastSpoke) (_ : Server) : Event → LastSpoke
  | .message _ conn msg =>
    match UUID.ofSlice msg.instanceUid with
    | .ok id => Function.update spoke id (some conn)
    | .error _ => spoke
  | .disconnect _ conn => fun id => if spoke id = some conn then none else spoke id

/-- Every agent that spoke last on an open connection is registered on it, and its row says
that it is not offline. -/
def Connected (p : Server × LastSpoke) : Prop :=
  ∀ id conn, p.2 id = some conn →
    (∃ agent, p.1.agents.findAgent id = some agent ∧ agent.conn = conn) ∧
    ∃ row, p.1.store.getAgent id = some row ∧ row.status ≠ .offline

/-- A message of a registered agent arrives on the connection the agent is bound to. -/
def OnBoundConnection (p : Server × LastSpoke) : Event → Prop
  | .message _ conn msg => ∀ id agent, UUID.ofSlice msg.instanceUid = .ok id →
      p.1.agents.findAgent id = some agent → agent.conn = conn
  | .disconnect _ _ => True

/-- A message keeps `Connected` exactly when it arrives on the bound connection. -/
theorem connected_message_iff {env : Env} {conn : Conn} {msg : AgentToServer}
    {p q : Server × LastSpoke} (hfree : env.FaultFree) (hwf : p.1.agents.WellFormed)
    (hconnected : Connected p)
    (h : withGhost step lastSpoke p (.message env conn msg) = some q) :
    Connected q ↔ OnBoundConnection p (.message env conn msg) := by
  obtain ⟨hstep, hghost⟩ := withGhost_eq_some.mp h
  obtain ⟨id, agent, hid, hinstance, hconn, _, hfind, hstore, _⟩ := step_message hwf hstep
  obtain ⟨row, hrow, hstatus, _, _⟩ := getAgent_persistAgent hfree p.1.store agent msg
  obtain ⟨groupID, hpersist⟩ := persistAgent_fst_frame env p.1.store agent msg
  rw [hinstance, ← hstore] at hrow
  have hself := hfind id
  rw [if_pos rfl, hpersist] at hself
  have hspoke : q.2 = Function.update p.2 id (some conn) := by
    rw [hghost]
    simp only [lastSpoke, hid]
  constructor
  · intro hconnected' id' agent₀ hid' hfind₀
    rw [hid] at hid'
    cases hid'
    have hspoke' : q.2 id = some conn := by rw [hspoke, Function.update_self]
    obtain ⟨⟨agent', hfind', hbound⟩, _⟩ := hconnected' id conn hspoke'
    rw [hself] at hfind'
    cases hfind'
    -- The agent keeps the connection that it was registered on.
    rw [hfind₀] at hconn
    exact hconn.symm.trans hbound
  · intro hbound id' conn' hspoke'
    rw [hspoke] at hspoke'
    by_cases heq : id' = id
    · subst heq
      rw [Function.update_self] at hspoke'
      cases hspoke'
      refine ⟨⟨{ agent with groupID }, hself, ?_⟩, row, hrow, ?_⟩
      · show agent.conn = conn
        rw [hconn]
        cases hfind₀ : p.1.agents.findAgent id' with
        | none => rfl
        | some agent₀ => exact hbound id' agent₀ hid hfind₀
      · rw [hstatus]
        exact determineAgentStatus_ne_offline msg
    · rw [Function.update_of_ne heq] at hspoke'
      obtain ⟨⟨agent', hfind', hconn'⟩, row', hrow', hstatus'⟩ := hconnected id' conn' hspoke'
      refine ⟨⟨agent', ?_, hconn'⟩, row', ?_, hstatus'⟩
      · rw [hfind id', if_neg heq, hfind']
      · rw [hstore, getAgent_persistAgent_of_ne env p.1.store agent msg, hrow']
        rw [hinstance]
        exact heq

/-- A closed connection keeps `Connected`: the agents that spoke last on another connection
are not in its id set. -/
theorem connected_disconnect {env : Env} {conn : Conn} {p q : Server × LastSpoke}
    (hwf : p.1.agents.WellFormed) (hconnected : Connected p)
    (h : withGhost step lastSpoke p (.disconnect env conn) = some q) : Connected q := by
  obtain ⟨hstep, hghost⟩ := withGhost_eq_some.mp h
  have hsrv : q.1 = onDisconnect env conn p.1 := (Option.some.inj hstep).symm
  intro id conn' hspoke
  rw [hghost] at hspoke
  simp only [lastSpoke] at hspoke
  split at hspoke
  · cases hspoke
  · rename_i hother
    obtain ⟨⟨agent, hfind, hconn⟩, row, hrow, hstatus⟩ := hconnected id conn' hspoke
    have hnotMem : id ∉ p.1.agents.agentsOf conn := by
      intro hmem
      obtain ⟨agent', hfind', hconn'⟩ := hwf.registered conn id hmem
      rw [hfind] at hfind'
      cases hfind'
      rw [hspoke, ← hconn, hconn'] at hother
      exact hother rfl
    rw [hsrv]
    refine ⟨⟨agent, ?_, hconn⟩, row, ?_, hstatus⟩
    · show (p.1.agents.removeConnection conn).findAgent id = some agent
      rw [Agents.findAgent_removeConnection, if_neg hnotMem, hfind]
    · rw [getAgent_onDisconnect_of_notMem hnotMem, hrow]

/-- Take a run from a fresh registry in which the storage calls of the messages succeed. Every
state of the run is `Connected` if and only if every message of a registered agent arrives on the
connection the agent is bound to. -/
theorem connected_along_iff (store : Sqlite.Storage) (grpc http : String) (es : List Event)
    (hstorage : ∀ e ∈ es, e.StorageWorks)
    (hrun : (run (withGhost step lastSpoke) (newServer store grpc http, fun _ => none)
      es).isSome) :
    Along (withGhost step lastSpoke) Connected (newServer store grpc http, fun _ => none) es ↔
      StepsMeet (withGhost step lastSpoke) OnBoundConnection
        (newServer store grpc http, fun _ => none) es := by
  have hinit : Connected (newServer store grpc http, fun _ => none) := by
    intro id conn hspoke
    cases hspoke
  refine along_iff_stepsMeet (I := fun p => p.1.agents.WellFormed)
    (D := Event.StorageWorks) ?_ ?_ hstorage Agents.wellFormed_newAgents hinit hrun
  · intro p e q hwf hstep
    exact wellFormed_step hwf (withGhost_eq_some.mp hstep).1
  · intro p e q hworks hwf hconnected hstep
    cases e with
    | message env conn msg => exact connected_message_iff hworks hwf hconnected hstep
    | disconnect env conn =>
      exact ⟨fun _ => trivial, fun _ => connected_disconnect hwf hconnected hstep⟩

/-! ### A connection that is closed late -/

/-- A report without a description. -/
def heartbeat (uid : UUID) : AgentToServer where
  instanceUid := uid.bytes

/-- Two messages on one connection, and the close of another one. -/
theorem connected_along_iff_one_connection :
    Along (withGhost step lastSpoke) Connected (newServer .empty "" "", fun _ => none)
        [.message (.quiet 0 "") 1 (heartbeat .nil), .message (.quiet 1 "") 1 (heartbeat .nil),
          .disconnect (.quiet 2 "") 2] ↔
      StepsMeet (withGhost step lastSpoke) OnBoundConnection
        (newServer .empty "" "", fun _ => none)
        [.message (.quiet 0 "") 1 (heartbeat .nil), .message (.quiet 1 "") 1 (heartbeat .nil),
          .disconnect (.quiet 2 "") 2] :=
  connected_along_iff .empty "" "" _
    (by
      intro e he
      simp only [List.mem_cons, List.not_mem_nil, or_false] at he
      rcases he with rfl | rfl | rfl
      · exact Env.quiet_faultFree 0 ""
      · exact Env.quiet_faultFree 1 ""
      · trivial)
    (by decide +kernel)

/-- The agent speaks on connection 1 and then on connection 2. When connection 1 is closed
after that, the agent is removed from the registry. -/
theorem late_close_removes_agent :
    ¬ ∀ (store : Sqlite.Storage) (es : List Event) (p : Server × LastSpoke),
      (∀ e ∈ es, e.StorageWorks) →
      run (withGhost step lastSpoke) (newServer store "" "", fun _ => none) es = some p →
      Connected p := by
  intro hall
  let es : List Event := [.message (.quiet 0 "") 1 (heartbeat .nil),
    .message (.quiet 1 "") 2 (heartbeat .nil), .disconnect (.quiet 2 "") 1]
  have hworks : ∀ e ∈ es, e.StorageWorks := by
    intro e he
    simp only [es, List.mem_cons, List.not_mem_nil, or_false] at he
    rcases he with rfl | rfl | rfl
    · exact Env.quiet_faultFree 0 ""
    · exact Env.quiet_faultFree 1 ""
    · trivial
  have hend : (run (withGhost step lastSpoke) (newServer .empty "" "", fun _ => none) es).map
      (fun p => (p.2 .nil, (p.1.agents.findAgent .nil).isSome)) = some (some 2, false) := by
    decide +kernel
  obtain ⟨p, hrun, hend⟩ := Option.map_eq_some_iff.mp hend
  simp only [Prod.mk.injEq] at hend
  obtain ⟨⟨agent, hfind, _⟩, _⟩ := hall .empty es p hworks hrun .nil 2 hend.1
  rw [hfind] at hend
  cases hend.2

end OtelHive.Opamp.Server
