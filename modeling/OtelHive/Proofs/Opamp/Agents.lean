import OtelHive.Opamp.Agents

/-!
# `OtelHive.Proofs.Opamp.Agents`: the registry keeps its two maps together

The registry holds the binding of an agent to a connection twice: in the `conn` field of the
agent, and in the id set of the connection. `Agents.WellFormed` says that the two agree.
`findOrCreateAgent`, `removeConnection` and every update that keeps the id and the
connection of the agent preserve it.

`Represents` says what this means to a caller: the id sets are the inverse of the `conn`
fields, so an id has one connection at most, and to remove a connection is to remove the
agents bound to it. It holds after any calls (`represents_foldl`).
-/

set_option autoImplicit false

namespace OtelHive.Opamp.Agents

open OtelHive.Lib

/-- The two maps agree: a registered agent carries its id and is in the set of its
connection, and an id in the set of a connection is registered with that connection. -/
structure WellFormed (agents : Agents) : Prop where
  bound : ∀ id agent, agents.findAgent id = some agent →
    agent.instanceId = id ∧ id ∈ agents.agentsOf agent.conn
  registered : ∀ conn id, id ∈ agents.agentsOf conn →
    ∃ agent, agents.findAgent id = some agent ∧ agent.conn = conn

/-! ### Lookups -/

/-- The agent after an update. -/
theorem findAgent_update (agents : Agents) (id id' : UUID) (f : Agent → Agent) :
    (agents.update id f).findAgent id'
      = if id' = id then (agents.findAgent id').map f else agents.findAgent id' :=
  GoMap.lookup_modify agents.agentsById id id' f

/-- An update does not touch the id sets. -/
theorem agentsOf_update (agents : Agents) (id : UUID) (f : Agent → Agent) (conn : Conn) :
    (agents.update id f).agentsOf conn = agents.agentsOf conn := rfl

/-- A registered agent is found as it is. -/
theorem findOrCreateAgent_of_some {agents : Agents} {id : UUID} {agent : Agent}
    (h : agents.findAgent id = some agent) (conn : Conn) :
    agents.findOrCreateAgent id conn = (agents, agent) := by
  simp [findOrCreateAgent, h]

/-- An unknown agent is created on the connection. -/
theorem findOrCreateAgent_snd_of_none {agents : Agents} {id : UUID}
    (h : agents.findAgent id = none) (conn : Conn) :
    (agents.findOrCreateAgent id conn).2 = newAgent id conn := by
  simp [findOrCreateAgent, h]

/-- The agents that are found after `findOrCreateAgent`. -/
theorem findAgent_findOrCreateAgent (agents : Agents) (id id' : UUID) (conn : Conn) :
    (agents.findOrCreateAgent id conn).1.findAgent id'
      = if id' = id then some (agents.findOrCreateAgent id conn).2
        else agents.findAgent id' := by
  cases h : agents.findAgent id with
  | some agent =>
    rw [findOrCreateAgent_of_some h]
    by_cases hid : id' = id
    · rw [if_pos hid, hid, h]
    · rw [if_neg hid]
  | none =>
    simp only [findOrCreateAgent, h]
    exact GoMap.lookup_insert_eq agents.agentsById id id' (newAgent id conn)

/-- The id sets after an unknown agent is created. -/
theorem mem_agentsOf_findOrCreateAgent {agents : Agents} {id : UUID}
    (h : agents.findAgent id = none) (conn conn' : Conn) (id' : UUID) :
    id' ∈ (agents.findOrCreateAgent id conn).1.agentsOf conn' ↔
      id' ∈ agents.agentsOf conn' ∨ (conn' = conn ∧ id' = id) := by
  simp only [findOrCreateAgent, h, agentsOf, GoMap.lookup_insert_eq]
  by_cases hconn : conn' = conn
  · subst hconn
    simp only [if_true, Option.getD_some, true_and]
    rw [← AList.mem_keys, AList.mem_insert, AList.mem_keys]
    exact or_comm
  · simp [hconn]

/-- The agents that are found after a connection is removed. -/
theorem findAgent_removeConnection (agents : Agents) (conn : Conn) (id : UUID) :
    (agents.removeConnection conn).findAgent id
      = if id ∈ agents.agentsOf conn then none else agents.findAgent id :=
  GoMap.lookup_eraseAll agents.agentsById (agents.agentsOf conn) id

/-- The id sets after a connection is removed. -/
theorem agentsOf_removeConnection (agents : Agents) (conn conn' : Conn) :
    (agents.removeConnection conn).agentsOf conn'
      = if conn' = conn then [] else agents.agentsOf conn' := by
  unfold removeConnection agentsOf
  dsimp only
  rw [GoMap.lookup_erase_eq]
  split
  · rfl
  · rfl

/-! ### The invariant -/

/-- A new registry is empty. -/
theorem wellFormed_newAgents : newAgents.WellFormed where
  bound := by
    intro id agent h
    have hnone : newAgents.findAgent id = none := GoMap.lookup_empty id
    rw [hnone] at h
    cases h
  registered := by
    intro conn id h
    cases h

/-- An update that keeps the id and the connection of the agent keeps the invariant. -/
theorem WellFormed.update {agents : Agents} (hwf : agents.WellFormed) {id : UUID}
    {f : Agent → Agent}
    (hid : ∀ agent, agents.findAgent id = some agent → (f agent).instanceId = agent.instanceId)
    (hconn : ∀ agent, agents.findAgent id = some agent → (f agent).conn = agent.conn) :
    (agents.update id f).WellFormed where
  bound := by
    intro id' agent h
    rw [findAgent_update] at h
    by_cases heq : id' = id
    · subst heq
      rw [if_pos rfl, Option.map_eq_some_iff] at h
      obtain ⟨agent₀, hfind, rfl⟩ := h
      rw [agentsOf_update, hid agent₀ hfind, hconn agent₀ hfind]
      exact hwf.bound id' agent₀ hfind
    · rw [if_neg heq] at h
      exact hwf.bound id' agent h
  registered := by
    intro conn id' h
    rw [agentsOf_update] at h
    obtain ⟨agent, hfind, hagent⟩ := hwf.registered conn id' h
    rw [findAgent_update]
    by_cases heq : id' = id
    · subst heq
      refine ⟨f agent, ?_, ?_⟩
      · rw [if_pos rfl, hfind, Option.map_some]
      · rw [hconn agent hfind, hagent]
    · rw [if_neg heq]
      exact ⟨agent, hfind, hagent⟩

/-- `findOrCreateAgent` keeps the invariant. -/
theorem WellFormed.findOrCreateAgent {agents : Agents} (hwf : agents.WellFormed) (id : UUID)
    (conn : Conn) : (agents.findOrCreateAgent id conn).1.WellFormed := by
  cases h : agents.findAgent id with
  | some agent =>
    rw [findOrCreateAgent_of_some h]
    exact hwf
  | none =>
    refine ⟨?_, ?_⟩
    · intro id' agent hfind
      rw [findAgent_findOrCreateAgent] at hfind
      rw [mem_agentsOf_findOrCreateAgent h]
      by_cases heq : id' = id
      · rw [if_pos heq, findOrCreateAgent_snd_of_none h] at hfind
        cases hfind
        exact ⟨heq.symm, Or.inr ⟨rfl, heq⟩⟩
      · rw [if_neg heq] at hfind
        obtain ⟨hid, hmem⟩ := hwf.bound id' agent hfind
        exact ⟨hid, Or.inl hmem⟩
    · intro conn' id' hmem
      rw [mem_agentsOf_findOrCreateAgent h] at hmem
      rw [findAgent_findOrCreateAgent, findOrCreateAgent_snd_of_none h]
      rcases hmem with hmem | ⟨hconn, hid⟩
      · obtain ⟨agent, hfind, hagent⟩ := hwf.registered conn' id' hmem
        -- The new id was not registered, so it is in no set.
        have hne : id' ≠ id := by
          intro heq
          rw [heq, h] at hfind
          cases hfind
        rw [if_neg hne]
        exact ⟨agent, hfind, hagent⟩
      · rw [if_pos hid]
        exact ⟨newAgent id conn, rfl, hconn.symm⟩

/-- `removeConnection` keeps the invariant. -/
theorem WellFormed.removeConnection {agents : Agents} (hwf : agents.WellFormed) (conn : Conn) :
    (agents.removeConnection conn).WellFormed where
  bound := by
    intro id agent h
    rw [findAgent_removeConnection] at h
    split at h
    · cases h
    · rename_i hmem
      obtain ⟨hid, hbound⟩ := hwf.bound id agent h
      refine ⟨hid, ?_⟩
      rw [agentsOf_removeConnection]
      split
      · rename_i hconn
        rw [hconn] at hbound
        exact absurd hbound hmem
      · exact hbound
  registered := by
    intro conn' id h
    rw [agentsOf_removeConnection] at h
    split at h
    · cases h
    · rename_i hconn
      obtain ⟨agent, hfind, hagent⟩ := hwf.registered conn' id h
      refine ⟨agent, ?_, hagent⟩
      rw [findAgent_removeConnection, if_neg, hfind]
      -- An id in the removed set is bound to the removed connection.
      intro hmem
      obtain ⟨agent', hfind', hagent'⟩ := hwf.registered conn id hmem
      rw [hfind] at hfind'
      cases hfind'
      exact hconn (hagent.symm.trans hagent')

/-! ### The registry as one relation -/

/-- The registry is one relation between ids and connections:

- `key`: the keys of the first map are the ids that some connection has;
- `occurs`: an id is in the set of a connection exactly when the agent of that id is bound to it;
- `disjoint`: no id is in the sets of two connections;
- `instanceId`: an agent carries the id it is registered under;
- `removes`: to remove a connection removes the agents bound to it and no others. -/
structure Represents (agents : Agents) : Prop where
  key : ∀ id, id ∈ agents.agentsById.keys ↔ ∃ conn, id ∈ agents.agentsOf conn
  occurs : ∀ id conn, id ∈ agents.agentsOf conn ↔
    ∃ agent, agents.findAgent id = some agent ∧ agent.conn = conn
  disjoint : ∀ id conn conn', id ∈ agents.agentsOf conn → id ∈ agents.agentsOf conn' → conn = conn'
  instanceId : ∀ id agent, agents.findAgent id = some agent → agent.instanceId = id
  removes : ∀ conn id, (agents.removeConnection conn).findAgent id
    = (agents.findAgent id).filter (·.conn != conn)

/-- The id sets are the inverse of the `conn` fields. -/
theorem WellFormed.mem_agentsOf_iff {agents : Agents} (hwf : agents.WellFormed) (id : UUID)
    (conn : Conn) :
    id ∈ agents.agentsOf conn ↔ ∃ agent, agents.findAgent id = some agent ∧ agent.conn = conn := by
  constructor
  · exact hwf.registered conn id
  · rintro ⟨agent, hfind, rfl⟩
    exact (hwf.bound id agent hfind).2

/-- What the invariant says to a caller. -/
theorem WellFormed.represents {agents : Agents} (hwf : agents.WellFormed) :
    agents.Represents where
  key := by
    intro id
    rw [GoMap.mem_keys_iff]
    constructor
    · rintro ⟨agent, hfind⟩
      exact ⟨agent.conn, (hwf.bound id agent hfind).2⟩
    · rintro ⟨conn, hmem⟩
      obtain ⟨agent, hfind, _⟩ := hwf.registered conn id hmem
      exact ⟨agent, hfind⟩
  occurs := hwf.mem_agentsOf_iff
  disjoint := by
    intro id conn conn' hmem hmem'
    obtain ⟨agent, hfind, hconn⟩ := hwf.registered conn id hmem
    obtain ⟨agent', hfind', hconn'⟩ := hwf.registered conn' id hmem'
    rw [hfind] at hfind'
    cases hfind'
    exact hconn.symm.trans hconn'
  instanceId := fun id agent hfind => (hwf.bound id agent hfind).1
  removes := by
    intro conn id
    rw [findAgent_removeConnection]
    cases hfind : agents.findAgent id with
    | none =>
      rw [ite_self]
      rfl
    | some agent =>
      have hmem : id ∈ agents.agentsOf conn ↔ agent.conn = conn := by
        rw [hwf.mem_agentsOf_iff, hfind]
        simp
      by_cases hconn : agent.conn = conn
      · rw [if_pos (hmem.mpr hconn)]
        simp [Option.filter, hconn]
      · rw [if_neg (fun h => hconn (hmem.mp h))]
        simp [Option.filter, hconn]

/-- Every call keeps the invariant. -/
theorem WellFormed.perform {agents : Agents} (hwf : agents.WellFormed) (op : Operation) :
    (agents.perform op).WellFormed := by
  cases op with
  | findOrCreateAgent id conn => exact hwf.findOrCreateAgent id conn
  | removeConnection conn => exact hwf.removeConnection conn

/-- Any calls keep the invariant. -/
theorem WellFormed.foldl {agents : Agents} (hwf : agents.WellFormed) (ops : List Operation) :
    (ops.foldl Agents.perform agents).WellFormed := by
  induction ops generalizing agents with
  | nil => exact hwf
  | cons op ops ih => exact ih (hwf.perform op)

/-- After any calls on a new registry, the two maps are one relation. -/
theorem represents_foldl (ops : List Operation) :
    (ops.foldl Agents.perform newAgents).Represents :=
  (wellFormed_newAgents.foldl ops).represents

end OtelHive.Opamp.Agents
