import OtelHive.Proofs.Api.Dashboards

/-!
# `OtelHive.Proofs.Api.Presence`: who is shown as connected

The registry forgets its agents when the process ends, and the database keeps their status. So an
agent can be shown as online that is not registered. `presence` says when: in a process whose
writes succeed, an agent is shown exactly if it is registered, or if it was shown when the process
started and has not sent a message since.

In particular the counts of `GET /agents/stats` are those of the registry, if every agent was
offline at the start.
-/

set_option autoImplicit false

namespace OtelHive.Api.Fleet

open OtelHive.Lib
open OtelHive.Opamp
open OtelHive.Sqlite (Storage)
open OtelHive.Types (Operation)

/-- The agent has a row, with a status other than offline. -/
def Shown (s : Storage) (id : UUID) : Prop :=
  ∃ row, s.getAgent id = some row ∧ row.status ≠ .offline

/-- The agent is registered. -/
def Registered (s : State) (id : UUID) : Prop := (s.sender.agents.findAgent id).isSome

/-- The event is a message of the agent. -/
def Event.From (id : UUID) : Event → Prop
  | .request (.opamp (.message _ _ msg)) => UUID.ofSlice msg.instanceUid = .ok id
  | _ => False

/-- The process goes on, and the storage calls of an OpAMP handler succeed. -/
def Event.Works : Event → Prop
  | .request (.opamp (.message env _ _)) => env.FaultFree
  | .request (.opamp (.disconnect env _)) => env.FaultFree
  | .restart => False
  | _ => True

/-- An agent is shown if it is registered, or if it is one of the stale ones, which are not. -/
structure Presence (stale : UUID → Prop) (s : State) : Prop where
  shown : ∀ id, Shown s.store id ↔ Registered s id ∨ stale id
  fresh : ∀ id, Registered s id → ¬ stale id
  wellFormed : s.sender.agents.WellFormed

/-! ### One step -/

/-- Only the OpAMP handlers write the table of agents. -/
theorem agents_step {s s' : State} {e : Event} (he : ¬ e.Opamp) (h : step s e = some s') :
    s'.store.agents = s.store.agents := by
  refine step_keeps (I := fun store => store.agents = s.store.agents) ?_ h rfl
  intro store foreignKeys now op hop hagents
  have hwritten : ∀ result : Except String Storage,
      (∀ store', result = .ok store' → store'.agents = store.agents) →
      (store.written result).1.agents = s.store.agents := by
    intro result hresult
    cases result with
    | error err => exact hagents
    | ok store' => exact (hresult store' rfl).trans hagents
  cases op with
  | createAgent _ | updateAgentStatus _ _ | updateAgentLastSeen _ _
  | updateAgentEffectiveConfig _ _ => exact absurd hop he
  | createGroup group =>
    refine hwritten _ ?_
    intro store' hok
    unfold Storage.createGroup at hok
    split at hok
    · cases hok
    · cases hok
      rfl
  | createConfig config =>
    refine hwritten _ ?_
    intro store' hok
    unfold Storage.createConfig at hok
    split at hok
    · cases hok
    · split at hok
      · cases hok
      · cases hok
        rfl
  | deleteGroup id =>
    refine hwritten _ ?_
    intro store' hok
    unfold Storage.deleteGroup at hok
    split at hok
    · cases hok
      rfl
    · cases hok
  | deleteAgent _ => cases hop
  | getAgent _ | listAgents | getGroup _ | listGroups | getConfig _ | getLatestConfigForAgent _
  | getLatestConfigForGroup _ | listConfigs _ => exact hagents

/-- The agents of a closed connection are offline. -/
theorem status_onDisconnect {env : Env} (hfree : env.FaultFree) (conn : Conn) {srv : Server}
    {id : UUID} (hmem : id ∈ srv.agents.agentsOf conn) {row : Types.Agent}
    (hrow : (Server.onDisconnect env conn srv).store.getAgent id = some row) :
    row.status = .offline := by
  have hloop : ∀ (ids : List UUID) (store : Storage),
      (id ∈ ids ∨ ∀ row, store.getAgent id = some row → row.status = .offline) →
      ∀ row, (ids.foldl (fun store agentId =>
        logged store (Services.updateAgentStatus env store agentId .offline)) store).getAgent id
          = some row → row.status = .offline := by
    intro ids
    induction ids with
    | nil =>
      intro store h row hrow
      exact h.resolve_left (List.not_mem_nil) row hrow
    | cons id₀ ids ih =>
      intro store h
      rw [List.foldl_cons]
      refine ih _ ?_
      unfold Services.updateAgentStatus Storage.updateAgentStatus
      by_cases hid : id = id₀
      · -- Marked here, and marked again if it comes once more.
        subst hid
        refine Or.inr ?_
        intro row hrow
        rw [getAgent_logged_self (by exact fun _ => rfl), if_pos (hfree _)] at hrow
        obtain ⟨row₀, _, rfl⟩ := Option.map_eq_some_iff.mp hrow
        rfl
      · rcases h with hmem | hoffline
        · exact Or.inl ((List.mem_cons.mp hmem).resolve_left hid)
        · refine Or.inr ?_
          intro row hrow
          rw [getAgent_logged_of_ne (by exact fun _ => rfl) hid] at hrow
          exact hoffline row hrow
  exact hloop (srv.agents.agentsOf conn) srv.store (Or.inl hmem) row hrow

/-- A message registers its agent and shows it. -/
theorem presence_message {stale : UUID → Prop} {s : State} {srv : Server} {env : Env} {conn : Conn}
    {msg : AgentToServer} (h : Presence stale s) (hfree : env.FaultFree)
    (hstep : Server.step s.server (.message env conn msg) = some srv) :
    Presence (fun id => stale id ∧ UUID.ofSlice msg.instanceUid ≠ .ok id) (s.withServer srv) := by
  obtain ⟨id, agent, hid, hinstance, _, _, hfind, hstore, _, hwf⟩ :=
    Server.step_message h.wellFormed hstep
  obtain ⟨row, hrow, hstatus, _⟩ := getAgent_persistAgent hfree s.store agent msg
  have hself : Shown srv.store id := by
    refine ⟨row, ?_, ?_⟩
    · rw [hstore, ← hinstance]
      exact hrow
    · rw [hstatus]
      exact determineAgentStatus_ne_offline msg
  have hother : ∀ id', id' ≠ id → srv.store.getAgent id' = s.store.getAgent id' := by
    intro id' hne
    rw [hstore]
    exact getAgent_persistAgent_of_ne env s.store agent msg (by rw [hinstance]; exact hne)
  have hregistered : ∀ id', Registered (s.withServer srv) id' ↔ id' = id ∨ Registered s id' := by
    intro id'
    show (srv.agents.findAgent id').isSome ↔ id' = id ∨ (s.server.agents.findAgent id').isSome
    rw [hfind]
    by_cases heq : id' = id
    · simp [heq]
    · simp [heq]
  have hfrom : ∀ id', UUID.ofSlice msg.instanceUid ≠ .ok id' ↔ id' ≠ id := by
    intro id'
    rw [hid, ne_eq, Except.ok.injEq, eq_comm]
  refine ⟨?_, ?_, hwf⟩
  · intro id'
    rw [hregistered, hfrom]
    by_cases heq : id' = id
    · subst heq
      exact ⟨fun _ => Or.inl (Or.inl rfl), fun _ => hself⟩
    · have hsame : Shown (s.withServer srv).store id' ↔ Shown s.store id' := by
        show (∃ row, srv.store.getAgent id' = some row ∧ _) ↔ _
        rw [hother id' heq]
        exact Iff.rfl
      rw [hsame, h.shown id']
      simp [heq]
  · intro id' hreg hstale
    rw [hfrom] at hstale
    exact h.fresh id' (((hregistered id').mp hreg).resolve_left hstale.2) hstale.1

/-- A closed connection drops its agents and marks them. -/
theorem presence_disconnect {stale : UUID → Prop} {s : State} {env : Env} (conn : Conn)
    (h : Presence stale s) (hfree : env.FaultFree) :
    Presence stale (s.withServer (Server.onDisconnect env conn s.server)) := by
  have hregistered : ∀ id, Registered (s.withServer (Server.onDisconnect env conn s.server)) id ↔
      id ∉ s.server.agents.agentsOf conn ∧ Registered s id := by
    intro id
    show ((s.server.agents.removeConnection conn).findAgent id).isSome ↔ _
    rw [Agents.findAgent_removeConnection]
    by_cases hmem : id ∈ s.server.agents.agentsOf conn
    · simp [hmem]
    · rw [if_neg hmem]
      exact (and_iff_right hmem).symm
  refine ⟨?_, ?_, h.wellFormed.removeConnection conn⟩
  · intro id
    rw [hregistered]
    by_cases hmem : id ∈ s.server.agents.agentsOf conn
    · -- It was registered, so it is none of the stale ones.
      obtain ⟨agent, hfind, _⟩ := h.wellFormed.registered conn id hmem
      have hreg : Registered s id := by
        unfold Registered
        rw [hfind]
        rfl
      constructor
      · intro hshown
        obtain ⟨row, hrow, hstatus⟩ := hshown
        exact absurd (status_onDisconnect hfree conn hmem hrow) hstatus
      · intro hor
        rcases hor with hreg' | hstale
        · exact absurd hmem hreg'.1
        · exact absurd hstale (h.fresh id hreg)
    · have hsame : Shown (s.withServer (Server.onDisconnect env conn s.server)).store id ↔
          Shown s.store id := by
        show (∃ row, (Server.onDisconnect env conn s.server).store.getAgent id = some row ∧ _) ↔ _
        rw [Server.getAgent_onDisconnect_of_notMem hmem]
        exact Iff.rfl
      rw [hsame, h.shown id, and_iff_right hmem]
  · intro id hreg
    exact h.fresh id ((hregistered id).mp hreg).2

/-- One event of a process whose writes succeed. -/
theorem presence_step {stale : UUID → Prop} {s s' : State} {e : Event} (h : Presence stale s)
    (hworks : e.Works) (hstep : step s e = some s') :
    Presence (fun id => stale id ∧ ¬ e.From id) s' := by
  by_cases he : e.Opamp
  · cases e with
    | request r =>
      cases r with
      | opamp e =>
        obtain ⟨srv, hsrv, rfl⟩ := Option.map_eq_some_iff.mp hstep
        cases e with
        | message env conn msg => exact presence_message h hworks hsrv
        | disconnect env conn =>
          cases hsrv
          have hnext := presence_disconnect conn h hworks
          exact ⟨fun id => (hnext.shown id).trans (by simp [Event.From]),
            fun id hreg hstale => hnext.fresh id hreg hstale.1, hnext.wellFormed⟩
      | createConfig _ _ _ | updateConfig _ _ _ | assignConfig _ _ _ _ | sendConfig _ _ _ _ =>
        cases he
    | push _ _ _ | createGroup _ _ | deleteGroup _ _ _ | restart => cases he
  · have hpushes : e.Pushes := by
      cases e with
      | request r =>
        cases r with
        | opamp e => exact absurd trivial he
        | createConfig _ _ _ | updateConfig _ _ _ | assignConfig _ _ _ _ | sendConfig _ _ _ _ =>
          trivial
      | restart => cases hworks
      | push _ _ _ | createGroup _ _ | deleteGroup _ _ _ => trivial
    have hfrom : ∀ id, ¬ e.From id := by
      intro id hfrom
      cases e with
      | request r =>
        cases r with
        | opamp e => exact he trivial
        | createConfig _ _ _ | updateConfig _ _ _ | assignConfig _ _ _ _ | sendConfig _ _ _ _ =>
          cases hfrom
      | push _ _ _ | createGroup _ _ | deleteGroup _ _ _ | restart => cases hfrom
    have hregistered : ∀ id, Registered s' id ↔ Registered s id := by
      intro id
      have hsame := step_sender
        (P := fun cs => (cs.agents.findAgent id).isSome = (s.sender.agents.findAgent id).isSome)
        (fun cs acked agentId content hcs =>
          (isSome_sendConfigToAgent cs acked agentId content id).trans hcs) hpushes rfl hstep
      unfold Registered
      rw [hsame]
    have hshown : ∀ id, Shown s'.store id ↔ Shown s.store id := by
      intro id
      unfold Shown Storage.getAgent
      rw [agents_step he hstep]
    refine ⟨?_, ?_, wellFormed_step h.wellFormed hstep⟩
    · intro id
      rw [hshown, hregistered, h.shown, and_iff_left (hfrom id)]
    · intro id hreg hstale
      exact h.fresh id ((hregistered id).mp hreg) hstale.1

/-! ### Runs -/

/-- A run of a process whose writes succeed. The stale agents are those that were shown at the
start and have not sent a message. -/
theorem presence_run {stale : UUID → Prop} {s t : State} {es : List Event} (h : Presence stale s)
    (hworks : ∀ e ∈ es, e.Works) (hrun : run step s es = some t) :
    Presence (fun id => stale id ∧ ∀ e ∈ es, ¬ e.From id) t := by
  induction es generalizing s stale with
  | nil =>
    cases hrun
    exact ⟨fun id => (h.shown id).trans (by simp), fun id hreg hstale => h.fresh id hreg hstale.1,
      h.wellFormed⟩
  | cons e es ih =>
    obtain ⟨s', hstep, hrun'⟩ := run_cons_eq_some.mp hrun
    have hnext := ih (presence_step h (hworks e List.mem_cons_self) hstep)
      (fun e' he' => hworks e' (List.mem_cons_of_mem e he')) hrun'
    have hstale : ∀ id, ((stale id ∧ ¬ e.From id) ∧ ∀ e' ∈ es, ¬ e'.From id) ↔
        (stale id ∧ ∀ e' ∈ e :: es, ¬ e'.From id) := by
      intro id
      rw [List.forall_mem_cons, and_assoc]
    exact ⟨fun id => (hnext.shown id).trans (or_congr_right (hstale id)),
      fun id hreg hs => hnext.fresh id hreg ((hstale id).mpr hs), hnext.wellFormed⟩

/-- Right after a start, nobody is registered. -/
theorem presence_start (store : Storage) : Presence (Shown store) (State.start store) := by
  have hnone : ∀ id, ¬ Registered (State.start store) id := by
    intro id hreg
    have hfind : newAgents.findAgent id = none := GoMap.lookup_empty id
    have hsome : (newAgents.findAgent id).isSome := hreg
    rw [hfind] at hsome
    cases hsome
  exact ⟨fun id => (or_iff_right (hnone id)).symm, fun id hreg => absurd hreg (hnone id),
    Agents.wellFormed_newAgents⟩

/-! ### Counts -/

/-- The agents that are online or in error are those that are not offline. -/
theorem countP_shown (agents : List Types.Agent) :
    (agents.countP fun agent => agent.status = .online)
        + (agents.countP fun agent => agent.status = .error)
      = (agents.filter fun agent => agent.status ≠ .offline).length := by
  have hall := countP_status agents
  have hsplit :=
    List.length_eq_countP_add_countP (fun agent => agent.status = .offline) (l := agents)
  rw [← List.countP_eq_length_filter]
  simp only [decide_eq_true_eq, ne_eq] at hsplit ⊢
  omega

/-- Without stale agents, as many agents are shown as are registered. -/
theorem shown_count {s : State} (h : Presence (fun _ => False) s) (hids : s.store.UniqueIds) :
    (s.store.listAgents.filter fun agent => agent.status ≠ .offline).length
      = s.sender.agents.agentsById.keys.length := by
  have hperm : s.store.listAgents.Perm s.store.agents := List.perm_insertionSort _ _
  have hnodup : ((s.store.listAgents.filter fun agent => agent.status ≠ .offline).map
      Types.Agent.id).Nodup :=
    (nodup_listAgents hids).sublist (List.filter_sublist.map _)
  have hsame : ((s.store.listAgents.filter fun agent => agent.status ≠ .offline).map
      Types.Agent.id).Perm s.sender.agents.agentsById.keys := by
    rw [List.perm_ext_iff_of_nodup hnodup s.sender.agents.agentsById.keys_nodup]
    intro id
    have hshown : Shown s.store id ↔ Registered s id := (h.shown id).trans (by simp)
    rw [GoMap.mem_keys_iff, ← Option.isSome_iff_exists]
    show _ ↔ Registered s id
    rw [← hshown, List.mem_map]
    unfold Shown
    constructor
    · intro hrow
      obtain ⟨row, hmem, rfl⟩ := hrow
      obtain ⟨hlisted, hstatus⟩ := List.mem_filter.mp hmem
      refine ⟨row, (find?_key_iff hids.agents).mpr ⟨hperm.mem_iff.mp hlisted, rfl⟩, ?_⟩
      simpa using hstatus
    · intro hrow
      obtain ⟨row, hget, hstatus⟩ := hrow
      obtain ⟨hmem, hid⟩ := (find?_key_iff hids.agents).mp hget
      exact ⟨row, List.mem_filter.mpr ⟨hperm.mem_iff.mpr hmem, by simpa using hstatus⟩, hid⟩
  rw [← hsame.length_eq, List.length_map]

/-- Take a process that starts on the database of any earlier run, and a run of it in which the
writes of the OpAMP handlers succeed. Then an agent is shown exactly if it is registered, or if it
was shown at the start and has not sent a message since. If nobody was shown at the start, the
stats count as many agents online or in error as are registered. -/
theorem presence {before after : List Event} {s t : State} (hreach : run step start before = some s)
    (hworks : ∀ e ∈ after, e.Works) (hrun : run step (State.start s.store) after = some t) :
    (∀ id, Shown t.store id ↔
        Registered t id ∨ Shown s.store id ∧ ∀ e ∈ after, ¬ e.From id) ∧
      ((∀ id, ¬ Shown s.store id) → ∀ env stats, handleGetAgentStats env t.store = .stats stats →
        stats.onlineAgents + stats.errorAgents = t.sender.agents.agentsById.keys.length) := by
  have hpresence := presence_run (presence_start s.store) hworks hrun
  refine ⟨hpresence.shown, ?_⟩
  intro hnobody env stats hstats
  have hbefore : s.store.UniqueIds := uniqueIds_run Storage.uniqueIds_empty hreach
  have hstart : (State.start s.store).store.UniqueIds := hbefore
  have hids : t.store.UniqueIds := uniqueIds_run hstart hrun
  have hfresh : Presence (fun _ => False) t :=
    ⟨fun id => (hpresence.shown id).trans (by simp [hnobody id]), fun _ _ => id,
      hpresence.wellFormed⟩
  rw [← shown_count hfresh hids, ← countP_shown]
  unfold handleGetAgentStats at hstats
  split at hstats
  · cases hstats
  · rename_i agents hagents
    cases hstats
    rw [← Except.ok.inj (Env.call_eq_ok hagents).2]

/-- Two agents connect, the process starts again, and one of them sends a message. -/
theorem presence_twoAgents :
    ∃ s t, run step start twoAgents = some s ∧
      run step (State.start s.store) [.request (.opamp (.message (.quiet 3 "") 1 {
        instanceUid := List.replicate 16 1 }))] = some t ∧
      (∀ id, Shown t.store id ↔ Registered t id ∨ Shown s.store id ∧
        ∀ e ∈ [Event.request (.opamp (.message (.quiet 3 "") 1 {
          instanceUid := List.replicate 16 1 }))], ¬ e.From id) ∧
      ((∀ id, ¬ Shown s.store id) → ∀ env stats, handleGetAgentStats env t.store = .stats stats →
        stats.onlineAgents + stats.errorAgents = t.sender.agents.agentsById.keys.length) := by
  have hreach : run step start twoAgents
      = some ((run step start twoAgents).get (by decide +kernel)) := (Option.some_get _).symm
  have hrun : run step (State.start ((run step start twoAgents).get (by decide +kernel)).store)
        [.request (.opamp (.message (.quiet 3 "") 1 { instanceUid := List.replicate 16 1 }))]
      = some ((run step (State.start ((run step start twoAgents).get (by decide +kernel)).store)
        [.request (.opamp (.message (.quiet 3 "") 1 {
          instanceUid := List.replicate 16 1 }))]).get (by decide +kernel)) :=
    (Option.some_get _).symm
  have hworks : ∀ e ∈ [Event.request (.opamp (.message (.quiet 3 "") 1 {
      instanceUid := List.replicate 16 1 }))], e.Works := by
    intro e he
    rw [List.mem_singleton.mp he]
    exact Env.quiet_faultFree 3 ""
  exact ⟨_, _, hreach, hrun, presence hreach hworks hrun⟩

end OtelHive.Api.Fleet
