import OtelHive.Lib.Lists
import OtelHive.Lib.Runs
import OtelHive.Opamp.Persist
import OtelHive.Proofs.Opamp.Groups

/-!
# `OtelHive.Proofs.Opamp.Persist`: one group for each name

`persistAgent` looks a group up by its name and creates it in two calls, and another handler can
create it between them. `OneGroup` is what the look-up is for: no name twice, and one group id for
all agents that report a name.

`call_alone` says that the calls of one handler, in a row, are `persistAgent`. `Advanced` lists the
calls with the database after each, and `Inv` is kept by all of them when an insert of a group
succeeds and finds no group with the name (`InsertsMissing`). `oneGroup_along` is the result over
runs.
-/

set_option autoImplicit false

namespace OtelHive.Opamp.Persist

open OtelHive.Lib
open OtelHive.Sqlite (Storage)

/-! ### One handler alone -/

/-- The next call of one handler, when no other handler makes a call. -/
def alone (p : Call × Storage) (_ : Unit) : Option (Call × Storage) := p.1.advance p.2

/-- The insert of the row is the last call. -/
theorem ends_insert (env : Env) (agent : Agent) (msg : AgentToServer) (store : Storage) :
    ∃ n, run alone (⟨env, agent, msg, .createAgent⟩, store) (List.replicate n ())
      = some (⟨env, agent, msg, .returned⟩,
          logged store (Services.createAgent env store (newServiceAgent env agent msg))) :=
  exists_run_replicate rfl ⟨0, rfl⟩

/-- The calls of a handler that looks its group up are those of `autoCreateGroup` and the insert. -/
theorem ends_getGroupByName (env : Env) (agent : Agent) (msg : AgentToServer) (store : Storage)
    {groupName : String} (hname : agent.groupName = some groupName) (hne : groupName ≠ "") :
    ∃ n, run alone (⟨env, agent, msg, .getGroupByName groupName⟩, store)
        (List.replicate n ())
      = some (⟨env, (autoCreateGroup env store agent).1, msg, .returned⟩,
          logged (autoCreateGroup env store agent).2 (Services.createAgent env
            (autoCreateGroup env store agent).2
            (newServiceAgent env (autoCreateGroup env store agent).1 msg))) := by
  rcases getGroupByName_cases env store groupName with ⟨_, group, _, _, hget⟩ | ⟨_, hget⟩
  · have hfound : (⟨env, agent, msg, .getGroupByName groupName⟩ : Call).advance store
        = some (⟨env, { agent with groupID := some group.id }, msg, .createAgent⟩, store) := by
      rw [Call.advance]
      dsimp only
      rw [hget]
    have hauto : autoCreateGroup env store agent
        = ({ agent with groupID := some group.id }, store) := by
      rw [autoCreateGroup, hname]
      dsimp only
      rw [if_neg hne, hget]
    rw [hauto]
    exact exists_run_replicate hfound (ends_insert env _ msg store)
  · have hmissing : (⟨env, agent, msg, .getGroupByName groupName⟩ : Call).advance store
        = some (⟨env, agent, msg, .createGroup groupName⟩, store) := by
      rw [Call.advance]
      dsimp only
      rcases hget with hget | ⟨err, hget⟩ <;> rw [hget]
    refine exists_run_replicate hmissing ?_
    rcases createGroup_cases env store (newGroup env groupName) with
      ⟨_, hcreate⟩ | ⟨_, err, hcreate⟩
    · have hauto : autoCreateGroup env store agent
          = ({ agent with groupID := some env.newUUID },
              { store with groups := store.groups ++ [newGroup env groupName] }) := by
        rw [newGroup] at hcreate
        rw [autoCreateGroup, hname]
        dsimp only
        rcases hget with hget | ⟨err, hget⟩ <;> rw [if_neg hne, hget, hcreate] <;> rfl
      have hcreated : (⟨env, agent, msg, .createGroup groupName⟩ : Call).advance store
          = some (⟨env, { agent with groupID := some env.newUUID }, msg, .createAgent⟩,
              { store with groups := store.groups ++ [newGroup env groupName] }) := by
        rw [Call.advance]
        dsimp only
        rw [hcreate]
        rfl
      rw [hauto]
      exact exists_run_replicate hcreated (ends_insert env _ msg _)
    · have hauto : autoCreateGroup env store agent = (agent, store) := by
        rw [newGroup] at hcreate
        rw [autoCreateGroup, hname]
        dsimp only
        rcases hget with hget | ⟨err, hget⟩ <;> rw [if_neg hne, hget, hcreate]
      have hrefused : (⟨env, agent, msg, .createGroup groupName⟩ : Call).advance store
          = some (⟨env, agent, msg, .createAgent⟩, store) := by
        rw [Call.advance]
        dsimp only
        rw [hcreate]
      rw [hauto]
      exact exists_run_replicate hrefused (ends_insert env _ msg store)

/-- The storage calls of a handler in a row, with no other handler between them, are
`persistAgent`. -/
theorem call_alone (env : Env) (agent : Agent) (msg : AgentToServer) (store : Storage) :
    ∃ n, run alone ({ env, agent, msg }, store) (List.replicate n ())
      = some (⟨env, (persistAgent env store agent msg).1, msg, .returned⟩,
          (persistAgent env store agent msg).2) := by
  rcases getAgent_cases env store agent.instanceId with ⟨row, _, _, hget⟩ | hget
  · have hread : ({ env, agent, msg } : Call).advance store
        = some (⟨env, agent, msg, .updateAgent⟩, store) := by
      rw [Call.advance]
      dsimp only
      rw [hget]
    rw [persistAgent_of_row hget]
    exact exists_run_replicate hread (exists_run_replicate rfl ⟨0, rfl⟩)
  · have hread : ({ env, agent, msg } : Call).advance store
        = some (({ env, agent, msg } : Call).findGroup, store) := by
      rw [Call.advance]
      dsimp only
      rcases hget with hget | ⟨err, hget⟩ <;> rw [hget]
    rw [persistAgent_of_noRow hget]
    refine exists_run_replicate hread ?_
    rw [Call.findGroup]
    cases hname : agent.groupName with
    | none =>
      rw [autoCreateGroup_of_unnamed env store (Or.inl hname)]
      exact ends_insert env agent msg store
    | some groupName =>
      dsimp only
      by_cases hempty : groupName = ""
      · rw [if_pos hempty, autoCreateGroup_of_unnamed env store (Or.inr (hempty ▸ hname))]
        exact ends_insert env agent msg store
      · rw [if_neg hempty]
        exact ends_getGroupByName env agent msg store hname hempty

/-! ### The steps of a handler -/

/-- A storage call of a handler: the call and the database after it. -/
inductive Advanced (call : Call) (store : Storage) : Call → Storage → Prop where
  | hasRow (row : Types.Agent) (hstage : call.stage = .getAgent) (hrow : row ∈ store.agents)
      (hid : row.id = call.agent.instanceId) :
      Advanced call store { call with stage := .updateAgent } store
  | unnamed (hstage : call.stage = .getAgent)
      (hname : ∀ groupName ∈ call.agent.groupName, groupName = "") :
      Advanced call store { call with stage := .createAgent } store
  | named (groupName : String) (hstage : call.stage = .getAgent)
      (hname : call.agent.groupName = some groupName) :
      Advanced call store { call with stage := .getGroupByName groupName } store
  | found (groupName : String) (group : Types.Group)
      (hstage : call.stage = .getGroupByName groupName) (hgroup : group ∈ store.groups)
      (hname : group.name = groupName) :
      Advanced call store
        { call with
          agent := { call.agent with groupID := some group.id }
          stage := .createAgent } store
  | missing (groupName : String) (hstage : call.stage = .getGroupByName groupName) :
      Advanced call store { call with stage := .createGroup groupName } store
  | created (groupName : String) (hstage : call.stage = .createGroup groupName) :
      Advanced call store
        { call with
          agent := { call.agent with groupID := some call.env.newUUID }
          stage := .createAgent }
        { store with groups := store.groups ++ [newGroup call.env groupName] }
  | refused (groupName : String) (hstage : call.stage = .createGroup groupName)
      (hfail : ¬ (call.env.faults .createGroup = none ∧
        ∀ group ∈ store.groups, group.id ≠ call.env.newUUID)) :
      Advanced call store { call with stage := .createAgent } store
  | inserted (row : Types.Agent) (hstage : call.stage = .createAgent)
      (hid : row.id = call.agent.instanceId) (hgroup : row.groupID = call.agent.groupID) :
      Advanced call store { call with stage := .returned }
        { store with agents := store.agents ++ [row] }
  | notInserted (hstage : call.stage = .createAgent) :
      Advanced call store { call with stage := .returned } store
  | updated (hstage : call.stage = .updateAgent) :
      Advanced call store { call with stage := .returned }
        (updateServiceAgent call.env store call.agent call.msg)

/-- Without a row, the group name decides what comes next. -/
theorem findGroup_advanced {call : Call} {store : Storage} (hstage : call.stage = .getAgent) :
    Advanced call store call.findGroup store := by
  rw [Call.findGroup]
  cases hname : call.agent.groupName with
  | none => exact .unnamed hstage (by simp [hname])
  | some groupName =>
    dsimp only
    by_cases hempty : groupName = ""
    · rw [if_pos hempty]
      exact .unnamed hstage (by simp [hname, hempty])
    · rw [if_neg hempty]
      exact .named groupName hstage hname

/-- A storage call is one of those listed. -/
theorem advance_inv {call call' : Call} {store store' : Storage}
    (h : call.advance store = some (call', store')) : Advanced call store call' store' := by
  rw [Call.advance] at h
  cases hstage : call.stage with
  | getAgent =>
    rw [hstage] at h
    dsimp only at h
    rcases getAgent_cases call.env store call.agent.instanceId with
      ⟨row, hrow, hid, hget⟩ | hget
    · rw [hget] at h
      cases h
      exact .hasRow row hstage hrow hid
    · have hnext : some (call.findGroup, store) = some (call', store') := by
        rcases hget with hget | ⟨err, hget⟩
        · rw [hget] at h
          exact h
        · rw [hget] at h
          exact h
      cases hnext
      exact findGroup_advanced hstage
  | getGroupByName groupName =>
    rw [hstage] at h
    dsimp only at h
    rcases getGroupByName_cases call.env store groupName with
      ⟨_, group, hgroup, hname, hget⟩ | ⟨_, hget⟩
    · rw [hget] at h
      cases h
      exact .found groupName group hstage hgroup hname
    · rcases hget with hget | ⟨err, hget⟩
      · rw [hget] at h
        cases h
        exact .missing groupName hstage
      · rw [hget] at h
        cases h
        exact .missing groupName hstage
  | createGroup groupName =>
    rw [hstage] at h
    dsimp only at h
    rcases createGroup_cases call.env store (newGroup call.env groupName) with
      ⟨_, hcreate⟩ | ⟨hfail, err, hcreate⟩
    · rw [hcreate] at h
      cases h
      exact .created groupName hstage
    · rw [hcreate] at h
      cases h
      exact .refused groupName hstage hfail
  | createAgent =>
    rw [hstage] at h
    dsimp only at h
    rcases createAgent_cases call.env store (newServiceAgent call.env call.agent call.msg) with
      ⟨_, hcreate⟩ | ⟨_, err, hcreate⟩
    · rw [hcreate] at h
      cases h
      exact .inserted _ hstage rfl rfl
    · rw [hcreate] at h
      cases h
      exact .notInserted hstage
  | updateAgent =>
    rw [hstage] at h
    cases h
    exact .updated hstage
  | returned =>
    rw [hstage] at h
    cases h

/-! ### One group for each name -/

/-- The agent of the call reports the group name. -/
def Call.Reports (call : Call) (groupName : String) : Prop :=
  ∃ desc ∈ call.msg.agentDescription, (extractGroupInfo desc).2 = groupName

/-- An agent that reported the group name is stored with the group id. -/
def StoredWith (sys : System) (groupName : String) (groupID : Option String) : Prop :=
  ∃ call ∈ sys.calls, call.Reports groupName ∧
    ∃ row ∈ sys.store.agents, UUID.ofSlice call.msg.instanceUid = .ok row.id ∧
      row.groupID = groupID

instance (sys : System) (groupName : String) (groupID : Option String) :
    Decidable (StoredWith sys groupName groupID) :=
  inferInstanceAs (Decidable (∃ call ∈ sys.calls,
    (∃ desc ∈ call.msg.agentDescription, (extractGroupInfo desc).2 = groupName) ∧
      ∃ row ∈ sys.store.agents, UUID.ofSlice call.msg.instanceUid = .ok row.id ∧
        row.groupID = groupID))

/-- No two groups have one name, and the agents that reported a group name are stored with one
group id. -/
structure OneGroup (sys : System) : Prop where
  names : (sys.store.groups.map (·.name)).Nodup
  sameGroup : ∀ groupName, groupName ≠ "" → ∀ groupID groupID',
    StoredWith sys groupName groupID → StoredWith sys groupName groupID' → groupID = groupID'

/-- The name of the group that the next call inserts. -/
def Stage.inserts : Stage → Option String
  | .createGroup groupName => some groupName
  | _ => none

/-- The agent is new: it is not registered, and it has no row. -/
def NewAgent (sys : System) (instanceId : UUID) : Prop :=
  sys.agents.findAgent instanceId = none ∧ ∀ row ∈ sys.store.agents, row.id ≠ instanceId

instance (sys : System) (instanceId : UUID) : Decidable (NewAgent sys instanceId) :=
  inferInstanceAs (Decidable (_ ∧ _))

/-- The messages are of new agents. -/
def New (sys : System) : Event → Prop
  | .message _ _ msg =>
    match UUID.ofSlice msg.instanceUid with
    | .ok instanceId => NewAgent sys instanceId
    | .error _ => True
  | .advance _ => True

instance (sys : System) (e : Event) : Decidable (New sys e) :=
  match e with
  | .message _ _ msg =>
    match h : UUID.ofSlice msg.instanceUid with
    | .ok instanceId => decidable_of_iff (NewAgent sys instanceId) (by simp only [New, h])
    | .error _ => .isTrue (by simp only [New, h])
  | .advance _ => .isTrue trivial

/-- The insert of a group succeeds, and no group has the name yet. -/
def GroupMissing (env : Env) (store : Storage) (groupName : String) : Prop :=
  (∀ group ∈ store.groups, group.name ≠ groupName) ∧
    env.faults .createGroup = none ∧ ∀ group ∈ store.groups, group.id ≠ env.newUUID

instance (env : Env) (store : Storage) (groupName : String) :
    Decidable (GroupMissing env store groupName) :=
  inferInstanceAs (Decidable (_ ∧ _ ∧ _))

/-- If the next call inserts a group, then the group is missing. -/
def Call.InsertsMissing (call : Call) (store : Storage) : Prop :=
  ∀ groupName ∈ call.stage.inserts, GroupMissing call.env store groupName

/-- A call that inserts a group succeeds, and no group has the name yet. -/
def InsertsMissing (sys : System) : Event → Prop
  | .message _ _ _ => True
  | .advance i => ∀ call ∈ sys.calls[i]?, call.InsertsMissing sys.store

instance (sys : System) (e : Event) : Decidable (InsertsMissing sys e) :=
  match e with
  | .message _ _ _ => .isTrue trivial
  | .advance i => inferInstanceAs (Decidable (∀ call ∈ sys.calls[i]?,
      ∀ groupName ∈ call.stage.inserts, GroupMissing call.env sys.store groupName))

/-! ### The invariant -/

/-- What a handler knows of its group at each stage. -/
def Stage.Knows (store : Storage) (agent : Agent) : Stage → Prop
  | .getAgent => True
  | .getGroupByName groupName => agent.groupName = some groupName
  | .createGroup groupName => agent.groupName = some groupName
  | .createAgent | .returned => ∀ groupName ∈ agent.groupName, groupName ≠ "" →
      ∃ group ∈ store.groups, group.name = groupName ∧ agent.groupID = some group.id
  -- A new agent has no row.
  | .updateAgent => False

/-- A handler, with the database.

* `id`, `name`: the agent is that of the message, with the group name that it reports.
* `knows`: the group at the stage.
* `row`: the row of the agent is there at the end only, and it has the group of the agent. -/
structure CallInv (store : Storage) (call : Call) : Prop where
  id : UUID.ofSlice call.msg.instanceUid = .ok call.agent.instanceId
  name : ∀ groupName, call.Reports groupName → call.agent.groupName = some groupName
  knows : call.stage.Knows store call.agent
  row : ∀ row ∈ store.agents, row.id = call.agent.instanceId →
    call.stage = .returned ∧ row.groupID = call.agent.groupID

/-- The system.

* `names`: no two groups have one name.
* `calls`: each handler.
* `distinct`, `registered`: the agents of the handlers are different, and registered. -/
structure Inv (sys : System) : Prop where
  names : (sys.store.groups.map (·.name)).Nodup
  calls : ∀ call ∈ sys.calls, CallInv sys.store call
  distinct : (sys.calls.map (·.agent.instanceId)).Nodup
  registered : ∀ call ∈ sys.calls, (sys.agents.findAgent call.agent.instanceId).isSome

/-- The agents that reported a group name are stored with the id of the group of that name. -/
theorem Inv.oneGroup {sys : System} (h : Inv sys) : OneGroup sys := by
  refine ⟨h.names, ?_⟩
  -- A stored agent has the id of the group with its name.
  have hgroup : ∀ groupName, groupName ≠ "" → ∀ groupID, StoredWith sys groupName groupID →
      ∃ group ∈ sys.store.groups, group.name = groupName ∧ groupID = some group.id := by
    rintro groupName hne groupID ⟨call, hcall, hreports, row, hrow, hid, rfl⟩
    have hinv := h.calls call hcall
    have hsame : row.id = call.agent.instanceId := Except.ok.inj (hid.symm.trans hinv.id)
    obtain ⟨hstage, hrowGroup⟩ := hinv.row row hrow hsame
    have hknows := hinv.knows
    rw [hstage] at hknows
    rw [hrowGroup]
    exact hknows groupName (hinv.name groupName hreports) hne
  intro groupName hne groupID groupID' hstored hstored'
  obtain ⟨group, hmem, hname, rfl⟩ := hgroup groupName hne groupID hstored
  obtain ⟨group', hmem', hname', rfl⟩ := hgroup groupName hne groupID' hstored'
  rw [List.inj_on_of_nodup_map h.names hmem hmem' (hname.trans hname'.symm)]

/-- A handler after a call of another one: groups are there as before, and a new row is of another
agent. -/
theorem CallInv.frame {store store' : Storage} {call : Call} (h : CallInv store call)
    (hgroups : ∀ group ∈ store.groups, group ∈ store'.groups)
    (hrows : ∀ row ∈ store'.agents, row.id = call.agent.instanceId → row ∈ store.agents) :
    CallInv store' call := by
  refine ⟨h.id, h.name, ?_, ?_⟩
  · have hknows := h.knows
    cases hstage : call.stage with
    | createAgent | returned =>
      rw [hstage] at hknows
      intro groupName hname hne
      obtain ⟨group, hgroup, hfound⟩ := hknows groupName hname hne
      exact ⟨group, hgroups group hgroup, hfound⟩
    | getAgent | getGroupByName | createGroup | updateAgent =>
      rw [hstage] at hknows
      exact hknows
  · intro row hrow hid
    exact h.row row (hrows row hrow hid) hid

/-- A handler after its own call, which leaves the rows alone. -/
theorem CallInv.next {store store' : Storage} {call call' : Call} (h : CallInv store call)
    (hagents : store'.agents = store.agents) (hmsg : call'.msg = call.msg)
    (hagent : ∃ groupID, call'.agent = { call.agent with groupID })
    (hearly : call.stage ≠ .returned) (hknows : call'.stage.Knows store' call'.agent) :
    CallInv store' call' := by
  obtain ⟨groupID, hagent⟩ := hagent
  refine ⟨?_, ?_, hknows, ?_⟩
  · rw [hmsg, hagent]
    exact h.id
  · intro groupName hreports
    rw [hagent]
    refine h.name groupName ?_
    rw [Call.Reports, ← hmsg]
    exact hreports
  · intro row hrow hid
    rw [hagents] at hrow
    rw [hagent] at hid
    exact absurd (h.row row hrow hid).1 hearly

/-- What the others may rely on when a handler has made a call: its agent is the same, groups stay,
names stay distinct, and a new row is of its agent. -/
structure Guarantee (store store' : Storage) (call call' : Call) : Prop where
  names : (store'.groups.map (·.name)).Nodup
  agent : call'.agent.instanceId = call.agent.instanceId
  groups : ∀ group ∈ store.groups, group ∈ store'.groups
  rows : ∀ row ∈ store'.agents, row ∈ store.agents ∨ row.id = call.agent.instanceId

/-- One call of a handler whose insert of a group succeeds and finds no group with the name. -/
theorem CallInv.advance {store store' : Storage} {call call' : Call} (h : CallInv store call)
    (hnames : (store.groups.map (·.name)).Nodup)
    (hinsert : call.InsertsMissing store)
    (hadvanced : Advanced call store call' store') :
    CallInv store' call' ∧ Guarantee store store' call call' := by
  have hknows := h.knows
  -- The calls that leave the database as it is.
  have hsame : ∀ {call' : Call}, call'.agent.instanceId = call.agent.instanceId →
      Guarantee store store call call' :=
    fun hagent => ⟨hnames, hagent, fun _ hg => hg, fun _ hr => Or.inl hr⟩
  cases hadvanced with
  | hasRow row hstage hrow hid =>
    have hreturned := (h.row row hrow hid).1
    rw [hstage] at hreturned
    cases hreturned
  | unnamed hstage hname =>
    refine ⟨h.next rfl rfl ⟨_, rfl⟩ (by simp [hstage]) ?_, hsame rfl⟩
    intro groupName hmem hne
    exact absurd (hname groupName hmem) hne
  | named groupName hstage hname =>
    exact ⟨h.next rfl rfl ⟨_, rfl⟩ (by simp [hstage]) hname, hsame rfl⟩
  | found groupName group hstage hgroup hname =>
    rw [hstage] at hknows
    refine ⟨h.next rfl rfl ⟨_, rfl⟩ (by simp [hstage]) ?_, hsame rfl⟩
    intro groupName' hmem _
    have heq : groupName' = groupName := Option.some.inj (hmem.symm.trans hknows)
    exact ⟨group, hgroup, hname.trans heq.symm, rfl⟩
  | missing groupName hstage =>
    rw [hstage] at hknows
    exact ⟨h.next rfl rfl ⟨_, rfl⟩ (by simp [hstage]) hknows, hsame rfl⟩
  | created groupName hstage =>
    rw [hstage] at hknows
    obtain ⟨hmissing, _, _⟩ := hinsert groupName (by rw [hstage]; rfl)
    refine ⟨h.next rfl rfl ⟨_, rfl⟩ (by simp [hstage]) ?_, ?_, rfl, ?_, fun _ hr => Or.inl hr⟩
    · intro groupName' hmem _
      have heq : groupName' = groupName := Option.some.inj (hmem.symm.trans hknows)
      exact ⟨newGroup call.env groupName, List.mem_append_right _ List.mem_cons_self, heq.symm, rfl⟩
    · exact nodup_concat_key hnames (not_any_key_iff.mpr hmissing)
    · intro group hgroup
      exact List.mem_append_left _ hgroup
  | refused groupName hstage hfail =>
    exact absurd (hinsert groupName (by rw [hstage]; rfl)).2 hfail
  | inserted row hstage hid hgroup =>
    rw [hstage] at hknows
    refine ⟨⟨h.id, h.name, hknows, ?_⟩, hnames, rfl, fun _ hg => hg, ?_⟩
    · intro stored hstored hsameId
      rcases List.mem_append.mp hstored with hold | hnew
      · have hreturned := (h.row stored hold hsameId).1
        rw [hstage] at hreturned
        cases hreturned
      · rw [List.mem_singleton.mp hnew]
        exact ⟨rfl, hgroup⟩
    · intro stored hstored
      rcases List.mem_append.mp hstored with hold | hnew
      · exact Or.inl hold
      · rw [List.mem_singleton.mp hnew]
        exact Or.inr hid
  | notInserted hstage =>
    rw [hstage] at hknows
    exact ⟨h.next rfl rfl ⟨_, rfl⟩ (by simp [hstage]) hknows, hsame rfl⟩
  | updated hstage =>
    rw [hstage] at hknows
    exact absurd hknows not_false

/-! ### Steps and runs -/

/-- The handler `i` makes a call. -/
theorem Inv.advance {sys sys' : System} {i : Nat} (h : Inv sys)
    (hinsert : InsertsMissing sys (.advance i)) (hstep : sys.advance i = some sys') : Inv sys' := by
  rw [System.advance] at hstep
  obtain ⟨call, hcall, hstep⟩ := Option.bind_eq_some_iff.mp hstep
  obtain ⟨⟨call', store'⟩, hadvance, hstep⟩ := Option.bind_eq_some_iff.mp hstep
  cases hstep
  have hmem : call ∈ sys.calls := List.mem_of_getElem? hcall
  obtain ⟨hown, hguarantee⟩ := (h.calls call hmem).advance h.names (hinsert call hcall)
    (advance_inv hadvance)
  have hids : (sys.calls.set i call').map (·.agent.instanceId)
      = sys.calls.map (·.agent.instanceId) := by
    refine List.ext_getElem? ?_
    intro j
    rw [List.map_set, List.getElem?_set, List.getElem?_map, List.length_map]
    split
    · rename_i heq
      rw [← heq, if_pos (lt_length_of_getElem? hcall), hcall, hguarantee.agent]
      rfl
    · rfl
  refine ⟨hguarantee.names, ?_, ?_, ?_⟩
  · intro other hother
    rcases (mem_set_iff hcall).mp hother with rfl | hother
    · exact hown
    · have hne : other.agent.instanceId ≠ call.agent.instanceId := by
        obtain ⟨j, hne, hj⟩ := List.mem_eraseIdx_iff_getElem?.mp hother
        intro heq
        have hlt : j < (sys.calls.map (·.agent.instanceId)).length := by
          rw [List.length_map]
          exact lt_length_of_getElem? hj
        refine hne ((List.getElem?_inj hlt h.distinct).mp ?_)
        rw [List.getElem?_map, List.getElem?_map, hj, hcall, Option.map_some, heq]
        rfl
      refine (h.calls other (List.mem_of_mem_eraseIdx hother)).frame hguarantee.groups ?_
      intro row hrow hid
      rcases hguarantee.rows row hrow with hold | hnew
      · exact hold
      · exact absurd (hid.symm.trans hnew) hne
  · rw [hids]
    exact h.distinct
  · intro other hother
    -- A call has changed no agent id.
    obtain ⟨old, hold, hsame⟩ :
        ∃ old ∈ sys.calls, old.agent.instanceId = other.agent.instanceId := by
      rcases (mem_set_iff hcall).mp hother with rfl | hother
      · exact ⟨call, hmem, hguarantee.agent.symm⟩
      · exact ⟨other, List.mem_of_mem_eraseIdx hother, rfl⟩
    rw [← hsame, Agents.findAgent_update]
    split
    · rw [Option.isSome_map]
      exact h.registered old hold
    · exact h.registered old hold

/-- The message of a new agent. -/
theorem Inv.message {sys sys' : System} {env : Env} {conn : Conn} {msg : AgentToServer}
    (h : Inv sys) (hnew : New sys (.message env conn msg))
    (hstep : sys.onMessage env conn msg = some sys') : Inv sys' := by
  rw [System.onMessage] at hstep
  cases hid : UUID.ofSlice msg.instanceUid with
  | error err =>
    rw [hid] at hstep
    cases hstep
  | ok instanceId =>
    simp only [New, hid] at hnew
    obtain ⟨hunknown, hnoRow⟩ := hnew
    rw [hid] at hstep
    dsimp only at hstep
    rw [Agents.findOrCreateAgent_snd_of_none hunknown] at hstep
    cases hupdate : ((newAgent instanceId conn).processAgentGrouping env sys.store msg).updateStatus
        env.x509 msg {} with
    | error err =>
      rw [hupdate] at hstep
      cases hstep
    | ok result =>
      obtain ⟨agent, response, watchers⟩ := result
      rw [hupdate] at hstep
      cases hstep
      obtain ⟨⟨startedAt, effectiveConfig, hagent⟩, _, _⟩ := Agent.updateStatus_ok hupdate
      obtain ⟨groupID, groupName, custom, remote, hframe⟩ :=
        Agent.processAgentGrouping_frame env sys.store (newAgent instanceId conn) msg
      have hinstance : agent.instanceId = instanceId := by
        rw [hagent, hframe]
        rfl
      have hname := (Agent.processAgentGrouping_group env sys.store (newAgent instanceId conn)
        msg).2
      have hfresh : ∀ call ∈ sys.calls, call.agent.instanceId ≠ instanceId := by
        intro call hcall heq
        have hsome := h.registered call hcall
        rw [heq, hunknown] at hsome
        cases hsome
      refine ⟨h.names, ?_, ?_, ?_⟩
      · intro call hcall
        rcases List.mem_append.mp hcall with hold | hlast
        · exact h.calls call hold
        · rw [List.mem_singleton.mp hlast]
          refine ⟨?_, ?_, trivial, ?_⟩
          · rw [hid]
            exact congrArg Except.ok hinstance.symm
          · rintro name ⟨desc, hdesc, rfl⟩
            rw [hagent]
            show ((newAgent instanceId conn).processAgentGrouping env sys.store msg).groupName = _
            rw [hname, hdesc]
          · intro row hrow hsame
            exact absurd (hsame.trans hinstance) (hnoRow row hrow)
      · rw [List.map_append, List.map_singleton, List.nodup_append]
        refine ⟨h.distinct, List.nodup_singleton _, ?_⟩
        intro id hid' id' hid'' heq
        obtain ⟨call, hcall, rfl⟩ := List.mem_map.mp hid'
        rw [List.mem_singleton.mp hid''] at heq
        exact hfresh call hcall (heq.trans hinstance)
      · intro call hcall
        rw [Agents.findAgent_update, Agents.findAgent_findOrCreateAgent]
        rcases List.mem_append.mp hcall with hold | hlast
        · rw [if_neg (hfresh call hold), if_neg (hfresh call hold)]
          exact h.registered call hold
        · rw [List.mem_singleton.mp hlast]
          simp [hinstance]

/-- The handlers of new agents, from any point where none runs and no two groups have one name. In
every state of a run in which each insert of a group succeeds and finds no group with its name, no
two groups have one name, and the agents that reported a group name are stored with one group id. -/
theorem oneGroup_along (agents : Agents) (store : Storage)
    (hnames : (store.groups.map (·.name)).Nodup) (es : List Event)
    (hnew : StepsMeet System.step New ⟨agents, store, []⟩ es)
    (hinsert : StepsMeet System.step InsertsMissing ⟨agents, store, []⟩ es) :
    Along System.step OneGroup ⟨agents, store, []⟩ es := by
  refine along_of_stepsMeet (I := Inv) (fun _ h => h.oneGroup) ?_ ?_ (hnew.and hinsert)
  · intro sys e sys' h hmeet hstep
    cases e with
    | message env conn msg => exact h.message hmeet.1 hstep
    | advance i => exact h.advance hmeet.2 hstep
  · refine ⟨hnames, ?_, List.nodup_nil, ?_⟩
    · intro call hcall
      cases hcall
    · intro call hcall
      cases hcall

/-- The condition on the name is needed: an insert that succeeds when a group has the name leaves
two groups with it. -/
theorem not_oneGroup_of_insert {sys sys' : System} {i : Nat} {call : Call} {groupName : String}
    (hcall : sys.calls[i]? = some call) (hstage : call.stage = .createGroup groupName)
    (hworks : call.env.faults .createGroup = none ∧
      ∀ group ∈ sys.store.groups, group.id ≠ call.env.newUUID)
    (hexists : ∃ group ∈ sys.store.groups, group.name = groupName)
    (hstep : sys.advance i = some sys') : ¬ OneGroup sys' := by
  rw [System.advance] at hstep
  obtain ⟨call₀, hcall₀, hstep⟩ := Option.bind_eq_some_iff.mp hstep
  cases hcall.symm.trans hcall₀
  obtain ⟨⟨call', store'⟩, hadvance, hstep⟩ := Option.bind_eq_some_iff.mp hstep
  cases hstep
  rw [Call.advance, hstage] at hadvance
  dsimp only at hadvance
  rcases createGroup_cases call.env sys.store (newGroup call.env groupName) with
    ⟨_, hcreate⟩ | ⟨hfail, _⟩
  · rw [hcreate] at hadvance
    cases hadvance
    intro hone
    obtain ⟨group, hgroup, hname⟩ := hexists
    have hnodup : ((sys.store.groups ++ [newGroup call.env groupName]).map
        fun group : Types.Group => group.name).Nodup := hone.names
    rw [List.map_append, List.nodup_append] at hnodup
    exact hnodup.2.2 _ (List.mem_map_of_mem hgroup) _ (List.mem_singleton.mpr rfl) hname
  · exact absurd hworks hfail

/-! ### Two agents of a new group -/

/-- The report of an agent of the group `prod`. -/
def prodReport (uid : UUID) : AgentToServer where
  instanceUid := uid.bytes
  agentDescription := some ⟨[⟨"group.name", some (.stringValue "prod")⟩], []⟩

/-- The id of a second agent. -/
def second : UUID := ⟨List.replicate 16 1, by decide⟩

/-- Two agents of a new group connect. -/
def twoMessages : List Event :=
  [.message (.quiet 0 "g-1") 1 (prodReport .nil), .message (.quiet 1 "g-2") 2 (prodReport second)]

/-- One handler after the other. -/
theorem oneGroup_along_in_turn :
    Along System.step OneGroup ⟨newAgents, .empty, []⟩
      (twoMessages ++ [.advance 0, .advance 0, .advance 0, .advance 0, .advance 1, .advance 1,
        .advance 1]) :=
  oneGroup_along newAgents .empty (by decide) _ (by decide +kernel) (by decide +kernel)

/-- Both handlers look the group up before either creates it. -/
def race : List Event :=
  twoMessages ++ [.advance 0, .advance 0, .advance 1, .advance 1, .advance 0, .advance 1,
    .advance 0, .advance 1]

/-- Then there are two groups with the name, and the agents are in different ones. -/
theorem two_groups_with_one_name :
    ∃ sys, run System.step ⟨newAgents, .empty, []⟩ race = some sys ∧
      ¬ (sys.store.groups.map (·.name)).Nodup ∧
      StoredWith sys "prod" (some "g-1") ∧ StoredWith sys "prod" (some "g-2") := by
  have hend : ((run System.step ⟨newAgents, .empty, []⟩ race).any fun sys =>
      ¬ (sys.store.groups.map (·.name)).Nodup ∧
        StoredWith sys "prod" (some "g-1") ∧ StoredWith sys "prod" (some "g-2")) = true := by
    decide +kernel
  cases hrun : run System.step ⟨newAgents, .empty, []⟩ race with
  | none =>
    rw [hrun] at hend
    cases hend
  | some sys =>
    rw [hrun] at hend
    exact ⟨sys, rfl, of_decide_eq_true hend⟩

end OtelHive.Opamp.Persist
