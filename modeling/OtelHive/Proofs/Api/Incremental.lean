import OtelHive.Proofs.Api.Fallback

/-!
# `OtelHive.Proofs.Api.Incremental`: the incremental sync against the full sync

An unforced sync pushes the files that changed since they were synced, and a forced sync
pushes all files. `FullSyncChangesNothing` says that a forced sync of the last snapshot would
leave every agent as it is. This is `InSync`: each agent that accepts remote config has the
content of the last matching file of the listing.

An edit of a file that another matching file follows breaks it, because the unforced sync then
pushes the edited file last. So does a file that is removed, or one that no longer matches as
the last one, because no file changed that the unforced sync would push instead.
`fullSync_along_iff` gives the condition on each sync of a run.
-/

set_option autoImplicit false

namespace OtelHive.Api

open OtelHive.Lib
open OtelHive.Opamp
open OtelHive.Gitsync

/-- An unforced sync of a snapshot in which the calls succeed. A repository has each path
once. -/
structure Poll where
  env : Env
  acked : ChanId → Bool
  snap : Snapshot
  faultFree : env.FaultFree
  nodup : (snap.entries.map (·.path)).Nodup

/-- The process and the git store between two syncs, and the snapshot of the last one. -/
structure History where
  process : State
  store : Gitsync.Store
  last : Option Snapshot := none

namespace History

/-- One poll of the source. -/
def poll (sourceID : String) (h : History) (p : Poll) : Option History :=
  let (process, store) :=
    doSync (gitService p.env p.acked p.snap.remote) sourceID h.process h.store
  some { process, store, last := some p.snap }

/-- A forced sync of the last snapshot leaves every agent with the server-side config it has. -/
def FullSyncChangesNothing (sourceID : String) (h : History) : Prop :=
  ∀ snap env acked outcome, h.last = some snap → env.FaultFree →
    triggerSync (gitService env acked snap.remote) sourceID h.process h.store = .ok outcome →
    ∀ id agent, h.process.sender.agents.findAgent id = some agent →
      ∃ agent', outcome.world.sender.agents.findAgent id = some agent' ∧
        agent'.serverConfig = agent.serverConfig

/-- The source exists and is valid. -/
def HasValidSource (sourceID : String) (h : History) : Prop :=
  ∃ gs, h.store.get sourceID = .ok gs ∧ gs.Valid

/-- The content of the file that the last snapshot lists last of those that match the agent. -/
def previousContent (gs : GitSource) (h : History) (id : UUID) : Option Bytes :=
  h.last.bind fun prev =>
    prev.finalContent (prev.rules gs) h.process.store.listAgents id

/-- The condition on a sync, for each agent that accepts remote config and matches a file.
`content` is that of the matching file that is listed last. If matching files are due, the one
listed last has this content. Otherwise the last matching file of the previous snapshot had it,
or, when no file matched then, the agent already has it. -/
def KeepsUp (sourceID : String) (h : History) (p : Poll) : Prop :=
  ∀ gs id agent content, h.store.get sourceID = .ok gs →
    h.process.sender.agents.findAgent id = some agent → agent.accepts = true →
    p.snap.finalContent (p.snap.rules gs) h.process.store.listAgents id = some content →
    match p.snap.dueContent gs h.store h.process.store.listAgents id, h.previousContent gs id with
    | some due, _ => due = content
    | none, some before => before = content
    | none, none => agent.serverConfig = serverConfigOf content

end History

/-- Each agent that accepts remote config has the content of the last matching file. -/
def InSync (snap : Snapshot) (gs : GitSource) (s : State) : Prop :=
  ∀ id agent content, s.sender.agents.findAgent id = some agent → agent.accepts = true →
    snap.finalContent (snap.rules gs) s.store.listAgents id = some content →
    agent.serverConfig = serverConfigOf content

/-- A forced sync of a snapshot changes nothing exactly when the agents are in sync with it. -/
theorem forcedSync_changes_nothing_iff {env : Env} (acked : ChanId → Bool) {gs : GitSource}
    (store : Gitsync.Store) (hvalid : gs.Valid) (hfree : env.FaultFree) (snap : Snapshot)
    (s : State) :
    (∀ id agent, s.sender.agents.findAgent id = some agent →
      ∃ agent', (runSync (gitService env acked snap.remote) gs true s
          store).world.sender.agents.findAgent id = some agent' ∧
        agent'.serverConfig = agent.serverConfig) ↔ InSync snap gs s := by
  -- After the sync an agent has the content of the last rule that matches its row.
  have hagent : ∀ id agent, s.sender.agents.findAgent id = some agent →
      ∃ agent', (runSync (gitService env acked snap.remote) gs true s
          store).world.sender.agents.findAgent id = some agent' ∧
        agent'.accepts = agent.accepts ∧
        agent'.serverConfig
          = configAfter agent (snap.finalContent (snap.rules gs) s.store.listAgents id) := by
    intro id agent hfind
    exact State.findAgent_of_view_eq (view_forcedSync acked store hvalid hfree snap s id) hfind
  constructor
  · intro hsame id agent content hfind haccepts hcontent
    obtain ⟨agent', hfind', hconfig⟩ := hsame id agent hfind
    obtain ⟨agent'', hfind'', _, hconfig''⟩ := hagent id agent hfind
    rw [hfind'] at hfind''
    cases hfind''
    rw [hcontent, configAfter_some haccepts] at hconfig''
    rw [← hconfig, hconfig'']
  · intro hsync id agent hfind
    obtain ⟨agent', hfind', _, hconfig⟩ := hagent id agent hfind
    refine ⟨agent', hfind', hconfig.trans ?_⟩
    cases hcontent : snap.finalContent (snap.rules gs) s.store.listAgents id with
    | none => rfl
    | some content =>
      dsimp only [configAfter]
      split
      · rename_i haccepts
        exact (hsync id agent content hfind haccepts hcontent).symm
      · rfl

namespace History

variable {sourceID : String} {h : History} {gs : GitSource}

/-- A poll of a source that exists. -/
theorem poll_of_get (hget : h.store.get sourceID = .ok gs) (p : Poll) :
    h.poll sourceID p = some {
      process := (runSync (gitService p.env p.acked p.snap.remote) gs false h.process
        h.store).world
      store := (runSync (gitService p.env p.acked p.snap.remote) gs false h.process
        h.store).store
      last := some p.snap } := by
  unfold poll doSync
  rw [hget]

/-- `FullSyncChangesNothing` for a source that exists. -/
theorem fullSyncChangesNothing_iff (hget : h.store.get sourceID = .ok gs) (hvalid : gs.Valid) :
    FullSyncChangesNothing sourceID h ↔ ∀ snap, h.last = some snap → InSync snap gs h.process := by
  have htrigger : ∀ (env : Env) (acked : ChanId → Bool) (snap : Snapshot),
      triggerSync (gitService env acked snap.remote) sourceID h.process h.store
        = .ok (runSync (gitService env acked snap.remote) gs true h.process h.store) := by
    intro env acked snap
    unfold triggerSync
    rw [hget]
  constructor
  · intro hfull snap hlast
    have hfree := Env.quiet_faultFree 0 ""
    exact (forcedSync_changes_nothing_iff (fun _ => true) h.store hvalid hfree snap
      h.process).mp (hfull snap _ _ _ hlast hfree (htrigger _ _ snap))
  · intro hsync snap env acked outcome hlast hfree hok
    rw [htrigger] at hok
    cases hok
    exact (forcedSync_changes_nothing_iff acked h.store hvalid hfree snap h.process).mpr
      (hsync snap hlast)

/-- A poll keeps the source, up to its sync state. -/
theorem get_of_poll {h' : History} {p : Poll} (hget : h.store.get sourceID = .ok gs)
    (hpoll : h.poll sourceID p = some h') :
    ∃ gs', h'.store.get sourceID = .ok gs' ∧ gs.SameSource gs' := by
  rw [poll_of_get hget] at hpoll
  cases hpoll
  exact get_runSync hget _ _ _

/-- The agents after a poll. -/
theorem findAgent_of_poll {h' : History} {p : Poll} (hget : h.store.get sourceID = .ok gs)
    (hvalid : gs.Valid) (hpoll : h.poll sourceID p = some h') (id : UUID) :
    h'.process.view id
      = writeOption writeConfig
          (p.snap.dueContent gs h.store h.process.store.listAgents id) (h.process.view id) := by
  rw [poll_of_get hget] at hpoll
  cases hpoll
  exact view_unforcedSync hvalid p.faultFree p.nodup h.process id

/-- A poll of agents that are in sync with the last snapshot leads to agents in sync with the
polled one exactly when it keeps up. -/
theorem fullSyncChangesNothing_poll_iff {h' : History} {p : Poll}
    (hsource : HasValidSource sourceID h) (hbefore : FullSyncChangesNothing sourceID h)
    (hpoll : h.poll sourceID p = some h') :
    FullSyncChangesNothing sourceID h' ↔ KeepsUp sourceID h p := by
  obtain ⟨gs, hget, hvalid⟩ := hsource
  obtain ⟨gs', hget', hsame⟩ := get_of_poll hget hpoll
  have hview := findAgent_of_poll hget hvalid hpoll
  obtain ⟨_, _, _, rfl⟩ := hsame
  have hprocess : h'.process.store = h.process.store ∧ h'.last = some p.snap := by
    rw [poll_of_get hget] at hpoll
    cases hpoll
    exact ⟨store_runSync _ _ _, rfl⟩
  rw [fullSyncChangesNothing_iff hget hvalid] at hbefore
  rw [fullSyncChangesNothing_iff hget' hvalid, hprocess.2]
  -- What the agents have before the poll, if a file of the last snapshot matches them.
  have hprevious : ∀ id agent before, h.process.sender.agents.findAgent id = some agent →
      agent.accepts = true → h.previousContent gs id = some before →
      agent.serverConfig = serverConfigOf before := by
    intro id agent before hfind haccepts hcontent
    obtain ⟨prev, hlast, hcontent⟩ := Option.bind_eq_some_iff.mp hcontent
    exact hbefore prev hlast id agent before hfind haccepts hcontent
  -- The condition says that the agent has the content after the poll.
  have hcond : ∀ (id : UUID) (agent agent' : Agent) (content : Bytes),
      h.process.sender.agents.findAgent id = some agent → agent.accepts = true →
      agent'.serverConfig = configAfter agent
        (p.snap.dueContent gs h.store h.process.store.listAgents id) →
      ((match p.snap.dueContent gs h.store h.process.store.listAgents id,
          h.previousContent gs id with
        | some due, _ => due = content
        | none, some before => before = content
        | none, none => agent.serverConfig = serverConfigOf content) ↔
        agent'.serverConfig = serverConfigOf content) := by
    intro id agent agent' content hfind haccepts hconfig
    rw [hconfig]
    cases hdue : p.snap.dueContent gs h.store h.process.store.listAgents id with
    | some due =>
      rw [configAfter_some haccepts, serverConfigOf_inj]
    | none =>
      cases hbefore' : h.previousContent gs id with
      | none => rfl
      | some before =>
        dsimp only [configAfter]
        rw [hprevious id agent before hfind haccepts hbefore', serverConfigOf_inj]
  constructor
  · intro hsync gs₀ id agent content hget₀ hfind haccepts hcontent
    rw [hget] at hget₀
    cases hget₀
    obtain ⟨agent', hfind', haccepts', hconfig⟩ := State.findAgent_of_view_eq (hview id) hfind
    refine (hcond id agent agent' content hfind haccepts hconfig).mpr ?_
    refine hsync p.snap rfl id agent' content hfind' (haccepts'.trans haccepts) ?_
    rw [hprocess.1]
    exact hcontent
  · intro hkeeps snap hsnap id agent' content hfind' haccepts' hcontent
    cases hsnap
    rw [hprocess.1] at hcontent
    obtain ⟨agent, hfind⟩ : ∃ agent, h.process.sender.agents.findAgent id = some agent := by
      rw [← Option.isSome_iff_exists, ← State.findAgent_isSome_of_view_eq (hview id), hfind']
      rfl
    obtain ⟨agent'', hfind'', haccepts'', hconfig⟩ :=
      State.findAgent_of_view_eq (hview id) hfind
    rw [hfind'] at hfind''
    cases hfind''
    have haccepts : agent.accepts = true := haccepts''.symm.trans haccepts'
    exact (hcond id agent agent' content hfind haccepts hconfig).mp
      (hkeeps gs id agent content hget hfind haccepts hcontent)

/-- Take a run of unforced syncs, one for each snapshot of a sequence, with a fixed set of
agents. After every sync a full sync of its snapshot changes no agent if and only if every sync
keeps up. -/
theorem fullSync_along_iff (sourceID : String) (process : State) (store : Gitsync.Store)
    (gs : GitSource) (polls : List Poll) (hget : store.get sourceID = .ok gs)
    (hvalid : gs.Valid) :
    Along (poll sourceID) (FullSyncChangesNothing sourceID) { process, store } polls ↔
      StepsMeet (poll sourceID) (KeepsUp sourceID) { process, store } polls := by
  have hsome : ∀ (polls : List Poll) (h : History), (run (poll sourceID) h polls).isSome := by
    intro polls
    induction polls with
    | nil => exact fun _ => rfl
    | cons p polls ih =>
      intro h
      exact ih _
  refine along_iff_stepsMeet (I := HasValidSource sourceID) (D := fun _ => True) ?_ ?_
    (fun _ _ => trivial) ⟨gs, hget, hvalid⟩ ?_ (hsome polls _)
  · intro h p h' hsource hpoll
    obtain ⟨gs, hget, hvalid⟩ := hsource
    obtain ⟨gs', hget', _, _, _, rfl⟩ := get_of_poll hget hpoll
    exact ⟨_, hget', hvalid⟩
  · intro h p h' _ hsource hbefore hpoll
    exact fullSyncChangesNothing_poll_iff hsource hbefore hpoll
  · intro snap env acked outcome hlast
    cases hlast

/-! ### An edit of the fallback -/

/-- The process after an agent of the environment `production` has connected. -/
def productionConnected : State :=
  (State.step (.start .empty)
    (.opamp (.message (.quiet 1 "") 1 (environmentReport .nil "production")))).getD
    (.start .empty)

/-- The fallback, and the file of the environment, which is listed after it. The fallback is
at one of its versions. -/
def fallbackVersion (commitSHA sha : String) (content : UInt8) : Snapshot where
  commitSHA
  entries := [⟨"configs/environments/default/base.yaml", sha⟩,
    ⟨"configs/environments/production/base.yaml", "b2"⟩]
  blob path := if path = "configs/environments/production/base.yaml" then [2] else [content]

/-- A poll of a version of the fallback, in which the agents confirm every push. -/
def fallbackPoll (commitSHA sha : String) (content : UInt8) : Poll where
  env := .quiet 2 ""
  acked _ := true
  snap := fallbackVersion commitSHA sha content
  faultFree := Env.quiet_faultFree 2 ""
  nodup := by
    show List.Nodup ["configs/environments/default/base.yaml",
      "configs/environments/production/base.yaml"]
    decide

/-- The fallback is edited between two polls. -/
def editOfFallback : List Poll := [fallbackPoll "c1" "b1" 1, fallbackPoll "c2" "b3" 3]

theorem fullSync_along_iff_edit :
    Along (poll "src-1") (FullSyncChangesNothing "src-1")
        { process := productionConnected, store := newSource } editOfFallback ↔
      StepsMeet (poll "src-1") (KeepsUp "src-1")
        { process := productionConnected, store := newSource } editOfFallback :=
  fullSync_along_iff "src-1" productionConnected newSource githubSource editOfFallback rfl
    githubSource_valid

/-- Files with the same content have the same SHA, and files with the same SHA have the same
content. -/
def SHAsIdentifyBlobs (polls : List Poll) : Prop :=
  ∀ p ∈ polls, ∀ q ∈ polls, ∀ e ∈ p.snap.entries, ∀ f ∈ q.snap.entries,
    p.snap.blob e.path = q.snap.blob f.path ↔ e.sha = f.sha

/-- The state after the two polls. -/
def afterEdit : History :=
  (run (poll "src-1") { process := productionConnected, store := newSource }
    editOfFallback).getD { process := productionConnected, store := newSource }

/-- The unforced sync after the edit pushes the fallback to the agent. A forced sync would push
the file of its environment after it. -/
theorem edit_of_fallback_overrides :
    ¬ ∀ (sourceID : String) (process : State) (store : Gitsync.Store) (gs : GitSource)
      (polls : List Poll) (h : History), store.get sourceID = .ok gs → gs.Valid →
      (∀ id agent, process.sender.agents.findAgent id = some agent → agent.accepts = true) →
      (∀ p ∈ polls, ∀ ch, p.acked ch = true) → SHAsIdentifyBlobs polls →
      run (poll sourceID) { process, store } polls = some h →
      FullSyncChangesNothing sourceID h := by
  intro hall
  have hrun : run (poll "src-1") { process := productionConnected, store := newSource }
      editOfFallback = some afterEdit := rfl
  have haccepts : ∀ id agent, productionConnected.sender.agents.findAgent id = some agent →
      agent.accepts = true := by
    intro id agent hfind
    have hagents : ∀ e ∈ productionConnected.sender.agents.agentsById.entries,
        e.2.accepts = true := by decide +kernel
    exact hagents ⟨id, agent⟩ (AList.mem_lookup_iff.mp hfind)
  have hacked : ∀ p ∈ editOfFallback, ∀ ch, p.acked ch = true := by
    intro p hp ch
    simp only [editOfFallback, List.mem_cons, List.not_mem_nil, or_false] at hp
    rcases hp with rfl | rfl <;> rfl
  have hshas : SHAsIdentifyBlobs editOfFallback := by
    unfold SHAsIdentifyBlobs
    decide +kernel
  have hfull := hall "src-1" productionConnected newSource githubSource editOfFallback afterEdit
    rfl githubSource_valid haccepts hacked hshas hrun
  -- The agent has the edited fallback before the forced sync.
  have hbefore : (afterEdit.process.sender.agents.findAgent .nil).map (·.customInstanceConfig)
      = some [3] := by decide +kernel
  obtain ⟨agent, hfind, hcustom⟩ := Option.map_eq_some_iff.mp hbefore
  -- It has the file of its environment after it.
  obtain ⟨outcome, htrigger, hafter⟩ : ∃ outcome,
      triggerSync (gitService (.quiet 3 "") (fun _ => true)
        (fallbackVersion "c2" "b3" 3).remote) "src-1" afterEdit.process afterEdit.store
          = .ok outcome ∧
      (outcome.world.sender.agents.findAgent .nil).map (·.customInstanceConfig) = some [2] :=
    ⟨_, rfl, by decide +kernel⟩
  obtain ⟨agent', hfind', hsame⟩ := hfull (fallbackVersion "c2" "b3" 3) (.quiet 3 "")
    (fun _ => true) outcome rfl (Env.quiet_faultFree 3 "") htrigger .nil agent hfind
  rw [hfind', Option.map_some] at hafter
  have hclash : agent.customInstanceConfig = [2] :=
    (Prod.mk.inj hsame).1.symm.trans (Option.some.inj hafter)
  rw [hcustom] at hclash
  exact absurd hclash (by decide)

end History

end OtelHive.Api
