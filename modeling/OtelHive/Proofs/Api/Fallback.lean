import OtelHive.Lib.Runs
import OtelHive.Proofs.Api.GitSync

/-!
# `OtelHive.Proofs.Api.Fallback`: which of several matching files wins

The layout of a config repository has general and specific files: a file of one environment
and one role, a file of one environment, and `environments/default/base.yaml` as the fallback
for all agents. `runSync` does not rank them. It pushes every file in listing order, and an
agent keeps the last one.

`holds_mostSpecific_iff` says when this is a file with the most selectors. A tree lists the
directories of `environments` by name, so the fallback comes after each environment whose name
sorts before `default`.
-/

set_option autoImplicit false

namespace OtelHive.Api

open OtelHive.Lib
open OtelHive.Opamp
open OtelHive.Gitsync

/-- The number of selectors of a rule. -/
def specificity (rule : LabelRule) : Nat := rule.selectors.entries.length

/-- The rule matches the agent, and no matching rule has more selectors. -/
structure MostSpecific (rules : List LabelRule) (agents : List Types.Agent) (id : UUID)
    (rule : LabelRule) : Prop where
  listed : rule ∈ rules
  matching : reaches agents id rule = true
  most : ∀ rule' ∈ rules, reaches agents id rule' = true → specificity rule' ≤ specificity rule

/-- The server holds the content of a rule with the most selectors for the agent. -/
def HoldsMostSpecific (snap : Snapshot) (rules : List LabelRule) (agents : List Types.Agent)
    (id : UUID) (s : State) : Prop :=
  ∃ agent rule, s.sender.agents.findAgent id = some agent ∧
    MostSpecific rules agents id rule ∧ agent.Holds (snap.blob rule.filePath)

/-- After a forced sync, an agent that accepts remote config has the server-side config of the
last rule that matches it. -/
theorem serverConfig_forcedSync {env : Env} (acked : ChanId → Bool) {gs : GitSource}
    (store : Gitsync.Store) {snap : Snapshot} {s : State} {id : UUID} {agent : Agent}
    {last : LabelRule} (hvalid : gs.Valid) (hfree : env.FaultFree)
    (hfind : s.sender.agents.findAgent id = some agent) (haccepts : agent.accepts = true)
    (hlast : lastMatch (snap.rules gs) s.store.listAgents id = some last) :
    ∃ agent', (runSync (gitService env acked snap.remote) gs true s
        store).world.sender.agents.findAgent id = some agent' ∧
      agent'.serverConfig = serverConfigOf (snap.blob last.filePath) := by
  have hview := view_forcedSync acked store hvalid hfree snap s id
  rw [Snapshot.finalContent, hlast, State.view_of_findAgent hfind, haccepts] at hview
  obtain ⟨agent', hfind', _, hconfig⟩ := State.findAgent_of_view hview
  exact ⟨agent', hfind', hconfig⟩

/-- Take a forced sync of any listing in which the fetches succeed, and an agent that accepts
remote config and matches a rule. After the sync the server holds the content of a matching
rule with the most selectors if and only if such a rule has the content of the matching rule
that is listed last. -/
theorem holds_mostSpecific_iff (env : Env) (acked : ChanId → Bool) (gs : GitSource)
    (store : Gitsync.Store) (snap : Snapshot) (s : State) (id : UUID) (agent : Agent)
    (last : LabelRule) (hvalid : gs.Valid) (hfree : env.FaultFree)
    (hfind : s.sender.agents.findAgent id = some agent) (haccepts : agent.accepts = true)
    (hlast : lastMatch (snap.rules gs) s.store.listAgents id = some last) :
    HoldsMostSpecific snap (snap.rules gs) s.store.listAgents id
        (runSync (gitService env acked snap.remote) gs true s store).world ↔
      ∃ rule, MostSpecific (snap.rules gs) s.store.listAgents id rule ∧
        snap.blob rule.filePath = snap.blob last.filePath := by
  obtain ⟨agent', hfind', hconfig⟩ :=
    serverConfig_forcedSync acked store hvalid hfree hfind haccepts hlast
  constructor
  · rintro ⟨agent'', rule, hfind'', hmost, hholds⟩
    rw [hfind'] at hfind''
    cases hfind''
    exact ⟨rule, hmost, (Agent.holds_of_serverConfig hconfig _).mp hholds⟩
  · rintro ⟨rule, hmost, hcontent⟩
    exact ⟨agent', rule, hfind', hmost, (Agent.holds_of_serverConfig hconfig _).mpr hcontent⟩

/-! ### An environment that sorts before `default` -/

/-- A report of an agent of the environment `env` that accepts remote config. -/
def environmentReport (uid : UUID) (env : String) : AgentToServer where
  instanceUid := uid.bytes
  agentDescription := some ⟨[], [⟨"deployment.environment", some (.stringValue env)⟩]⟩
  capabilities := AgentCapabilities.acceptsRemoteConfig

/-- The process after an agent of the environment `canary` has connected. -/
def canaryConnected : State :=
  (State.step (.start .empty)
    (.opamp (.message (.quiet 1 "") 1 (environmentReport .nil "canary")))).getD (.start .empty)

/-- A source with the default branch and config root. -/
def githubSource : GitSource where
  id := "src-1"
  name := "configs"
  providerType := .github

theorem githubSource_valid : githubSource.Valid := by
  intro name h
  cases h

/-- The git store with the source, before the first sync. -/
def newSource : Gitsync.Store := ⟨[githubSource], ∅⟩

/-- The file of an environment, and the fallback. Each content is one byte. -/
def twoFiles (envContent : UInt8) : Snapshot where
  commitSHA := "c1"
  entries := [⟨"configs/environments/canary/base.yaml", "b1"⟩,
    ⟨"configs/environments/default/base.yaml", "b2"⟩]
  blob path := if path = "configs/environments/canary/base.yaml" then [envContent] else [2]

/-- The rule of the fallback. -/
def fallbackRule : LabelRule where
  filePath := "configs/environments/default/base.yaml"
  selectors := ∅

/-- The rule of the file of the environment. -/
def canaryRule : LabelRule where
  filePath := "configs/environments/canary/base.yaml"
  selectors := (∅ : GoMap String String).insert "deployment.environment" "canary"

/-- The facts about the agent and the two files. -/
theorem canary_facts (envContent : UInt8) :
    (∃ agent, canaryConnected.sender.agents.findAgent .nil = some agent ∧
      agent.accepts = true) ∧
    (twoFiles envContent).rules githubSource = [canaryRule, fallbackRule] ∧
    reaches canaryConnected.store.listAgents .nil canaryRule = true ∧
    lastMatch [canaryRule, fallbackRule] canaryConnected.store.listAgents .nil
      = some fallbackRule := by
  have hcanary : reaches canaryConnected.store.listAgents .nil canaryRule = true := by
    decide +kernel
  have hfallback : reaches canaryConnected.store.listAgents .nil fallbackRule = true := by
    decide +kernel
  refine ⟨?_, rfl, hcanary, ?_⟩
  · have h : (canaryConnected.sender.agents.findAgent .nil).map (·.accepts) = some true := by
      decide +kernel
    exact Option.map_eq_some_iff.mp h
  · rw [lastMatch, List.filter_cons_of_pos hcanary, List.filter_cons_of_pos hfallback]
    rfl

/-- The file of the environment is the most specific one. -/
theorem mostSpecific_canaryRule :
    MostSpecific [canaryRule, fallbackRule] canaryConnected.store.listAgents .nil canaryRule where
  listed := List.mem_cons_self
  matching := (canary_facts 0).2.2.1
  most := by
    intro rule' hrule' _
    simp only [List.mem_cons, List.not_mem_nil, or_false] at hrule'
    rcases hrule' with rfl | rfl <;> decide

/-- The two files have the same content. -/
theorem holds_mostSpecific_iff_same_content :
    HoldsMostSpecific (twoFiles 2) ((twoFiles 2).rules githubSource)
      canaryConnected.store.listAgents .nil
      (runSync (gitService (.quiet 2 "") (fun _ => true) (twoFiles 2).remote) githubSource true
        canaryConnected newSource).world := by
  obtain ⟨⟨agent, hfind, haccepts⟩, hrules, _, hlast⟩ := canary_facts 2
  refine (holds_mostSpecific_iff (.quiet 2 "") (fun _ => true) githubSource newSource
    (twoFiles 2) canaryConnected .nil agent fallbackRule githubSource_valid
    (Env.quiet_faultFree 2 "") hfind haccepts (by rw [hrules, hlast])).mpr ?_
  rw [hrules]
  exact ⟨canaryRule, mostSpecific_canaryRule, by decide +kernel⟩

/-- The fallback is listed after the file of the environment, and replaces it. -/
theorem fallback_replaces_environment :
    ¬ ∀ (env : Env) (acked : ChanId → Bool) (gs : GitSource) (store : Gitsync.Store)
      (snap : Snapshot) (s : State) (id : UUID) (agent : Agent) (last : LabelRule),
      gs.Valid → env.FaultFree → s.sender.agents.findAgent id = some agent →
      agent.accepts = true →
      lastMatch (snap.rules gs) s.store.listAgents id = some last → (∀ ch, acked ch = true) →
      HoldsMostSpecific snap (snap.rules gs) s.store.listAgents id
        (runSync (gitService env acked snap.remote) gs true s store).world := by
  intro hall
  obtain ⟨⟨agent, hfind, haccepts⟩, hrules, hmatching, hlast⟩ := canary_facts 1
  have hlast' : lastMatch ((twoFiles 1).rules githubSource) canaryConnected.store.listAgents .nil
      = some fallbackRule := by rw [hrules, hlast]
  obtain ⟨agent', rule, hfind', hmost, hholds⟩ := hall (.quiet 2 "") (fun _ => true) githubSource
    newSource (twoFiles 1) canaryConnected .nil agent fallbackRule githubSource_valid
    (Env.quiet_faultFree 2 "") hfind haccepts hlast' (fun _ => rfl)
  -- The sync leaves the fallback.
  obtain ⟨agent'', hfind'', hconfig⟩ := serverConfig_forcedSync (fun _ => true)
    newSource githubSource_valid (Env.quiet_faultFree 2 "") hfind haccepts
    hlast'
  rw [hfind'] at hfind''
  cases hfind''
  have hcontent := (Agent.holds_of_serverConfig hconfig _).mp hholds
  -- The fallback has no selector, so it is not the most specific rule.
  rw [hrules] at hmost
  have hle := hmost.most canaryRule List.mem_cons_self hmatching
  have hmem := hmost.listed
  simp only [List.mem_cons, List.not_mem_nil, or_false] at hmem
  rcases hmem with rfl | rfl
  · exact absurd hcontent (by decide +kernel)
  · exact absurd hle (by decide)

end OtelHive.Api
