import OtelHive.Lib.Runs
import OtelHive.Proofs.Opamp.Server

/-!
# `OtelHive.Proofs.Opamp.Record`: the stored record and the latest report

`persistAgent` writes the name, the labels, the version and the capabilities of an agent
once, when it creates the row, and it creates the row without an effective config. Later
messages rewrite the status, the time and an effective config that is not empty. So a row
keeps the description of the first message.

`Mirrors` compares a row with what the agent reported last (`Latest`). A message keeps the
agreement exactly if what it carries is what the row has, or a body that is not empty
(`KeepsRecord`). `recordMirrors_along_iff` carries this to runs.
-/

set_option autoImplicit false

namespace OtelHive.Opamp

open OtelHive.Lib
open OtelHive.Sqlite (Storage)

/-! ### The effective config in memory -/

/-- The body that the message reports as the effective config. -/
def AgentToServer.reportedBody (msg : AgentToServer) : Option Bytes :=
  msg.effectiveConfig.bind fun effectiveConfig =>
    effectiveConfig.configMap.bind fun config => (config.configMap.toList.head?).map (·.2.body)

/-- `updateEffectiveConfig` takes the reported body, or keeps the one it has. -/
theorem Agent.effectiveConfig_updateEffectiveConfig {agent agent' : Agent} {msg : AgentToServer}
    (h : agent.updateEffectiveConfig msg = .ok agent') :
    agent'.effectiveConfig = msg.reportedBody.getD agent.effectiveConfig := by
  unfold Agent.updateEffectiveConfig at h
  unfold AgentToServer.reportedBody
  split at h
  · rename_i hnone
    cases h
    rw [hnone]
    rfl
  · cases h
  · rename_i config hsome
    rw [hsome]
    split at h
    · rename_i hempty
      cases h
      simp [hempty]
    · rename_i key file rest hfiles
      cases h
      simp [hfiles]

/-- The effective config after a report. -/
theorem Agent.effectiveConfig_updateStatus {agent agent' : Agent} {x509 : X509}
    {msg : AgentToServer} {response response' : ServerToAgent} {watchers : List ChanId}
    (h : agent.updateStatus x509 msg response = .ok (agent', response', watchers)) :
    agent'.effectiveConfig = msg.reportedBody.getD agent.effectiveConfig := by
  unfold Agent.updateStatus at h
  obtain ⟨⟨agent₁, response₁⟩, hprocess, h⟩ := bind_eq_ok h
  obtain ⟨response₂, _, h⟩ := bind_eq_ok h
  cases h
  obtain ⟨startedAt, hfield⟩ := Agent.updateStatusField_eq agent msg
  unfold Agent.processStatusUpdate at hprocess
  rw [hfield] at hprocess
  dsimp only at hprocess
  rw [Agent.calc_after_report] at hprocess
  dsimp only at hprocess
  obtain ⟨_, _, hprocess⟩ := bind_eq_ok hprocess
  obtain ⟨agent₂, heffective, hprocess⟩ := bind_eq_ok hprocess
  cases hprocess
  have hbody := Agent.effectiveConfig_updateEffectiveConfig heffective
  exact hbody

namespace Server

/-- The effective config in memory after a message of the agent `id`. -/
theorem effectiveConfig_step_message {env : Env} {conn : Conn} {msg : AgentToServer}
    {srv srv' : Server} {id : UUID} {agent' : Agent}
    (h : step srv (.message env conn msg) = some srv')
    (hid : UUID.ofSlice msg.instanceUid = .ok id)
    (hfind : srv'.agents.findAgent id = some agent') :
    agent'.effectiveConfig
      = msg.reportedBody.getD (((srv.agents.findAgent id).map (·.effectiveConfig)).getD []) := by
  simp only [step] at h
  split at h
  · rename_i response srv'' hmessage
    cases h
    obtain ⟨id', agent, response₀, watchers, hid', hupdate, _, rfl⟩ := onMessage_ok hmessage
    rw [hid] at hid'
    cases hid'
    dsimp only at hfind
    rw [Agents.findAgent_update, Agents.findAgent_findOrCreateAgent, if_pos rfl, if_pos rfl,
      Option.map_some, Option.some.injEq] at hfind
    obtain ⟨groupID, hpersist⟩ := persistAgent_fst_frame env srv.store agent msg
    rw [← hfind, hpersist]
    refine (Agent.effectiveConfig_updateStatus hupdate).trans ?_
    obtain ⟨_, _, _, _, hframe⟩ := Agent.processAgentGrouping_frame env srv.store
      (srv.agents.findOrCreateAgent id conn).2 msg
    rw [hframe]
    dsimp only
    -- A registered agent keeps its effective config, and a new one has none.
    cases hbefore : srv.agents.findAgent id with
    | some agent₀ =>
      rw [Agents.findOrCreateAgent_of_some hbefore]
      rfl
    | none =>
      rw [Agents.findOrCreateAgent_snd_of_none hbefore]
      rfl
  · cases h

/-! ### The latest report -/

/-- The capabilities that the message carries. A field of zero is one that was left out. -/
def reportedCapabilities (msg : AgentToServer) : Option UInt64 :=
  if msg.capabilities = 0 then none else some msg.capabilities

/-- What an agent has reported last of each field. -/
structure Latest where
  description : Option AgentDescription := none
  capabilities : Option UInt64 := none
  body : Option Bytes := none

/-- The latest report after one more message. -/
def Latest.after (latest : Latest) (msg : AgentToServer) : Latest where
  description := msg.agentDescription.or latest.description
  capabilities := (reportedCapabilities msg).or latest.capabilities
  body := msg.reportedBody.or latest.body

/-- The latest report of each agent that has sent a message. -/
abbrev Reports : Type := UUID → Option Latest

/-- Follow the reports of the agents. A closed connection does not change what they reported. -/
def recordReport (reports : Reports) (_ : Server) : Event → Reports
  | .message _ _ msg =>
    match UUID.ofSlice msg.instanceUid with
    | .ok id => Function.update reports id (some (((reports id).getD {}).after msg))
    | .error _ => reports
  | .disconnect _ _ => reports

/-- The name, the version and the labels of the row are those of the description. -/
structure Describes (desc : AgentDescription) (row : Types.Agent) : Prop where
  name : row.name = extractAgentName (some desc)
  version : row.version = extractAgentVersion (some desc)
  labels : ∀ key, row.labels.lookup key = (extractAgentLabels (some desc)).lookup key

/-- The row has what the agent has reported last. -/
structure Mirrors (latest : Latest) (row : Types.Agent) : Prop where
  description : ∀ desc, latest.description = some desc → Describes desc row
  capabilities : ∀ caps, latest.capabilities = some caps →
    row.capabilities = extractAgentCapabilities caps
  body : ∀ body, latest.body = some body → row.effectiveConfig = body

/-- The stored record of each agent that has sent a message mirrors its latest report. -/
def RecordMirrors (p : Server × Reports) : Prop :=
  ∀ id latest, p.2 id = some latest → ∃ row, p.1.store.getAgent id = some row ∧ Mirrors latest row

/-- What a message carries is what the row has already, or a body that is not empty. -/
structure Agrees (msg : AgentToServer) (row : Types.Agent) : Prop where
  description : ∀ desc, msg.agentDescription = some desc → Describes desc row
  capabilities : ∀ caps, reportedCapabilities msg = some caps →
    row.capabilities = extractAgentCapabilities caps
  body : msg.reportedBody = some [] → row.effectiveConfig = []

/-- The message agrees with the row of its agent. A first message reports no body, or an
empty one. -/
def KeepsRecord (p : Server × Reports) : Event → Prop
  | .message _ _ msg => ∀ id, UUID.ofSlice msg.instanceUid = .ok id →
      match p.1.store.getAgent id with
      | some row => Agrees msg row
      | none => ∀ body, msg.reportedBody = some body → body = []
  | .disconnect _ _ => True

/-- The effective config in memory is empty or the last reported body. -/
def MemoryReported (p : Server × Reports) : Prop :=
  ∀ id agent, p.1.agents.findAgent id = some agent →
    agent.effectiveConfig = [] ∨
      ∃ latest, p.2 id = some latest ∧ latest.body = some agent.effectiveConfig

/-- Every row mirrors the reports of an agent that has sent none. -/
theorem mirrors_empty (row : Types.Agent) : Mirrors {} row := by
  refine ⟨?_, ?_, ?_⟩
  · intro desc hdesc
    cases hdesc
  · intro caps hcaps
    cases hcaps
  · intro body hbody
    cases hbody

/-- A row that mirrors the reports so far, after the writes of one more message. -/
theorem mirrors_after_iff {latest : Latest} {row : Types.Agent} (h : Mirrors latest row)
    (msg : AgentToServer) {memory : Bytes}
    (hmemory : memory = [] ∨ latest.body = some memory) (status : Types.AgentStatus)
    (now : Time) :
    Mirrors (latest.after msg) { row with
        status
        lastSeen := now
        effectiveConfig :=
          if msg.reportedBody.getD memory = [] then row.effectiveConfig
          else msg.reportedBody.getD memory
        updatedAt := now } ↔ Agrees msg row := by
  constructor
  · intro hafter
    refine ⟨?_, ?_, ?_⟩
    · intro desc hdesc
      obtain ⟨hname, hversion, hlabels⟩ :=
        hafter.description desc (by simp [Latest.after, hdesc])
      exact ⟨hname, hversion, hlabels⟩
    · intro caps hcaps
      exact hafter.capabilities caps (by simp [Latest.after, hcaps])
    · -- An empty body is the one that `persistAgent` does not write.
      intro hbody
      have heffective := hafter.body [] (by simp [Latest.after, hbody])
      simpa [hbody] using heffective
  · intro hagrees
    refine ⟨?_, ?_, ?_⟩
    · intro desc hdesc
      have hdescribes : Describes desc row := by
        cases hmsg : msg.agentDescription with
        | some desc' =>
          simp only [Latest.after, hmsg, Option.some_or, Option.some.injEq] at hdesc
          rw [← hdesc]
          exact hagrees.description desc' hmsg
        | none =>
          simp only [Latest.after, hmsg, Option.none_or] at hdesc
          exact h.description desc hdesc
      exact ⟨hdescribes.name, hdescribes.version, hdescribes.labels⟩
    · intro caps hcaps
      cases hmsg : reportedCapabilities msg with
      | some caps' =>
        simp only [Latest.after, hmsg, Option.some_or, Option.some.injEq] at hcaps
        rw [← hcaps]
        exact hagrees.capabilities caps' hmsg
      | none =>
        simp only [Latest.after, hmsg, Option.none_or] at hcaps
        exact h.capabilities caps hcaps
    · intro body hbody
      dsimp only
      cases hmsg : msg.reportedBody with
      | some body' =>
        simp only [Latest.after, hmsg, Option.some_or, Option.some.injEq] at hbody
        rw [Option.getD_some, hbody]
        split
        · rename_i hempty
          rw [hempty]
          exact hagrees.body (by rw [hmsg, hbody, hempty])
        · rfl
      | none =>
        -- The body in memory is written again.
        simp only [Latest.after, hmsg, Option.none_or] at hbody
        rw [Option.getD_none]
        split
        · exact h.body body hbody
        · -- The memory is the last reported body.
          rename_i hnonempty
          rcases hmemory with hempty | hlast
          · exact absurd hempty hnonempty
          · exact Option.some.inj (hlast.symm.trans hbody)

/-- The row that a first message creates mirrors it exactly if it reports no body, or an empty
one. -/
theorem mirrors_created_iff (env : Env) (agent : Agent) (msg : AgentToServer) :
    Mirrors (({} : Latest).after msg) (newServiceAgent env agent msg) ↔
      ∀ body, msg.reportedBody = some body → body = [] := by
  constructor
  · intro hmirrors body hbody
    exact (hmirrors.body body (by simp [Latest.after, hbody])).symm
  · intro hempty
    refine ⟨?_, ?_, ?_⟩
    · intro desc hdesc
      simp only [Latest.after, Option.or_none] at hdesc
      refine ⟨?_, ?_, ?_⟩
      · rw [← hdesc]
        rfl
      · rw [← hdesc]
        rfl
      · intro key
        rw [← hdesc]
        rfl
    · intro caps hcaps
      simp only [Latest.after, Option.or_none, reportedCapabilities] at hcaps
      split at hcaps
      · cases hcaps
      · cases hcaps
        rfl
    · intro body hbody
      simp only [Latest.after, Option.or_none] at hbody
      exact (hempty body hbody).symm

/-! ### Messages and closed connections -/

/-- The reports after a message of the agent `id`. -/
theorem recordReport_message {env : Env} {conn : Conn} {msg : AgentToServer} {id : UUID}
    (hid : UUID.ofSlice msg.instanceUid = .ok id) (reports : Reports) (srv : Server) :
    recordReport reports srv (.message env conn msg)
      = Function.update reports id (some (((reports id).getD {}).after msg)) := by
  simp only [recordReport, hid]

/-- Every handler keeps the effective configs in memory those that were reported. -/
theorem memoryReported_step {srv srv' : Server} {reports : Reports} {e : Event}
    (hwf : srv.agents.WellFormed) (h : MemoryReported (srv, reports))
    (hstep : step srv e = some srv') : MemoryReported (srv', recordReport reports srv e) := by
  intro id' agent' hfind'
  dsimp only at hfind' ⊢
  cases e with
  | message env conn msg =>
    obtain ⟨id, agent, hid, _, _, _, hfind, _, _⟩ := step_message hwf hstep
    rw [recordReport_message hid]
    by_cases heq : id' = id
    · subst heq
      rw [Function.update_self]
      have heffective := effectiveConfig_step_message hstep hid hfind'
      -- A message with a body is the last report. Without one the agent keeps its config.
      cases hbody : msg.reportedBody with
      | some body =>
        right
        refine ⟨_, rfl, ?_⟩
        rw [heffective, hbody]
        simp [Latest.after, hbody]
      | none =>
        rw [hbody, Option.getD_none] at heffective
        cases hbefore : srv.agents.findAgent id' with
        | none =>
          left
          rw [heffective, hbefore]
          rfl
        | some agent₀ =>
          rw [hbefore] at heffective
          have heffective' : agent'.effectiveConfig = agent₀.effectiveConfig := heffective
          rcases h id' agent₀ hbefore with hempty | ⟨latest, hlatest, hlast⟩
          · exact Or.inl (heffective'.trans hempty)
          · right
            dsimp only at hlatest
            refine ⟨_, rfl, ?_⟩
            rw [hlatest, heffective']
            simp [Latest.after, hbody, hlast]
    · rw [hfind id', if_neg heq] at hfind'
      rw [Function.update_of_ne heq]
      exact h id' agent' hfind'
  | disconnect env conn =>
    cases hstep
    have hremoved : (srv.agents.removeConnection conn).findAgent id' = some agent' := hfind'
    rw [Agents.findAgent_removeConnection] at hremoved
    split at hremoved
    · cases hremoved
    · exact h id' agent' hremoved

section Message

variable {env : Env} {conn : Conn} {msg : AgentToServer} {srv srv' : Server} {reports : Reports}

/-- The row of an agent mirrors its report after a message exactly under `KeepsRecord`. -/
theorem rowMirrors_message_iff (hfree : env.FaultFree) (hwf : srv.agents.WellFormed)
    (hmemory : MemoryReported (srv, reports)) (hmirrors : RecordMirrors (srv, reports))
    (h : step srv (.message env conn msg) = some srv') {id : UUID}
    (hid : UUID.ofSlice msg.instanceUid = .ok id) :
    (∃ row, srv'.store.getAgent id = some row ∧
        Mirrors (((reports id).getD {}).after msg) row) ↔
      KeepsRecord (srv, reports) (.message env conn msg) := by
  obtain ⟨id', agent, hid', hinstance, _, _, hfind, hstore, _⟩ := step_message hwf h
  obtain rfl : id = id' := Except.ok.inj (hid.symm.trans hid')
  have hkeeps : KeepsRecord (srv, reports) (.message env conn msg) ↔
      (match srv.store.getAgent id with
        | some row => Agrees msg row
        | none => ∀ body, msg.reportedBody = some body → body = []) := by
    simp [KeepsRecord, hid]
  rw [hkeeps, hstore]
  cases hrow : srv.store.getAgent id with
  | none =>
    -- No row, so the agent has not reported before.
    have hfirst : reports id = none := by
      cases hreports : reports id with
      | none => rfl
      | some latest =>
        obtain ⟨row, hrow', _⟩ := hmirrors id latest hreports
        rw [hrow] at hrow'
        cases hrow'
    rw [← hinstance] at hrow
    have hcreated := row_persistAgent_of_none hfree msg hrow
    rw [hinstance] at hcreated
    rw [hcreated, hfirst]
    simp only [Option.some.injEq, exists_eq_left', Option.getD_none]
    exact mirrors_created_iff env _ msg
  | some row =>
    rw [← hinstance] at hrow
    have hupdated := row_persistAgent_of_some hfree msg hrow
    rw [hinstance] at hupdated hrow
    rw [hupdated]
    simp only [Option.some.injEq, exists_eq_left']
    -- The effective config in memory, before and after the report.
    have heffective : agent.effectiveConfig = msg.reportedBody.getD
        (((srv.agents.findAgent id).map (·.effectiveConfig)).getD []) := by
      have hpersisted := effectiveConfig_step_message h hid ((hfind id).trans (if_pos rfl))
      obtain ⟨groupID, hpersist⟩ := persistAgent_fst_frame env srv.store agent msg
      rw [hpersist] at hpersisted
      exact hpersisted
    have hbefore : ((srv.agents.findAgent id).map (·.effectiveConfig)).getD [] = [] ∨
        ((reports id).getD {}).body
          = some (((srv.agents.findAgent id).map (·.effectiveConfig)).getD []) := by
      cases hagent : srv.agents.findAgent id with
      | none => exact Or.inl rfl
      | some agent₀ =>
        rcases hmemory id agent₀ hagent with hempty | ⟨latest, hlatest, hlast⟩
        · exact Or.inl hempty
        · right
          dsimp only at hlatest
          rw [hlatest]
          exact hlast
    -- A row that was there at the start mirrors an agent that has not reported.
    have hrowMirrors : Mirrors ((reports id).getD {}) row := by
      cases hreports : reports id with
      | none => exact mirrors_empty row
      | some latest =>
        obtain ⟨row', hrow', hlatest⟩ := hmirrors id latest hreports
        rw [hrow] at hrow'
        cases hrow'
        exact hlatest
    rw [heffective]
    exact mirrors_after_iff hrowMirrors msg hbefore (determineAgentStatus msg) env.now

/-- A message keeps the agreement exactly under `KeepsRecord`. -/
theorem recordMirrors_message_iff (hfree : env.FaultFree) (hwf : srv.agents.WellFormed)
    (hmemory : MemoryReported (srv, reports)) (hmirrors : RecordMirrors (srv, reports))
    (h : step srv (.message env conn msg) = some srv') :
    RecordMirrors (srv', recordReport reports srv (.message env conn msg)) ↔
      KeepsRecord (srv, reports) (.message env conn msg) := by
  obtain ⟨id, agent, hid, hinstance, _, _, _, hstore, _⟩ := step_message hwf h
  rw [recordReport_message hid, ← rowMirrors_message_iff hfree hwf hmemory hmirrors h hid]
  constructor
  · intro hmirrors'
    refine hmirrors' id _ ?_
    exact Function.update_self id _ reports
  -- The message changes no other row, and counts as a report of this agent only.
  · intro hrow id' latest' hlatest'
    dsimp only at hlatest' ⊢
    by_cases heq : id' = id
    · subst heq
      rw [Function.update_self] at hlatest'
      cases hlatest'
      exact hrow
    · rw [Function.update_of_ne heq] at hlatest'
      have hne : id' ≠ agent.instanceId := by
        rw [hinstance]
        exact heq
      rw [hstore, getAgent_persistAgent_of_ne env srv.store agent msg hne]
      exact hmirrors id' latest' hlatest'

end Message

/-- A closed connection keeps the agreement. -/
theorem recordMirrors_onDisconnect {srv : Server} {reports : Reports}
    (hmirrors : RecordMirrors (srv, reports)) (env : Env) (conn : Conn) :
    RecordMirrors (onDisconnect env conn srv, reports) := by
  intro id latest hlatest
  obtain ⟨row, hrow, hdescription, hcapabilities, hbody⟩ := hmirrors id latest hlatest
  obtain ⟨status, updatedAt, hrow'⟩ := row_onDisconnect env conn hrow
  refine ⟨_, hrow', ?_, hcapabilities, hbody⟩
  intro desc hdesc
  obtain ⟨hname, hversion, hlabels⟩ := hdescription desc hdesc
  exact ⟨hname, hversion, hlabels⟩

/-- Take a run from a fresh registry on any database, in which the storage calls of the
messages succeed. In every state of the run the stored record of every agent mirrors its
latest report, if and only if every message keeps the record. -/
theorem recordMirrors_along_iff (store : Storage) (grpc http : String) (es : List Event)
    (hstorage : ∀ e ∈ es, e.StorageWorks)
    (hrun : (run (withGhost step recordReport) (newServer store grpc http, fun _ => none)
      es).isSome) :
    Along (withGhost step recordReport) RecordMirrors
        (newServer store grpc http, fun _ => none) es ↔
      StepsMeet (withGhost step recordReport) KeepsRecord
        (newServer store grpc http, fun _ => none) es := by
  -- `persistAgent` writes the config in memory, so the invariant says where that comes from.
  refine along_iff_stepsMeet (I := fun p => p.1.agents.WellFormed ∧ MemoryReported p)
    (D := Event.StorageWorks) ?_ ?_ hstorage ⟨Agents.wellFormed_newAgents, ?_⟩ ?_ hrun
  · rintro ⟨srv, reports⟩ e ⟨srv', reports'⟩ ⟨hwf, hmemory⟩ hstep
    obtain ⟨hstep, hreports⟩ := withGhost_eq_some.mp hstep
    dsimp only at hstep hreports
    rw [hreports]
    exact ⟨wellFormed_step hwf hstep, memoryReported_step hwf hmemory hstep⟩
  · rintro ⟨srv, reports⟩ e ⟨srv', reports'⟩ hworks ⟨hwf, hmemory⟩ hmirrors hstep
    obtain ⟨hstep, hreports⟩ := withGhost_eq_some.mp hstep
    dsimp only at hstep hreports
    rw [hreports]
    cases e with
    | message env conn msg =>
      exact recordMirrors_message_iff hworks hwf hmemory hmirrors hstep
    | disconnect env conn =>
      cases hstep
      exact ⟨fun _ => trivial, fun _ => recordMirrors_onDisconnect hmirrors env conn⟩
  · intro id agent hfind
    have hnone : newAgents.findAgent id = none := GoMap.lookup_empty id
    exact absurd (hnone.symm.trans hfind) (by simp)
  · intro id latest hlatest
    cases hlatest

/-! ### A second description -/

/-- A report of an agent with a service version. -/
def versionReport (version : String) : AgentToServer where
  instanceUid := UUID.nil.bytes
  agentDescription := some ⟨[⟨"service.version", some (.stringValue version)⟩], []⟩
  capabilities := AgentCapabilities.reportsStatus

/-- One report of the agent. -/
def firstVersion : Event := .message (.quiet 0 "") 1 (versionReport "1.0")

/-- The report of the agent after an upgrade. -/
def secondVersion : Event := .message (.quiet 1 "") 1 (versionReport "1.1")

/-- The same report twice. -/
theorem recordMirrors_along_iff_repeated :
    Along (withGhost step recordReport) RecordMirrors (newServer .empty "" "", fun _ => none)
        [firstVersion, firstVersion] ↔
      StepsMeet (withGhost step recordReport) KeepsRecord (newServer .empty "" "", fun _ => none)
        [firstVersion, firstVersion] :=
  recordMirrors_along_iff .empty "" "" [firstVersion, firstVersion]
    (by
      intro e he
      rcases List.mem_pair.mp he with rfl | rfl
      all_goals exact Env.quiet_faultFree 0 "")
    (by decide +kernel)

/-- The upgraded agent keeps its old version in the database. -/
theorem second_description_not_stored :
    ¬ ∀ (store : Storage) (es : List Event) (p : Server × Reports),
      (∀ e ∈ es, e.StorageWorks) →
      run (withGhost step recordReport) (newServer store "" "", fun _ => none) es = some p →
      RecordMirrors p := by
  intro hall
  have hworks : ∀ e ∈ [firstVersion, secondVersion], e.StorageWorks := by
    intro e he
    rcases List.mem_pair.mp he with rfl | rfl
    · exact Env.quiet_faultFree 0 ""
    · exact Env.quiet_faultFree 1 ""
  have hend : (run (withGhost step recordReport) (newServer .empty "" "", fun _ => none)
      [firstVersion, secondVersion]).map (fun p =>
        ((p.1.store.getAgent .nil).map (·.version), (p.2 .nil).bind (·.description)))
      = some (some "1.0", (versionReport "1.1").agentDescription) := by decide +kernel
  obtain ⟨p, hrun, hp⟩ := Option.map_eq_some_iff.mp hend
  simp only [Prod.mk.injEq] at hp
  obtain ⟨hversion, hdescription⟩ := hp
  obtain ⟨latest, hlatest, hdesc⟩ := Option.bind_eq_some_iff.mp hdescription
  obtain ⟨row, hrow, hmirrors⟩ := hall .empty _ p hworks hrun .nil latest hlatest
  rw [hrow, Option.map_some, (hmirrors.description _ hdesc).version] at hversion
  exact absurd hversion (by decide +kernel)

end Server

end OtelHive.Opamp
