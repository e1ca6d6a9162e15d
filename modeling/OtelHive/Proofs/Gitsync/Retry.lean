import OtelHive.Proofs.Gitsync.Service

/-!
# `OtelHive.Proofs.Gitsync.Retry`: the sync after a sync with errors

`Calls` is a world that only records the calls of a sync: the files it fetched, and the agents
it pushed each of them to. `Answers` are the results of these calls. Two syncs of the same
commit may get different answers.

The errors before the loop, and a fetch that fails, leave the change detectors alone: the first
keep `LastSyncSHA`, and the second skips the file cache. A push that fails does neither. The
loop caches the file, and `persistOutcome` records the commit. `retried_iff` says when the
next sync attempts the failed pairs again all the same.
-/

set_option autoImplicit false

namespace OtelHive.Gitsync

open OtelHive.Lib

/-- The calls of a sync, and the file of the last fetch. -/
structure Calls where
  current : String := ""
  fetched : List String := []
  pushed : List (String × UUID) := []

/-- The results of the calls of one sync, for each file and agent. -/
structure Answers where
  fetch : String → Except String Bytes
  push : String → UUID → Option String

/-- One commit of the repository, which has each path once. -/
structure Commit where
  sha : String
  entries : List FileEntry
  nodup : (entries.map (·.path)).Nodup

/-- The service over the record of calls. -/
def recordingService (commit : Commit) (agents : List Types.Agent) (answers : Answers) :
    Service Calls where
  provider _ := {
    latestCommitSHA := fun _ _ => .ok commit.sha
    listFiles := fun _ _ _ => .ok commit.entries
    fetchFile := fun path _ calls =>
      ({ calls with current := path, fetched := calls.fetched ++ [path] }, answers.fetch path) }
  listAgents _ := .ok agents
  sendConfigToAgent id _ calls :=
    ({ calls with pushed := calls.pushed ++ [(calls.current, id)] },
      answers.push calls.current id)

/-! ### The calls of a loop -/

section Loop

variable {commit : Commit} {agents : List Types.Agent} {answers : Answers} {gs : GitSource}

/-- The pushes of one file. -/
def pushesOf (answers : Answers) (agents : List Types.Agent) (rule : LabelRule) :
    List (String × UUID) :=
  match answers.fetch rule.filePath with
  | .error _ => []
  | .ok _ => (matchAgents rule agents).map fun a => (rule.filePath, a.id)

theorem entriesOf_eq_pushesOf :
    entriesOf answers.fetch (fun path id _ => (path, id)) agents = pushesOf answers agents := by
  funext rule
  unfold entriesOf pushesOf
  cases answers.fetch rule.filePath <;> rfl

variable (commit agents answers gs) in
theorem records_recordingService :
    Records (recordingService commit agents answers)
      ((recordingService commit agents answers).provider gs) answers.fetch Calls.current
      Calls.pushed fun path id _ => (path, id) where
  result _ _ _ := rfl
  fetched _ _ _ := ⟨rfl, rfl⟩
  pushed _ _ _ := ⟨rfl, rfl⟩

/-- A forced round of a sync of the commit. -/
abbrev forcedRound (commit : Commit) (agents : List Types.Agent) (answers : Answers)
    (gs : GitSource) : Loop Calls → LabelRule → Loop Calls :=
  syncRule (recordingService commit agents answers)
    ((recordingService commit agents answers).provider gs) gs true (shaByPath commit.entries) agents

variable (commit agents answers gs) in
/-- A forced round fetches its file. -/
theorem fetched_forcedRound (acc : Loop Calls) (rule : LabelRule) :
    (forcedRound commit agents answers gs acc rule).world.fetched
      = acc.world.fetched ++ [rule.filePath] := by
  have hfetched : ∀ result, answers.fetch rule.filePath = result →
      ((recordingService commit agents answers).provider gs).fetchFile rule.filePath
        (((shaByPath commit.entries).lookup rule.filePath).getD "") acc.world
      = ({ acc.world with
            current := rule.filePath
            fetched := acc.world.fetched ++ [rule.filePath] }, result) := by
    intro result hresult
    rw [← hresult]
    rfl
  unfold forcedRound
  rw [world_syncRule_forced]
  cases hresult : answers.fetch rule.filePath with
  | error err => rw [hfetched _ hresult]
  | ok content =>
    rw [hfetched _ hresult]
    -- The pushes leave the fetched files as they are.
    exact world_foldl_sendConfigToAgent
      (J := fun w : Calls => w.fetched = acc.world.fetched ++ [rule.filePath]) content
      (fun _ _ _ h => h) rfl

variable (commit agents answers gs) in
/-- The record after a forced loop. -/
theorem calls_foldl_forcedRound (rules : List LabelRule) (acc : Loop Calls) :
    (rules.foldl (forcedRound commit agents answers gs) acc).world.fetched
      = acc.world.fetched ++ rules.map (·.filePath) ∧
    (rules.foldl (forcedRound commit agents answers gs) acc).world.pushed
      = acc.world.pushed ++ rules.flatMap (pushesOf answers agents) := by
  refine ⟨?_, ?_⟩
  · induction rules generalizing acc with
    | nil => simp
    | cons rule rules ih =>
      rw [List.foldl_cons, ih, fetched_forcedRound]
      simp
  · rw [← entriesOf_eq_pushesOf]
    exact (records_recordingService commit agents answers gs).log_foldl_syncRule rules acc

/-- The SHA that the listing has for a path. -/
def Commit.shaOf (commit : Commit) (path : String) : String :=
  ((shaByPath commit.entries).lookup path).getD ""

/-- The fetch of the path succeeds. -/
def Answers.fetches (answers : Answers) (path : String) : Bool := (answers.fetch path).isOk

/-- A forced round caches the SHA of its file, if the fetch succeeds and there is a SHA. -/
theorem getFileSHA_forcedRound {acc : Loop Calls} (hsource : acc.store.HasSource gs.id)
    (rule : LabelRule) (path : String) :
    (forcedRound commit agents answers gs acc rule).store.getFileSHA gs.id path
      = if path = rule.filePath ∧ answers.fetches path = true ∧ commit.shaOf path ≠ "" then
          commit.shaOf path
        else acc.store.getFileSHA gs.id path := by
  have hstore : (forcedRound commit agents answers gs acc rule).store
      = match answers.fetch rule.filePath with
        | .error _ => acc.store
        | .ok _ => cacheFileSHA (recordingService commit agents answers) gs acc.store
            rule.filePath (commit.shaOf rule.filePath) :=
    store_syncRule_forced acc rule
  rw [hstore]
  cases hfetch : answers.fetch rule.filePath with
  | error err =>
    rw [if_neg]
    rintro ⟨rfl, hok, _⟩
    rw [Answers.fetches, hfetch] at hok
    cases hok
  | ok content =>
    dsimp only
    rw [getFileSHA_cacheFileSHA hsource]
    by_cases hpath : path = rule.filePath
    · subst hpath
      have hok : answers.fetches rule.filePath = true := by
        rw [Answers.fetches, hfetch]
        rfl
      simp only [true_and, hok]
    · rw [if_neg fun h => hpath h.1, if_neg fun h => hpath h.1]

/-- The file cache after a forced loop. -/
theorem getFileSHA_foldl_forcedRound {rules : List LabelRule} {acc : Loop Calls}
    (hsource : acc.store.HasSource gs.id) (path : String) :
    (rules.foldl (forcedRound commit agents answers gs) acc).store.getFileSHA gs.id path
      = if path ∈ rules.map (·.filePath) ∧ answers.fetches path = true ∧ commit.shaOf path ≠ "" then
          commit.shaOf path
        else acc.store.getFileSHA gs.id path := by
  induction rules generalizing acc with
  | nil => simp
  | cons rule rules ih =>
    have hsource' : (forcedRound commit agents answers gs acc rule).store.HasSource gs.id := by
      unfold Store.HasSource forcedRound
      rw [sources_syncRule]
      exact hsource
    rw [List.foldl_cons, ih hsource', getFileSHA_forcedRound hsource]
    simp only [List.map_cons, List.mem_cons]
    by_cases hcached : answers.fetches path = true ∧ commit.shaOf path ≠ ""
    · by_cases hmem : path ∈ rules.map (·.filePath)
      · rw [if_pos ⟨hmem, hcached⟩, if_pos ⟨Or.inr hmem, hcached⟩]
      · rw [if_neg fun h => hmem h.1]
        simp only [hmem, or_false]
    · rw [if_neg fun h => hcached h.2, if_neg fun h => hcached h.2, if_neg fun h => hcached h.2]

end Loop

/-! ### Two syncs -/

/-- The rules of the commit for a source. -/
def Commit.rules (commit : Commit) (gs : GitSource) : List LabelRule :=
  parseRules commit.entries gs.configRoot

/-- The rules whose files an unforced sync fetches. -/
def Commit.processed (commit : Commit) (gs : GitSource) (store : Store) : List LabelRule :=
  if commitUnchanged gs commit.sha then []
  else (commit.rules gs).filter (due gs store (shaByPath commit.entries))

/-- The sync attempted to push the file to the agent: it fetched the file, and pushed it unless
the fetch failed. -/
def Attempted (answers : Answers) (calls : Calls) (path : String) (id : UUID) : Prop :=
  path ∈ calls.fetched ∧ (answers.fetches path = false ∨ (path, id) ∈ calls.pushed)

/-- The sync attempted to push the file to the agent, and the fetch or the push failed. -/
def Failed (answers : Answers) (calls : Calls) (path : String) (id : UUID) : Prop :=
  path ∈ calls.fetched ∧ (answers.fetches path = false ∨
    ((path, id) ∈ calls.pushed ∧ answers.push path id ≠ none))

section TwoSyncs

variable {commit : Commit} {agents : List Types.Agent} {gs : GitSource} {store : Store}

variable (commit agents) in
/-- The record and the file cache after an unforced sync, and the commit it recorded. -/
theorem unforced_recordingSync (hvalid : gs.Valid) (hget : store.get gs.id = .ok gs)
    (answers : Answers) :
    let outcome := runSync (recordingService commit agents answers) gs false {} store
    outcome.world.fetched = (commit.processed gs store).map (·.filePath) ∧
    outcome.world.pushed = (commit.processed gs store).flatMap (pushesOf answers agents) ∧
    (∀ path, outcome.store.getFileSHA gs.id path
      = if path ∈ (commit.processed gs store).map (·.filePath) ∧ answers.fetches path = true ∧
            commit.shaOf path ≠ "" then commit.shaOf path
        else store.getFileSHA gs.id path) ∧
    ∃ gs', outcome.store.get gs.id = .ok gs' ∧ gs.SameSource gs' ∧
      gs'.lastSyncSHA = if commit.sha = "" then gs.lastSyncSHA else commit.sha := by
  dsimp only
  rw [runSync_of_ok hvalid rfl rfl rfl, Bool.not_false, Bool.true_and, Commit.processed]
  split
  -- The commit is the recorded one, and the sync ends before the loop.
  · rename_i hunchanged
    obtain ⟨hne, heq⟩ := Bool.and_eq_true_iff.mp hunchanged
    refine ⟨rfl, rfl, ?_, gs, hget, ⟨_, _, _, rfl⟩, ?_⟩
    · intro path
      simp
    · rw [if_neg (by simpa using hne)]
      exact (beq_iff_eq.mp heq).symm
  · have hsource := (Store.hasSource_of_get hget).1
    -- An unforced loop is the forced loop over the files that are due.
    have hloop : syncLoop (recordingService commit agents answers) gs false commit.entries agents
        {} store
        = ((commit.rules gs).filter (due gs store (shaByPath commit.entries))).foldl
            (forcedRound commit agents answers gs) { world := {}, store } :=
      foldl_syncRule_unforced (nodup_filePath_parseRules commit.nodup gs.configRoot) _
    rw [world_persistOutcome, hloop]
    obtain ⟨hfetched, hpushed⟩ := calls_foldl_forcedRound commit agents answers gs
      ((commit.rules gs).filter (due gs store (shaByPath commit.entries))) { world := {}, store }
    obtain ⟨status, syncErr, hstore⟩ := store_persistOutcome gs commit.sha
      (((commit.rules gs).filter (due gs store (shaByPath commit.entries))).foldl
        (forcedRound commit agents answers gs) { world := {}, store })
    refine ⟨hfetched, hpushed, ?_, ?_⟩
    · intro path
      rw [hstore, Store.getFileSHA_updateSyncState]
      exact getFileSHA_foldl_forcedRound hsource path
    · have hkept : Store.get (((commit.rules gs).filter
          (due gs store (shaByPath commit.entries))).foldl
          (forcedRound commit agents answers gs) { world := {}, store }).store gs.id = .ok gs := by
        have hsources : (((commit.rules gs).filter
            (due gs store (shaByPath commit.entries))).foldl
            (forcedRound commit agents answers gs) { world := {}, store }).store.sources
            = store.sources := sources_foldl_syncRule _ _ _
        unfold Store.get at hget ⊢
        rw [hsources]
        exact hget
      rw [hstore]
      exact ⟨_, Store.get_updateSyncState hkept _ _ _, ⟨_, _, _, rfl⟩, rfl⟩

/-- A sync attempts the pairs of the files it processes. -/
theorem attempted_iff {ds : List LabelRule} (hds : ∀ rule ∈ ds, rule ∈ commit.rules gs)
    {answers : Answers} {calls : Calls} (hfetched : calls.fetched = ds.map (·.filePath))
    (hpushed : calls.pushed = ds.flatMap (pushesOf answers agents)) {rule : LabelRule}
    (hrule : rule ∈ commit.rules gs) {a : Types.Agent} (ha : a ∈ matchAgents rule agents) :
    (rule.filePath ∈ calls.fetched ↔ rule ∈ ds) ∧
      ((rule.filePath, a.id) ∈ calls.pushed ↔
        rule ∈ ds ∧ answers.fetches rule.filePath = true) := by
  rw [hfetched, hpushed]
  refine ⟨?_, ?_⟩
  · rw [List.mem_map]
    constructor
    -- The files of the rules are distinct, so a path names its rule.
    · rintro ⟨rule', hrule', hpath⟩
      rw [← eq_of_filePath_eq (hds rule' hrule') hrule hpath]
      exact hrule'
    · intro hmem
      exact ⟨rule, hmem, rfl⟩
  · rw [List.mem_flatMap]
    constructor
    · rintro ⟨rule', hrule', hpush⟩
      unfold pushesOf at hpush
      split at hpush
      · cases hpush
      · rename_i content hfetch
        obtain ⟨a', _, hpair⟩ := List.mem_map.mp hpush
        have hpath := (Prod.mk.inj hpair).1
        have hsame := eq_of_filePath_eq (hds rule' hrule') hrule hpath
        subst hsame
        refine ⟨hrule', ?_⟩
        rw [Answers.fetches, hfetch]
        rfl
    · rintro ⟨hmem, hok⟩
      refine ⟨rule, hmem, ?_⟩
      unfold pushesOf
      unfold Answers.fetches at hok
      split
      · rename_i err hfetch
        rw [hfetch] at hok
        cases hok
      · exact List.mem_map.mpr ⟨a, ha, rfl⟩

/-- An attempted pair, in terms of the processed files. -/
theorem attempted_iff_mem {ds : List LabelRule} (hds : ∀ rule ∈ ds, rule ∈ commit.rules gs)
    {answers : Answers} {calls : Calls} (hfetched : calls.fetched = ds.map (·.filePath))
    (hpushed : calls.pushed = ds.flatMap (pushesOf answers agents)) {rule : LabelRule}
    (hrule : rule ∈ commit.rules gs) {a : Types.Agent} (ha : a ∈ matchAgents rule agents) :
    (Attempted answers calls rule.filePath a.id ↔ rule ∈ ds) ∧
      (Failed answers calls rule.filePath a.id ↔ rule ∈ ds ∧
        (answers.fetches rule.filePath = false ∨ answers.push rule.filePath a.id ≠ none)) := by
  obtain ⟨hfetch, hpush⟩ := attempted_iff hds hfetched hpushed hrule ha
  unfold Attempted Failed
  rw [hfetch, hpush]
  cases answers.fetches rule.filePath <;> simp

/-- The first sync. -/
abbrev firstSync (commit : Commit) (agents : List Types.Agent) (gs : GitSource) (first : Answers)
    (store : Store) : Outcome Calls :=
  runSync (recordingService commit agents first) gs false {} store

/-- The calls of the next sync, for which the poller reads the source again. -/
def secondCalls (commit : Commit) (agents : List Types.Agent) (gs : GitSource)
    (first second : Answers) (store : Store) : Calls :=
  (doSync (recordingService commit agents second) gs.id {}
    (firstSync commit agents gs first store).store).1

/-- The second sync attempts every pair that failed in the first one. -/
def Retried (commit : Commit) (agents : List Types.Agent) (gs : GitSource)
    (first second : Answers) (store : Store) : Prop :=
  ∀ rule ∈ commit.rules gs, ∀ a ∈ matchAgents rule agents,
    Failed first (firstSync commit agents gs first store).world rule.filePath a.id →
    Attempted second (secondCalls commit agents gs first second store) rule.filePath a.id

/-- Neither the commit nor the file cache records a file as done that failed for an agent. -/
def NeverRecorded (commit : Commit) (agents : List Types.Agent) (gs : GitSource)
    (first : Answers) (store : Store) : Prop :=
  ∀ rule ∈ commit.rules gs, ∀ a ∈ matchAgents rule agents,
    Failed first (firstSync commit agents gs first store).world rule.filePath a.id →
    ∀ gs', (firstSync commit agents gs first store).store.get gs.id = .ok gs' →
      commitUnchanged gs' commit.sha = false ∧
      fileUnchanged gs' (firstSync commit agents gs first store).store rule.filePath
        (commit.shaOf rule.filePath) = false

/-- No pair of a processed file fails. Or the provider has no commit SHA, and each file with a
push that fails has no SHA in the listing. -/
def FailuresKept (commit : Commit) (agents : List Types.Agent) (gs : GitSource) (first : Answers)
    (store : Store) : Prop :=
  (∀ rule ∈ commit.processed gs store, ∀ a ∈ matchAgents rule agents,
    first.fetches rule.filePath = true ∧ first.push rule.filePath a.id = none) ∨
  (commit.sha = "" ∧ ∀ rule ∈ commit.processed gs store, ∀ a ∈ matchAgents rule agents,
    first.fetches rule.filePath = true → first.push rule.filePath a.id ≠ none →
    commit.shaOf rule.filePath = "")

theorem mem_rules_of_mem_processed {rule : LabelRule} (h : rule ∈ commit.processed gs store) :
    rule ∈ commit.rules gs := by
  unfold Commit.processed at h
  split at h
  · cases h
  · exact (List.mem_filter.mp h).1

/-- The files of the first sync that the second one processes again. -/
theorem mem_processed_again (hvalid : gs.Valid) (hget : store.get gs.id = .ok gs)
    {first : Answers} {gs' : GitSource} {rule : LabelRule}
    (hrule : rule ∈ commit.processed gs store)
    (hget' : (firstSync commit agents gs first store).store.get gs.id = .ok gs') :
    (commitUnchanged gs' commit.sha = false ↔ commit.sha = "") ∧
    (fileUnchanged gs' (firstSync commit agents gs first store).store rule.filePath
        (commit.shaOf rule.filePath) = false ↔
      first.fetches rule.filePath = false ∨ commit.shaOf rule.filePath = "") := by
  obtain ⟨_, _, hcache, gs'', hget'', hsame, hsha⟩ :=
    unforced_recordingSync commit agents hvalid hget first
  rw [firstSync, hget''] at hget'
  cases hget'
  refine ⟨?_, ?_⟩
  · unfold commitUnchanged
    rw [hsha]
    by_cases hempty : commit.sha = "" <;> simp [hempty]
  · have hid : gs'.id = gs.id := by
      obtain ⟨_, _, _, rfl⟩ := hsame
      rfl
    -- The file was due, so the cache of the first sync did not have its SHA.
    have hdue : fileUnchanged gs store rule.filePath (commit.shaOf rule.filePath) = false := by
      unfold Commit.processed at hrule
      split at hrule
      · cases hrule
      · have hdue := (List.mem_filter.mp hrule).2
        unfold due at hdue
        simpa [Commit.shaOf] using hdue
    have hmem : rule.filePath ∈ (commit.processed gs store).map (·.filePath) :=
      List.mem_map.mpr ⟨rule, hrule, rfl⟩
    unfold fileUnchanged at hdue ⊢
    rw [firstSync, hid, hcache rule.filePath]
    by_cases hcached : first.fetches rule.filePath = true ∧ commit.shaOf rule.filePath ≠ ""
    · rw [if_pos ⟨hmem, hcached⟩]
      simp [hcached.1, hcached.2]
    · rw [if_neg fun h => hcached h.2]
      simp only [hdue, true_iff]
      rw [not_and_or, Bool.not_eq_true, not_not] at hcached
      exact hcached

/-- The pairs that fail keep their files due exactly under the condition. -/
theorem failuresKept_iff {first : Answers} :
    (∀ rule ∈ commit.rules gs, ∀ a ∈ matchAgents rule agents,
      (rule ∈ commit.processed gs store ∧
        (first.fetches rule.filePath = false ∨ first.push rule.filePath a.id ≠ none)) →
      commit.sha = "" ∧
        (first.fetches rule.filePath = false ∨ commit.shaOf rule.filePath = "")) ↔
    FailuresKept commit agents gs first store := by
  constructor
  · intro h
    by_cases hsha : commit.sha = ""
    · refine Or.inr ⟨hsha, ?_⟩
      intro rule hrule a ha hfetch hpush
      rcases (h rule (mem_rules_of_mem_processed hrule) a ha ⟨hrule, Or.inr hpush⟩).2 with
        hfails | hempty
      · rw [hfetch] at hfails
        cases hfails
      · exact hempty
    · refine Or.inl ?_
      intro rule hrule a ha
      have hok : ¬(first.fetches rule.filePath = false ∨ first.push rule.filePath a.id ≠ none) :=
        fun hfails => hsha (h rule (mem_rules_of_mem_processed hrule) a ha ⟨hrule, hfails⟩).1
      rw [not_or, Bool.not_eq_false, not_not] at hok
      exact hok
  · intro h rule _ a ha hfails
    obtain ⟨hmem, hfails⟩ := hfails
    rcases h with hnone | ⟨hsha, hempty⟩
    · obtain ⟨hfetch, hpush⟩ := hnone rule hmem a ha
      rcases hfails with hfalse | hsome
      · rw [hfetch] at hfalse
        cases hfalse
      · exact absurd hpush hsome
    · refine ⟨hsha, ?_⟩
      cases hfetch : first.fetches rule.filePath with
      | false => exact Or.inl rfl
      | true =>
        rcases hfails with hfalse | hsome
        · rw [hfetch] at hfalse
          cases hfalse
        · exact Or.inr (hempty rule hmem a ha hfetch hsome)

/-- A pair can fail in the first sync only for a file that it processed. -/
theorem failed_firstSync_iff (hvalid : gs.Valid) (hget : store.get gs.id = .ok gs)
    {first : Answers} {rule : LabelRule} (hrule : rule ∈ commit.rules gs) {a : Types.Agent}
    (ha : a ∈ matchAgents rule agents) :
    Failed first (firstSync commit agents gs first store).world rule.filePath a.id ↔
      rule ∈ commit.processed gs store ∧
        (first.fetches rule.filePath = false ∨ first.push rule.filePath a.id ≠ none) := by
  obtain ⟨hfetched, hpushed, _⟩ := unforced_recordingSync commit agents hvalid hget first
  exact (attempted_iff_mem (fun _ => mem_rules_of_mem_processed) hfetched hpushed hrule ha).2

/-- The second sync attempts the pairs of the files that it processes. -/
theorem attempted_secondCalls_iff (hvalid : gs.Valid) (hget : store.get gs.id = .ok gs)
    {first second : Answers} {rule : LabelRule} (hrule : rule ∈ commit.rules gs)
    (hmem : rule ∈ commit.processed gs store) {a : Types.Agent}
    (ha : a ∈ matchAgents rule agents) :
    Attempted second (secondCalls commit agents gs first second store) rule.filePath a.id ↔
      commit.sha = "" ∧
        (first.fetches rule.filePath = false ∨ commit.shaOf rule.filePath = "") := by
  obtain ⟨_, _, _, gs', hget', hsame, _⟩ := unforced_recordingSync commit agents hvalid hget first
  obtain ⟨hcommit, hfile⟩ := mem_processed_again hvalid hget hmem hget'
  have hrules : commit.rules gs' = commit.rules gs := by
    obtain ⟨_, _, _, rfl⟩ := hsame
    rfl
  have hid : gs'.id = gs.id := by
    obtain ⟨_, _, _, rfl⟩ := hsame
    rfl
  rw [← hid] at hget'
  obtain ⟨hfetched', hpushed', _⟩ :=
    unforced_recordingSync commit agents (hsame.valid hvalid) hget' second
  have hcalls : secondCalls commit agents gs first second store
      = (runSync (recordingService commit agents second) gs' false {}
          (firstSync commit agents gs first store).store).world := by
    unfold secondCalls doSync
    rw [← hid, firstSync, hget']
  rw [hcalls, (attempted_iff_mem (fun _ => mem_rules_of_mem_processed) hfetched' hpushed'
    (by rw [hrules]; exact hrule) ha).1, ← hcommit, ← hfile]
  -- The second sync skips the commit it knows, and then the files it knows.
  unfold Commit.processed
  rw [hrules]
  cases hunchanged : commitUnchanged gs' commit.sha with
  | true => simp
  | false =>
    rw [if_neg Bool.false_ne_true, List.mem_filter]
    simp only [due, hrule, true_and, Bool.not_eq_true', Commit.shaOf]

end TwoSyncs

/-- Take two unforced syncs of one commit, with any answers. The second one attempts every pair
that failed in the first one if and only if no pair failed, or the provider has no commit SHA
and each file with a failed push has no SHA. Under the same condition the first sync records no
file as done that failed for an agent. -/
theorem retried_iff (commit : Commit) (agents : List Types.Agent) (gs : GitSource)
    (first second : Answers) (store : Store) (hvalid : gs.Valid)
    (hget : store.get gs.id = .ok gs) :
    (Retried commit agents gs first second store ↔ FailuresKept commit agents gs first store) ∧
    (NeverRecorded commit agents gs first store ↔
      FailuresKept commit agents gs first store) := by
  rw [← failuresKept_iff]
  constructor
  · unfold Retried
    refine forall₄_congr ?_
    intro rule hrule a ha
    rw [failed_firstSync_iff hvalid hget hrule ha]
    refine imp_congr_right ?_
    rintro ⟨hmem, _⟩
    exact attempted_secondCalls_iff hvalid hget hrule hmem ha
  · obtain ⟨_, _, _, gs', hget', _⟩ := unforced_recordingSync commit agents hvalid hget first
    unfold NeverRecorded
    refine forall₄_congr ?_
    intro rule hrule a ha
    rw [failed_firstSync_iff hvalid hget hrule ha]
    refine imp_congr_right ?_
    rintro ⟨hmem, _⟩
    obtain ⟨hcommit, hfile⟩ := mem_processed_again hvalid hget hmem hget'
    rw [← hcommit, ← hfile]
    constructor
    · intro h
      exact h gs' hget'
    · intro h gs'' hget''
      rw [firstSync, hget'] at hget''
      cases hget''
      exact h

/-! ### A push that fails -/

/-- A source with a GitHub repository. -/
def repoSource : GitSource where
  id := "src-1"
  name := "configs"
  providerType := .github

theorem repoSource_valid : repoSource.Valid := by
  intro name h
  cases h

/-- An agent row without labels. -/
def unlabelledAgent : Types.Agent where
  id := .nil
  name := "agent"
  labels := ∅
  status := .online
  lastSeen := 0
  groupID := none
  groupName := none
  version := "1"
  capabilities := []
  createdAt := 0
  updatedAt := 0

/-- A commit with the fallback, which matches every agent. -/
def fallbackCommit : Commit where
  sha := "c1"
  entries := [⟨"configs/environments/default/base.yaml", "b1"⟩]
  nodup := by decide

/-- Every fetch succeeds, and every push fails or succeeds. -/
def pushAnswers (pushErr : Option String) : Answers where
  fetch _ := .ok [1]
  push _ _ := pushErr

theorem retried_iff_no_failure :
    (Retried fallbackCommit [unlabelledAgent] repoSource (pushAnswers none) (pushAnswers none)
        ⟨[repoSource], ∅⟩ ↔
      FailuresKept fallbackCommit [unlabelledAgent] repoSource (pushAnswers none)
        ⟨[repoSource], ∅⟩) ∧
    (NeverRecorded fallbackCommit [unlabelledAgent] repoSource (pushAnswers none)
        ⟨[repoSource], ∅⟩ ↔
      FailuresKept fallbackCommit [unlabelledAgent] repoSource (pushAnswers none)
        ⟨[repoSource], ∅⟩) :=
  retried_iff fallbackCommit [unlabelledAgent] repoSource (pushAnswers none) (pushAnswers none)
    ⟨[repoSource], ∅⟩ repoSource_valid rfl

/-- The agent does not confirm the push of the first sync. The second sync stops at the
commit. -/
theorem failed_push_not_retried :
    ¬ ∀ (commit : Commit) (agents : List Types.Agent) (gs : GitSource) (first second : Answers)
      (store : Store), gs.Valid → store.get gs.id = .ok gs →
      (runSync (recordingService commit agents first) gs false {} store).result.errors ≠ [] →
      Retried commit agents gs first second store := by
  intro hall
  let timeout : Answers := pushAnswers (some "timeout waiting for agent to apply config")
  have herrors : (runSync (recordingService fallbackCommit [unlabelledAgent] timeout) repoSource
      false {} ⟨[repoSource], ∅⟩).result.errors ≠ [] := by decide +kernel
  have hretried := hall fallbackCommit [unlabelledAgent] repoSource timeout (pushAnswers none)
    ⟨[repoSource], ∅⟩ repoSource_valid rfl herrors
  -- The push failed in the first sync.
  have hfailed : Failed timeout (firstSync fallbackCommit [unlabelledAgent] repoSource timeout
      ⟨[repoSource], ∅⟩).world "configs/environments/default/base.yaml" .nil := by
    refine ⟨by decide +kernel, Or.inr ⟨by decide +kernel, ?_⟩⟩
    intro h
    cases h
  obtain ⟨hfetched, _⟩ := hretried
    { filePath := "configs/environments/default/base.yaml", selectors := ∅ }
    (List.mem_singleton.mpr rfl) unlabelledAgent (List.mem_singleton.mpr rfl) hfailed
  have hnone : (secondCalls fallbackCommit [unlabelledAgent] repoSource timeout
      (pushAnswers none) ⟨[repoSource], ∅⟩).fetched = [] := by decide +kernel
  rw [hnone] at hfetched
  cases hfetched

end OtelHive.Gitsync
