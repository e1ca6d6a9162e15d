import OtelHive.Gitsync.Service
import OtelHive.Lib.Table

/-!
# `OtelHive.Proofs.Gitsync.Service`: the loop over the rules

The lemmas here hold in every world `σ`, so each use of the sync service shares them.

Two rules of one listing with the same path are equal (`eq_of_filePath_eq`), so the file
cache, whose key is the path, tells the rules apart. In a listing that has each path once, no
round of the loop decides whether a later round is skipped. So an unforced loop is a forced
loop over the rules whose file is not in the cache when the loop starts
(`foldl_syncRule_unforced`).

`runSync_of_ok` is a sync that reaches the loop.
-/

set_option autoImplicit false

namespace OtelHive.Gitsync

open OtelHive.Lib

/-! ### Rules -/

/-- A rule has the path of its file. -/
theorem filePath_of_ruleOf {root : List Char} {e : FileEntry} {rule : LabelRule}
    (h : ruleOf root e = some rule) : rule.filePath = e.path := by
  rw [ruleOf, Option.map_eq_some_iff] at h
  obtain ⟨selectors, _, rfl⟩ := h
  rfl

/-- The rule of a file depends on its path only. -/
theorem ruleOf_eq_of_path_eq {root : List Char} {e₁ e₂ : FileEntry} (h : e₁.path = e₂.path) :
    ruleOf root e₁ = ruleOf root e₂ := by
  rw [ruleOf, ruleOf, h]

/-- Rules of one listing with the same path are equal. -/
theorem eq_of_filePath_eq {entries : List FileEntry} {configRoot : String}
    {rule₁ rule₂ : LabelRule} (h₁ : rule₁ ∈ parseRules entries configRoot)
    (h₂ : rule₂ ∈ parseRules entries configRoot) (h : rule₁.filePath = rule₂.filePath) :
    rule₁ = rule₂ := by
  rw [parseRules, List.mem_filterMap] at h₁ h₂
  obtain ⟨e₁, _, he₁⟩ := h₁
  obtain ⟨e₂, _, he₂⟩ := h₂
  have hpath : e₁.path = e₂.path := by
    rw [← filePath_of_ruleOf he₁, ← filePath_of_ruleOf he₂, h]
  rw [ruleOf_eq_of_path_eq hpath, he₂] at he₁
  exact (Option.some.inj he₁).symm

/-- A listing that has each path once gives rules with different paths. -/
theorem nodup_filePath_parseRules {entries : List FileEntry}
    (h : (entries.map (·.path)).Nodup) (configRoot : String) :
    ((parseRules entries configRoot).map (·.filePath)).Nodup := by
  rw [List.Nodup, List.pairwise_map] at h ⊢
  rw [parseRules, List.pairwise_filterMap]
  refine h.imp ?_
  intro e₁ e₂ hne rule₁ h₁ rule₂ h₂
  rw [filePath_of_ruleOf h₁, filePath_of_ruleOf h₂]
  exact hne

/-- The lookup finds the SHA of a listed file with the path. -/
theorem lookup_shaByPath {entries : List FileEntry} {path : String}
    (h : ∃ e ∈ entries, e.path = path) :
    ∃ e ∈ entries, (shaByPath entries).lookup path = some e.sha := by
  unfold shaByPath
  induction entries using List.reverseRecOn with
  | nil =>
    obtain ⟨e, he, _⟩ := h
    cases he
  | append_singleton entries last ih =>
    rw [List.foldl_append, List.foldl_cons, List.foldl_nil, GoMap.lookup_insert_eq]
    by_cases hlast : path = last.path
    · exact ⟨last, List.mem_append_right _ (List.mem_singleton_self last), if_pos hlast⟩
    · rw [if_neg hlast]
      obtain ⟨e, he, hpath⟩ := h
      rcases List.mem_append.mp he with hold | hnew
      · obtain ⟨found, hfound, hlookup⟩ := ih ⟨e, hold, hpath⟩
        exact ⟨found, List.mem_append_left _ hfound, hlookup⟩
      · rw [List.mem_singleton.mp hnew] at hpath
        exact absurd hpath.symm hlast

/-! ### Store -/

namespace Store

/-- The row of the source exists. -/
def HasSource (s : Store) (id : String) : Prop := s.sources.any (·.id == id) = true

/-- A source that is read has a row. -/
theorem hasSource_of_get {s : Store} {id : String} {gs : GitSource} (h : s.get id = .ok gs) :
    s.HasSource id ∧ gs.id = id := by
  unfold get at h
  split at h
  · rename_i gs' hfind
    cases h
    have hid := List.find?_some hfind
    exact ⟨List.any_eq_true.mpr ⟨gs, List.mem_of_find?_eq_some hfind, hid⟩, by simpa using hid⟩
  · cases h

/-- The rows after `UpdateSyncState`. -/
theorem find?_updateSyncState (s : Store) (id sha : String) (status : SyncStatus)
    (syncErr id' : String) :
    (s.updateSyncState id sha status syncErr).sources.find? (·.id == id')
      = if id' = id then (s.sources.find? (·.id == id')).map fun gs =>
          { gs with lastSyncSHA := sha, lastSyncStatus := status, lastSyncError := syncErr }
        else s.sources.find? (·.id == id') :=
  find?_update_key (f := fun gs : GitSource =>
    { gs with lastSyncSHA := sha, lastSyncStatus := status, lastSyncError := syncErr })
    (fun _ => rfl) id id'

/-- `UpdateSyncState` of a source that is read. -/
theorem get_updateSyncState {s : Store} {id : String} {gs : GitSource} (h : s.get id = .ok gs)
    (sha : String) (status : SyncStatus) (syncErr : String) :
    (s.updateSyncState id sha status syncErr).get id
      = .ok { gs with lastSyncSHA := sha, lastSyncStatus := status, lastSyncError := syncErr } := by
  unfold get at *
  rw [find?_updateSyncState, if_pos rfl]
  cases hfind : s.sources.find? (·.id == id) with
  | none =>
    rw [hfind] at h
    cases h
  | some row =>
    rw [hfind] at h
    cases h
    rfl

/-- `UpdateSyncState` of another source. -/
theorem get_updateSyncState_of_ne (s : Store) {id id' : String} (hne : id' ≠ id) (sha : String)
    (status : SyncStatus) (syncErr : String) :
    (s.updateSyncState id sha status syncErr).get id' = s.get id' := by
  unfold get
  rw [find?_updateSyncState, if_neg hne]

/-- `UpdateSyncState` does not touch the file cache. -/
@[simp] theorem getFileSHA_updateSyncState (s : Store) (id sha : String) (status : SyncStatus)
    (syncErr sourceID path : String) :
    (s.updateSyncState id sha status syncErr).getFileSHA sourceID path
      = s.getFileSHA sourceID path := rfl

end Store

variable {σ : Type} {svc : Service σ} {gs : GitSource} {store : Store}

@[simp] theorem sources_cacheFileSHA (path fileSHA : String) :
    (cacheFileSHA svc gs store path fileSHA).sources = store.sources := by
  unfold cacheFileSHA Store.upsertFileSHA
  split
  · rfl
  · split <;> rfl

/-- A file is in the cache after the loop is done with it, if it has a SHA. -/
theorem getFileSHA_cacheFileSHA (hsource : store.HasSource gs.id) (path fileSHA path' : String) :
    (cacheFileSHA svc gs store path fileSHA).getFileSHA gs.id path'
      = if path' = path ∧ fileSHA ≠ "" then fileSHA else store.getFileSHA gs.id path' := by
  unfold cacheFileSHA
  by_cases hsha : fileSHA = ""
  · rw [if_pos hsha, if_neg fun h => h.2 hsha]
  · rw [if_neg hsha]
    -- The source has a row, so the foreign key holds.
    have hupsert : store.upsertFileSHA svc.foreignKeys gs.id path fileSHA
        = { store with fileSHAs := store.fileSHAs.insert (gs.id, path) fileSHA } := by
      unfold Store.upsertFileSHA
      rw [show store.sources.any (·.id == gs.id) = true from hsource, Bool.not_true,
        Bool.and_false]
      rfl
    rw [hupsert]
    unfold Store.getFileSHA
    dsimp only
    rw [GoMap.lookup_insert_eq]
    by_cases hpath : path' = path
    · rw [if_pos (by rw [hpath]), if_pos ⟨hpath, hsha⟩]
      rfl
    · rw [if_neg (fun h => hpath (Prod.mk.inj h).2), if_neg fun h => hpath h.1]

/-- The cache of one file says nothing about another file. -/
theorem fileUnchanged_cacheFileSHA_of_ne {path path' : String} (hpath : path' ≠ path)
    (fileSHA fileSHA' : String) :
    fileUnchanged gs (cacheFileSHA svc gs store path fileSHA) path' fileSHA'
      = fileUnchanged gs store path' fileSHA' := by
  have hget : (cacheFileSHA svc gs store path fileSHA).getFileSHA gs.id path'
      = store.getFileSHA gs.id path' := by
    unfold cacheFileSHA Store.upsertFileSHA Store.getFileSHA
    split
    · rfl
    · split
      · rfl
      · dsimp only
        rw [GoMap.lookup_insert_eq, if_neg fun h => hpath (Prod.mk.inj h).2]
  unfold fileUnchanged
  rw [hget]

/-! ### The loop -/

/-- A push does not touch the store. -/
theorem store_pushTo (content : Bytes) (acc : Loop σ) (a : Types.Agent) :
    (pushTo svc content acc a).store = acc.store := by
  unfold pushTo
  split <;> rfl

/-- The pushes of one file do not touch the store. -/
theorem store_foldl_pushTo (content : Bytes) (agents : List Types.Agent) (acc : Loop σ) :
    (agents.foldl (pushTo svc content) acc).store = acc.store := by
  induction agents generalizing acc with
  | nil => rfl
  | cons a agents ih => rw [List.foldl_cons, ih, store_pushTo]

/-- The world after a push. -/
theorem world_pushTo (content : Bytes) (acc : Loop σ) (a : Types.Agent) :
    (pushTo svc content acc a).world = (svc.sendConfigToAgent a.id content acc.world).1 := by
  unfold pushTo
  split
  · rename_i h
    rw [h]
  · rename_i h
    rw [h]

/-- The world after the pushes of one file. -/
theorem world_foldl_pushTo (content : Bytes) (agents : List Types.Agent) (acc : Loop σ) :
    (agents.foldl (pushTo svc content) acc).world
      = agents.foldl (fun world a => (svc.sendConfigToAgent a.id content world).1) acc.world := by
  refine (List.foldl_hom Loop.world ?_).symm
  intro acc a
  exact (world_pushTo content acc a).symm

variable {prov : Provider σ} {shas : GoMap String String} {agents : List Types.Agent}

/-- What a forced round does to the store: nothing after a fetch that failed, else it caches
the file. -/
theorem store_syncRule_forced (acc : Loop σ) (rule : LabelRule) :
    (syncRule svc prov gs true shas agents acc rule).store
      = match (prov.fetchFile rule.filePath ((shas.lookup rule.filePath).getD "") acc.world).2 with
        | .error _ => acc.store
        | .ok _ =>
          cacheFileSHA svc gs acc.store rule.filePath ((shas.lookup rule.filePath).getD "") := by
  unfold syncRule
  dsimp only
  rw [Bool.not_true, Bool.false_and, if_neg Bool.false_ne_true]
  generalize prov.fetchFile rule.filePath ((shas.lookup rule.filePath).getD "") acc.world = fetched
  obtain ⟨world, content⟩ := fetched
  cases content with
  | error err => rfl
  | ok content =>
    dsimp only
    split
    · rfl
    · rw [store_foldl_pushTo]

/-- The world after a forced round: the fetch, and the pushes to the matched agents if it
succeeds. -/
theorem world_syncRule_forced (acc : Loop σ) (rule : LabelRule) :
    (syncRule svc prov gs true shas agents acc rule).world
      = match prov.fetchFile rule.filePath ((shas.lookup rule.filePath).getD "") acc.world with
        | (world, .error _) => world
        | (world, .ok content) => (matchAgents rule agents).foldl
            (fun world a => (svc.sendConfigToAgent a.id content world).1) world := by
  unfold syncRule
  dsimp only
  rw [Bool.not_true, Bool.false_and, if_neg Bool.false_ne_true]
  generalize prov.fetchFile rule.filePath ((shas.lookup rule.filePath).getD "") acc.world = fetched
  obtain ⟨world, content⟩ := fetched
  cases content with
  | error err => rfl
  | ok content =>
    dsimp only
    split
    · rename_i hnone
      rw [hnone]
      rfl
    · exact world_foldl_pushTo content _ _

/-- A round does not touch the sources. -/
theorem sources_syncRule (forceAll : Bool) (acc : Loop σ) (rule : LabelRule) :
    (syncRule svc prov gs forceAll shas agents acc rule).store.sources = acc.store.sources := by
  have hforced : (syncRule svc prov gs true shas agents acc rule).store.sources
      = acc.store.sources := by
    rw [store_syncRule_forced]
    split
    · rfl
    · exact sources_cacheFileSHA _ _
  unfold syncRule at hforced ⊢
  dsimp only at hforced ⊢
  split
  · rfl
  · exact hforced

/-- The loop does not touch the sources. -/
theorem sources_foldl_syncRule (forceAll : Bool) (rules : List LabelRule) (acc : Loop σ) :
    (rules.foldl (syncRule svc prov gs forceAll shas agents) acc).store.sources
      = acc.store.sources := by
  induction rules generalizing acc with
  | nil => rfl
  | cons rule rules ih => rw [List.foldl_cons, ih, sources_syncRule]

/-- The loop does not skip the rule: its SHA is not the cached one. -/
def due (gs : GitSource) (store : Store) (shas : GoMap String String) (rule : LabelRule) : Bool :=
  !fileUnchanged gs store rule.filePath ((shas.lookup rule.filePath).getD "")

/-- A round on one file says nothing about whether another file is due. -/
theorem due_syncRule_forced {rule rule' : LabelRule} (hpath : rule'.filePath ≠ rule.filePath)
    (acc : Loop σ) :
    due gs (syncRule svc prov gs true shas agents acc rule).store shas rule'
      = due gs acc.store shas rule' := by
  unfold due
  rw [store_syncRule_forced]
  split
  · rfl
  · rw [fileUnchanged_cacheFileSHA_of_ne hpath]

/-- An unforced round is a forced round on a rule that is due. -/
theorem syncRule_unforced (acc : Loop σ) (rule : LabelRule) :
    syncRule svc prov gs false shas agents acc rule
      = if due gs acc.store shas rule then syncRule svc prov gs true shas agents acc rule
        else acc := by
  unfold syncRule due
  dsimp only
  cases fileUnchanged gs acc.store rule.filePath ((shas.lookup rule.filePath).getD "") <;> rfl

/-- An unforced loop is a forced loop over the rules that are due when it starts. -/
theorem foldl_syncRule_unforced {rules : List LabelRule}
    (hnodup : (rules.map (·.filePath)).Nodup) (acc : Loop σ) :
    rules.foldl (syncRule svc prov gs false shas agents) acc
      = (rules.filter (due gs acc.store shas)).foldl (syncRule svc prov gs true shas agents)
          acc := by
  induction rules generalizing acc with
  | nil => rfl
  | cons rule rules ih =>
    rw [List.map_cons, List.nodup_cons] at hnodup
    rw [List.foldl_cons, syncRule_unforced]
    cases hdue : due gs acc.store shas rule with
    | false =>
      rw [if_neg Bool.false_ne_true, ih hnodup.2, List.filter_cons_of_neg (by rw [hdue]; decide)]
    | true =>
      rw [if_pos rfl, ih hnodup.2, List.filter_cons_of_pos hdue, List.foldl_cons]
      -- The round on this file leaves the other files as due as they were.
      have hsame : rules.filter
            (due gs (syncRule svc prov gs true shas agents acc rule).store shas)
          = rules.filter (due gs acc.store shas) := by
        refine List.filter_congr ?_
        intro rule' hrule'
        refine due_syncRule_forced ?_ acc
        intro hpath
        exact hnodup.1 (List.mem_map.mpr ⟨rule', hrule', hpath⟩)
      rw [hsame]

/-! ### Syncs -/

/-- The provider of the source is one of the known ones. `validate` checks this when a source
is created or changed. -/
def GitSource.Valid (gs : GitSource) : Prop := ∀ name, gs.providerType ≠ .other name

/-- A valid source gets its provider. -/
theorem newProvider_of_valid (hvalid : gs.Valid) (svc : Service σ) :
    newProvider svc gs = .ok (svc.provider gs) := by
  unfold newProvider
  split
  · rename_i name hname
    exact absurd hname (hvalid name)
  · rfl

/-- The unforced sync stops at the commit: it is the one of the last sync. -/
def commitUnchanged (gs : GitSource) (commitSHA : String) : Bool :=
  commitSHA != "" && commitSHA == gs.lastSyncSHA

/-- The loop of a sync. -/
def syncLoop (svc : Service σ) (gs : GitSource) (forceAll : Bool) (entries : List FileEntry)
    (agents : List Types.Agent) (world : σ) (store : Store) : Loop σ :=
  (parseRules entries gs.configRoot).foldl
    (syncRule svc (svc.provider gs) gs forceAll (shaByPath entries) agents) { world, store }

/-- A sync whose calls before the loop succeed. -/
theorem runSync_of_ok (hvalid : gs.Valid) {world : σ} {commitSHA : String}
    {entries : List FileEntry} {agents : List Types.Agent}
    (hcommit : (svc.provider gs).latestCommitSHA gs.branch world = .ok commitSHA)
    (hfiles : (svc.provider gs).listFiles gs.branch gs.configRoot world = .ok entries)
    (hagents : svc.listAgents world = .ok agents) (forceAll : Bool) (store : Store) :
    runSync svc gs forceAll world store
      = if !forceAll && commitUnchanged gs commitSHA then
          { world, store, result := { sourceID := gs.id } }
        else
          persistOutcome gs commitSHA
            (syncLoop svc gs forceAll entries agents world store) := by
  unfold runSync
  rw [newProvider_of_valid hvalid]
  dsimp only
  rw [hcommit]
  dsimp only
  rw [hfiles]
  dsimp only
  rw [hagents, Bool.and_assoc]
  rfl

/-- The world after the outcome is persisted. -/
@[simp] theorem world_persistOutcome (gs : GitSource) (commitSHA : String) (acc : Loop σ) :
    (persistOutcome gs commitSHA acc).world = acc.world := by
  unfold persistOutcome
  dsimp only
  split <;> rfl

/-- The store after the outcome is persisted: the commit is recorded, whether or not the loop
had errors. -/
theorem store_persistOutcome (gs : GitSource) (commitSHA : String) (acc : Loop σ) :
    ∃ status syncErr, (persistOutcome gs commitSHA acc).store
      = acc.store.updateSyncState gs.id (if commitSHA = "" then gs.lastSyncSHA else commitSHA)
          status syncErr := by
  unfold persistOutcome
  dsimp only
  split
  · exact ⟨_, _, rfl⟩
  · exact ⟨_, _, rfl⟩

/-- What a sync can do: fail before the loop, stop at the commit, or run the loop. -/
theorem runSync_cases (svc : Service σ) (gs : GitSource) (forceAll : Bool) (world : σ)
    (store : Store) :
    (∃ sha err result text, runSync svc gs forceAll world store
      = { world, store := recordFailure store gs.id sha err, result, err := some text }) ∨
    (∃ result, runSync svc gs forceAll world store = { world, store, result }) ∨
    (∃ commitSHA entries agents,
      (svc.provider gs).listFiles gs.branch gs.configRoot world = .ok entries ∧
      svc.listAgents world = .ok agents ∧
      runSync svc gs forceAll world store
        = persistOutcome gs commitSHA (syncLoop svc gs forceAll entries agents world store)) := by
  unfold runSync
  dsimp only
  cases hprov : newProvider svc gs with
  | error err => exact Or.inl ⟨_, _, _, _, rfl⟩
  | ok prov =>
    have hprov' : prov = svc.provider gs := by
      unfold newProvider at hprov
      split at hprov
      · cases hprov
      · exact (Except.ok.inj hprov).symm
    subst hprov'
    dsimp only
    split
    · exact Or.inl ⟨_, _, _, _, rfl⟩
    · split
      · exact Or.inr (Or.inl ⟨_, rfl⟩)
      · split
        · exact Or.inl ⟨_, _, _, _, rfl⟩
        · rename_i entries hfiles
          split
          · exact Or.inl ⟨_, _, _, _, rfl⟩
          · rename_i agents hagents
            exact Or.inr (Or.inr ⟨_, entries, agents, hfiles, hagents, rfl⟩)

/-- The same source with another sync state. -/
def GitSource.SameSource (gs gs' : GitSource) : Prop :=
  ∃ lastSyncSHA lastSyncStatus lastSyncError,
    gs' = { gs with lastSyncSHA, lastSyncStatus, lastSyncError }

theorem GitSource.SameSource.trans {gs₁ gs₂ gs₃ : GitSource} (h₁ : gs₁.SameSource gs₂)
    (h₂ : gs₂.SameSource gs₃) : gs₁.SameSource gs₃ := by
  obtain ⟨_, _, _, rfl⟩ := h₁
  obtain ⟨_, _, _, rfl⟩ := h₂
  exact ⟨_, _, _, rfl⟩

theorem GitSource.SameSource.valid {gs gs' : GitSource} (h : gs.SameSource gs')
    (hvalid : gs.Valid) : gs'.Valid := by
  obtain ⟨_, _, _, rfl⟩ := h
  exact hvalid

/-- A write of the sync state changes the sync state only. -/
theorem Store.sameSource_updateSyncState {s : Store} {id : String} {gs : GitSource}
    (h : s.get id = .ok gs) (id' sha : String) (status : SyncStatus) (syncErr : String) :
    ∃ gs', (s.updateSyncState id' sha status syncErr).get id = .ok gs' ∧ gs.SameSource gs' := by
  by_cases hid : id = id'
  · subst hid
    exact ⟨_, get_updateSyncState h _ _ _, ⟨_, _, _, rfl⟩⟩
  · rw [get_updateSyncState_of_ne s hid]
    exact ⟨gs, h, ⟨_, _, _, rfl⟩⟩

/-- A sync changes the source in its sync state only. -/
theorem get_runSync {id : String} (hget : store.get id = .ok gs) (svc : Service σ)
    (forceAll : Bool) (world : σ) :
    ∃ gs', (runSync svc gs forceAll world store).store.get id = .ok gs' ∧ gs.SameSource gs' := by
  have hid : gs.id = id := (Store.hasSource_of_get hget).2
  rcases runSync_cases svc gs forceAll world store with ⟨sha, err, result, text, hsync⟩ |
    ⟨result, hsync⟩ | ⟨commitSHA, entries, agents, _, _, hsync⟩
  · rw [hsync]
    dsimp only [recordFailure]
    rw [hid]
    exact ⟨_, Store.get_updateSyncState hget _ _ _, ⟨_, _, _, rfl⟩⟩
  · rw [hsync]
    exact ⟨gs, hget, ⟨_, _, _, rfl⟩⟩
  · obtain ⟨status, syncErr, hstore⟩ := store_persistOutcome gs commitSHA
      (syncLoop svc gs forceAll entries agents world store)
    have hsources : (syncLoop svc gs forceAll entries agents world store).store.sources
        = store.sources := sources_foldl_syncRule _ _ _
    have hloop : (syncLoop svc gs forceAll entries agents world store).store.get id = .ok gs := by
      unfold Store.get at hget ⊢
      rw [hsources]
      exact hget
    rw [hsync, hstore, hid]
    exact ⟨_, Store.get_updateSyncState hloop _ _ _, ⟨_, _, _, rfl⟩⟩

/-! ### Records of the world -/

/-- The world records the pushes: a fetch says which file comes next, and a push is written to
the log with that file. What a fetch returns depends on the path only. -/
structure Records {α : Type} (svc : Service σ) (prov : Provider σ)
    (answer : String → Except String Bytes) (current : σ → String) (log : σ → List α)
    (entry : String → UUID → Bytes → α) : Prop where
  result : ∀ path fileSHA w, (prov.fetchFile path fileSHA w).2 = answer path
  fetched : ∀ path fileSHA w, current (prov.fetchFile path fileSHA w).1 = path ∧
    log (prov.fetchFile path fileSHA w).1 = log w
  pushed : ∀ id content w, current (svc.sendConfigToAgent id content w).1 = current w ∧
    log (svc.sendConfigToAgent id content w).1 = log w ++ [entry (current w) id content]

/-- The entries of one rule. -/
def entriesOf {α : Type} (answer : String → Except String Bytes)
    (entry : String → UUID → Bytes → α) (agents : List Types.Agent) (rule : LabelRule) : List α :=
  match answer rule.filePath with
  | .error _ => []
  | .ok content => (matchAgents rule agents).map fun a => entry rule.filePath a.id content

section Records

variable {α : Type} {answer : String → Except String Bytes} {current : σ → String}
variable {log : σ → List α} {entry : String → UUID → Bytes → α}

/-- The log after the pushes of one file. -/
theorem Records.log_foldl_push (h : Records svc prov answer current log entry) (content : Bytes)
    (matched : List Types.Agent) (w : σ) :
    log (matched.foldl (fun w a => (svc.sendConfigToAgent a.id content w).1) w)
      = log w ++ matched.map fun a => entry (current w) a.id content := by
  induction matched generalizing w with
  | nil => simp
  | cons a matched ih =>
    obtain ⟨hcurrent, hlog⟩ := h.pushed a.id content w
    rw [List.foldl_cons, ih, hcurrent, hlog]
    simp

/-- The log after a forced round. -/
theorem Records.log_syncRule (h : Records svc prov answer current log entry) (acc : Loop σ)
    (rule : LabelRule) :
    log (syncRule svc prov gs true shas agents acc rule).world
      = log acc.world ++ entriesOf answer entry agents rule := by
  rw [world_syncRule_forced]
  have hresult := h.result rule.filePath ((shas.lookup rule.filePath).getD "") acc.world
  have hfetched := h.fetched rule.filePath ((shas.lookup rule.filePath).getD "") acc.world
  generalize prov.fetchFile rule.filePath ((shas.lookup rule.filePath).getD "") acc.world
    = fetched at hresult hfetched
  obtain ⟨w, result⟩ := fetched
  obtain ⟨hcurrent, hlog⟩ := hfetched
  unfold entriesOf
  rw [← hresult, ← hlog]
  cases result with
  | error err => exact (List.append_nil _).symm
  | ok content =>
    dsimp only at hcurrent ⊢
    rw [h.log_foldl_push, hcurrent]

/-- The log after a forced loop. -/
theorem Records.log_foldl_syncRule (h : Records svc prov answer current log entry)
    (rules : List LabelRule) (acc : Loop σ) :
    log (rules.foldl (syncRule svc prov gs true shas agents) acc).world
      = log acc.world ++ rules.flatMap (entriesOf answer entry agents) := by
  induction rules generalizing acc with
  | nil => simp
  | cons rule rules ih =>
    rw [List.foldl_cons, ih, h.log_syncRule]
    simp

end Records

/-! ### Invariants of the world -/

/-- A property that a push of the content to each agent keeps. -/
theorem world_foldl_sendConfigToAgent {J : σ → Prop} (content : Bytes)
    {matched : List Types.Agent}
    (hpush : ∀ a ∈ matched, ∀ w, J w → J (svc.sendConfigToAgent a.id content w).1) {w : σ}
    (h : J w) : J (matched.foldl (fun w a => (svc.sendConfigToAgent a.id content w).1) w) := by
  induction matched generalizing w with
  | nil => exact h
  | cons a matched ih =>
    rw [List.foldl_cons]
    exact ih (fun a' ha' => hpush a' (List.mem_cons_of_mem a ha'))
      (hpush a List.mem_cons_self w h)

/-- A property that the fetch and the pushes of one round keep holds after the round. -/
theorem world_syncRule {J : σ → Prop} {rule : LabelRule}
    (hfetch : ∀ path fileSHA w, J w → J (prov.fetchFile path fileSHA w).1)
    (hpush : ∀ a ∈ matchAgents rule agents, ∀ fileSHA content w₀ w,
      (prov.fetchFile rule.filePath fileSHA w₀).2 = .ok content → J w →
      J (svc.sendConfigToAgent a.id content w).1)
    (forceAll : Bool) {acc : Loop σ} (h : J acc.world) :
    J (syncRule svc prov gs forceAll shas agents acc rule).world := by
  have hforced : J (syncRule svc prov gs true shas agents acc rule).world := by
    have hfetched := hfetch rule.filePath ((shas.lookup rule.filePath).getD "") acc.world h
    rw [world_syncRule_forced]
    split
    · rename_i w err heq
      rw [heq] at hfetched
      exact hfetched
    · rename_i w content heq
      rw [heq] at hfetched
      refine world_foldl_sendConfigToAgent content ?_ hfetched
      intro a ha w' hw'
      exact hpush a ha _ content acc.world w' (by rw [heq]) hw'
  cases forceAll with
  | true => exact hforced
  | false =>
    rw [syncRule_unforced]
    split
    · exact hforced
    · exact h

/-- A property that the fetches and the pushes of a sync keep holds after the sync. A push
sends the content that a fetch returned for a listed rule, to an agent of the listing that the
rule matches. -/
theorem world_runSync {J : σ → Prop} {world : σ}
    (hfetch : ∀ path fileSHA w, J w → J ((svc.provider gs).fetchFile path fileSHA w).1)
    (hpush : ∀ entries agents rule a fileSHA content w₀ w,
      (svc.provider gs).listFiles gs.branch gs.configRoot world = .ok entries →
      svc.listAgents world = .ok agents → rule ∈ parseRules entries gs.configRoot →
      a ∈ matchAgents rule agents →
      ((svc.provider gs).fetchFile rule.filePath fileSHA w₀).2 = .ok content →
      J w → J (svc.sendConfigToAgent a.id content w).1)
    (forceAll : Bool) (store : Store) (h : J world) :
    J (runSync svc gs forceAll world store).world := by
  rcases runSync_cases svc gs forceAll world store with ⟨sha, err, result, text, hsync⟩ |
    ⟨result, hsync⟩ | ⟨commitSHA, entries, agents, hfiles, hagents, hsync⟩
  · rw [hsync]
    exact h
  · rw [hsync]
    exact h
  · rw [hsync, world_persistOutcome, syncLoop]
    refine List.foldlRecOn (motive := fun acc : Loop σ => J acc.world) _ _ h ?_
    intro acc hacc rule hrule
    refine world_syncRule hfetch ?_ forceAll hacc
    intro a ha fileSHA content w₀ w hfetched hw
    exact hpush entries agents rule a fileSHA content w₀ w hfiles hagents hrule ha hfetched hw

end OtelHive.Gitsync
