import OtelHive.Gitsync.Concurrent
import OtelHive.Lib.Lists
import OtelHive.Lib.Runs
import OtelHive.Proofs.Gitsync.Retry
import OtelHive.Proofs.Gitsync.Steps

/-!
# `OtelHive.Proofs.Gitsync.Concurrent`: what the syncs of a source settle on

The file cache is to say what the agents hold. Take an agent that one file of the repository
matches and no other. Between the fetch of the file and the record of its SHA a sync is busy with
the file. `Agrees` is the invariant: a sync is busy with the file, or nothing is cached for it, or
the agent holds the content of the cached SHA.

Two syncs that are busy with one file break it when the one that records last is not the one that
pushed last (`stale_recorded`). `Orderly` is the condition on a step under which it stays, and
`settled_along` carries it to whole runs.
-/

set_option autoImplicit false

namespace OtelHive.Gitsync

open OtelHive.Lib

/-! ### One sync -/

/-- A sync that is busy with a file: it has fetched the file and not yet recorded its SHA. -/
def Sync.Stage.opened : Sync.Stage → Option (Locals × LabelRule × Bytes)
  | .push l rule content _ => some (l, rule, content)
  | .upsertFileSHA l rule content _ => some (l, rule, content)
  | _ => none

/-- The source that a stage has read. -/
def Sync.Stage.source? : Sync.Stage → Option GitSource
  | .latestCommitSHA gs => some gs
  | .listFiles gs _ => some gs
  | .listAgents gs _ _ => some gs
  | .nextRule l => some l.gs
  | .fetchFile l _ => some l.gs
  | .push l _ _ _ => some l.gs
  | .upsertFileSHA l _ _ _ => some l.gs
  | _ => none

/-- The sync is one of the source. -/
def Sync.OfSource (id : String) (sync : Sync) : Prop :=
  sync.id = id ∧ ∀ gs, sync.stage.source? = some gs → gs.id = id

/-- The next stage reads the source of the row, or keeps the source of the stage. -/
theorem Sync.source?_step {σ : Type} {svc : Service σ} {ctx : Context} {sync sync' : Sync}
    {world world' : σ} {store store' : Store}
    (hstep : sync.step svc ctx world store = some (sync', world', store')) {gs : GitSource}
    (hgs : sync'.stage.source? = some gs) :
    store.get sync.id = .ok gs ∨ sync.stage.source? = some gs := by
  cases Sync.step_inv hstep with
  | found gs' _ _ hget =>
    cases hgs
    exact Or.inl hget
  | notFound | noProvider | noCommit | sameCommit | noFiles | noAgents | loopFailed | loopDone
  | recordFailure => cases hgs
  | newCommit _ _ _ hstage | files _ _ _ hstage | agents _ _ _ _ hstage | skipRule _ _ _ hstage
  | dueRule _ _ _ hstage | fetchFailed _ _ _ _ hstage | pushed _ _ _ hstage =>
    rw [hstage]
    exact Or.inr hgs
  | fetched l rule _ _ _ hstage _ hnext =>
    rw [hstage]
    rcases hnext with ⟨_, rfl⟩ | ⟨_, rfl⟩ <;> exact Or.inr hgs
  | push l rule content a matched hstage =>
    rw [hstage]
    rw [Sync.afterPush] at hgs
    split at hgs <;> exact Or.inr hgs
  | upsertFileSHA l l' rule content pushed hstage hnext =>
    rw [hstage]
    subst hnext
    cases pushed <;> exact Or.inr hgs

theorem Sync.id_step {σ : Type} {svc : Service σ} {ctx : Context} {sync sync' : Sync}
    {world world' : σ} {store store' : Store}
    (hstep : sync.step svc ctx world store = some (sync', world', store')) :
    sync'.id = sync.id := by
  cases Sync.step_inv hstep <;> rfl

/-- A sync stays with its source. -/
theorem Sync.OfSource.step {σ : Type} {svc : Service σ} {ctx : Context} {id : String}
    {sync sync' : Sync} {world world' : σ} {store store' : Store} (h : sync.OfSource id)
    (hstep : sync.step svc ctx world store = some (sync', world', store')) :
    sync'.OfSource id := by
  refine ⟨(Sync.id_step hstep).trans h.1, ?_⟩
  intro gs hgs
  rcases Sync.source?_step hstep hgs with hget | hkept
  · rw [h.1] at hget
    exact (Store.hasSource_of_get hget).2
  · exact h.2 gs hkept

/-- A write of the sync state keeps the rows. -/
theorem Store.hasSource_updateSyncState {s : Store} {id : String} (h : s.HasSource id)
    (id' sha : String) (status : SyncStatus) (syncErr : String) :
    (s.updateSyncState id' sha status syncErr).HasSource id := by
  unfold HasSource updateSyncState at *
  rw [List.any_map]
  refine List.any_eq_true.mpr ?_
  obtain ⟨gs, hmem, hid⟩ := List.any_eq_true.mp h
  refine ⟨gs, hmem, ?_⟩
  rw [Function.comp_apply]
  split
  · exact hid
  · exact hid

theorem Store.hasSource_cacheFileSHA {σ : Type} {svc : Service σ} {gs : GitSource} {s : Store}
    {id : String} (h : s.HasSource id) (path sha : String) :
    (cacheFileSHA svc gs s path sha).HasSource id := by
  unfold HasSource
  rw [sources_cacheFileSHA]
  exact h

namespace Concurrent

section Sync

variable {blob : String → Bytes} {agents : List Types.Agent} {answer : Answer}

/-- What a step of a sync does. -/
inductive Change (blob : String → Bytes) (agents : List Types.Agent) (answer : Answer)
    (sync : Sync) (world : World) (store : Store) (sync' : Sync) (world' : World)
    (store' : Store) : Prop where
  /-- The step leaves the agents and the file cache alone, and stays with its file. -/
  | quiet (hworld : world' = world) (hcache : store'.fileSHAs = store.fileSHAs)
      (hsource : ∀ id, store.HasSource id → store'.HasSource id)
      (hopened : sync'.stage.opened = sync.stage.opened)
  /-- A fetch that succeeds. -/
  | fetch (l : Locals) (rule : LabelRule) (hstage : sync.stage = .fetchFile l rule)
      (hok : answer.err = none) (hworld : world' = world) (hstore : store' = store)
      (hopened : sync'.stage.opened
        = some (l, rule, fetched blob l.gs answer (l.fileSHA rule)))
  /-- A push. It may count the agent or an error. -/
  | push (l l' : Locals) (rule : LabelRule) (content : Bytes) (a : Types.Agent)
      (matched : List Types.Agent) (hstage : sync.stage = .push l rule content (a :: matched))
      (hworld : world' = ((service blob agents answer).sendConfigToAgent a.id content world).1)
      (hstore : store' = store) (hopened : sync'.stage.opened = some (l', rule, content))
      (hsha : l'.fileSHA rule = l.fileSHA rule)
  /-- The record of a SHA. -/
  | record (l : Locals) (rule : LabelRule) (content : Bytes) (pushed : Bool)
      (hstage : sync.stage = .upsertFileSHA l rule content pushed) (hworld : world' = world)
      (hstore : store' = cacheFileSHA (service blob agents answer) l.gs store rule.filePath
        (l.fileSHA rule))
      (hopened : sync'.stage.opened = none)

variable {sync sync' : Sync} {world world' : World} {store store' : Store}

/-- A step between two stages that are busy with no file, or with the same one. -/
theorem Change.unchanged (hopened : sync'.stage.opened = sync.stage.opened) :
    Change blob agents answer sync world store sync' world store :=
  .quiet rfl rfl (fun _ hsource => hsource) hopened

/-- The write of the sync state. -/
theorem Change.recordState (hopened : sync'.stage.opened = sync.stage.opened)
    (id sha : String) (status : SyncStatus) (syncErr : String) :
    Change blob agents answer sync world store sync' world
      (store.updateSyncState id sha status syncErr) :=
  .quiet rfl rfl (fun _ hsource => Store.hasSource_updateSyncState hsource _ _ _ _) hopened

/-- What a step of a sync can do. -/
theorem change_of_step
    (hstep : sync.step (service blob agents answer) .live world store
      = some (sync', world', store')) :
    Change blob agents answer sync world store sync' world' store' := by
  cases Sync.step_inv hstep with
  | found _ hstage | notFound hstage | noProvider _ _ hstage | noCommit _ _ _ hstage
  | sameCommit _ _ _ hstage | newCommit _ _ _ hstage | noFiles _ _ _ hstage | files _ _ _ hstage
  | noAgents _ _ _ _ hstage | agents _ _ _ _ hstage | skipRule _ _ _ hstage
  | dueRule _ _ _ hstage | loopFailed _ _ _ hstage | pushed _ _ _ hstage =>
    exact .unchanged (by rw [hstage]; rfl)
  | loopDone l hstage =>
    exact .recordState (by rw [hstage]; rfl) l.gs.id (Sync.finalSHA l) .success ""
  | recordFailure sourceID sha syncErr _ _ hstage =>
    exact .recordState (by rw [hstage]; rfl) sourceID sha .failed syncErr
  | fetchFailed l rule _ err hstage hfetch =>
    have hworld : world = _ := congrArg Prod.fst hfetch
    cases hworld
    exact .unchanged (by rw [hstage]; rfl)
  | fetched l rule _ content stage hstage hfetch hnext =>
    dsimp only [Sync.under_live, service, Answer.call] at hfetch
    cases herr : answer.err with
    | some err =>
      rw [herr] at hfetch
      cases hfetch
    | none =>
      rw [herr] at hfetch
      cases hfetch
      rcases hnext with ⟨_, rfl⟩ | ⟨_, rfl⟩
      · exact .fetch l rule hstage herr rfl rfl rfl
      · exact .fetch l rule hstage herr rfl rfl rfl
  | push l rule content a matched hstage =>
    rw [Sync.under_live, Sync.afterPush]
    rcases hsend : (service blob agents answer).sendConfigToAgent a.id content world with
      ⟨world₁, _ | err⟩
    · exact .push l _ rule content a matched hstage (by rw [hsend]) rfl rfl rfl
    · exact .push l _ rule content a matched hstage (by rw [hsend]) rfl rfl rfl
  | upsertFileSHA l l' rule content pushed hstage =>
    exact .record l rule content pushed hstage rfl rfl rfl

end Sync

/-! ### Files and agents -/

/-- The rules of the files of a tree. -/
def rulesOf (gs : GitSource) (tree : Tree) : List LabelRule :=
  parseRules tree.entries gs.configRoot

/-- The rule of the file matches the agent, and no other rule of the tree does. A file has one
rule (`eq_of_filePath_eq`). -/
def OnlyFile (gs : GitSource) (tree : Tree) (a : Types.Agent) (path : String) : Prop :=
  (∃ rule ∈ rulesOf gs tree, rule.filePath = path ∧ rule.selects a = true) ∧
    ∀ rule ∈ rulesOf gs tree, rule.selects a = true → rule.filePath = path

instance (gs : GitSource) (tree : Tree) (a : Types.Agent) (path : String) :
    Decidable (OnlyFile gs tree a path) :=
  inferInstanceAs (Decidable (_ ∧ _))

/-- The sync is busy with the file. -/
def OpenOn (path : String) (sync : Sync) : Prop :=
  ∃ l rule content, sync.stage.opened = some (l, rule, content) ∧ rule.filePath = path

instance (path : String) (sync : Sync) : Decidable (OpenOn path sync) :=
  match h : sync.stage.opened with
  | none => .isFalse fun ⟨_, _, _, hopened, _⟩ => by
      rw [h] at hopened
      cases hopened
  | some (l, rule, content) => decidable_of_iff (rule.filePath = path) (by
      constructor
      · intro hpath
        exact ⟨l, rule, content, h, hpath⟩
      · rintro ⟨l', rule', content', hopened, hpath⟩
        rw [h] at hopened
        cases hopened
        exact hpath)

theorem OpenOn.congr {path : String} {sync sync' : Sync}
    (h : sync'.stage.opened = sync.stage.opened) (hopen : OpenOn path sync) :
    OpenOn path sync' := by
  unfold OpenOn
  rw [h]
  exact hopen

section System

variable (blob : String → Bytes) (agents : List Types.Agent) (gs : GitSource)

/-- The SHA that is cached for a file. -/
def System.cached (s : System) (path : String) : String := s.store.getFileSHA gs.id path

/-- A sync is busy with the file, or nothing is cached for it, or the agent holds the content of
the cached SHA. -/
def Agrees (s : System) (a : Types.Agent) (path : String) : Prop :=
  (∃ sync ∈ s.syncs, OpenOn path sync) ∨ s.cached gs path = "" ∨
    s.world.held.lookup a.id = some (blob (s.cached gs path))

instance (s : System) (a : Types.Agent) (path : String) : Decidable (Agrees blob gs s a path) :=
  inferInstanceAs (Decidable (_ ∨ _ ∨ _))

/-- When every sync has returned: an agent that exactly one file matches and for which no push
has failed holds the content of the file, if the cache has the SHA of the file and the last
synced commit is the current one. -/
def Settled (s : System) : Prop :=
  (∀ sync ∈ s.syncs, ∃ result, sync.stage = .returned result) →
  ∀ entry ∈ s.world.tree.entries, entry.sha ≠ "" → s.cached gs entry.path = entry.sha →
  ∀ row, s.store.get gs.id = .ok row → row.lastSyncSHA = s.world.tree.commitSHA →
  ∀ a ∈ agents, a.id ∉ s.world.failed → OnlyFile gs s.world.tree a entry.path →
  s.world.held.lookup a.id = some (blob entry.sha)

/-! ### The condition -/

/-- A fetch gets the content of the SHA that the sync has listed. GitHub fetches by SHA. -/
def FetchesListed (l : Locals) (rule : LabelRule) (answer : Answer) : Prop :=
  answer.err = none → l.fileSHA rule ≠ "" →
    fetched blob l.gs answer (l.fileSHA rule) = blob (l.fileSHA rule)

theorem fetchesListed_of_github {l : Locals} (h : l.gs.providerType = .github) (rule : LabelRule)
    (answer : Answer) : FetchesListed blob l rule answer := by
  intro _ _
  rw [fetched, h]

/-- A push of another file does not reach an agent that exactly one file of the current tree
matches, unless nothing is cached for that file or a sync is busy with it. -/
def PushesOwn (s : System) (rule : LabelRule) (id : UUID) (answer : Answer) : Prop :=
  answer.err = none → ∀ a ∈ agents, a.id = id → id ∉ s.world.failed →
    ∀ rule' ∈ rulesOf gs s.world.tree, OnlyFile gs s.world.tree a rule'.filePath →
      rule'.filePath = rule.filePath ∨ s.cached gs rule'.filePath = "" ∨
        ∃ sync ∈ s.syncs, OpenOn rule'.filePath sync

/-- A sync that records the SHA of a file is the one whose content the agents of this file hold,
unless another sync is still busy with the file. A file without SHA has nothing cached. -/
def RecordsHeld (s : System) (i : Nat) (l : Locals) (rule : LabelRule) (content : Bytes) : Prop :=
  ∀ a ∈ agents, a.id ∉ s.world.failed → OnlyFile gs s.world.tree a rule.filePath →
    (∃ sync ∈ s.syncs.eraseIdx i, OpenOn rule.filePath sync) ∨
      if l.fileSHA rule = "" then s.cached gs rule.filePath = ""
      else s.world.held.lookup a.id = some content

/-- An agent that the new tree leaves to one file was left to this file before, or what it holds
agrees with the cache. -/
def KeepsFiles (s : System) (tree : Tree) : Prop :=
  ∀ a ∈ agents, a.id ∉ s.world.failed → ∀ rule ∈ rulesOf gs tree,
    OnlyFile gs tree a rule.filePath →
    OnlyFile gs s.world.tree a rule.filePath ∨ Agrees blob gs s a rule.filePath

/-- The condition on the next step of a sync. -/
def OrderlyStep (s : System) (i : Nat) (answer : Answer) : Sync.Stage → Prop
  | .fetchFile l rule => FetchesListed blob l rule answer
  | .push _ rule _ (a :: _) => PushesOwn agents gs s rule a.id answer
  | .upsertFileSHA l rule content _ => RecordsHeld agents gs s i l rule content
  | _ => True

/-- The condition on an event. -/
def Orderly (s : System) : Event → Prop
  | .start _ => True
  | .step i answer => ∀ sync ∈ s.syncs[i]?, OrderlyStep blob agents gs s i answer sync.stage
  | .advance tree => KeepsFiles blob agents gs s tree

instance (l : Locals) (rule : LabelRule) (answer : Answer) :
    Decidable (FetchesListed blob l rule answer) :=
  inferInstanceAs (Decidable (_ → _ → _))

instance (s : System) (rule : LabelRule) (id : UUID) (answer : Answer) :
    Decidable (PushesOwn agents gs s rule id answer) :=
  inferInstanceAs (Decidable (_ → ∀ a ∈ agents, _ → _ → ∀ rule' ∈ rulesOf gs s.world.tree, _ → _))

instance (s : System) (i : Nat) (l : Locals) (rule : LabelRule) (content : Bytes) :
    Decidable (RecordsHeld agents gs s i l rule content) :=
  inferInstanceAs (Decidable (∀ a ∈ agents, _ → _ → _))

instance (s : System) (tree : Tree) : Decidable (KeepsFiles blob agents gs s tree) :=
  inferInstanceAs (Decidable (∀ a ∈ agents, _ → ∀ rule ∈ rulesOf gs tree, _ → _))

instance (s : System) (i : Nat) (answer : Answer) :
    ∀ stage, Decidable (OrderlyStep blob agents gs s i answer stage)
  | .fetchFile l rule => inferInstanceAs (Decidable (FetchesListed blob l rule answer))
  | .push _ rule _ (a :: _) => inferInstanceAs (Decidable (PushesOwn agents gs s rule a.id answer))
  | .upsertFileSHA l rule content _ =>
    inferInstanceAs (Decidable (RecordsHeld agents gs s i l rule content))
  | .push _ _ _ [] => .isTrue trivial
  | .get => .isTrue trivial
  | .latestCommitSHA _ => .isTrue trivial
  | .listFiles _ _ => .isTrue trivial
  | .listAgents _ _ _ => .isTrue trivial
  | .nextRule _ => .isTrue trivial
  | .recordFailure _ _ _ _ _ => .isTrue trivial
  | .returned _ => .isTrue trivial

instance (s : System) : ∀ e, Decidable (Orderly blob agents gs s e)
  | .start _ => .isTrue trivial
  | .step i answer =>
    inferInstanceAs <| Decidable <|
      ∀ sync ∈ s.syncs[i]?, OrderlyStep blob agents gs s i answer sync.stage
  | .advance tree => inferInstanceAs (Decidable (KeepsFiles blob agents gs s tree))

/-! ### The invariant -/

structure Inv (s : System) : Prop where
  source : s.store.HasSource gs.id
  ofSource : ∀ sync ∈ s.syncs, sync.OfSource gs.id
  /-- A sync that is busy with a file has the content of the SHA that it has listed. -/
  content : ∀ sync ∈ s.syncs, ∀ l rule content, sync.stage.opened = some (l, rule, content) →
    l.fileSHA rule ≠ "" → content = blob (l.fileSHA rule)
  agree : ∀ a ∈ agents, a.id ∉ s.world.failed → ∀ path, OnlyFile gs s.world.tree a path →
    Agrees blob gs s a path

variable {blob agents gs} {s s' : System}

/-- Once every sync has returned, the cache decides what the agents hold. -/
theorem Inv.settled (h : Inv blob agents gs s) : Settled blob agents gs s := by
  intro hreturned entry _ hsha hcached _ _ _ a ha hok honly
  rcases h.agree a ha hok entry.path honly with
    ⟨sync, hsync, l, rule, content, hopened, _⟩ | hnone | hheld
  · obtain ⟨result, hstage⟩ := hreturned sync hsync
    rw [hstage] at hopened
    cases hopened
  · rw [hcached] at hnone
    exact absurd hnone hsha
  · rw [hcached] at hheld
    exact hheld

/-- What holds before the first sync: the source has a row, and no file of it is cached. -/
theorem inv_newSystem {world : World} {store : Store} (hsource : store.HasSource gs.id)
    (hcache : ∀ path, store.getFileSHA gs.id path = "") :
    Inv blob agents gs (newSystem world store) where
  source := hsource
  ofSource := by
    intro sync hsync
    cases hsync
  content := by
    intro sync hsync
    cases hsync
  agree := by
    intro a _ _ path _
    exact Or.inr (Or.inl (hcache path))

theorem inv_start (h : Inv blob agents gs s) (forceAll : Bool) :
    Inv blob agents gs { s with syncs := s.syncs ++ [{ id := gs.id, forceAll }] } where
  source := h.source
  ofSource := by
    intro sync hsync
    rcases List.mem_append.mp hsync with hold | hnew
    · exact h.ofSource sync hold
    · rw [List.mem_singleton.mp hnew]
      refine ⟨rfl, ?_⟩
      intro row hrow
      cases hrow
  content := by
    intro sync hsync l rule content hopened
    rcases List.mem_append.mp hsync with hold | hnew
    · exact h.content sync hold l rule content hopened
    · rw [List.mem_singleton.mp hnew] at hopened
      cases hopened
  agree := by
    intro a ha hok path honly
    rcases h.agree a ha hok path honly with ⟨sync, hsync, hopen⟩ | hagree
    · exact Or.inl ⟨sync, List.mem_append_left _ hsync, hopen⟩
    · exact Or.inr hagree

theorem inv_advance (h : Inv blob agents gs s) {tree : Tree}
    (hkeeps : KeepsFiles blob agents gs s tree) :
    Inv blob agents gs { s with world := { s.world with tree } } where
  source := h.source
  ofSource := h.ofSource
  content := h.content
  agree := by
    intro a ha hok path honly
    obtain ⟨⟨rule, hrule, rfl, _⟩, _⟩ := id honly
    rcases hkeeps a ha hok rule hrule honly with hbefore | hagrees
    -- The file was the only one before, so the invariant already speaks of it.
    · exact h.agree a ha hok rule.filePath hbefore
    · exact hagrees

/-! ### The step of a sync -/

section Step

variable {answer : Answer} {i : Nat} {sync sync' : Sync} {world' : World} {store' : Store}

/-- The syncs that are busy with a file, after one of them took a step. -/
theorem exists_openOn_set (hi : s.syncs[i]? = some sync) {path : String}
    (hkeep : OpenOn path sync → OpenOn path sync') (h : ∃ other ∈ s.syncs, OpenOn path other) :
    ∃ other ∈ s.syncs.set i sync', OpenOn path other := by
  obtain ⟨other, hmem, hopen⟩ := h
  rcases (mem_iff_of_getElem? hi).mp hmem with rfl | hrest
  · exact ⟨sync', (mem_set_iff hi).mpr (Or.inl rfl), hkeep hopen⟩
  · exact ⟨other, (mem_set_iff hi).mpr (Or.inr hrest), hopen⟩

/-- A sync that has listed a SHA fetches its content, and keeps it. -/
theorem content_step (h : Inv blob agents gs s) (hi : s.syncs[i]? = some sync)
    (horderly : OrderlyStep blob agents gs s i answer sync.stage)
    (hchange : Change blob agents answer sync s.world s.store sync' world' store') {l : Locals}
    {rule : LabelRule} {content : Bytes} (hopened : sync'.stage.opened = some (l, rule, content))
    (hsha : l.fileSHA rule ≠ "") : content = blob (l.fileSHA rule) := by
  have hmem := List.mem_of_getElem? hi
  cases hchange with
  | quiet hworld hcache hsource hsame =>
    rw [hsame] at hopened
    exact h.content sync hmem l rule content hopened hsha
  -- The content is the one that the condition on the fetch is about.
  | fetch l₁ rule₁ hstage hok hworld hstore hfetched =>
    rw [hfetched] at hopened
    cases hopened
    rw [hstage] at horderly
    exact horderly hok hsha
  | push l₁ l₂ rule₁ content₁ a matched hstage hworld hstore hpushed hsame =>
    rw [hpushed] at hopened
    cases hopened
    rw [hsame] at hsha ⊢
    exact h.content sync hmem l₁ rule content (by rw [hstage]; rfl) hsha
  | record l₁ rule₁ content₁ pushed hstage hworld hstore hclosed =>
    rw [hclosed] at hopened
    cases hopened

/-- A push to an agent of another file leaves a sync busy with that file, or nothing to agree
with. -/
theorem agree_push (h : Inv blob agents gs s) (hi : s.syncs[i]? = some sync) {l l' : Locals}
    {rule : LabelRule} {content : Bytes} {a : Types.Agent} {matched : List Types.Agent}
    (hstage : sync.stage = .push l rule content (a :: matched))
    (hpushes : PushesOwn agents gs s rule a.id answer)
    (hopened : sync'.stage.opened = some (l', rule, content)) {b : Types.Agent} (hb : b ∈ agents)
    (hok : b.id ∉ ((service blob agents answer).sendConfigToAgent a.id content s.world).1.failed)
    {path : String} (honly : OnlyFile gs s.world.tree b path) :
    Agrees blob gs
      { world := ((service blob agents answer).sendConfigToAgent a.id content s.world).1
        store := s.store, syncs := s.syncs.set i sync' } b path := by
  have hkeep : ∀ path, OpenOn path sync → OpenOn path sync' := by
    rintro path ⟨_, _, _, hsync, hpath⟩
    rw [hstage] at hsync
    cases hsync
    exact ⟨_, _, _, hopened, hpath⟩
  unfold service at hok ⊢
  dsimp only at hok ⊢
  cases herr : answer.err with
  -- After a failed push nothing is claimed of the agent.
  | some err =>
    rw [herr] at hok
    have hagree := h.agree b hb (fun hfailed => hok (List.mem_cons_of_mem _ hfailed)) path honly
    exact hagree.imp_left (exists_openOn_set hi (hkeep _))
  | none =>
    rw [herr] at hok
    rcases h.agree b hb hok path honly with hopen | hnone | hheld
    · exact Or.inl (exists_openOn_set hi (hkeep _) hopen)
    · exact Or.inr (Or.inl hnone)
    · by_cases hid : b.id = a.id
      -- The agent held the cached content, and gets the content of the pushed file.
      · obtain ⟨⟨rule', hrule', rfl, _⟩, _⟩ := id honly
        rcases hpushes herr b hb hid (hid ▸ hok) rule' hrule' honly with hpath | hnone | hopen
        · exact Or.inl ⟨sync', (mem_set_iff hi).mpr (Or.inl rfl), _, _, _, hopened, hpath.symm⟩
        · exact Or.inr (Or.inl hnone)
        · exact Or.inl (exists_openOn_set hi (hkeep _) hopen)
      · refine Or.inr (Or.inr ?_)
        dsimp only
        rw [GoMap.lookup_insert_eq, if_neg hid]
        exact hheld

/-- The agents of the recorded file hold the recorded content, or another sync is busy with the
file. -/
theorem agree_record (h : Inv blob agents gs s) (hi : s.syncs[i]? = some sync) {l : Locals}
    {rule : LabelRule} {content : Bytes} {pushed : Bool}
    (hstage : sync.stage = .upsertFileSHA l rule content pushed)
    (hrecords : RecordsHeld agents gs s i l rule content) {b : Types.Agent} (hb : b ∈ agents)
    (hok : b.id ∉ s.world.failed) {path : String} (honly : OnlyFile gs s.world.tree b path) :
    Agrees blob gs
      { world := s.world
        store := cacheFileSHA (service blob agents answer) l.gs s.store rule.filePath
          (l.fileSHA rule)
        syncs := s.syncs.set i sync' } b path := by
  have hmem := List.mem_of_getElem? hi
  have hgs : l.gs.id = gs.id := (h.ofSource sync hmem).2 l.gs (by rw [hstage]; rfl)
  have hcached : (cacheFileSHA (service blob agents answer) l.gs s.store rule.filePath
        (l.fileSHA rule)).getFileSHA gs.id path
      = if path = rule.filePath ∧ l.fileSHA rule ≠ "" then l.fileSHA rule
        else s.cached gs path := by
    have hsource : s.store.HasSource l.gs.id := by
      rw [hgs]
      exact h.source
    rw [← hgs, getFileSHA_cacheFileSHA hsource, hgs]
    rfl
  unfold Agrees System.cached
  dsimp only
  rw [hcached]
  by_cases hpath : path = rule.filePath
  · subst hpath
    rcases hrecords b hb hok honly with ⟨other, hother, hopen⟩ | hheld
    · exact Or.inl ⟨other, (mem_set_iff hi).mpr (Or.inr hother), hopen⟩
    · by_cases hsha : l.fileSHA rule = ""
      -- Without a SHA nothing is recorded.
      · rw [if_pos hsha] at hheld
        rw [if_neg fun hboth => hboth.2 hsha]
        exact Or.inr (Or.inl hheld)
      · rw [if_neg hsha] at hheld
        rw [if_pos ⟨rfl, hsha⟩, hheld]
        have hcontent := h.content sync hmem l rule content (by rw [hstage]; rfl) hsha
        exact Or.inr (Or.inr (congrArg some hcontent))
  · rw [if_neg fun hboth => hpath hboth.1]
    rcases h.agree b hb hok path honly with ⟨other, hother, hopen⟩ | hagree
    · rcases (mem_iff_of_getElem? hi).mp hother with rfl | hrest
      -- The sync was busy with the file that it records, not with this one.
      · obtain ⟨_, _, _, hsync, hfile⟩ := hopen
        rw [hstage] at hsync
        cases hsync
        exact absurd hfile.symm hpath
      · exact Or.inl ⟨other, (mem_set_iff hi).mpr (Or.inr hrest), hopen⟩
    · exact Or.inr hagree

/-- A step that changes neither the agents nor the cache. -/
theorem agree_of_same (h : Inv blob agents gs s) (hi : s.syncs[i]? = some sync)
    (hcache : store'.fileSHAs = s.store.fileSHAs)
    (hkeep : ∀ path, OpenOn path sync → OpenOn path sync') {b : Types.Agent} (hb : b ∈ agents)
    (hok : b.id ∉ s.world.failed) {path : String} (honly : OnlyFile gs s.world.tree b path) :
    Agrees blob gs { world := s.world, store := store', syncs := s.syncs.set i sync' } b
      path := by
  have hcached : System.cached gs
      { world := s.world, store := store', syncs := s.syncs.set i sync' } path
      = s.cached gs path := by
    unfold System.cached Store.getFileSHA
    rw [hcache]
  unfold Agrees
  rw [hcached]
  exact (h.agree b hb hok path honly).imp_left (exists_openOn_set hi (hkeep _))

theorem inv_sync (h : Inv blob agents gs s) (hi : s.syncs[i]? = some sync)
    (horderly : OrderlyStep blob agents gs s i answer sync.stage)
    (hstep : sync.step (service blob agents answer) .live s.world s.store
      = some (sync', world', store')) :
    Inv blob agents gs { world := world', store := store', syncs := s.syncs.set i sync' } := by
  have hchange := change_of_step hstep
  have hofSource : ∀ other ∈ s.syncs.set i sync', other.OfSource gs.id := by
    intro other hother
    rcases (mem_set_iff hi).mp hother with rfl | hrest
    · exact (h.ofSource sync (List.mem_of_getElem? hi)).step hstep
    · exact h.ofSource other (List.mem_of_mem_eraseIdx hrest)
  have hcontent : ∀ other ∈ s.syncs.set i sync', ∀ l rule content,
      other.stage.opened = some (l, rule, content) → l.fileSHA rule ≠ "" →
      content = blob (l.fileSHA rule) := by
    intro other hother l rule content hopened hsha
    rcases (mem_set_iff hi).mp hother with rfl | hrest
    · exact content_step h hi horderly hchange hopened hsha
    · exact h.content other (List.mem_of_mem_eraseIdx hrest) l rule content hopened hsha
  cases hchange with
  | quiet hworld hcache hsource hopened =>
    subst hworld
    refine ⟨hsource _ h.source, hofSource, hcontent, ?_⟩
    intro b hb hok path honly
    exact agree_of_same h hi hcache (fun path => OpenOn.congr hopened) hb hok honly
  | fetch l rule hstage hok hworld hstore hopened =>
    subst hworld hstore
    refine ⟨h.source, hofSource, hcontent, ?_⟩
    intro b hb hok' path honly
    refine agree_of_same h hi rfl ?_ hb hok' honly
    rintro path ⟨_, _, _, hsync, _⟩
    rw [hstage] at hsync
    cases hsync
  | push l l' rule content a matched hstage hworld hstore hopened hsha =>
    subst hworld hstore
    rw [hstage] at horderly
    refine ⟨h.source, hofSource, hcontent, ?_⟩
    intro b hb hok path honly
    have htree : ((service blob agents answer).sendConfigToAgent a.id content s.world).1.tree
        = s.world.tree := by
      unfold service
      dsimp only
      split <;> rfl
    rw [htree] at honly
    exact agree_push h hi hstage horderly hopened hb hok honly
  | record l rule content pushed hstage hworld hstore hopened =>
    subst hworld hstore
    rw [hstage] at horderly
    refine ⟨Store.hasSource_cacheFileSHA h.source _ _, hofSource, hcontent, ?_⟩
    intro b hb hok path honly
    exact agree_record h hi hstage horderly hb hok honly

end Step

/-- An orderly event keeps the invariant. -/
theorem inv_step (h : Inv blob agents gs s) {e : Event} (horderly : Orderly blob agents gs s e)
    (hstep : s.step blob agents gs.id e = some s') : Inv blob agents gs s' := by
  cases e with
  | start forceAll =>
    cases hstep
    exact inv_start h forceAll
  | advance tree =>
    cases hstep
    exact inv_advance h horderly
  | step i answer =>
    rw [System.step, Option.bind_eq_bind, Option.bind_eq_some_iff] at hstep
    obtain ⟨sync, hi, hstep⟩ := hstep
    rw [Option.bind_eq_bind, Option.bind_eq_some_iff] at hstep
    obtain ⟨⟨sync', world', store'⟩, hsync, hnext⟩ := hstep
    cases hnext
    exact inv_sync h hi (horderly sync hi) hsync

end System

/-- Take a run of syncs of one source over a repository that advances, from a state in which no
file of the source is cached. If all its events are orderly, then at every state: once every sync
has returned, an agent that exactly one file matches holds the content of the file, if no push to
it has failed, the cache has the SHA of the file and the last synced commit is the current one. -/
theorem settled_along (blob : String → Bytes) (agents : List Types.Agent) (gs : GitSource)
    (world : World) (store : Store) (hget : store.get gs.id = .ok gs)
    (hcache : ∀ path, store.getFileSHA gs.id path = "") (es : List Event)
    (hmeet : StepsMeet (System.step blob agents gs.id) (Orderly blob agents gs)
      (newSystem world store) es) :
    Along (System.step blob agents gs.id) (Settled blob agents gs) (newSystem world store) es :=
  along_of_stepsMeet (fun _ => Inv.settled)
    (fun _ _ _ h horderly hstep => inv_step h horderly hstep)
    (inv_newSystem (Store.hasSource_of_get hget).1 hcache) hmeet

/-! ### Two syncs that cross -/

/-- The fallback, which matches every agent. -/
def fallbackTree (commitSHA sha : String) : Tree where
  commitSHA
  entries := [⟨"configs/environments/default/base.yaml", sha⟩]

/-- The content of two blobs. -/
def twoBlobs (sha : String) : Bytes := if sha = "b1" then [1] else [2]

def firstWorld : World where
  tree := fallbackTree "c1" "b1"
  held := ∅
  failed := []

/-- Steps of a sync whose calls succeed. -/
def steps (i n : Nat) : List Event := List.replicate n (.step i {})

/-- A forced sync, a commit, and a sync of the poller. -/
def inTurn : List Event :=
  [.start true] ++ steps 0 10 ++ [.advance (fallbackTree "c2" "b2"), .start false] ++ steps 1 10

theorem settled_along_inTurn :
    Along (System.step twoBlobs [unlabelledAgent] "src-1")
      (Settled twoBlobs [unlabelledAgent] repoSource) (newSystem firstWorld ⟨[repoSource], ∅⟩)
      inTurn :=
  settled_along twoBlobs [unlabelledAgent] repoSource firstWorld ⟨[repoSource], ∅⟩ rfl
    (fun _ => rfl) inTurn (by decide +kernel)

/-- The first sync lists the old commit and the second one the new commit. The second sync pushes
first and records last. -/
def crossing : List Event :=
  [.start true] ++ steps 0 5 ++ [.advance (fallbackTree "c2" "b2"), .start true] ++ steps 1 7
    ++ steps 0 5 ++ steps 1 3

/-- Both syncs succeed. The cache has the SHA of the new commit, and the agent holds the old
content. -/
theorem stale_recorded :
    ¬ ∀ (blob : String → Bytes) (agents : List Types.Agent) (gs : GitSource) (world : World)
      (store : Store), store.get gs.id = .ok gs → (∀ path, store.getFileSHA gs.id path = "") →
      ∀ es, (run (System.step blob agents gs.id) (newSystem world store) es).isSome →
        Along (System.step blob agents gs.id) (Settled blob agents gs) (newSystem world store)
          es := by
  intro hall
  let last : System := {
    world := {
      tree := fallbackTree "c2" "b2"
      held := (∅ : GoMap UUID Bytes).insert .nil [1]
      failed := [] }
    store := {
      sources := [{ repoSource with lastSyncSHA := "c2", lastSyncStatus := .success }]
      fileSHAs := (∅ : GoMap (String × String) String).insert
        ("src-1", "configs/environments/default/base.yaml") "b2" }
    syncs := List.replicate 2 {
      id := "src-1"
      forceAll := true
      stage := .returned
        (.ok ({ sourceID := "src-1", filesChanged := 1, agentsUpdated := 1 }, none)) } }
  have hrun : run (System.step twoBlobs [unlabelledAgent] "src-1")
      (newSystem firstWorld ⟨[repoSource], ∅⟩) crossing = some last := rfl
  have hsettled := (hall twoBlobs [unlabelledAgent] repoSource firstWorld ⟨[repoSource], ∅⟩ rfl
    (fun _ => rfl) crossing (congrArg Option.isSome hrun)).last hrun
  have hreturned : ∀ sync ∈ last.syncs, ∃ result, sync.stage = .returned result := by
    intro sync hsync
    obtain rfl := List.eq_of_mem_replicate hsync
    exact ⟨_, rfl⟩
  have hheld := hsettled hreturned ⟨"configs/environments/default/base.yaml", "b2"⟩
    (List.mem_singleton.mpr rfl) (by decide) (by decide +kernel)
    { repoSource with lastSyncSHA := "c2", lastSyncStatus := .success } rfl rfl
    unlabelledAgent (List.mem_singleton.mpr rfl) (by decide) (by decide +kernel)
  have hold : last.world.held.lookup unlabelledAgent.id = some [1] := by decide +kernel
  rw [hold] at hheld
  exact absurd hheld (by decide +kernel)

end Concurrent

end OtelHive.Gitsync
