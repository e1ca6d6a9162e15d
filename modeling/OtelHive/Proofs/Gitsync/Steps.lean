import Mathlib.Logic.Relation
import OtelHive.Gitsync.Steps
import OtelHive.Proofs.Gitsync.Service

/-!
# `OtelHive.Proofs.Gitsync.Steps`: the steps of a sync make up `runSync`

`Sync.effect` is what a sync leaves when it runs alone from its stage on, under a live context.
It is stated with the functions of `Gitsync.Service`, and no step changes it
(`Sync.effect_step`). So a sync that starts as `TriggerSync` and returns has the effect of
`triggerSync` (`Sync.effect_trigger`). It does return (`Sync.finishes`).

`Sync.Stepped` lists what a step can do. Later modules go by cases on it (`Sync.step_inv`).

`Sync.NeedsContext` says that a sync which runs alone still has a call that takes the context.
`Sync.cancelled_recorded` says what a cancellation in the loop comes to.
-/

set_option autoImplicit false

namespace OtelHive.Gitsync

open OtelHive.Lib

variable {σ : Type} {svc : Service σ}

/-! ### `runSync` in parts -/

theorem eq_provider_of_newProvider {gs : GitSource} {prov : Provider σ}
    (h : newProvider svc gs = .ok prov) : prov = svc.provider gs := by
  unfold newProvider at h
  split at h
  · cases h
  · exact (Except.ok.inj h).symm

/-- A sync that fails before the loop. -/
def failedOutcome (gs : GitSource) (sha syncErr err : String) (world : σ) (store : Store) :
    Outcome σ where
  world
  store := recordFailure store gs.id sha syncErr
  result := { sourceID := gs.id }
  err := some err

/-- The part of `runSync` after the listing of the files. -/
def runFromAgents (svc : Service σ) (gs : GitSource) (forceAll : Bool) (commitSHA : String)
    (entries : List FileEntry) (world : σ) (store : Store) : Outcome σ :=
  match svc.listAgents world with
  | .error err => failedOutcome gs gs.lastSyncSHA err ("listing agents: " ++ err) world store
  | .ok agents => persistOutcome gs commitSHA (syncLoop svc gs forceAll entries agents world store)

/-- The part of `runSync` after the read of the commit. -/
def runFromFiles (svc : Service σ) (gs : GitSource) (forceAll : Bool) (commitSHA : String)
    (world : σ) (store : Store) : Outcome σ :=
  match (svc.provider gs).listFiles gs.branch gs.configRoot world with
  | .error err => failedOutcome gs gs.lastSyncSHA err ("listing files: " ++ err) world store
  | .ok entries => runFromAgents svc gs forceAll commitSHA entries world store

theorem runSync_eq (svc : Service σ) (gs : GitSource) (forceAll : Bool) (world : σ)
    (store : Store) :
    runSync svc gs forceAll world store
      = match newProvider svc gs with
        | .error err => failedOutcome gs "" err err world store
        | .ok prov =>
          match prov.latestCommitSHA gs.branch world with
          | .error err =>
            failedOutcome gs gs.lastSyncSHA err ("fetching commit SHA: " ++ err) world store
          | .ok commitSHA =>
            if !forceAll && commitSHA != "" && commitSHA == gs.lastSyncSHA then
              { world, store, result := { sourceID := gs.id } }
            else runFromFiles svc gs forceAll commitSHA world store := by
  unfold runSync
  cases hprov : newProvider svc gs with
  | error err => rfl
  | ok prov =>
    obtain rfl := eq_provider_of_newProvider hprov
    rfl

/-! ### The effect of a sync -/

/-- What a sync leaves: the world, the store and what it returns. -/
structure Effect (σ : Type) where
  world : σ
  store : Store
  result : Except String (SyncResult × Option String)

def Outcome.effect (outcome : Outcome σ) : Effect σ where
  world := outcome.world
  store := outcome.store
  result := .ok (outcome.result, outcome.err)

/-- The effect of `TriggerSync`. A source that is missing changes nothing. -/
def triggerEffect (svc : Service σ) (id : String) (world : σ) (store : Store) : Effect σ :=
  match triggerSync svc id world store with
  | .error err => ⟨world, store, .error err⟩
  | .ok outcome => outcome.effect

/-- The variables of the loop, with the world and the store. -/
def Locals.acc (l : Locals) (world : σ) (store : Store) : Loop σ where
  world
  store
  filesChanged := l.filesChanged
  agentsUpdated := l.agentsUpdated
  pushErrors := l.pushErrors

namespace Locals

/-- A round of the loop. -/
def round (svc : Service σ) (l : Locals) (forceAll : Bool) : Loop σ → LabelRule → Loop σ :=
  syncRule svc (svc.provider l.gs) l.gs forceAll l.shas l.agents

/-- The effect of the loop over the rules that are left. -/
def rest (svc : Service σ) (l : Locals) (forceAll : Bool) (acc : Loop σ) : Effect σ :=
  (persistOutcome l.gs l.commitSHA (l.rules.foldl (l.round svc forceAll) acc)).effect

/-- A file that the loop is done with. -/
def cached (svc : Service σ) (l : Locals) (rule : LabelRule) (pushed : Bool) (acc : Loop σ) :
    Loop σ :=
  { acc with
    store := cacheFileSHA svc l.gs acc.store rule.filePath (l.fileSHA rule)
    filesChanged := if pushed then acc.filesChanged + 1 else acc.filesChanged }

/-- The errors after the loop, if the fetch of each file that is left fails. -/
def cancelledErrors (err : ContextCall → String) (l : Locals) : List String :=
  l.pushErrors ++ l.rules.map fun rule =>
    "fetch " ++ rule.filePath ++ ": " ++ err (.fetchFile rule.filePath)

end Locals

namespace Sync

/-- The effect of a sync that runs alone from its stage on. -/
def effect (svc : Service σ) (sync : Sync) (world : σ) (store : Store) : Effect σ :=
  match sync.stage with
  | .get =>
    match store.get sync.id with
    | .error _ => ⟨world, store, .error errNotFound⟩
    | .ok gs => (runSync svc gs sync.forceAll world store).effect
  | .latestCommitSHA gs => (runSync svc gs sync.forceAll world store).effect
  | .listFiles gs commitSHA => (runFromFiles svc gs sync.forceAll commitSHA world store).effect
  | .listAgents gs commitSHA entries =>
    (runFromAgents svc gs sync.forceAll commitSHA entries world store).effect
  | .nextRule l => l.rest svc sync.forceAll (l.acc world store)
  -- A forced round is a round after the check of the cache.
  | .fetchFile l rule => l.rest svc sync.forceAll (l.round svc true (l.acc world store) rule)
  | .push l rule content matched =>
    l.rest svc sync.forceAll
      (l.cached svc rule true (matched.foldl (pushTo svc content) (l.acc world store)))
  | .upsertFileSHA l rule _ pushed =>
    l.rest svc sync.forceAll (l.cached svc rule pushed (l.acc world store))
  | .recordFailure sourceID sha syncErr result err =>
    ⟨world, Gitsync.recordFailure store sourceID sha syncErr, .ok (result, err)⟩
  | .returned result => ⟨world, store, result⟩

theorem effect_trigger (svc : Service σ) (id : String) (world : σ) (store : Store) :
    effect svc { id, forceAll := true } world store = triggerEffect svc id world store := by
  unfold effect triggerEffect triggerSync
  cases store.get id <;> rfl

/-! ### One step -/

section Step

variable {sync sync' : Sync} {world world' : σ} {store store' : Store}

/-- A step of a sync, with its guard and what it leaves. -/
inductive Stepped (svc : Service σ) (ctx : Context) (sync : Sync) (world : σ) (store : Store) :
    Sync → σ → Store → Prop where
  | found (gs : GitSource) (hstage : sync.stage = .get) (hctx : ctx = .live)
      (hget : store.get sync.id = .ok gs) :
      Stepped svc ctx sync world store (sync.goto (.latestCommitSHA gs)) world store
  | notFound (hstage : sync.stage = .get) (hget : ∀ gs, ctx = .live → store.get sync.id ≠ .ok gs) :
      Stepped svc ctx sync world store (sync.goto (.returned (.error errNotFound))) world store
  | noProvider (gs : GitSource) (err : String) (hstage : sync.stage = .latestCommitSHA gs)
      (hprov : newProvider (svc.under ctx) gs = .error err) :
      Stepped svc ctx sync world store (sync.goto (failWith gs "" err err)) world store
  | noCommit (gs : GitSource) (prov : Provider σ) (err : String)
      (hstage : sync.stage = .latestCommitSHA gs)
      (hprov : newProvider (svc.under ctx) gs = .ok prov)
      (hcommit : prov.latestCommitSHA gs.branch world = .error err) :
      Stepped svc ctx sync world store
        (sync.goto (failWith gs gs.lastSyncSHA err ("fetching commit SHA: " ++ err))) world store
  | sameCommit (gs : GitSource) (prov : Provider σ) (commitSHA : String)
      (hstage : sync.stage = .latestCommitSHA gs)
      (hprov : newProvider (svc.under ctx) gs = .ok prov)
      (hcommit : prov.latestCommitSHA gs.branch world = .ok commitSHA)
      (hsame : (!sync.forceAll && commitSHA != "" && commitSHA == gs.lastSyncSHA) = true) :
      Stepped svc ctx sync world store
        (sync.goto (.returned (.ok ({ sourceID := gs.id }, none)))) world store
  | newCommit (gs : GitSource) (prov : Provider σ) (commitSHA : String)
      (hstage : sync.stage = .latestCommitSHA gs)
      (hprov : newProvider (svc.under ctx) gs = .ok prov)
      (hcommit : prov.latestCommitSHA gs.branch world = .ok commitSHA)
      (hsame : (!sync.forceAll && commitSHA != "" && commitSHA == gs.lastSyncSHA) ≠ true) :
      Stepped svc ctx sync world store (sync.goto (.listFiles gs commitSHA)) world store
  | noFiles (gs : GitSource) (commitSHA err : String)
      (hstage : sync.stage = .listFiles gs commitSHA)
      (hfiles : ((svc.under ctx).provider gs).listFiles gs.branch gs.configRoot world
        = .error err) :
      Stepped svc ctx sync world store
        (sync.goto (failWith gs gs.lastSyncSHA err ("listing files: " ++ err))) world store
  | files (gs : GitSource) (commitSHA : String) (entries : List FileEntry)
      (hstage : sync.stage = .listFiles gs commitSHA)
      (hfiles : ((svc.under ctx).provider gs).listFiles gs.branch gs.configRoot world
        = .ok entries) :
      Stepped svc ctx sync world store (sync.goto (.listAgents gs commitSHA entries)) world store
  | noAgents (gs : GitSource) (commitSHA : String) (entries : List FileEntry) (err : String)
      (hstage : sync.stage = .listAgents gs commitSHA entries)
      (hagents : (svc.under ctx).listAgents world = .error err) :
      Stepped svc ctx sync world store
        (sync.goto (failWith gs gs.lastSyncSHA err ("listing agents: " ++ err))) world store
  | agents (gs : GitSource) (commitSHA : String) (entries : List FileEntry)
      (agents : List Types.Agent) (hstage : sync.stage = .listAgents gs commitSHA entries)
      (hagents : (svc.under ctx).listAgents world = .ok agents) :
      Stepped svc ctx sync world store (sync.goto (.nextRule {
        gs, commitSHA, agents
        shas := shaByPath entries
        rules := parseRules entries gs.configRoot })) world store
  | skipRule (l : Locals) (rule : LabelRule) (rules : List LabelRule)
      (hstage : sync.stage = .nextRule l) (hrules : l.rules = rule :: rules)
      (hskip : (!sync.forceAll && ctx.isLive
        && fileUnchanged l.gs store rule.filePath (l.fileSHA rule)) = true) :
      Stepped svc ctx sync world store (sync.goto (.nextRule { l with rules })) world store
  | dueRule (l : Locals) (rule : LabelRule) (rules : List LabelRule)
      (hstage : sync.stage = .nextRule l) (hrules : l.rules = rule :: rules)
      (hskip : (!sync.forceAll && ctx.isLive
        && fileUnchanged l.gs store rule.filePath (l.fileSHA rule)) ≠ true) :
      Stepped svc ctx sync world store (sync.goto (.fetchFile { l with rules } rule)) world store
  | loopFailed (l : Locals) (err : String) (errs : List String)
      (hstage : sync.stage = .nextRule l) (hrules : l.rules = [])
      (herrs : l.pushErrors = err :: errs) :
      Stepped svc ctx sync world store (sync.goto (.recordFailure l.gs.id (finalSHA l)
        (toString l.pushErrors.length ++ " error(s): " ++ err) (loopResult l) none)) world store
  | loopDone (l : Locals) (hstage : sync.stage = .nextRule l) (hrules : l.rules = [])
      (herrs : l.pushErrors = []) :
      Stepped svc ctx sync world store (sync.goto (.returned (.ok (loopResult l, none)))) world
        (if ctx.isLive then store.updateSyncState l.gs.id (finalSHA l) .success "" else store)
  | fetchFailed (l : Locals) (rule : LabelRule) (world' : σ) (err : String)
      (hstage : sync.stage = .fetchFile l rule)
      (hfetch : ((svc.under ctx).provider l.gs).fetchFile rule.filePath (l.fileSHA rule) world
        = (world', .error err)) :
      Stepped svc ctx sync world store (sync.goto (.nextRule
        { l with pushErrors := l.pushErrors ++ ["fetch " ++ rule.filePath ++ ": " ++ err] }))
        world' store
  | fetched (l : Locals) (rule : LabelRule) (world' : σ) (content : Bytes) (stage : Stage)
      (hstage : sync.stage = .fetchFile l rule)
      (hfetch : ((svc.under ctx).provider l.gs).fetchFile rule.filePath (l.fileSHA rule) world
        = (world', .ok content))
      (hnext : matchAgents rule l.agents = [] ∧ stage = .upsertFileSHA l rule content false ∨
        matchAgents rule l.agents ≠ [] ∧
          stage = .push l rule content (matchAgents rule l.agents)) :
      Stepped svc ctx sync world store (sync.goto stage) world' store
  | push (l : Locals) (rule : LabelRule) (content : Bytes) (a : Types.Agent)
      (matched : List Types.Agent) (hstage : sync.stage = .push l rule content (a :: matched)) :
      Stepped svc ctx sync world store
        (sync.goto (afterPush (svc.under ctx) l rule content matched a world).1)
        (afterPush (svc.under ctx) l rule content matched a world).2 store
  | pushed (l : Locals) (rule : LabelRule) (content : Bytes)
      (hstage : sync.stage = .push l rule content []) :
      Stepped svc ctx sync world store (sync.goto (.upsertFileSHA l rule content true)) world store
  | upsertFileSHA (l l' : Locals) (rule : LabelRule) (content : Bytes) (pushed : Bool)
      (hstage : sync.stage = .upsertFileSHA l rule content pushed)
      (hnext : l' = if pushed then { l with filesChanged := l.filesChanged + 1 } else l) :
      Stepped svc ctx sync world store (sync.goto (.nextRule l')) world (if ctx.isLive then
        cacheFileSHA (svc.under ctx) l.gs store rule.filePath (l.fileSHA rule) else store)
  | recordFailure (sourceID sha syncErr : String) (result : SyncResult) (err : Option String)
      (hstage : sync.stage = .recordFailure sourceID sha syncErr result err) :
      Stepped svc ctx sync world store (sync.goto (.returned (.ok (result, err)))) world
        (Gitsync.recordFailure store sourceID sha syncErr)

/-- A step of a sync is one of those listed. -/
theorem step_inv {ctx : Context}
    (hstep : sync.step svc ctx world store = some (sync', world', store')) :
    Stepped svc ctx sync world store sync' world' store' := by
  unfold step at hstep
  dsimp only at hstep
  cases hstage : sync.stage with
  | get =>
    rw [hstage] at hstep
    cases ctx with
    | live =>
      dsimp only at hstep
      cases hget : store.get sync.id with
      | error err =>
        rw [hget] at hstep
        cases hstep
        exact .notFound hstage fun gs _ hok => by rw [hget] at hok; cases hok
      | ok gs =>
        rw [hget] at hstep
        cases hstep
        exact .found gs hstage rfl hget
    | cancelled err =>
      cases hstep
      exact .notFound hstage fun gs hctx => by cases hctx
  | latestCommitSHA gs =>
    rw [hstage] at hstep
    dsimp only at hstep
    cases hprov : newProvider (svc.under ctx) gs with
    | error err =>
      rw [hprov] at hstep
      cases hstep
      exact .noProvider gs err hstage hprov
    | ok prov =>
      rw [hprov] at hstep
      dsimp only at hstep
      cases hcommit : prov.latestCommitSHA gs.branch world with
      | error err =>
        rw [hcommit] at hstep
        cases hstep
        exact .noCommit gs prov err hstage hprov hcommit
      | ok commitSHA =>
        rw [hcommit] at hstep
        dsimp only at hstep
        by_cases hsame : (!sync.forceAll && commitSHA != "" && commitSHA == gs.lastSyncSHA) = true
        · rw [if_pos hsame] at hstep
          cases hstep
          exact .sameCommit gs prov commitSHA hstage hprov hcommit hsame
        · rw [if_neg hsame] at hstep
          cases hstep
          exact .newCommit gs prov commitSHA hstage hprov hcommit hsame
  | listFiles gs commitSHA =>
    rw [hstage] at hstep
    dsimp only at hstep
    cases hfiles : ((svc.under ctx).provider gs).listFiles gs.branch gs.configRoot world with
    | error err =>
      rw [hfiles] at hstep
      cases hstep
      exact .noFiles gs commitSHA err hstage hfiles
    | ok entries =>
      rw [hfiles] at hstep
      cases hstep
      exact .files gs commitSHA entries hstage hfiles
  | listAgents gs commitSHA entries =>
    rw [hstage] at hstep
    dsimp only at hstep
    cases hagents : (svc.under ctx).listAgents world with
    | error err =>
      rw [hagents] at hstep
      cases hstep
      exact .noAgents gs commitSHA entries err hstage hagents
    | ok agents =>
      rw [hagents] at hstep
      cases hstep
      exact .agents gs commitSHA entries agents hstage hagents
  | nextRule l =>
    rw [hstage] at hstep
    dsimp only at hstep
    cases hrules : l.rules with
    | nil =>
      rw [hrules] at hstep
      dsimp only at hstep
      cases herrs : l.pushErrors with
      | nil =>
        rw [herrs] at hstep
        cases hstep
        exact .loopDone l hstage hrules herrs
      | cons err errs =>
        rw [herrs] at hstep
        cases hstep
        have hfailed : Stepped svc ctx sync world store _ _ _ :=
          .loopFailed l err errs hstage hrules herrs
        rw [herrs] at hfailed
        exact hfailed
    | cons rule rules =>
      rw [hrules] at hstep
      dsimp only at hstep
      split at hstep
      · rename_i hskip
        cases hstep
        exact .skipRule l rule rules hstage hrules hskip
      · rename_i hskip
        cases hstep
        exact .dueRule l rule rules hstage hrules hskip
  | fetchFile l rule =>
    rw [hstage] at hstep
    dsimp only at hstep
    rcases hfetch : ((svc.under ctx).provider l.gs).fetchFile rule.filePath (l.fileSHA rule) world
      with ⟨world₁, err | content⟩
    · rw [hfetch] at hstep
      cases hstep
      exact .fetchFailed l rule world' err hstage hfetch
    · rw [hfetch] at hstep
      dsimp only at hstep
      cases hmatched : matchAgents rule l.agents with
      | nil =>
        rw [hmatched] at hstep
        cases hstep
        exact .fetched l rule world' content _ hstage hfetch (.inl ⟨hmatched, rfl⟩)
      | cons a matched =>
        rw [hmatched] at hstep
        cases hstep
        refine .fetched l rule world' content _ hstage hfetch (.inr ⟨?_, ?_⟩)
        · rw [hmatched]
          exact List.cons_ne_nil a matched
        · rw [hmatched]
  | push l rule content matched =>
    rw [hstage] at hstep
    cases matched with
    | nil =>
      cases hstep
      exact .pushed l rule content hstage
    | cons a matched =>
      cases hstep
      exact .push l rule content a matched hstage
  | upsertFileSHA l rule content pushed =>
    rw [hstage] at hstep
    cases hstep
    exact .upsertFileSHA l _ rule content pushed hstage rfl
  | recordFailure sourceID sha syncErr result err =>
    rw [hstage] at hstep
    cases hstep
    exact .recordFailure sourceID sha syncErr result err hstage
  | returned result =>
    rw [hstage] at hstep
    cases hstep

@[simp] theorem goto_stage (stage : Stage) : (sync.goto stage).stage = stage := rfl

@[simp] theorem goto_forceAll (stage : Stage) : (sync.goto stage).forceAll = sync.forceAll := rfl

theorem under_live (svc : Service σ) : svc.under .live = svc := rfl

/-- The effect at the check of the commit, with a provider. -/
theorem effect_latestCommitSHA {gs : GitSource} {prov : Provider σ}
    (hstage : sync.stage = .latestCommitSHA gs) (hprov : newProvider svc gs = .ok prov) :
    sync.effect svc world store
      = match prov.latestCommitSHA gs.branch world with
        | .error err =>
          (failedOutcome gs gs.lastSyncSHA err ("fetching commit SHA: " ++ err) world store).effect
        | .ok commitSHA =>
          if !sync.forceAll && commitSHA != "" && commitSHA == gs.lastSyncSHA then
            ⟨world, store, .ok ({ sourceID := gs.id }, none)⟩
          else (runFromFiles svc gs sync.forceAll commitSHA world store).effect := by
  unfold effect
  rw [hstage]
  dsimp only
  rw [runSync_eq, hprov]
  dsimp only
  cases prov.latestCommitSHA gs.branch world with
  | error err => rfl
  | ok commitSHA => exact apply_ite Outcome.effect _ _ _

/-- A round over a file that is in the cache leaves the variables of the loop alone. -/
theorem round_of_unchanged {l : Locals} {rule : LabelRule} {forceAll : Bool}
    (hskip : (!forceAll && fileUnchanged l.gs store rule.filePath (l.fileSHA rule)) = true) :
    l.round svc forceAll (l.acc world store) rule = l.acc world store :=
  if_pos hskip

/-- A round over any other file is a forced one. -/
theorem round_of_due {l : Locals} {rule : LabelRule} {forceAll : Bool}
    (hdue : ¬ (!forceAll && fileUnchanged l.gs store rule.filePath (l.fileSHA rule)) = true) :
    l.round svc forceAll (l.acc world store) rule = l.round svc true (l.acc world store) rule :=
  if_neg hdue

/-- A forced round whose fetch fails. -/
theorem round_of_fetchFailed {l : Locals} {rule : LabelRule} {err : String}
    (hfetch : (svc.provider l.gs).fetchFile rule.filePath (l.fileSHA rule) world
      = (world', .error err)) :
    l.round svc true (l.acc world store) rule = { l.acc world' store with
      pushErrors := l.pushErrors ++ ["fetch " ++ rule.filePath ++ ": " ++ err] } := by
  unfold Locals.round syncRule
  dsimp only
  have hsha : (l.shas.lookup rule.filePath).getD "" = l.fileSHA rule := rfl
  rw [Bool.not_true, Bool.false_and, if_neg Bool.false_ne_true, hsha,
    show (l.acc world store).world = world from rfl, hfetch]
  rfl

/-- A forced round whose fetch succeeds. -/
theorem round_of_fetched {l : Locals} {rule : LabelRule} {content : Bytes}
    (hfetch : (svc.provider l.gs).fetchFile rule.filePath (l.fileSHA rule) world
      = (world', .ok content)) :
    l.round svc true (l.acc world store) rule
      = if matchAgents rule l.agents = [] then l.cached svc rule false (l.acc world' store)
        else l.cached svc rule true
          ((matchAgents rule l.agents).foldl (pushTo svc content) (l.acc world' store)) := by
  unfold Locals.round syncRule
  dsimp only
  have hsha : (l.shas.lookup rule.filePath).getD "" = l.fileSHA rule := rfl
  rw [Bool.not_true, Bool.false_and, if_neg Bool.false_ne_true, hsha,
    show (l.acc world store).world = world from rfl, hfetch]
  rfl

/-- The effect of the loop when no rule is left. -/
theorem rest_of_nil {l : Locals} {forceAll : Bool} (hrules : l.rules = []) :
    l.rest svc forceAll (l.acc world store)
      = match l.pushErrors with
        | err :: _ =>
          ⟨world, Gitsync.recordFailure store l.gs.id (finalSHA l)
            (toString l.pushErrors.length ++ " error(s): " ++ err), .ok (loopResult l, none)⟩
        | [] =>
          ⟨world, store.updateSyncState l.gs.id (finalSHA l) .success "",
            .ok (loopResult l, none)⟩ := by
  unfold Locals.rest
  rw [hrules, List.foldl_nil]
  unfold persistOutcome
  cases herrors : l.pushErrors with
  | nil => simp [Locals.acc, herrors, Outcome.effect, loopResult, finalSHA]
  | cons err errs => simp [Locals.acc, herrors, Outcome.effect, loopResult, finalSHA]

/-- The effect after a push. -/
theorem effect_afterPush {l : Locals} {rule : LabelRule} {content : Bytes} {a : Types.Agent}
    {matched : List Types.Agent} (hstage : sync.stage = .push l rule content (a :: matched)) :
    (sync.goto (afterPush svc l rule content matched a world).1).effect svc
        (afterPush svc l rule content matched a world).2 store
      = sync.effect svc world store := by
  unfold effect
  rw [hstage, goto_stage, goto_forceAll]
  dsimp only [afterPush]
  rw [List.foldl_cons, pushTo, show (l.acc world store).world = world from rfl]
  rcases svc.sendConfigToAgent a.id content world with ⟨world₁, _ | err⟩
  · rfl
  · rfl

/-- No step of a sync under a live context changes the effect of the sync. -/
theorem effect_step (hstep : sync.step svc .live world store = some (sync', world', store')) :
    sync'.effect svc world' store' = sync.effect svc world store := by
  cases step_inv hstep with
  | found gs hstage _ hget =>
    rw [effect, effect, hstage, goto_stage]
    dsimp only
    rw [hget, goto_forceAll]
  | notFound hstage hget =>
    rw [effect, effect, hstage, goto_stage]
    dsimp only
    cases hrow : store.get sync.id with
    | error err => rfl
    | ok gs => exact absurd hrow (hget gs rfl)
  | noProvider gs err hstage hprov =>
    rw [under_live] at hprov
    rw [effect, effect, hstage, goto_stage]
    dsimp only
    rw [runSync_eq, hprov]
    rfl
  | noCommit gs prov err hstage hprov hcommit =>
    rw [under_live] at hprov
    rw [effect_latestCommitSHA hstage hprov, hcommit]
    rfl
  | sameCommit gs prov commitSHA hstage hprov hcommit hsame =>
    rw [under_live] at hprov
    rw [effect_latestCommitSHA hstage hprov, hcommit]
    exact (if_pos hsame).symm
  | newCommit gs prov commitSHA hstage hprov hcommit hnew =>
    rw [under_live] at hprov
    rw [effect_latestCommitSHA hstage hprov, hcommit]
    exact (if_neg hnew).symm
  | noFiles gs commitSHA err hstage hfiles =>
    rw [under_live] at hfiles
    rw [effect, effect, hstage, goto_stage]
    dsimp only [runFromFiles]
    rw [hfiles]
    rfl
  | files gs commitSHA entries hstage hfiles =>
    rw [under_live] at hfiles
    rw [effect, effect, hstage, goto_stage]
    dsimp only [runFromFiles]
    rw [hfiles, goto_forceAll]
  | noAgents gs commitSHA entries err hstage hagents =>
    rw [under_live] at hagents
    rw [effect, effect, hstage, goto_stage]
    dsimp only [runFromAgents]
    rw [hagents]
    rfl
  | agents gs commitSHA entries agents hstage hagents =>
    rw [under_live] at hagents
    rw [effect, effect, hstage, goto_stage]
    dsimp only [runFromAgents]
    rw [hagents]
    rfl
  | skipRule l rule rules hstage hrules hskip =>
    rw [Context.isLive, Bool.and_true] at hskip
    rw [effect, effect, hstage, goto_stage, goto_forceAll]
    dsimp only [Locals.rest]
    rw [hrules, List.foldl_cons, round_of_unchanged hskip]
    rfl
  | dueRule l rule rules hstage hrules hdue =>
    rw [Context.isLive, Bool.and_true] at hdue
    rw [effect, effect, hstage, goto_stage, goto_forceAll]
    dsimp only [Locals.rest]
    rw [hrules, List.foldl_cons, round_of_due hdue]
    rfl
  | loopFailed l err errs hstage hrules herrs =>
    rw [effect, effect, hstage, goto_stage]
    dsimp only
    rw [rest_of_nil hrules, herrs]
  | loopDone l hstage hrules herrs =>
    rw [effect, effect, hstage, goto_stage]
    dsimp only
    rw [rest_of_nil hrules, herrs]
    rfl
  | fetchFailed l rule world' err hstage hfetch =>
    rw [under_live] at hfetch
    rw [effect, effect, hstage, goto_stage]
    dsimp only
    rw [round_of_fetchFailed hfetch]
    rfl
  | fetched l rule world' content stage hstage hfetch hnext =>
    rw [under_live] at hfetch
    rw [effect, effect, hstage, goto_stage]
    dsimp only
    rw [round_of_fetched hfetch]
    rcases hnext with ⟨hmatched, rfl⟩ | ⟨hmatched, rfl⟩
    · rw [if_pos hmatched]
      rfl
    · rw [if_neg hmatched]
      rfl
  | push l rule content a matched hstage => exact effect_afterPush hstage
  | pushed l rule content hstage =>
    rw [effect, effect, hstage, goto_stage]
    rfl
  | upsertFileSHA l l' rule content pushed hstage hnext =>
    subst hnext
    rw [effect, effect, hstage, goto_stage]
    cases pushed <;> rfl
  | recordFailure sourceID sha syncErr result err hstage =>
    rw [effect, effect, hstage, goto_stage]

end Step

/-! ### A sync that runs alone -/

/-- A step of a sync under a live context, with the world and the store. -/
def Next (svc : Service σ) (p q : Sync × σ × Store) : Prop :=
  p.1.step svc .live p.2.1 p.2.2 = some q

/-- The sync returns, if it runs alone. -/
def Returns (svc : Service σ) (p : Sync × σ × Store) : Prop :=
  ∃ q, Relation.ReflTransGen (Next svc) p q ∧ ∃ result, q.1.stage = .returned result

theorem Returns.of_step (svc : Service σ) (sync : Sync) (world : σ) (store : Store) :
    ∀ q, sync.step svc .live world store = some q → Returns svc q →
      Returns svc (sync, world, store) := by
  intro q hstep hq
  obtain ⟨r, hr, hreturned⟩ := hq
  exact ⟨r, Relation.ReflTransGen.head hstep hr, hreturned⟩

section Returns

variable {sync : Sync} {world : σ} {store : Store}

theorem returns_returned {result : Except String (SyncResult × Option String)}
    (hstage : sync.stage = .returned result) : Returns svc (sync, world, store) :=
  ⟨_, Relation.ReflTransGen.refl, result, hstage⟩

theorem returns_recordFailure {sourceID sha syncErr : String} {result : SyncResult}
    {err : Option String} (hstage : sync.stage = .recordFailure sourceID sha syncErr result err) :
    Returns svc (sync, world, store) := by
  have hnext := Returns.of_step svc sync world store
  unfold step at hnext
  rw [hstage] at hnext
  exact hnext _ rfl (returns_returned rfl)

variable {rules : List LabelRule} {l : Locals} {rule : LabelRule} {content : Bytes}

/-- The sync returns from the head of the loop when these rules are left. -/
def ReturnsWith (svc : Service σ) (rules : List LabelRule) : Prop :=
  ∀ (sync : Sync) (l : Locals) (world : σ) (store : Store),
    sync.stage = .nextRule l → l.rules = rules → Returns svc (sync, world, store)

theorem returns_upsertFileSHA (hrest : ReturnsWith svc rules) {pushed : Bool}
    (hstage : sync.stage = .upsertFileSHA l rule content pushed) (hrules : l.rules = rules) :
    Returns svc (sync, world, store) := by
  have hnext := Returns.of_step svc sync world store
  unfold step at hnext
  rw [hstage] at hnext
  refine hnext _ rfl (hrest _ _ _ _ rfl ?_)
  split
  · exact hrules
  · exact hrules

/-- The induction is on the agents that are left. -/
theorem returns_push (hrest : ReturnsWith svc rules) {matched : List Types.Agent}
    (hstage : sync.stage = .push l rule content matched) (hrules : l.rules = rules) :
    Returns svc (sync, world, store) := by
  induction matched generalizing sync l world with
  | nil =>
    have hnext := Returns.of_step svc sync world store
    unfold step at hnext
    rw [hstage] at hnext
    exact hnext _ rfl (returns_upsertFileSHA hrest rfl hrules)
  | cons a matched ih =>
    have hnext := Returns.of_step svc sync world store
    unfold step at hnext
    rw [hstage] at hnext
    dsimp only [under_live, afterPush] at hnext
    cases hsend : svc.sendConfigToAgent a.id content world with
    | mk world' err =>
      rw [hsend] at hnext
      cases err with
      | none => exact hnext _ rfl (ih rfl hrules)
      | some err => exact hnext _ rfl (ih rfl hrules)

theorem returns_fetchFile (hrest : ReturnsWith svc rules)
    (hstage : sync.stage = .fetchFile l rule) (hrules : l.rules = rules) :
    Returns svc (sync, world, store) := by
  have hnext := Returns.of_step svc sync world store
  unfold step at hnext
  rw [hstage] at hnext
  dsimp only [under_live] at hnext
  cases hfetch : (svc.provider l.gs).fetchFile rule.filePath (l.fileSHA rule) world with
  | mk world' content =>
    rw [hfetch] at hnext
    cases content with
    | error err => exact hnext _ rfl (hrest _ _ _ _ rfl hrules)
    | ok content =>
      dsimp only at hnext
      cases hmatched : matchAgents rule l.agents with
      | nil =>
        rw [hmatched] at hnext
        exact hnext _ rfl (returns_upsertFileSHA hrest rfl hrules)
      | cons a matched =>
        rw [hmatched] at hnext
        exact hnext _ rfl (returns_push hrest rfl hrules)

/-- The induction is on the rules that are left. -/
theorem returnsWith (svc : Service σ) (rules : List LabelRule) : ReturnsWith svc rules := by
  induction rules with
  | nil =>
    intro sync l world store hstage hrules
    have hnext := Returns.of_step svc sync world store
    unfold step at hnext
    rw [hstage] at hnext
    dsimp only at hnext
    rw [hrules] at hnext
    cases herrors : l.pushErrors with
    | nil =>
      rw [herrors] at hnext
      exact hnext _ rfl (returns_returned rfl)
    | cons err errs =>
      rw [herrors] at hnext
      exact hnext _ rfl (returns_recordFailure rfl)
  | cons rule rules ih =>
    intro sync l world store hstage hrules
    have hnext := Returns.of_step svc sync world store
    unfold step at hnext
    rw [hstage] at hnext
    dsimp only at hnext
    rw [hrules] at hnext
    dsimp only at hnext
    split at hnext
    · exact hnext _ rfl (ih _ _ _ _ rfl rfl)
    · exact hnext _ rfl (returns_fetchFile ih rfl rfl)

theorem returns_listAgents {gs : GitSource} {commitSHA : String} {entries : List FileEntry}
    (hstage : sync.stage = .listAgents gs commitSHA entries) :
    Returns svc (sync, world, store) := by
  have hnext := Returns.of_step svc sync world store
  unfold step at hnext
  rw [hstage] at hnext
  dsimp only at hnext
  split at hnext
  · exact hnext _ rfl (returns_recordFailure rfl)
  · exact hnext _ rfl (returnsWith svc _ _ _ _ _ rfl rfl)

theorem returns_listFiles {gs : GitSource} {commitSHA : String}
    (hstage : sync.stage = .listFiles gs commitSHA) : Returns svc (sync, world, store) := by
  have hnext := Returns.of_step svc sync world store
  unfold step at hnext
  rw [hstage] at hnext
  dsimp only at hnext
  split at hnext
  · exact hnext _ rfl (returns_recordFailure rfl)
  · exact hnext _ rfl (returns_listAgents rfl)

theorem returns_latestCommitSHA {gs : GitSource} (hstage : sync.stage = .latestCommitSHA gs) :
    Returns svc (sync, world, store) := by
  have hnext := Returns.of_step svc sync world store
  unfold step at hnext
  rw [hstage] at hnext
  dsimp only at hnext
  split at hnext
  · exact hnext _ rfl (returns_recordFailure rfl)
  · split at hnext
    · exact hnext _ rfl (returns_recordFailure rfl)
    · split at hnext
      · exact hnext _ rfl (returns_returned rfl)
      · exact hnext _ rfl (returns_listFiles rfl)

/-- A sync that runs alone returns, from each stage. -/
theorem returns (svc : Service σ) (sync : Sync) (world : σ) (store : Store) :
    Returns svc (sync, world, store) := by
  cases hstage : sync.stage with
  | get =>
    have hnext := Returns.of_step svc sync world store
    unfold step at hnext
    rw [hstage] at hnext
    dsimp only at hnext
    split at hnext
    · exact hnext _ rfl (returns_latestCommitSHA rfl)
    · exact hnext _ rfl (returns_returned rfl)
  | latestCommitSHA gs => exact returns_latestCommitSHA hstage
  | listFiles gs commitSHA => exact returns_listFiles hstage
  | listAgents gs commitSHA entries => exact returns_listAgents hstage
  | nextRule l => exact returnsWith svc _ _ _ _ _ hstage rfl
  | fetchFile l rule => exact returns_fetchFile (returnsWith svc _) hstage rfl
  | push l rule content matched => exact returns_push (returnsWith svc _) hstage rfl
  | upsertFileSHA l rule content pushed =>
    exact returns_upsertFileSHA (returnsWith svc _) hstage rfl
  | recordFailure sourceID sha syncErr result err => exact returns_recordFailure hstage
  | returned result => exact returns_returned hstage

/-- A sync that runs alone returns, and it leaves the effect of its first stage. -/
theorem finishes (svc : Service σ) (sync : Sync) (world : σ) (store : Store) :
    ∃ sync', Relation.ReflTransGen (Next svc) (sync, world, store)
        (sync', (sync.effect svc world store).world, (sync.effect svc world store).store) ∧
      sync'.stage = .returned (sync.effect svc world store).result := by
  obtain ⟨⟨sync', world', store'⟩, hsteps, result, hstage⟩ := returns svc sync world store
  have heffect : ∀ p q : Sync × σ × Store, Relation.ReflTransGen (Next svc) p q →
      q.1.effect svc q.2.1 q.2.2 = p.1.effect svc p.2.1 p.2.2 := by
    intro p q hpq
    induction hpq with
    | refl => rfl
    | tail _ hnext ih => rw [← ih, effect_step hnext]
  have hend := heffect _ _ hsteps
  dsimp only at hstage hend
  rw [effect, hstage] at hend
  refine ⟨sync', ?_, ?_⟩
  · rw [← hend]
    exact hsteps
  · rw [← hend]
    exact hstage

end Returns

/-! ### The context -/

theorem newProvider_under (svc : Service σ) (gs : GitSource) (ctx : Context) :
    newProvider (svc.under ctx) gs
      = (newProvider svc gs).map fun _ => (svc.under ctx).provider gs := by
  unfold newProvider
  split <;> rfl

/-- A step that does not use the context does the same under every context. -/
theorem step_of_not_usesContext {sync : Sync} (huses : sync.usesContext svc = false)
    (ctx : Context) (world : σ) (store : Store) :
    sync.step svc ctx world store = sync.step svc .live world store := by
  unfold usesContext at huses
  unfold step
  cases hstage : sync.stage with
  | get =>
    rw [hstage] at huses
    cases huses
  | latestCommitSHA gs =>
    rw [hstage] at huses
    dsimp only at huses ⊢
    -- Without a provider there is no call, and the error is the same.
    rw [newProvider_under, newProvider_under]
    cases hprov : newProvider svc gs with
    | error err => rfl
    | ok prov =>
      rw [hprov] at huses
      cases huses
  | listFiles gs commitSHA =>
    rw [hstage] at huses
    cases huses
  | listAgents gs commitSHA entries =>
    rw [hstage] at huses
    cases huses
  | nextRule l =>
    rw [hstage] at huses
    dsimp only at huses ⊢
    split
    -- A forced sync does not read the cache, and a failed one writes no sync state.
    · rename_i rule rules hrules
      rw [hrules, if_neg (List.cons_ne_nil _ _)] at huses
      simp only [huses, Bool.false_and]
    · rename_i hrules
      rw [if_pos hrules] at huses
      split
      · rfl
      · rename_i hnone
        rw [hnone] at huses
        cases huses
  | fetchFile l rule =>
    rw [hstage] at huses
    cases huses
  | push l rule content matched => cases matched <;> rfl
  | upsertFileSHA l rule content pushed =>
    rw [hstage] at huses
    -- The file has no SHA, so there is nothing to cache.
    have hsha : l.fileSHA rule = "" := by simpa using huses
    have hcache : ∀ svc' : Service σ,
        cacheFileSHA svc' l.gs store rule.filePath (l.fileSHA rule) = store := by
      intro svc'
      unfold cacheFileSHA
      rw [if_pos hsha]
    dsimp only
    rw [hcache, hcache, ite_self, ite_self]
  | recordFailure sourceID sha syncErr result err => rfl
  | returned result => rfl

/-- The sync still passes its context to a call, if it runs alone. -/
def NeedsContext (svc : Service σ) (p : Sync × σ × Store) : Prop :=
  ∃ q, Relation.ReflTransGen (Next svc) p q ∧ q.1.usesContext svc = true

theorem NeedsContext.of_usesContext {p : Sync × σ × Store} (h : p.1.usesContext svc = true) :
    NeedsContext svc p :=
  ⟨p, Relation.ReflTransGen.refl, h⟩

theorem NeedsContext.head {p q : Sync × σ × Store} (hnext : Next svc p q)
    (h : NeedsContext svc q) : NeedsContext svc p := by
  obtain ⟨r, hr, huses⟩ := h
  exact ⟨r, Relation.ReflTransGen.head hnext hr, huses⟩

/-- A sync whose next step does not use the context needs it after that step, or not at all. -/
theorem NeedsContext.next {p : Sync × σ × Store} (h : NeedsContext svc p)
    (huses : p.1.usesContext svc = false) : ∃ q, Next svc p q ∧ NeedsContext svc q := by
  obtain ⟨r, hr, hruses⟩ := h
  rcases Relation.ReflTransGen.cases_head hr with rfl | ⟨q, hnext, hq⟩
  · rw [huses] at hruses
    cases hruses
  · exact ⟨q, hnext, r, hq, hruses⟩

theorem not_needsContext_of_returned {p : Sync × σ × Store}
    {result : Except String (SyncResult × Option String)} (hstage : p.1.stage = .returned result) :
    ¬ NeedsContext svc p := by
  intro h
  have huses : p.1.usesContext svc = false := by
    unfold usesContext
    rw [hstage]
  obtain ⟨q, hnext, _⟩ := h.next huses
  unfold Next step at hnext
  rw [hstage] at hnext
  cases hnext

/-! ### A cancellation in the loop -/

/-- A step of a sync under a context, with the world and the store. -/
def NextUnder (svc : Service σ) (ctx : Context) (p q : Sync × σ × Store) : Prop :=
  p.1.step svc ctx p.2.1 p.2.2 = some q

/-- A loop whose context is cancelled counts an error for each file that is left. -/
theorem cancelled_rules (svc : Service σ) (err : ContextCall → String) (world : σ)
    (store : Store) (rules : List LabelRule) :
    ∀ (sync : Sync) (l : Locals), sync.stage = .nextRule l → l.rules = rules →
      Relation.ReflTransGen (NextUnder svc (.cancelled err)) (sync, world, store)
        (sync.goto (.nextRule { l with rules := [], pushErrors := l.cancelledErrors err }),
          world, store) := by
  induction rules with
  | nil =>
    intro sync l hstage hrules
    have hself : sync.goto (.nextRule
        { l with rules := [], pushErrors := l.cancelledErrors err }) = sync := by
      obtain ⟨id, forceAll, stage⟩ := sync
      obtain ⟨gs, commitSHA, shas, agents, rules, filesChanged, agentsUpdated, pushErrors⟩ := l
      cases hstage
      cases hrules
      simp [goto, Locals.cancelledErrors]
    rw [hself]
  | cons rule rules ih =>
    intro sync l hstage hrules
    let failed : Locals := { l with
      rules := rules
      pushErrors := l.pushErrors ++
        ["fetch " ++ rule.filePath ++ ": " ++ err (.fetchFile rule.filePath)] }
    have hdue : NextUnder svc (.cancelled err) (sync, world, store)
        (sync.goto (.fetchFile { l with rules } rule), world, store) := by
      unfold NextUnder step
      dsimp only
      rw [hstage]
      dsimp only
      rw [hrules]
      simp [Context.isLive]
    have hfetch : NextUnder svc (.cancelled err)
        (sync.goto (.fetchFile { l with rules } rule), world, store)
        (sync.goto (.nextRule failed), world, store) := rfl
    have hrest := ih (sync.goto (.nextRule failed)) failed rfl rfl
    have herrors : failed.cancelledErrors err = l.cancelledErrors err := by
      simp [failed, Locals.cancelledErrors, hrules]
    rw [herrors] at hrest
    exact .head hdue (.head hfetch hrest)

/-- A sync whose context is cancelled while files are left in the loop is recorded as a failed sync
of the commit that it has read. -/
theorem cancelled_recorded {err : ContextCall → String} {sync : Sync} {l : Locals}
    (hstage : sync.stage = .nextRule l) {rule : LabelRule} {rules : List LabelRule}
    (hrules : l.rules = rule :: rules) (world : σ) (store : Store) :
    ∃ syncErr result, Relation.ReflTransGen (NextUnder svc (.cancelled err))
      (sync, world, store)
      (sync.goto (.returned (.ok (result, none))), world,
        Gitsync.recordFailure store l.gs.id (finalSHA l) syncErr) := by
  have hloop := cancelled_rules svc err world store _ sync l hstage rfl
  cases herrors : l.cancelledErrors err with
  | nil => simp [Locals.cancelledErrors, hrules] at herrors
  | cons first errors =>
    rw [herrors] at hloop
    let last : Locals := { l with rules := [], pushErrors := first :: errors }
    let syncErr := toString last.pushErrors.length ++ " error(s): " ++ first
    have hrecord : NextUnder svc (.cancelled err) (sync.goto (.nextRule last), world, store)
        (sync.goto (.recordFailure l.gs.id (finalSHA l) syncErr (loopResult last) none), world,
          store) := rfl
    have hreturn : NextUnder svc (.cancelled err)
        (sync.goto (.recordFailure l.gs.id (finalSHA l) syncErr (loopResult last) none), world,
          store)
        (sync.goto (.returned (.ok (loopResult last, none))), world,
          Gitsync.recordFailure store l.gs.id (finalSHA l) syncErr) := rfl
    exact ⟨syncErr, loopResult last, (hloop.tail hrecord).tail hreturn⟩

end Sync

end OtelHive.Gitsync
