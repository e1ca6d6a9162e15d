import OtelHive.Api.Webhook
import OtelHive.Lib.Runs
import OtelHive.Proofs.Gitsync.Retry
import OtelHive.Proofs.Gitsync.Steps

/-!
# `OtelHive.Proofs.Api.Webhook`: the sync of an accepted webhook

The goroutine of `HandleWebhook` runs `TriggerSync` with the context of the request, although the
handler returns so that the sync can go on after it. A sync that is past its last use of the
context when the handler returns has the effect of `TriggerSync`. No other sync is safe: it goes
on to a call that finds the context cancelled (`synced_along_iff`).
-/

set_option autoImplicit false

namespace OtelHive.Api

open OtelHive.Lib
open OtelHive.Gitsync

variable {σ : Type} {svc : Service σ} {err : ContextCall → String}

namespace Webhook

/-- The goroutine, with the world and the store. -/
def goroutine (w : Webhook σ) : Sync × σ × Store := (w.sync, w.world, w.store)

/-- The next call of the sync does not find its context cancelled. A sync that has returned has
the effect of `TriggerSync` with a live context, from the given world and store. -/
def Synced (svc : Service σ) (id : String) (world : σ) (store : Store) (w : Webhook σ) : Prop :=
  (w.returned = true → w.sync.usesContext svc = false) ∧
  ∀ result, w.sync.stage = .returned result →
    (⟨w.world, w.store, result⟩ : Effect σ) = triggerEffect svc id world store

/-- The handler returns only after the last call of the goroutine that takes the context. -/
def ReturnsAfterSync (svc : Service σ) (w : Webhook σ) (e : WebhookEvent) : Prop :=
  e = .handlerReturns → ¬ Sync.NeedsContext svc w.goroutine

/-! ### The steps -/

/-- A sync that does not use a cancelled context takes the step of a live one. -/
theorem step_sync_eq {w : Webhook σ} (h : w.returned = true → w.sync.usesContext svc = false) :
    w.step svc err .sync
      = (w.sync.step svc .live w.world w.store).map fun (sync, world, store) =>
          { w with sync, world, store } := by
  unfold step ctx
  cases hreturned : w.returned with
  | false => rfl
  | true =>
    dsimp only
    rw [Sync.step_of_not_usesContext (h hreturned)]

theorem next_of_step_sync {w w' : Webhook σ}
    (h : w.returned = true → w.sync.usesContext svc = false)
    (hstep : w.step svc err .sync = some w') :
    Sync.Next svc w.goroutine w'.goroutine ∧ w'.returned = w.returned := by
  rw [step_sync_eq h, Option.map_eq_some_iff] at hstep
  obtain ⟨q, hnext, rfl⟩ := hstep
  exact ⟨hnext, rfl⟩

theorem step_handlerReturns {w w' : Webhook σ} (hstep : w.step svc err .handlerReturns = some w') :
    w.returned = false ∧ w'.returned = true ∧ w'.goroutine = w.goroutine := by
  rw [step] at hstep
  split at hstep
  · cases hstep
  · rename_i hreturned
    cases hstep
    exact ⟨by simpa using hreturned, rfl, rfl⟩

/-- What holds while the handler returns late: a sync with a cancelled context does not need it,
and its effect is the one of `TriggerSync`. -/
structure Unharmed (svc : Service σ) (id : String) (world : σ) (store : Store) (w : Webhook σ) :
    Prop where
  finished : w.returned = true → ¬ Sync.NeedsContext svc w.goroutine
  effect : w.sync.effect svc w.world w.store = triggerEffect svc id world store

variable {id : String} {world : σ} {store : Store}

theorem Unharmed.synced {w : Webhook σ} (h : Unharmed svc id world store w) :
    Synced svc id world store w := by
  refine ⟨?_, ?_⟩
  · intro hreturned
    rw [← Bool.not_eq_true]
    intro huses
    exact h.finished hreturned (.of_usesContext huses)
  · intro result hstage
    rw [← h.effect, Sync.effect, hstage]

theorem unharmed_step {w w' : Webhook σ} {e : WebhookEvent} (h : Unharmed svc id world store w)
    (hlate : ReturnsAfterSync svc w e) (hstep : w.step svc err e = some w') :
    Unharmed svc id world store w' := by
  cases e with
  | sync =>
    obtain ⟨hnext, hreturned⟩ := next_of_step_sync h.synced.1 hstep
    refine ⟨?_, ?_⟩
    · intro hw'
      rw [hreturned] at hw'
      exact fun hneeds => h.finished hw' (.head hnext hneeds)
    · rw [← h.effect]
      exact Sync.effect_step hnext
  -- The return cancels the context, and leaves the goroutine as it is.
  | handlerReturns =>
    obtain ⟨_, _, hsame⟩ := step_handlerReturns hstep
    refine ⟨?_, ?_⟩
    · intro _
      rw [hsame]
      exact hlate rfl
    · have heffect := congrArg (fun p => p.1.effect svc p.2.1 p.2.2) hsame
      exact heffect.trans h.effect

/-- After the return of the handler, a run in which no call finds the context cancelled and the
sync returns never needed the context. -/
theorem not_needsContext_of_along {w t : Webhook σ} {es : List WebhookEvent}
    (hreturned : w.returned = true)
    (halong : Along (step svc err) (Synced svc id world store) w es)
    (hrun : run (step svc err) w es = some t)
    (hdone : ∃ result, t.sync.stage = .returned result) :
    ¬ Sync.NeedsContext svc w.goroutine := by
  induction es generalizing w with
  | nil =>
    cases hrun
    obtain ⟨result, hstage⟩ := hdone
    exact Sync.not_needsContext_of_returned hstage
  | cons e es ih =>
    obtain ⟨hsynced, hrest⟩ := halong
    obtain ⟨w', hstep, hrun'⟩ := run_cons_eq_some.mp hrun
    cases e with
    | sync =>
      obtain ⟨hnext, hkeep⟩ := next_of_step_sync hsynced.1 hstep
      have hnot := ih (hkeep.trans hreturned) (hrest w' hstep) hrun'
      intro hneeds
      obtain ⟨q, hq, hqneeds⟩ := hneeds.next (hsynced.1 hreturned)
      -- A sync has one next step.
      have heq : w'.goroutine = q := Option.some.inj (hnext.symm.trans hq)
      exact hnot (heq ▸ hqneeds)
    -- The handler returns once.
    | handlerReturns =>
      rw [(step_handlerReturns hstep).1] at hreturned
      cases hreturned

theorem stepsMeet_of_along {w t : Webhook σ} {es : List WebhookEvent}
    (halong : Along (step svc err) (Synced svc id world store) w es)
    (hrun : run (step svc err) w es = some t)
    (hdone : ∃ result, t.sync.stage = .returned result) :
    StepsMeet (step svc err) (ReturnsAfterSync svc) w es := by
  induction es generalizing w with
  | nil => trivial
  | cons e es ih =>
    obtain ⟨w', hstep, hrun'⟩ := run_cons_eq_some.mp hrun
    refine ⟨?_, ?_⟩
    · rintro rfl
      obtain ⟨_, hreturned, hsame⟩ := step_handlerReturns hstep
      rw [← hsame]
      exact not_needsContext_of_along hreturned (halong.2 w' hstep) hrun' hdone
    · intro w'' hstep''
      rw [hstep] at hstep''
      cases hstep''
      exact ih (halong.2 w' hstep) hrun'

end Webhook

/-- The sync of an accepted webhook is forced. -/
theorem sync_of_handleWebhook {env : SourceEnv} {t : Sources} {req : WebhookRequest}
    {resp : Response} {sync : Sync} (h : handleWebhook env t req = (resp, some sync)) :
    resp.status = 202 ∧ sync = { id := req.id, forceAll := true } := by
  unfold handleWebhook at h
  split at h
  · cases h
  · split at h
    · cases h
    · cases h
      exact ⟨rfl, rfl⟩

/-- Take a run of the handler and the goroutine of an accepted webhook. If the handler returns
only after the last call of the sync that takes the context, then no call finds the context
cancelled, and the sync has the effect of `TriggerSync`. A run in which the sync returns has this
property only if the handler returned so late. -/
theorem Webhook.synced_along_iff (svc : Service σ) (err : ContextCall → String) {env : SourceEnv}
    {t : Sources} {req : WebhookRequest} {resp : Response} {sync : Sync}
    (haccepted : handleWebhook env t req = (resp, some sync))
    (fileSHAs : GoMap (String × String) String) (world : σ) {es : List WebhookEvent}
    {last : Webhook σ}
    (hrun : run (step svc err) (start t fileSHAs world sync) es = some last) :
    (StepsMeet (step svc err) (ReturnsAfterSync svc) (start t fileSHAs world sync) es →
      Along (step svc err) (Synced svc req.id world ⟨t.map SourceRow.source, fileSHAs⟩)
        (start t fileSHAs world sync) es) ∧
    ((∃ result, last.sync.stage = .returned result) →
      Along (step svc err) (Synced svc req.id world ⟨t.map SourceRow.source, fileSHAs⟩)
        (start t fileSHAs world sync) es →
      StepsMeet (step svc err) (ReturnsAfterSync svc) (start t fileSHAs world sync) es) := by
  obtain ⟨_, rfl⟩ := sync_of_handleWebhook haccepted
  refine ⟨?_, fun hdone halong => stepsMeet_of_along halong hrun hdone⟩
  intro hmeet
  refine along_of_stepsMeet (fun _ => Unharmed.synced) (fun _ _ _ => unharmed_step) ?_ hmeet
  refine ⟨?_, Sync.effect_trigger svc req.id world _⟩
  intro hreturned
  cases hreturned

/-! ### A handler that returns first -/

/-- A source with a GitHub repository and no webhook secret. -/
def openSource : SourceRow where
  id := "src-1"
  name := "configs"
  repoURL := "https://github.com/org/configs"
  branch := "main"
  configRoot := "configs"
  provider := "github"

/-- A webhook without a signature. -/
def plainWebhook : WebhookRequest where
  id := "src-1"
  body := .ok []

/-- A repository with the fallback, and one agent. Every call succeeds. -/
abbrev quietService : Service Calls :=
  recordingService fallbackCommit [unlabelledAgent] (pushAnswers none)

abbrev quietStep : Webhook Calls → WebhookEvent → Option (Webhook Calls) :=
  Webhook.step quietService fun _ => "context canceled"

abbrev quietWebhook : Webhook Calls :=
  .start [openSource] ∅ {} { id := "src-1", forceAll := true }

/-- The handler returns after the ten steps of the goroutine. -/
abbrev lateReturn : List WebhookEvent := List.replicate 10 .sync ++ [.handlerReturns]

theorem Webhook.synced_along_iff_lateReturn :
    ∃ last, run quietStep quietWebhook lateReturn = some last ∧
      (StepsMeet quietStep (ReturnsAfterSync quietService) quietWebhook lateReturn →
        Along quietStep (Synced quietService "src-1" {} ⟨[openSource.source], ∅⟩) quietWebhook
          lateReturn) ∧
      ((∃ result, last.sync.stage = .returned result) →
        Along quietStep (Synced quietService "src-1" {} ⟨[openSource.source], ∅⟩) quietWebhook
          lateReturn →
        StepsMeet quietStep (ReturnsAfterSync quietService) quietWebhook lateReturn) := by
  have hsome : (run quietStep quietWebhook lateReturn).isSome := by decide +kernel
  obtain ⟨last, hrun⟩ := Option.isSome_iff_exists.mp hsome
  have haccepted : handleWebhook (.quiet 1 "u") [openSource] plainWebhook
      = (⟨202, some (.obj [("message", .str "sync triggered")])⟩,
          some { id := "src-1", forceAll := true }) := rfl
  exact ⟨last, hrun,
    synced_along_iff quietService (fun _ => "context canceled") haccepted ∅ {} hrun⟩

/-- The handler returns before the goroutine reads the source. The webhook is answered 202, the
read fails and the sync ends. `TriggerSync` with a live context pushes the file. -/
theorem Webhook.lost_after_return :
    ¬ ∀ (svc : Service Calls) (err : ContextCall → String) (env : SourceEnv) (t : Sources)
      (req : WebhookRequest) (resp : Response) (sync : Sync)
      (fileSHAs : GoMap (String × String) String) (world : Calls) (es : List WebhookEvent)
      (last : Webhook Calls), handleWebhook env t req = (resp, some sync) →
      run (step svc err) (start t fileSHAs world sync) es = some last →
      Along (step svc err) (Synced svc req.id world ⟨t.map SourceRow.source, fileSHAs⟩)
        (start t fileSHAs world sync) es := by
  intro hall
  let last : Webhook Calls := {
    world := {}
    store := ⟨[openSource.source], ∅⟩
    sync := { id := "src-1", forceAll := true, stage := .returned (.error errNotFound) }
    returned := true }
  have hrun : run quietStep quietWebhook [.handlerReturns, .sync] = some last := rfl
  have hsynced := (hall quietService (fun _ => "context canceled") (.quiet 1 "u") [openSource]
    plainWebhook _ _ ∅ {} _ last rfl hrun).last hrun
  have heffect := hsynced.2 (.error errNotFound) rfl
  -- The goroutine has pushed nothing, and a sync with a live context pushes the file.
  have hpushed : (triggerEffect quietService "src-1" {} ⟨[openSource.source], ∅⟩).world.pushed
      = [("configs/environments/default/base.yaml", .nil)] := by decide +kernel
  have hnone := congrArg (fun effect => effect.world.pushed) heffect
  dsimp only [plainWebhook, last] at hnone
  rw [List.map_cons, List.map_nil, hpushed] at hnone
  cases hnone

end OtelHive.Api
