import OtelHive.Proofs.Gitsync.Workers

/-!
# `OtelHive.Proofs.Gitsync.Stop`: which pollers `Stop` reaches

A worker returns when its context is cancelled or its stop channel is closed. `Stop` cancels the
context of the last call of `Start`, and then waits for all workers. A worker that `CreateSource` or
`UpdateSource` has started polls under `context.Background()`, which nothing cancels.

`Reached` says that after `Stop` every worker that still runs sees one of both. It holds along a run
exactly if each step is one that `Stop` can reach (`reached_along_iff`).
-/

set_option autoImplicit false

namespace OtelHive.Gitsync.Workers

open OtelHive.Lib

namespace Service

/-! ### The property and the condition -/

/-- Once `Stop` waits, each worker that has not returned has a cancelled context or a closed stop
channel. -/
def Reached (s : Service) : Prop :=
  s.stopped = true →
    ∀ w ∈ s.goroutines, w.exited = false → s.ctxDone w.ctx = true ∨ w.closed = true

/-- A worker that a call starts has a cancelled context, if `Stop` waits already. -/
def ReachableCall (s : Service) : Call → Prop
  | .starting ctx (gs :: _) => s.Running gs.id ∨ (s.stopped = true → s.ctxDone ctx = true)
  | _ => True

/-- When `Stop` is called, each worker that runs with an open stop channel has the context that
`stopAll` cancels, or a cancelled one. After that, a worker is started under a cancelled context
only. -/
def Reachable (s : Service) : Event → Prop
  | .stop => ∀ w ∈ s.goroutines, w.exited = false →
      (s.ctxDone w.ctx = true ∨ w.ctx.isSome = true ∧ w.ctx = s.stopAll) ∨ w.closed = true
  | .proceed i _ => ∀ call ∈ s.calls[i]?, s.ReachableCall call
  | _ => True

instance (s : Service) : ∀ call, Decidable (s.ReachableCall call)
  | .starting ctx (gs :: _) => inferInstanceAs <| Decidable <|
      s.Running gs.id ∨ (s.stopped = true → s.ctxDone ctx = true)
  | .starting _ [] | .listing _ | .stopping _ | .closing _ _ | .deleting _ | .returned =>
    .isTrue trivial

instance (s : Service) : ∀ e, Decidable (s.Reachable e)
  | .stop => inferInstanceAs <| Decidable <| ∀ w ∈ s.goroutines, w.exited = false →
      (s.ctxDone w.ctx = true ∨ w.ctx.isSome = true ∧ w.ctx = s.stopAll) ∨ w.closed = true
  | .proceed i _ => inferInstanceAs <| Decidable <| ∀ call ∈ s.calls[i]?, s.ReachableCall call
  | .start | .createSource _ _ | .updateSource _ _ | .deleteSource _ | .exit _ => .isTrue trivial

/-! ### Contexts -/

/-- A new context is not cancelled. -/
theorem ctxDone_of_append {s s' : Service} (h : s'.cancelled = s.cancelled ++ [false])
    (ctx : Option Nat) : s'.ctxDone ctx = s.ctxDone ctx := by
  cases ctx with
  | none => rfl
  | some c =>
    show (s'.cancelled[c]? == some true) = (s.cancelled[c]? == some true)
    rw [h, Bool.eq_iff_iff, beq_iff_eq, beq_iff_eq, getElem?_concat_iff]
    simp

/-- A context is cancelled. -/
theorem ctxDone_of_set_iff {s s' : Service} {c : Nat} (h : s'.cancelled = s.cancelled.set c true)
    (hc : c < s.cancelled.length) (ctx : Option Nat) :
    s'.ctxDone ctx = true ↔ s.ctxDone ctx = true ∨ ctx = some c := by
  cases ctx with
  | none => simp [ctxDone]
  | some d =>
    show (s'.cancelled[d]? == some true) = true
      ↔ (s.cancelled[d]? == some true) = true ∨ some d = some c
    rw [h, beq_iff_eq, beq_iff_eq, getElem?_set_iff hc]
    by_cases hd : d = c <;> simp [hd]

/-- No step takes a cancellation back. -/
theorem ctxDone_of_set {s s' : Service} {c : Nat} (h : s'.cancelled = s.cancelled.set c true)
    {ctx : Option Nat} (hdone : s.ctxDone ctx = true) : s'.ctxDone ctx = true := by
  by_cases hc : c < s.cancelled.length
  · exact (ctxDone_of_set_iff h hc ctx).mpr (Or.inl hdone)
  · rw [List.set_eq_of_length_le (by omega)] at h
    unfold ctxDone at hdone ⊢
    rw [h]
    exact hdone

/-- The context of `stopAll` is one of those that `Start` has made. -/
def KnownStopAll (s : Service) : Prop := ∀ c, s.stopAll = some c → c < s.cancelled.length

/-! ### One step -/

/-- A worker that is replaced by one that has returned or whose stop channel is closed. -/
theorem Reached.set {s : Service} {worker : Nat} {w w' : Worker} (h : s.Reached)
    (hw : s.goroutines[worker]? = some w)
    (hw' : w'.exited = false → w.exited = false ∧ (w'.closed = true ∨ w' = w)) :
    ({ s with goroutines := s.goroutines.set worker w' } : Service).Reached := by
  intro hstopped v hv hexited
  rcases (mem_set_iff hw).mp hv with rfl | hother
  · obtain ⟨hexited', hclosed | rfl⟩ := hw' hexited
    · exact Or.inr hclosed
    · exact h hstopped v (List.mem_of_getElem? hw) hexited
  · exact h hstopped v (List.mem_of_mem_eraseIdx hother) hexited

theorem Reached.startWorker_iff {s : Service} (h : s.Reached) (ctx : Option Nat)
    (gs : SourceRow) : (s.startWorker ctx gs).Reached ↔
      s.Running gs.id ∨ (s.stopped = true → s.ctxDone ctx = true) := by
  unfold startWorker
  cases hlookup : s.workers.lookup gs.id with
  | some worker =>
    exact ⟨fun _ => Or.inl ((GoMap.mem_keys_iff _ _).mpr ⟨worker, hlookup⟩), fun _ => h⟩
  | none =>
    have hnot : ¬ s.Running gs.id := by
      intro hrunning
      obtain ⟨worker, hworker⟩ := (GoMap.mem_keys_iff _ _).mp hrunning
      rw [hlookup] at hworker
      cases hworker
    rw [or_iff_right hnot]
    constructor
    -- The new worker has an open channel.
    · intro h' hstopped
      have hnew := h' hstopped { id := gs.id, ctx } (by simp) rfl
      exact hnew.resolve_right Bool.false_ne_true
    · intro hdone hstopped w hw hexited
      rcases List.mem_append.mp hw with hold | hnew
      · exact h hstopped w hold hexited
      · rw [List.mem_singleton.mp hnew]
        exact Or.inl (hdone hstopped)

/-- A call that goes on keeps `Reached` exactly if it starts no worker out of reach. -/
theorem Reached.proceed_iff {s s' : Service} {i : Nat} {env : SourceEnv} {call : Call}
    (h : s.Reached) (hstep : s.proceed i env call = some s') :
    s'.Reached ↔ s.ReachableCall call := by
  cases call with
  | listing ctx =>
    simp only [Service.proceed] at hstep
    split at hstep
    -- `Start` fails and cancels its own context.
    · cases hstep
      refine ⟨fun _ => trivial, fun _ => ?_⟩
      intro hstopped w hw hexited
      exact (h hstopped w hw hexited).imp_left (ctxDone_of_set rfl)
    · cases hstep
      exact ⟨fun _ => trivial, fun _ => h⟩
  | starting ctx sources =>
    cases sources with
    | nil =>
      cases hstep
      exact ⟨fun _ => trivial, fun _ => h⟩
    | cons gs sources =>
      cases hstep
      exact h.startWorker_iff ctx gs
  | stopping next =>
    simp only [Service.proceed] at hstep
    split at hstep
    · cases hstep
      exact ⟨fun _ => trivial, fun _ => h⟩
    · cases hstep
      exact ⟨fun _ => trivial, fun _ => h⟩
  | closing worker next =>
    cases hstep
    refine ⟨fun _ => trivial, fun _ => ?_⟩
    show (s.closeChannel worker).Reached
    unfold closeChannel
    split
    · exact h
    · rename_i w hw
      exact h.set hw fun hexited => ⟨hexited, Or.inl rfl⟩
  | deleting id =>
    simp only [Service.proceed] at hstep
    split at hstep
    · cases hstep
      exact ⟨fun _ => trivial, fun _ => h⟩
    · cases hstep
      exact ⟨fun _ => trivial, fun _ => h⟩
  | returned => cases hstep

/-- `Stop` cancels the context of `stopAll`. -/
theorem ctxDone_stop_iff {s s' : Service} (hknown : s.KnownStopAll)
    (hstep : s.step .stop = some s') (ctx : Option Nat) :
    s'.ctxDone ctx = true ↔ s.ctxDone ctx = true ∨ ctx.isSome = true ∧ ctx = s.stopAll := by
  cases hstep
  cases hstopAll : s.stopAll with
  -- Before the first `Start` there is nothing to cancel.
  | none =>
    show s.ctxDone ctx = true ↔ _
    cases ctx <;> simp
  | some c =>
    rw [ctxDone_of_set_iff (c := c) rfl (hknown c hstopAll)]
    cases ctx <;> simp

/-- `Stop` keeps `Reached` exactly if it reaches every worker. -/
theorem reached_stop_iff {s s' : Service} (hknown : s.KnownStopAll)
    (hstep : s.step .stop = some s') : s'.Reached ↔ s.Reachable .stop := by
  have hdone := ctxDone_stop_iff hknown hstep
  cases hstep
  constructor
  · intro h w hw hexited
    rw [← hdone]
    exact h rfl w hw hexited
  · intro h _ w hw hexited
    rw [hdone]
    exact h w hw hexited

/-- A step keeps `Reached` exactly if it is `Reachable`. -/
theorem Reached.step_iff {s s' : Service} {e : Event} (h : s.Reached) (hknown : s.KnownStopAll)
    (hstep : s.step e = some s') : s'.Reached ↔ s.Reachable e := by
  cases e with
  | start =>
    cases hstep
    refine ⟨fun _ => trivial, fun _ => ?_⟩
    intro hstopped w hw hexited
    rw [ctxDone_of_append (s := s) rfl]
    exact h hstopped w hw hexited
  | createSource env gs =>
    simp only [Service.step] at hstep
    refine ⟨fun _ => trivial, fun _ => ?_⟩
    split at hstep
    · cases hstep
      exact h
    · split at hstep <;>
      · cases hstep
        exact h
  | updateSource env gs =>
    simp only [Service.step] at hstep
    refine ⟨fun _ => trivial, fun _ => ?_⟩
    split at hstep
    · cases hstep
      exact h
    · split at hstep <;>
      · cases hstep
        exact h
  | deleteSource id =>
    cases hstep
    exact ⟨fun _ => trivial, fun _ => h⟩
  | proceed i env =>
    obtain ⟨call, hcall, hstep⟩ := Option.bind_eq_some_iff.mp hstep
    rw [h.proceed_iff hstep]
    simp only [Reachable, hcall, Option.mem_def, Option.some.injEq, forall_eq']
  | exit worker =>
    simp only [Service.step] at hstep
    refine ⟨fun _ => trivial, fun _ => ?_⟩
    split at hstep
    · cases hstep
    · rename_i w hw
      split at hstep
      · cases hstep
        exact h.set hw fun hexited => absurd hexited.symm Bool.false_ne_true
      · cases hstep
  | stop => exact reached_stop_iff hknown hstep

/-! ### The run -/

theorem KnownStopAll.proceed {s s' : Service} {i : Nat} {env : SourceEnv} {call : Call}
    (h : s.KnownStopAll) (hstep : s.proceed i env call = some s') : s'.KnownStopAll := by
  -- Only the length of the list of contexts is read.
  have hkept : s'.stopAll = s.stopAll ∧ s'.cancelled.length = s.cancelled.length := by
    cases call with
    | listing ctx =>
      simp only [Service.proceed] at hstep
      split at hstep <;>
      · cases hstep
        exact ⟨rfl, by simp [next]⟩
    | starting ctx sources =>
      cases sources with
      | nil =>
        cases hstep
        exact ⟨rfl, rfl⟩
      | cons gs sources =>
        cases hstep
        show (s.startWorker ctx gs).stopAll = _ ∧ (s.startWorker ctx gs).cancelled.length = _
        unfold startWorker
        split <;> exact ⟨rfl, rfl⟩
    | stopping next =>
      simp only [Service.proceed] at hstep
      split at hstep <;>
      · cases hstep
        exact ⟨rfl, rfl⟩
    | closing worker next =>
      cases hstep
      show (s.closeChannel worker).stopAll = _ ∧ (s.closeChannel worker).cancelled.length = _
      unfold closeChannel
      split <;> exact ⟨rfl, rfl⟩
    | deleting id =>
      simp only [Service.proceed] at hstep
      split at hstep <;>
      · cases hstep
        exact ⟨rfl, rfl⟩
    | returned => cases hstep
  intro c hc
  rw [hkept.2]
  exact h c (hkept.1.symm.trans hc)

theorem KnownStopAll.step {s s' : Service} {e : Event} (h : s.KnownStopAll)
    (hstep : s.step e = some s') : s'.KnownStopAll := by
  cases e with
  | start =>
    cases hstep
    intro c hc
    cases hc
    show s.cancelled.length < (s.cancelled ++ [false]).length
    simp
  | createSource env gs =>
    simp only [Service.step] at hstep
    split at hstep
    · cases hstep
      exact h
    · split at hstep <;>
      · cases hstep
        exact h
  | updateSource env gs =>
    simp only [Service.step] at hstep
    split at hstep
    · cases hstep
      exact h
    · split at hstep <;>
      · cases hstep
        exact h
  | deleteSource id =>
    cases hstep
    exact h
  | proceed i env =>
    obtain ⟨call, _, hstep⟩ := Option.bind_eq_some_iff.mp hstep
    exact h.proceed hstep
  | exit worker =>
    simp only [Service.step] at hstep
    split at hstep
    · cases hstep
    · split at hstep
      · cases hstep
        exact h
      · cases hstep
  | stop =>
    cases hstep
    intro c hc
    have hc : s.stopAll = some c := hc
    simp only [hc, List.length_set]
    exact h c hc

/-- Along a run of calls, `Stop` reaches every worker exactly if it is called while each worker that
runs with an open stop channel has the context of the last `Start`, or a cancelled one, and after
that a worker is started under a cancelled context only. -/
theorem reached_along_iff (table : Sources) (es : List Event)
    (hrun : (run step (newService table) es).isSome) :
    Along step Reached (newService table) es ↔ StepsMeet step Reachable (newService table) es := by
  have hknown : (newService table).KnownStopAll := by
    intro c hc
    cases hc
  have hreached : (newService table).Reached := by
    intro hstopped
    cases hstopped
  exact along_iff_stepsMeet (I := KnownStopAll) (D := fun _ => True)
    (fun _ _ _ h hstep => h.step hstep)
    (fun _ _ _ _ hknown hreached hstep => hreached.step_iff hknown hstep) (fun _ _ => trivial)
    hknown hreached hrun

/-- `Start` starts a worker for the stored source, and `Stop` comes while `DeleteSource` is about to
delete the row. -/
theorem reached_along_start :
    Along step Reached (newService [exampleSource])
      [.start, .proceed 0 (.quiet 1 "u"), .proceed 0 (.quiet 1 "u"), .proceed 0 (.quiet 1 "u"),
        .deleteSource "s", .proceed 1 (.quiet 2 "u"), .proceed 1 (.quiet 2 "u"), .stop, .exit 0] :=
  (reached_along_iff [exampleSource] _ (by decide)).mpr (by decide)

/-- A worker that `CreateSource` has started is out of reach of `Stop`. -/
theorem unreached_after_create :
    ∃ s, run step (newService [])
        [.start, .proceed 0 (.quiet 1 "u"), .proceed 0 (.quiet 1 "u"),
          .createSource (.quiet 2 "u") exampleSource, .proceed 1 (.quiet 2 "u"),
          .proceed 1 (.quiet 2 "u"), .stop] = some s ∧
      s.stopped = true ∧ s.Idle ∧ s.goroutines = [{ id := "s", ctx := none }] ∧ ¬ s.Reached := by
  refine ⟨_, rfl, rfl, ?_, rfl, ?_⟩
  · decide
  · intro h
    rcases h rfl _ List.mem_cons_self rfl with hdone | hclosed
    · cases hdone
    · cases hclosed

end Service

end OtelHive.Gitsync.Workers
