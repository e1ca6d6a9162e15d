import OtelHive.Lib.Lists
import OtelHive.Lib.Runs
import OtelHive.Proofs.Opamp.Concurrent

/-!
# `OtelHive.Proofs.Opamp.Acknowledged`: what a push that returns nil says

A call of `SendConfigToAgent` that returns nil is `Confirmed` when the server has processed a
report of the agent with the hash of the pushed config. `collect` gathers these reports along
a run.

`OnlyConfirmed` is the condition on a step, and `AckInv` the invariant that such steps keep:
an open call whose channel has been woken is confirmed, and so is a call that returns nil
whatever comes. The condition is tight: after a step that does not meet it, a call that is not
confirmed can return nil without another report (`canReturn_of_not_onlyConfirmed`).
-/

set_option autoImplicit false

namespace OtelHive.Opamp.Concurrent

open OtelHive.Lib

/-! ### Where a channel is -/

namespace System

/-- An agent has the channel among its watchers. -/
def Watched (sys : System) (ch : ChanId) : Prop :=
  ∃ agent ∈ sys.heap, ch ∈ agent.statusUpdateWatchers

/-- The channel has its token, or a handler is in the loop that puts it. -/
def Woken (sys : System) (ch : ChanId) : Prop :=
  ch ∈ sys.tokens ∨ ∃ handler ∈ sys.handlers, ch ∈ handler.stage.watchers

/-- A write to an agent adds its watchers at most. -/
theorem Watched.of_setAgent {sys : System} {ref : Ref} {agent : Agent} {ch : ChanId}
    (h : (sys.setAgent ref agent).Watched ch) :
    sys.Watched ch ∨ ch ∈ agent.statusUpdateWatchers := by
  obtain ⟨agent', hmem, hch⟩ := h
  rcases List.mem_or_eq_of_mem_set hmem with hmem | rfl
  · exact .inl ⟨agent', hmem, hch⟩
  · exact .inr hch

/-- A step of a handler adds the watchers of its new stage at most. -/
theorem Woken.of_setHandler {sys : System} {h : Nat} {handler : Handler}
    {stage : Handler.Stage} {ch : ChanId} (hwoken : (sys.setHandler h handler stage).Woken ch) :
    sys.Woken ch ∨ ch ∈ stage.watchers := by
  rcases hwoken with htoken | ⟨handler', hmem, hch⟩
  · exact .inl (.inl htoken)
  · rcases List.mem_or_eq_of_mem_set hmem with hmem | rfl
    · exact .inl (.inr ⟨handler', hmem, hch⟩)
    · exact .inr hch

/-- A token wakes one channel. -/
theorem Woken.of_notify {sys : System} {ch ch' : ChanId} (h : (sys.notify ch).Woken ch') :
    sys.Woken ch' ∨ ch' = ch := by
  unfold notify at h
  split at h
  · exact .inl h
  · rcases h with htoken | hhandler
    · rcases List.mem_cons.mp htoken with rfl | htoken
      · exact .inr rfl
      · exact .inl (.inl htoken)
    · exact .inl (.inr hhandler)

/-- A token leaves the agents alone. -/
theorem watched_notify {sys : System} {ch ch' : ChanId} :
    (sys.notify ch).Watched ch' ↔ sys.Watched ch' := by
  unfold notify
  split <;> exact Iff.rfl

theorem calls_notify (sys : System) (ch : ChanId) : (sys.notify ch).calls = sys.calls := by
  obtain ⟨tokens, heq, _⟩ := sys.notify_frame ch
  rw [heq]

end System

/-! ### What a call knows -/

/-- The hash that a report confirms, with the agent that sent it. -/
def Handler.confirmation (handler : Handler) : List (UUID × Bytes) :=
  match handler.msg.remoteConfigStatus with
  | some rcs => [(handler.instanceId, rcs.lastRemoteConfigHash)]
  | none => []

/-- Collect the confirmations that `UpdateStatus` processes. -/
def collect (processed : List (UUID × Bytes)) (sys : System) : Event → List (UUID × Bytes)
  | .handle h =>
    match sys.handlers[h]? with
    | some handler =>
      if handler.stage = .updateStatus then processed ++ handler.confirmation else processed
    | none => processed
  | _ => processed

/-- The server has processed a report of the call's agent with the hash of the call's
config. -/
def Confirmed (processed : List (UUID × Bytes)) (call : Call) : Prop :=
  (call.agentId, (remoteConfigOf call.configContent).configHash) ∈ processed

instance (processed : List (UUID × Bytes)) (call : Call) : Decidable (Confirmed processed call) :=
  inferInstanceAs (Decidable (_ ∈ _))

/-- Every call that has returned nil is confirmed. -/
def Acknowledged (s : System × List (UUID × Bytes)) : Prop :=
  ∀ call ∈ s.1.calls, call.stage = .returned none → Confirmed s.2 call

instance (s : System × List (UUID × Bytes)) : Decidable (Acknowledged s) :=
  inferInstanceAs (Decidable (∀ call ∈ s.1.calls, call.stage = .returned none → Confirmed s.2 call))

namespace Call.Stage

/-- `SetCustomConfig` has had the channel, or never will. -/
def registered : Call.Stage → Bool
  | .findAgent => false
  | .checkCapability _ => false
  | .setCustomConfig _ => false
  | _ => true

/-- The call returns nil once its token is there. -/
def isOpen : Call.Stage → Bool
  | .send _ _ => true
  | .select => true
  | _ => false

/-- The call returns nil whatever comes, or has done so. -/
def isSettled : Call.Stage → Bool
  | .notifyNow => true
  | .returned none => true
  | _ => false

/-- The agent on which the call runs `SetCustomConfig` next. -/
def target : Call.Stage → Option Ref
  | .setCustomConfig ref => some ref
  | _ => none

end Call.Stage

/-- A step lets a push return nil for a good reason only:

- `handle`: when a report is processed, each open call among the watchers of the agent is
  confirmed by this report, or was confirmed before;
- `advance`: when the agent already has the pushed config, the call was confirmed before. -/
def OnlyConfirmed (s : System × List (UUID × Bytes)) : Event → Prop
  | .handle h => ∀ handler ∈ s.1.handlers[h]?, handler.stage = .updateStatus →
      ∀ agent ∈ s.1.heap[handler.agent]?, ∀ ch ∈ agent.statusUpdateWatchers,
      ∀ call ∈ s.1.calls[ch]?, call.stage.isOpen = true →
        Confirmed (s.2 ++ handler.confirmation) call
  | .advance ch => ∀ call ∈ s.1.calls[ch]?, ∀ ref ∈ call.stage.target,
      ∀ agent ∈ s.1.heap[ref]?,
      isEqualRemoteConfig agent.remoteConfig (some (remoteConfigOf call.configContent)) = true →
        Confirmed s.2 call
  | _ => True

instance : ∀ s e, Decidable (OnlyConfirmed s e)
  | s, .handle h => inferInstanceAs (Decidable (∀ handler ∈ s.1.handlers[h]?,
      handler.stage = .updateStatus → ∀ agent ∈ s.1.heap[handler.agent]?,
      ∀ ch ∈ agent.statusUpdateWatchers, ∀ call ∈ s.1.calls[ch]?, call.stage.isOpen = true →
        Confirmed (s.2 ++ handler.confirmation) call))
  | s, .advance ch => inferInstanceAs (Decidable (∀ call ∈ s.1.calls[ch]?,
      ∀ ref ∈ call.stage.target, ∀ agent ∈ s.1.heap[ref]?,
      isEqualRemoteConfig agent.remoteConfig (some (remoteConfigOf call.configContent)) = true →
        Confirmed s.2 call))
  | _, .message .. => .isTrue trivial
  | _, .disconnect .. => .isTrue trivial
  | _, .sendConfigToAgent .. => .isTrue trivial
  | _, .sent .. => .isTrue trivial
  | _, .timeout _ => .isTrue trivial
  | _, .write _ => .isTrue trivial

/-! ### The invariant -/

/-- What holds between two steps:

- `registered`: a channel that is watched or woken belongs to a call past `SetCustomConfig`;
- `woken`: an open call whose channel is woken is confirmed;
- `settled`: a settled call is confirmed. -/
structure AckInv (s : System × List (UUID × Bytes)) : Prop where
  registered : ∀ ch : ChanId, s.1.Watched ch ∨ s.1.Woken ch →
    ∃ call, s.1.calls[ch]? = some call ∧ call.stage.registered = true
  woken : ∀ (ch : ChanId) (call : Call), s.1.calls[ch]? = some call → call.stage.isOpen = true →
    s.1.Woken ch → Confirmed s.2 call
  settled : ∀ (ch : ChanId) (call : Call), s.1.calls[ch]? = some call →
    call.stage.isSettled = true → Confirmed s.2 call

/-- The invariant covers the calls that have returned nil. -/
theorem AckInv.acknowledged {s : System × List (UUID × Bytes)} (hinv : AckInv s) :
    Acknowledged s := by
  intro call hmem hstage
  obtain ⟨ch, hch⟩ := List.mem_iff_getElem?.mp hmem
  exact hinv.settled ch call hch (by rw [hstage]; rfl)

/-- Nothing runs at the start. -/
theorem ackInv_newSystem (store : Sqlite.Storage) (otlpGRPCEndpoint otlpHTTPEndpoint : String) :
    AckInv (System.newSystem store otlpGRPCEndpoint otlpHTTPEndpoint, []) where
  registered := by
    rintro ch (⟨agent, hmem, _⟩ | htoken | ⟨handler, hmem, _⟩)
    · cases hmem
    · cases htoken
    · cases hmem
  woken := by
    intro ch call hcall
    cases hcall
  settled := by
    intro ch call hcall
    cases hcall

section Step

variable {sys sys' : System} {processed : List (UUID × Bytes)}

/-- A step that leaves the calls alone. A channel that it wakes was watched, and its call is
confirmed when it is open. -/
theorem AckInv.of_calls_eq {processed' : List (UUID × Bytes)} (hinv : AckInv (sys, processed))
    (hcalls : sys'.calls = sys.calls) (hwatched : ∀ ch, sys'.Watched ch → sys.Watched ch)
    (hwoken : ∀ ch, sys'.Woken ch → sys.Woken ch ∨ sys.Watched ch ∧
      ∀ call, sys.calls[ch]? = some call → call.stage.isOpen = true → Confirmed processed' call)
    (hprocessed : processed ⊆ processed') : AckInv (sys', processed') where
  registered := by
    intro ch hch
    rw [hcalls]
    apply hinv.registered
    rcases hch with hch | hch
    · exact .inl (hwatched ch hch)
    · rcases hwoken ch hch with hch | ⟨hch, _⟩
      · exact .inr hch
      · exact .inl hch
  woken := by
    intro ch call hcall hopen hch
    rw [hcalls] at hcall
    rcases hwoken ch hch with hch | ⟨_, hconfirmed⟩
    · exact hprocessed (hinv.woken ch call hcall hopen hch)
    · exact hconfirmed call hcall hopen
  settled := by
    intro ch call hcall hsettled
    rw [hcalls] at hcall
    exact hprocessed (hinv.settled ch call hcall hsettled)

/-- A step of one call. It can change where the call's own channel is. -/
theorem AckInv.of_calls_set (hinv : AckInv (sys, processed)) {ch : ChanId} {call : Call}
    {stage : Call.Stage} (hcall : sys.calls[ch]? = some call)
    (hcalls : sys'.calls = sys.calls.set ch { call with stage })
    (hothers : ∀ ch', ch' ≠ ch →
      (sys'.Watched ch' → sys.Watched ch') ∧ (sys'.Woken ch' → sys.Woken ch'))
    (hregistered : sys'.Watched ch ∨ sys'.Woken ch → stage.registered = true)
    (hopen : stage.isOpen = true → sys'.Woken ch → Confirmed processed call)
    (hsettled : stage.isSettled = true → Confirmed processed call) : AckInv (sys', processed) := by
  have hself : sys'.calls[ch]? = some { call with stage } := by
    rw [hcalls, List.getElem?_set_self']
    simp [hcall]
  have hother : ∀ ch', ch' ≠ ch → sys'.calls[ch']? = sys.calls[ch']? := by
    intro ch' hne
    rw [hcalls, List.getElem?_set_ne (Ne.symm hne)]
  refine ⟨?_, ?_, ?_⟩
  · intro ch' hch'
    by_cases hne : ch' = ch
    · subst hne
      exact ⟨_, hself, hregistered hch'⟩
    · rw [hother ch' hne]
      exact hinv.registered ch' (hch'.imp (hothers ch' hne).1 (hothers ch' hne).2)
  · intro ch' call' hcall' hopen' hwoken'
    by_cases hne : ch' = ch
    · subst hne
      rw [hself] at hcall'
      cases hcall'
      exact hopen hopen' hwoken'
    · rw [hother ch' hne] at hcall'
      exact hinv.woken ch' call' hcall' hopen' ((hothers ch' hne).2 hwoken')
  · intro ch' call' hcall' hsettled'
    by_cases hne : ch' = ch
    · subst hne
      rw [hself] at hcall'
      cases hcall'
      exact hsettled hsettled'
    · rw [hother ch' hne] at hcall'
      exact hinv.settled ch' call' hcall' hsettled'

/-- A step of one call that leaves every channel where it is. -/
theorem AckInv.setCall (hinv : AckInv (sys, processed)) {ch : ChanId} {call : Call}
    {stage : Call.Stage} (hcall : sys.calls[ch]? = some call)
    (hregistered : call.stage.registered = true → stage.registered = true)
    (hopen : stage.isOpen = true → call.stage.isOpen = true)
    (hsettled : stage.isSettled = true → Confirmed processed call) :
    AckInv (sys.setCall ch call stage, processed) := by
  refine hinv.of_calls_set hcall rfl (fun _ _ => ⟨id, id⟩) ?_ ?_ hsettled
  · intro hch
    obtain ⟨call', hcall', hreg⟩ := hinv.registered ch hch
    rw [hcall] at hcall'
    cases hcall'
    exact hregistered hreg
  · intro hopen' hwoken
    exact hinv.woken ch call hcall (hopen hopen') hwoken

/-- A channel that `SetCustomConfig` has not had is not woken. -/
theorem AckInv.not_woken (hinv : AckInv (sys, processed)) {ch : ChanId} {call : Call}
    (hcall : sys.calls[ch]? = some call) (hstage : call.stage.registered = false) :
    ¬sys.Woken ch := by
  intro hwoken
  obtain ⟨call', hcall', hreg⟩ := hinv.registered ch (.inr hwoken)
  rw [hcall] at hcall'
  cases hcall'
  rw [hstage] at hreg
  cases hreg

theorem AckInv.not_token (hinv : AckInv (sys, processed)) {ch : ChanId} {call : Call}
    (hcall : sys.calls[ch]? = some call) (hstage : call.stage.registered = false) :
    ch ∉ sys.tokens := fun htoken => hinv.not_woken hcall hstage (.inl htoken)

/-- The watchers after `setCustomConfig`: the channel is new when the config changed. -/
theorem mem_watchers_setCustomConfig {agent : Agent} {body : Bytes} {ch ch' : ChanId}
    (h : ch' ∈ (agent.setCustomConfig (.single body) (some ch)).1.statusUpdateWatchers) :
    ch' ∈ agent.statusUpdateWatchers ∨ ch' = ch := by
  unfold Agent.setCustomConfig at h
  dsimp only at h
  split at h
  · rcases List.mem_append.mp h with h | h
    · exact .inl h
    · exact .inr (List.mem_singleton.mp h)
  · exact .inl h

/-- `setCustomConfig` notifies at once exactly when the agent has the config already. -/
theorem setCustomConfig_notifyNow_iff (agent : Agent) (body : Bytes) (notify : Option ChanId) :
    (agent.setCustomConfig (.single body) notify).2 = .notifyNow ↔
      isEqualRemoteConfig agent.remoteConfig (some (remoteConfigOf body)) = true := by
  have hresult := agent.setCustomConfig_snd (.single body) notify
  rw [show (CustomConfig.single body).file.body = body from rfl] at hresult
  rw [hresult]
  cases isEqualRemoteConfig agent.remoteConfig (some (remoteConfigOf body)) <;> simp

/-- A call that runs `SetCustomConfig`. -/
theorem AckInv.setCustomConfig (hinv : AckInv (sys, processed)) {ch : ChanId} {call : Call}
    {ref : Ref} {agent : Agent} (hcall : sys.calls[ch]? = some call)
    (hstage : call.stage = .setCustomConfig ref) (hagent : sys.heap[ref]? = some agent)
    {stage : Call.Stage} (hregistered : stage.registered = true)
    (hsettled : stage.isSettled = true → Confirmed processed call) :
    AckInv ((sys.setAgent ref
      (agent.setCustomConfig (.single call.configContent) (some ch)).1).setCall ch call stage,
      processed) := by
  refine hinv.of_calls_set hcall rfl ?_ (fun _ => hregistered) ?_ hsettled
  · intro ch' hne
    refine ⟨?_, id⟩
    intro hwatched
    rcases System.Watched.of_setAgent hwatched with hwatched | hmem
    · exact hwatched
    · rcases mem_watchers_setCustomConfig hmem with hmem | rfl
      · exact ⟨agent, List.mem_of_getElem? hagent, hmem⟩
      · exact absurd rfl hne
  · -- The channel is fresh: nothing can have woken it yet.
    intro _ hwoken
    exact absurd hwoken (hinv.not_woken hcall (by rw [hstage]; rfl))

/-- A section of `SendConfigToAgent` keeps the invariant. -/
theorem AckInv.advance (hinv : AckInv (sys, processed)) {ch : ChanId}
    (hmeet : OnlyConfirmed (sys, processed) (.advance ch)) (h : sys.advance ch = some sys') :
    AckInv (sys', processed) := by
  obtain ⟨call, hcall, hadvanced⟩ := System.advance_inv h
  cases hadvanced with
  | notFound | refused =>
    exact hinv.setCall hcall (fun _ => rfl) (fun h => by cases h) (fun h => by cases h)
  | found ref hstage | accepted ref agent hstage =>
    refine hinv.setCall hcall ?_ (fun h => by cases h) (fun h => by cases h)
    rw [hstage]
    exact id
  | setCustomConfig ref agent stage hstage hagent hnext =>
    rcases hnext with ⟨rfl, hresult⟩ | ⟨msg, rfl, hresult⟩
    · -- The agent has the config already, so the condition speaks of this call.
      refine hinv.setCustomConfig hcall hstage hagent rfl (fun _ => ?_)
      exact hmeet call hcall ref (by rw [hstage]; rfl) agent hagent
        ((setCustomConfig_notifyNow_iff ..).mp hresult)
    · exact hinv.setCustomConfig hcall hstage hagent rfl (fun h => by cases h)
  | notifyNow hstage =>
    -- The call puts its own token, so it was confirmed when it got here.
    have hconfirmed : Confirmed processed call := hinv.settled ch call hcall (by rw [hstage]; rfl)
    have hcalls : ((sys.notify ch).setCall ch call .select).calls
        = sys.calls.set ch { call with stage := .select } := by
      rw [← sys.calls_notify ch]
      rfl
    refine hinv.of_calls_set hcall hcalls ?_ ?_ (fun _ _ => hconfirmed) (fun _ => hconfirmed)
    · intro ch' hne
      refine ⟨System.watched_notify.mp, ?_⟩
      intro hwoken
      exact (System.Woken.of_notify hwoken).resolve_right hne
    · exact fun _ => rfl
  | select hstage htoken =>
    -- The token wakes the call: somebody put it for a confirmed push.
    have hconfirmed : Confirmed processed call :=
      hinv.woken ch call hcall (by rw [hstage]; rfl) (.inl htoken)
    refine hinv.of_calls_set hcall rfl ?_ ?_ (fun _ _ => hconfirmed) (fun _ => hconfirmed)
    · intro ch' _
      refine ⟨id, ?_⟩
      rintro (htoken' | hhandler)
      · exact .inl (List.mem_of_mem_erase htoken')
      · exact .inr hhandler
    · exact fun _ => rfl

/-- The answer of the connection keeps the invariant. -/
theorem AckInv.sent (hinv : AckInv (sys, processed)) {ch : ChanId} (err : Option String)
    (h : sys.sent ch err = some sys') : AckInv (sys', processed) := by
  obtain ⟨call, ref, msg, hcall, hstage, rfl⟩ := System.sent_inv h
  refine hinv.setCall hcall (fun _ => rfl) (fun _ => ?_) (fun h => by cases h)
  rw [hstage]
  rfl

/-- A timeout keeps the invariant. -/
theorem AckInv.timeout (hinv : AckInv (sys, processed)) {ch : ChanId}
    (h : sys.timeout ch = some sys') : AckInv (sys', processed) := by
  obtain ⟨call, hcall, -, rfl⟩ := System.timeout_inv h
  exact hinv.setCall hcall (fun _ => rfl) (fun h => by cases h) (fun h => by cases h)

/-- A new call keeps the invariant. -/
theorem AckInv.sendConfigToAgent (hinv : AckInv (sys, processed)) (agentId : UUID)
    (configContent : Bytes) :
    AckInv ({ sys with calls := sys.calls ++ [{ agentId, configContent }] }, processed) := by
  have hcalls : ∀ (ch : ChanId) (call : Call),
      (sys.calls ++ [({ agentId, configContent } : Call)])[ch]? = some call →
        sys.calls[ch]? = some call ∨ call.stage = .findAgent := by
    intro ch call hcall
    rcases getElem?_concat_iff.mp hcall with ⟨_, rfl⟩ | hcall
    · exact .inr rfl
    · exact .inl hcall
  refine ⟨?_, ?_, ?_⟩
  · intro ch hch
    obtain ⟨call, hcall, hreg⟩ := hinv.registered ch hch
    exact ⟨call, getElem?_append_of_getElem? hcall _, hreg⟩
  · intro ch call hcall hopen hwoken
    rcases hcalls ch call hcall with hcall | hstage
    · exact hinv.woken ch call hcall hopen hwoken
    · rw [hstage] at hopen
      cases hopen
  · intro ch call hcall hsettled
    rcases hcalls ch call hcall with hcall | hstage
    · exact hinv.settled ch call hcall hsettled
    · rw [hstage] at hsettled
      cases hsettled

/-- A change of the database keeps the invariant. -/
theorem AckInv.write (hinv : AckInv (sys, processed)) (store : Sqlite.Storage) :
    AckInv ({ sys with store }, processed) :=
  hinv.of_calls_eq rfl (fun _ => id) (fun _ => .inl) (List.Subset.refl _)

/-- A step of a handler that writes the agent but not its watchers. -/
theorem AckInv.setHandler (hinv : AckInv (sys, processed)) {h : Nat} {handler : Handler}
    {stage : Handler.Stage} {agent agent' : Agent} (hagent : sys.heap[handler.agent]? = some agent)
    (hwatchers : agent'.statusUpdateWatchers = agent.statusUpdateWatchers)
    (hstage : stage.watchers = []) :
    AckInv ((sys.setAgent handler.agent agent').setHandler h handler stage, processed) := by
  refine hinv.of_calls_eq rfl ?_ ?_ (List.Subset.refl _)
  · intro ch hwatched
    rcases System.Watched.of_setAgent hwatched with hwatched | hmem
    · exact hwatched
    · rw [hwatchers] at hmem
      exact ⟨agent, List.mem_of_getElem? hagent, hmem⟩
  · intro ch hwoken
    rcases System.Woken.of_setHandler hwoken with hwoken | hmem
    · exact .inl hwoken
    · rw [hstage] at hmem
      cases hmem

/-- A step of a handler that writes no agent. -/
theorem AckInv.setHandlerStage (hinv : AckInv (sys, processed)) {h : Nat} {handler : Handler}
    {stage : Handler.Stage} (hstage : stage.watchers = []) :
    AckInv (sys.setHandler h handler stage, processed) := by
  refine hinv.of_calls_eq rfl (fun _ => id) ?_ (List.Subset.refl _)
  intro ch hwoken
  rcases System.Woken.of_setHandler hwoken with hwoken | hmem
  · exact .inl hwoken
  · rw [hstage] at hmem
    cases hmem

/-- The section of `UpdateStatus`: the watchers leave the agent for the loop. -/
theorem AckInv.updateStatus (hinv : AckInv (sys, processed)) {h : Nat} {handler : Handler}
    {agent agent' : Agent} {response : ServerToAgent} {confirmation : List (UUID × Bytes)}
    (hagent : sys.heap[handler.agent]? = some agent) (hnil : agent'.statusUpdateWatchers = [])
    (hconfirmed : ∀ ch ∈ agent.statusUpdateWatchers, ∀ call, sys.calls[ch]? = some call →
      call.stage.isOpen = true → Confirmed (processed ++ confirmation) call) :
    AckInv ((sys.setAgent handler.agent agent').setHandler h { handler with response }
      (.notifyStatusWatchers agent.statusUpdateWatchers), processed ++ confirmation) := by
  refine hinv.of_calls_eq rfl ?_ ?_ (List.subset_append_left _ _)
  · intro ch hwatched
    rcases System.Watched.of_setAgent hwatched with hwatched | hch
    · exact hwatched
    · rw [hnil] at hch
      cases hch
  · intro ch hwoken
    rcases System.Woken.of_setHandler hwoken with hwoken | hch
    · exact .inl hwoken
    · -- The channel was a watcher of the agent of this report.
      exact .inr ⟨⟨agent, List.mem_of_getElem? hagent, hch⟩, hconfirmed ch hch⟩

/-- A round of the loop: a channel of the handler gets its token. -/
theorem AckInv.notify (hinv : AckInv (sys, processed)) {h : Nat} {handler : Handler} {ch : ChanId}
    {watchers : List ChanId} (hhandler : sys.handlers[h]? = some handler)
    (hstage : handler.stage = .notifyStatusWatchers (ch :: watchers)) :
    AckInv ((sys.notify ch).setHandler h handler (.notifyStatusWatchers watchers), processed) := by
  have hlist : ∀ ch' ∈ ch :: watchers, sys.Woken ch' := by
    intro ch' hch'
    exact .inr ⟨handler, List.mem_of_getElem? hhandler, by rw [hstage]; exact hch'⟩
  refine hinv.of_calls_eq (sys.calls_notify ch) ?_ ?_ (List.Subset.refl _)
  · intro ch' hwatched
    exact System.watched_notify.mp hwatched
  · intro ch' hwoken
    refine .inl ?_
    rcases System.Woken.of_setHandler hwoken with hwoken | hch'
    · rcases System.Woken.of_notify hwoken with hwoken | rfl
      · exact hwoken
      · exact hlist _ List.mem_cons_self
    · exact hlist ch' (List.mem_cons_of_mem ch hch')

/-- A section of `onMessage` keeps the invariant. The watchers change hands in two of them:
`UpdateStatus` takes them from the agent, and the loop turns them into tokens. -/
theorem AckInv.handle (hinv : AckInv (sys, processed)) {h : Nat}
    (hmeet : OnlyConfirmed (sys, processed) (.handle h)) (hstep : sys.handle h = some sys') :
    AckInv (sys', collect processed sys (.handle h)) := by
  obtain ⟨handler, agent, hhandler, hagent, hhandled⟩ := System.handle_inv hstep
  have hcollect : collect processed sys (.handle h)
      = if handler.stage = .updateStatus then processed ++ handler.confirmation
        else processed := by
    simp only [collect, hhandler]
  rw [hcollect]
  -- Only `updateStatus` adds a confirmation.
  cases hhandled with
  | noDescription hstage =>
    rw [hstage, if_neg (by simp)]
    exact hinv.setHandlerStage rfl
  | setGroup desc hstage =>
    rw [hstage, if_neg (by simp)]
    exact hinv.setHandler hagent rfl rfl
  | findInitialConfig groupChanged hstage =>
    rw [hstage, if_neg (by simp)]
    exact hinv.setHandlerStage rfl
  | setInitialConfig config hstage =>
    rw [hstage, if_neg (by simp)]
    refine hinv.setHandler hagent ?_ rfl
    cases config <;> rfl
  | updateStatus agent' response watchers hstage hupdate =>
    rw [if_pos hstage]
    obtain ⟨⟨startedAt, effectiveConfig, rfl⟩, rfl, -⟩ := Agent.updateStatus_ok hupdate
    exact hinv.updateStatus hagent rfl (hmeet handler hhandler hstage agent hagent)
  | notify ch watchers hstage =>
    rw [hstage, if_neg (by simp)]
    exact hinv.notify hhandler hstage
  | notified hstage =>
    rw [hstage, if_neg (by simp)]
    exact hinv.setHandlerStage rfl
  | persistAgent hstage =>
    rw [hstage, if_neg (by simp)]
    -- The section writes the database and the group of the agent, not its watchers.
    obtain ⟨groupID, hpersist⟩ := persistAgent_fst_frame handler.env sys.store agent handler.msg
    have hwatchers : (persistAgent handler.env sys.store agent
        handler.msg).1.statusUpdateWatchers = agent.statusUpdateWatchers := by
      rw [hpersist]
    have hstore : AckInv ({ sys with
        store := (persistAgent handler.env sys.store agent handler.msg).2 }, processed) :=
      hinv.write _
    exact AckInv.setHandler hstore hagent hwatchers rfl

/-- A new handler keeps the invariant. -/
theorem AckInv.onMessage (hinv : AckInv (sys, processed)) {env : Env} {conn : Conn}
    {msg : AgentToServer} (h : System.onMessage env conn msg sys = some sys') :
    AckInv (sys', processed) := by
  -- The new handler has no watchers in its loop.
  have hwoken : ∀ {handler : Handler}, handler.stage.watchers = [] → ∀ ch,
      System.Woken { sys with handlers := sys.handlers ++ [handler] } ch → sys.Woken ch := by
    rintro handler hnil ch (htoken | ⟨other, hmem, hch⟩)
    · exact .inl htoken
    · rcases List.mem_append.mp hmem with hmem | hnew
      · exact .inr ⟨other, hmem, hch⟩
      · rw [List.mem_singleton.mp hnew, hnil] at hch
        cases hch
  obtain ⟨instanceId, -, ⟨ref, -, rfl⟩ | ⟨-, connections, rfl⟩⟩ := System.onMessage_inv h
  · exact hinv.of_calls_eq rfl (fun _ => id) (fun ch hch => .inl (hwoken rfl ch hch))
      (List.Subset.refl _)
  · refine hinv.of_calls_eq rfl ?_ (fun ch hch => .inl (hwoken rfl ch hch)) (List.Subset.refl _)
    -- The new agent has no watchers either.
    rintro ch ⟨agent, hmem, hch⟩
    rcases List.mem_append.mp hmem with hmem | hnew
    · exact ⟨agent, hmem, hch⟩
    · rw [List.mem_singleton.mp hnew] at hch
      cases hch

/-- Every step that meets the condition keeps the invariant. -/
theorem AckInv.step (hinv : AckInv (sys, processed)) {e : Event}
    (hmeet : OnlyConfirmed (sys, processed) e) (h : sys.step e = some sys') :
    AckInv (sys', collect processed sys e) := by
  cases e with
  | message env conn msg => exact hinv.onMessage h
  | handle i => exact hinv.handle hmeet h
  | disconnect env conn =>
    cases h
    exact hinv.of_calls_eq rfl (fun _ => id) (fun _ => .inl) (List.Subset.refl _)
  | sendConfigToAgent agentId configContent =>
    cases h
    exact hinv.sendConfigToAgent agentId configContent
  | advance ch => exact hinv.advance hmeet h
  | sent ch err => exact hinv.sent err h
  | timeout ch => exact hinv.timeout h
  | write store =>
    cases h
    exact hinv.write store

end Step

/-! ### What a step outside the condition leads to -/

section Unconfirmed

variable {sys sys' : System} {processed : List (UUID × Bytes)}

/-- A step that processes no report, and then a run. -/
theorem run_cons_of_step {e : Event} {events : List Event} {s : System × List (UUID × Bytes)}
    (hstep : sys.step e = some sys') (hcollect : collect processed sys e = processed)
    (hrun : run (withGhost System.step collect) (sys', processed) events = some s) :
    run (withGhost System.step collect) (sys, processed) (e :: events) = some s := by
  refine run_cons_eq_some.mpr ⟨(sys', processed), ?_, hrun⟩
  exact withGhost_eq_some.mpr ⟨hstep, hcollect.symm⟩

/-- The call `ch` can return nil without another report. -/
def CanReturn (sys : System) (processed : List (UUID × Bytes)) (call : Call) : Prop :=
  ∃ events t, run (withGhost System.step collect) (sys, processed) events = some (t, processed) ∧
    { call with stage := .returned none } ∈ t.calls

theorem CanReturn.of_step {e : Event} {call : Call} (hstep : sys.step e = some sys')
    (hcollect : collect processed sys e = processed) (h : CanReturn sys' processed call) :
    CanReturn sys processed call := by
  obtain ⟨events, t, hrun, hmem⟩ := h
  exact ⟨e :: events, t, run_cons_of_step hstep hcollect hrun, hmem⟩

/-- The call `ch` after `setCall`. -/
theorem getElem?_calls_setCall {ch : ChanId} {call : Call} (hcall : sys.calls[ch]? = some call)
    (stage : Call.Stage) :
    (sys.setCall ch call stage).calls[ch]? = some { call with stage } := by
  show (sys.calls.set ch _)[ch]? = _
  rw [List.getElem?_set_self']
  simp [hcall]

/-- In the select statement, a call whose token is there can return nil. -/
theorem canReturn_of_select {ch : ChanId} {C : Call} (hcall : sys.calls[ch]? = some C)
    (hstage : C.stage = .select) (htoken : ch ∈ sys.tokens) : CanReturn sys processed C := by
  have hstep : sys.step (.advance ch) = some
      ({ sys with tokens := sys.tokens.erase ch }.setCall ch C (.returned none)) := by
    simp [System.step, System.advance, hcall, hstage, htoken]
  refine CanReturn.of_step hstep rfl ⟨[], _, rfl, ?_⟩
  exact List.mem_set (List.getElem?_eq_some_iff.mp hcall).1 _

/-- An open call whose token is there can return nil. -/
theorem canReturn_of_token {ch : ChanId} {call : Call} (hcall : sys.calls[ch]? = some call)
    (hopen : call.stage.isOpen = true) (htoken : ch ∈ sys.tokens) :
    CanReturn sys processed call := by
  cases hstage : call.stage with
  | select => exact canReturn_of_select hcall hstage htoken
  | send ref msg =>
    -- The connection takes the message first.
    have hsent : sys.step (.sent ch none) = some (sys.setCall ch call .select) := by
      simp [System.step, System.sent, hcall, hstage]
    refine CanReturn.of_step hsent rfl ?_
    exact canReturn_of_select (C := { call with stage := .select })
      (getElem?_calls_setCall hcall .select) rfl htoken
  | _ =>
    rw [hstage] at hopen
    cases hopen

/-- A call that `SetCustomConfig` notifies at once can return nil. -/
theorem canReturn_of_notifyNow {ch : ChanId} {C : Call} (hcall : sys.calls[ch]? = some C)
    (hstage : C.stage = .notifyNow) (htoken : ch ∉ sys.tokens) : CanReturn sys processed C := by
  have hstep : sys.step (.advance ch) = some ((sys.notify ch).setCall ch C .select) := by
    simp [System.step, System.advance, hcall, hstage, htoken]
  refine CanReturn.of_step hstep rfl ?_
  obtain ⟨tokens, heq, htoken'⟩ := sys.notify_frame ch
  rw [heq]
  exact canReturn_of_select (C := { C with stage := .select })
    (getElem?_calls_setCall hcall .select) rfl htoken'

/-- The loop of `notifyStatusWatchers` puts the token of each channel in it. -/
theorem canReturn_of_notifyStatusWatchers {h : Nat} {handler : Handler} {watchers : List ChanId}
    (hhandler : sys.handlers[h]? = some handler)
    (hstage : handler.stage = .notifyStatusWatchers watchers) {agent : Agent}
    (hagent : sys.heap[handler.agent]? = some agent) {ch : ChanId} (hmem : ch ∈ watchers)
    {call : Call} (hcall : sys.calls[ch]? = some call) (hopen : call.stage.isOpen = true) :
    CanReturn sys processed call := by
  induction watchers generalizing sys handler with
  | nil => cases hmem
  | cons ch₀ watchers ih =>
    have hstep : sys.step (.handle h) = some
        ((sys.notify ch₀).setHandler h handler (.notifyStatusWatchers watchers)) := by
      simp [System.step, System.handle, hhandler, hagent, hstage]
    have hcollect : collect processed sys (.handle h) = processed := by
      simp [collect, hhandler, hstage]
    refine CanReturn.of_step hstep hcollect ?_
    obtain ⟨tokens, heq, htoken⟩ := sys.notify_frame ch₀
    rw [heq]
    by_cases hself : ch = ch₀
    · -- The token of `ch` is there after this round.
      subst hself
      exact canReturn_of_token hcall hopen htoken
    · have hrest : ch ∈ watchers := (List.mem_cons.mp hmem).resolve_left hself
      have hhandler' : (sys.handlers.set h
          { handler with stage := .notifyStatusWatchers watchers })[h]?
            = some { handler with stage := .notifyStatusWatchers watchers } := by
        rw [List.getElem?_set_self']
        simp [hhandler]
      exact ih hhandler' rfl hagent hrest hcall

/-- The section of `UpdateStatus`: the watchers leave the agent for the loop. -/
theorem handle_updateStatus {h : Nat} {handler : Handler} {agent : Agent}
    (hhandler : sys.handlers[h]? = some handler) (hstage : handler.stage = .updateStatus)
    (hagent : sys.heap[handler.agent]? = some agent) (hstep : sys.handle h = some sys') :
    ∃ agent' response, agent'.statusUpdateWatchers = [] ∧
      sys' = (sys.setAgent handler.agent agent').setHandler h { handler with response }
        (.notifyStatusWatchers agent.statusUpdateWatchers) := by
  obtain ⟨handler', agent₀, hhandler', hagent₀, hhandled⟩ := System.handle_inv hstep
  rw [hhandler] at hhandler'
  cases hhandler'
  rw [hagent] at hagent₀
  cases hagent₀
  cases hhandled with
  | updateStatus agent' response watchers _ hupdate =>
    obtain ⟨⟨startedAt, effectiveConfig, rfl⟩, rfl, -⟩ := Agent.updateStatus_ok hupdate
    exact ⟨_, response, rfl, rfl⟩
  | _ => simp_all

/-- A step outside the condition wakes or settles a call without a confirmation. -/
theorem canReturn_of_not_onlyConfirmed (hinv : AckInv (sys, processed)) {e : Event}
    (hstep : sys.step e = some sys') (hnot : ¬OnlyConfirmed (sys, processed) e) :
    ∃ call, CanReturn sys' (collect processed sys e) call ∧
      ¬Confirmed (collect processed sys e) call := by
  cases e with
  | handle h =>
    simp only [OnlyConfirmed, not_forall] at hnot
    obtain ⟨handler, hhandler, hstage, agent, hagent, ch, hch, call, hcall, hopen, hnot⟩ := hnot
    have hcollect : collect processed sys (.handle h) = processed ++ handler.confirmation := by
      simp only [collect]
      rw [hhandler]
      exact if_pos hstage
    rw [hcollect]
    -- The report moves the watchers to the loop of its handler, which wakes them all.
    obtain ⟨agent', response, _, rfl⟩ := handle_updateStatus hhandler hstage hagent hstep
    refine ⟨call, ?_, hnot⟩
    have hhandler' : (sys.handlers.set h
        { handler with response, stage := .notifyStatusWatchers agent.statusUpdateWatchers })[h]?
          = some { handler with
              response, stage := .notifyStatusWatchers agent.statusUpdateWatchers } := by
      rw [List.getElem?_set_self', Option.mem_def.mp hhandler]
      rfl
    have hagent' : (sys.heap.set handler.agent agent')[handler.agent]? = some agent' := by
      rw [List.getElem?_set_self', Option.mem_def.mp hagent]
      rfl
    exact canReturn_of_notifyStatusWatchers hhandler' rfl hagent' hch hcall hopen
  | advance ch =>
    simp only [OnlyConfirmed, not_forall] at hnot
    obtain ⟨call, hcall, ref, htarget, agent, hagent, hequal, hnot⟩ := hnot
    refine ⟨call, ?_, hnot⟩
    have hstage : call.stage = .setCustomConfig ref := by
      cases hstage : call.stage with
      | setCustomConfig ref' =>
        rw [hstage] at htarget
        cases htarget
        rfl
      | _ =>
        rw [hstage] at htarget
        cases htarget
    have hnotify := (setCustomConfig_notifyNow_iff agent call.configContent (some ch)).mpr hequal
    have hfirst : sys' = (sys.setAgent ref (agent.setCustomConfig (.single call.configContent)
        (some ch)).1).setCall ch call .notifyNow := by
      have hadvance : sys.advance ch = some sys' := hstep
      simp only [System.advance, Option.mem_def.mp hcall, Option.mem_def.mp hagent, hstage,
        Option.bind_eq_bind, Option.bind_some, hnotify, Option.some.injEq] at hadvance
      exact hadvance.symm
    subst hfirst
    exact canReturn_of_notifyNow (C := { call with stage := .notifyNow })
      (getElem?_calls_setCall hcall .notifyNow) rfl
      (hinv.not_token hcall (by rw [hstage]; rfl))
  | _ => exact absurd trivial hnot

end Unconfirmed

/-! ### Runs -/

/-- Take a run from an empty registry whose steps all meet the condition. Every call that has
returned nil is confirmed. A step that does not meet the condition leads to a state from
which, without another report, a call can return nil that is not confirmed. -/
theorem acknowledged_of_onlyConfirmed (store : Sqlite.Storage)
    (otlpGRPCEndpoint otlpHTTPEndpoint : String) (events : List Event)
    (s : System × List (UUID × Bytes))
    (hmeet : StepsMeet (withGhost System.step collect) OnlyConfirmed
      (System.newSystem store otlpGRPCEndpoint otlpHTTPEndpoint, []) events)
    (hrun : run (withGhost System.step collect)
      (System.newSystem store otlpGRPCEndpoint otlpHTTPEndpoint, []) events = some s) :
    Acknowledged s ∧
      ∀ e s', withGhost System.step collect s e = some s' → ¬OnlyConfirmed s e →
        ∃ more t, run (withGhost System.step collect) s' more = some t ∧ t.2 = s'.2 ∧
          ¬Acknowledged t := by
  have hinv : AckInv s := by
    refine run_invariant_of_stepsMeet AckInv ?_
      (ackInv_newSystem store otlpGRPCEndpoint otlpHTTPEndpoint) hmeet hrun
    rintro ⟨sys, processed⟩ e ⟨sys', processed'⟩ hinv hC hstep
    obtain ⟨hsys, hghost⟩ := withGhost_eq_some.mp hstep
    have hghost' : processed' = collect processed sys e := hghost
    rw [hghost']
    exact hinv.step hC hsys
  refine ⟨hinv.acknowledged, ?_⟩
  -- The step that misses the condition puts a token that an unconfirmed call can take.
  rintro e ⟨sys', processed'⟩ hstep hnot
  obtain ⟨hsys, hghost⟩ := withGhost_eq_some.mp hstep
  have hghost' : processed' = collect s.2 s.1 e := hghost
  obtain ⟨call, ⟨more, t, hmore, hmem⟩, hunconfirmed⟩ :=
    canReturn_of_not_onlyConfirmed hinv hsys hnot
  refine ⟨more, (t, processed'), ?_, rfl, ?_⟩
  · rw [hghost']
    exact hmore
  · intro hacknowledged
    have hconfirmed := hacknowledged _ hmem rfl
    rw [hghost'] at hconfirmed
    exact hunconfirmed hconfirmed

/-! ### Three schedules -/

/-- A report of an agent that accepts remote config. It says nothing about its config. -/
def statusReport : AgentToServer where
  instanceUid := UUID.nil.bytes
  capabilities := AgentCapabilities.acceptsRemoteConfig

/-- A report that the config `body` is applied. -/
def appliedReport (body : Bytes) : AgentToServer :=
  { statusReport with
    remoteConfigStatus := some { lastRemoteConfigHash := (remoteConfigOf body).configHash } }

/-- A message arrives, and its handler `h` runs to the end. A report without a description
takes four steps, and one more for each watcher. -/
def report (h watchers : Nat) (msg : AgentToServer) : List Event :=
  .message (.quiet 0 "") 1 msg :: List.replicate (4 + watchers) (.handle h)

/-- A push up to the end of `SetCustomConfig`. -/
def push (ch : ChanId) (body : Bytes) : List Event :=
  [.sendConfigToAgent .nil body, .advance ch, .advance ch, .advance ch]

/-- The agent connects, gets a config, reports that it is applied, and the push returns. -/
def appliedSchedule : List Event :=
  report 0 0 statusReport ++ push 0 [1] ++ [.sent 0 none] ++ report 1 1 (appliedReport [1]) ++
    [.advance 0]

/-- The send of the push fails, and a status report that says nothing about the config comes
in. -/
def heartbeatSchedule : List Event :=
  report 0 0 statusReport ++ push 0 [1] ++ [.sent 0 (some "closed")] ++ report 1 1 statusReport ++
    [.advance 0]

/-- The send of the push fails and the push times out. Then the push is repeated. -/
def repeatSchedule : List Event :=
  report 0 0 statusReport ++ push 0 [1] ++ [.sent 0 (some "closed"), .timeout 0] ++ push 1 [1] ++
    [.advance 1, .advance 1]

/-- The first schedule meets the condition, and its push returns nil. -/
theorem acknowledged_appliedSchedule :
    ∃ s, run (withGhost System.step collect) (System.newSystem .empty "" "", []) appliedSchedule
        = some s ∧ s.1.calls.map (·.stage) = [.returned none] ∧ Acknowledged s := by
  have hmeet : StepsMeet (withGhost System.step collect) OnlyConfirmed
      (System.newSystem .empty "" "", []) appliedSchedule := by decide +kernel
  have hend : (run (withGhost System.step collect) (System.newSystem .empty "" "", [])
      appliedSchedule).map (fun s => s.1.calls.map (·.stage)) = some [.returned none] := by
    decide +kernel
  obtain ⟨s, hrun, hstages⟩ := Option.map_eq_some_iff.mp hend
  exact ⟨s, hrun, hstages, (acknowledged_of_onlyConfirmed .empty "" "" _ s hmeet hrun).1⟩

/-- In the other two schedules a push returns nil, and the server has processed no report
about a config. -/
theorem unconfirmed_push_returns :
    ¬ (∀ (store : Sqlite.Storage) (events : List Event) (s : System × List (UUID × Bytes)),
      run (withGhost System.step collect) (System.newSystem store "" "", []) events = some s →
        Acknowledged s) ∧
    (∃ s, run (withGhost System.step collect) (System.newSystem .empty "" "", [])
      heartbeatSchedule = some s ∧ s.2 = [] ∧ s.1.calls.map (·.stage) = [.returned none]) ∧
    ∃ s, run (withGhost System.step collect) (System.newSystem .empty "" "", [])
      repeatSchedule = some s ∧ s.2 = [] ∧ s.1.calls.map (·.stage)
        = [.returned (some "timeout waiting for agent to apply config"), .returned none] := by
  have hheartbeat : (run (withGhost System.step collect) (System.newSystem .empty "" "", [])
      heartbeatSchedule).map (fun s => (s.2, s.1.calls.map (·.stage), decide (Acknowledged s)))
        = some ([], [.returned none], false) := by decide +kernel
  have hrepeat : (run (withGhost System.step collect) (System.newSystem .empty "" "", [])
      repeatSchedule).map (fun s => (s.2, s.1.calls.map (·.stage)))
        = some ([], [.returned (some "timeout waiting for agent to apply config"),
          .returned none]) := by decide +kernel
  obtain ⟨s, hrun, hs⟩ := Option.map_eq_some_iff.mp hheartbeat
  obtain ⟨t, hrun', ht⟩ := Option.map_eq_some_iff.mp hrepeat
  simp only [Prod.mk.injEq] at hs ht
  refine ⟨?_, ⟨s, hrun, hs.1, hs.2.1⟩, ⟨t, hrun', ht.1, ht.2⟩⟩
  intro hall
  have hacknowledged : Acknowledged s := hall .empty heartbeatSchedule s hrun
  exact of_decide_eq_false hs.2.2 hacknowledged

end OtelHive.Opamp.Concurrent
