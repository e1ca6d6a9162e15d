import OtelHive.Proofs.Opamp.Acknowledged
import OtelHive.Proofs.Opamp.RemoteConfig

/-!
# `OtelHive.Proofs.Opamp.WakeUps`: each push is woken once

`SetCustomConfig` puts the channel of a push among the watchers of the agent, `UpdateStatus`
takes the list of the watchers in its section, and `notifyStatusWatchers` sends to them
outside the section. `record` writes down what happens to the channels, and a token only when
the buffer takes it.

`Wake.next` is the rule for one channel. A trace that breaks the rule has no state. The
invariant `WakeInv` says where the channel is in each state of the rule: it has one place at
most, among the watchers of one agent or in the loop of one handler. `woken_once` is the
result for every run.
-/

set_option autoImplicit false

namespace OtelHive.Opamp.Concurrent

open OtelHive.Lib

instance (agent : Agent) (body : Bytes) : Decidable (agent.Holds body) :=
  inferInstanceAs (Decidable (_ ∧ _))

/-! ### The trace -/

/-- What happens to the channels. -/
inductive Note where
  /-- The push `ch` passes the section of `SetCustomConfig` on an agent. The pushed config is
  equal to the one that the server held for it, or not. -/
  | setCustomConfig (ch : ChanId) (agent : Ref) (equal : Bool)
  /-- The handler `h` passes the section of `UpdateStatus` on an agent. -/
  | updateStatus (h : Nat) (agent : Ref)
  /-- The channel receives a token, from its own push (`none`) or from a handler. -/
  | token (ch : ChanId) (sender : Option Nat)
deriving DecidableEq

/-- What a step does to the channels. -/
def note (sys : System) : Event → Option Note
  | .advance ch => do
    let call ← sys.calls[ch]?
    match call.stage with
    | .setCustomConfig ref =>
      let agent ← sys.heap[ref]?
      some (.setCustomConfig ch ref (decide (agent.Holds call.configContent)))
    | .notifyNow => if ch ∈ sys.tokens then none else some (.token ch none)
    | _ => none
  | .handle h => do
    let handler ← sys.handlers[h]?
    match handler.stage with
    | .updateStatus => some (.updateStatus h handler.agent)
    -- A full buffer drops the token of the loop.
    | .notifyStatusWatchers (ch :: _) =>
      if ch ∈ sys.tokens then none else some (.token ch (some h))
    | _ => none
  | _ => none

/-- Write down what a step does to the channels. -/
def record (trace : List Note) (sys : System) (e : Event) : List Note :=
  trace ++ (note sys e).toList

/-! ### The rule -/

/-- What a channel waits for. -/
inductive Wake where
  /-- Its push has not passed `SetCustomConfig`. -/
  | idle
  /-- The server held the pushed config: the push itself puts the token. -/
  | held
  /-- The next report of the agent wakes it. -/
  | waiting (agent : Ref)
  /-- The handler of that report puts the token. -/
  | owed (h : Nat)
  | woken
deriving DecidableEq

namespace Wake

/-- Who puts the token next. -/
def sender : Wake → Option (Option Nat)
  | .held => some none
  | .owed h => some (some h)
  | _ => none

/-- What the channel `ch` waits for after a note. A second registration breaks the rule, and so
does a token from anyone but the sender. -/
def next (ch : ChanId) (w : Wake) : Note → Option Wake
  | .setCustomConfig ch' ref equal =>
    if ch' ≠ ch then some w
    else if w = .idle then some (if equal then .held else .waiting ref)
    else none
  | .updateStatus h ref => some (if w = .waiting ref then .owed h else w)
  | .token ch' sender =>
    if ch' ≠ ch then some w
    else if w.sender = some sender then some .woken
    else none

/-- What the channel `ch` waits for after a step. -/
def after (ch : ChanId) (w : Wake) (n : Option Note) : Option Wake :=
  n.elim (some w) (w.next ch)

end Wake

/-- The tokens that the channel receives in the trace. -/
def received (ch : ChanId) (trace : List Note) : Nat :=
  trace.countP fun
    | .token ch' _ => ch' == ch
    | _ => false

/-! ### Where a channel is -/

namespace System

/-- The watchers of an agent in the heap. -/
def watchersAt (sys : System) (ref : Ref) : List ChanId :=
  (sys.heap[ref]?).elim [] (·.statusUpdateWatchers)

/-- The channels that the loop of a handler has left. -/
def loopAt (sys : System) (h : Nat) : List ChanId :=
  (sys.handlers[h]?).elim [] (·.stage.watchers)

/-- How far a push is. -/
def stageAt (sys : System) (ch : ChanId) : Option Call.Stage :=
  (sys.calls[ch]?).map (·.stage)

end System

/-- Where the channel `ch` is when it waits for `w`:

- `registered`: its push is past `SetCustomConfig`, unless it is idle;
- `notifyNow`: its push puts the token itself exactly when the server held the config;
- `watchers`: it is once among the watchers of the agent it waits for, and nowhere else;
- `loop`: it is once in the loop of the handler that owes the token, and in no other;
- `tokens`: its token is not there before it is woken. -/
structure WakeInv (ch : ChanId) (w : Wake) (sys : System) : Prop where
  registered : w ≠ .idle → ∃ stage, sys.stageAt ch = some stage ∧ stage.registered = true
  notifyNow : sys.stageAt ch = some .notifyNow ↔ w = .held
  watchers : ∀ ref, (sys.watchersAt ref).count ch = if w = .waiting ref then 1 else 0
  loop : ∀ h, (sys.loopAt h).count ch = if w = .owed h then 1 else 0
  tokens : ch ∈ sys.tokens → w = .woken

namespace System

variable {sys : System}

theorem watchersAt_setAgent {ref : Ref} {agent : Agent} (hagent : sys.heap[ref]? = some agent)
    (agent' : Agent) (ref' : Ref) :
    (sys.setAgent ref agent').watchersAt ref'
      = if ref' = ref then agent'.statusUpdateWatchers else sys.watchersAt ref' := by
  show ((sys.heap.set ref agent')[ref']?).elim [] _ = _
  by_cases heq : ref' = ref
  · subst heq
    rw [List.getElem?_set_self', hagent, if_pos rfl]
    rfl
  · rw [List.getElem?_set_ne (Ne.symm heq), if_neg heq]
    rfl

theorem loopAt_setHandler {h : Nat} {handler₀ : Handler}
    (hhandler : sys.handlers[h]? = some handler₀) (handler : Handler) (stage : Handler.Stage)
    (h' : Nat) :
    (sys.setHandler h handler stage).loopAt h'
      = if h' = h then stage.watchers else sys.loopAt h' := by
  show ((sys.handlers.set h _)[h']?).elim [] _ = _
  by_cases heq : h' = h
  · subst heq
    rw [List.getElem?_set_self', hhandler, if_pos rfl]
    rfl
  · rw [List.getElem?_set_ne (Ne.symm heq), if_neg heq]
    rfl

theorem stageAt_setCall {ch : ChanId} {call : Call} (hcall : sys.calls[ch]? = some call)
    (stage : Call.Stage) (ch' : ChanId) :
    (sys.setCall ch call stage).stageAt ch'
      = if ch' = ch then some stage else sys.stageAt ch' := by
  show ((sys.calls.set ch _)[ch']?).map _ = _
  by_cases heq : ch' = ch
  · subst heq
    rw [List.getElem?_set_self', hcall, if_pos rfl]
    rfl
  · rw [List.getElem?_set_ne (Ne.symm heq), if_neg heq]
    rfl

theorem stageAt_setCall_self {ch : ChanId} {call : Call} (hcall : sys.calls[ch]? = some call)
    (stage : Call.Stage) : (sys.setCall ch call stage).stageAt ch = some stage := by
  rw [stageAt_setCall hcall, if_pos rfl]

theorem watchersAt_of_getElem? {ref : Ref} {agent : Agent} (h : sys.heap[ref]? = some agent) :
    sys.watchersAt ref = agent.statusUpdateWatchers := by
  rw [watchersAt, h]
  rfl

theorem loopAt_of_getElem? {h : Nat} {handler : Handler} (hh : sys.handlers[h]? = some handler) :
    sys.loopAt h = handler.stage.watchers := by
  rw [loopAt, hh]
  rfl

theorem stageAt_of_getElem? {ch : ChanId} {call : Call} (h : sys.calls[ch]? = some call) :
    sys.stageAt ch = some call.stage := by
  rw [stageAt, h]
  rfl

end System

/-! ### One step -/

section Step

variable {sys sys' : System} {ch : ChanId} {w : Wake}

/-- A step that leaves the channel where it is. -/
theorem WakeInv.of_places (hinv : WakeInv ch w sys) (hstage : sys'.stageAt ch = sys.stageAt ch)
    (hwatchers : ∀ ref, (sys'.watchersAt ref).count ch = (sys.watchersAt ref).count ch)
    (hloop : ∀ h, (sys'.loopAt h).count ch = (sys.loopAt h).count ch)
    (htokens : ch ∈ sys'.tokens → ch ∈ sys.tokens) : WakeInv ch w sys' where
  registered := by
    rw [hstage]
    exact hinv.registered
  notifyNow := by
    rw [hstage]
    exact hinv.notifyNow
  watchers := by
    intro ref
    rw [hwatchers]
    exact hinv.watchers ref
  loop := by
    intro h
    rw [hloop]
    exact hinv.loop h
  tokens := fun h => hinv.tokens (htokens h)

/-- A step of a push. For its own channel it is neither from nor to `notifyNow`. -/
theorem WakeInv.setCall (hinv : WakeInv ch w sys) {ch₀ : ChanId} {call : Call}
    {stage : Call.Stage} (hcall : sys.calls[ch₀]? = some call)
    (hown : ch = ch₀ → call.stage ≠ .notifyNow ∧ stage ≠ .notifyNow ∧
      (call.stage.registered = true → stage.registered = true)) :
    WakeInv ch w (sys.setCall ch₀ call stage) := by
  by_cases hself : ch = ch₀
  · subst hself
    obtain ⟨hold, hnew, hreg⟩ := hown rfl
    have hstage := System.stageAt_of_getElem? hcall
    refine ⟨?_, ?_, hinv.watchers, hinv.loop, hinv.tokens⟩
    · intro hw
      obtain ⟨stage₀, hstage₀, hreg₀⟩ := hinv.registered hw
      rw [hstage] at hstage₀
      cases hstage₀
      exact ⟨stage, System.stageAt_setCall_self hcall stage, hreg hreg₀⟩
    · rw [System.stageAt_setCall_self hcall, ← hinv.notifyNow, hstage]
      simp [hold, hnew]
  · refine hinv.of_places ?_ (fun _ => rfl) (fun _ => rfl) id
    rw [System.stageAt_setCall hcall, if_neg hself]

/-- A token of another channel. -/
theorem WakeInv.notify (hinv : WakeInv ch w sys) {ch₀ : ChanId} (hne : ch ≠ ch₀) :
    WakeInv ch w (sys.notify ch₀) := by
  unfold System.notify
  split
  · exact hinv
  · refine hinv.of_places rfl (fun _ => rfl) (fun _ => rfl) ?_
    intro hmem
    exact (List.mem_cons.mp hmem).resolve_left hne

/-- A channel that `SetCustomConfig` has not had is idle. -/
theorem WakeInv.idle_of_stage (hinv : WakeInv ch w sys) {call : Call}
    (hcall : sys.calls[ch]? = some call) (hstage : call.stage.registered = false) : w = .idle := by
  by_contra hw
  obtain ⟨stage, hstage', hreg⟩ := hinv.registered hw
  rw [System.stageAt_of_getElem? hcall] at hstage'
  cases hstage'
  rw [hstage] at hreg
  cases hreg

/-- The watchers after `setCustomConfig`. -/
theorem watchers_setCustomConfig (agent : Agent) (body : Bytes) (ch : ChanId) :
    (agent.setCustomConfig (.single body) (some ch)).1.statusUpdateWatchers
      = if (agent.setCustomConfig (.single body) (some ch)).2 = .notifyNow
        then agent.statusUpdateWatchers
        else agent.statusUpdateWatchers ++ [ch] := by
  unfold Agent.setCustomConfig
  dsimp only
  split
  · rfl
  · rfl

/-- The server compares remote configs, which decides whether it holds the pushed config: the
remote config is always that of the custom config. -/
theorem isEqualRemoteConfig_iff_holds {agent : Agent} (hsynced : agent.Synced) (body : Bytes) :
    isEqualRemoteConfig agent.remoteConfig (some (remoteConfigOf body)) = true ↔
      agent.Holds body := by
  cases hremote : agent.remoteConfig with
  | none => simp [isEqualRemoteConfig, Agent.Holds, hremote]
  | some cfg =>
    rw [hsynced cfg hremote, isEqualRemoteConfig_remoteConfigOf, beq_iff_eq]
    constructor
    · rintro rfl
      refine ⟨rfl, ?_⟩
      rw [hremote, hsynced cfg hremote]
      rfl
    · exact And.left

/-- The server holds the config of the push, so that the push puts the token itself. -/
theorem WakeInv.setCustomConfig_held (hinv : WakeInv ch .idle sys) {call : Call} {ref : Ref}
    {agent : Agent} (hcall : sys.calls[ch]? = some call) (hagent : sys.heap[ref]? = some agent)
    (hresult : (agent.setCustomConfig (.single call.configContent) (some ch)).2 = .notifyNow) :
    WakeInv ch .held ((sys.setAgent ref
      (agent.setCustomConfig (.single call.configContent) (some ch)).1).setCall ch call
        .notifyNow) where
  registered _ := ⟨.notifyNow, System.stageAt_setCall_self hcall _, rfl⟩
  notifyNow := ⟨fun _ => rfl, fun _ => System.stageAt_setCall_self hcall _⟩
  watchers := by
    intro ref'
    show ((sys.setAgent ref _).watchersAt ref').count ch = 0
    rw [System.watchersAt_setAgent hagent, watchers_setCustomConfig, if_pos hresult]
    split
    · rw [← System.watchersAt_of_getElem? hagent]
      exact hinv.watchers ref
    · exact hinv.watchers ref'
  loop := hinv.loop
  tokens h := absurd (hinv.tokens h) (by simp)

/-- The server did not hold the config of the push, which joins the watchers of the agent. -/
theorem WakeInv.setCustomConfig_waiting (hinv : WakeInv ch .idle sys) {call : Call} {ref : Ref}
    {agent : Agent} (hcall : sys.calls[ch]? = some call) (hagent : sys.heap[ref]? = some agent)
    {msg : ServerToAgent}
    (hresult : (agent.setCustomConfig (.single call.configContent) (some ch)).2 = .send msg) :
    WakeInv ch (.waiting ref) ((sys.setAgent ref
      (agent.setCustomConfig (.single call.configContent) (some ch)).1).setCall ch call
        (.send ref msg)) where
  registered _ := ⟨.send ref msg, System.stageAt_setCall_self hcall _, rfl⟩
  notifyNow := by
    have hsend : ((sys.setAgent ref (agent.setCustomConfig (.single call.configContent)
        (some ch)).1).setCall ch call (.send ref msg)).stageAt ch = some (.send ref msg) :=
      System.stageAt_setCall_self hcall _
    rw [hsend]
    simp
  watchers := by
    -- The channel is fresh, so it has no place yet.
    have hnone : agent.statusUpdateWatchers.count ch = 0 := by
      rw [← System.watchersAt_of_getElem? hagent]
      exact hinv.watchers ref
    have hresult' : ¬(agent.setCustomConfig (.single call.configContent) (some ch)).2
        = .notifyNow := by
      rw [hresult]
      simp
    intro ref'
    show ((sys.setAgent ref _).watchersAt ref').count ch = _
    rw [System.watchersAt_setAgent hagent, watchers_setCustomConfig, if_neg hresult']
    by_cases heq : ref' = ref
    · subst heq
      rw [if_pos rfl, if_pos rfl, List.count_append, hnone, List.count_singleton_self]
    · rw [if_neg heq, if_neg (by simpa using Ne.symm heq)]
      exact hinv.watchers ref'
  loop := hinv.loop
  tokens h := absurd (hinv.tokens h) (by simp)

/-- The push of another channel joins the watchers at most. -/
theorem WakeInv.setCustomConfig_other (hinv : WakeInv ch w sys) {ch₀ : ChanId} (hne : ch ≠ ch₀)
    {ref : Ref} {agent : Agent} (hagent : sys.heap[ref]? = some agent) (configContent : Bytes) :
    WakeInv ch w (sys.setAgent ref
      (agent.setCustomConfig (.single configContent) (some ch₀)).1) := by
  refine hinv.of_places rfl ?_ (fun _ => rfl) id
  intro ref'
  rw [System.watchersAt_setAgent hagent]
  split
  · rename_i heq
    rw [heq, System.watchersAt_of_getElem? hagent, watchers_setCustomConfig]
    split
    · rfl
    · rw [List.count_append, List.count_singleton]
      simp [Ne.symm hne]
  · rfl

/-- The section of `SetCustomConfig`. For its own channel it decides who wakes it. -/
theorem WakeInv.setCustomConfig (hinv : WakeInv ch w sys) {ch₀ : ChanId} {call : Call} {ref : Ref}
    {agent : Agent} {stage : Call.Stage} (hcall : sys.calls[ch₀]? = some call)
    (hstage : call.stage = .setCustomConfig ref) (hagent : sys.heap[ref]? = some agent)
    (hsynced : agent.Synced)
    (hnext : stage = .notifyNow ∧
        (agent.setCustomConfig (.single call.configContent) (some ch₀)).2 = .notifyNow ∨
      ∃ msg, stage = .send ref msg ∧
        (agent.setCustomConfig (.single call.configContent) (some ch₀)).2 = .send msg) :
    ∃ w', w.next ch (.setCustomConfig ch₀ ref
        (decide (agent.Holds call.configContent))) = some w' ∧
      WakeInv ch w' ((sys.setAgent ref
        (agent.setCustomConfig (.single call.configContent) (some ch₀)).1).setCall ch₀ call
          stage) := by
  by_cases hself : ch = ch₀
  · subst hself
    have hidle := hinv.idle_of_stage hcall (by rw [hstage]; rfl)
    subst hidle
    -- The result tells whether the server held the config.
    have hholds := (setCustomConfig_notifyNow_iff agent call.configContent (some ch)).trans
      (isEqualRemoteConfig_iff_holds hsynced _)
    rcases hnext with ⟨rfl, hresult⟩ | ⟨msg, rfl, hresult⟩
    · have hequal := hholds.mp hresult
      exact ⟨.held, by simp [Wake.next, hequal], hinv.setCustomConfig_held hcall hagent hresult⟩
    · have hne : ¬agent.Holds call.configContent := by
        intro hequal
        rw [hholds.mpr hequal] at hresult
        cases hresult
      exact ⟨.waiting ref, by simp [Wake.next, hne],
        hinv.setCustomConfig_waiting hcall hagent hresult⟩
  · exact ⟨w, by simp [Wake.next, Ne.symm hself],
      (hinv.setCustomConfig_other hself hagent call.configContent).setCall hcall
        fun h => absurd h hself⟩

/-- A step of a push. -/
theorem WakeInv.advance (hinv : WakeInv ch w sys) (hsynced : ∀ agent ∈ sys.heap, agent.Synced)
    {ch₀ : ChanId} (h : sys.advance ch₀ = some sys') :
    ∃ w', w.after ch (note sys (.advance ch₀)) = some w' ∧ WakeInv ch w' sys' := by
  obtain ⟨call, hcall, hadvanced⟩ := System.advance_inv h
  cases hadvanced with
  | notFound hstage | refused _ _ hstage | found _ hstage | accepted _ _ hstage =>
    refine ⟨w, by simp [Wake.after, note, hcall, hstage], hinv.setCall hcall ?_⟩
    intro _
    rw [hstage]
    exact ⟨by simp, by simp, fun h => by cases h⟩
  | setCustomConfig ref agent stage hstage hagent hnext =>
    have hnote : note sys (.advance ch₀) = some (.setCustomConfig ch₀ ref
        (decide (agent.Holds call.configContent))) := by
      simp [note, hcall, hstage, hagent]
    rw [hnote]
    exact hinv.setCustomConfig hcall hstage hagent
      (hsynced agent (List.mem_of_getElem? hagent)) hnext
  | notifyNow hstage htoken =>
    have hnote : note sys (.advance ch₀) = some (.token ch₀ none) := by
      simp [note, hcall, hstage, htoken]
    rw [hnote]
    have hcall' : (sys.notify ch₀).calls[ch₀]? = some call := by rw [sys.calls_notify, hcall]
    by_cases hself : ch = ch₀
    · subst hself
      have hheld : w = .held := by
        rw [← hinv.notifyNow, System.stageAt_of_getElem? hcall, hstage]
      subst hheld
      refine ⟨.woken, by simp [Wake.after, Wake.next, Wake.sender], ?_, ?_, ?_, ?_, fun _ => rfl⟩
      · intro _
        exact ⟨.select, System.stageAt_setCall_self hcall' _, rfl⟩
      · rw [System.stageAt_setCall_self hcall']
        simp
      · rw [System.notify, if_neg htoken]
        exact hinv.watchers
      · rw [System.notify, if_neg htoken]
        exact hinv.loop
    · refine ⟨w, by simp [Wake.after, Wake.next, Ne.symm hself], ?_⟩
      exact (hinv.notify hself).setCall hcall' (fun h => absurd h hself)
  | select hstage htoken =>
    refine ⟨w, by simp [Wake.after, note, hcall, hstage], ?_⟩
    have herase : WakeInv ch w { sys with tokens := sys.tokens.erase ch₀ } :=
      hinv.of_places rfl (fun _ => rfl) (fun _ => rfl) List.mem_of_mem_erase
    refine herase.setCall hcall ?_
    intro _
    rw [hstage]
    exact ⟨by simp, by simp, fun _ => rfl⟩

/-- A write to an agent that leaves its watchers. -/
theorem WakeInv.setAgent (hinv : WakeInv ch w sys) {ref : Ref} {agent agent' : Agent}
    (hagent : sys.heap[ref]? = some agent)
    (hwatchers : agent'.statusUpdateWatchers = agent.statusUpdateWatchers) :
    WakeInv ch w (sys.setAgent ref agent') := by
  refine hinv.of_places rfl ?_ (fun _ => rfl) id
  intro ref'
  rw [System.watchersAt_setAgent hagent, hwatchers, ← System.watchersAt_of_getElem? hagent]
  split
  · rename_i heq
    rw [heq]
  · rfl

/-- A step of a handler outside its loop. -/
theorem WakeInv.setHandler (hinv : WakeInv ch w sys) {h : Nat} {handler₀ : Handler}
    (hhandler : sys.handlers[h]? = some handler₀) (handler : Handler) {stage : Handler.Stage}
    (hold : handler₀.stage.watchers = []) (hnew : stage.watchers = []) :
    WakeInv ch w (sys.setHandler h handler stage) := by
  refine hinv.of_places rfl (fun _ => rfl) ?_ id
  intro h'
  rw [System.loopAt_setHandler hhandler, hnew, ← hold, ← System.loopAt_of_getElem? hhandler]
  split
  · rename_i heq
    rw [heq]
  · rfl

/-- The section of `UpdateStatus`: the channels that wait for the agent go to the loop. -/
theorem WakeInv.updateStatus (hinv : WakeInv ch w sys) {h : Nat} {handler : Handler}
    {agent agent' : Agent} {response : ServerToAgent}
    (hhandler : sys.handlers[h]? = some handler) (hstage : handler.stage = .updateStatus)
    (hagent : sys.heap[handler.agent]? = some agent) (hnil : agent'.statusUpdateWatchers = []) :
    WakeInv ch (if w = .waiting handler.agent then .owed h else w)
      ((sys.setAgent handler.agent agent').setHandler h { handler with response }
        (.notifyStatusWatchers agent.statusUpdateWatchers)) := by
  have hcount : agent.statusUpdateWatchers.count ch
      = if w = .waiting handler.agent then 1 else 0 := by
    rw [← System.watchersAt_of_getElem? hagent]
    exact hinv.watchers handler.agent
  have hwatchers : ∀ ref, ((sys.setAgent handler.agent agent').watchersAt ref).count ch
      = if ref = handler.agent then 0 else (sys.watchersAt ref).count ch := by
    intro ref
    rw [System.watchersAt_setAgent hagent, hnil]
    split <;> rfl
  -- The handler was not in its loop, so it did not owe this token.
  have hnotOwed : w ≠ .owed h := by
    rintro rfl
    have hloop := hinv.loop h
    rw [System.loopAt_of_getElem? hhandler, hstage, if_pos rfl] at hloop
    cases hloop
  have hloop : ∀ h', (((sys.setAgent handler.agent agent').setHandler h { handler with response }
      (.notifyStatusWatchers agent.statusUpdateWatchers)).loopAt h').count ch
        = if h' = h then agent.statusUpdateWatchers.count ch else (sys.loopAt h').count ch := by
    intro h'
    have hhandler' : (sys.setAgent handler.agent agent').handlers[h]? = some handler := hhandler
    rw [System.loopAt_setHandler hhandler']
    split <;> rfl
  by_cases hwaiting : w = .waiting handler.agent
  · subst hwaiting
    rw [if_pos rfl]
    refine ⟨fun _ => hinv.registered (by simp), ?_, ?_, ?_, ?_⟩
    · exact hinv.notifyNow.trans (by simp)
    · intro ref
      refine (hwatchers ref).trans ?_
      by_cases heq : ref = handler.agent
      · rw [if_pos heq, if_neg (by simp)]
      · rw [if_neg heq, hinv.watchers ref, if_neg (by simpa using Ne.symm heq),
          if_neg (by simp)]
    · intro h'
      rw [hloop, hcount, if_pos rfl]
      by_cases heq : h' = h
      · subst heq
        rw [if_pos rfl, if_pos rfl]
      · rw [if_neg heq, hinv.loop h', if_neg (by simp), if_neg (by simpa using Ne.symm heq)]
    · exact fun htoken => absurd (hinv.tokens htoken) (by simp)
  · rw [if_neg hwaiting]
    rw [if_neg hwaiting] at hcount
    refine hinv.of_places rfl ?_ ?_ id
    · intro ref
      refine (hwatchers ref).trans ?_
      by_cases heq : ref = handler.agent
      · rw [if_pos heq, heq, hinv.watchers, if_neg hwaiting]
      · rw [if_neg heq]
    · intro h'
      rw [hloop, hcount]
      by_cases heq : h' = h
      · rw [if_pos heq, heq, hinv.loop h, if_neg hnotOwed]
      · rw [if_neg heq]

/-- One round of the loop. -/
theorem WakeInv.notifyWatcher (hinv : WakeInv ch w sys) {h : Nat} {handler : Handler}
    {ch₀ : ChanId} {watchers : List ChanId} (hhandler : sys.handlers[h]? = some handler)
    (hstage : handler.stage = .notifyStatusWatchers (ch₀ :: watchers)) :
    ∃ w', w.after ch (if ch₀ ∈ sys.tokens then none else some (.token ch₀ (some h))) = some w' ∧
      WakeInv ch w' ((sys.notify ch₀).setHandler h handler (.notifyStatusWatchers watchers)) := by
  have hcount : (ch₀ :: watchers).count ch = if w = .owed h then 1 else 0 := by
    have hloop := hinv.loop h
    rwa [System.loopAt_of_getElem? hhandler, hstage] at hloop
  have hhandler' : (sys.notify ch₀).handlers[h]? = some handler := by
    obtain ⟨tokens, heq, -⟩ := sys.notify_frame ch₀
    rw [heq]
    exact hhandler
  by_cases hself : ch = ch₀
  · subst hself
    -- The loop has the channel, so this handler owes the token and the buffer is empty.
    rw [List.count_cons_self] at hcount
    have howed : w = .owed h := by
      by_contra hne
      rw [if_neg hne] at hcount
      omega
    subst howed
    rw [if_pos rfl] at hcount
    have htoken : ch ∉ sys.tokens := fun hmem => absurd (hinv.tokens hmem) (by simp)
    rw [if_neg htoken]
    refine ⟨.woken, by simp [Wake.after, Wake.next, Wake.sender], ?_, ?_, ?_, ?_, fun _ => rfl⟩
    · rw [System.notify, if_neg htoken]
      exact fun _ => hinv.registered (by simp)
    · rw [System.notify, if_neg htoken]
      exact hinv.notifyNow.trans (by simp)
    · rw [System.notify, if_neg htoken]
      intro ref
      exact (hinv.watchers ref).trans (by simp)
    · intro h'
      rw [if_neg (show Wake.woken ≠ .owed h' by simp), System.loopAt_setHandler hhandler']
      by_cases heq : h' = h
      · rw [if_pos heq]
        show watchers.count ch = 0
        omega
      · rw [if_neg heq, System.notify, if_neg htoken]
        exact (hinv.loop h').trans (by simp [Ne.symm heq])
  · have hafter : w.after ch (if ch₀ ∈ sys.tokens then none else some (.token ch₀ (some h)))
        = some w := by
      split
      · rfl
      · simp [Wake.after, Wake.next, Ne.symm hself]
    refine ⟨w, hafter, ?_⟩
    refine (hinv.notify hself).of_places rfl (fun _ => rfl) ?_ id
    intro h'
    rw [System.loopAt_setHandler hhandler']
    by_cases heq : h' = h
    · rw [if_pos heq, heq, System.loopAt_of_getElem? hhandler', hstage]
      exact (List.count_cons_of_ne (Ne.symm hself)).symm
    · rw [if_neg heq]

/-- A step of a handler. -/
theorem WakeInv.handle (hinv : WakeInv ch w sys) {h : Nat} (hstep : sys.handle h = some sys') :
    ∃ w', w.after ch (note sys (.handle h)) = some w' ∧ WakeInv ch w' sys' := by
  obtain ⟨handler, agent, hhandler, hagent, hhandled⟩ := System.handle_inv hstep
  cases hhandled with
  | noDescription hstage | findInitialConfig _ hstage =>
    refine ⟨w, by simp [Wake.after, note, hhandler, hstage], ?_⟩
    exact hinv.setHandler hhandler handler (by rw [hstage]; rfl) rfl
  | setGroup desc hstage =>
    refine ⟨w, by simp [Wake.after, note, hhandler, hstage], ?_⟩
    have hset : WakeInv ch w (sys.setAgent handler.agent (agent.setGroup desc).1) :=
      hinv.setAgent hagent rfl
    exact hset.setHandler hhandler handler (by rw [hstage]; rfl) rfl
  | setInitialConfig config hstage =>
    refine ⟨w, by simp [Wake.after, note, hhandler, hstage], ?_⟩
    have hset : WakeInv ch w (sys.setAgent handler.agent (agent.setInitialConfig config)) :=
      hinv.setAgent hagent (by cases config <;> rfl)
    exact hset.setHandler hhandler handler (by rw [hstage]; rfl) rfl
  | updateStatus agent' response watchers hstage hupdate =>
    have hnote : note sys (.handle h) = some (.updateStatus h handler.agent) := by
      simp [note, hhandler, hstage]
    rw [hnote]
    refine ⟨_, rfl, ?_⟩
    obtain ⟨⟨startedAt, effectiveConfig, rfl⟩, rfl, -⟩ := Agent.updateStatus_ok hupdate
    exact hinv.updateStatus hhandler hstage hagent rfl
  | notify ch₀ watchers hstage =>
    have hnote : note sys (.handle h)
        = if ch₀ ∈ sys.tokens then none else some (.token ch₀ (some h)) := by
      simp [note, hhandler, hstage]
    rw [hnote]
    exact hinv.notifyWatcher hhandler hstage
  | notified hstage =>
    refine ⟨w, by simp [Wake.after, note, hhandler, hstage], ?_⟩
    exact hinv.setHandler hhandler _ (by rw [hstage]; rfl) rfl
  | persistAgent hstage =>
    refine ⟨w, by simp [Wake.after, note, hhandler, hstage], ?_⟩
    obtain ⟨groupID, hpersist⟩ := persistAgent_fst_frame handler.env sys.store agent handler.msg
    have hset : WakeInv ch w (sys.setAgent handler.agent
        (persistAgent handler.env sys.store agent handler.msg).1) :=
      hinv.setAgent hagent (by rw [hpersist])
    have hstore : WakeInv ch w ({ sys with
        store := (persistAgent handler.env sys.store agent handler.msg).2 }.setAgent handler.agent
          (persistAgent handler.env sys.store agent handler.msg).1) :=
      hset.of_places rfl (fun _ => rfl) (fun _ => rfl) id
    exact hstore.setHandler hhandler handler (by rw [hstage]; rfl) rfl

/-- A new entry that reads as no entry. -/
theorem elim_getElem?_concat {α β : Type} (f : α → β) {b : β} (l : List α) {a : α}
    (hnew : f a = b) (i : Nat) : ((l ++ [a])[i]?).elim b f = (l[i]?).elim b f := by
  rw [List.getElem?_append]
  split
  · rfl
  · rw [List.getElem?_eq_none (l := l) (by omega)]
    cases hget : [a][i - l.length]? with
    | none => rfl
    | some a' =>
      rw [List.mem_singleton.mp (List.mem_of_getElem? hget)]
      exact hnew

/-- A new handler, perhaps with a new agent. -/
theorem WakeInv.onMessage (hinv : WakeInv ch w sys) {env : Env} {conn : Conn}
    {msg : AgentToServer} (h : System.onMessage env conn msg sys = some sys') :
    WakeInv ch w sys' := by
  obtain ⟨instanceId, -, ⟨ref, -, rfl⟩ | ⟨-, connections, rfl⟩⟩ := System.onMessage_inv h
  · refine hinv.of_places rfl (fun _ => rfl) ?_ id
    intro h'
    exact congrArg (List.count ch) (elim_getElem?_concat
      (fun handler : Handler => handler.stage.watchers) sys.handlers rfl h')
  · refine hinv.of_places rfl ?_ ?_ id
    · intro ref'
      exact congrArg (List.count ch) (elim_getElem?_concat
        Agent.statusUpdateWatchers sys.heap rfl ref')
    · intro h'
      exact congrArg (List.count ch) (elim_getElem?_concat
      (fun handler : Handler => handler.stage.watchers) sys.handlers rfl h')

/-- A new push. Its channel is idle. -/
theorem WakeInv.sendConfigToAgent (hinv : WakeInv ch w sys) (agentId : UUID)
    (configContent : Bytes) :
    WakeInv ch w { sys with calls := sys.calls ++ [{ agentId, configContent }] } := by
  have hstage : ∀ stage, System.stageAt
      { sys with calls := sys.calls ++ [{ agentId, configContent }] } ch = some stage ↔
        (ch = sys.calls.length ∧ stage = .findAgent) ∨ sys.stageAt ch = some stage := by
    intro stage
    simp only [System.stageAt, Option.map_eq_some_iff, getElem?_concat_iff]
    constructor
    · rintro ⟨call, ⟨rfl, rfl⟩ | hcall, rfl⟩
      · exact .inl ⟨rfl, rfl⟩
      · exact .inr ⟨call, hcall, rfl⟩
    · rintro (⟨rfl, rfl⟩ | ⟨call, hcall, rfl⟩)
      · exact ⟨_, .inl ⟨rfl, rfl⟩, rfl⟩
      · exact ⟨call, .inr hcall, rfl⟩
  refine ⟨?_, ?_, hinv.watchers, hinv.loop, hinv.tokens⟩
  · intro hw
    obtain ⟨stage, hget, hreg⟩ := hinv.registered hw
    exact ⟨stage, (hstage stage).mpr (.inr hget), hreg⟩
  · rw [hstage, ← hinv.notifyNow]
    simp

/-- Every step follows the rule and keeps the channel where the rule says. -/
theorem WakeInv.step (hinv : WakeInv ch w sys) (hsynced : ∀ agent ∈ sys.heap, agent.Synced)
    {e : Event} (h : sys.step e = some sys') :
    ∃ w', w.after ch (note sys e) = some w' ∧ WakeInv ch w' sys' := by
  cases e with
  | message env conn msg => exact ⟨w, rfl, hinv.onMessage h⟩
  | handle i => exact hinv.handle h
  | disconnect env conn =>
    cases h
    exact ⟨w, rfl, hinv.of_places rfl (fun _ => rfl) (fun _ => rfl) id⟩
  | sendConfigToAgent agentId configContent =>
    cases h
    exact ⟨w, rfl, hinv.sendConfigToAgent agentId configContent⟩
  | advance ch₀ => exact hinv.advance hsynced h
  | sent ch₀ err =>
    have hsent : sys.sent ch₀ err = some sys' := h
    obtain ⟨call, ref, msg, hcall, hstage, rfl⟩ := System.sent_inv hsent
    refine ⟨w, rfl, hinv.setCall hcall ?_⟩
    intro _
    rw [hstage]
    exact ⟨by simp, by simp, fun _ => rfl⟩
  | timeout ch₀ =>
    -- The channel of a push that gives up stays where it is.
    obtain ⟨call, hcall, hstage, rfl⟩ := System.timeout_inv h
    refine ⟨w, rfl, hinv.setCall hcall ?_⟩
    intro _
    rw [hstage]
    exact ⟨by simp, by simp, fun _ => rfl⟩
  | write store =>
    cases h
    exact ⟨w, rfl, hinv.of_places rfl (fun _ => rfl) (fun _ => rfl) id⟩

end Step

/-! ### The references -/

/-- The registry and the handlers refer to agents in the heap. -/
structure System.RefsInHeap (sys : System) : Prop where
  agentsById : ∀ agentId ref, sys.agentsById.lookup agentId = some ref → ref < sys.heap.length
  handlers : ∀ handler ∈ sys.handlers, handler.agent < sys.heap.length

namespace System.RefsInHeap

variable {sys sys' : System}

/-- A step that keeps the registry and the handlers. The heap never shrinks. -/
theorem of_eq (hrefs : sys.RefsInHeap) (hagents : sys'.agentsById = sys.agentsById)
    (hhandlers : sys'.handlers = sys.handlers) (hheap : sys'.heap.length = sys.heap.length) :
    sys'.RefsInHeap where
  agentsById := by
    rw [hagents, hheap]
    exact hrefs.agentsById
  handlers := by
    rw [hhandlers, hheap]
    exact hrefs.handlers

/-- A step of a handler stays with its agent. -/
theorem setHandler (hrefs : sys.RefsInHeap) {h : Nat} {handler₀ handler : Handler}
    (hhandler : sys.handlers[h]? = some handler₀) (hagent : handler.agent = handler₀.agent)
    (stage : Handler.Stage) : (sys.setHandler h handler stage).RefsInHeap where
  agentsById := hrefs.agentsById
  handlers := by
    intro handler' hmem
    rcases List.mem_or_eq_of_mem_set hmem with hmem | rfl
    · exact hrefs.handlers handler' hmem
    · show handler.agent < sys.heap.length
      rw [hagent]
      exact hrefs.handlers handler₀ (List.mem_of_getElem? hhandler)

theorem setAgent (hrefs : sys.RefsInHeap) (ref : Ref) (agent : Agent) :
    (sys.setAgent ref agent).RefsInHeap :=
  hrefs.of_eq rfl rfl List.length_set

theorem notify (hrefs : sys.RefsInHeap) (ch : ChanId) : (sys.notify ch).RefsInHeap := by
  obtain ⟨tokens, heq, -⟩ := sys.notify_frame ch
  rw [heq]
  exact hrefs.of_eq rfl rfl rfl

/-- A step of a handler. -/
theorem handle (hrefs : sys.RefsInHeap) {h : Nat} (hstep : sys.handle h = some sys') :
    sys'.RefsInHeap := by
  obtain ⟨handler, agent, hhandler, hagent, hhandled⟩ := System.handle_inv hstep
  cases hhandled with
  | noDescription | findInitialConfig | notified =>
    refine hrefs.setHandler hhandler ?_ _
    rfl
  | setGroup | setInitialConfig | updateStatus =>
    refine (hrefs.setAgent _ _).setHandler hhandler ?_ _
    rfl
  | notify ch watchers =>
    have hhandler' : (sys.notify ch).handlers[h]? = some handler := by
      obtain ⟨tokens, heq, -⟩ := sys.notify_frame ch
      rw [heq]
      exact hhandler
    exact (hrefs.notify ch).setHandler hhandler' rfl _
  | persistAgent =>
    have hstore : System.RefsInHeap { sys with
        store := (persistAgent handler.env sys.store agent handler.msg).2 } :=
      hrefs.of_eq rfl rfl rfl
    exact (hstore.setAgent _ _).setHandler hhandler rfl _

/-- A step of a push. -/
theorem advance (hrefs : sys.RefsInHeap) {ch : ChanId} (hstep : sys.advance ch = some sys') :
    sys'.RefsInHeap := by
  obtain ⟨call, -, hadvanced⟩ := System.advance_inv hstep
  cases hadvanced with
  | setCustomConfig => exact (hrefs.setAgent _ _).of_eq rfl rfl rfl
  | notifyNow => exact (hrefs.notify ch).of_eq rfl rfl rfl
  | _ => exact hrefs.of_eq rfl rfl rfl

/-- A new handler works on the registered agent. -/
theorem onMessage (hrefs : sys.RefsInHeap) {env : Env} {conn : Conn} {msg : AgentToServer}
    (h : sys.onMessage env conn msg = some sys') : sys'.RefsInHeap := by
  obtain ⟨instanceId, -, ⟨ref, hfind, rfl⟩ | ⟨-, connections, rfl⟩⟩ := System.onMessage_inv h
  · refine ⟨hrefs.agentsById, ?_⟩
    intro handler hmem
    rcases List.mem_append.mp hmem with hmem | hnew
    · exact hrefs.handlers handler hmem
    · rw [List.mem_singleton.mp hnew]
      exact hrefs.agentsById instanceId ref hfind
  · refine ⟨?_, ?_⟩
    · intro agentId ref hfind
      show ref < (sys.heap ++ [newAgent instanceId conn]).length
      rw [List.length_append, List.length_singleton]
      rw [GoMap.lookup_insert_eq] at hfind
      split at hfind
      · cases hfind
        exact Nat.lt_succ_self _
      · exact Nat.lt_succ_of_lt (hrefs.agentsById agentId ref hfind)
    · intro handler hmem
      show handler.agent < (sys.heap ++ [newAgent instanceId conn]).length
      rw [List.length_append, List.length_singleton]
      rcases List.mem_append.mp hmem with hmem | hnew
      · exact Nat.lt_succ_of_lt (hrefs.handlers handler hmem)
      · rw [List.mem_singleton.mp hnew]
        exact Nat.lt_succ_self _

/-- Every step keeps the references in the heap. -/
theorem step (hrefs : sys.RefsInHeap) {e : Event} (h : sys.step e = some sys') :
    sys'.RefsInHeap := by
  cases e with
  | message env conn msg => exact hrefs.onMessage h
  | handle i => exact hrefs.handle h
  | disconnect env conn =>
    cases h
    refine ⟨?_, hrefs.handlers⟩
    intro agentId ref hfind
    have herased := GoMap.lookup_eraseAll sys.agentsById
      ((sys.connections.lookup conn).getD ∅).keys agentId
    rw [show (sys.onDisconnect env conn).agentsById
      = sys.agentsById.eraseAll ((sys.connections.lookup conn).getD ∅).keys from rfl,
      herased] at hfind
    split at hfind
    · cases hfind
    · exact hrefs.agentsById agentId ref hfind
  | sendConfigToAgent agentId configContent =>
    cases h
    exact hrefs.of_eq rfl rfl rfl
  | advance ch => exact hrefs.advance h
  | sent ch err =>
    have hsent : sys.sent ch err = some sys' := h
    obtain ⟨_, _, _, _, _, rfl⟩ := System.sent_inv hsent
    exact hrefs.of_eq rfl rfl rfl
  | timeout ch =>
    obtain ⟨_, _, _, rfl⟩ := System.timeout_inv h
    exact hrefs.of_eq rfl rfl rfl
  | write store =>
    cases h
    exact hrefs.of_eq rfl rfl rfl

end System.RefsInHeap

/-! ### Runs -/

/-- What is still to come for the channel `ch`:

- `held`: the next step of its push puts the token, and nothing stops this step;
- `waiting`: the agent has the channel among its watchers, for the next `UpdateStatus`;
- `owed`: the handler is in its loop and has the channel left, no step of the loop is stopped,
  and the buffer has room for the token. -/
def Wake.Due (ch : ChanId) (sys : System) : Wake → Prop
  | .idle => True
  | .held => (sys.advance ch).isSome ∧ note sys (.advance ch) = some (.token ch none)
  | .waiting ref => ∃ agent, sys.heap[ref]? = some agent ∧ ch ∈ agent.statusUpdateWatchers
  | .owed h => ∃ handler watchers, sys.handlers[h]? = some handler ∧
      handler.stage = .notifyStatusWatchers watchers ∧ ch ∈ watchers ∧ (sys.handle h).isSome ∧
      ch ∉ sys.tokens
  | .woken => True

/-- The invariant says what is still to come. -/
theorem WakeInv.due {sys : System} {ch : ChanId} {w : Wake} (hinv : WakeInv ch w sys)
    (hrefs : sys.RefsInHeap) : w.Due ch sys := by
  have htokens : w ≠ .woken → ch ∉ sys.tokens := fun hw hmem => hw (hinv.tokens hmem)
  cases w with
  | idle => trivial
  | held =>
    obtain ⟨call, hcall, hstage⟩ := Option.map_eq_some_iff.mp (hinv.notifyNow.mpr rfl)
    have hempty := htokens (by simp)
    constructor
    · simp [System.advance, hcall, hstage, hempty]
    · simp [note, hcall, hstage, hempty]
  | waiting ref =>
    have hcount := hinv.watchers ref
    rw [if_pos rfl] at hcount
    have hmem : ch ∈ sys.watchersAt ref := List.count_pos_iff.mp (by omega)
    cases hagent : sys.heap[ref]? with
    | none =>
      rw [System.watchersAt, hagent] at hmem
      cases hmem
    | some agent =>
      rw [System.watchersAt_of_getElem? hagent] at hmem
      exact ⟨agent, hagent, hmem⟩
  | owed h =>
    have hcount := hinv.loop h
    rw [if_pos rfl] at hcount
    have hmem : ch ∈ sys.loopAt h := List.count_pos_iff.mp (by omega)
    cases hhandler : sys.handlers[h]? with
    | none =>
      rw [System.loopAt, hhandler] at hmem
      cases hmem
    | some handler =>
      rw [System.loopAt_of_getElem? hhandler] at hmem
      have hlt := hrefs.handlers handler (List.mem_of_getElem? hhandler)
      have hagent := List.getElem?_eq_getElem hlt
      cases hstage : handler.stage with
      | notifyStatusWatchers watchers =>
        rw [hstage] at hmem
        refine ⟨handler, watchers, hhandler, hstage, hmem, ?_, htokens (by simp)⟩
        cases watchers with
        | nil => cases hmem
        | cons ch₀ watchers => simp [System.handle, hhandler, hagent, hstage]
      | _ =>
        rw [hstage] at hmem
        cases hmem
  | woken => trivial

end OtelHive.Opamp.Concurrent
