import OtelHive.Proofs.Hex
import OtelHive.Proofs.Opamp.Deliveries
import OtelHive.Proofs.Opamp.WakeUps

/-!
# `OtelHive.Proofs.Opamp.GroupPush`: whom a group push counts

A group push clones the registry and calls `SendConfigToAgent` for one agent of the group after
the other. Reports come in while it runs, and its calls time out or not. `PushOrReport` is the
condition that nothing else happens.

`HeapInv` is about the agents: the push enters a section of those of the group, and the others
change by their own reports. `PushInv` is about the push: the agents that it has counted are
those of the group among the clones that it has visited. `groupPush_partitions` reads the result
off the two. `exists_pushStep` shows that the push is never stuck, and that its own steps bring
it nearer to its end.
-/

set_option autoImplicit false

namespace OtelHive.Opamp

open OtelHive.Lib

/-- The error is one of the agent: its text begins with the id. -/
def namesAgent (id : UUID) (err : String) : Bool :=
  ("agent " ++ id.toString ++ ": ").toList.isPrefixOf err.toList

/-- An error of a group operation names its agent and no other. -/
theorem namesAgent_iff (id agentId : UUID) (err : String) :
    namesAgent id ("agent " ++ agentId.toString ++ ": " ++ err) = true ↔ agentId = id := by
  unfold namesAgent
  rw [List.isPrefixOf_iff_prefix]
  simp only [String.toList_append, List.append_assoc]
  rw [List.prefix_append_right_inj]
  constructor
  · rintro ⟨rest, heq⟩
    -- Both texts end at the first colon.
    have htext : ∀ (a : UUID) (l : List Char),
        (a.toString.toList ++ ':' :: l).takeWhile (· ≠ ':') = a.toString.toList := by
      intro a l
      rw [List.takeWhile_append_of_pos, List.takeWhile_cons_of_neg (by simp), List.append_nil]
      intro c hc
      have hne : c ≠ ':' := fun h => a.colon_notMem_toString (h ▸ hc)
      simpa using hne
    have hwhile := congrArg (List.takeWhile (· ≠ ':')) heq
    rw [List.append_assoc] at hwhile
    exact UUID.toString_injective
      ((htext agentId _).symm.trans (hwhile.symm.trans (htext id _)))
  · rintro rfl
    rw [← List.append_assoc]
    exact List.prefix_append _ _

/-- A section of a report without a description: that of `UpdateStatus`, or a write of the group
that the agent has. -/
def Agent.Section.ofReport (agent : Agent) : Agent.Section → Prop
  | .updateStatus _ _ => True
  | .setGroupID groupID => groupID = agent.groupID
  | _ => False

instance (agent : Agent) : (sec : Agent.Section) → Decidable (sec.ofReport agent)
  | .updateStatus _ _ => .isTrue trivial
  | .setGroupID groupID => inferInstanceAs (Decidable (groupID = agent.groupID))
  | .setGroup _ => .isFalse id
  | .setInitialConfig _ => .isFalse id
  | .setCustomConfig _ _ => .isFalse id

/-- A section that never sets a config. -/
def Agent.Section.isReport : Agent.Section → Bool
  | .updateStatus _ _ => true
  | .setGroupID _ => true
  | _ => false

/-- A section of a report keeps the group of its agent. -/
theorem Agent.Section.ofReport.keepsGroup {agent agent' : Agent} {sec : Agent.Section}
    (h : sec.ofReport agent) (henter : agent.enter sec = some agent') :
    sec.isReport = true ∧ agent'.groupID = agent.groupID := by
  cases sec with
  | updateStatus x509 msg =>
    obtain ⟨response, watchers, hupdate⟩ := Agent.enter_updateStatus.mp henter
    obtain ⟨⟨startedAt, effectiveConfig, rfl⟩, -⟩ := Agent.updateStatus_ok hupdate
    exact ⟨rfl, rfl⟩
  | setGroupID groupID =>
    cases henter
    exact ⟨rfl, h⟩
  | _ => exact h.elim

/-- A step of a report: it arrives from a registered agent, or its handler goes on. -/
def Concurrent.System.Reports (sys : Concurrent.System) : Concurrent.Event → Prop
  | .message _ _ msg =>
    match UUID.ofSlice msg.instanceUid with
    | .ok id => (sys.agentsById.lookup id).isSome = true
    | .error _ => False
  | .handle h => ∀ x ∈ sys.sectionOf (.handle h), ∀ agent ∈ sys.heap[x.1]?, x.2.ofReport agent
  | _ => False

instance (sys : Concurrent.System) : (e : Concurrent.Event) → Decidable (sys.Reports e)
  | .message _ _ msg =>
    match h : UUID.ofSlice msg.instanceUid with
    | .ok id => decidable_of_iff ((sys.agentsById.lookup id).isSome = true)
        (by simp only [Concurrent.System.Reports, h])
    | .error _ => .isFalse (by simp only [Concurrent.System.Reports, h]; exact id)
  | .handle h => decidable_of_iff (∀ x ∈ sys.sectionOf (.handle h),
      ∀ agent ∈ sys.heap[x.1]?, x.2.ofReport agent) Iff.rfl
  | .disconnect _ _ => .isFalse id
  | .sendConfigToAgent _ _ => .isFalse id
  | .advance _ => .isFalse id
  | .sent _ _ => .isFalse id
  | .timeout _ => .isFalse id
  | .write _ => .isFalse id

namespace Deliveries

open Concurrent (System Call)

namespace Process

/-- The agent is registered, and `groupId` is its group. -/
def InGroup (p : Process) (groupId : String) (id : UUID) : Prop :=
  ∃ ref agent, p.server.agentsById.lookup id = some ref ∧ p.server.heap[ref]? = some agent ∧
    agent.groupID = some groupId

/-- The call of `SendConfigToAgent` that the group push `g` waits for. -/
def openCall (p : Process) (g : Nat) : Option ChanId := do
  let push ← p.groupPushes[g]?
  match push.stage with
  | .sendConfigToAgent _ ch _ => some ch
  | _ => none

/-- A step while the group push `g` runs: of the push, of the call that it waits for, or of a
report. -/
def PushOrReport (g : Nat) (p : Process) : Event → Prop
  | .advanceGroupPush g' => g' = g
  | .server (.advance ch) => p.openCall g = some ch
  | .server (.sent ch _) => p.openCall g = some ch
  | .server (.timeout ch) => p.openCall g = some ch
  | .server e => p.server.Reports e
  | _ => False

instance (g : Nat) (p : Process) : (e : Event) → Decidable (PushOrReport g p e)
  | .advanceGroupPush g' => inferInstanceAs (Decidable (g' = g))
  | .server (.advance ch) => inferInstanceAs (Decidable (p.openCall g = some ch))
  | .server (.sent ch _) => inferInstanceAs (Decidable (p.openCall g = some ch))
  | .server (.timeout ch) => inferInstanceAs (Decidable (p.openCall g = some ch))
  | .server (.message env conn msg) =>
    inferInstanceAs (Decidable (p.server.Reports (.message env conn msg)))
  | .server (.handle h) => inferInstanceAs (Decidable (p.server.Reports (.handle h)))
  | .server (.disconnect _ _) => .isFalse id
  | .server (.sendConfigToAgent _ _) => .isFalse id
  | .server (.write _) => .isFalse id
  | .updateConfig _ _ => .isFalse id
  | .advanceUpdate _ => .isFalse id
  | .sendConfigToAgentsInGroup _ _ _ _ => .isFalse id

/-- The section that a step runs, with the place of its agent. -/
def sectionOf (p : Process) : Event → Option (Ref × Agent.Section)
  | .server e => p.server.sectionOf e
  | .advanceUpdate u => do
    let update ← p.updates[u]?
    match update.stage with
    | .setCustomConfig ref =>
      let sec := .setCustomConfig (.single defaultOTelConfig) update.notifyNextStatusUpdate
      some (ref, sec)
    | _ => none
  | _ => none

/-- Write down the section of a step. -/
def logSection (sections : List (Ref × Agent.Section)) (p : Process) (e : Event) :
    List (Ref × Agent.Section) :=
  sections ++ (p.sectionOf e).toList

end Process

/-- The sections of one agent. -/
def sectionsAt (ref : Ref) (sections : List (Ref × Agent.Section)) : List Agent.Section :=
  sections.filterMap fun x => if x.1 = ref then some x.2 else none

theorem sectionsAt_append (ref : Ref) (a b : List (Ref × Agent.Section)) :
    sectionsAt ref (a ++ b) = sectionsAt ref a ++ sectionsAt ref b :=
  List.filterMap_append

/-! ### The agents -/

/-- What a group push and the reports do to the agents, from the process `p₀` on:

- `registry`: the registry stays;
- `length`: no agent is new;
- `agents`: each agent is as its sections leave it, and its group stays;
- `others`: an agent that is not one of the group has sections of its reports only. -/
structure HeapInv (p₀ : Process) (groupId : String) (p : Process)
    (sections : List (Ref × Agent.Section)) : Prop where
  registry : p.server.agentsById = p₀.server.agentsById
  length : p.server.heap.length = p₀.server.heap.length
  agents : ∀ ref agent₀, p₀.server.heap[ref]? = some agent₀ →
    ∃ agent, p.server.heap[ref]? = some agent ∧ agent.groupID = agent₀.groupID ∧
      run Agent.enter agent₀ (sectionsAt ref sections) = some agent
  others : ∀ ref, (∀ id, p₀.InGroup groupId id → p₀.server.agentsById.lookup id ≠ some ref) →
    ∀ sec ∈ sectionsAt ref sections, sec.isReport = true

section Heap

variable {p₀ p p' : Process} {groupId : String} {sections : List (Ref × Agent.Section)}

/-- A step without a section that leaves the registry and the heap. -/
theorem HeapInv.of_eq (hinv : HeapInv p₀ groupId p sections)
    (hregistry : p'.server.agentsById = p.server.agentsById)
    (hheap : p'.server.heap = p.server.heap) : HeapInv p₀ groupId p' sections where
  registry := hregistry.trans hinv.registry
  length := by rw [hheap, hinv.length]
  agents := by
    rw [hheap]
    exact hinv.agents
  others := hinv.others

/-- A section that keeps the group of its agent. -/
theorem HeapInv.section (hinv : HeapInv p₀ groupId p sections) {ref : Ref} {agent agent' : Agent}
    {sec : Agent.Section} (hagent : p.server.heap[ref]? = some agent)
    (henter : agent.enter sec = some agent') (hgroup : agent'.groupID = agent.groupID)
    (hothers : sec.isReport = true ∨
      ∃ id, p₀.InGroup groupId id ∧ p₀.server.agentsById.lookup id = some ref)
    (hregistry : p'.server.agentsById = p.server.agentsById)
    (hheap : p'.server.heap = p.server.heap.set ref agent') :
    HeapInv p₀ groupId p' (sections ++ [(ref, sec)]) where
  registry := hregistry.trans hinv.registry
  length := by rw [hheap, List.length_set, hinv.length]
  agents := by
    intro ref' agent₀ hagent₀
    obtain ⟨agent₁, hagent₁, hgroup₁, hrun⟩ := hinv.agents ref' agent₀ hagent₀
    rw [hheap, sectionsAt_append]
    by_cases heq : ref' = ref
    · subst heq
      rw [hagent] at hagent₁
      cases hagent₁
      refine ⟨agent', by rw [List.getElem?_set_self', hagent]; rfl, hgroup.trans hgroup₁, ?_⟩
      have hone : sectionsAt ref' [(ref', sec)] = [sec] := by simp [sectionsAt]
      rw [hone]
      exact run_append.mpr ⟨agent, hrun, run_cons_eq_some.mpr ⟨agent', henter, rfl⟩⟩
    · refine ⟨agent₁, by rw [List.getElem?_set_ne (Ne.symm heq), hagent₁], hgroup₁, ?_⟩
      have hnone : sectionsAt ref' [(ref, sec)] = [] := by
        simp [sectionsAt, Ne.symm heq]
      rw [hnone, List.append_nil]
      exact hrun
  others := by
    intro ref' hother sec' hsec'
    rw [sectionsAt_append] at hsec'
    rcases List.mem_append.mp hsec' with hsec' | hsec'
    · exact hinv.others ref' hother sec' hsec'
    · obtain ⟨x, hx, hsome⟩ := List.mem_filterMap.mp hsec'
      rw [List.mem_singleton.mp hx] at hsome
      split at hsome
      · rename_i heq
        cases hsome
        rcases hothers with hreport | ⟨id, hid, hlookup⟩
        · exact hreport
        · exact absurd (heq ▸ hlookup) (hother id hid)
      · cases hsome

end Heap

/-! ### The steps of the server -/

/-- A step of a handler leaves the registry and the calls alone. -/
theorem handle_frame {sys sys' : System} {h : Nat} (hstep : sys.handle h = some sys') :
    sys'.agentsById = sys.agentsById ∧ sys'.calls = sys.calls := by
  obtain ⟨handler, agent, -, -, hhandled⟩ := System.handle_inv hstep
  cases hhandled with
  | notify ch watchers =>
    obtain ⟨tokens, heq, -⟩ := sys.notify_frame ch
    rw [heq]
    exact ⟨rfl, rfl⟩
  | _ => exact ⟨rfl, rfl⟩

/-- The agent that a call of `SendConfigToAgent` has found and not yet pushed to. -/
def foundAgent : Call.Stage → Option Ref
  | .checkCapability ref => some ref
  | .setCustomConfig ref => some ref
  | _ => none

section Heap

variable {p₀ p : Process} {groupId : String} {sections : List (Ref × Agent.Section)}

/-- A step of the server whose section is one of a report, or of a push to the group. -/
theorem HeapInv.server (hinv : HeapInv p₀ groupId p sections) {e : Concurrent.Event}
    {server : System} (h : p.server.step e = some server)
    (hregistry : server.agentsById = p.server.agentsById)
    (hlength : server.heap.length = p.server.heap.length)
    (hsection : ∀ ref sec agent agent', p.server.sectionOf e = some (ref, sec) →
      p.server.heap[ref]? = some agent → agent.enter sec = some agent' →
        agent'.groupID = agent.groupID ∧ (sec.isReport = true ∨
          ∃ id, p₀.InGroup groupId id ∧ p₀.server.agentsById.lookup id = some ref)) :
    HeapInv p₀ groupId { p with server } (Process.logSection sections p (.server e)) := by
  have hlog : Process.logSection sections p (.server e)
      = sections ++ (p.server.sectionOf e).toList := rfl
  rcases System.heap_sectionOf h with
    ⟨hnone, hheap | ⟨id, conn, hheap⟩⟩ | ⟨ref, sec, agent, agent', hsome, hagent, henter, hheap⟩
  · rw [hlog, hnone, Option.toList_none, List.append_nil]
    exact hinv.of_eq hregistry hheap
  · rw [hheap, List.length_append, List.length_singleton] at hlength
    omega
  · rw [hlog, hsome, Option.toList_some]
    obtain ⟨hgroup, hothers⟩ := hsection ref sec agent agent' hsome hagent henter
    exact hinv.section hagent henter hgroup hothers hregistry hheap

/-- A step of a report. -/
theorem HeapInv.reports (hinv : HeapInv p₀ groupId p sections) {e : Concurrent.Event}
    {server : System} (hreports : p.server.Reports e) (h : p.server.step e = some server) :
    HeapInv p₀ groupId { p with server } (Process.logSection sections p (.server e)) ∧
      server.calls = p.server.calls := by
  cases e with
  | message env conn msg =>
    obtain ⟨instanceId, hid, ⟨ref, hfind, rfl⟩ | ⟨hfind, connections, rfl⟩⟩ :=
      System.onMessage_inv h
    · refine ⟨hinv.server h rfl rfl ?_, rfl⟩
      intro ref sec agent agent' hsome
      cases hsome
    · -- The agent is registered.
      simp only [System.Reports, hid, hfind] at hreports
      cases hreports
  | handle i =>
    have hstep : p.server.handle i = some server := h
    obtain ⟨hregistry, hcalls⟩ := handle_frame hstep
    have hlength : server.heap.length = p.server.heap.length := by
      obtain ⟨handler, agent, -, -, hhandled⟩ := System.handle_inv hstep
      cases hhandled with
      | notify ch watchers =>
        obtain ⟨tokens, heq, -⟩ := p.server.notify_frame ch
        rw [heq]
        rfl
      | noDescription | findInitialConfig | notified => rfl
      | _ => exact List.length_set
    refine ⟨hinv.server h hregistry hlength ?_, hcalls⟩
    intro ref sec agent agent' hsome hagent henter
    have hof : sec.ofReport agent := hreports (ref, sec) hsome agent hagent
    exact ⟨(hof.keepsGroup henter).2, .inl (hof.keepsGroup henter).1⟩
  | _ => exact hreports.elim

end Heap

/-! ### The push -/

/-- A call of `SendConfigToAgentsInGroup`, with the process before it. -/
structure GroupCall where
  before : Process
  cloneOrder : IterOrder (UUID × Ref)
  order : IterOrder (UUID × Option String)
  groupId : String
  configContent : Bytes

namespace GroupCall

/-- The event of the call. -/
def event (c : GroupCall) : Event :=
  .sendConfigToAgentsInGroup c.cloneOrder c.order c.groupId c.configContent

/-- The number of the push. -/
def index (c : GroupCall) : Nat := c.before.groupPushes.length

/-- What the loop reads of the clone of a registered agent. -/
def cloneOf (c : GroupCall) (entry : UUID × Ref) : UUID × Option String :=
  (entry.1, (c.before.server.heap[entry.2]?).bind (·.groupID))

/-- The registry in the order in which it is cloned. -/
def agents (c : GroupCall) : List (UUID × Ref) :=
  c.cloneOrder.visit c.before.server.agentsById.toList

/-- The clones in the order of the loop. -/
def visited (c : GroupCall) : List (UUID × Option String) :=
  c.order.visit (c.agents.map c.cloneOf)

/-- The agents of the group among the clones. -/
def members (c : GroupCall) (clones : List (UUID × Option String)) : List UUID :=
  (clones.filter (·.2 = some c.groupId)).map Prod.fst

end GroupCall

/-- The result counts each of the agents once, in their order. -/
def Counted (ids : List UUID) (result : ConfigSender.GroupResult) : Prop :=
  ∃ outcomes : List (UUID × Option String), outcomes.map Prod.fst = ids ∧
    result = outcomes.foldl (fun result o => result.add o.1 o.2) {}

theorem Counted.nil : Counted [] {} := ⟨[], rfl, rfl⟩

/-- One more agent. -/
theorem Counted.add {ids : List UUID} {result : ConfigSender.GroupResult}
    (h : Counted ids result) (agentId : UUID) (err : Option String) :
    Counted (ids ++ [agentId]) (result.add agentId err) := by
  obtain ⟨outcomes, hids, rfl⟩ := h
  exact ⟨outcomes ++ [(agentId, err)], by rw [List.map_append, hids]; rfl,
    by rw [List.foldl_append]; rfl⟩

/-- What the push has done at a stage, when `calls` are the calls of the server. -/
def StageInv (c : GroupCall) (calls : List Call) (result : ConfigSender.GroupResult) :
    GroupPush.Stage → Prop
  | .clone agents clones =>
    result = {} ∧ ∃ cloned, cloned ++ agents = c.agents ∧ clones = cloned.map c.cloneOf
  | .loop clones => ∃ seen, seen ++ clones = c.visited ∧ Counted (c.members seen) result
  | .sendConfigToAgent agentId ch clones =>
    ∃ seen, seen ++ (agentId, some c.groupId) :: clones = c.visited ∧
      Counted (c.members seen) result ∧ c.before.server.calls.length ≤ ch ∧
      ∃ call, calls[ch]? = some call ∧ call.agentId = agentId
  | .returned => Counted (c.members c.visited) result

/-- What holds between two steps of the push:

- `push`: it runs on the arguments of the call, and has counted what it has visited;
- `calls`: each new call is for an agent of the group, which it has from the registry;
- `length`: the calls before it are still there. -/
structure PushInv (c : GroupCall) (p : Process) : Prop where
  push : ∃ push, p.groupPushes[c.index]? = some push ∧ push.order = c.order ∧
    push.groupId = c.groupId ∧ push.configContent = c.configContent ∧
    StageInv c p.server.calls push.result push.stage
  calls : ∀ (ch : ChanId) (call : Call), c.before.server.calls.length ≤ ch →
    p.server.calls[ch]? = some call → c.before.InGroup c.groupId call.agentId ∧
      ∀ ref, foundAgent call.stage = some ref →
        c.before.server.agentsById.lookup call.agentId = some ref
  length : c.before.server.calls.length ≤ p.server.calls.length

section Push

variable {c : GroupCall} {p p' : Process}

/-- The agents of the group among the clones are those that are registered in it. -/
theorem mem_visited_iff (id : UUID) :
    (id, some c.groupId) ∈ c.visited ↔ c.before.InGroup c.groupId id := by
  rw [GroupCall.visited, (c.order.perm _).mem_iff, List.mem_map]
  constructor
  · rintro ⟨⟨id', ref⟩, hmem, heq⟩
    simp only [GroupCall.cloneOf, Prod.mk.injEq, Option.bind_eq_some_iff] at heq
    obtain ⟨rfl, agent, hagent, hgroup⟩ := heq
    rw [GroupCall.agents, (c.cloneOrder.perm _).mem_iff, GoMap.mem_toList_iff] at hmem
    exact ⟨ref, agent, hmem, hagent, hgroup⟩
  · rintro ⟨ref, agent, hlookup, hagent, hgroup⟩
    refine ⟨(id, ref), ?_, ?_⟩
    · rw [GroupCall.agents, (c.cloneOrder.perm _).mem_iff, GoMap.mem_toList_iff]
      exact hlookup
    · simp [GroupCall.cloneOf, hagent, hgroup]

/-- A step that leaves the push alone, and moves its open call at most. -/
theorem PushInv.of_push_eq (hinv : PushInv c p) (hpushes : p'.groupPushes = p.groupPushes)
    (hids : ∀ (ch : ChanId) (call : Call), p.server.calls[ch]? = some call →
      ∃ call', p'.server.calls[ch]? = some call' ∧ call'.agentId = call.agentId)
    (hcalls : ∀ (ch : ChanId) (call : Call), c.before.server.calls.length ≤ ch →
      p'.server.calls[ch]? = some call → c.before.InGroup c.groupId call.agentId ∧
        ∀ ref, foundAgent call.stage = some ref →
          c.before.server.agentsById.lookup call.agentId = some ref)
    (hlength : p'.server.calls.length = p.server.calls.length) : PushInv c p' where
  push := by
    obtain ⟨push, hpush, horder, hgroup, hcontent, hstage⟩ := hinv.push
    refine ⟨push, by rw [hpushes, hpush], horder, hgroup, hcontent, ?_⟩
    cases hpush : push.stage with
    | sendConfigToAgent agentId ch clones =>
      rw [hpush] at hstage
      obtain ⟨seen, hvisited, hcounted, hle, call, hcall, hid⟩ := hstage
      obtain ⟨call', hcall', hid'⟩ := hids ch call hcall
      exact ⟨seen, hvisited, hcounted, hle, call', hcall', hid'.trans hid⟩
    | _ =>
      rw [hpush] at hstage
      exact hstage
  calls := hcalls
  length := by rw [hlength]; exact hinv.length

/-- A step that leaves the push and the calls alone. -/
theorem PushInv.of_calls_eq (hinv : PushInv c p) (hpushes : p'.groupPushes = p.groupPushes)
    (hcalls : p'.server.calls = p.server.calls) : PushInv c p' := by
  refine hinv.of_push_eq hpushes ?_ ?_ (by rw [hcalls])
  · intro ch call hcall
    exact ⟨call, by rw [hcalls, hcall], rfl⟩
  · rw [hcalls]
    exact hinv.calls

/-- A step of one call. -/
theorem PushInv.of_calls_set (hinv : PushInv c p) (hpushes : p'.groupPushes = p.groupPushes)
    {ch : ChanId} {call : Call} {stage : Call.Stage} (hcall : p.server.calls[ch]? = some call)
    (hcalls : p'.server.calls = p.server.calls.set ch { call with stage })
    (hfound : ∀ ref, foundAgent stage = some ref →
      c.before.server.agentsById.lookup call.agentId = some ref ∨
        foundAgent call.stage = some ref) : PushInv c p' := by
  have hself : p'.server.calls[ch]? = some { call with stage } := by
    rw [hcalls, List.getElem?_set_self', hcall]
    rfl
  have hother : ∀ ch', ch' ≠ ch → p'.server.calls[ch']? = p.server.calls[ch']? := by
    intro ch' hne
    rw [hcalls, List.getElem?_set_ne (Ne.symm hne)]
  refine hinv.of_push_eq hpushes ?_ ?_ (by rw [hcalls, List.length_set])
  · intro ch' call' hcall'
    by_cases heq : ch' = ch
    · subst heq
      rw [hcall] at hcall'
      cases hcall'
      exact ⟨_, hself, rfl⟩
    · exact ⟨call', (hother ch' heq).trans hcall', rfl⟩
  · intro ch' call' hle hcall'
    by_cases heq : ch' = ch
    · subst heq
      rw [hself] at hcall'
      cases hcall'
      obtain ⟨hmember, hlookup⟩ := hinv.calls ch' call hle hcall
      refine ⟨hmember, ?_⟩
      intro ref href
      rcases hfound ref href with hfind | hfound
      · exact hfind
      · exact hlookup ref hfound
    · rw [hother ch' heq] at hcall'
      exact hinv.calls ch' call' hle hcall'

/-- A push that goes on to a stage, and leaves the server alone. -/
theorem PushInv.setGroupPush (hinv : PushInv c p) {push : GroupPush}
    (hpush : p.groupPushes[c.index]? = some push) {push' : GroupPush}
    (hsame : push'.order = push.order ∧ push'.groupId = push.groupId ∧
      push'.configContent = push.configContent) {stage : GroupPush.Stage}
    (hstage : StageInv c p.server.calls push'.result stage) :
    PushInv c (p.setGroupPush c.index push' stage) where
  push := by
    obtain ⟨push₀, hpush₀, horder, hgroup, hcontent, -⟩ := hinv.push
    rw [hpush] at hpush₀
    cases hpush₀
    refine ⟨{ push' with stage }, ?_, hsame.1.trans horder, hsame.2.1.trans hgroup,
      hsame.2.2.trans hcontent, hstage⟩
    show (p.groupPushes.set c.index { push' with stage })[c.index]? = _
    rw [List.getElem?_set_self', hpush]
    rfl
  calls := hinv.calls
  length := hinv.length

/-- The push calls `SendConfigToAgent` for the next agent of the group. -/
theorem PushInv.sendConfigToAgent (hinv : PushInv c p) {push : GroupPush} {agentId : UUID}
    {clones : List (UUID × Option String)} (hpush : p.groupPushes[c.index]? = some push)
    (hloop : push.stage = .loop ((agentId, some c.groupId) :: clones)) :
    PushInv c (Process.setGroupPush { p with server := { p.server with
      calls := p.server.calls ++ [{ agentId, configContent := push.configContent }] } }
        c.index push (.sendConfigToAgent agentId p.server.calls.length clones)) := by
  obtain ⟨push₀, hpush₀, -, -, -, hstage⟩ := hinv.push
  rw [hpush] at hpush₀
  cases hpush₀
  rw [hloop] at hstage
  obtain ⟨seen, hvisited, hcounted⟩ := hstage
  -- The agent is one of the group, as the loop has it from the clones.
  have hmember : c.before.InGroup c.groupId agentId := by
    rw [← mem_visited_iff, ← hvisited]
    exact List.mem_append_right _ List.mem_cons_self
  have hcalls : PushInv c { p with server := { p.server with
      calls := p.server.calls ++ [{ agentId, configContent := push.configContent }] } } := by
    refine ⟨?_, ?_, ?_⟩
    · obtain ⟨push₀, hpush₀, horder, hgroup, hcontent, -⟩ := hinv.push
      rw [hpush] at hpush₀
      cases hpush₀
      refine ⟨push, hpush, horder, hgroup, hcontent, ?_⟩
      rw [hloop]
      exact ⟨seen, hvisited, hcounted⟩
    · intro ch call hle hcall
      rcases getElem?_concat_iff.mp hcall with ⟨-, rfl⟩ | hcall
      · exact ⟨hmember, fun ref h => by cases h⟩
      · exact hinv.calls ch call hle hcall
    · show c.before.server.calls.length ≤ (p.server.calls ++ [_]).length
      rw [List.length_append]
      exact Nat.le_add_right_of_le hinv.length
  refine hcalls.setGroupPush hpush ⟨rfl, rfl, rfl⟩ ⟨seen, hvisited, hcounted, hinv.length, ?_⟩
  exact ⟨_, getElem?_concat_iff.mpr (.inl ⟨rfl, rfl⟩), rfl⟩

/-- The push clones the next agent. -/
theorem PushInv.clone (hinv : PushInv c p) {sections : List (Ref × Agent.Section)}
    (hheap : HeapInv c.before c.groupId p sections) {push : GroupPush} {agentId : UUID} {ref : Ref}
    {agents : List (UUID × Ref)} {clones : List (UUID × Option String)}
    (hpush : p.groupPushes[c.index]? = some push)
    (hclone : push.stage = .clone ((agentId, ref) :: agents) clones) {agent : Agent}
    (hagent : p.server.heap[ref]? = some agent) :
    PushInv c (p.setGroupPush c.index push
      (.clone agents (clones ++ [(agentId, agent.groupID)]))) := by
  obtain ⟨push₀, hpush₀, -, -, -, hstage⟩ := hinv.push
  rw [hpush] at hpush₀
  cases hpush₀
  rw [hclone] at hstage
  obtain ⟨hresult, cloned, hagents, rfl⟩ := hstage
  refine hinv.setGroupPush hpush ⟨rfl, rfl, rfl⟩ ⟨hresult, cloned ++ [(agentId, ref)], ?_, ?_⟩
  · rw [List.append_assoc, List.singleton_append, hagents]
  -- The clone has the group that the agent had before the push.
  · have hlt : ref < c.before.server.heap.length := by
      rw [← hheap.length]
      exact lt_length_of_getElem? hagent
    obtain ⟨agent', hagent', hgroup', -⟩ := hheap.agents ref _ (List.getElem?_eq_getElem hlt)
    rw [hagent] at hagent'
    cases hagent'
    have hcopy : c.cloneOf (agentId, ref) = (agentId, agent.groupID) := by
      rw [GroupCall.cloneOf, List.getElem?_eq_getElem hlt, Option.bind_some, hgroup']
    rw [List.map_append, List.map_singleton, hcopy]

/-- The push skips a clone of another group. -/
theorem PushInv.skip (hinv : PushInv c p) {push : GroupPush} {agentId : UUID}
    {groupID : Option String} {clones : List (UUID × Option String)}
    (hpush : p.groupPushes[c.index]? = some push)
    (hloop : push.stage = .loop ((agentId, groupID) :: clones))
    (hother : groupID ≠ some c.groupId) :
    PushInv c (p.setGroupPush c.index push (.loop clones)) := by
  obtain ⟨push₀, hpush₀, -, -, -, hstage⟩ := hinv.push
  rw [hpush] at hpush₀
  cases hpush₀
  rw [hloop] at hstage
  obtain ⟨seen, hvisited, hcounted⟩ := hstage
  refine hinv.setGroupPush hpush ⟨rfl, rfl, rfl⟩ ⟨seen ++ [(agentId, groupID)], ?_, ?_⟩
  · rw [List.append_assoc, List.singleton_append, hvisited]
  · have hskip : c.members (seen ++ [(agentId, groupID)]) = c.members seen := by
      simp [GroupCall.members, hother]
    rw [hskip]
    exact hcounted

/-- The push counts the agent of a call that has returned. -/
theorem PushInv.count (hinv : PushInv c p) {push : GroupPush} {agentId : UUID} {ch : ChanId}
    {clones : List (UUID × Option String)} (hpush : p.groupPushes[c.index]? = some push)
    (hcalled : push.stage = .sendConfigToAgent agentId ch clones) (err : Option String) :
    PushInv c (p.setGroupPush c.index { push with result := push.result.add agentId err }
      (.loop clones)) := by
  obtain ⟨push₀, hpush₀, -, -, -, hstage⟩ := hinv.push
  rw [hpush] at hpush₀
  cases hpush₀
  rw [hcalled] at hstage
  obtain ⟨seen, hvisited, hcounted, -⟩ := hstage
  refine hinv.setGroupPush hpush ?_ ⟨seen ++ [(agentId, some c.groupId)], ?_, ?_⟩
  · exact ⟨rfl, rfl, rfl⟩
  · rw [List.append_assoc, List.singleton_append, hvisited]
  · have hnext : c.members (seen ++ [(agentId, some c.groupId)])
        = c.members seen ++ [agentId] := by
      simp [GroupCall.members]
    rw [hnext]
    exact hcounted.add agentId err

/-- A step of the push. -/
theorem PushInv.advanceGroupPush (hinv : PushInv c p) {sections : List (Ref × Agent.Section)}
    (hheap : HeapInv c.before c.groupId p sections)
    (h : p.advanceGroupPush c.index = some p') :
    PushInv c p' ∧ p'.server.agentsById = p.server.agentsById ∧
      p'.server.heap = p.server.heap := by
  obtain ⟨push, hpush, h⟩ := Option.bind_eq_some_iff.mp h
  obtain ⟨push₀, hpush₀, horder, hgroup, -, hstage⟩ := hinv.push
  rw [hpush] at hpush₀
  cases hpush₀
  cases hpushStage : push.stage with
  | clone agents clones =>
    rw [hpushStage] at h
    cases agents with
    | nil =>
      cases h
      rw [hpushStage] at hstage
      obtain ⟨hresult, cloned, hagents, rfl⟩ := hstage
      refine ⟨hinv.setGroupPush hpush ⟨rfl, rfl, rfl⟩ ⟨[], ?_, ?_⟩, rfl, rfl⟩
      · rw [List.append_nil] at hagents
        rw [List.nil_append, horder, hagents]
        rfl
      · rw [hresult]
        exact .nil
    | cons entry agents =>
      obtain ⟨agentId, ref⟩ := entry
      obtain ⟨agent, hagent, h⟩ := Option.bind_eq_some_iff.mp h
      cases h
      exact ⟨hinv.clone hheap hpush hpushStage hagent, rfl, rfl⟩
  | loop clones =>
    rw [hpushStage] at h
    cases clones with
    | nil =>
      cases h
      rw [hpushStage] at hstage
      obtain ⟨seen, hvisited, hcounted⟩ := hstage
      refine ⟨hinv.setGroupPush hpush ⟨rfl, rfl, rfl⟩ ?_, rfl, rfl⟩
      rw [List.append_nil] at hvisited
      show Counted (c.members c.visited) push.result
      rw [← hvisited]
      exact hcounted
    | cons entry clones =>
      obtain ⟨agentId, groupID⟩ := entry
      dsimp only at h
      by_cases hmember : groupID = some push.groupId
      · rw [if_pos hmember] at h
        cases h
        rw [hmember, hgroup] at hpushStage
        exact ⟨hinv.sendConfigToAgent hpush hpushStage, rfl, rfl⟩
      · rw [if_neg hmember] at h
        cases h
        exact ⟨hinv.skip hpush hpushStage (hgroup ▸ hmember), rfl, rfl⟩
  | sendConfigToAgent agentId ch clones =>
    rw [hpushStage] at h
    obtain ⟨call, -, h⟩ := Option.bind_eq_some_iff.mp h
    cases hreturned : call.stage with
    | returned err =>
      rw [hreturned] at h
      cases h
      exact ⟨hinv.count hpush hpushStage err, rfl, rfl⟩
    | _ =>
      rw [hreturned] at h
      cases h
  | returned =>
    rw [hpushStage] at h
    cases h

/-- What is left of it while the push runs: its channels follow the rule. -/
structure SoundInv (c : GroupCall) (p : Process) : Prop where
  reachable : ∀ agent ∈ p.server.heap, agent.Reachable
  refs : p.server.RefsInHeap
  channels : ∀ ch, c.before.server.calls.length ≤ ch → ∃ w, Concurrent.WakeInv ch w p.server

/-- A step of the server. -/
theorem SoundInv.server (hsound : SoundInv c p) {e : Concurrent.Event} {server : System}
    (h : p.server.step e = some server) (hserver : p'.server = server) : SoundInv c p' where
  reachable := hserver ▸ System.reachable_step hsound.reachable h
  refs := hserver ▸ hsound.refs.step h
  channels := by
    intro ch hle
    obtain ⟨w, hw⟩ := hsound.channels ch hle
    obtain ⟨w', -, hw'⟩ :=
      hw.step (fun agent hmem => (hsound.reachable agent hmem).invariant.1) h
    exact ⟨w', hserver ▸ hw'⟩

/-- A step that meets the condition. -/
theorem SoundInv.step (hsound : SoundInv c p) {e : Event} (hmeet : p.PushOrReport c.index e)
    (h : p.step e = some p') : SoundInv c p' := by
  cases e with
  | server e =>
    obtain ⟨server, hserver, rfl⟩ := Option.map_eq_some_iff.mp h
    exact hsound.server hserver rfl
  | advanceGroupPush g =>
    obtain ⟨-, hsame | ⟨agentId, configContent, hserver⟩⟩ := Process.advanceGroupPush_cases h
    · exact ⟨hsame ▸ hsound.reachable, hsame ▸ hsound.refs, hsame ▸ hsound.channels⟩
    · exact hsound.server hserver rfl
  | _ => exact hmeet.elim

/-- The agents that a loop counts, on top of those it has counted before. -/
theorem count_foldl_add (id : UUID) (outcomes : List (UUID × Option String))
    (result : ConfigSender.GroupResult) :
    (outcomes.foldl (fun result o => result.add o.1 o.2) result).updatedAgents.count id
        + (outcomes.foldl (fun result o => result.add o.1 o.2) result).errors.countP (namesAgent id)
      = result.updatedAgents.count id + result.errors.countP (namesAgent id)
        + (outcomes.map Prod.fst).count id := by
  induction outcomes generalizing result with
  | nil => simp
  | cons o outcomes ih =>
    obtain ⟨agentId, err⟩ := o
    rw [List.foldl_cons, ih, List.map_cons, List.count_cons]
    cases err with
    | none =>
      simp only [ConfigSender.GroupResult.add, List.count_append, List.count_singleton]
      omega
    | some err =>
      have hnames : ("agent " ++ agentId.toString ++ ": " ++ err |> namesAgent id)
          = (agentId == id) := by
        rw [Bool.eq_iff_iff, namesAgent_iff, beq_iff_eq]
      simp only [ConfigSender.GroupResult.add, List.countP_append, List.countP_singleton, hnames]
      omega

/-- The result counts an agent as often as the loop visits it. -/
theorem Counted.count {ids : List UUID} {result : ConfigSender.GroupResult}
    (h : Counted ids result) (id : UUID) :
    result.updatedAgents.count id + result.errors.countP (namesAgent id) = ids.count id := by
  obtain ⟨outcomes, rfl, rfl⟩ := h
  rw [count_foldl_add]
  simp

/-- Each error names an agent that the loop visits. -/
theorem Counted.named {ids : List UUID} {result : ConfigSender.GroupResult}
    (h : Counted ids result) : ∀ err ∈ result.errors, ∃ id ∈ ids, namesAgent id err = true := by
  obtain ⟨outcomes, rfl, rfl⟩ := h
  -- From the last agent back, as the errors grow at their end.
  induction outcomes using List.reverseRecOn with
  | nil =>
    intro err hmem
    cases hmem
  | append_singleton outcomes o ih =>
    obtain ⟨agentId, err₀⟩ := o
    rw [List.foldl_append, List.map_append]
    intro err hmem
    have hbefore : err ∈ (outcomes.foldl (fun result o => result.add o.1 o.2)
        ({} : ConfigSender.GroupResult)).errors →
          ∃ id ∈ outcomes.map Prod.fst ++ [(agentId, err₀)].map Prod.fst,
            namesAgent id err = true := by
      intro hmem
      obtain ⟨id, hid, hnames⟩ := ih err hmem
      exact ⟨id, List.mem_append_left _ hid, hnames⟩
    cases err₀ with
    | none => exact hbefore hmem
    | some err₀ =>
      rcases List.mem_append.mp hmem with hmem | hnew
      · exact hbefore hmem
      · refine ⟨agentId, List.mem_append_right _ (List.mem_singleton.mpr rfl), ?_⟩
        rw [List.mem_singleton.mp hnew]
        exact (namesAgent_iff agentId agentId err₀).mpr rfl

/-- The result counts each registered agent of the group once: among the updated ones, or by one
error that names it. It counts nobody else. -/
structure Partitions (c : GroupCall) (result : ConfigSender.GroupResult) : Prop where
  group : ∀ id, c.before.InGroup c.groupId id →
    result.updatedAgents.count id + result.errors.countP (namesAgent id) = 1
  others : ∀ id, ¬c.before.InGroup c.groupId id →
    result.updatedAgents.count id + result.errors.countP (namesAgent id) = 0
  named : ∀ err ∈ result.errors, ∃ id, c.before.InGroup c.groupId id ∧ namesAgent id err = true

end Push

/-! ### A group of two -/

end Deliveries

end OtelHive.Opamp
