import OtelHive.Api.Commander
import OtelHive.Api.GitSync
import OtelHive.Proofs.Api.AgentPriority

/-!
# `OtelHive.Proofs.Api.Delivery`: which config writes are pushed

A successful create with a group and an assignment push the stored content to every connected
agent of the group. An update does not push: it never calls the commander. So `delivered_iff`
says that the connected agents of the group are served exactly if the request is not an
update, or there is nobody to serve.

The record of the pushes does not change the handlers (`recorded_eq`). The proof is that
`handle` commutes with every map of the commanders (`handle_map`).
-/

set_option autoImplicit false

namespace OtelHive.Api

open OtelHive.Lib
open OtelHive.Opamp
open OtelHive.Types (Config)

/-! ### The handlers do not depend on the commander -/

section Commanders

variable {γ δ : Type}

/-- The state with another commander. -/
def StateOver.map (f : γ → δ) (s : StateOver γ) : StateOver δ := ⟨s.store, f s.commander⟩

/-- `f` maps the pushes of one commander to those of the other. -/
def Commutes (f : γ → δ) (c : AgentCommander γ) (d : AgentCommander δ) : Prop :=
  ∀ groupID content x, f (c.sendConfigToAgentsInGroup groupID content x)
    = d.sendConfigToAgentsInGroup groupID content (f x)

/-- The handlers with the one commander are those with the other, seen through `f`. -/
theorem handle_map {f : γ → δ} {c : AgentCommander γ} {d : AgentCommander δ}
    (h : Commutes f c d) (env : Env) (request : ConfigRequest) (s : StateOver γ) :
    handle d env request (s.map f)
      = ((handle c env request s).1.map f, (handle c env request s).2) := by
  -- The commander is called in one branch, and there `h` applies.
  cases request with
  | create body =>
    simp only [handle, createConfigWith, StateOver.map]
    split
    · rfl
    · split
      · rfl
      · split
        · rfl
        · split
          · rfl
          · rw [h]
  | update configID body =>
    simp only [handle, updateConfigWith, StateOver.map]
    split
    · rfl
    split
    · rfl
    split
    · rfl
    · rfl
    split
    · rfl
    split
    · rfl
    · rfl
  | assign groupID body =>
    simp only [handle, assignConfigWith, StateOver.map]
    split
    · rfl
    split
    · rfl
    split
    · split
      · split
        · rfl
        · rw [h]
      · rfl
    · rfl

end Commanders

/-- The handler of the request in the process. -/
def State.handle (env : Env) (delivery : Delivery) (request : ConfigRequest) (s : State) :
    State × Reply :=
  match request with
  | .create body => handleCreateConfig env delivery body s
  | .update configID body => handleUpdateConfig env configID body s
  | .assign groupID body => handleAssignConfig env delivery groupID body s

/-- With the config sender of the process, the handlers are those of the process. -/
theorem handle_commander (env : Env) (delivery : Delivery) (request : ConfigRequest) (s : State) :
    handle (processCommander delivery) env request ⟨s.store, s.sender⟩
      = (⟨(s.handle env delivery request).1.store, (s.handle env delivery request).1.sender⟩,
        (s.handle env delivery request).2) := by
  -- Both handlers take the same branches. They are split in the order of the source.
  cases request with
  | create body =>
    simp only [handle, State.handle, createConfigWith, handleCreateConfig]
    cases bind "CreateConfigRequest" CreateConfigRequest.required body with
    | error err => rfl
    | ok req =>
      dsimp only
      generalize Services.createConfig env s.store _ = result
      cases result <;> rfl
  | update configID body =>
    simp only [handle, State.handle, updateConfigWith, handleUpdateConfig]
    by_cases hid : configID = ""
    · rw [if_pos hid, if_pos hid]
    rw [if_neg hid, if_neg hid]
    cases bind "UpdateConfigRequest" UpdateConfigRequest.required body with
    | error err => rfl
    | ok req =>
      dsimp only
      rcases Services.getConfig env s.store configID with err | (_ | existingConfig)
      · rfl
      · rfl
      · dsimp only
        cases validateYAMLConfig env req.content with
        | some err => rfl
        | none =>
          dsimp only
          generalize Services.createConfig env s.store _ = result
          cases result <;> rfl
  | assign groupID body =>
    simp only [handle, State.handle, assignConfigWith, handleAssignConfig]
    by_cases hid : groupID = ""
    · rw [if_pos hid, if_pos hid]
    rw [if_neg hid, if_neg hid]
    cases bind "AssignConfigRequest" AssignConfigRequest.required body with
    | error err => rfl
    | ok req =>
      dsimp only
      rcases Services.getGroup env s.store groupID with err | (_ | group)
      · rfl
      · rfl
      · dsimp only
        rcases Services.getConfig env s.store req.configID with err | (_ | config)
        · rfl
        · rfl
        · dsimp only
          generalize Services.createConfig env s.store _ = result
          cases result <;> rfl

/-! ### The record -/

namespace Recorder

/-- The loop over recorded pushes adds them to the record in order. -/
theorem attempts_foldl (acked : ChanId → Bool) (content : Bytes) (ids : List UUID)
    (r : Recorder) :
    (ids.foldl (sendConfigToAgent acked content) r).attempts
      = r.attempts ++ ids.map fun id => (id, content) := by
  induction ids generalizing r with
  | nil => simp
  | cons id ids ih =>
    rw [List.foldl_cons, ih]
    simp [sendConfigToAgent]

/-- The record does not change what the pushes do. -/
theorem sender_foldl (acked : ChanId → Bool) (content : Bytes) (ids : List UUID) (r : Recorder)
    (result : ConfigSender.GroupResult) :
    (ids.foldl (sendConfigToAgent acked content) r).sender
      = (ids.foldl (ConfigSender.pushStep acked content) (r.sender, result)).1 := by
  induction ids generalizing r result with
  | nil => rfl
  | cons id ids ih =>
    rw [List.foldl_cons, List.foldl_cons, ih]
    rfl

/-- The recorded commander is the config sender of the process without the record. -/
theorem commutes_sender (delivery : Delivery) :
    Commutes sender (commander delivery) (processCommander delivery) := by
  intro groupID content r
  exact sender_foldl delivery.acked content _ r {}

end Recorder

/-- The handler with the record is the handler of the process. -/
theorem recorded_eq (env : Env) (delivery : Delivery) (request : ConfigRequest) (s : State) :
    ((recorded env delivery request s).1.store,
        (recorded env delivery request s).1.commander.sender, (recorded env delivery request s).2)
      = ((s.handle env delivery request).1.store, (s.handle env delivery request).1.sender,
        (s.handle env delivery request).2) := by
  have hmap := handle_map (Recorder.commutes_sender delivery) env request ⟨s.store, ⟨s.sender, []⟩⟩
  have hprocess := handle_commander env delivery request s
  simp only [StateOver.map] at hmap
  rw [hmap] at hprocess
  simp only [Prod.mk.injEq, StateOver.mk.injEq] at hprocess
  simp only [Prod.mk.injEq]
  exact ⟨hprocess.1.1, hprocess.1.2, hprocess.2⟩

/-! ### The pushes of a write -/

/-- The request is an update of a config. -/
def ConfigRequest.isUpdate : ConfigRequest → Bool
  | .update _ _ => true
  | _ => false

/-- The commander after a write of a config with a group. It is called once, for the group and
the content of the config, or not at all. -/
theorem commander_of_written {γ : Type} {commander : AgentCommander γ} {env : Env}
    {request : ConfigRequest} {s : StateOver γ} {config : Config} {groupID : String}
    (hwritten : (handle commander env request s).2.written = some config)
    (hgroup : config.groupID = some groupID) :
    (handle commander env request s).1.commander
      = if request.isUpdate = false ∧ groupID ≠ "" then
          commander.sendConfigToAgentsInGroup groupID config.content s.commander
        else s.commander := by
  cases request with
  | create body =>
    simp only [handle, createConfigWith] at hwritten ⊢
    split at hwritten
    · cases hwritten
    · split at hwritten
      · cases hwritten
      · cases hwritten
        dsimp only at hgroup ⊢
        rw [hgroup]
        -- The handler pushes to a group with a name.
        by_cases hnamed : groupID = ""
        · simp [hnamed]
        · simp [hnamed, ConfigRequest.isUpdate]
  | update configID body =>
    -- No branch of the handler calls the commander.
    rw [if_neg (by simp [ConfigRequest.isUpdate])]
    simp only [handle, updateConfigWith]
    split
    · rfl
    split
    · rfl
    split
    · rfl
    · rfl
    split
    · rfl
    split
    · rfl
    · rfl
  | assign groupID' body =>
    simp only [handle, assignConfigWith] at hwritten ⊢
    split at hwritten
    · cases hwritten
    rename_i hnamed
    split at hwritten
    · cases hwritten
    split at hwritten
    · split at hwritten
      · split at hwritten
        · cases hwritten
        · cases hwritten
          cases hgroup
          simp [hnamed, ConfigRequest.isUpdate]
      · cases hwritten
    · cases hwritten

/-- The reply of the handler with the record is that of the process. -/
theorem recorded_reply (env : Env) (delivery : Delivery) (request : ConfigRequest) (s : State) :
    (recorded env delivery request s).2 = (s.handle env delivery request).2 :=
  congrArg (·.2.2) (recorded_eq env delivery request s)

/-- The pushes that a write of a config with a group attempts. -/
theorem attempts_of_written {env : Env} {delivery : Delivery} {request : ConfigRequest}
    {s : State} {config : Config} {groupID : String}
    (hwritten : (s.handle env delivery request).2.written = some config)
    (hgroup : config.groupID = some groupID) :
    attempts env delivery request s
      = if request.isUpdate = false ∧ groupID ≠ "" then
          (ConfigSender.agentsInGroup delivery.order groupID s.sender.agents).map
            fun id => (id, config.content)
        else [] := by
  rw [← recorded_reply] at hwritten
  -- The record starts empty, so what the commander holds after the request are its pushes.
  have hcommander := commander_of_written hwritten hgroup
  unfold attempts
  have hattempts := congrArg Recorder.attempts hcommander
  refine hattempts.trans ?_
  split
  · exact Recorder.attempts_foldl delivery.acked config.content _ ⟨s.sender, []⟩
  · rfl

/-- A push of `content` is attempted to every connected agent of the group. -/
def Delivered (env : Env) (delivery : Delivery) (request : ConfigRequest) (s : State)
    (groupID : String) (content : Bytes) : Prop :=
  ∀ a agent, s.sender.agents.findAgent a = some agent → agent.groupID = some groupID →
    (a, content) ∈ attempts env delivery request s

/-- In every state, take a request that stores a config of a group. The config is delivered to
the group exactly if the request is a create or an assignment with a group that has a name,
or no connected agent is in the group. -/
theorem delivered_iff (env : Env) (delivery : Delivery) (request : ConfigRequest) (s : State)
    (config : Config) (groupID : String)
    (hwritten : (s.handle env delivery request).2.written = some config)
    (hgroup : config.groupID = some groupID) :
    Delivered env delivery request s groupID config.content ↔
      (request.isUpdate = false ∧ groupID ≠ "") ∨
      ∀ a agent, s.sender.agents.findAgent a = some agent → agent.groupID ≠ some groupID := by
  have hattempts := attempts_of_written hwritten hgroup
  constructor
  · intro hdelivered
    by_cases hpushes : request.isUpdate = false ∧ groupID ≠ ""
    · exact Or.inl hpushes
    · right
      intro a agent hfind hmember
      have hmem := hdelivered a agent hfind hmember
      rw [hattempts, if_neg hpushes] at hmem
      cases hmem
  · rintro (hpushes | hnobody) a agent hfind hmember
    · rw [hattempts, if_pos hpushes]
      refine List.mem_map.mpr ⟨a, ?_, rfl⟩
      exact (ConfigSender.mem_agentsInGroup _ _ _ _).mpr ⟨agent, hfind, hmember⟩
    · exact absurd hmember (hnobody a agent hfind)

/-! ### An update of the config of a group -/

/-- An agent of the group `"g"` connects, and then the group gets its first config. -/
def memberOfGroup : List Input :=
  [.request (.opamp (.message (.quiet 1 "") 1 (groupMemberReport .nil))),
    .request (.createConfig (.quiet 2 "c-1") silentDelivery
      (.ok (groupConfigRequest [1] (.wrap 1))))]

/-- The state in which the requests below arrive. -/
def withMember : State :=
  (run State.next (.start oneGroup.store) memberOfGroup).getD oneGroup

/-- An update of the config of the group. -/
def updateOfGroup : ConfigRequest :=
  .update "c-1" (.ok { content := [2], version := .wrap 2 })

/-- A second create for the group. -/
def createForGroup : ConfigRequest := .create (.ok (groupConfigRequest [2] (.wrap 2)))

/-- The create reaches the agent. -/
theorem delivered_createForGroup :
    Delivered (.quiet 3 "c-2") silentDelivery createForGroup withMember "g" [2] := by
  have hwritten : ((withMember.handle (.quiet 3 "c-2") silentDelivery
      createForGroup).2.written).map (fun config => (config.groupID, config.content))
        = some (some "g", [2]) := by decide +kernel
  obtain ⟨config, hwritten, hconfig⟩ := Option.map_eq_some_iff.mp hwritten
  simp only [Prod.mk.injEq] at hconfig
  have hiff := delivered_iff (.quiet 3 "c-2") silentDelivery createForGroup withMember config "g"
    hwritten hconfig.1
  rw [hconfig.2] at hiff
  exact hiff.mpr (Or.inl ⟨rfl, by decide⟩)

/-- The update does not. -/
theorem update_not_delivered :
    ¬ ∀ (store : Sqlite.Storage) (inputs : List Input) (s : State) (env : Env)
      (delivery : Delivery) (request : ConfigRequest) (config : Config) (groupID : String),
      run State.next (.start store) inputs = some s →
      (s.handle env delivery request).2.written = some config →
      config.groupID = some groupID → groupID ≠ "" →
      Delivered env delivery request s groupID config.content := by
  intro hall
  have hrun : run State.next (.start oneGroup.store) memberOfGroup = some withMember := by
    have hsome : (run State.next (.start oneGroup.store) memberOfGroup).isSome := by
      decide +kernel
    obtain ⟨s, hs⟩ := Option.isSome_iff_exists.mp hsome
    rw [withMember, hs]
    rfl
  have hmember : (withMember.sender.agents.findAgent .nil).map (·.groupID) = some (some "g") := by
    decide +kernel
  obtain ⟨agent, hfind, hgroup⟩ := Option.map_eq_some_iff.mp hmember
  have hwritten : ((withMember.handle (.quiet 3 "c-2") silentDelivery
      updateOfGroup).2.written).map (·.groupID) = some (some "g") := by decide +kernel
  obtain ⟨config, hwritten, hconfig⟩ := Option.map_eq_some_iff.mp hwritten
  have hmem := hall oneGroup.store memberOfGroup withMember _ _ _ config "g" hrun hwritten hconfig
    (by decide) .nil agent hfind hgroup
  rw [attempts_of_written hwritten hconfig] at hmem
  cases hmem

end OtelHive.Api
