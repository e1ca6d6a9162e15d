import OtelHive.Proofs.Api.Fleet

/-!
# `OtelHive.Proofs.Api.ConfigHistory`: how long a config and a group last

No endpoint changes or deletes a config, but the schema deletes the configs of a deleted group.
`config_permanent` says when `GET /configs/:id` finds a config in a later state: as long as no
step deletes its group on a connection that enforces foreign keys. It is the same config then,
and otherwise it is gone for good.

`deleted_group_gone` is about the group: after `HandleDeleteGroup` no endpoint finds it again. Its
configs stay away too, if every connection enforces foreign keys.

Both hold over every run of the process, starts on the database included.
-/

set_option autoImplicit false

namespace OtelHive.Api.Fleet

open OtelHive.Lib
open OtelHive.Opamp
open OtelHive.Sqlite (Storage)
open OtelHive.Types (Config Group Operation)

/-! ### One step -/

/-- The step deletes the group of the config, on a connection that enforces foreign keys. -/
def Cascades (config : Config) (s : State) : Event → Prop
  | .deleteGroup env fault groupID =>
    groupID ≠ "" ∧ fault = none ∧ env.foreignKeys = true ∧ config.groupID = some groupID ∧
      s.store.groups.any (·.id == groupID)
  | _ => False

instance (config : Config) (s : State) (e : Event) : Decidable (Cascades config s e) :=
  match e with
  | .deleteGroup env fault _ =>
    inferInstanceAs (Decidable (_ ∧ fault = none ∧ env.foreignKeys = true ∧ _ ∧ _))
  | .request _ => .isFalse id
  | .push _ _ _ => .isFalse id
  | .createGroup _ _ => .isFalse id
  | .restart => .isFalse id

/-- The event deletes a group. -/
def Event.Deletes : Event → Prop
  | .deleteGroup _ _ _ => True
  | _ => False

/-- What a call of an event that deletes nothing does to the groups and the configs. -/
inductive Grows (e : Event) (s s' : Storage) : Prop where
  | same (hgroups : s'.groups = s.groups) (hconfigs : s'.configs = s.configs)
  | group (env : Env) (group : Group) (henv : e.env = some env) (hid : group.id = env.newUUID)
      (hgroups : s'.groups = s.groups ++ [group]) (hconfigs : s'.configs = s.configs)
  | config (env : Env) (config : Config) (henv : e.env = some env)
      (hid : config.id = env.newUUID)
      (hrefs : env.foreignKeys = true → s.referencesExist config = true)
      (hgroups : s'.groups = s.groups) (hconfigs : s'.configs = s.configs ++ [config])

/-- A write that fails changes nothing, so it is enough to look at the one that succeeds. -/
theorem grows_written {e : Event} {s : Storage} {result : Except String Storage}
    (h : ∀ s', result = .ok s' → Grows e s s') : Grows e s (s.written result).1 := by
  cases result with
  | error err => exact .same rfl rfl
  | ok s' => exact h s' rfl

theorem grows_updateAgent (e : Event) (s : Storage) (id : UUID)
    (f : Types.Agent → Types.Agent) : Grows e s (s.written (s.updateAgent id f)).1 := by
  refine grows_written ?_
  intro s' h
  unfold Storage.updateAgent at h
  split at h
  · cases h
    exact .same rfl rfl
  · cases h

theorem grows_call {e : Event} (hdeletes : ¬ e.Deletes) (s : Storage) {foreignKeys : Bool}
    (now : Time) {op : Operation} (hop : e.Writes foreignKeys op) :
    Grows e s (s.perform foreignKeys now op).1 := by
  cases op with
  | createAgent agent =>
    refine grows_written ?_
    intro s' h
    unfold Storage.createAgent at h
    split at h
    · cases h
    · cases h
      exact .same rfl rfl
  | updateAgentStatus id status => exact grows_updateAgent e s id _
  | updateAgentLastSeen id lastSeen => exact grows_updateAgent e s id _
  | updateAgentEffectiveConfig id content => exact grows_updateAgent e s id _
  | createGroup group =>
    obtain ⟨env, henv, hid⟩ := hop
    refine grows_written ?_
    intro s' h
    unfold Storage.createGroup at h
    split at h
    · cases h
    · cases h
      exact .group env group henv hid rfl rfl
  | createConfig config =>
    obtain ⟨env, henv, hid, rfl⟩ := hop
    refine grows_written ?_
    intro s' h
    unfold Storage.createConfig at h
    split at h
    · cases h
    · split at h
      · cases h
      · rename_i hrefs
        cases h
        refine .config env config henv hid ?_ rfl rfl
        intro hforeign
        simpa [hforeign] using hrefs
  | deleteGroup id =>
    obtain ⟨env, rfl, _⟩ := hop
    exact absurd trivial hdeletes
  | deleteAgent _ => cases hop
  | getAgent _ | listAgents | getGroup _ | listGroups | getConfig _ | getLatestConfigForAgent _
  | getLatestConfigForGroup _ | listConfigs _ => exact .same rfl rfl

/-- What every such change of the tables keeps, holds after an event that deletes nothing. -/
theorem step_grows {I : Storage → Prop} {s s' : State} {e : Event} (hdeletes : ¬ e.Deletes)
    (hgrows : ∀ s s', Grows e s s' → I s → I s') (h : step s e = some s') (hI : I s.store) :
    I s'.store :=
  step_keeps (fun s _ now _ hop => hgrows s _ (grows_call hdeletes s now hop)) h hI

/-- A config stays under its id when others are added. -/
theorem Grows.getConfig_some {e : Event} {s s' : Storage} (h : Grows e s s') {id : String}
    {config : Config} (hget : s.getConfig id = some config) : s'.getConfig id = some config := by
  have hfound : s.configs.find? (·.id == id) = some config := hget
  show s'.configs.find? (·.id == id) = some config
  cases h with
  | same _ hconfigs => rw [hconfigs, hfound]
  | group _ _ _ _ _ hconfigs => rw [hconfigs, hfound]
  | config _ _ _ _ _ _ hconfigs => rw [hconfigs, List.find?_append, hfound, Option.some_or]

/-- An id that is not drawn finds no config if it did not find one before. -/
theorem Grows.getConfig_none {e : Event} {s s' : Storage} (h : Grows e s s') {id : String}
    (hfresh : ∀ env ∈ e.env, env.newUUID ≠ id) (hget : s.getConfig id = none) :
    s'.getConfig id = none := by
  have hnone : s.configs.find? (·.id == id) = none := hget
  show s'.configs.find? (·.id == id) = none
  cases h with
  | same _ hconfigs => rw [hconfigs, hnone]
  | group _ _ _ _ _ hconfigs => rw [hconfigs, hnone]
  | config env new henv hid _ _ hconfigs =>
    have hne : new.id ≠ id := by
      rw [hid]
      exact hfresh env henv
    rw [hconfigs, List.find?_append, hnone, Option.none_or]
    simp [hne]

/-- `HandleDeleteGroup` on the tables. -/
theorem store_deleteGroup (env : Env) (fault : Option String) (groupID : String) (s : Storage) :
    (Groups.handleDeleteGroup env fault groupID s).1
      = if groupID ≠ "" ∧ fault = none ∧ s.groups.any (·.id == groupID) then
          { s with
            groups := s.groups.filter (·.id != groupID)
            configs :=
              if env.foreignKeys then s.configs.filter (·.groupID != some groupID)
              else s.configs }
        else s := by
  unfold Groups.handleDeleteGroup
  by_cases hempty : groupID = ""
  · simp [hempty]
  · rw [if_neg hempty]
    cases fault with
    | some err => simp [Groups.deleteGroup]
    | none =>
      simp only [Groups.deleteGroup, Storage.deleteGroup]
      by_cases hgroup : s.groups.any (·.id == groupID)
      · simp [hgroup, hempty]
      · simp [hgroup]

/-- What a step does to a stored config: it is gone exactly if the step cascades to it. -/
theorem getConfig_step {s s' : State} {e : Event} (hids : s.store.UniqueIds)
    (h : step s e = some s') {id : String} {config : Config}
    (hget : s.store.getConfig id = some config) :
    s'.store.getConfig id = if Cascades config s e then none else some config := by
  by_cases hdeletes : e.Deletes
  · cases e with
    | deleteGroup env fault groupID =>
      cases h
      show (Groups.handleDeleteGroup env fault groupID s.store).1.getConfig id = _
      rw [store_deleteGroup]
      by_cases hdelete : groupID ≠ "" ∧ fault = none ∧ s.store.groups.any (·.id == groupID)
      · rw [if_pos hdelete]
        obtain ⟨hne, hfault, hgroup⟩ := hdelete
        have hcascades : Cascades config s (.deleteGroup env fault groupID) ↔
            env.foreignKeys = true ∧ config.groupID = some groupID := by
          simp [Cascades, hne, hfault, hgroup]
        rw [if_congr hcascades rfl rfl]
        cases hforeign : env.foreignKeys with
        | false =>
          rw [if_neg (by simp)]
          exact hget
        | true =>
          -- The filter keeps the row of the id unless it has the group.
          show (s.store.configs.filter _).find? _ = _
          rw [find?_filter_of_nodup hids.configs]
          have hfound : s.store.configs.find? (·.id == id) = some config := hget
          rw [hfound]
          by_cases hsame : config.groupID = some groupID
          · simp [hsame, Option.filter]
          · simp [hsame, Option.filter]
      · rw [if_neg hdelete, hget, if_neg]
        intro hcascades
        exact hdelete ⟨hcascades.1, hcascades.2.1, hcascades.2.2.2.2⟩
    | request _ | push _ _ _ | createGroup _ _ | restart => cases hdeletes
  · have hno : ¬ Cascades config s e := by
      intro hcascades
      cases e with
      | deleteGroup _ _ _ => exact hdeletes trivial
      | request _ | push _ _ _ | createGroup _ _ | restart => exact hcascades
    rw [if_neg hno]
    exact step_grows hdeletes (I := fun s => s.getConfig id = some config)
      (fun _ _ hgrows hget => hgrows.getConfig_some hget) h hget

/-- An id that is not drawn finds no config if it did not find one before. -/
theorem getConfig_step_none {s s' : State} {e : Event} (h : step s e = some s') {id : String}
    (hfresh : ∀ env ∈ e.env, env.newUUID ≠ id) (hget : s.store.getConfig id = none) :
    s'.store.getConfig id = none := by
  by_cases hdeletes : e.Deletes
  · cases e with
    | deleteGroup env fault groupID =>
      cases h
      show (Groups.handleDeleteGroup env fault groupID s.store).1.getConfig id = none
      rw [store_deleteGroup]
      have hnone : s.store.configs.find? (·.id == id) = none := hget
      split
      · show List.find? _ (if _ then _ else _) = none
        split
        · rw [List.find?_eq_none] at hnone ⊢
          intro config hconfig
          exact hnone config (List.mem_of_mem_filter hconfig)
        · exact hnone
      · exact hget
    | request _ | push _ _ _ | createGroup _ _ | restart => cases hdeletes
  · exact step_grows hdeletes (I := fun s => s.getConfig id = none)
      (fun _ _ hgrows hget => hgrows.getConfig_none hfresh hget) h hget

/-! ### Configs -/

/-- No event draws the id. -/
def NotDrawn (id : String) (es : List Event) : Prop := ∀ e ∈ es, ∀ env ∈ e.env, env.newUUID ≠ id

/-- An id that finds no config, and that no event draws, finds none after a run. -/
theorem getConfig_run_none {s t : State} {es : List Event} {id : String}
    (hfresh : NotDrawn id es) (hrun : run step s es = some t)
    (hget : s.store.getConfig id = none) : t.store.getConfig id = none :=
  run_invariant_of_stepsMeet (C := fun _ e => ∀ env ∈ e.env, env.newUUID ≠ id)
    (fun s => s.store.getConfig id = none)
    (fun _ _ _ hget hfresh hstep => getConfig_step_none hstep hfresh hget) hget
    (stepsMeet_of_forall hfresh s) hrun

/-- A stored config after a run: it is there as long as no step cascades to it. -/
theorem getConfig_run {s t : State} {es : List Event} {id : String} {config : Config}
    (hids : s.store.UniqueIds) (hfresh : NotDrawn id es) (hrun : run step s es = some t)
    (hget : s.store.getConfig id = some config) :
    t.store.getConfig id
      = if StepsMeet step (fun s e => ¬ Cascades config s e) s es then some config else none := by
  induction es generalizing s with
  | nil =>
    cases hrun
    rw [if_pos (by trivial)]
    exact hget
  | cons e es ih =>
    obtain ⟨s', hstep, hrun'⟩ := run_cons_eq_some.mp hrun
    have hids' : s'.store.UniqueIds :=
      step_keeps (fun s foreignKeys now op _ h => h.perform foreignKeys now op) hstep hids
    have hfresh' : NotDrawn id es := fun e' he' => hfresh e' (List.mem_cons_of_mem e he')
    have hget' := getConfig_step hids hstep hget
    by_cases hcascades : Cascades config s e
    · -- It is deleted here, and its id does not come back.
      rw [if_pos hcascades] at hget'
      rw [if_neg fun hmeet => hmeet.1 hcascades]
      exact getConfig_run_none hfresh' hrun' hget'
    · rw [if_neg hcascades] at hget'
      have hrest : StepsMeet step (fun s e => ¬ Cascades config s e) s (e :: es) ↔
          StepsMeet step (fun s e => ¬ Cascades config s e) s' es := by
        constructor
        · intro hmeet
          exact hmeet.2 s' hstep
        · intro hmeet
          refine ⟨hcascades, ?_⟩
          intro s'' hs''
          rw [hstep] at hs''
          cases hs''
          exact hmeet
      rw [if_congr hrest rfl rfl]
      exact ih hids' hfresh' hrun' hget'

/-- `HandleGetConfig` returns what the database finds. -/
theorem handleGetConfig_eq_config {env : Env} {s : Storage} {id : String} {config : Config}
    (h : handleGetConfig env s id = .config config) : id ≠ "" ∧ s.getConfig id = some config := by
  unfold handleGetConfig at h
  split at h
  · cases h
  · rename_i hempty
    refine ⟨hempty, ?_⟩
    split at h
    · cases h
    · cases h
    · rename_i found hfound
      cases h
      exact Except.ok.inj (Env.call_eq_ok hfound).2

/-- In a run from a reachable state, a config that `GET /configs/:id` has returned stays what it
is. A later request finds exactly this config if no step in between deletes its group on a
connection that enforces foreign keys, and it finds none otherwise. -/
theorem config_permanent {before after : List Event} {s t : State} {env env' : Env} {id : String}
    {config : Config} (hreach : run step start before = some s)
    (hget : handleGetConfig env s.store id = .config config) (hfresh : NotDrawn id after)
    (hrun : run step s after = some t) (hread : env'.faults .getConfig = none) :
    handleGetConfig env' t.store id
      = if StepsMeet step (fun s e => ¬ Cascades config s e) s after then .config config
        else .error 404 "Config not found" := by
  obtain ⟨hempty, hstored⟩ := handleGetConfig_eq_config hget
  have hids : s.store.UniqueIds := uniqueIds_run Storage.uniqueIds_empty hreach
  have hlater := getConfig_run hids hfresh hrun hstored
  unfold handleGetConfig Services.getConfig
  rw [if_neg hempty, Env.call_of_faults_eq_none hread, hlater]
  by_cases hmeet : StepsMeet step (fun s e => ¬ Cascades config s e) s after
  · rw [if_pos hmeet, if_pos hmeet]
  · rw [if_neg hmeet, if_neg hmeet]

/-- Two groups, and a config of each. -/
def twoGroups : List Event := [
  .createGroup (.quiet 0 "g-1") (.ok { name := "prod" }),
  .createGroup (.quiet 1 "g-2") (.ok { name := "test" }),
  .request (.createConfig (.quiet 2 "c-1") ⟨fun _ => true, .asIs⟩
    (.ok { groupID := some "g-1", configHash := "h", content := [1], version := .wrap 1 })),
  .request (.createConfig (.quiet 3 "c-2") ⟨fun _ => true, .asIs⟩
    (.ok { groupID := some "g-2", configHash := "h", content := [2], version := .wrap 1 }))]

/-- A new start, and the deletion of the second group. -/
def secondDeleted : List Event := [.restart, .deleteGroup (.quiet 4 "") none "g-2"]

/-- The first config of `twoGroups`. -/
def firstConfig : Config where
  id := "c-1"
  groupID := some "g-1"
  configHash := "h"
  content := [1]
  version := .wrap 1
  createdAt := 2

/-- The config of the first group outlives a new start and the deletion of the second one. -/
theorem config_permanent_twoGroups :
    ∃ s t, run step start twoGroups = some s ∧ run step s secondDeleted = some t ∧
      handleGetConfig (.quiet 9 "") t.store "c-1"
        = if StepsMeet step (fun s e => ¬ Cascades firstConfig s e) s secondDeleted then
            .config firstConfig
          else .error 404 "Config not found" := by
  have hreach : run step start twoGroups
      = some ((run step start twoGroups).get (by decide +kernel)) := (Option.some_get _).symm
  have hrun : run step ((run step start twoGroups).get (by decide +kernel)) secondDeleted
      = some ((run step ((run step start twoGroups).get (by decide +kernel)) secondDeleted).get
        (by decide +kernel)) := (Option.some_get _).symm
  have hget : handleGetConfig (.quiet 9 "")
      ((run step start twoGroups).get (by decide +kernel)).store "c-1" = .config firstConfig := by
    decide +kernel
  exact ⟨_, _, hreach, hrun, config_permanent hreach hget (by unfold NotDrawn; decide +kernel)
    hrun rfl⟩

/-! ### Deleted groups -/

/-- What the endpoints say of a group that is gone. -/
structure Gone (groupID : String) (s : State) : Prop where
  getGroup : ∀ env, env.faults .getGroup = none →
    handleGetGroup env s.store groupID = .error 404 "Group not found"
  restart : ∀ env order, env.faults .getGroup = none →
    handleRestartGroup env s.store order groupID s.sender = .error 404 "Group not found"
  listed : ∀ env listed count, handleGetGroups env s.store = .groups listed count →
    ∀ item ∈ listed, item.group.id ≠ groupID
  assign : ∀ env delivery body req,
    bind "AssignConfigRequest" AssignConfigRequest.required body = .ok req →
    handleAssignConfig env delivery groupID body s = (s, .error 404 "Group not found")
  create : ∀ env delivery body req, env.foreignKeys = true →
    bind "CreateConfigRequest" CreateConfigRequest.required body = .ok req →
    req.groupID = some groupID →
    handleCreateConfig env delivery body s = (s, .error 500 "Failed to create config")

/-- No group has the id. -/
def NoGroup (groupID : String) (s : Storage) : Prop := ∀ group ∈ s.groups, group.id ≠ groupID

/-- No config has the group. -/
def NoConfig (groupID : String) (s : Storage) : Prop :=
  ∀ config ∈ s.configs, config.groupID ≠ some groupID

theorem NoGroup.any {groupID : String} {s : Storage} (h : NoGroup groupID s) :
    s.groups.any (·.id == groupID) = false := by
  rw [← Bool.not_eq_true, not_any_key_iff]
  exact h

theorem NoGroup.getGroup {groupID : String} {s : Storage} (h : NoGroup groupID s) :
    s.getGroup groupID = none := by
  have hany := h.any
  rw [any_key_eq] at hany
  exact Option.isSome_eq_false_iff.mp hany |> Option.isNone_iff_eq_none.mp

/-- Without the group, the endpoints do not find it. -/
theorem NoGroup.gone {groupID : String} {s : State} (hne : groupID ≠ "")
    (h : NoGroup groupID s.store) : Gone groupID s where
  getGroup := by
    intro env hfault
    unfold handleGetGroup Services.getGroup
    rw [if_neg hne, Env.call_of_faults_eq_none hfault, h.getGroup]
  restart := by
    intro env order hfault
    unfold handleRestartGroup Services.getGroup
    rw [if_neg hne, Env.call_of_faults_eq_none hfault, h.getGroup]
  listed := by
    intro env listed count hreply item hitem
    unfold handleGetGroups at hreply
    split at hreply
    · cases hreply
    · rename_i groups hgroups
      split at hreply
      · cases hreply
      · dsimp only at hreply
        cases hreply
        obtain ⟨group, hgroup, rfl⟩ := List.mem_map.mp hitem
        have hlist := Except.ok.inj (Env.call_eq_ok hgroups).2
        rw [← hlist] at hgroup
        exact h group ((List.mem_insertionSort _).mp hgroup)
  assign := by
    intro env delivery body req hbind
    unfold handleAssignConfig
    rw [if_neg hne, hbind]
    dsimp only
    unfold Services.getGroup Env.call
    cases env.faults .getGroup with
    | some err => rfl
    | none => rw [h.getGroup]
  create := by
    intro env delivery body req hforeign hbind hgroup
    unfold handleCreateConfig
    rw [hbind]
    dsimp only
    -- The row would refer to a group that is not there.
    have hrefs : ∀ config : Config, config.groupID = some groupID →
        ∃ err, Services.createConfig env s.store config = .error err := by
      intro config hconfig
      unfold Services.createConfig Env.call
      cases env.faults .createConfig with
      | some err => exact ⟨err, rfl⟩
      | none =>
        dsimp only
        unfold Storage.createConfig
        split
        · exact ⟨_, rfl⟩
        · have hmissing : s.store.referencesExist config = false := by
            unfold Storage.referencesExist
            rw [hconfig, Option.all_some, h.any, Bool.and_false]
          rw [hforeign, hmissing]
          exact ⟨_, rfl⟩
    obtain ⟨err, herr⟩ := hrefs ⟨env.newUUID, req.name, req.agentID, req.groupID, req.configHash,
      req.content, req.version, env.now⟩ hgroup
    rw [herr]

/-- A step does not bring the group back, if it does not draw its id. -/
theorem noGroup_step {s s' : State} {e : Event} {groupID : String} (h : step s e = some s')
    (hfresh : ∀ env ∈ e.env, env.newUUID ≠ groupID) (hno : NoGroup groupID s.store) :
    NoGroup groupID s'.store := by
  by_cases hdeletes : e.Deletes
  · cases e with
    | deleteGroup env fault id =>
      cases h
      show NoGroup groupID (Groups.handleDeleteGroup env fault id s.store).1
      rw [store_deleteGroup]
      split
      · intro group hgroup
        exact hno group (List.mem_of_mem_filter hgroup)
      · exact hno
    | request _ | push _ _ _ | createGroup _ _ | restart => cases hdeletes
  · refine step_grows hdeletes (I := NoGroup groupID) ?_ h hno
    intro s s' hgrows hno group hgroup
    cases hgrows with
    | same hgroups _ =>
      rw [hgroups] at hgroup
      exact hno group hgroup
    | group env new henv hid hgroups _ =>
      rw [hgroups] at hgroup
      rcases List.mem_append.mp hgroup with hold | hnew
      · exact hno group hold
      · rw [List.mem_singleton.mp hnew, hid]
        exact hfresh env henv
    | config _ _ _ _ _ hgroups _ =>
      rw [hgroups] at hgroup
      exact hno group hgroup

/-- Nor does it bring back a config of the group, if its connection enforces foreign keys. -/
theorem noConfig_step {s s' : State} {e : Event} {groupID : String} (h : step s e = some s')
    (hfresh : ∀ env ∈ e.env, env.newUUID ≠ groupID) (hforeign : ∀ env ∈ e.env, env.foreignKeys)
    (hgroup : NoGroup groupID s.store) (hno : NoConfig groupID s.store) :
    NoConfig groupID s'.store := by
  by_cases hdeletes : e.Deletes
  · cases e with
    | deleteGroup env fault id =>
      cases h
      show NoConfig groupID (Groups.handleDeleteGroup env fault id s.store).1
      rw [store_deleteGroup]
      split
      · intro config hconfig
        have hmem : config ∈ if env.foreignKeys then s.store.configs.filter (·.groupID != some id)
            else s.store.configs := hconfig
        split at hmem
        · exact hno config (List.mem_of_mem_filter hmem)
        · exact hno config hmem
      · exact hno
    | request _ | push _ _ _ | createGroup _ _ | restart => cases hdeletes
  · -- The group stays away between the calls of the event as well.
    have hboth := step_grows hdeletes (I := fun s => NoGroup groupID s ∧ NoConfig groupID s) ?_ h
      ⟨hgroup, hno⟩
    · exact hboth.2
    · intro s s' hgrows hboth
      obtain ⟨hgroup, hno⟩ := hboth
      cases hgrows with
      | same hgroups hconfigs =>
        rw [NoGroup, NoConfig, hgroups, hconfigs]
        exact ⟨hgroup, hno⟩
      | group env new henv hid hgroups hconfigs =>
        rw [NoGroup, NoConfig, hgroups, hconfigs]
        refine ⟨?_, hno⟩
        intro group hmem
        rcases List.mem_append.mp hmem with hold | hnew
        · exact hgroup group hold
        · rw [List.mem_singleton.mp hnew, hid]
          exact hfresh env henv
      | config env new henv hid hrefs hgroups hconfigs =>
        rw [NoGroup, NoConfig, hgroups, hconfigs]
        refine ⟨hgroup, ?_⟩
        intro config hmem
        rcases List.mem_append.mp hmem with hold | hnew
        · exact hno config hold
        · rw [List.mem_singleton.mp hnew]
          intro hsame
          have hexists := hrefs (hforeign env henv)
          unfold Storage.referencesExist at hexists
          rw [hsame, Option.all_some, hgroup.any, Bool.and_false] at hexists
          cases hexists

/-- The request deletes a group that was there. -/
theorem deleted_of_message {env : Env} {fault : Option String} {groupID message : String}
    {status : Nat} {s : Storage}
    (h : (Groups.handleDeleteGroup env fault groupID s).2 = .message status message) :
    groupID ≠ "" ∧ fault = none ∧ s.groups.any (·.id == groupID) := by
  unfold Groups.handleDeleteGroup at h
  split at h
  · cases h
  · rename_i hempty
    refine ⟨hempty, ?_⟩
    cases fault with
    | some err => cases h
    | none =>
      refine ⟨rfl, ?_⟩
      dsimp only [Groups.deleteGroup] at h
      unfold Storage.deleteGroup at h
      by_cases hgroup : s.groups.any (·.id == groupID)
      · exact hgroup
      · rw [if_neg hgroup] at h
        cases h

/-- After `HandleDeleteGroup` has deleted a group, no endpoint finds it in any later state. If
every connection of the run enforces foreign keys, no config of it is there either. -/
theorem deleted_group_gone {s t : State} {env : Env} {fault : Option String} {groupID : String}
    {after : List Event}
    (hdelete : (Groups.handleDeleteGroup env fault groupID s.store).2
      = .message 200 "Group deleted successfully")
    (hfresh : NotDrawn groupID after)
    (hrun : run step s (.deleteGroup env fault groupID :: after) = some t) :
    Gone groupID t ∧
      ((env.foreignKeys ∧ ∀ e ∈ after, ∀ env ∈ e.env, env.foreignKeys) →
        ∀ env', env'.faults .getLatestConfigForGroup = none →
          handleGetGroupConfig env' t.store groupID
            = .error 404 "No config assigned to this group") := by
  obtain ⟨s', hstep, hrun'⟩ := run_cons_eq_some.mp hrun
  cases hstep
  obtain ⟨hne, hrest⟩ := deleted_of_message hdelete
  have hfirst : NoGroup groupID (Groups.handleDeleteGroup env fault groupID s.store).1 := by
    rw [store_deleteGroup, if_pos ⟨hne, hrest⟩]
    intro group hgroup
    simpa using (List.mem_filter.mp hgroup).2
  have hgroup : NoGroup groupID t.store :=
    run_invariant_of_stepsMeet (C := fun _ e => ∀ env ∈ e.env, env.newUUID ≠ groupID)
      (fun s => NoGroup groupID s.store)
      (fun _ _ _ hno hfresh hstep => noGroup_step hstep hfresh hno) hfirst
      (stepsMeet_of_forall hfresh _) hrun'
  refine ⟨hgroup.gone hne, ?_⟩
  intro hforeign env' hread
  have hfirstConfig : NoConfig groupID (Groups.handleDeleteGroup env fault groupID s.store).1 := by
    rw [store_deleteGroup, if_pos ⟨hne, hrest⟩]
    intro config hconfig
    have hmem : config ∈ if env.foreignKeys then s.store.configs.filter (·.groupID != some groupID)
        else s.store.configs := hconfig
    rw [if_pos hforeign.1] at hmem
    simpa using (List.mem_filter.mp hmem).2
  -- Both are kept together: a config is created for a group that is there.
  have hboth : NoGroup groupID t.store ∧ NoConfig groupID t.store :=
    run_invariant_of_stepsMeet
      (C := fun _ e => (∀ env ∈ e.env, env.newUUID ≠ groupID) ∧ ∀ env ∈ e.env, env.foreignKeys)
      (fun s => NoGroup groupID s.store ∧ NoConfig groupID s.store)
      (fun _ _ _ hno hmeet hstep => ⟨noGroup_step hstep hmeet.1 hno.1,
        noConfig_step hstep hmeet.1 hmeet.2 hno.1 hno.2⟩) ⟨hfirst, hfirstConfig⟩
      ((stepsMeet_of_forall hfresh _).and (stepsMeet_of_forall hforeign.2 _)) hrun'
  have hnone : t.store.getLatestConfigForGroup groupID = none := by
    unfold Storage.getLatestConfigForGroup Storage.latestWhere
    rw [List.argmax_eq_none, List.filter_eq_nil_iff]
    intro config hconfig
    simpa using hboth.2 config hconfig
  unfold handleGetGroupConfig Services.getLatestConfigForGroup
  rw [if_neg hne, Env.call_of_faults_eq_none hread, hnone]

/-- A group with a config that is deleted, and the process that starts again after it. -/
theorem deleted_group_gone_twoGroups :
    ∃ s t, run step start twoGroups = some s ∧
      run step s (.deleteGroup (.quiet 4 "") none "g-2" :: [.restart]) = some t ∧
      (Gone "g-2" t ∧
        (((Env.quiet 4 "").foreignKeys ∧
            ∀ e ∈ [Event.restart], ∀ env ∈ e.env, env.foreignKeys) →
          ∀ env', env'.faults .getLatestConfigForGroup = none →
            handleGetGroupConfig env' t.store "g-2"
              = .error 404 "No config assigned to this group")) := by
  have hreach : run step start twoGroups
      = some ((run step start twoGroups).get (by decide +kernel)) := (Option.some_get _).symm
  have hrun : run step ((run step start twoGroups).get (by decide +kernel))
        (.deleteGroup (.quiet 4 "") none "g-2" :: [.restart])
      = some ((run step ((run step start twoGroups).get (by decide +kernel))
        (.deleteGroup (.quiet 4 "") none "g-2" :: [.restart])).get (by decide +kernel)) :=
    (Option.some_get _).symm
  exact ⟨_, _, hreach, hrun, deleted_group_gone (by decide +kernel)
    (by unfold NotDrawn; decide +kernel) hrun⟩

end OtelHive.Api.Fleet
