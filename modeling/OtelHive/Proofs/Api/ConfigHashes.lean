import OtelHive.Api.System
import OtelHive.Lib.Runs
import OtelHive.Proofs.Hex
import OtelHive.Proofs.Opamp.Groups

/-!
# `OtelHive.Proofs.Api.ConfigHashes`: what the hash of a config says about its content

`HandleUpdateConfig` hashes the content without the white space at its ends, and
`StoreConfigForAgent` hashes it as it is. `HandleCreateConfig` stores the hash that the client
sends, and `HandleAssignConfig` copies the one it finds.

`Wrote` is what one request does to the configs. `serverHashes_identify` says from it which hashes
a run stores, and what two hashes of the server say about their contents.
-/

set_option autoImplicit false

namespace OtelHive.Api

open OtelHive.Lib
open OtelHive.Opamp
open OtelHive.Services
open OtelHive.Sqlite (Storage)
open OtelHive.Types (Config)

/-! ### White space -/

section Trim

variable {spaces : List Bytes}

theorem dropSpace_cons (x : UInt8) (b : Bytes) : dropSpace spaces (x :: b)
    = if isSpace x then some b
      else (spaces.find? (·.isPrefixOf (x :: b))).map fun space => (x :: b).drop space.length :=
  rfl

/-- One round drops some bytes from the front. -/
theorem dropSpace_some (hne : ∀ space ∈ spaces, space ≠ []) {b rest : Bytes}
    (h : dropSpace spaces b = some rest) : rest <:+ b ∧ rest.length < b.length := by
  cases b with
  | nil => cases h
  | cons x b =>
    rw [dropSpace_cons] at h
    split at h
    · cases h
      exact ⟨List.suffix_cons x _, by simp⟩
    · obtain ⟨space, hfind, rfl⟩ := Option.map_eq_some_iff.mp h
      have hpos := List.length_pos_iff.mpr (hne space (List.mem_of_find?_eq_some hfind))
      refine ⟨List.drop_suffix _ _, ?_⟩
      rw [List.length_drop, List.length_cons]
      omega

theorem dropSpaces_suffix (hne : ∀ space ∈ spaces, space ≠ []) (fuel : Nat) (b : Bytes) :
    dropSpaces spaces fuel b <:+ b := by
  induction fuel generalizing b with
  | zero => exact List.suffix_refl b
  | succ fuel ih =>
    unfold dropSpaces
    split
    · rename_i rest hrest
      exact (ih rest).trans (dropSpace_some hne hrest).1
    · exact List.suffix_refl b

/-- With enough fuel no space is left at the front. -/
theorem dropSpace_dropSpaces (hne : ∀ space ∈ spaces, space ≠ []) {fuel : Nat} {b : Bytes}
    (h : b.length ≤ fuel) : dropSpace spaces (dropSpaces spaces fuel b) = none := by
  induction fuel generalizing b with
  | zero =>
    rw [List.eq_nil_of_length_eq_zero (Nat.le_zero.mp h)]
    rfl
  | succ fuel ih =>
    unfold dropSpaces
    split
    · rename_i rest hrest
      have hlt := (dropSpace_some hne hrest).2
      exact ih (by omega)
    · rename_i hnone
      exact hnone

theorem dropSpaces_of_none {b : Bytes} (h : dropSpace spaces b = none) (fuel : Nat) :
    dropSpaces spaces fuel b = b := by
  cases fuel with
  | zero => rfl
  | succ fuel =>
    unfold dropSpaces
    rw [h]

/-- A prefix of a text begins with a space only if the text does. -/
theorem dropSpace_of_prefix {b b' : Bytes} (hpre : b' <+: b) (h : dropSpace spaces b = none) :
    dropSpace spaces b' = none := by
  cases b' with
  | nil => rfl
  | cons x b' =>
    obtain ⟨rest, rfl⟩ := hpre
    rw [List.cons_append, dropSpace_cons] at h
    rw [dropSpace_cons]
    split at h
    · cases h
    · rename_i hspace
      rw [if_neg hspace, Option.map_eq_none_iff, List.find?_eq_none]
      rw [Option.map_eq_none_iff, List.find?_eq_none] at h
      intro space hmem hstarts
      refine h space hmem ?_
      rw [List.isPrefixOf_iff_prefix] at hstarts ⊢
      exact hstarts.trans (List.prefix_append (x :: b') rest)

end Trim

theorem wideSpaces_ne_nil : ∀ space ∈ wideSpaces, space ≠ [] := by decide

theorem reverse_wideSpaces_ne_nil : ∀ space ∈ wideSpaces.map List.reverse, space ≠ [] := by decide

/-- A trimmed text stays as it is. -/
theorem trimSpace_trimSpace (b : Bytes) : trimSpace (trimSpace b) = trimSpace b := by
  -- `l` is the text without the spaces at the left, and `r` without those at the right, reversed.
  obtain ⟨l, hl⟩ : ∃ l, dropSpaces wideSpaces b.length b = l := ⟨_, rfl⟩
  obtain ⟨r, hr⟩ : ∃ r, dropSpaces (wideSpaces.map List.reverse) l.length l.reverse = r := ⟨_, rfl⟩
  have htrim : trimSpace b = r.reverse := by
    unfold trimSpace
    dsimp only
    rw [hl, hr]
  have hleft : dropSpace wideSpaces r.reverse = none := by
    have hprefix : r.reverse <+: l := by
      rw [← List.reverse_suffix, List.reverse_reverse, ← hr]
      exact dropSpaces_suffix reverse_wideSpaces_ne_nil _ _
    refine dropSpace_of_prefix hprefix ?_
    rw [← hl]
    exact dropSpace_dropSpaces wideSpaces_ne_nil (le_refl _)
  have hright : dropSpace (wideSpaces.map List.reverse) r = none := by
    rw [← hr]
    exact dropSpace_dropSpaces reverse_wideSpaces_ne_nil (by rw [List.length_reverse])
  rw [htrim]
  unfold trimSpace
  dsimp only
  rw [dropSpaces_of_none hleft, List.reverse_reverse, dropSpaces_of_none hright]

/-! ### What a request writes -/

/-- The hash that `StoreConfigForAgent` computes. -/
def rawHash (content : Bytes) : String := hexEncode (sha256 content)

/-- The hash is one that the server computes for the content. -/
def ServerHash (config : Config) : Prop :=
  config.configHash = hashConfig config.content ∨ config.configHash = rawHash config.content

/-- One of the requests sends the content with the hash. -/
def Sent (requests : List Request) (config : Config) : Prop :=
  ∃ env delivery req, Request.createConfig env delivery (.ok req) ∈ requests ∧
    req.content = config.content ∧ req.configHash = config.configHash

/-- What a request does to the configs: it leaves them, or it adds one. -/
inductive Wrote (configs : List Config) : Request → List Config → Prop where
  | nothing (request : Request) : Wrote configs request configs
  | created (env : Env) (delivery : Delivery) (req : CreateConfigRequest) (config : Config)
      (hcontent : req.content = config.content) (hhash : req.configHash = config.configHash) :
    Wrote configs (.createConfig env delivery (.ok req)) (configs ++ [config])
  | updated (env : Env) (configID : String) (body : Except String UpdateConfigRequest)
      (config : Config) (hhash : config.configHash = hashConfig config.content) :
    Wrote configs (.updateConfig env configID body) (configs ++ [config])
  | assigned (env : Env) (delivery : Delivery) (groupID : String)
      (body : Except String AssignConfigRequest) (config source : Config)
      (hsource : source ∈ configs) (hcontent : config.content = source.content)
      (hhash : config.configHash = source.configHash) :
    Wrote configs (.assignConfig env delivery groupID body) (configs ++ [config])
  | sent (env : Env) (delivery : Delivery) (agentID : String)
      (body : Except String SendConfigRequest) (config : Config)
      (hhash : config.configHash = rawHash config.content) :
    Wrote configs (.sendConfig env delivery agentID body) (configs ++ [config])

theorem configs_of_createConfig {env : Env} {s s' : Storage} {config : Config}
    (h : createConfig env s config = .ok s') : s'.configs = s.configs ++ [config] :=
  Storage.configs_createConfig (Env.call_eq_ok h).2

theorem bind_eq_ok_iff {α : Type} {struct : String} {fields : α → List (String × Bool)}
    {body : Except String α} {req : α} (h : bind struct fields body = .ok req) :
    body = .ok req := by
  unfold bind at h
  split at h
  · cases h
  · split at h
    · cases h
    · cases h
      rfl

theorem handleCreateConfig_wrote (env : Env) (delivery : Delivery)
    (body : Except String CreateConfigRequest) (s : State) :
    Wrote s.store.configs (.createConfig env delivery body)
      (handleCreateConfig env delivery body s).1.store.configs := by
  unfold handleCreateConfig
  split
  · exact .nothing _
  · rename_i req hbind
    dsimp only
    split
    · exact .nothing _
    · rename_i store hstore
      rw [configs_of_createConfig hstore, bind_eq_ok_iff hbind]
      exact .created env delivery req _ rfl rfl

theorem handleUpdateConfig_wrote (env : Env) (configID : String)
    (body : Except String UpdateConfigRequest) (s : State) :
    Wrote s.store.configs (.updateConfig env configID body)
      (handleUpdateConfig env configID body s).1.store.configs := by
  unfold handleUpdateConfig
  split
  · exact .nothing _
  · split
    · exact .nothing _
    · split
      · exact .nothing _
      · exact .nothing _
      · split
        · exact .nothing _
        · dsimp only
          split
          · exact .nothing _
          · rename_i store hstore
            dsimp only
            rw [configs_of_createConfig hstore]
            exact .updated env configID body _ rfl

theorem handleAssignConfig_wrote (env : Env) (delivery : Delivery) (groupID : String)
    (body : Except String AssignConfigRequest) (s : State) :
    Wrote s.store.configs (.assignConfig env delivery groupID body)
      (handleAssignConfig env delivery groupID body s).1.store.configs := by
  unfold handleAssignConfig
  split
  · exact .nothing _
  · split
    · exact .nothing _
    · split
      · split
        · rename_i config hget
          dsimp only
          split
          · exact .nothing _
          · rename_i store hstore
            rw [configs_of_createConfig hstore]
            have hmem : config ∈ s.store.configs :=
              List.mem_of_find?_eq_some (Except.ok.inj (Env.call_eq_ok hget).2)
            exact .assigned env delivery groupID body _ config hmem rfl rfl
        · exact .nothing _
      · exact .nothing _

/-- `StoreConfigForAgent` adds a config with the raw hash of its content. -/
theorem configs_storeConfigForAgent {env : Env} {s s' : Storage} {agentID : UUID} {content : Bytes}
    {config : Config} (h : storeConfigForAgent env s agentID content = .ok (config, s')) :
    s'.configs = s.configs ++ [config] ∧ config.configHash = rawHash config.content := by
  unfold storeConfigForAgent at h
  split at h
  · cases h
  · cases h
  · split at h
    · cases h
    · dsimp only at h
      split at h
      · cases h
      · rename_i store hstore
        cases h
        exact ⟨configs_of_createConfig hstore, rfl⟩

theorem handleSendConfigToAgent_wrote (env : Env) (delivery : Delivery) (agentID : String)
    (body : Except String SendConfigRequest) (s : State) :
    Wrote s.store.configs (.sendConfig env delivery agentID body)
      (handleSendConfigToAgent env delivery agentID body s).1.store.configs := by
  unfold handleSendConfigToAgent
  split
  · exact .nothing _
  · split
    · exact .nothing _
    · split
      · exact .nothing _
      · split
        · exact .nothing _
        · split
          · exact .nothing _
          · rename_i config store hstore
            obtain ⟨hconfigs, hhash⟩ := configs_storeConfigForAgent hstore
            -- The config stays, whether the push succeeds or not.
            split <;> dsimp only <;> rw [hconfigs] <;>
              exact .sent env delivery agentID body config hhash

/-- The OpAMP server writes no config. -/
theorem configs_server_step {srv srv' : Server} {e : Server.Event}
    (h : Server.step srv e = some srv') : srv'.store.configs = srv.store.configs := by
  cases e with
  | message env conn msg =>
    simp only [Server.step] at h
    split at h
    · rename_i response srv₁ hok
      cases h
      obtain ⟨_, agent, _, _, _, _, _, rfl⟩ := Server.onMessage_ok hok
      exact configs_persistAgent env srv.store agent msg
    · cases h
  | disconnect env conn =>
    cases h
    refine @Server.onDisconnect_keeps (fun s => s.configs = srv.store.configs) env conn srv ?_ rfl
    intro op store id f _ _ hstore
    obtain ⟨agents, hframe⟩ := logged_updateAgent_frame env op store id f
    rw [hframe]
    exact hstore

theorem step_wrote {s s' : State} {request : Request} (h : s.step request = some s') :
    Wrote s.store.configs request s'.store.configs := by
  cases request with
  | opamp e =>
    obtain ⟨srv, hstep, rfl⟩ := Option.map_eq_some_iff.mp h
    have hconfigs := configs_server_step hstep
    rw [show (s.withServer srv).store.configs = srv.store.configs from rfl, hconfigs]
    exact .nothing _
  | createConfig env delivery body =>
    cases h
    exact handleCreateConfig_wrote env delivery body s
  | updateConfig env configID body =>
    cases h
    exact handleUpdateConfig_wrote env configID body s
  | assignConfig env delivery groupID body =>
    cases h
    exact handleAssignConfig_wrote env delivery groupID body s
  | sendConfig env delivery agentID body =>
    cases h
    exact handleSendConfigToAgent_wrote env delivery agentID body s

/-! ### Runs -/

/-- Every stored config has a hash of the server, or one that a client has sent with its content. -/
theorem sent_or_serverHash {s t : State} {requests : List Request}
    (hstart : s.store.configs = []) (hrun : run State.step s requests = some t) :
    ∀ config ∈ t.store.configs, Sent requests config ∨ ServerHash config := by
  refine run_invariant_of_stepsMeet (C := fun _ request => request ∈ requests)
    (fun s => ∀ config ∈ s.store.configs, Sent requests config ∨ ServerHash config) ?_ ?_
    (stepsMeet_of_forall (fun _ h => h) s) hrun
  · intro s request s' hall hmem hstep
    have hwrote := step_wrote hstep
    generalize s.store.configs = configs at hall hwrote
    generalize s'.store.configs = configs' at hwrote ⊢
    have hnew : ∀ config, (Sent requests config ∨ ServerHash config) →
        ∀ d ∈ configs ++ [config], Sent requests d ∨ ServerHash d := by
      intro config hconfig d hd
      rcases List.mem_append.mp hd with hd | hd
      · exact hall d hd
      · rw [List.mem_singleton.mp hd]
        exact hconfig
    cases hwrote with
    | nothing => exact hall
    | created env delivery req config hcontent hhash =>
      exact hnew config (Or.inl ⟨env, delivery, req, hmem, hcontent, hhash⟩)
    | updated env configID body config hhash => exact hnew config (Or.inr (Or.inl hhash))
    | assigned env delivery groupID body config source hsource hcontent hhash =>
      refine hnew config ?_
      -- A copy has the content and the hash of a stored config.
      rcases hall source hsource with ⟨env', delivery', req, hreq, hcontent', hhash'⟩ | hserver
      · exact Or.inl ⟨env', delivery', req, hreq, hcontent'.trans hcontent.symm,
          hhash'.trans hhash.symm⟩
      · unfold ServerHash at hserver
        rw [← hcontent, ← hhash] at hserver
        exact Or.inr hserver
    | sent env delivery agentID body config hhash => exact hnew config (Or.inr (Or.inr hhash))
  · rw [hstart]
    intro config hconfig
    cases hconfig

/-- The hash of a server is the raw hash of the content or of the trimmed content. -/
theorem ServerHash.hashed {config : Config} (h : ServerHash config) :
    ∃ content ∈ [config.content, trimSpace config.content],
      config.configHash = rawHash content ∧ trimSpace content = trimSpace config.content := by
  rcases h with h | h
  · exact ⟨trimSpace config.content, by simp, h, trimSpace_trimSpace config.content⟩
  · exact ⟨config.content, by simp, h, rfl⟩

/-- The texts that the hashes of the configs can be of. -/
def hashedTexts (configs : List Config) : List Bytes :=
  configs.flatMap fun config => [config.content, trimSpace config.content]

/-- SHA-256 tells the texts apart. -/
def CollisionFree (texts : List Bytes) : Prop :=
  ∀ a ∈ texts, ∀ b ∈ texts, sha256 a = sha256 b → a = b

instance (texts : List Bytes) : Decidable (CollisionFree texts) := by
  unfold CollisionFree
  infer_instance

theorem mem_hashedTexts {configs : List Config} {config : Config} (h : config ∈ configs)
    {content : Bytes} (hcontent : content ∈ [config.content, trimSpace config.content]) :
    content ∈ hashedTexts configs :=
  List.mem_flatMap.mpr ⟨config, h, hcontent⟩

/-- The hash of every config identifies its content, up to the white space at its ends. -/
def HashesIdentifyContent (configs : List Config) : Prop :=
  ∀ c ∈ configs, ∀ d ∈ configs,
    (c.content = d.content → c.configHash = d.configHash) ∧
      (c.configHash = d.configHash → trimSpace c.content = trimSpace d.content)

/-- Both hashes are trimmed, or both are raw. -/
def SameWay (c d : Config) : Prop :=
  (c.configHash = hashConfig c.content ∧ d.configHash = hashConfig d.content) ∨
    (c.configHash = rawHash c.content ∧ d.configHash = rawHash d.content)

/-- A hash is one that a client has sent with the content, or one of the server. The hashes of the
server identify the content: two that are equal are of contents that differ in the white space at
their ends at most, and two of the same content are equal if the content has no such white space, or
if both are computed in the same way. -/
structure ServerHashesIdentifyContent (requests : List Request) (configs : List Config) :
    Prop where
  origin : ∀ config ∈ configs, Sent requests config ∨ ServerHash config
  content : ∀ c ∈ configs, ∀ d ∈ configs, ServerHash c → ServerHash d →
    c.configHash = d.configHash → trimSpace c.content = trimSpace d.content
  hash : ∀ c ∈ configs, ∀ d ∈ configs, ServerHash c → ServerHash d → c.content = d.content →
    trimSpace c.content = c.content ∨ SameWay c d → c.configHash = d.configHash

/-- In every store that the requests lead to, from one without configs. -/
theorem serverHashes_identify {store : Storage} {requests : List Request} {t : State}
    (hstart : store.configs = []) (hrun : run State.step (.start store) requests = some t)
    (hsha : CollisionFree (hashedTexts t.store.configs)) :
    ServerHashesIdentifyContent requests t.store.configs where
  origin := sent_or_serverHash hstart hrun
  content c hc d hd hserver hserver' hhash := by
    obtain ⟨a, ha, hhashA, htrimA⟩ := hserver.hashed
    obtain ⟨b, hb, hhashB, htrimB⟩ := hserver'.hashed
    have hraw : rawHash a = rawHash b := by rw [← hhashA, ← hhashB, hhash]
    have hab : a = b :=
      hsha a (mem_hashedTexts hc ha) b (mem_hashedTexts hd hb) (hexEncode_injective hraw)
    rw [← htrimA, ← htrimB, hab]
  hash c _ d _ hserver hserver' hcontent hsame := by
    rcases hsame with htrim | ⟨hc, hd⟩ | ⟨hc, hd⟩
    · have hboth : hashConfig c.content = rawHash c.content := by
        unfold hashConfig
        rw [htrim]
        rfl
      have hraw : ∀ config, ServerHash config → config.content = c.content →
          config.configHash = rawHash c.content := by
        rintro config (h | h) heq
        · rw [h, heq, hboth]
        · rw [h, heq]
      rw [hraw c hserver rfl, hraw d hserver' hcontent.symm]
    · rw [hc, hd, hcontent]
    · rw [hc, hd, hcontent]

/-- A config and an update of it that ends in a line break. -/
def createAndUpdate : List Request :=
  [.createConfig (.quiet 1 "c-1") ⟨fun _ => true, .asIs⟩
      (.ok { configHash := "hash_1", content := [0x61], version := .wrap 1 }),
    .updateConfig (.quiet 2 "c-2") "c-1" (.ok { content := [0x61, 0x0a], version := .wrap 2 })]

theorem serverHashes_identify_update :
    ∃ t, run State.step (.start .empty) createAndUpdate = some t ∧
      ServerHashesIdentifyContent createAndUpdate t.store.configs := by
  have hcontents : (run State.step (.start .empty) createAndUpdate).map
      (fun t => hashedTexts t.store.configs)
      = some [[0x61], [0x61], [0x61, 0x0a], [0x61]] := rfl
  obtain ⟨t, hrun, ht⟩ := Option.map_eq_some_iff.mp hcontents
  refine ⟨t, hrun, serverHashes_identify rfl hrun ?_⟩
  rw [ht]
  decide +kernel

/-- Two creates of the same content, with the hashes of the client. -/
def createTwice : List Request :=
  [.createConfig (.quiet 1 "c-1") ⟨fun _ => true, .asIs⟩
      (.ok { configHash := "hash_1", content := [0x61], version := .wrap 1 }),
    .createConfig (.quiet 2 "c-2") ⟨fun _ => true, .asIs⟩
      (.ok { configHash := "hash_2", content := [0x61], version := .wrap 1 })]

/-- Both hashes are stored as they are. -/
theorem hash_of_client_stored :
    ¬ ∀ (store : Storage) (requests : List Request) (t : State), store.configs = [] →
      run State.step (.start store) requests = some t →
      CollisionFree (hashedTexts t.store.configs) → HashesIdentifyContent t.store.configs := by
  intro hall
  have hconfigs : (run State.step (.start .empty) createTwice).map (·.store.configs)
      = some [
        { id := "c-1", agentID := none, groupID := none, configHash := "hash_1", content := [0x61],
          version := .wrap 1, createdAt := 1 },
        { id := "c-2", agentID := none, groupID := none, configHash := "hash_2", content := [0x61],
          version := .wrap 1, createdAt := 2 }] := rfl
  obtain ⟨t, hrun, ht⟩ := Option.map_eq_some_iff.mp hconfigs
  have hidentify := hall .empty createTwice t rfl hrun (by rw [ht]; decide +kernel)
  rw [ht] at hidentify
  have hboth := hidentify _ List.mem_cons_self _ (List.mem_cons_of_mem _ List.mem_cons_self)
  exact absurd (hboth.1 rfl) (by decide)

end OtelHive.Api
