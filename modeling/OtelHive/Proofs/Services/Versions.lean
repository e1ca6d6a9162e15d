import OtelHive.Lib.Numbering
import OtelHive.Lib.Runs
import OtelHive.Proofs.Memory.Configs
import OtelHive.Proofs.Services.StoreConfig
import OtelHive.Services.Concurrent

/-!
# `OtelHive.Proofs.Services.Versions`: the versions of an agent under concurrent calls

`StoreConfigForAgent` takes its version from a read of the latest config, and the insert comes in a
later step. If another call for the agent inserts in between, both use the same version.

`Numbered` says that the versions of each agent are distinct, and that the calls that have succeeded
have added the versions after the largest one. `numbered_step_iff` says for one step when it goes
on to hold: an insert must find the config that its call has read to be the latest still, and the
next version must exist (`InsertsNext`). `numbered_iff` is the same for runs, on both backends.
-/

set_option autoImplicit false

namespace OtelHive.Services.Concurrent

open OtelHive.Lib
open OtelHive.Types
open OtelHive.Sqlite (Storage)
open OtelHive.Memory (Store)

/-! ### What the backends guarantee -/

/-- The latest-config query finds a config with the largest version of the agent, and an insert adds
one row. -/
structure AppStore.Lawful {σ κ : Type} (store : AppStore σ κ) : Prop where
  latest_none : ∀ s ctx agentID, store.getLatestConfigForAgent s ctx agentID = none →
    ofAgent agentID (store.configs s) = []
  latest_some : ∀ s ctx agentID, ∀ latest ∈ store.getLatestConfigForAgent s ctx agentID,
    latest ∈ ofAgent agentID (store.configs s) ∧
      ∀ d ∈ ofAgent agentID (store.configs s), d.version.1 ≤ latest.version.1
  insert : ∀ s s' ctx config, store.createConfig s ctx config = .ok s' →
    (store.configs s').Perm (store.configs s ++ [config])

theorem sqlite_lawful : sqlite.Lawful where
  latest_none _ _ _ h := ofAgent_eq_nil h
  latest_some _ _ _ _ h := version_le_latest h
  insert s s' foreignKeys config h := by
    have hconfigs : s'.configs = s.configs ++ [config] := Storage.configs_createConfig h
    rw [show sqlite.configs s' = s'.configs from rfl, hconfigs]
    exact List.Perm.refl _

/-- The rows of a Go map after the insert of a new key. -/
theorem values_insert {m : GoMap String Config} {config : Config}
    (hnew : m.lookup config.id = none) :
    (GoMap.values (m.insert config.id config) .asIs).Perm (m.values .asIs ++ [config]) := by
  have hkey : config.id ∉ m.keys := by
    rw [← AList.mem_keys]
    exact AList.lookup_eq_none.mp hnew
  have hvalues : GoMap.values (m.insert config.id config) .asIs
      = config :: m.values .asIs := by
    show (m.insert config.id config).keys.filterMap (m.insert config.id config).lookup
      = config :: m.keys.filterMap m.lookup
    rw [AList.keys_insert, List.erase_of_not_mem hkey, List.filterMap_cons,
      GoMap.lookup_insert_eq, if_pos rfl]
    refine congrArg (config :: ·) (List.filterMap_congr ?_)
    intro k hk
    rw [GoMap.lookup_insert_eq, if_neg]
    rintro rfl
    exact hkey hk
  rw [hvalues]
  exact (List.perm_append_singleton config _).symm

theorem memory_lawful : memory.Lawful where
  latest_none s order agentID h := by
    have hnone := ((Store.isLatest_latestWhere s (·.agentID == some agentID)).none_iff order).mp h
    rw [List.eq_nil_iff_forall_not_mem]
    intro d hd
    obtain ⟨hmem, hagent⟩ := mem_ofAgent.mp hd
    have hother := hnone d ((mem_values IterOrder.asIs).mp hmem)
    rw [hagent, beq_self_eq_true] at hother
    cases hother
  latest_some s order agentID latest h := by
    obtain ⟨hholds, hagent, hle⟩ :=
      (Store.isLatest_latestWhere s (·.agentID == some agentID)).latest order latest h
    have hmem : ∀ d, s.Holds d → d.agentID = some agentID →
        d ∈ ofAgent agentID (memory.configs s) :=
      fun d hd hid => mem_ofAgent.mpr ⟨(mem_values IterOrder.asIs).mpr hd, hid⟩
    refine ⟨hmem latest hholds (by simpa using hagent), ?_⟩
    intro d hd
    obtain ⟨hd, hid⟩ := mem_ofAgent.mp hd
    rcases hle d ((mem_values IterOrder.asIs).mp hd) (by simp [hid]) with hlt | ⟨heq, -⟩
    · exact le_of_lt hlt
    · rw [heq]
  insert s s' order config h := by
    have hcreate : s.createConfig config = .ok s' := h
    unfold Store.createConfig at hcreate
    split at hcreate
    · cases hcreate
    · rename_i hnew
      cases hcreate
      exact values_insert hnew

/-! ### Versions -/

/-- The versions of the agent. -/
def versions (agentID : UUID) (configs : List Config) : List Int :=
  (ofAgent agentID configs).map (·.version.1)

theorem versions_concat (agentID : UUID) (configs : List Config) (config : Config) :
    versions agentID (configs ++ [config]) = if config.agentID = some agentID
      then versions agentID configs ++ [config.version.1] else versions agentID configs := by
  unfold versions ofAgent
  rw [List.filter_append, List.filter_singleton]
  by_cases hagent : config.agentID = some agentID
  · simp [hagent]
  · have hbeq : (config.agentID == some agentID) = false := by simpa using hagent
    simp [hbeq, hagent]

theorem versions_perm {agentID : UUID} {configs configs' : List Config}
    (h : configs.Perm configs') : (versions agentID configs).Perm (versions agentID configs') :=
  (h.filter _).map _

/-- The call has stored a config for the agent. -/
def Call.hasStored (agentID : UUID) (call : Call) : Bool :=
  match call.stage with
  | .returned (.ok _) => call.agentID == agentID
  | _ => false

section System

variable {σ κ : Type} (store : AppStore σ κ)

/-- The number of calls that have succeeded for the agent. -/
def System.stored (sys : System σ) (agentID : UUID) : Nat :=
  sys.calls.countP (Call.hasStored agentID)

/-- The versions of each agent are distinct. They are those at the start, and the ones after the
largest of these, one for each call that has succeeded. -/
def Numbered (start : σ) (sys : System σ) : Prop :=
  ∀ agentID, (versions agentID (store.configs sys.store)).Nodup ∧
    (versions agentID (store.configs sys.store)).Perm
      (versions agentID (store.configs start)
        ++ numbersAfter (versions agentID (store.configs start)) (sys.stored agentID))

/-- The config that a call has read is the latest of the agent still, and there is a version
after it. -/
def StillLatest (configs : List Config) (agentID : UUID) : Option Config → Prop
  | none => ofAgent agentID configs = []
  | some latest =>
    (∀ d ∈ ofAgent agentID configs, d.version.1 ≤ latest.version.1) ∧
      latest.version.1 < 2 ^ 63 - 1

instance (configs : List Config) (agentID : UUID) (latest? : Option Config) :
    Decidable (StillLatest configs agentID latest?) := by
  cases latest? <;> unfold StillLatest <;> infer_instance

/-- An insert that succeeds finds the config that its call has read to be the latest still. -/
def InsertsNext (sys : System σ) : Event κ → Prop
  | .advance i ctx newUUID now => ∀ call ∈ sys.calls[i]?, ∀ latest?,
      call.stage = .createConfig latest? →
      (store.createConfig sys.store ctx (call.newConfig latest? newUUID now)).isOk = true →
      StillLatest (store.configs sys.store) call.agentID latest?
  | _ => True

end System

/-! ### Steps -/

section Step

variable {σ κ : Type} {store : AppStore σ κ}

/-- What a step does: it begins a call, it lets a call go on without an insert, or it inserts the
config of a call. -/
inductive Stepped (store : AppStore σ κ) (sys : System σ) : Event κ → System σ → Prop where
  | began (agentID : UUID) (content : Bytes) :
    Stepped store sys (.storeConfigForAgent agentID content)
      { sys with calls := sys.calls ++ [{ agentID, content }] }
  | goesOn (i : Nat) (ctx : κ) (newUUID : String) (now : Time) (call : Call) (stage : Stage)
      (hcall : sys.calls[i]? = some call)
      (hold : ∀ result, call.stage ≠ .returned result)
      (hnew : ∀ config, stage ≠ .returned (.ok config))
      (hread : ∀ latest?, stage = .createConfig latest? →
        latest? = store.getLatestConfigForAgent sys.store ctx call.agentID)
      (hinsert : ∀ latest?, call.stage = .createConfig latest? →
        (store.createConfig sys.store ctx (call.newConfig latest? newUUID now)).isOk = false) :
    Stepped store sys (.advance i ctx newUUID now)
      { sys with calls := sys.calls.set i { call with stage } }
  | inserted (i : Nat) (ctx : κ) (newUUID : String) (now : Time) (call : Call)
      (latest? : Option Config) (s' : σ) (hcall : sys.calls[i]? = some call)
      (hold : call.stage = .createConfig latest?)
      (hinsert : store.createConfig sys.store ctx (call.newConfig latest? newUUID now) = .ok s') :
    Stepped store sys (.advance i ctx newUUID now)
      ⟨s', sys.calls.set i
        { call with stage := .returned (.ok (call.newConfig latest? newUUID now)) }⟩

theorem step_inv {sys sys' : System σ} {e : Event κ} (h : sys.step store e = some sys') :
    Stepped store sys e sys' := by
  cases e with
  | storeConfigForAgent agentID content =>
    cases h
    exact .began agentID content
  | advance i ctx newUUID now =>
    obtain ⟨call, hcall, hrest⟩ := Option.bind_eq_some_iff.mp h
    obtain ⟨⟨call', s'⟩, hadvance, hsys⟩ := Option.bind_eq_some_iff.mp hrest
    cases hsys
    unfold Call.advance at hadvance
    split at hadvance
    · rename_i hstage
      have hgoesOn : ∀ stage, (∀ config, stage ≠ .returned (.ok config)) →
          (∀ latest?, stage ≠ .createConfig latest?) →
          Stepped store sys (.advance i ctx newUUID now)
            { sys with calls := sys.calls.set i { call with stage } } := by
        intro stage hnew hread
        refine .goesOn i ctx newUUID now call stage hcall ?_ hnew ?_ ?_
        · rw [hstage]
          simp
        · exact fun latest? hlatest => absurd hlatest (hread latest?)
        · rw [hstage]
          simp
      split at hadvance
      · cases hadvance
        exact hgoesOn _ (by simp) (by simp)
      · split at hadvance
        · cases hadvance
          exact hgoesOn _ (by simp) (by simp)
        · cases hadvance
          exact hgoesOn _ (by simp) (by simp)
    · rename_i hstage
      cases hadvance
      refine .goesOn i ctx newUUID now call _ hcall ?_ (by simp) ?_ ?_
      · rw [hstage]
        simp
      · intro latest? hlatest
        cases hlatest
        rfl
      · rw [hstage]
        simp
    · rename_i latest? hstage
      dsimp only at hadvance
      split at hadvance
      · rename_i err herr
        cases hadvance
        refine .goesOn i ctx newUUID now call _ hcall ?_ (by simp) (by simp) ?_
        · rw [hstage]
          simp
        · rw [hstage]
          intro latest?' heq
          cases heq
          rw [herr]
          rfl
      · rename_i s' hinsert
        cases hadvance
        exact .inserted i ctx newUUID now call latest? s' hcall hstage hinsert
    · cases hadvance

/-- What a call has read, and what the tables keep: the rows of the start are there, a call that has
read no config had none at the start, and the config that a call has read is stored. -/
structure ReadInv (store : AppStore σ κ) (start : σ) (sys : System σ) : Prop where
  kept : ∀ d ∈ store.configs start, d ∈ store.configs sys.store
  readNone : ∀ call ∈ sys.calls, call.stage = .createConfig none →
    ofAgent call.agentID (store.configs start) = []
  readSome : ∀ call ∈ sys.calls, ∀ latest, call.stage = .createConfig (some latest) →
    latest ∈ ofAgent call.agentID (store.configs sys.store)

theorem readInv_new (store : AppStore σ κ) (start : σ) : ReadInv store start (.new start) where
  kept _ hd := hd
  readNone _ hcall := absurd hcall List.not_mem_nil
  readSome _ hcall := absurd hcall List.not_mem_nil

theorem mem_ofAgent_mono {agentID : UUID} {configs configs' : List Config} {d : Config}
    (h : ∀ d ∈ configs, d ∈ configs') (hd : d ∈ ofAgent agentID configs) :
    d ∈ ofAgent agentID configs' := by
  obtain ⟨hmem, hagent⟩ := mem_ofAgent.mp hd
  exact mem_ofAgent.mpr ⟨h d hmem, hagent⟩

theorem ReadInv.step (hlawful : store.Lawful) {start : σ} {sys sys' : System σ} {e : Event κ}
    (h : ReadInv store start sys) (hs : sys.step store e = some sys') :
    ReadInv store start sys' := by
  cases step_inv hs with
  | began agentID content =>
    refine ⟨h.kept, ?_, ?_⟩
    · intro call hcall hstage
      rcases List.mem_append.mp hcall with hcall | hcall
      · exact h.readNone call hcall hstage
      · rw [List.mem_singleton.mp hcall] at hstage
        cases hstage
    · intro call hcall latest hstage
      rcases List.mem_append.mp hcall with hcall | hcall
      · exact h.readSome call hcall latest hstage
      · rw [List.mem_singleton.mp hcall] at hstage
        cases hstage
  | goesOn i ctx newUUID now call stage hcall hold hnew hread hinsert =>
    refine ⟨h.kept, ?_, ?_⟩
    · intro call' hcall' hstage
      rcases List.mem_or_eq_of_mem_set hcall' with hcall' | rfl
      · exact h.readNone call' hcall' hstage
      -- Nothing is read now, so there was nothing at the start.
      · have hnone := hlawful.latest_none sys.store ctx call.agentID (hread _ hstage).symm
        rw [List.eq_nil_iff_forall_not_mem] at hnone ⊢
        exact fun d hd => hnone d (mem_ofAgent_mono h.kept hd)
    · intro call' hcall' latest hstage
      rcases List.mem_or_eq_of_mem_set hcall' with hcall' | rfl
      · exact h.readSome call' hcall' latest hstage
      · exact (hlawful.latest_some sys.store ctx call.agentID latest (hread _ hstage).symm).1
  | inserted i ctx newUUID now call latest? s' hcall hold hinsert =>
    have hgrows : ∀ d ∈ store.configs sys.store, d ∈ store.configs s' := by
      intro d hd
      exact (hlawful.insert _ _ _ _ hinsert).mem_iff.mpr (List.mem_append_left _ hd)
    refine ⟨fun d hd => hgrows d (h.kept d hd), ?_, ?_⟩
    · intro call' hcall' hstage
      rcases List.mem_or_eq_of_mem_set hcall' with hcall' | rfl
      · exact h.readNone call' hcall' hstage
      · cases hstage
    · intro call' hcall' latest hstage
      rcases List.mem_or_eq_of_mem_set hcall' with hcall' | rfl
      · exact mem_ofAgent_mono hgrows (h.readSome call' hcall' latest hstage)
      · cases hstage

/-- A call that has not stored a config yet. -/
theorem stored_set {sys : System σ} {s : σ} {i : Nat} {call call' : Call}
    (hcall : sys.calls[i]? = some call) {agentID : UUID} (hold : call.hasStored agentID = false) :
    (⟨s, sys.calls.set i call'⟩ : System σ).stored agentID
      = sys.stored agentID + if call'.hasStored agentID then 1 else 0 := by
  obtain ⟨hi, hget⟩ := List.getElem?_eq_some_iff.mp hcall
  unfold System.stored
  rw [List.countP_set hi, hget, hold]
  simp

/-- The version after the one that a call has read is the next one exactly if it has read the
latest. -/
theorem stillLatest_iff {start : σ} {sys : System σ} (h : ReadInv store start sys) {call : Call}
    (hcall : call ∈ sys.calls) {latest? : Option Config}
    (hstage : call.stage = .createConfig latest?) {k : Nat}
    (hperm : (versions call.agentID (store.configs sys.store)).Perm
      (versions call.agentID (store.configs start)
        ++ numbersAfter (versions call.agentID (store.configs start)) k)) :
    (versionAfter latest?).1 = largest (versions call.agentID (store.configs start)) + 1 + k ↔
      StillLatest (store.configs sys.store) call.agentID latest? := by
  have hle : ∀ d ∈ ofAgent call.agentID (store.configs sys.store),
      d.version.1 ≤ largest (versions call.agentID (store.configs start)) + k := by
    intro d hd
    exact le_of_perm_after hperm (List.mem_map_of_mem hd)
  cases latest? with
  | none =>
    have hstart : versions call.agentID (store.configs start) = [] := by
      unfold versions
      rw [h.readNone call hcall hstage]
      rfl
    have hlargest : largest (versions call.agentID (store.configs start)) = 0 := by
      rw [hstart]
      rfl
    -- The agent had no config at the start, so it has one for each call that has succeeded.
    show (1 : Int) = _ ↔ ofAgent call.agentID (store.configs sys.store) = []
    rw [hlargest]
    rw [hstart, List.nil_append] at hperm
    have hlength := hperm.length_eq
    unfold versions numbersAfter at hlength
    rw [List.length_map, List.length_map, List.length_range] at hlength
    rw [← List.length_eq_zero_iff, hlength]
    omega
  | some latest =>
    have hmem := h.readSome call hcall latest hstage
    have hlatest := hle latest hmem
    show (GoInt.succ latest.version).1 = _ ↔ _ ∧ _
    constructor
    -- The next version is above the one read, so it has not wrapped around.
    · intro hnext
      have hlt : latest.version.1 < (GoInt.succ latest.version).1 := by omega
      have hmax := GoInt.lt_succ_iff.mp hlt
      have hsucc := GoInt.succ_val hmax
      refine ⟨?_, hmax⟩
      intro d hd
      have hd' := hle d hd
      omega
    · rintro ⟨htop, hmax⟩
      have hne : versions call.agentID (store.configs sys.store) ≠ [] := by
        intro hnil
        have hin : latest.version.1 ∈ versions call.agentID (store.configs sys.store) :=
          List.mem_map_of_mem hmem
        rw [hnil] at hin
        cases hin
      obtain ⟨d, hd, hversion⟩ := List.mem_map.mp (mem_of_perm_after hperm hne)
      have hd' := htop d hd
      rw [GoInt.succ_val hmax]
      omega

/-- A call that has not returned a config has stored none. -/
theorem hasStored_eq_false {call : Call} (h : ∀ config, call.stage ≠ .returned (.ok config))
    (agentID : UUID) : call.hasStored agentID = false := by
  unfold Call.hasStored
  split
  · rename_i hstage
    exact absurd hstage (h _)
  · rfl

/-- The condition of a step that inserts is about its call alone. -/
theorem insertsNext_iff {sys : System σ} {i : Nat} {ctx : κ} {newUUID : String} {now : Time}
    {call : Call} {latest? : Option Config} {s' : σ} (hcall : sys.calls[i]? = some call)
    (hold : call.stage = .createConfig latest?)
    (hinsert : store.createConfig sys.store ctx (call.newConfig latest? newUUID now) = .ok s') :
    InsertsNext store sys (.advance i ctx newUUID now) ↔
      StillLatest (store.configs sys.store) call.agentID latest? := by
  constructor
  · intro hall
    refine hall call hcall latest? hold ?_
    rw [hinsert]
    rfl
  · intro hstill call' hcall' latest?' hstage _
    rw [hcall] at hcall'
    cases hcall'
    rw [hold] at hstage
    cases hstage
    exact hstill

/-- An insert leads to a numbered state exactly if its config has the next version of the agent. -/
theorem numbered_insert_iff (hlawful : store.Lawful) {start : σ}
    (hdistinct : ∀ agentID, (versions agentID (store.configs start)).Nodup) {sys : System σ}
    {i : Nat} {ctx : κ} {newUUID : String} {now : Time} {call : Call} {latest? : Option Config}
    {s' : σ} (h : Numbered store start sys) (hcall : sys.calls[i]? = some call)
    (hold : call.stage = .createConfig latest?)
    (hinsert : store.createConfig sys.store ctx (call.newConfig latest? newUUID now) = .ok s') :
    Numbered store start ⟨s', sys.calls.set i
        { call with stage := .returned (.ok (call.newConfig latest? newUUID now)) }⟩ ↔
      (versionAfter latest?).1 = largest (versions call.agentID (store.configs start)) + 1
        + sys.stored call.agentID := by
  have hstored : ∀ id, (⟨s', sys.calls.set i { call with
      stage := .returned (.ok (call.newConfig latest? newUUID now)) }⟩ : System σ).stored id
        = sys.stored id + if call.agentID = id then 1 else 0 := by
    intro id
    rw [stored_set hcall (hasStored_eq_false (by simp [hold]) id)]
    simp [Call.hasStored]
  have hversions : ∀ id, (versions id (store.configs s')).Perm
      (if call.agentID = id
        then versions id (store.configs sys.store) ++ [(versionAfter latest?).1]
        else versions id (store.configs sys.store)) := by
    intro id
    refine (versions_perm (hlawful.insert _ _ _ _ hinsert)).trans ?_
    rw [versions_concat]
    simp [Call.newConfig]
  rw [← perm_concat_after_iff (h call.agentID).2]
  constructor
  · intro h'
    have hagent := (h' call.agentID).2
    rw [hstored, if_pos rfl] at hagent
    have hown := hversions call.agentID
    rw [if_pos rfl] at hown
    exact hown.symm.trans hagent
  · intro hperm id
    have hnumbered : (versions id (store.configs s')).Perm
        (versions id (store.configs start) ++ numbersAfter (versions id (store.configs start))
          (sys.stored id + if call.agentID = id then 1 else 0)) := by
      by_cases hid : call.agentID = id
      · subst hid
        have hown := hversions call.agentID
        rw [if_pos rfl] at hown ⊢
        exact hown.trans hperm
      -- The other agents keep their versions and their count.
      · have hother := hversions id
        rw [if_neg hid] at hother ⊢
        exact hother.trans (h id).2
    rw [hstored]
    exact ⟨hnumbered.nodup_iff.mpr (nodup_append_after (hdistinct id) _), hnumbered⟩

/-- From a state in which the versions are numbered, a step leads to such a state exactly if its
insert uses the next version. -/
theorem numbered_step_iff (hlawful : store.Lawful) {start : σ}
    (hdistinct : ∀ agentID, (versions agentID (store.configs start)).Nodup) {sys sys' : System σ}
    {e : Event κ} (hread : ReadInv store start sys) (h : Numbered store start sys)
    (hs : sys.step store e = some sys') :
    Numbered store start sys' ↔ InsertsNext store sys e := by
  cases step_inv hs with
  | began agentID content =>
    refine iff_of_true ?_ trivial
    intro id
    have hstored : ({ sys with calls := sys.calls ++ [⟨agentID, content, .getAgent⟩] } :
        System σ).stored id = sys.stored id := by
      unfold System.stored
      rw [List.countP_append]
      rfl
    rw [hstored]
    exact h id
  | goesOn i ctx newUUID now call stage hcall hold hnew hread' hinsert =>
    refine iff_of_true ?_ ?_
    · intro id
      rw [stored_set hcall (hasStored_eq_false (fun config => hold _) id),
        hasStored_eq_false hnew id]
      exact h id
    · intro call' hcall' latest? hstage hok
      rw [hcall] at hcall'
      cases hcall'
      rw [hinsert latest? hstage] at hok
      cases hok
  | inserted i ctx newUUID now call latest? s' hcall hold hinsert =>
    rw [insertsNext_iff hcall hold hinsert,
      numbered_insert_iff hlawful hdistinct h hcall hold hinsert]
    exact stillLatest_iff hread (List.mem_of_getElem? hcall) hold (h call.agentID).2

/-- The versions are numbered along a run exactly if each of its inserts uses the next version. -/
theorem along_numbered_iff (hlawful : store.Lawful) {start : σ}
    (hdistinct : ∀ agentID, (versions agentID (store.configs start)).Nodup) {es : List (Event κ)}
    (hruns : (run (System.step store) (.new start) es).isSome) :
    Along (System.step store) (Numbered store start) (.new start) es ↔
      StepsMeet (System.step store) (InsertsNext store) (.new start) es := by
  refine along_iff_stepsMeet (I := ReadInv store start) (D := fun _ => True)
    (fun _ _ _ h hs => h.step hlawful hs)
    (fun _ _ _ _ hread h hs => numbered_step_iff hlawful hdistinct hread h hs)
    (fun _ _ => trivial) (readInv_new store start) ?_ hruns
  intro agentID
  have hnone : numbersAfter (versions agentID (store.configs start))
      ((System.new start).stored agentID) = [] := rfl
  rw [hnone, List.append_nil]
  exact ⟨hdistinct agentID, List.Perm.refl _⟩

end Step

/-! ### Runs -/

theorem Backend.store_lawful : ∀ backend : Backend, backend.store.Lawful
  | .sqlite => sqlite_lawful
  | .memory => memory_lawful

/-- On either backend, from tables in which the versions of each agent are distinct, every run keeps
them distinct, and adds the versions after the largest one, exactly if each of its inserts uses the
next version. -/
theorem numbered_iff (backend : Backend) (start : backend.Tables)
    (es : List (Event backend.Context))
    (hdistinct : ∀ agentID, (versions agentID (backend.store.configs start)).Nodup)
    (hruns : (run (System.step backend.store) (.new start) es).isSome) :
    Along (System.step backend.store) (Numbered backend.store start) (.new start) es ↔
      StepsMeet (System.step backend.store) (InsertsNext backend.store) (.new start) es :=
  along_numbered_iff backend.store_lawful hdistinct hruns

/-- A call that no other one interrupts does what `storeConfigForAgent` does. -/
theorem run_alone {env : Env} (hagent : env.faults .getAgent = none)
    (hlatest : env.faults .getLatestConfigForAgent = none)
    (hcreate : env.faults .createConfig = none) (s : Storage) (agentID : UUID) (content : Bytes) :
    ∃ n, run (System.step sqlite) ⟨s, [{ agentID, content }]⟩
        (List.replicate n (.advance 0 env.foreignKeys env.newUUID env.now))
      = some ⟨storeAfter env s agentID content, [⟨agentID, content,
          .returned ((storeConfigForAgent env s agentID content).map Prod.fst)⟩]⟩ := by
  have hget : getAgent env s agentID = .ok (s.getAgent agentID) :=
    Env.call_of_faults_eq_none hagent _
  have hversion : nextVersion env s agentID
      = versionAfter (s.getLatestConfigForAgent agentID) := by
    unfold nextVersion getLatestConfigForAgent
    rw [Env.call_of_faults_eq_none hlatest]
    cases s.getLatestConfigForAgent agentID <;> rfl
  unfold storeAfter storeConfigForAgent
  rw [hget, hversion]
  cases hfound : s.getAgent agentID with
  | none =>
    refine exists_run_replicate ?_ ⟨0, rfl⟩
    simp [System.step, Call.advance, sqlite, hfound, Except.map]
  | some agent =>
    by_cases hcapable : "accepts_remote_config" ∈ agent.capabilities
    · have hchecks : System.step sqlite ⟨s, [{ agentID, content }]⟩
          (.advance 0 env.foreignKeys env.newUUID env.now)
          = some ⟨s, [⟨agentID, content, .getLatestConfigForAgent⟩]⟩ := by
        simp [System.step, Call.advance, sqlite, hfound, hcapable]
      have hreads : System.step sqlite ⟨s, [⟨agentID, content, .getLatestConfigForAgent⟩]⟩
          (.advance 0 env.foreignKeys env.newUUID env.now)
          = some ⟨s, [⟨agentID, content, .createConfig (s.getLatestConfigForAgent agentID)⟩]⟩ := rfl
      refine exists_run_replicate hchecks (exists_run_replicate hreads ?_)
      refine exists_run_replicate ?_ ⟨0, rfl⟩
      have hinsert : ∀ config, createConfig env s config = s.createConfig env.foreignKeys config :=
        fun config => Env.call_of_faults_eq_none hcreate _
      cases hresult : s.createConfig env.foreignKeys (newConfig env s agentID content) <;>
        simp only [newConfig, hversion] at hresult <;>
        simp [System.step, Call.advance, sqlite, Call.newConfig, hcapable, hinsert, hresult,
          Except.map]
    · refine exists_run_replicate ?_ ⟨0, rfl⟩
      simp [System.step, Call.advance, sqlite, hfound, hcapable, Except.map]

/-- The versions of the one config. -/
theorem nodup_oneConfig (agentID : UUID) : (versions agentID oneConfig.configs).Nodup := by
  have hall : (oneConfig.configs.map (·.version.1)).Nodup := by decide
  exact hall.sublist (List.filter_sublist.map _)

/-- A call on its own. -/
def aloneSchedule : List (Event Bool) :=
  .storeConfigForAgent .nil [2] :: List.replicate 3 (.advance 0 true "c-2" 2)

/-- Two calls that read before either inserts. -/
def staleSchedule : List (Event Bool) :=
  [.storeConfigForAgent .nil [2], .storeConfigForAgent .nil [3], .advance 0 true "" 2,
    .advance 0 true "" 2, .advance 1 true "" 2, .advance 1 true "" 2, .advance 0 true "c-2" 2,
    .advance 1 true "c-3" 3]

theorem numbered_alone :
    Along (System.step sqlite) (Numbered sqlite oneConfig) (.new oneConfig) aloneSchedule := by
  refine (numbered_iff .sqlite oneConfig aloneSchedule nodup_oneConfig rfl).mpr ?_
  refine ⟨trivial, ?_⟩
  rintro _ ⟨⟩
  refine ⟨?_, ?_⟩
  · rintro _ ⟨⟩ _ ⟨⟩
  rintro _ ⟨⟩
  refine ⟨?_, ?_⟩
  · rintro _ ⟨⟩ _ ⟨⟩
  rintro _ ⟨⟩
  refine ⟨?_, fun _ _ => trivial⟩
  rintro _ ⟨⟩ _ ⟨⟩ -
  decide

/-- Both calls store the version 2. -/
theorem version_shared :
    ∃ sys, run (System.step sqlite) (.new oneConfig) staleSchedule = some sys ∧
      versions .nil sys.store.configs = [1, 2, 2] ∧
      ¬ ∀ (backend : Backend) (start : backend.Tables) (es : List (Event backend.Context)),
        (∀ agentID, (versions agentID (backend.store.configs start)).Nodup) →
        (run (System.step backend.store) (.new start) es).isSome →
        Along (System.step backend.store) (Numbered backend.store start) (.new start) es := by
  have hversions : (run (System.step sqlite) (.new oneConfig) staleSchedule).map
      (fun sys => versions .nil sys.store.configs) = some [1, 2, 2] := rfl
  obtain ⟨sys, hrun, hsys⟩ := Option.map_eq_some_iff.mp hversions
  refine ⟨sys, hrun, hsys, ?_⟩
  intro hall
  have hlast := (hall .sqlite oneConfig staleSchedule nodup_oneConfig rfl).last hrun .nil
  have hnodup : (versions .nil sys.store.configs).Nodup := hlast.1
  rw [hsys] at hnodup
  exact absurd hnodup (by decide)

end OtelHive.Services.Concurrent
