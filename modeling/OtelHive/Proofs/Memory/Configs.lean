import OtelHive.Proofs.Memory.Agreement

/-!
# `OtelHive.Proofs.Memory.Configs`: the config queries against those of SQLite

SQLite orders the rows of a query. What `ORDER BY ... LIMIT n` returns is a prefix of a sorted
arrangement of the rows (`TopRows`), and rows that tie can come in either order.

The loop of the latest-config queries keeps a running maximum, which is a row that SQLite may return
whatever the order of the loop (`latest_mayReturn`). `ListConfigs` in memory does not sort: it
keeps the first rows of the loop. So its result is the newest configs in every order of the loop
exactly if at most one config passes the filter (`listsNewest_iff`).
-/

set_option autoImplicit false

namespace OtelHive.Memory

open OtelHive.Lib
open OtelHive.Types
open OtelHive.Sqlite (Storage)
open OtelHive.Sqlite.Storage (latestKey)

namespace Store

/-! ### The latest config -/

/-- The config is stored. -/
def Holds (s : Store) (config : Config) : Prop :=
  ∃ id, s.configs.lookup id = some config

/-- A query for one of the stored configs with `p` returns the latest: nothing exactly if there is
none, and else one that no other comes after in the order by version and time. SQLite may return
it from a table with the same rows, and it is the same for all orders of the loop if no two of the
configs have the same version and time. -/
structure IsLatest (s : Store) (p : Config → Bool) (query : IterOrder String → Option Config) :
    Prop where
  none_iff : ∀ order, query order = none ↔ ∀ config, s.Holds config → p config = false
  latest : ∀ order, ∀ config ∈ query order, s.Holds config ∧ p config = true ∧
    ∀ other, s.Holds other → p other = true →
      other.version < config.version ∨
        other.version = config.version ∧ other.createdAt ≤ config.createdAt
  mayReturn : ∀ order (t : Storage), t.configs.Perm (s.configs.values .asIs) →
    TopRows latestKey (t.configs.filter p) 1 (query order).toList
  independent : (∀ c d, s.Holds c → s.Holds d → p c = true → p d = true →
      c.version = d.version → c.createdAt = d.createdAt → c = d) →
    ∀ order order', query order = query order'

theorem values_perm (s : Store) (order order' : IterOrder String) :
    (s.configs.values order).Perm (s.configs.values order') :=
  ((order.perm _).trans (order'.perm _).symm).filterMap _

theorem mem_filter_values {s : Store} {p : Config → Bool} (order : IterOrder String)
    {config : Config} :
    config ∈ (s.configs.values order).filter p ↔ s.Holds config ∧ p config = true := by
  rw [List.mem_filter, mem_values]
  exact Iff.rfl

theorem isLatest_latestWhere (s : Store) (p : Config → Bool) :
    s.IsLatest p fun order => s.latestWhere order p := by
  constructor
  · intro order
    rw [latestWhere_eq, List.argmax_eq_none, List.eq_nil_iff_forall_not_mem]
    refine forall_congr' fun config => ?_
    rw [mem_filter_values, not_and, Bool.not_eq_true]
  · intro order config hconfig
    rw [latestWhere_eq] at hconfig
    obtain ⟨hholds, hp⟩ := (mem_filter_values order).mp (List.argmax_mem hconfig)
    refine ⟨hholds, hp, ?_⟩
    intro other hother hpother
    have hle := List.le_of_mem_argmax ((mem_filter_values order).mpr ⟨hother, hpother⟩) hconfig
    exact Prod.Lex.toLex_le_toLex.mp hle
  · intro order t hsame
    rw [latestWhere_eq]
    have hperm := (s.values_perm order .asIs).trans hsame.symm
    exact (topRows_argmax latestKey _).perm (hperm.filter p)
  · intro hdistinct order order'
    rw [latestWhere_eq, latestWhere_eq]
    refine argmax_perm ?_ ((s.values_perm order order').filter p)
    -- Configs with equal keys are the same one.
    intro c hc d hd _ hkey
    obtain ⟨hholdsc, hpc⟩ := (mem_filter_values order').mp hc
    obtain ⟨hholdsd, hpd⟩ := (mem_filter_values order').mp hd
    obtain ⟨hversion, htime⟩ := Prod.mk.inj hkey
    exact hdistinct c d hholdsc hholdsd hpc hpd hversion htime

/-- The latest-config queries in memory return the latest config of the agent and of the group. -/
theorem latest_mayReturn (s : Store) :
    (∀ agentID, s.IsLatest (·.agentID == some agentID)
      fun order => s.getLatestConfigForAgent order agentID) ∧
    ∀ groupID, s.IsLatest (·.groupID == some groupID)
      fun order => s.getLatestConfigForGroup order groupID :=
  ⟨fun _ => s.isLatest_latestWhere _, fun _ => s.isLatest_latestWhere _⟩

end Store

/-! ### The newest configs -/

/-- The configs that pass the filter, newest first, up to its limit. -/
def Newest (rows : List Config) (filter : ConfigFilter) (result : List Config) : Prop :=
  TopRows Config.createdAt (rows.filter filter.admits) filter.limit.1.toNat result

/-- `ListConfigs` returns the newest configs on both backends, in memory for every order of the
loop. -/
def ListsNewest (t : Storage) (s : Store) (filter : ConfigFilter) : Prop :=
  Newest t.configs filter (t.listConfigs filter) ∧
    ∀ order, Newest t.configs filter (s.listConfigs order filter)

theorem newest_sqlite (t : Storage) {filter : ConfigFilter} (hlimit : 0 < filter.limit.1) :
    Newest t.configs filter (t.listConfigs filter) := by
  unfold Storage.listConfigs
  rw [if_pos hlimit]
  exact topRows_insertionSort Config.createdAt _ _

/-- With a limit, the loop keeps its first configs that pass. -/
theorem listConfigs_eq_take (s : Store) (order : IterOrder String) {filter : ConfigFilter}
    (hlimit : 0 < filter.limit.1) :
    s.listConfigs order filter
      = ((s.configs.values order).filter filter.admits).take filter.limit.1.toNat := by
  unfold Store.listConfigs
  dsimp only
  split
  · rfl
  · rename_i hshort
    rw [List.take_of_length_le]
    omega

/-- Of two configs with different times, one is older. -/
theorem exists_older {configs : List Config}
    (hdistinct : configs.Pairwise fun c d => c.createdAt ≠ d.createdAt)
    (hmany : ¬ configs.length ≤ 1) :
    ∃ c ∈ configs, ∃ d ∈ configs, c.createdAt < d.createdAt := by
  match configs, hdistinct, hmany with
  | [], _, hmany => exact absurd (Nat.zero_le 1) hmany
  | [_], _, hmany => exact absurd (Nat.le_refl 1) hmany
  | c :: d :: rest, hdistinct, _ =>
    have hne := (List.pairwise_cons.mp hdistinct).1 d List.mem_cons_self
    rcases lt_or_gt_of_ne hne with hlt | hlt
    · exact ⟨c, List.mem_cons_self, d, by simp, hlt⟩
    · exact ⟨d, by simp, c, List.mem_cons_self, hlt⟩

/-- On the same rows with distinct times, and with a positive limit, SQLite lists the newest
configs, and both backends do exactly if at most one config passes the filter. -/
theorem listsNewest_iff {t : Storage} {s : Store}
    (hsame : t.configs.Perm (s.configs.values .asIs))
    (hdistinct : t.configs.Pairwise fun c d => c.createdAt ≠ d.createdAt) {filter : ConfigFilter}
    (hlimit : 0 < filter.limit.1) :
    Newest t.configs filter (t.listConfigs filter) ∧
      (ListsNewest t s filter ↔ (t.configs.filter filter.admits).length ≤ 1) := by
  have hrows : ∀ order, ((s.configs.values order).filter filter.admits).Perm
      (t.configs.filter filter.admits) :=
    fun order => ((s.values_perm order .asIs).trans hsame.symm).filter _
  refine ⟨newest_sqlite t hlimit, ?_, ?_⟩
  -- A loop that begins at an older one of two configs lists it first.
  · rintro ⟨-, hmemory⟩
    by_contra hmany
    obtain ⟨c, hc, d, hd, hlt⟩ := exists_older (hdistinct.filter filter.admits) hmany
    obtain ⟨⟨id, hid⟩, hadmits⟩ :=
      (Store.mem_filter_values .asIs).mp ((hrows .asIs).mem_iff.mpr hc)
    obtain ⟨rest, hrest⟩ := values_first hid
    have hlisted := hmemory (IterOrder.first id)
    obtain ⟨n, hn⟩ : ∃ n, filter.limit.1.toNat = n + 1 := ⟨filter.limit.1.toNat - 1, by omega⟩
    rw [listConfigs_eq_take s _ hlimit, hrest, List.filter_cons_of_pos hadmits, hn,
      List.take_succ_cons] at hlisted
    exact absurd (hlisted.le_head hd) (not_le.mpr hlt)
  · intro hone
    refine ⟨newest_sqlite t hlimit, ?_⟩
    intro order
    rw [listConfigs_eq_take s order hlimit]
    refine ⟨_, hrows order, ?_, rfl⟩
    have hlength := (hrows order).length_eq
    match hvalues : (s.configs.values order).filter filter.admits with
    | [] => exact List.Pairwise.nil
    | [_] => exact List.pairwise_singleton _ _
    | _ :: _ :: _ =>
      rw [hvalues] at hlength
      simp only [List.length_cons] at hlength
      omega

/-- A config of the group `"g"`. -/
def groupConfig (id : String) (version : GoInt) (createdAt : Time) : Config where
  id
  groupID := some "g"
  configHash := "h"
  content := [1]
  version
  createdAt

/-- The configs of the group `"g"`, at most one of them. -/
def latestOfGroup : ConfigFilter where
  groupID := some "g"
  limit := .wrap 1

/-- The store after the configs are created, on both backends. -/
def withConfigs (configs : List Config) : Backends where
  sqlite := ⟨[], [], configs⟩
  memory := ⟨∅, ∅, configs.foldl (fun m config => m.insert config.id config) ∅⟩

theorem listsNewest_one :
    ListsNewest (withConfigs [groupConfig "a" (.wrap 1) 1]).sqlite
      (withConfigs [groupConfig "a" (.wrap 1) 1]).memory latestOfGroup :=
  (listsNewest_iff (.refl _) (List.pairwise_singleton _ _) (by decide)).2.mpr (by decide)

/-- Two configs of a group: SQLite lists the newer one, and memory the older one if the loop comes
to it first. -/
theorem older_listed :
    (withConfigs [groupConfig "a" (.wrap 1) 1, groupConfig "b" (.wrap 2) 2]).memory.listConfigs
        (.first "a") latestOfGroup = [groupConfig "a" (.wrap 1) 1] ∧
      (withConfigs [groupConfig "a" (.wrap 1) 1, groupConfig "b" (.wrap 2) 2]).sqlite.listConfigs
        latestOfGroup = [groupConfig "b" (.wrap 2) 2] ∧
      ¬ ∀ (t : Storage) (s : Store), t.configs.Perm (s.configs.values .asIs) →
        (t.configs.Pairwise fun c d => c.createdAt ≠ d.createdAt) →
        ∀ filter : ConfigFilter, 0 < filter.limit.1 → ListsNewest t s filter := by
  refine ⟨by decide, by decide, ?_⟩
  intro hall
  have hnewest := hall
    (withConfigs [groupConfig "a" (.wrap 1) 1, groupConfig "b" (.wrap 2) 2]).sqlite
    (withConfigs [groupConfig "a" (.wrap 1) 1, groupConfig "b" (.wrap 2) 2]).memory
    (by decide) (by decide) latestOfGroup (by decide)
  have hlisted := hnewest.2 (.first "a")
  have hfirst : (withConfigs [groupConfig "a" (.wrap 1) 1,
      groupConfig "b" (.wrap 2) 2]).memory.listConfigs (.first "a") latestOfGroup
        = [groupConfig "a" (.wrap 1) 1] := by decide
  rw [hfirst] at hlisted
  exact absurd (hlisted.le_head (b := groupConfig "b" (.wrap 2) 2) (by decide)) (by decide)

end OtelHive.Memory
