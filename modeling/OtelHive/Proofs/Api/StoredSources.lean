import OtelHive.Lib.Runs
import OtelHive.Proofs.Api.EditSource

/-!
# `OtelHive.Proofs.Api.StoredSources`: the branch and the root of a stored source

A row of `git_sources` should have a branch and a config root, which default to `main` and
`configs`. `Create` fills in the defaults. `Update` does not, and `HandleUpdateSource` passes on
what the request says. So after any requests every row has both exactly if each update that was
accepted had both (`wellFormed_iff`).
-/

set_option autoImplicit false

namespace OtelHive.Api

open OtelHive.Lib
open OtelHive.Gitsync

/-- Each row has a branch and a config root. -/
def WellFormed (t : Sources) : Prop :=
  ∀ row ∈ t, row.branch ≠ "" ∧ row.configRoot ≠ ""

/-- The table after a request. -/
def sourcesStep (t : Sources) (e : SourceEnv × SourceRequest) : Option Sources :=
  some (handleSource e.1 t e.2).1

/-- The request edits a source: there is one with the id, the request is valid, and the database
answers. -/
structure Accepted (env : SourceEnv) (t : Sources) (id : String) (req : CreateSourceRequest) :
    Prop where
  found : ∃ row ∈ t, row.id = id
  valid : validate env.quote req.newSource = none
  read : env.faults .get = none
  written : env.faults .update = none

/-- An update that is accepted has a branch and a config root. -/
def KeepsWellFormed (t : Sources) : SourceEnv × SourceRequest → Prop
  | (env, .update id (.ok req)) => Accepted env t id req → req.branch ≠ "" ∧ req.configRoot ≠ ""
  | _ => True

/-! ### One request -/

/-- `Create` fills in what is blank. -/
theorem prepare_wellFormed (env : SourceEnv) (gs : SourceRow) :
    (Sources.prepare env gs).branch ≠ "" ∧ (Sources.prepare env gs).configRoot ≠ "" := by
  unfold Sources.prepare
  constructor
  · show (if gs.branch = "" then "main" else gs.branch) ≠ ""
    split
    · decide
    · assumption
  · show (if gs.configRoot = "" then "configs" else gs.configRoot) ≠ ""
    split
    · decide
    · assumption

theorem wellFormed_create {env : SourceEnv} {t : Sources} (h : WellFormed t)
    (body : Except String CreateSourceRequest) : WellFormed (handleCreateSource env t body).1 := by
  unfold handleCreateSource
  split
  · exact h
  · rename_i req _
    split
    · exact h
    · rename_i t' gs hcreate
      unfold createSource at hcreate
      split at hcreate
      · cases hcreate
      · have hinsert := (SourceEnv.call_eq_ok hcreate).2
        split at hinsert
        · cases hinsert
        · cases hinsert
          intro row hrow
          rcases List.mem_append.mp hrow with hrow | hrow
          · exact h row hrow
          · rw [List.mem_singleton.mp hrow]
            exact prepare_wellFormed env req.newSource

theorem wellFormed_delete {env : SourceEnv} {t : Sources} (h : WellFormed t) (id : String) :
    WellFormed (handleDeleteSource env t id).1 := by
  unfold handleDeleteSource
  split
  · exact h
  · split
    · exact h
    · rename_i t' hdelete
      cases (SourceEnv.call_eq_ok hdelete).2
      intro row hrow
      exact h row (List.mem_filter.mp hrow).1

/-- A request that is not accepted leaves the table as it is. -/
theorem handleUpdateSource_of_not_accepted {env : SourceEnv} {t : Sources} {id : String}
    {req : CreateSourceRequest} (h : ¬ Accepted env t id req) :
    (handleUpdateSource env t id (.ok req)).1 = t := by
  unfold handleUpdateSource
  split
  · rfl
  · rename_i existing hget
    obtain ⟨hread, hfind⟩ := find?_of_get hget
    have hfound : ∃ row ∈ t, row.id = id :=
      ⟨existing, List.mem_of_find?_eq_some hfind, key_of_find? hfind⟩
    split
    · rfl
    · rename_i req' hbind
      have hreq : req' = req := by
        unfold bind at hbind
        dsimp only at hbind
        split at hbind
        · cases hbind
        · cases hbind
          rfl
      rw [hreq]
      split
      · rfl
      · rename_i t' gs hupdate
        unfold updateSource at hupdate
        split at hupdate
        · cases hupdate
        -- The row was valid, so the database must have failed.
        · rename_i hvalid
          have hwritten := (SourceEnv.call_eq_ok hupdate).1
          exact absurd ⟨hfound, hvalid, hread, hwritten⟩ h

/-- A request that is accepted writes its fields to the rows of the id. -/
theorem handleUpdateSource_of_valid {env : SourceEnv} {t : Sources} {id : String}
    {req : CreateSourceRequest} (h : Accepted env t id req) :
    ∃ gs : SourceRow, gs.branch = req.branch ∧ gs.configRoot = req.configRoot ∧
      (handleUpdateSource env t id (.ok req)).1
        = t.map fun row => if row.id = id then row.configuredAs gs env.now else row := by
  obtain ⟨row, hrow, hid⟩ := h.found
  have hsome : (t.find? (·.id == id)).isSome := by
    rw [← any_key_eq]
    exact any_key_iff.mpr ⟨row, hrow, hid⟩
  obtain ⟨existing, hfind⟩ := Option.isSome_iff_exists.mp hsome
  have hget : t.get env id = .ok existing := by
    unfold Sources.get SourceEnv.call
    rw [h.read, hfind]
  obtain ⟨hname, hrepo, hprovider⟩ := required_of_validate h.valid
  have hbind : bind "createSourceRequest" CreateSourceRequest.required (.ok req) = .ok req := by
    have hname' : req.name ≠ "" := hname
    have hrepo' : req.repoURL ≠ "" := hrepo
    have hprovider' : req.provider ≠ "" := hprovider
    simp [bind, missingRequired, CreateSourceRequest.required, hname', hrepo', hprovider']
  -- The validation reads the name, the address and the provider, which the edit sets.
  have hvalid : validate env.quote (req.edit existing) = none := h.valid
  refine ⟨req.edit existing, rfl, rfl, ?_⟩
  unfold handleUpdateSource updateSource Sources.update SourceEnv.call
  simp only [hget, hbind, hvalid, h.written]
  have hid' : existing.id = id := key_of_find? hfind
  rw [show (req.edit existing).id = id from hid']

/-- An update keeps the branches and the roots exactly if it is not accepted, or sets both. -/
theorem wellFormed_update_iff {env : SourceEnv} {t : Sources} (h : WellFormed t) (id : String)
    (req : CreateSourceRequest) :
    WellFormed (handleUpdateSource env t id (.ok req)).1 ↔
      (Accepted env t id req → req.branch ≠ "" ∧ req.configRoot ≠ "") := by
  by_cases haccepted : Accepted env t id req
  · obtain ⟨gs, hbranch, hroot, hupdate⟩ := handleUpdateSource_of_valid haccepted
    rw [hupdate]
    constructor
    -- The edited row is one of the table.
    · intro h' _
      obtain ⟨row, hrow, hid⟩ := haccepted.found
      have hedited := h' (row.configuredAs gs env.now)
        (List.mem_map.mpr ⟨row, hrow, if_pos hid⟩)
      rw [← hbranch, ← hroot]
      exact hedited
    · intro hreq row' hrow'
      obtain ⟨row, hrow, rfl⟩ := List.mem_map.mp hrow'
      split
      · show gs.branch ≠ "" ∧ gs.configRoot ≠ ""
        rw [hbranch, hroot]
        exact hreq haccepted
      · exact h row hrow
  · rw [handleUpdateSource_of_not_accepted haccepted]
    exact iff_of_true h fun h' => absurd h' haccepted

/-- From a table in which each row has both, a request leads to such a table exactly if it keeps
it so. -/
theorem wellFormed_step_iff {t t' : Sources} {e : SourceEnv × SourceRequest} (h : WellFormed t)
    (hs : sourcesStep t e = some t') : WellFormed t' ↔ KeepsWellFormed t e := by
  obtain ⟨env, request⟩ := e
  cases hs
  cases request with
  | list =>
    refine iff_of_true ?_ trivial
    show WellFormed (handleListSources env t).1
    unfold handleListSources
    split <;> exact h
  | get id =>
    refine iff_of_true ?_ trivial
    show WellFormed (handleGetSource env t id).1
    unfold handleGetSource
    split <;> exact h
  | create body => exact iff_of_true (wellFormed_create h body) trivial
  | delete id => exact iff_of_true (wellFormed_delete h id) trivial
  | update id body =>
    cases body with
    | error err =>
      refine iff_of_true ?_ trivial
      show WellFormed (handleUpdateSource env t id (.error err)).1
      unfold handleUpdateSource
      split <;> exact h
    | ok req => exact wellFormed_update_iff h id req

/-! ### All requests -/

/-- After any requests each row has a branch and a config root, exactly if each update that was
accepted had both. -/
theorem wellFormed_iff (es : List (SourceEnv × SourceRequest)) :
    Along sourcesStep WellFormed [] es ↔ StepsMeet sourcesStep KeepsWellFormed [] es := by
  have hruns : (run sourcesStep [] es).isSome :=
    isSome_run_of_isSome (fun _ _ => rfl) [] es
  exact along_iff_stepsMeet (I := fun _ => True) (D := fun _ => True) (fun _ _ _ _ _ => trivial)
    (fun _ _ _ _ _ h hs => wellFormed_step_iff h hs) (fun _ _ => trivial) trivial
    (fun _ hrow => absurd hrow List.not_mem_nil) hruns

/-- A source with the default branch and root. -/
def defaultsRequest : CreateSourceRequest where
  name := "configs"
  repoURL := "https://example.com/configs"
  provider := "github"

/-- An update without a branch and a root clears those of the row. -/
theorem blank_branch_stored :
    ∃ t, run sourcesStep []
        [(.quiet 1 "s", .create (.ok defaultsRequest)),
          (.quiet 2 "u", .update "s" (.ok defaultsRequest))] = some t ∧
      t.map (fun row => (row.id, row.branch, row.configRoot)) = [("s", "", "")] ∧
      ¬ ∀ es, Along sourcesStep WellFormed [] es := by
  refine ⟨_, rfl, by decide, ?_⟩
  intro hall
  have hlast := (hall [(.quiet 1 "s", .create (.ok defaultsRequest)),
    (.quiet 2 "u", .update "s" (.ok defaultsRequest))]).last rfl
  exact (hlast _ List.mem_cons_self).1 (by decide)

end OtelHive.Api
