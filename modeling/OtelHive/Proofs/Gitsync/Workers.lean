import OtelHive.Gitsync.Workers
import OtelHive.Lib.Lists
import OtelHive.Lib.Runs

/-!
# `OtelHive.Proofs.Gitsync.Workers`: when the pollers match the stored sources

While calls are in progress, a worker can be in the map without its row and a row can be stored
without its worker. The invariant `Balanced` says that a call in progress then makes up for it: a
`DeleteSource` has yet to stop the worker, or a call will start a worker for the row or delete it.
Without calls in progress the keys of the map are the stored ids (`Balanced.keys_eq`).

A step can lose the invariant in four ways, and `Careful` excludes them: a worker is started for a
source without a row, a row is deleted whose worker runs, a `DELETE` fails after the worker has been
stopped, and the list of the sources fails at the start. `running_iff_stored` is the result for
every run whose steps are careful.
-/

set_option autoImplicit false

namespace OtelHive.Gitsync.Workers

open OtelHive.Lib

namespace Service

/-! ### The property and the condition -/

/-- The source has a row. -/
def Stored (s : Service) (id : String) : Prop := ∃ row ∈ s.table, row.id = id

/-- The source has a worker in the map. -/
def Running (s : Service) (id : String) : Prop := id ∈ s.workers.keys

/-- No call is in progress. -/
def Idle (s : Service) : Prop := ∀ call ∈ s.calls, call = .returned

end Service

/-- The call will start a worker for the source or delete its row, if nothing fails. -/
def Call.Handles (id : String) : Call → Prop
  | .listing _ => True
  | .starting _ sources => ∃ gs ∈ sources, gs.id = id
  | .stopping next | .closing _ next => next.id = id
  | .deleting id' => id' = id
  | .returned => False

/-- The call will take the worker of the source out of the map, and not start another. -/
abbrev Call.stopsFor (id : String) : Call := .stopping (.delete id)

namespace Service

/-- The step of a call keeps rows and workers together, where `others` are the other calls:
* A worker that is started has a row, or a `DeleteSource` has yet to stop it.
* A row that is deleted has no worker, or another `DeleteSource` has yet to stop it.
* When the deletion of a row or the list of the sources fails, each row that is left concerned has a
  worker, or another call will start one or delete the row. -/
def CarefulCall (s : Service) (env : SourceEnv) (others : List Call) : Call → Prop
  | .listing _ =>
    (env.faults .list).isSome →
      ∀ row ∈ s.table, s.Running row.id ∨ ∃ call ∈ others, call.Handles row.id
  | .starting _ (gs :: _) => s.Running gs.id ∨ s.Stored gs.id ∨ Call.stopsFor gs.id ∈ others
  | .deleting id =>
    match env.faults .delete with
    | none => s.Running id → Call.stopsFor id ∈ others
    | some _ => s.Stored id → s.Running id ∨ ∃ call ∈ others, call.Handles id
  | _ => True

/-- `CarefulCall` for the call that goes on. -/
def Careful (s : Service) : Event → Prop
  | .proceed i env => ∀ call ∈ s.calls[i]?, s.CarefulCall env (s.calls.eraseIdx i) call
  | _ => True

instance (s : Service) (id : String) : Decidable (s.Stored id) :=
  inferInstanceAs (Decidable (∃ row ∈ s.table, row.id = id))

instance (s : Service) (id : String) : Decidable (s.Running id) :=
  inferInstanceAs (Decidable (id ∈ s.workers.keys))

instance (s : Service) : Decidable s.Idle :=
  inferInstanceAs (Decidable (∀ call ∈ s.calls, call = .returned))

instance (id : String) : ∀ call : Call, Decidable (call.Handles id)
  | .listing _ => .isTrue trivial
  | .starting _ sources => inferInstanceAs (Decidable (∃ gs ∈ sources, gs.id = id))
  | .stopping next => inferInstanceAs (Decidable (next.id = id))
  | .closing _ next => inferInstanceAs (Decidable (next.id = id))
  | .deleting id' => inferInstanceAs (Decidable (id' = id))
  | .returned => .isFalse fun h => h

instance (s : Service) (env : SourceEnv) (others : List Call) :
    ∀ call, Decidable (s.CarefulCall env others call)
  | .listing _ => inferInstanceAs <| Decidable <| (env.faults .list).isSome →
      ∀ row ∈ s.table, s.Running row.id ∨ ∃ call ∈ others, call.Handles row.id
  | .starting _ (gs :: _) => inferInstanceAs <| Decidable <|
      s.Running gs.id ∨ s.Stored gs.id ∨ Call.stopsFor gs.id ∈ others
  | .deleting id =>
    match hfault : env.faults .delete with
    | none => decidable_of_iff (s.Running id → Call.stopsFor id ∈ others) (by
        simp only [CarefulCall, hfault])
    | some _ => decidable_of_iff
        (s.Stored id → s.Running id ∨ ∃ call ∈ others, call.Handles id) (by
          simp only [CarefulCall, hfault])
  | .starting _ [] | .stopping _ | .closing _ _ | .returned => .isTrue trivial

instance (s : Service) : ∀ e, Decidable (s.Careful e)
  | .proceed i env => inferInstanceAs <| Decidable <|
      ∀ call ∈ s.calls[i]?, s.CarefulCall env (s.calls.eraseIdx i) call
  | .start | .createSource _ _ | .updateSource _ _ | .deleteSource _ | .exit _ | .stop =>
    .isTrue trivial

/-- A worker without a row is about to be stopped, and a row without a worker is about to get one
or to be deleted. -/
structure Balanced (s : Service) : Prop where
  stored : ∀ id, s.Running id → s.Stored id ∨ Call.stopsFor id ∈ s.calls
  running : ∀ id, s.Stored id → s.Running id ∨ ∃ call ∈ s.calls, call.Handles id

/-- Without calls in progress, the workers are those of the stored sources. -/
theorem Balanced.keys_eq {s : Service} (h : s.Balanced) (hidle : s.Idle) (id : String) :
    s.Running id ↔ s.Stored id := by
  constructor
  · intro hrunning
    rcases h.stored id hrunning with hstored | hcall
    · exact hstored
    · cases hidle _ hcall
  · intro hstored
    rcases h.running id hstored with hrunning | ⟨call, hcall, hhandles⟩
    · exact hrunning
    · rw [hidle call hcall] at hhandles
      exact hhandles.elim

/-! ### What the steps change -/

theorem running_startWorker (s : Service) (ctx : Option Nat) (gs : SourceRow) (id : String) :
    (s.startWorker ctx gs).Running id ↔ s.Running id ∨ id = gs.id := by
  unfold startWorker Running
  simp only [GoMap.mem_keys_iff]
  cases hlookup : s.workers.lookup gs.id with
  | some worker =>
    constructor
    · exact Or.inl
    · rintro (hrunning | rfl)
      · exact hrunning
      · exact ⟨worker, hlookup⟩
  | none =>
    simp only [GoMap.lookup_insert_eq]
    by_cases hid : id = gs.id
    · simp [hid]
    · simp [hid]

/-- `startWorker` leaves the table and the calls alone. -/
theorem startWorker_frame (s : Service) (ctx : Option Nat) (gs : SourceRow) :
    (s.startWorker ctx gs).table = s.table ∧ (s.startWorker ctx gs).calls = s.calls := by
  unfold startWorker
  split <;> exact ⟨rfl, rfl⟩

/-- `closeChannel` changes the goroutines only. -/
theorem closeChannel_frame (s : Service) (worker : Nat) :
    (s.closeChannel worker).table = s.table ∧ (s.closeChannel worker).workers = s.workers ∧
      (s.closeChannel worker).calls = s.calls := by
  unfold closeChannel
  split <;> exact ⟨rfl, rfl, rfl⟩

/-! ### The store -/

theorem create_ok {env : SourceEnv} {t t' : Sources} {gs gs' : SourceRow}
    (h : t.create env gs = .ok (t', gs')) : ∃ row, t' = t ++ [row] ∧ row.id = gs'.id := by
  obtain ⟨-, hcreate⟩ := SourceEnv.call_eq_ok h
  split at hcreate
  · cases hcreate
  · cases hcreate
    exact ⟨_, rfl, rfl⟩

/-- `Update` keeps the ids, also when there is no row. -/
theorem update_ok {env : SourceEnv} {t t' : Sources} {gs gs' : SourceRow}
    (h : t.update env gs = .ok (t', gs')) (id : String) :
    (∃ row ∈ t', row.id = id) ↔ ∃ row ∈ t, row.id = id := by
  obtain ⟨-, hupdate⟩ := SourceEnv.call_eq_ok h
  cases hupdate
  have hid : ∀ row : SourceRow,
      (if row.id = gs.id then row.configuredAs gs env.now else row).id = row.id := by
    intro row
    split <;> rfl
  simp only [List.mem_map, exists_exists_and_eq_and, hid]

theorem list_ok {env : SourceEnv} {t sources : Sources} (h : t.list env = .ok sources) :
    env.faults .list = none ∧ ∀ row, row ∈ sources ↔ row ∈ t := by
  obtain ⟨hfault, hlist⟩ := SourceEnv.call_eq_ok h
  cases hlist
  exact ⟨hfault, fun row => (List.perm_insertionSort _ t).mem_iff⟩

theorem list_error {env : SourceEnv} {t : Sources} {err : String} (h : t.list env = .error err) :
    (env.faults .list).isSome := by
  unfold Sources.list SourceEnv.call at h
  split at h
  · rename_i hfault
    rw [hfault]
    rfl
  · cases h

theorem delete_ok {env : SourceEnv} {t t' : Sources} {id : String}
    (h : t.delete env id = .ok t') : env.faults .delete = none ∧ t' = t.filter (·.id != id) := by
  obtain ⟨hfault, hdelete⟩ := SourceEnv.call_eq_ok h
  cases hdelete
  exact ⟨hfault, rfl⟩

theorem delete_error {env : SourceEnv} {t : Sources} {id err : String}
    (h : t.delete env id = .error err) : env.faults .delete = some err := by
  unfold Sources.delete SourceEnv.call at h
  split at h
  · rename_i hfault
    cases h
    exact hfault
  · cases h

/-! ### One step -/

/-- A call begins, and handles the rows that are new. -/
theorem Balanced.begin {s s' : Service} {call : Call} (h : s.Balanced)
    (hcalls : s'.calls = s.calls ++ [call]) (hworkers : s'.workers = s.workers)
    (hkept : ∀ id, s.Stored id → s'.Stored id)
    (hnew : ∀ id, s'.Stored id → s.Stored id ∨ call.Handles id) : s'.Balanced := by
  constructor
  · intro id hrunning
    rw [hcalls]
    rw [Running, hworkers] at hrunning
    rcases h.stored id hrunning with hstored | hcall
    · exact Or.inl (hkept id hstored)
    · exact Or.inr (List.mem_append_left _ hcall)
  · intro id hstored
    rw [hcalls, Running, hworkers]
    rcases hnew id hstored with hold | hhandles
    · rcases h.running id hold with hrunning | ⟨call', hcall', hhandles⟩
      · exact Or.inl hrunning
      · exact Or.inr ⟨call', List.mem_append_left _ hcall', hhandles⟩
    · exact Or.inr ⟨call, List.mem_append_right _ List.mem_cons_self, hhandles⟩

/-- A call goes on, and the other calls stay as they are. -/
theorem Balanced.of_next {s s' : Service} {i : Nat} {call call' : Call}
    (hcall : s.calls[i]? = some call) (hcalls : s'.calls = s.calls.set i call')
    (hstored : ∀ id, s'.Running id →
      s'.Stored id ∨ Call.stopsFor id = call' ∨ Call.stopsFor id ∈ s.calls.eraseIdx i)
    (hrunning : ∀ id, s'.Stored id →
      s'.Running id ∨ call'.Handles id ∨ ∃ c ∈ s.calls.eraseIdx i, c.Handles id) :
    s'.Balanced := by
  constructor
  · intro id h
    rw [hcalls, mem_set_iff hcall]
    exact hstored id h
  · intro id h
    rcases hrunning id h with hrunning | hhandles | ⟨c, hc, hhandles⟩
    · exact Or.inl hrunning
    · exact Or.inr ⟨call', by rw [hcalls, mem_set_iff hcall]; exact Or.inl rfl, hhandles⟩
    · exact Or.inr ⟨c, by rw [hcalls, mem_set_iff hcall]; exact Or.inr hc, hhandles⟩

/-- A call that does not stop a worker makes up for no worker without a row. -/
theorem Balanced.stored_of_ne {s : Service} {i : Nat} {call : Call} (h : s.Balanced)
    (hcall : s.calls[i]? = some call) (hne : ∀ id, Call.stopsFor id ≠ call) (id : String)
    (hrunning : s.Running id) : s.Stored id ∨ Call.stopsFor id ∈ s.calls.eraseIdx i := by
  rcases h.stored id hrunning with hstored | hstops
  · exact Or.inl hstored
  · exact Or.inr (((mem_iff_of_getElem? hcall).mp hstops).resolve_left (hne id))

theorem Balanced.running_of_call {s : Service} {i : Nat} {call : Call} (h : s.Balanced)
    (hcall : s.calls[i]? = some call) (id : String) (hstored : s.Stored id) :
    s.Running id ∨ call.Handles id ∨ ∃ c ∈ s.calls.eraseIdx i, c.Handles id := by
  rcases h.running id hstored with hrunning | ⟨c, hc, hhandles⟩
  · exact Or.inl hrunning
  · rcases (mem_iff_of_getElem? hcall).mp hc with rfl | hother
    · exact Or.inr (Or.inl hhandles)
    · exact Or.inr (Or.inr ⟨c, hother, hhandles⟩)

/-- After `stopWorker` the source has no worker in the map, and the call goes on to start another or
to delete the row. -/
theorem Balanced.stopping {s s' : Service} {i : Nat} {next : Next} {call' : Call} (h : s.Balanced)
    (hcall : s.calls[i]? = some (.stopping next)) (hcalls : s'.calls = s.calls.set i call')
    (htable : s'.table = s.table) (hrun' : ∀ id, s'.Running id ↔ s.Running id ∧ id ≠ next.id)
    (hcall' : call'.Handles next.id) : s'.Balanced := by
  refine of_next hcall hcalls ?_ ?_
  · intro id hrun
    obtain ⟨hrun, hne⟩ := (hrun' id).mp hrun
    rw [Stored, htable]
    rcases h.stored id hrun with hrow | hstops
    · exact Or.inl hrow
    · rcases (mem_iff_of_getElem? hcall).mp hstops with hself | hother
      · cases hself
        exact absurd rfl hne
      · exact Or.inr (Or.inr hother)
  · intro id hrow
    rw [Stored, htable] at hrow
    rcases h.running_of_call hcall id hrow with hrun | hself | hother
    · by_cases hid : id = next.id
      · rw [hid]
        exact Or.inr (Or.inl hcall')
      · exact Or.inl ((hrun' id).mpr ⟨hrun, hid⟩)
    · rw [← show next.id = id from hself]
      exact Or.inr (Or.inl hcall')
    · exact Or.inr (Or.inr hother)

/-- The call goes on to start another worker or to delete the row. -/
theorem handles_call (next : Next) : next.call.Handles next.id := by
  cases next with
  | restart gs => exact ⟨gs, List.mem_cons_self, rfl⟩
  | delete id => rfl

section Proceed

variable {s s' : Service} {i : Nat} {env : SourceEnv}

/-- The call of `Start` lists the sources. -/
theorem Balanced.listing {ctx : Nat} (h : s.Balanced) (hcall : s.calls[i]? = some (.listing ctx))
    (hcareful : s.CarefulCall env (s.calls.eraseIdx i) (.listing ctx))
    (hstep : s.proceed i env (.listing ctx) = some s') : s'.Balanced := by
  have hstored := h.stored_of_ne hcall fun _ => Call.noConfusion
  simp only [Service.proceed] at hstep
  split at hstep
  · rename_i err hlist
    cases hstep
    refine of_next hcall rfl (fun id hrun => (hstored id hrun).imp_right Or.inr) ?_
    rintro id ⟨row, hrow, rfl⟩
    exact (hcareful (list_error hlist) row hrow).imp_right Or.inr
  · rename_i sources hlist
    cases hstep
    refine of_next hcall rfl (fun id hrun => (hstored id hrun).imp_right Or.inr) ?_
    -- The loop will visit every row that is stored now.
    rintro id ⟨row, hrow, hid⟩
    exact Or.inr (Or.inl ⟨row, ((list_ok hlist).2 row).mpr hrow, hid⟩)

/-- A call starts the worker of the next source, or has none left. -/
theorem Balanced.starting {ctx : Option Nat} {sources : List SourceRow} (h : s.Balanced)
    (hcall : s.calls[i]? = some (.starting ctx sources))
    (hcareful : s.CarefulCall env (s.calls.eraseIdx i) (.starting ctx sources))
    (hstep : s.proceed i env (.starting ctx sources) = some s') : s'.Balanced := by
  have hrunning := h.running_of_call hcall
  have hstored := h.stored_of_ne hcall fun _ => Call.noConfusion
  cases sources with
  | nil =>
    cases hstep
    refine of_next hcall rfl (fun id hrun => (hstored id hrun).imp_right Or.inr) ?_
    intro id hrow
    rcases hrunning id hrow with hrun | ⟨gs, hgs, _⟩ | hother
    · exact Or.inl hrun
    · cases hgs
    · exact Or.inr (Or.inr hother)
  | cons gs sources =>
    cases hstep
    obtain ⟨htable, hcalls⟩ := startWorker_frame s ctx gs
    have hrow' : ∀ id, ((s.startWorker ctx gs).next i (.starting ctx sources)).Stored id
        ↔ s.Stored id := by
      intro id
      show (∃ row ∈ (s.startWorker ctx gs).table, row.id = id) ↔ _
      rw [htable]
      exact Iff.rfl
    have hrun' : ∀ id, ((s.startWorker ctx gs).next i (.starting ctx sources)).Running id
        ↔ s.Running id ∨ id = gs.id := running_startWorker s ctx gs
    refine of_next hcall (congrArg (fun calls : List Call => calls.set i _) hcalls) ?_ ?_
    · intro id hrun
      rw [hrow']
      rcases (hrun' id).mp hrun with hrun | rfl
      · exact (hstored id hrun).imp_right Or.inr
      -- The worker is new, and the condition says what makes up for a missing row.
      · rcases hcareful with hrun | hrow | hother
        · exact (hstored gs.id hrun).imp_right Or.inr
        · exact Or.inl hrow
        · exact Or.inr (Or.inr hother)
    · intro id hrow
      rw [hrun']
      rcases hrunning id ((hrow' id).mp hrow) with hrun | ⟨gs', hgs', hid⟩ | hother
      · exact Or.inl (Or.inl hrun)
      · rcases List.mem_cons.mp hgs' with rfl | hlater
        · exact Or.inl (Or.inr hid.symm)
        · exact Or.inr (Or.inl ⟨gs', hlater, hid⟩)
      · exact Or.inr (Or.inr hother)

/-- `stopWorker` takes the worker out of the map, if there is one. -/
theorem Balanced.stopWorker {next : Next} (h : s.Balanced)
    (hcall : s.calls[i]? = some (.stopping next))
    (hstep : s.proceed i env (.stopping next) = some s') : s'.Balanced := by
  simp only [Service.proceed] at hstep
  split at hstep
  · rename_i hlookup
    cases hstep
    refine h.stopping hcall rfl rfl ?_ (handles_call next)
    -- There is no worker to take out.
    intro id
    refine ⟨fun hrun => ⟨hrun, ?_⟩, And.left⟩
    rintro rfl
    obtain ⟨worker, hworker⟩ := (GoMap.mem_keys_iff _ _).mp hrun
    have hlookup' := hlookup.symm.trans hworker
    cases hlookup'
  · rename_i worker hlookup
    cases hstep
    refine h.stopping hcall rfl rfl ?_ rfl
    intro id
    show id ∈ (s.workers.erase next.id).keys ↔ id ∈ s.workers.keys ∧ id ≠ next.id
    simp only [GoMap.mem_keys_iff, GoMap.lookup_erase_eq]
    by_cases hid : id = next.id <;> simp [hid]

/-- The stop channel is closed. -/
theorem Balanced.closing {worker : Nat} {next : Next} (h : s.Balanced)
    (hcall : s.calls[i]? = some (.closing worker next))
    (hstep : s.proceed i env (.closing worker next) = some s') : s'.Balanced := by
  cases hstep
  obtain ⟨htable, hworkers, hcalls⟩ := closeChannel_frame s worker
  refine of_next hcall (congrArg (fun calls : List Call => calls.set i _) hcalls) ?_ ?_
  · intro id hrun
    have hrun : id ∈ (s.closeChannel worker).workers.keys := hrun
    rw [hworkers] at hrun
    show (∃ row ∈ (s.closeChannel worker).table, row.id = id) ∨ _
    rw [htable]
    exact (h.stored_of_ne hcall (fun _ => Call.noConfusion) id hrun).imp_right Or.inr
  · rintro id ⟨row, hrow, hid⟩
    have hrow : row ∈ (s.closeChannel worker).table := hrow
    rw [htable] at hrow
    show id ∈ (s.closeChannel worker).workers.keys ∨ _
    rw [hworkers]
    rcases h.running_of_call hcall id ⟨row, hrow, hid⟩ with hrun | hself | hother
    · exact Or.inl hrun
    · rw [← show next.id = id from hself]
      exact Or.inr (Or.inl (handles_call next))
    · exact Or.inr (Or.inr hother)

/-- `DELETE` fails, or removes the row. -/
theorem Balanced.deleting {id : String} (h : s.Balanced)
    (hcall : s.calls[i]? = some (.deleting id))
    (hcareful : s.CarefulCall env (s.calls.eraseIdx i) (.deleting id))
    (hstep : s.proceed i env (.deleting id) = some s') : s'.Balanced := by
  have hrunning := h.running_of_call hcall
  have hstored := h.stored_of_ne hcall fun _ => Call.noConfusion
  simp only [Service.proceed] at hstep
  split at hstep
  · rename_i err hdelete
    cases hstep
    refine of_next hcall rfl (fun id' hrun => (hstored id' hrun).imp_right Or.inr) ?_
    intro id' hrow
    rcases hrunning id' hrow with hrun | rfl | hother
    · exact Or.inl hrun
    -- The row stays, and this call no longer handles it.
    · simp only [CarefulCall, delete_error hdelete] at hcareful
      exact (hcareful hrow).imp_right Or.inr
    · exact Or.inr (Or.inr hother)
  · rename_i table hdelete
    obtain ⟨hfault, rfl⟩ := delete_ok hdelete
    cases hstep
    have hrow' : ∀ id', (∃ row ∈ s.table.filter (·.id != id), row.id = id') ↔
        s.Stored id' ∧ id' ≠ id := by
      intro id'
      constructor
      · rintro ⟨row, hrow, rfl⟩
        obtain ⟨hmem, hne⟩ := List.mem_filter.mp hrow
        exact ⟨⟨row, hmem, rfl⟩, by simpa using hne⟩
      · rintro ⟨⟨row, hrow, rfl⟩, hne⟩
        exact ⟨row, List.mem_filter.mpr ⟨hrow, by simpa using hne⟩, rfl⟩
    refine of_next hcall rfl ?_ ?_
    · intro id' hrun
      by_cases hid : id' = id
      · subst hid
        simp only [CarefulCall, hfault] at hcareful
        exact Or.inr (Or.inr (hcareful hrun))
      · rcases hstored id' hrun with hrow | hother
        · exact Or.inl ((hrow' id').mpr ⟨hrow, hid⟩)
        · exact Or.inr (Or.inr hother)
    · intro id' hrow
      obtain ⟨hrow, hne⟩ := (hrow' id').mp hrow
      rcases hrunning id' hrow with hrun | rfl | hother
      · exact Or.inl hrun
      · exact absurd rfl hne
      · exact Or.inr (Or.inr hother)

/-- A call that goes on carefully keeps rows and workers together. -/
theorem Balanced.proceed {call : Call} (h : s.Balanced) (hcall : s.calls[i]? = some call)
    (hcareful : s.CarefulCall env (s.calls.eraseIdx i) call)
    (hstep : s.proceed i env call = some s') : s'.Balanced := by
  cases call with
  | listing ctx => exact h.listing hcall hcareful hstep
  | starting ctx sources => exact h.starting hcall hcareful hstep
  | stopping next => exact h.stopWorker hcall hstep
  | closing worker next => exact h.closing hcall hstep
  | deleting id => exact h.deleting hcall hcareful hstep
  | returned => cases hstep

end Proceed

/-- Every careful step keeps rows and workers together. -/
theorem Balanced.step {s s' : Service} {e : Event} (h : s.Balanced) (hcareful : s.Careful e)
    (hstep : s.step e = some s') : s'.Balanced := by
  cases e with
  | start =>
    cases hstep
    exact h.begin rfl rfl (fun _ hrow => hrow) fun _ hrow => Or.inl hrow
  | createSource env gs =>
    simp only [Service.step] at hstep
    split at hstep
    · cases hstep
      exact h.begin rfl rfl (fun _ hrow => hrow) fun _ hrow => Or.inl hrow
    · split at hstep
      · cases hstep
        exact h.begin rfl rfl (fun _ hrow => hrow) fun _ hrow => Or.inl hrow
      -- The row is stored, and the call has yet to start its worker.
      · rename_i table gs' hcreate
        cases hstep
        obtain ⟨row, rfl, hid⟩ := create_ok hcreate
        refine h.begin rfl rfl ?_ ?_
        · rintro id ⟨row', hrow', hid'⟩
          exact ⟨row', List.mem_append_left _ hrow', hid'⟩
        · rintro id ⟨row', hrow', rfl⟩
          rcases List.mem_append.mp hrow' with hold | hnew
          · exact Or.inl ⟨row', hold, rfl⟩
          · rw [List.mem_singleton.mp hnew, hid]
            exact Or.inr ⟨gs', List.mem_cons_self, rfl⟩
  | updateSource env gs =>
    simp only [Service.step] at hstep
    split at hstep
    · cases hstep
      exact h.begin rfl rfl (fun _ hrow => hrow) fun _ hrow => Or.inl hrow
    · split at hstep
      · cases hstep
        exact h.begin rfl rfl (fun _ hrow => hrow) fun _ hrow => Or.inl hrow
      · rename_i table gs' hupdate
        cases hstep
        exact h.begin rfl rfl (fun id => (update_ok hupdate id).mpr)
          fun id hrow => Or.inl ((update_ok hupdate id).mp hrow)
  | deleteSource id =>
    cases hstep
    exact h.begin rfl rfl (fun _ hrow => hrow) fun _ hrow => Or.inl hrow
  | proceed i env =>
    obtain ⟨call, hcall, hstep⟩ := Option.bind_eq_some_iff.mp hstep
    exact h.proceed hcall (hcareful call hcall) hstep
  | exit worker =>
    simp only [Service.step] at hstep
    split at hstep
    · cases hstep
    · split at hstep
      · cases hstep
        exact ⟨h.stored, h.running⟩
      · cases hstep
  | stop =>
    cases hstep
    exact ⟨h.stored, h.running⟩

/-! ### The run -/

/-- A service that begins with an empty table is balanced. -/
theorem balanced_newService : (newService []).Balanced := by
  constructor
  · intro id hrunning
    cases hrunning
  · rintro id ⟨row, hrow, _⟩
    cases hrow

/-- `Start` has yet to list the sources. -/
theorem balanced_start {table : Sources} {s : Service}
    (hstep : (newService table).step .start = some s) : s.Balanced := by
  cases hstep
  constructor
  · intro id hrunning
    cases hrunning
  · intro id _
    exact Or.inr ⟨.listing 0, List.mem_cons_self, trivial⟩

/-- Take a run of calls that begins with `Start`, or with an empty table, and whose steps are
careful. Whenever no call is in progress, the sources with a worker in the map are those with a
row. -/
theorem running_iff_stored (table : Sources) (es : List Event)
    (hboot : table = [] ∨ es.head? = some .start)
    (hmeet : StepsMeet step Careful (newService table) es) {s : Service}
    (hrun : run step (newService table) es = some s) (hidle : s.Idle) (id : String) :
    s.Running id ↔ s.Stored id := by
  have hbalanced : s.Balanced := by
    rcases hboot with rfl | hstart
    · exact run_invariant_of_stepsMeet Balanced (fun _ _ _ h hC => h.step hC) balanced_newService
        hmeet hrun
    · obtain ⟨es', rfl⟩ := List.head?_eq_some_iff.mp hstart
      obtain ⟨s₁, hs₁, hrun'⟩ := run_cons_eq_some.mp hrun
      exact run_invariant_of_stepsMeet Balanced (fun _ _ _ h hC => h.step hC) (balanced_start hs₁)
        (hmeet.2 s₁ hs₁) hrun'
  exact hbalanced.keys_eq hidle id

/-- A source with an id. -/
def exampleSource : SourceRow :=
  { id := "s", name := "configs", repoURL := "https://example.com/configs", provider := "github" }

/-- A source is created and updated, and while its worker is started again another is created. -/
def exampleCalls : List Event :=
  [.createSource (.quiet 1 "u") exampleSource, .proceed 0 (.quiet 1 "u"),
    .proceed 0 (.quiet 1 "u"), .updateSource (.quiet 2 "u") exampleSource,
    .proceed 1 (.quiet 2 "u"), .createSource (.quiet 3 "u") { exampleSource with id := "" },
    .proceed 1 (.quiet 3 "u"), .proceed 2 (.quiet 3 "u"), .proceed 1 (.quiet 3 "u"),
    .proceed 1 (.quiet 3 "u"), .proceed 2 (.quiet 3 "u")]

theorem running_iff_stored_exampleCalls :
    ∃ s, run step (newService []) exampleCalls = some s ∧
      ∀ id, s.Running id ↔ s.Stored id := by
  refine ⟨_, rfl, running_iff_stored [] exampleCalls (Or.inl rfl) ?_ ?_ ?_⟩
  · decide
  · rfl
  · decide

/-- An update of a source that does not exist succeeds, and starts a worker for it. -/
theorem running_after_missing_update :
    ∃ s, run step (newService [])
        [.updateSource (.quiet 1 "u") exampleSource, .proceed 0 (.quiet 1 "u"),
          .proceed 0 (.quiet 1 "u"), .proceed 0 (.quiet 1 "u")] = some s ∧
      s.Idle ∧ s.Running "s" ∧ ¬ s.Stored "s" :=
  ⟨_, rfl, by decide, by decide, by decide⟩

end Service

end OtelHive.Gitsync.Workers
