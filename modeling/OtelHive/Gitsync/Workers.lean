import OtelHive.Gitsync.Sources

/-!
# `OtelHive.Gitsync.Workers`: the pollers of the sources

The worker management of `internal/gitsync/service.go` and `worker.go`, while calls of the service
run at the same time. `Service` holds the stored sources, the map of the workers, the goroutines
that `startWorker` has spawned and each call in progress. One step is a call that begins, a call
that goes on to its next access to shared state, a goroutine that ends, or `Stop`.

The mutex covers the map alone: each section under the lock is one step, and so is each call of the
store. The stop channel is closed after the lock has been released, in a step of its own. The syncs
of the workers do not change which sources are stored, so they are no steps here.
-/

set_option autoImplicit false

namespace OtelHive.Gitsync.Workers

open OtelHive.Lib

/-- A worker with its goroutine. -/
structure Worker where
  id : String
  /-- The call of `Start` whose context it polls under, `none` for `context.Background()`. -/
  ctx : Option Nat
  /-- Its stop channel is closed. -/
  closed : Bool := false
  /-- `run` has returned. -/
  exited : Bool := false
deriving DecidableEq

/-- What a call does after it has stopped the worker of its source. -/
inductive Next where
  /-- `UpdateSource` starts a worker with the new settings. -/
  | restart (gs : SourceRow)
  /-- `DeleteSource` deletes the row. -/
  | delete (id : String)
deriving DecidableEq

/-- The source that the call is for. -/
def Next.id : Next → String
  | .restart gs => gs.id
  | .delete id => id

/-- A call of the service, and what it does in its next step. -/
inductive Call where
  /-- `Start` reads the stored sources. -/
  | listing (ctx : Nat)
  /-- `startWorker` under the context, for each of the sources. -/
  | starting (ctx : Option Nat) (sources : List SourceRow)
  /-- `stopWorker` takes the worker out of the map. -/
  | stopping (next : Next)
  /-- `stopWorker` closes the stop channel of the worker. -/
  | closing (worker : Nat) (next : Next)
  | deleting (id : String)
  | returned
deriving DecidableEq

/-- The call after `stopWorker`. -/
def Next.call : Next → Call
  | .restart gs => .starting none [gs]
  | .delete id => .deleting id

/-- `Service`, with its store and what runs concurrently. -/
structure Service where
  table : Sources
  /-- The map of the workers, as indices of `goroutines`. -/
  workers : GoMap String Nat := ∅
  goroutines : List Worker := []
  /-- The contexts that the calls of `Start` have made, and whether each is cancelled. -/
  cancelled : List Bool := []
  /-- `stopAll`, as the index of the context that it cancels. -/
  stopAll : Option Nat := none
  calls : List Call := []
  /-- `Stop` waits for the workers. -/
  stopped : Bool := false
deriving DecidableEq

/-- What happens in one step. -/
inductive Event where
  | start
  | createSource (env : SourceEnv) (gs : SourceRow)
  | updateSource (env : SourceEnv) (gs : SourceRow)
  | deleteSource (id : String)
  /-- A call goes on. -/
  | proceed (call : Nat) (env : SourceEnv)
  /-- The goroutine of a worker sees its context or its stop channel and returns. -/
  | exit (worker : Nat)
  | stop

namespace Service

/-- `NewService` over the stored sources. -/
def newService (table : Sources) : Service := { table }

/-- A call begins. -/
def begin (s : Service) (call : Call) : Service := { s with calls := s.calls ++ [call] }

/-- The call at an index goes on with another step. -/
def next (s : Service) (i : Nat) (call : Call) : Service := { s with calls := s.calls.set i call }

/-- A context of a call of `Start` is cancelled. `context.Background()` never is. -/
def ctxDone (s : Service) (ctx : Option Nat) : Bool :=
  match ctx with
  | none => false
  | some c => s.cancelled[c]? == some true

/-- `startWorker`: a source with a worker in the map keeps it. -/
def startWorker (s : Service) (ctx : Option Nat) (gs : SourceRow) : Service :=
  match s.workers.lookup gs.id with
  | some _ => s
  | none => { s with
      workers := s.workers.insert gs.id s.goroutines.length
      goroutines := s.goroutines ++ [{ id := gs.id, ctx }] }

/-- `w.stop()`. -/
def closeChannel (s : Service) (worker : Nat) : Service :=
  match s.goroutines[worker]? with
  | none => s
  | some w => { s with goroutines := s.goroutines.set worker { w with closed := true } }

/-- The next step of a call. -/
def proceed (s : Service) (i : Nat) (env : SourceEnv) : Call → Option Service
  | .listing ctx =>
    match s.table.list env with
    -- `Start` cancels its context and returns the error.
    | .error _ => some ({ s with cancelled := s.cancelled.set ctx true }.next i .returned)
    | .ok sources => some (s.next i (.starting (some ctx) sources))
  | .starting _ [] => some (s.next i .returned)
  | .starting ctx (gs :: sources) => some ((s.startWorker ctx gs).next i (.starting ctx sources))
  | .stopping next =>
    match s.workers.lookup next.id with
    | none => some (s.next i next.call)
    | some worker =>
      some ({ s with workers := s.workers.erase next.id }.next i (.closing worker next))
  | .closing worker next => some ((s.closeChannel worker).next i next.call)
  | .deleting id =>
    match s.table.delete env id with
    | .error _ => some (s.next i .returned)
    | .ok table => some ({ s with table }.next i .returned)
  | .returned => none

/-- One step. -/
def step (s : Service) : Event → Option Service
  | .start => some ({ s with
      cancelled := s.cancelled ++ [false]
      stopAll := some s.cancelled.length }.begin (.listing s.cancelled.length))
  | .createSource env gs =>
    match validate env.quote gs with
    | some _ => some (s.begin .returned)
    | none =>
      match s.table.create env gs with
      | .error _ => some (s.begin .returned)
      | .ok (table, gs) => some ({ s with table }.begin (.starting none [gs]))
  | .updateSource env gs =>
    match validate env.quote gs with
    | some _ => some (s.begin .returned)
    | none =>
      match s.table.update env gs with
      | .error _ => some (s.begin .returned)
      | .ok (table, gs) => some ({ s with table }.begin (.stopping (.restart gs)))
  | .deleteSource id => some (s.begin (.stopping (.delete id)))
  | .proceed i env => s.calls[i]?.bind (s.proceed i env)
  | .exit worker =>
    match s.goroutines[worker]? with
    | none => none
    | some w =>
      if w.exited = false ∧ (s.ctxDone w.ctx = true ∨ w.closed = true) then
        some { s with goroutines := s.goroutines.set worker { w with exited := true } }
      else none
  | .stop => some { s with
      cancelled := match s.stopAll with
        | none => s.cancelled
        | some c => s.cancelled.set c true
      stopped := true }

end Service

end OtelHive.Gitsync.Workers
