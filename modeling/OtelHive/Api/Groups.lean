import OtelHive.Api.Handlers
import OtelHive.Opamp.Server

/-!
# `OtelHive.Api.Groups`: the group endpoints

`HandleCreateGroup` and `HandleDeleteGroup` of `internal/api/handlers/groups.go`. They write the
database and nothing else, so the process between two handlers is the OpAMP server with its
database.
-/

set_option autoImplicit false

namespace OtelHive.Api.Groups

open OtelHive.Lib
open OtelHive.Opamp
open OtelHive.Sqlite (Storage)
open OtelHive.Types (Group)

/-- `CreateGroupRequest`. -/
structure CreateGroupRequest where
  name : String
  labels : GoMap String String := ∅

def CreateGroupRequest.required (req : CreateGroupRequest) : List (String × Bool) :=
  [("Name", req.name != "")]

/-- The HTTP response. -/
inductive Reply where
  | error (status : Nat) (error : String) (details : Option String := none)
  | group (status : Nat) (group : Group)
  | message (status : Nat) (message : String)
deriving DecidableEq

/-- `DeleteGroup` of the agent service. `fault` is the error of the database, `none` for a call
that succeeds. -/
def deleteGroup (env : Env) (fault : Option String) (s : Storage) (id : String) :
    Except String Storage :=
  match fault with
  | some err => .error err
  | none => s.deleteGroup env.foreignKeys id

/-- `HandleCreateGroup`. -/
def handleCreateGroup (env : Env) (body : Except String CreateGroupRequest) (s : Storage) :
    Storage × Reply :=
  match bind "CreateGroupRequest" CreateGroupRequest.required body with
  | .error err => (s, .error 400 "Invalid request data" (some err))
  | .ok req =>
    let group : Group := {
      id := env.newUUID
      name := req.name
      labels := req.labels
      createdAt := env.now
      updatedAt := env.now }
    match Services.createGroup env s group with
    | .error _ => (s, .error 500 "Failed to create group")
    | .ok s => (s, .group 201 group)

/-- `HandleDeleteGroup`. -/
def handleDeleteGroup (env : Env) (fault : Option String) (groupID : String) (s : Storage) :
    Storage × Reply :=
  if groupID = "" then (s, .error 400 "Group ID is required")
  else
    match deleteGroup env fault s groupID with
    | .error _ => (s, .error 500 "Failed to delete group")
    | .ok s => (s, .message 200 "Group deleted successfully")

/-- What happens to the process. -/
inductive Event where
  | opamp (e : Server.Event)
  | createGroup (env : Env) (body : Except String CreateGroupRequest)
  | deleteGroup (env : Env) (fault : Option String) (groupID : String)

/-- One handler. -/
def step (srv : Server) : Event → Option Server
  | .opamp e => srv.step e
  | .createGroup env body => some { srv with store := (handleCreateGroup env body srv.store).1 }
  | .deleteGroup env fault groupID =>
    some { srv with store := (handleDeleteGroup env fault groupID srv.store).1 }

end OtelHive.Api.Groups
