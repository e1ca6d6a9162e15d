import OtelHive.Auth.Service

/-!
# `OtelHive.Auth.Concurrent`: calls of the service that interleave

The HTTP server runs every request in a goroutine of its own, and no call of the service
holds a transaction or a lock. So calls interleave between any two statements on the
database. A `Stage` is what a call has still to do, with the values that it has read, and
`advance` runs a call up to and including its next statement. The stages of a call in a row
are the function of `OtelHive.Auth.Service`.

`System.step` starts a call or advances one. Its calls are numbered in the order in which
they begin.
-/

set_option autoImplicit false

namespace OtelHive.Auth

open OtelHive.Lib

/-- A call of the service. `handleLogout` is the handler, with the field of the request body
and the user whose session the client ends. -/
inductive Request where
  | setup (username password : String)
  | login (username password : String)
  | refresh (refreshToken : String)
  | logout (refreshToken : String)
  | handleLogout (userID refreshToken : String)
deriving DecidableEq

/-- How a call ends. A token pair comes with the user it was issued to. -/
inductive Outcome where
  | issued (userID : String) (pair : TokenPair)
  | failed (err : AuthError)
  /-- `Logout` returned nil. -/
  | loggedOut
  /-- The status 204 of `HandleLogout`. -/
  | noContent
deriving DecidableEq

/-- What a call has still to do. -/
inductive Stage where
  /-- `Setup` before `CountUsers`. -/
  | countUsers (username password : String)
  /-- `Setup` before `CreateUser`. -/
  | createUser (username password : String)
  /-- `Login` before `GetUserByUsername`. -/
  | readLogin (username password : String)
  /-- `Refresh` before `GetRefreshToken`. -/
  | readToken (hash : String)
  /-- `Refresh` before the delete of an expired token. -/
  | deleteExpired (hash : String)
  /-- `Refresh` before `GetUserByID`. -/
  | readUser (hash userID : String)
  /-- `Refresh` before the delete of the old token. -/
  | rotate (hash : String) (user : User)
  /-- `issueTokenPair` before `StoreRefreshToken`. -/
  | issue (user : User)
  /-- `Logout` before `GetRefreshToken`. -/
  | readOwner (hash : String)
  /-- `Logout` before `DeleteUserRefreshTokens`. -/
  | revoke (userID : String)
  | done (outcome : Outcome)
deriving DecidableEq

/-- The call has ended. -/
def Stage.isDone : Stage → Bool
  | .done _ => true
  | _ => false

/-- The stage at which a call begins. -/
def Request.first : Request → Stage
  | .setup username password => .countUsers username password
  | .login username password => .readLogin username password
  | .refresh refreshToken => .readToken (hashToken refreshToken)
  | .logout refreshToken => .readOwner (hashToken refreshToken)
  | .handleLogout _ refreshToken =>
    if refreshToken = "" then .done .noContent else .readOwner (hashToken refreshToken)

/-- `HandleLogout` answers 204 when its `Logout` has returned, whatever it returned. -/
def Request.finish (request : Request) (stage : Stage) : Stage :=
  match request, stage with
  | .handleLogout _ _, .done _ => .done .noContent
  | _, stage => stage

section Advance

variable {κ : Type} (svc : Service) (col : ExpiryColumn κ) (env : AuthEnv)

/-- The stage after a call returned an error, or went on. -/
def Stage.ofResult {α : Type} (result : Except AuthError α) (next : α → Stage) : Stage :=
  match result with
  | .error err => .done (.failed err)
  | .ok a => next a

/-- Run a call up to and including its next statement on the database. -/
def advance (s : Store κ) : Stage → Store κ × Stage
  | .countUsers username password =>
    (s, .ofResult (Service.isSetupRequired env s) fun required =>
      if !required then .done (.failed .setupDone) else .createUser username password)
  | .createUser username password =>
    match Service.createAdmin env username password s with
    | .error err => (s, .done (.failed err))
    | .ok (user, s) => (s, .issue user)
  | .readLogin username password =>
    (s, match s.getUserByUsername env username with
      | .error .notFound => .done (.failed .invalidPassword)
      | .error err => .done (.failed err)
      | .ok user =>
        if !svc.compareHashAndPassword user.passwordHash password then
          .done (.failed .invalidPassword)
        else .issue user)
  | .readToken hash =>
    (s, match s.getRefreshToken col env hash with
      | .error .notFound => .done (.failed .invalidToken)
      | .error err => .done (.failed err)
      | .ok (userID, expiresAt) =>
        if expiresAt < env.now then .deleteExpired hash else .readUser hash userID)
  | .deleteExpired hash =>
    (Service.ignored s (s.deleteRefreshToken env hash), .done (.failed .tokenExpired))
  | .readUser hash userID => (s, .ofResult (s.getUserByID env userID) fun user => .rotate hash user)
  -- The pair is issued whether or not the delete removed a row.
  | .rotate hash user => (Service.ignored s (s.deleteRefreshToken env hash), .issue user)
  | .issue user =>
    match svc.issueTokenPair col env user s with
    | (s, .error err) => (s, .done (.failed err))
    | (s, .ok pair) => (s, .done (.issued user.id pair))
  | .readOwner hash =>
    -- A token that is not stored counts as logged out.
    (s, match s.getRefreshToken col env hash with
      | .error .notFound => .done .loggedOut
      | .error err => .done (.failed err)
      | .ok (userID, _) => .revoke userID)
  | .revoke userID =>
    match s.deleteUserRefreshTokens env userID with
    | .error err => (s, .done (.failed err))
    | .ok s => (s, .done .loggedOut)
  | .done outcome => (s, .done outcome)

end Advance

/-- A call that has begun. -/
structure Call where
  request : Request
  stage : Stage
deriving DecidableEq

/-- The tables and the calls. -/
structure System (κ : Type) where
  store : Store κ
  calls : List Call
deriving DecidableEq

/-- What happens next. -/
inductive Event where
  | begin (request : Request)
  | advance (i : Nat) (env : AuthEnv)

namespace System

variable {κ : Type}

/-- The system on a database before the first call. -/
def start (store : Store κ) : System κ := ⟨store, []⟩

/-- A call begins, or a call that has not ended runs up to its next statement. -/
def step (svc : Service) (col : ExpiryColumn κ) (sys : System κ) : Event → Option (System κ)
  | .begin request => some { sys with calls := sys.calls ++ [⟨request, request.first⟩] }
  | .advance i env =>
    match sys.calls[i]? with
    | none => none
    | some call =>
      if call.stage.isDone then none
      else
        let (store, stage) := Auth.advance svc col env sys.store call.stage
        some {
          store
          calls := sys.calls.set i { call with stage := call.request.finish stage } }

end System

end OtelHive.Auth
