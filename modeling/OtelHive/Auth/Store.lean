import OtelHive.Basic
import OtelHive.Lib.GoTime

/-!
# `OtelHive.Auth.Store`: the tables of the auth package

`internal/auth/types.go` and `internal/auth/store.go`, for the users and the refresh tokens.
A row of `refresh_tokens` holds its expiry as `κ`, which is text in the database.
`ExpiryColumn` is what the code does between an instant and that value: `StoreRefreshToken`
formats it, and `GetRefreshToken` parses what the driver scans. `datetimeColumn` is the
column of the schema under a driver that decodes `DATETIME` values.

The creation times are left out: no function of the package acts on them.
-/

set_option autoImplicit false

namespace OtelHive.Auth

open OtelHive.Lib
open OtelHive.Lib.GoTime (Instant formatDateTime parseDateTime formatRFC3339Nano)

/-- `Role`. -/
inductive Role where
  | admin
  | operator
  | viewer
deriving DecidableEq

/-- `User`. -/
structure User where
  id : String
  username : String
  passwordHash : String
  role : Role
deriving DecidableEq

/-- The sentinel errors, and any other error by its text. -/
inductive AuthError where
  | notFound
  | invalidPassword
  | invalidToken
  | tokenExpired
  | setupDone
  | other (text : String)
deriving DecidableEq

/-- `err.Error()`. -/
def AuthError.text : AuthError → String
  | .notFound => "not found"
  | .invalidPassword => "invalid password"
  | .invalidToken => "invalid token"
  | .tokenExpired => "token expired"
  | .setupDone => "setup already complete"
  | .other text => text

/-- `fmt.Errorf(prefix + "%w", err)`. -/
def AuthError.wrap (context : String) (err : AuthError) : AuthError := .other (context ++ err.text)

/-- A row of `refresh_tokens`. -/
structure RefreshToken (κ : Type) where
  id : String
  userID : String
  tokenHash : String
  expiresAt : κ
deriving DecidableEq

/-- The two tables. -/
structure Store (κ : Type) where
  users : List User
  refreshTokens : List (RefreshToken κ)
deriving DecidableEq

/-- What is written for an expiry, and what is read back from it. -/
structure ExpiryColumn (κ : Type) where
  write : Instant → κ
  read : κ → Instant

/-- A column of text: `expiresAt.UTC().Format(layout)` is written, and the text that the
driver scans is parsed. The error of the parse is dropped, which leaves the zero time. -/
def textColumn (scan : String → String) : ExpiryColumn String where
  write := formatDateTime
  read text := (parseDateTime (scan text)).getD 0

/-- The column of the schema. The driver decodes a `DATETIME` value to a time, and a time that
is scanned into a string is rendered in RFC 3339 with nanoseconds. -/
def datetimeColumn (decode : String → Instant) : ExpiryColumn String :=
  textColumn fun text => formatRFC3339Nano (decode text)

/-- The calls of the store. -/
inductive AuthOp where
  | createUser
  | getUserByUsername
  | getUserByID
  | countUsers
  | storeRefreshToken
  | getRefreshToken
  | deleteRefreshToken
  | deleteUserRefreshTokens
deriving DecidableEq

/-- The claims of an access token. -/
structure AccessClaims where
  userID : String
  username : String
  role : Role
  issuedAt : Instant
  expiresAt : Instant

/-- What the world outside answers while one call of the service runs. -/
structure AuthEnv where
  /-- `time.Now()`. -/
  now : Instant
  /-- `generateID()`. -/
  newID : Except String String
  /-- `generateRawRefreshToken()`. -/
  newToken : Except String String
  /-- `bcrypt.GenerateFromPassword`. -/
  generateFromPassword : String → Except String String
  /-- `SignedString`. -/
  signedString : AccessClaims → Except String String
  /-- The error of the database for a call of the store, `none` for a call that succeeds. -/
  faults : AuthOp → Option String
  /-- Whether the pooled connection enforces foreign keys. -/
  foreignKeys : Bool

/-- Run a call of the store. -/
def AuthEnv.call {α : Type} (env : AuthEnv) (op : AuthOp) (result : Except AuthError α) :
    Except AuthError α :=
  match env.faults op with
  | some err => .error (.other err)
  | none => result

theorem AuthEnv.call_of_faults_eq_none {α : Type} {env : AuthEnv} {op : AuthOp}
    (h : env.faults op = none) (result : Except AuthError α) : env.call op result = result := by
  simp [AuthEnv.call, h]

/-- A call that returns a value is one that the database did not refuse. -/
theorem AuthEnv.call_eq_ok {α : Type} {env : AuthEnv} {op : AuthOp}
    {result : Except AuthError α} {a : α} (h : env.call op result = .ok a) :
    env.faults op = none ∧ result = .ok a := by
  unfold AuthEnv.call at h
  split at h
  · cases h
  · exact ⟨by assumption, h⟩

namespace Store

variable {κ : Type}

/-! ### Users -/

/-- `CreateUser`. -/
def createUser (env : AuthEnv) (s : Store κ) (u : User) : Except AuthError (Store κ) :=
  env.call .createUser
    (if s.users.any (·.id == u.id) then .error (.other "UNIQUE constraint failed: users.id")
    else if s.users.any (·.username == u.username) then
      .error (.other "UNIQUE constraint failed: users.username")
    else .ok { s with users := s.users ++ [u] })

/-- `GetUserByUsername`. -/
def getUserByUsername (env : AuthEnv) (s : Store κ) (username : String) : Except AuthError User :=
  env.call .getUserByUsername
    (match s.users.find? (·.username == username) with
    | some user => .ok user
    | none => .error .notFound)

/-- `GetUserByID`. -/
def getUserByID (env : AuthEnv) (s : Store κ) (id : String) : Except AuthError User :=
  env.call .getUserByID
    (match s.users.find? (·.id == id) with
    | some user => .ok user
    | none => .error .notFound)

/-- `CountUsers`. -/
def countUsers (env : AuthEnv) (s : Store κ) : Except AuthError Nat :=
  env.call .countUsers (.ok s.users.length)

/-! ### Refresh tokens -/

variable (col : ExpiryColumn κ)

/-- `StoreRefreshToken`. -/
def storeRefreshToken (env : AuthEnv) (s : Store κ) (userID tokenHash : String)
    (expiresAt : Instant) : Except AuthError (Store κ) :=
  match env.newID with
  | .error err => .error (.other err)
  | .ok id =>
    env.call .storeRefreshToken
      (if s.refreshTokens.any (·.id == id) then
        .error (.other "UNIQUE constraint failed: refresh_tokens.id")
      else if s.refreshTokens.any (·.tokenHash == tokenHash) then
        .error (.other "UNIQUE constraint failed: refresh_tokens.token_hash")
      else if env.foreignKeys && !s.users.any (·.id == userID) then
        .error (.other "FOREIGN KEY constraint failed")
      else .ok { s with
        refreshTokens := s.refreshTokens
          ++ [{ id, userID, tokenHash, expiresAt := col.write expiresAt }] })

/-- `GetRefreshToken`: the user and the expiry. -/
def getRefreshToken (env : AuthEnv) (s : Store κ) (tokenHash : String) :
    Except AuthError (String × Instant) :=
  env.call .getRefreshToken
    (match s.refreshTokens.find? (·.tokenHash == tokenHash) with
    | some row => .ok (row.userID, col.read row.expiresAt)
    | none => .error .notFound)

/-- The tables without the refresh tokens with the hash. -/
def dropToken (s : Store κ) (tokenHash : String) : Store κ :=
  { s with refreshTokens := s.refreshTokens.filter (·.tokenHash != tokenHash) }

/-- The tables without the refresh tokens of the user. -/
def dropUserTokens (s : Store κ) (userID : String) : Store κ :=
  { s with refreshTokens := s.refreshTokens.filter (·.userID != userID) }

/-- `DeleteRefreshToken`. It does not tell how many rows it deleted. -/
def deleteRefreshToken (env : AuthEnv) (s : Store κ) (tokenHash : String) :
    Except AuthError (Store κ) :=
  env.call .deleteRefreshToken (.ok (s.dropToken tokenHash))

/-- `DeleteUserRefreshTokens`. -/
def deleteUserRefreshTokens (env : AuthEnv) (s : Store κ) (userID : String) :
    Except AuthError (Store κ) :=
  env.call .deleteUserRefreshTokens (.ok (s.dropUserTokens userID))

end Store

end OtelHive.Auth
