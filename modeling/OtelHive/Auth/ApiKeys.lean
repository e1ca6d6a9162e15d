import OtelHive.Auth.Store

/-!
# `OtelHive.Auth.ApiKeys`: API keys

The table `api_keys` of `internal/auth/store.go` and the functions of `internal/auth/service.go`
on it. A raw key is a Go string that comes from a request, so it is `Bytes`. The database has
its HMAC under the JWT secret in hexadecimal, and not the key.

`last_used` has the layout that `CURRENT_TIMESTAMP` writes, so the value of the column is `κ`
as in `ExpiryColumn`.
-/

set_option autoImplicit false

namespace OtelHive.Auth

open OtelHive.Lib
open OtelHive.Lib.GoTime (Instant)

/-! ### The table -/

/-- A row of `api_keys`. -/
structure ApiKeyRow (κ : Type) where
  id : String
  userID : String
  name : String
  keyHash : String
  lastUsed : Option κ
deriving DecidableEq

/-- `ApiKey`. -/
structure ApiKey where
  id : String
  userID : String
  name : String
  keyHash : String
  lastUsed : Option Instant := none
deriving DecidableEq

/-- The tables with the API keys. -/
structure ApiKeyStore (κ : Type) extends Store κ where
  apiKeys : List (ApiKeyRow κ)
deriving DecidableEq

/-- The calls of the store on API keys. -/
inductive ApiKeyOp where
  | createApiKey
  | getApiKeyByHash
  | deleteApiKey
  | touchApiKeyLastUsed
deriving DecidableEq

/-- `apiKeyPrefix`. -/
def apiKeyPrefix : Bytes := "ohk_".toUTF8.data.toList

/-- `apiKeyRawBytes`. -/
def apiKeyRawBytes : Nat := 32

/-- What the world outside answers while one call on API keys runs. -/
structure ApiKeyEnv extends AuthEnv where
  /-- `rand.Read` in `generateRawApiKey`. -/
  newKey : Except String { b : Bytes // b.length = apiKeyRawBytes }
  /-- The error of the database for a call on API keys. -/
  keyFaults : ApiKeyOp → Option String

/-- Run a call of the store on API keys. -/
def ApiKeyEnv.keyCall {α : Type} (env : ApiKeyEnv) (op : ApiKeyOp) (result : Except AuthError α) :
    Except AuthError α :=
  match env.keyFaults op with
  | some err => .error (.other err)
  | none => result

namespace ApiKeyStore

variable {κ : Type} (col : ExpiryColumn κ) (env : ApiKeyEnv) (s : ApiKeyStore κ)

/-- `CreateApiKey`. -/
def createApiKey (k : ApiKey) : Except AuthError (ApiKeyStore κ) :=
  env.keyCall .createApiKey
    (if s.apiKeys.any (·.id == k.id) then
      .error (.other "UNIQUE constraint failed: api_keys.id")
    else if s.apiKeys.any (·.keyHash == k.keyHash) then
      .error (.other "UNIQUE constraint failed: api_keys.key_hash")
    else if env.foreignKeys && !s.users.any (·.id == k.userID) then
      .error (.other "FOREIGN KEY constraint failed")
    -- The INSERT does not list `last_used`.
    else .ok { s with
      apiKeys := s.apiKeys ++ [{
        id := k.id, userID := k.userID, name := k.name, keyHash := k.keyHash
        lastUsed := none }] })

/-- `GetApiKeyByHash`. -/
def getApiKeyByHash (keyHash : String) : Except AuthError ApiKey :=
  env.keyCall .getApiKeyByHash
    (match s.apiKeys.find? (·.keyHash == keyHash) with
    | some row => .ok {
        id := row.id, userID := row.userID, name := row.name, keyHash := row.keyHash
        lastUsed := row.lastUsed.map col.read }
    | none => .error .notFound)

/-- `DeleteApiKey`. -/
def deleteApiKey (id userID : String) : Except AuthError (ApiKeyStore κ) :=
  env.keyCall .deleteApiKey
    (if s.apiKeys.any (fun row => row.id == id && row.userID == userID) then
      .ok { s with
        apiKeys := s.apiKeys.filter fun row => !(row.id == id && row.userID == userID) }
    else .error .notFound)

/-- `TouchApiKeyLastUsed`. -/
def touchApiKeyLastUsed (id : String) : Except AuthError (ApiKeyStore κ) :=
  env.keyCall .touchApiKeyLastUsed
    (.ok { s with
      apiKeys := s.apiKeys.map fun row =>
        if row.id = id then { row with lastUsed := some (col.write env.now) } else row })

end ApiKeyStore

/-! ### The service -/

/-- `hmacKeyHash`. -/
def hmacKeyHash (key secret : Bytes) : String := hexEncode (hmac secret key)

/-- `generateRawApiKey`. -/
def generateRawApiKey (env : ApiKeyEnv) : Except String Bytes :=
  match env.newKey with
  | .error err => .error err
  | .ok b => .ok (apiKeyPrefix ++ (hexEncode b.1).toUTF8.data.toList)

section Service

variable {κ : Type} (jwtSecret : Bytes) (col : ExpiryColumn κ) (env : ApiKeyEnv)
  (s : ApiKeyStore κ)

/-- `ValidateApiKey`: the user and the key. -/
def validateApiKey (rawKey : Bytes) : ApiKeyStore κ × Except AuthError (User × ApiKey) :=
  if !apiKeyPrefix.isPrefixOf rawKey then (s, .error .invalidToken)
  else
    match s.getApiKeyByHash col env (hmacKeyHash rawKey jwtSecret) with
    | .error .notFound => (s, .error .invalidToken)
    | .error err => (s, .error err)
    | .ok key =>
      match s.toStore.getUserByID env.toAuthEnv key.userID with
      | .error err => (s, .error err)
      | .ok user =>
        match s.touchApiKeyLastUsed col env key.id with
        -- The error of this update is dropped.
        | .error _ => (s, .ok (user, key))
        | .ok s => (s, .ok (user, key))

/-- `CreateApiKey`: the key, and its plain text. -/
def createApiKey (userID name : String) : ApiKeyStore κ × Except AuthError (ApiKey × Bytes) :=
  match env.newID with
  | .error err => (s, .error (.other err))
  | .ok id =>
    match generateRawApiKey env with
    | .error err => (s, .error (.other err))
    | .ok raw =>
      let key : ApiKey := { id, userID, name, keyHash := hmacKeyHash raw jwtSecret }
      match s.createApiKey env key with
      | .error err => (s, .error err)
      | .ok s => (s, .ok (key, raw))

/-- `RevokeApiKey`: the error, if there is one. -/
def revokeApiKey (keyID userID : String) : ApiKeyStore κ × Option AuthError :=
  match s.deleteApiKey env keyID userID with
  | .error err => (s, some err)
  | .ok s => (s, none)

/-- A call of the service on API keys. -/
inductive ApiKeyCall where
  | create (env : ApiKeyEnv) (userID name : String)
  | revoke (env : ApiKeyEnv) (keyID userID : String)
  | validate (env : ApiKeyEnv) (rawKey : Bytes)

/-- What a call returns. -/
inductive ApiKeyResult where
  | create (result : Except AuthError (ApiKey × Bytes))
  | revoke (err : Option AuthError)
  | validate (result : Except AuthError (User × ApiKey))

/-- The tables and the result after a call. -/
def ApiKeyCall.answer (call : ApiKeyCall) : ApiKeyStore κ × ApiKeyResult :=
  match call with
  | .create env userID name =>
    let (s, result) := createApiKey jwtSecret env s userID name
    (s, .create result)
  | .revoke env keyID userID =>
    let (s, err) := revokeApiKey env s keyID userID
    (s, .revoke err)
  | .validate env rawKey =>
    let (s, result) := validateApiKey jwtSecret col env s rawKey
    (s, .validate result)

end Service

/-- The calls that have returned, oldest first. -/
abbrev ApiKeyLog : Type := List (ApiKeyCall × ApiKeyResult)

/-- One call, after those of the log. -/
def ApiKeyCall.perform {κ : Type} (jwtSecret : Bytes) (col : ExpiryColumn κ)
    (p : ApiKeyStore κ × ApiKeyLog) (call : ApiKeyCall) : ApiKeyStore κ × ApiKeyLog :=
  let (s, result) := call.answer jwtSecret col p.1
  (s, p.2 ++ [(call, result)])

end OtelHive.Auth
