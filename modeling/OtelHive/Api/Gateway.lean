import OtelHive.Audit.Store
import OtelHive.Auth.ApiKeys
import OtelHive.Auth.Concurrent

/-!
# `OtelHive.Api.Gateway`: the HTTP server in front of the handlers

The routes of `internal/api/server.go`, the middlewares `Auth` and `Audit` of `internal/middleware`,
and the handlers of `internal/api/handlers/auth.go`, as `main` wires them: with an auth service, an
audit store and a git sync service.

The server runs each request in a goroutine of its own. A `Stage` is what a request has still to do,
and `advance` runs it up to and including its next statement on the tables of the auth package, its
next handler or its audit entry. So the checks of one request interleave with the handlers of the
others. The calls of the auth service go on through the stages of `Auth.Concurrent`.

The other handlers change the rest of the process, `σ`. Each event says what the handler does, so
the results hold for all of them. The JWT library is a parameter as well.
-/

set_option autoImplicit false

namespace OtelHive.Api.Gateway

open OtelHive.Lib
open OtelHive.Auth
open OtelHive.Lib.GoTime (Instant)

/-! ### Routes -/

/-- The handlers that are not in `handlers/auth.go`. -/
inductive AppHandler where
  | metrics
  | handleHealth
  | handleGetAgents
  | handleGetAgentStats
  | handleGetAgent
  | handleUpdateAgentGroup
  | handleSendConfigToAgent
  | handleRestartAgent
  | handleGetConfigs
  | handleCreateConfig
  | handleValidateConfig
  | handleGetConfigVersions
  | handleGetConfig
  | handleUpdateConfig
  | handleDeleteConfig
  | handleGetGroups
  | handleCreateGroup
  | handleGetGroup
  | handleUpdateGroup
  | handleDeleteGroup
  | handleAssignConfig
  | handleGetGroupConfig
  | handleGetGroupAgents
  | handleRestartGroup
  | handleListSources
  | handleCreateSource
  | handleGetSource
  | handleUpdateSource
  | handleDeleteSource
  | handleTriggerSync
  | handleWebhook
deriving DecidableEq

/-- A handler: one of `handlers/auth.go`, the one of `handlers/audit.go`, or another one. -/
inductive Handler where
  | handleSetupStatus
  | handleSetup
  | handleLogin
  | handleLogout
  | handleRefresh
  | handleMe
  | handleListApiKeys
  | handleCreateApiKey
  | handleRevokeApiKey
  | handleList
  | app (name : AppHandler)
deriving DecidableEq

/-- A route. A segment `:id` stands for any segment that is not empty. -/
structure Route where
  method : String
  path : List String
  /-- The group of the route has the middleware `Auth`. -/
  guarded : Bool
  handler : Handler

/-- `c.FullPath()`. -/
def Route.fullPath (route : Route) : String := String.join (route.path.map ("/" ++ ·))

/-- The group `/api/auth` without a middleware. -/
def apiAuth (method : String) (path : List String) (handler : Handler) : Route :=
  ⟨method, "api" :: "auth" :: path, false, handler⟩

/-- The group `/api/auth` with `Auth`. -/
def apiAuthProtected (method : String) (path : List String) (handler : Handler) : Route :=
  ⟨method, "api" :: "auth" :: path, true, handler⟩

/-- The group `/api/v1`. -/
def v1 (method : String) (path : List String) (handler : Handler) : Route :=
  ⟨method, "api" :: "v1" :: path, true, handler⟩

/-- `registerRoutes`. Where a literal and `:id` both match, the router takes the literal, which
comes first here. -/
def routes : List Route := [
  ⟨"GET", ["metrics"], false, .app .metrics⟩,
  ⟨"GET", ["health"], false, .app .handleHealth⟩,
  apiAuth "GET" ["setup", "status"] .handleSetupStatus,
  apiAuth "POST" ["setup"] .handleSetup,
  apiAuth "POST" ["login"] .handleLogin,
  apiAuth "POST" ["logout"] .handleLogout,
  apiAuth "POST" ["refresh"] .handleRefresh,
  apiAuthProtected "GET" ["me"] .handleMe,
  apiAuthProtected "GET" ["api-keys"] .handleListApiKeys,
  apiAuthProtected "POST" ["api-keys"] .handleCreateApiKey,
  apiAuthProtected "DELETE" ["api-keys", ":id"] .handleRevokeApiKey,
  v1 "GET" ["agents"] (.app .handleGetAgents),
  v1 "GET" ["agents", "stats"] (.app .handleGetAgentStats),
  v1 "GET" ["agents", ":id"] (.app .handleGetAgent),
  v1 "PATCH" ["agents", ":id", "group"] (.app .handleUpdateAgentGroup),
  v1 "POST" ["agents", ":id", "config"] (.app .handleSendConfigToAgent),
  v1 "POST" ["agents", ":id", "restart"] (.app .handleRestartAgent),
  v1 "GET" ["configs"] (.app .handleGetConfigs),
  v1 "POST" ["configs"] (.app .handleCreateConfig),
  v1 "POST" ["configs", "validate"] (.app .handleValidateConfig),
  v1 "GET" ["configs", "versions"] (.app .handleGetConfigVersions),
  v1 "GET" ["configs", ":id"] (.app .handleGetConfig),
  v1 "PUT" ["configs", ":id"] (.app .handleUpdateConfig),
  v1 "DELETE" ["configs", ":id"] (.app .handleDeleteConfig),
  v1 "GET" ["groups"] (.app .handleGetGroups),
  v1 "POST" ["groups"] (.app .handleCreateGroup),
  v1 "GET" ["groups", ":id"] (.app .handleGetGroup),
  v1 "PUT" ["groups", ":id"] (.app .handleUpdateGroup),
  v1 "DELETE" ["groups", ":id"] (.app .handleDeleteGroup),
  v1 "POST" ["groups", ":id", "config"] (.app .handleAssignConfig),
  v1 "GET" ["groups", ":id", "config"] (.app .handleGetGroupConfig),
  v1 "GET" ["groups", ":id", "agents"] (.app .handleGetGroupAgents),
  v1 "POST" ["groups", ":id", "restart"] (.app .handleRestartGroup),
  v1 "GET" ["audit-log"] .handleList,
  v1 "GET" ["git-sources"] (.app .handleListSources),
  v1 "POST" ["git-sources"] (.app .handleCreateSource),
  v1 "GET" ["git-sources", ":id"] (.app .handleGetSource),
  v1 "PUT" ["git-sources", ":id"] (.app .handleUpdateSource),
  v1 "DELETE" ["git-sources", ":id"] (.app .handleDeleteSource),
  v1 "POST" ["git-sources", ":id", "sync"] (.app .handleTriggerSync),
  ⟨"POST", ["api", "webhook", "git", ":id"], false, .app .handleWebhook⟩]

/-- The segments of a path match those of a route. -/
def matchesPath : List String → List String → Bool
  | [], [] => true
  | pattern :: patterns, segment :: segments =>
    (if pattern = ":id" then segment != "" else pattern = segment) && matchesPath patterns segments
  | _, _ => false

/-- The segment that `:id` stands for, or the empty text. -/
def paramID : List String → List String → String
  | pattern :: patterns, segment :: segments =>
    if pattern = ":id" then segment else paramID patterns segments
  | _, _ => ""

/-! ### Requests and responses -/

/-- The fields of the request bodies of `handlers/auth.go`. A missing field is empty. -/
structure AuthBody where
  username : String := ""
  password : String := ""
  refreshToken : String := ""
  name : String := ""

/-- A request. A missing header is empty. -/
structure HttpRequest where
  method : String
  /-- The segments of `c.Request.URL.Path`. -/
  path : List String
  authorization : Bytes := []
  xApiKey : Bytes := []
  /-- What the JSON decoder makes of the body, for a handler of `handlers/auth.go`. -/
  body : Except String AuthBody := .ok { }
  /-- The query parameters of the audit log. -/
  query : Audit.ListParams := ⟨.wrap 1, .wrap 50, ""⟩
  clientIP : String := ""

/-- The route of a request. `corsMiddleware` answers each `OPTIONS` request, and the file server
those that no route matches. -/
def HttpRequest.route (request : HttpRequest) : Option Route :=
  if request.method = "OPTIONS" then none
  else routes.find? fun route =>
    route.method == request.method && matchesPath route.path request.path

/-- The values of `CtxUserID`, `CtxUsername` and `CtxRole`. -/
structure Identity where
  userID : String
  username : String
  role : Role
deriving DecidableEq

/-- The identity of a user. -/
def identityOf (user : User) : Identity := ⟨user.id, user.username, user.role⟩

/-- The body of a response. `app` is the body that a handler outside of `handlers/auth.go` wrote. -/
inductive Body (ρ : Type) where
  | empty
  | error (text : String)
  /-- `{"setup_required": true, "message": "Initial setup required. ..."}`. -/
  | setupRequired
  | setupStatus (required : Bool)
  | pair (pair : TokenPair)
  | me (identity : Option Identity)
  | keys (keys : List ApiKey)
  | createdKey (id name : String) (plainKey : Bytes)
  | auditLog (page : Audit.ListResult)
  | app (body : ρ)

/-- A response. -/
structure Response (ρ : Type) where
  status : Nat
  body : Body ρ

/-- What a request has still to do. -/
inductive Stage (ρ : Type) where
  /-- `Auth` before `IsSetupRequired`. -/
  | isSetupRequired
  /-- `Auth` before it reads the credentials. For an API key this is up to `GetApiKeyByHash`. -/
  | credentials
  /-- `ValidateApiKey` before `GetUserByID`. -/
  | findOwner (key : ApiKey)
  /-- `ValidateApiKey` before `TouchApiKeyLastUsed`. -/
  | touchKey (key : ApiKey) (user : User)
  /-- Before the handler. -/
  | handler
  /-- A handler of `handlers/auth.go` in a call of the service. -/
  | service (stage : Auth.Stage)
  /-- `Audit` after `c.Next()`. -/
  | audit (response : Response ρ)
  | done (response : Response ρ)

/-- A request with the values that the middlewares have set. -/
structure Context (ρ : Type) where
  request : HttpRequest
  identity : Option Identity
  stage : Stage ρ

namespace Context

variable {ρ : Type} (ctx : Context ρ)

/-- The request goes on. -/
def next (stage : Stage ρ) : Context ρ := { ctx with stage }

/-- The response is written. -/
def reply (status : Nat) (body : Body ρ) : Context ρ := { ctx with stage := .audit ⟨status, body⟩ }

/-- `setUser`, and `c.Next()`. -/
def setUser (identity : Identity) : Context ρ :=
  { ctx with identity := some identity, stage := .handler }

/-- `UserID`. -/
def userID : String := (ctx.identity.map Identity.userID).getD ""

/-- `c.Param("id")`. -/
def param : String :=
  match ctx.request.route with
  | some route => paramID route.path ctx.request.path
  | none => ""

end Context

/-! ### What the process answers -/

/-- A method that `jwt` verifies a token with. -/
structure SigningMethod where
  alg : String
  hmac : Bool

/-- The key function that `ValidateAccessToken` passes to `jwt`. -/
def keyFunc (jwtSecret : Bytes) (method : SigningMethod) : Except String Bytes :=
  if !method.hmac then .error ("unexpected signing method: " ++ method.alg) else .ok jwtSecret

/-- What the world outside answers while a request runs up to its next statement. -/
structure GatewayEnv (κ σ ρ : Type) extends ApiKeyEnv where
  /-- `jwt.ParseWithClaims`: the claims and `token.Valid`. -/
  parseWithClaims :
    (SigningMethod → Except String Bytes) → Bytes → Except String (AccessClaims × Bool)
  /-- The state and the response after a handler, or `none` for a panic. -/
  handle : AppHandler → HttpRequest → σ → σ × Option (Nat × ρ)
  /-- The error of the database for `ListApiKeysByUser`. -/
  listFault : Option String
  /-- `ORDER BY created_at DESC`. -/
  newestFirst : ∀ rows : List (ApiKeyRow κ), { sorted : List (ApiKeyRow κ) // sorted.Perm rows }
  /-- The error of the database for an insert into the audit log. -/
  auditFault : Option String
  /-- `CURRENT_TIMESTAMP`, as the audit log counts time. -/
  timestamp : Time
  /-- The answers to the queries of the audit log. -/
  auditRows : Audit.Database

/-- What the server has: the auth service with its column of times. -/
structure Server (κ : Type) where
  service : Auth.Service
  jwtSecret : Bytes
  column : ExpiryColumn κ

/-- What the handlers and the middlewares change. -/
structure Resources (κ σ : Type) where
  keys : ApiKeyStore κ
  app : σ
  log : Audit.Table

section Middleware

variable {κ σ ρ : Type} (srv : Server κ) (env : GatewayEnv κ σ ρ)

/-- Whether a text contains another one. -/
def contains (text part : List Char) : Bool :=
  match text with
  | [] => part.isEmpty
  | c :: rest => part.isPrefixOf (c :: rest) || contains rest part

/-- `ValidateAccessToken`. -/
def validateAccessToken (token : Bytes) : Except AuthError AccessClaims :=
  match env.parseWithClaims (keyFunc srv.jwtSecret) token with
  | .error err =>
    if contains err.toList "expired".toList then .error .tokenExpired else .error .invalidToken
  | .ok (claims, valid) => if !valid then .error .invalidToken else .ok claims

/-- `abortUnauthorized`. -/
def abortUnauthorized (ctx : Context ρ) (err : AuthError) : Context ρ :=
  ctx.reply 401 (.error (if err = .tokenExpired then "token expired" else "unauthorized"))

/-- `"Bearer "`. -/
def bearer : Bytes := "Bearer ".toUTF8.data.toList

/-- `Auth`, where it reads the headers. -/
def readCredentials (r : Resources κ σ) (ctx : Context ρ) : Context ρ :=
  if bearer.isPrefixOf ctx.request.authorization then
    match validateAccessToken srv env (ctx.request.authorization.drop bearer.length) with
    | .error err => abortUnauthorized ctx err
    | .ok claims => ctx.setUser ⟨claims.userID, claims.username, claims.role⟩
  else if ctx.request.xApiKey ≠ [] then
    if !apiKeyPrefix.isPrefixOf ctx.request.xApiKey then abortUnauthorized ctx .invalidToken
    else
      match r.keys.getApiKeyByHash srv.column env.toApiKeyEnv
          (hmacKeyHash ctx.request.xApiKey srv.jwtSecret) with
      | .error .notFound => abortUnauthorized ctx .invalidToken
      | .error err => abortUnauthorized ctx err
      | .ok key => ctx.next (.findOwner key)
  else ctx.reply 401 (.error "authentication required")

/-- `auditRoutes`: the event type and the resource type. -/
def auditRoutes : List (String × String × String) := [
  ("POST /api/auth/setup", "user.setup", "user"),
  ("POST /api/auth/login", "user.login", "user"),
  ("POST /api/auth/logout", "user.logout", "user"),
  ("POST /api/auth/api-keys", "api_key.created", "api_key"),
  ("DELETE /api/auth/api-keys/:id", "api_key.revoked", "api_key"),
  ("POST /api/v1/configs", "config.created", "config"),
  ("PUT /api/v1/configs/:id", "config.updated", "config"),
  ("DELETE /api/v1/configs/:id", "config.deleted", "config"),
  ("POST /api/v1/agents/:id/config", "config.pushed", "agent"),
  ("POST /api/v1/agents/:id/restart", "agent.restarted", "agent"),
  ("POST /api/v1/groups", "group.created", "group"),
  ("PUT /api/v1/groups/:id", "group.updated", "group"),
  ("DELETE /api/v1/groups/:id", "group.deleted", "group"),
  ("POST /api/v1/git-sources", "git_source.created", "git_source"),
  ("PUT /api/v1/git-sources/:id", "git_source.updated", "git_source"),
  ("DELETE /api/v1/git-sources/:id", "git_source.deleted", "git_source"),
  ("POST /api/v1/git-sources/:id/sync", "git_source.synced", "git_source")]

/-- `strings.TrimPrefix(s, "/")`. -/
def trimSlash (s : String) : String :=
  match s.toList with
  | '/' :: rest => String.ofList rest
  | _ => s

/-- The entry that `Audit` logs for a response, if it logs one. -/
def auditEntry (ctx : Context ρ) (response : Response ρ) : Option Audit.Entry := do
  let route ← ctx.request.route
  let method := ctx.request.method
  if method = "GET" ∨ method = "HEAD" ∨ method = "OPTIONS" then none
  else if 400 ≤ response.status then none
  else
    let (_, eventType, resourceType) ←
      auditRoutes.find? (·.1 == method ++ " " ++ route.fullPath)
    some {
      id := 0
      timestamp := 0
      actorID := ctx.userID
      actorName := (ctx.identity.map Identity.username).getD ""
      eventType
      resourceType
      resourceID := trimSlash ctx.param
      details := ""
      ipAddress := ctx.request.clientIP }

end Middleware

/-! ### The handlers of the auth package -/

/-- The text of the validator for a field. -/
def fieldError (field tag : String) : String :=
  "Key: '" ++ field ++ "' Error:Field validation for '" ++ field ++ "' failed on the '" ++ tag
    ++ "' tag"

/-- `binding:"required,min=n"`: the error of a field, if there is one. -/
def checkField (field : String) (min : Nat) (value : String) : Option String :=
  if value = "" then some (fieldError field "required")
  else if value.length < min then some (fieldError field "min")
  else none

/-- `ShouldBindJSON`: the decoder's error, or the errors of the fields. -/
def bindFields (fields : AuthBody → List (Option String)) (body : Except String AuthBody) :
    Except String AuthBody :=
  match body with
  | .error err => .error err
  | .ok req =>
    match (fields req).filterMap id with
    | [] => .ok req
    | errors => .error ("\n".intercalate errors)

/-- The request body of `HandleSetup`. -/
def setupFields (req : AuthBody) : List (Option String) :=
  [checkField "Username" 3 req.username, checkField "Password" 8 req.password]

/-- The request body of `HandleLogin`. -/
def loginFields (req : AuthBody) : List (Option String) :=
  [checkField "Username" 0 req.username, checkField "Password" 0 req.password]

/-- The request body of `HandleRefresh`. -/
def refreshFields (req : AuthBody) : List (Option String) :=
  [checkField "RefreshToken" 0 req.refreshToken]

/-- The request body of `HandleCreateApiKey`. -/
def createApiKeyFields (req : AuthBody) : List (Option String) := [checkField "Name" 1 req.name]

/-- The response of `HandleSetup`, `HandleLogin`, `HandleRefresh` or `HandleLogout` to what the
service returned. -/
def serviceReply {ρ : Type} (handler : Handler) (outcome : Outcome) : Nat × Body ρ :=
  match handler, outcome with
  | .handleSetup, .issued _ pair => (201, .pair pair)
  | .handleSetup, .failed .setupDone => (409, .error "setup already complete")
  | .handleSetup, _ => (500, .error "setup failed")
  | .handleLogin, .issued _ pair => (200, .pair pair)
  | .handleLogin, .failed .invalidPassword => (401, .error "invalid credentials")
  | .handleLogin, _ => (500, .error "login failed")
  | .handleRefresh, .issued _ pair => (200, .pair pair)
  | .handleRefresh, .failed .invalidToken => (401, .error "invalid refresh token")
  | .handleRefresh, .failed .notFound => (401, .error "invalid refresh token")
  | .handleRefresh, .failed .tokenExpired => (401, .error "refresh token expired")
  | .handleRefresh, _ => (500, .error "refresh failed")
  -- `HandleLogout` drops the error.
  | _, _ => (204, .empty)

section Handlers

variable {κ σ ρ : Type} (srv : Server κ) (env : GatewayEnv κ σ ρ)

/-- The call of the service, if the body is accepted. -/
def callService (ctx : Context ρ) (fields : AuthBody → List (Option String))
    (request : AuthBody → Auth.Request) : Context ρ :=
  match bindFields fields ctx.request.body with
  | .error err => ctx.reply 400 (.error err)
  | .ok req => ctx.next (.service (request req).first)

/-- `HandleLogout` up to the call of the service. Binding errors are ignored. -/
def beginLogout (ctx : Context ρ) : Context ρ :=
  match ctx.request.body with
  | .error _ => ctx.reply 204 .empty
  | .ok req =>
    if req.refreshToken = "" then ctx.reply 204 .empty
    else ctx.next (.service (Auth.Request.logout req.refreshToken).first)

/-- A row without its hash, as `ListApiKeysByUser` scans it. -/
def listedKey (row : ApiKeyRow κ) : ApiKey where
  id := row.id
  userID := row.userID
  name := row.name
  keyHash := ""
  lastUsed := row.lastUsed.map srv.column.read

/-- `ListApiKeysByUser`. -/
def listApiKeysByUser (keys : ApiKeyStore κ) (userID : String) : Except AuthError (List ApiKey) :=
  match env.listFault with
  | some err => .error (.other err)
  | none => .ok ((env.newestFirst (keys.apiKeys.filter (·.userID == userID))).1.map (listedKey srv))

/-- `HandleCreateApiKey`. -/
def handleCreateApiKey (keys : ApiKeyStore κ) (ctx : Context ρ) : ApiKeyStore κ × Context ρ :=
  match bindFields createApiKeyFields ctx.request.body with
  | .error err => (keys, ctx.reply 400 (.error err))
  | .ok req =>
    match createApiKey srv.jwtSecret env.toApiKeyEnv keys ctx.userID req.name with
    | (keys, .error _) => (keys, ctx.reply 500 (.error "failed to create key"))
    | (keys, .ok (key, plainKey)) => (keys, ctx.reply 201 (.createdKey key.id key.name plainKey))

/-- `HandleRevokeApiKey`. -/
def handleRevokeApiKey (keys : ApiKeyStore κ) (ctx : Context ρ) : ApiKeyStore κ × Context ρ :=
  match revokeApiKey env.toApiKeyEnv keys ctx.param ctx.userID with
  | (keys, some .notFound) => (keys, ctx.reply 404 (.error "key not found"))
  | (keys, some _) => (keys, ctx.reply 500 (.error "failed to revoke key"))
  | (keys, none) => (keys, ctx.reply 204 .empty)

/-- The handler of a route, up to its end or to its call of the service. -/
def serve (r : Resources κ σ) (ctx : Context ρ) : Handler → Resources κ σ × Context ρ
  | .handleSetupStatus =>
    match Auth.Service.isSetupRequired env.toAuthEnv r.keys.toStore with
    | .error _ => (r, ctx.reply 500 (.error "internal error"))
    | .ok required => (r, ctx.reply 200 (.setupStatus required))
  | .handleSetup => (r, callService ctx setupFields fun req => .setup req.username req.password)
  | .handleLogin => (r, callService ctx loginFields fun req => .login req.username req.password)
  | .handleRefresh => (r, callService ctx refreshFields fun req => .refresh req.refreshToken)
  | .handleLogout => (r, beginLogout ctx)
  | .handleMe => (r, ctx.reply 200 (.me ctx.identity))
  | .handleListApiKeys =>
    match listApiKeysByUser srv env r.keys ctx.userID with
    | .error _ => (r, ctx.reply 500 (.error "failed to list keys"))
    | .ok keys => (r, ctx.reply 200 (.keys keys))
  | .handleCreateApiKey =>
    let (keys, ctx) := handleCreateApiKey srv env r.keys ctx
    ({ r with keys }, ctx)
  | .handleRevokeApiKey =>
    let (keys, ctx) := handleRevokeApiKey env r.keys ctx
    ({ r with keys }, ctx)
  | .handleList =>
    match Audit.list env.auditRows r.log ctx.request.query with
    | .error _ => (r, ctx.reply 500 (.error "failed to query audit log"))
    | .ok page => (r, ctx.reply 200 (.auditLog page))
  | .app name =>
    match env.handle name ctx.request r.app with
    | (app, some (status, body)) => ({ r with app }, ctx.reply status (.app body))
    -- `gin.Recovery` answers, and `Audit` does not get control back.
    | (app, none) => ({ r with app }, ctx.next (.done ⟨500, .empty⟩))

/-- `Audit`, after the handler. Its error is only logged. -/
def audit (log : Audit.Table) (ctx : Context ρ) (response : Response ρ) : Audit.Table :=
  match auditEntry ctx response with
  | none => log
  | some entry =>
    match log.log env.auditFault env.timestamp entry with
    | .error _ => log
    | .ok log => log

/-- Run a request up to and including its next statement. -/
def advance (r : Resources κ σ) (ctx : Context ρ) : Resources κ σ × Context ρ :=
  match ctx.stage with
  | .isSetupRequired =>
    match Auth.Service.isSetupRequired env.toAuthEnv r.keys.toStore with
    | .error _ => (r, ctx.reply 500 (.error "auth check failed"))
    | .ok true => (r, ctx.reply 503 .setupRequired)
    | .ok false => (r, ctx.next .credentials)
  | .credentials => (r, readCredentials srv env r ctx)
  | .findOwner key =>
    match r.keys.toStore.getUserByID env.toAuthEnv key.userID with
    | .error err => (r, abortUnauthorized ctx err)
    | .ok user => (r, ctx.next (.touchKey key user))
  | .touchKey key user =>
    match r.keys.touchApiKeyLastUsed srv.column env.toApiKeyEnv key.id with
    -- The error of this update is dropped.
    | .error _ => (r, ctx.setUser (identityOf user))
    | .ok keys => ({ r with keys }, ctx.setUser (identityOf user))
  | .handler =>
    match ctx.request.route with
    | none => (r, ctx)
    | some route => serve srv env r ctx route.handler
  | .service stage =>
    match Auth.advance srv.service srv.column env.toAuthEnv r.keys.toStore stage with
    | (store, .done outcome) =>
      let (status, body) :=
        serviceReply ((ctx.request.route.map Route.handler).getD .handleLogout) outcome
      ({ r with keys := { r.keys with toStore := store } }, ctx.reply status body)
    | (store, stage) =>
      ({ r with keys := { r.keys with toStore := store } }, ctx.next (.service stage))
  | .audit response =>
    ({ r with log := audit env r.log ctx response }, ctx.next (.done response))
  | .done _ => (r, ctx)

end Handlers

/-! ### The server -/

/-- The server with its requests, in the order of their arrival. -/
structure State (κ σ ρ : Type) where
  resources : Resources κ σ
  contexts : List (Context ρ)

/-- What happens next. -/
inductive Event (κ σ ρ : Type) where
  | begin (request : HttpRequest)
  | advance (i : Nat) (env : GatewayEnv κ σ ρ)

section Server

variable {κ σ ρ : Type}

/-- The stage at which a request begins. -/
def HttpRequest.first (request : HttpRequest) : Stage ρ :=
  match request.route with
  | some route => if route.guarded then .isSetupRequired else .handler
  | none =>
    -- The answer to `OPTIONS`, or a file of the UI.
    .done (if request.method = "OPTIONS" then ⟨204, .empty⟩ else ⟨200, .empty⟩)

/-- The request has ended. -/
def Stage.isDone : Stage ρ → Bool
  | .done _ => true
  | _ => false

/-- A request arrives, or a request that has not ended goes on. -/
def step (srv : Server κ) (st : State κ σ ρ) : Event κ σ ρ → Option (State κ σ ρ)
  | .begin request => some { st with contexts := st.contexts ++ [⟨request, none, request.first⟩] }
  | .advance i env =>
    match st.contexts[i]? with
    | none => none
    | some ctx =>
      if ctx.stage.isDone then none
      else
        let (resources, ctx) := advance srv env st.resources ctx
        some { resources, contexts := st.contexts.set i ctx }

/-- The server after a start on its tables. -/
def start (resources : Resources κ σ) : State κ σ ρ := ⟨resources, []⟩

end Server

end OtelHive.Api.Gateway
