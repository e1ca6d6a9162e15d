import OtelHive.Api.Gateway
import OtelHive.Proofs.Auth.ApiKeys
import OtelHive.Proofs.Auth.Setup

/-!
# `OtelHive.Proofs.Api.GatewaySteps`: what one step of a request does

`Effect` lists what a step of a request can do, with what it has read or checked. `advance_effect`
is the only proof that looks into `advance`. `guarded_of_mem` says which handlers `Auth` guards.

The stages of `Auth` for an API key are the function `validateApiKey` of `Auth.ApiKeys`, when nobody
interrupts them (`uninterrupted_validateApiKey`).
-/

set_option autoImplicit false

namespace OtelHive.Api.Gateway

open OtelHive.Lib
open OtelHive.Auth

/-! ### Routes -/

/-- The handler has a route outside of the groups with `Auth`. -/
def Handler.isPublic : Handler → Bool
  | .handleSetupStatus | .handleSetup | .handleLogin | .handleLogout | .handleRefresh => true
  | .app .metrics | .app .handleHealth | .app .handleWebhook => true
  | _ => false

/-- The group of a route says whether its handler is public. -/
theorem guarded_of_mem {route : Route} (h : route ∈ routes) :
    route.guarded = !route.handler.isPublic := by
  have hall : (routes.all fun route => route.guarded == !route.handler.isPublic) = true := by
    decide
  exact eq_of_beq (List.all_eq_true.mp hall route h)

theorem HttpRequest.mem_routes {request : HttpRequest} {route : Route}
    (h : request.route = some route) : route ∈ routes := by
  unfold HttpRequest.route at h
  split at h
  · cases h
  · exact List.mem_of_find?_eq_some h

/-! ### What one step does -/

/-- The request is in `Auth`. -/
def Stage.InAuth {ρ : Type} : Stage ρ → Prop
  | .isSetupRequired => True
  | .credentials => True
  | .findOwner _ => True
  | .touchKey _ _ => True
  | _ => False

section Effects

variable {κ σ ρ : Type}

/-- What a request does up to and including its next statement. -/
inductive Effect (srv : Server κ) (env : GatewayEnv κ σ ρ) (r : Resources κ σ) (ctx : Context ρ) :
    Resources κ σ → Context ρ → Prop where
  /-- `Auth` aborts the request. -/
  | refuse (status : Nat) (body : Body ρ) (h : 400 ≤ status) :
    Effect srv env r ctx r (ctx.reply status body)
  /-- There is a user. -/
  | pass (inAuth : ctx.stage.InAuth) : Effect srv env r ctx r (ctx.next .credentials)
  /-- `jwt` accepts the token. -/
  | token (inAuth : ctx.stage.InAuth) (token : Bytes) (claims : AccessClaims)
    (accepted : env.parseWithClaims (keyFunc srv.jwtSecret) token = .ok (claims, true)) :
    Effect srv env r ctx r (ctx.setUser ⟨claims.userID, claims.username, claims.role⟩)
  /-- The row of the API key is found. -/
  | findKey (inAuth : ctx.stage.InAuth) (key : ApiKey) (row : ApiKeyRow κ)
    (found : row ∈ r.keys.apiKeys) (owner : key.userID = row.userID) :
    Effect srv env r ctx r (ctx.next (.findOwner key))
  /-- The user of the API key is found. -/
  | findOwner (inAuth : ctx.stage.InAuth) (key : ApiKey) (user : User)
    (found : user ∈ r.keys.users) :
    Effect srv env r ctx r (ctx.next (.touchKey key user))
  /-- The time of the last use is written, or not. -/
  | touchKey (key : ApiKey) (user : User) (stage : ctx.stage = .touchKey key user)
    (keys : ApiKeyStore κ) (store : keys.toStore = r.keys.toStore)
    (owners : ∀ row ∈ keys.apiKeys, ∃ row' ∈ r.keys.apiKeys, row'.userID = row.userID) :
    Effect srv env r ctx { r with keys } (ctx.setUser (identityOf user))
  /-- The handler answers, and changes no table. -/
  | answer (stage : ctx.stage = .handler) (status : Nat) (body : Body ρ) :
    Effect srv env r ctx r (ctx.reply status body)
  /-- The handler calls the auth service. -/
  | callService (stage : ctx.stage = .handler) (request : Auth.Request) :
    Effect srv env r ctx r (ctx.next (.service request.first))
  /-- `HandleCreateApiKey` inserts a row. -/
  | createKey (stage : ctx.stage = .handler) (route : Route) (hroute : ctx.request.route = some route)
    (guarded : route.guarded = true) (keys : ApiKeyStore κ) (row : ApiKeyRow κ)
    (owner : row.userID = ctx.userID) (store : keys.toStore = r.keys.toStore)
    (rows : keys.apiKeys = r.keys.apiKeys ++ [row]) (status : Nat) (body : Body ρ) :
    Effect srv env r ctx { r with keys } (ctx.reply status body)
  /-- `HandleRevokeApiKey` deletes rows. -/
  | revokeKey (stage : ctx.stage = .handler) (keys : ApiKeyStore κ)
    (store : keys.toStore = r.keys.toStore) (rows : ∀ row ∈ keys.apiKeys, row ∈ r.keys.apiKeys)
    (status : Nat) (body : Body ρ) : Effect srv env r ctx { r with keys } (ctx.reply status body)
  /-- Another handler returns or panics. -/
  | call (stage : ctx.stage = .handler) (route : Route) (hroute : ctx.request.route = some route)
    (name : AppHandler) (handler : route.handler = .app name) (next : Stage ρ)
    (hnext : next = .done ⟨500, .empty⟩ ∨ ∃ response, next = .audit response) :
    Effect srv env r ctx { r with app := (env.handle name ctx.request r.app).1 } (ctx.next next)
  /-- A call of the auth service goes on. -/
  | service (stage : Auth.Stage) (hstage : ctx.stage = .service stage) (next : Stage ρ)
    (hnext : next = .service (Auth.advance srv.service srv.column env.toAuthEnv
        r.keys.toStore stage).2 ∨ ∃ response, next = .audit response) :
    Effect srv env r ctx
      { r with keys := { r.keys with
        toStore := (Auth.advance srv.service srv.column env.toAuthEnv r.keys.toStore stage).1 } }
      (ctx.next next)
  /-- `Audit` writes its entry, or not. -/
  | audit (response : Response ρ) (stage : ctx.stage = .audit response) :
    Effect srv env r ctx { r with log := audit env r.log ctx response } (ctx.next (.done response))

variable {srv : Server κ} {env : GatewayEnv κ σ ρ} {r : Resources κ σ} {ctx : Context ρ}

theorem validateAccessToken_ok {token : Bytes} {claims : AccessClaims}
    (h : validateAccessToken srv env token = .ok claims) :
    env.parseWithClaims (keyFunc srv.jwtSecret) token = .ok (claims, true) := by
  unfold validateAccessToken at h
  cases hparse : env.parseWithClaims (keyFunc srv.jwtSecret) token with
  | error err =>
    simp only [hparse] at h
    split at h <;> cases h
  | ok parsed =>
    obtain ⟨claims', valid⟩ := parsed
    simp only [hparse] at h
    cases valid with
    | false => simp at h
    | true => simpa using h

theorem getApiKeyByHash_ok {col : ExpiryColumn κ} {env : ApiKeyEnv} {keys : ApiKeyStore κ}
    {keyHash : String} {key : ApiKey} (h : keys.getApiKeyByHash col env keyHash = .ok key) :
    ∃ row ∈ keys.apiKeys, key.userID = row.userID := by
  have hfind := ApiKeyEnv.keyCall_eq_ok h
  split at hfind
  · rename_i row hrow
    cases hfind
    exact ⟨row, List.mem_of_find?_eq_some hrow, rfl⟩
  · cases hfind

theorem getUserByID_ok {env : AuthEnv} {s : Store κ} {id : String} {user : User}
    (h : s.getUserByID env id = .ok user) : user ∈ s.users := by
  obtain ⟨-, hfind⟩ := AuthEnv.call_eq_ok h
  split at hfind
  · rename_i user' huser
    cases hfind
    exact List.mem_of_find?_eq_some huser
  · cases hfind

theorem readCredentials_effect (hstage : ctx.stage.InAuth) :
    Effect srv env r ctx r (readCredentials srv env r ctx) := by
  unfold readCredentials
  split
  · split
    · exact .refuse 401 _ (by decide)
    · rename_i claims hclaims
      exact .token hstage _ claims (validateAccessToken_ok hclaims)
  · split
    · split
      · exact .refuse 401 _ (by decide)
      · split
        · exact .refuse 401 _ (by decide)
        · exact .refuse 401 _ (by decide)
        · rename_i key hkey
          obtain ⟨row, hrow, howner⟩ := getApiKeyByHash_ok hkey
          exact .findKey hstage key row hrow howner
    · exact .refuse 401 _ (by decide)

theorem touchApiKeyLastUsed_rows {col : ExpiryColumn κ} {env : ApiKeyEnv}
    {keys keys' : ApiKeyStore κ} {id : String}
    (h : keys.touchApiKeyLastUsed col env id = .ok keys') :
    keys'.toStore = keys.toStore
      ∧ ∀ row ∈ keys'.apiKeys, ∃ row' ∈ keys.apiKeys, row'.userID = row.userID := by
  have htouch := ApiKeyEnv.keyCall_eq_ok h
  cases htouch
  refine ⟨rfl, ?_⟩
  intro row hrow
  obtain ⟨row', hrow', rfl⟩ := List.mem_map.mp hrow
  refine ⟨row', hrow', ?_⟩
  split <;> rfl

theorem insertApiKey_rows {env : ApiKeyEnv} {keys keys' : ApiKeyStore κ} {key : ApiKey}
    (h : keys.createApiKey env key = .ok keys') : keys'.toStore = keys.toStore
      ∧ ∃ row, row.userID = key.userID ∧ keys'.apiKeys = keys.apiKeys ++ [row] := by
  have hinsert := ApiKeyEnv.keyCall_eq_ok h
  split at hinsert
  · cases hinsert
  · split at hinsert
    · cases hinsert
    · split at hinsert
      · cases hinsert
      · cases hinsert
        exact ⟨rfl, _, rfl, rfl⟩

/-- `CreateApiKey` inserts a row of the user, or it fails and changes nothing. -/
theorem createApiKey_rows {jwtSecret : Bytes} {env : ApiKeyEnv} {keys keys' : ApiKeyStore κ}
    {userID name : String} {result : Except AuthError (ApiKey × Bytes)}
    (h : createApiKey jwtSecret env keys userID name = (keys', result)) :
    (keys' = keys ∧ ∃ err, result = .error err) ∨ (keys'.toStore = keys.toStore
      ∧ ∃ row, row.userID = userID ∧ keys'.apiKeys = keys.apiKeys ++ [row]) := by
  unfold createApiKey at h
  split at h
  · cases h
    exact .inl ⟨rfl, _, rfl⟩
  · split at h
    · cases h
      exact .inl ⟨rfl, _, rfl⟩
    · dsimp only at h
      split at h
      · cases h
        exact .inl ⟨rfl, _, rfl⟩
      · rename_i keys'' hinsert
        cases h
        exact .inr (insertApiKey_rows hinsert)

theorem revokeApiKey_rows {env : ApiKeyEnv} {keys keys' : ApiKeyStore κ} {keyID userID : String}
    {err : Option AuthError} (h : revokeApiKey env keys keyID userID = (keys', err)) :
    keys'.toStore = keys.toStore ∧ ∀ row ∈ keys'.apiKeys, row ∈ keys.apiKeys := by
  unfold revokeApiKey at h
  split at h
  · cases h
    exact ⟨rfl, fun row hrow => hrow⟩
  · rename_i keys'' hdelete
    cases h
    have hdelete := ApiKeyEnv.keyCall_eq_ok hdelete
    split at hdelete
    · cases hdelete
      exact ⟨rfl, fun row hrow => (List.mem_filter.mp hrow).1⟩
    · cases hdelete

theorem callService_effect (hstage : ctx.stage = .handler)
    (fields : AuthBody → List (Option String)) (request : AuthBody → Auth.Request) :
    Effect srv env r ctx r (callService ctx fields request) := by
  unfold callService
  split
  · exact .answer hstage 400 _
  · rename_i req _
    exact .callService hstage (request req)

/-- The handlers of the routes. -/
theorem serve_effect (hstage : ctx.stage = .handler) {route : Route}
    (hroute : ctx.request.route = some route) :
    Effect srv env r ctx (serve srv env r ctx route.handler).1
      (serve srv env r ctx route.handler).2 := by
  have hguarded := guarded_of_mem (HttpRequest.mem_routes hroute)
  cases hhandler : route.handler with
  | handleSetupStatus =>
    simp only [serve]
    split
    · exact .answer hstage 500 _
    · exact .answer hstage 200 _
  | handleSetup => exact callService_effect hstage _ _
  | handleLogin => exact callService_effect hstage _ _
  | handleRefresh => exact callService_effect hstage _ _
  | handleLogout =>
    simp only [serve, beginLogout]
    split
    · exact .answer hstage 204 _
    · split
      · exact .answer hstage 204 _
      · rename_i req _ _
        exact .callService hstage (.logout req.refreshToken)
  | handleMe => exact .answer hstage 200 _
  | handleListApiKeys =>
    simp only [serve]
    split
    · exact .answer hstage 500 _
    · exact .answer hstage 200 _
  | handleCreateApiKey =>
    rw [hhandler] at hguarded
    simp only [serve, handleCreateApiKey]
    split
    · exact .answer hstage 400 _
    · split
      · rename_i keys err hcreate
        obtain ⟨rfl, -⟩ | ⟨hstore, row, howner, hrows⟩ := createApiKey_rows hcreate
        · exact .answer hstage 500 _
        · exact .createKey hstage route hroute hguarded keys row howner hstore hrows 500 _
      · rename_i keys key plainKey hcreate
        obtain ⟨rfl, err, herr⟩ | ⟨hstore, row, howner, hrows⟩ := createApiKey_rows hcreate
        · cases herr
        · exact .createKey hstage route hroute hguarded keys row howner hstore hrows 201 _
  | handleRevokeApiKey =>
    simp only [serve, handleRevokeApiKey]
    split
    · rename_i keys hrevoke
      obtain ⟨hstore, hrows⟩ := revokeApiKey_rows hrevoke
      exact .revokeKey hstage keys hstore hrows 404 _
    · rename_i keys err _ hrevoke
      obtain ⟨hstore, hrows⟩ := revokeApiKey_rows hrevoke
      exact .revokeKey hstage keys hstore hrows 500 _
    · rename_i keys hrevoke
      obtain ⟨hstore, hrows⟩ := revokeApiKey_rows hrevoke
      exact .revokeKey hstage keys hstore hrows 204 _
  | handleList =>
    simp only [serve]
    split
    · exact .answer hstage 500 _
    · exact .answer hstage 200 _
  | app name =>
    have hcall : ∀ next, _ → Effect srv env r ctx _ (ctx.next next) :=
      Effect.call hstage route hroute name hhandler
    simp only [serve]
    split
    · rename_i app status body happ
      have happ' : (env.handle name ctx.request r.app).1 = app := by rw [happ]
      rw [← happ']
      exact hcall (.audit ⟨status, .app body⟩) (.inr ⟨_, rfl⟩)
    · rename_i app happ
      have happ' : (env.handle name ctx.request r.app).1 = app := by rw [happ]
      rw [← happ']
      exact hcall (.done ⟨500, .empty⟩) (.inl rfl)

/-- Every step of a request is one of the effects. A handler needs a route, which a request that is
not done has. -/
theorem advance_effect (srv : Server κ) (env : GatewayEnv κ σ ρ) (r : Resources κ σ)
    {ctx : Context ρ} (hdone : ctx.stage.isDone = false)
    (hroute : ∃ route, ctx.request.route = some route) :
    Effect srv env r ctx (advance srv env r ctx).1 (advance srv env r ctx).2 := by
  unfold advance
  split
  · rename_i hstage
    split
    · exact .refuse 500 _ (by decide)
    · exact .refuse 503 _ (by decide)
    · exact .pass (by rw [hstage]; trivial)
  · rename_i hstage
    exact readCredentials_effect (by rw [hstage]; trivial)
  · rename_i key hstage
    split
    · exact .refuse 401 _ (by decide)
    · rename_i user huser
      exact .findOwner (by rw [hstage]; trivial) key user (getUserByID_ok huser)
  · rename_i key user hstage
    split
    · exact .touchKey key user hstage r.keys rfl fun row hrow => ⟨row, hrow, rfl⟩
    · rename_i keys htouch
      obtain ⟨hstore, howners⟩ := touchApiKeyLastUsed_rows htouch
      exact .touchKey key user hstage keys hstore howners
  · rename_i hstage
    obtain ⟨route, hroute⟩ := hroute
    simp only [hroute]
    exact serve_effect hstage hroute
  · rename_i stage hstage
    have hservice : ∀ next, _ → Effect srv env r ctx _ (ctx.next next) :=
      Effect.service stage hstage
    split
    · rename_i store outcome hadvance
      rw [hadvance] at hservice
      exact hservice _ (.inr ⟨_, rfl⟩)
    · rename_i store next _ hadvance
      rw [hadvance] at hservice
      exact hservice _ (.inl rfl)
  · rename_i response hstage
    exact .audit response hstage
  · rename_i response hstage
    rw [hstage] at hdone
    cases hdone

end Effects

/-! ### API keys without interruption -/

section Uninterrupted

variable {κ σ ρ : Type} (srv : Server κ) (env : GatewayEnv κ σ ρ)

/-- Run a request while it is in `Auth`, for `n` steps at most. -/
def driveAuth : Nat → Resources κ σ × Context ρ → Resources κ σ × Context ρ
  | 0, p => p
  | n + 1, (r, ctx) =>
    match ctx.stage with
    | .credentials | .findOwner _ | .touchKey _ _ => driveAuth n (advance srv env r ctx)
    | _ => (r, ctx)

/-- `ValidateApiKey`, statement by statement. -/
theorem uninterrupted_validateApiKey (r : Resources κ σ) (ctx : Context ρ)
    (hstage : ctx.stage = .credentials)
    (hbearer : bearer.isPrefixOf ctx.request.authorization = false)
    (hkey : ctx.request.xApiKey ≠ []) :
    driveAuth srv env 3 (r, ctx)
      = ({ r with keys := (validateApiKey srv.jwtSecret srv.column env.toApiKeyEnv r.keys
            ctx.request.xApiKey).1 },
        match (validateApiKey srv.jwtSecret srv.column env.toApiKeyEnv r.keys
            ctx.request.xApiKey).2 with
        | .ok (user, _) => ctx.setUser (identityOf user)
        | .error err => abortUnauthorized ctx err) := by
  rw [driveAuth, hstage]
  simp only [advance, hstage, readCredentials, hbearer, validateApiKey, if_neg, if_pos hkey,
    Bool.false_eq_true, not_false_eq_true]
  split
  · rfl
  · cases hfind : r.keys.getApiKeyByHash srv.column env.toApiKeyEnv
        (hmacKeyHash ctx.request.xApiKey srv.jwtSecret) with
    | error err => cases err <;> rfl
    | ok key =>
      simp only [driveAuth, Context.next, advance]
      cases hfound : r.keys.toStore.getUserByID env.toAuthEnv key.userID with
      | error err => rfl
      | ok user =>
        simp only
        cases r.keys.touchApiKeyLastUsed srv.column env.toApiKeyEnv key.id <;> rfl

end Uninterrupted

end OtelHive.Api.Gateway
