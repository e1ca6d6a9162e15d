import OtelHive.Api.Groups
import OtelHive.Proofs.Api.GatewaySteps

/-!
# `OtelHive.Proofs.Api.Gateway`: who reaches the handlers

`Owned` says that each credential belongs to a user that exists: a refresh token, an API key and an
access token that the service has signed. No foreign key is needed for that, as no function deletes
a user. `Context.Holds` adds that each request carries the identity of such a user once it is past
`Auth`. Every step keeps both (`Effect.keeps`).

Two results about all runs follow. The rest of the process changes only by calls of handlers, and
all calls but those of the public handlers are made by an administrator that exists
(`handlers_mediated`). A credential never outlives its user (`credentials_owned`).

`Unforged` is what the JWT library guarantees: it accepts only tokens that were signed.
-/

set_option autoImplicit false

namespace OtelHive.Api.Gateway

open OtelHive.Lib
open OtelHive.Auth

/-! ### The record of a run -/

/-- A call of a handler outside of `handlers/auth.go`. -/
structure Call (σ : Type) where
  handler : AppHandler
  identity : Option Identity
  effect : σ → σ

/-- The access tokens that the service has signed, the calls of the other handlers, and the requests
whose entry is in the audit log. -/
structure History (σ : Type) where
  signed : List (Bytes × AccessClaims)
  calls : List (Call σ)
  logged : List Nat

section Record

variable {κ σ ρ : Type} (srv : Server κ) (env : GatewayEnv κ σ ρ) (r : Resources κ σ)
  (ctx : Context ρ)

/-- The call that a step of a request makes, if it makes one. -/
def newCalls : List (Call σ) :=
  match ctx.stage, ctx.request.route.map Route.handler with
  | .handler, some (.app name) =>
    [⟨name, ctx.identity, fun app => (env.handle name ctx.request app).1⟩]
  | _, _ => []

/-- The access token that a step of a request signs, if it signs one that a client gets. -/
def newSigned : List (Bytes × AccessClaims) :=
  match ctx.stage with
  | .service (.issue user) =>
    match (Auth.advance srv.service srv.column env.toAuthEnv r.keys.toStore (.issue user)).2 with
    | .done (.issued _ pair) =>
      [(pair.accessToken.toUTF8.data.toList, srv.service.accessClaims env.toAuthEnv user)]
    | _ => []
  | _ => []

/-- The request, if its step inserts an entry into the audit log. -/
def newLogged (i : Nat) : List Nat :=
  match ctx.stage with
  | .audit response =>
    match auditEntry ctx response with
    | none => []
    | some entry =>
      match r.log.log env.auditFault env.timestamp entry with
      | .error _ => []
      | .ok _ => [i]
  | _ => []

/-- The record after an event. -/
def record (g : History σ) (st : State κ σ ρ) : Event κ σ ρ → History σ
  | .begin _ => g
  | .advance i env =>
    match st.contexts[i]? with
    | none => g
    | some ctx => {
        signed := g.signed ++ newSigned srv env st.resources ctx
        calls := g.calls ++ newCalls env ctx
        logged := g.logged ++ newLogged env st.resources ctx i }

/-- The identity that a token carries. -/
def claimed (claims : AccessClaims) : Identity := ⟨claims.userID, claims.username, claims.role⟩

/-- `jwt` accepts only tokens that the service has signed, for the user they were signed for. -/
def Unforged (p : State κ σ ρ × History σ) : Event κ σ ρ → Prop
  | .begin _ => True
  | .advance _ env => ∀ token claims,
    env.parseWithClaims (keyFunc srv.jwtSecret) token = .ok (claims, true) →
      ∃ q ∈ p.2.signed, q.1 = token ∧ claimed q.2 = claimed claims

end Record

/-! ### Credentials -/

/-- Each credential belongs to a user, and each user is an administrator. -/
structure Owned {κ : Type} (keys : ApiKeyStore κ) (signed : List (Bytes × AccessClaims)) : Prop where
  admins : ∀ user ∈ keys.users, user.role = .admin
  refreshTokens : ∀ row ∈ keys.refreshTokens, ∃ user ∈ keys.users, user.id = row.userID
  apiKeys : ∀ row ∈ keys.apiKeys, ∃ user ∈ keys.users, user.id = row.userID
  signed : ∀ p ∈ signed, ∃ user ∈ keys.users, identityOf user = claimed p.2

/-- The user that a call of the service has read, or is about to read, exists. -/
def OwnedStage (users : List User) : Auth.Stage → Prop
  | .readUser _ userID => ∃ user ∈ users, user.id = userID
  | .rotate _ user => user ∈ users
  | .issue user => user ∈ users
  | _ => True

/-- The request is past `Auth`: before its handler, in it, or after it with a success. -/
def Stage.Entered {ρ : Type} : Stage ρ → Prop
  | .handler => True
  | .service _ => True
  | .audit response => response.status < 400
  | .done response => response.status < 400
  | _ => False

/-- What holds of each request. -/
structure Context.Holds {ρ : Type} (users : List User) (ctx : Context ρ) : Prop where
  routed : ctx.stage.isDone = false → ∃ route, ctx.request.route = some route
  identity : ∀ identity, ctx.identity = some identity → ∃ user ∈ users, identityOf user = identity
  entered : ctx.stage.Entered → ∀ route, ctx.request.route = some route →
    route.guarded = true → ctx.identity.isSome = true
  guarded : ctx.stage.InAuth ∨ ctx.identity.isSome = true →
    ∀ route, ctx.request.route = some route → route.guarded = true
  owner : ∀ key, ctx.stage = .findOwner key → ∃ user ∈ users, user.id = key.userID
  user : ∀ key user, ctx.stage = .touchKey key user → user ∈ users
  service : ∀ stage, ctx.stage = .service stage → OwnedStage users stage

section Credentials

variable {κ σ ρ : Type}

theorem OwnedStage.mono {users users' : List User} (hsub : ∀ user ∈ users, user ∈ users')
    {stage : Auth.Stage} (h : OwnedStage users stage) : OwnedStage users' stage := by
  cases stage with
  | readUser hash userID =>
    obtain ⟨user, huser, hid⟩ := h
    exact ⟨user, hsub user huser, hid⟩
  | rotate hash user => exact hsub user h
  | issue user => exact hsub user h
  | _ => trivial

theorem Context.Holds.mono {users users' : List User} (hsub : ∀ user ∈ users, user ∈ users')
    {ctx : Context ρ} (h : ctx.Holds users) : ctx.Holds users' where
  routed := h.routed
  identity := by
    intro identity hidentity
    obtain ⟨user, huser, hid⟩ := h.identity identity hidentity
    exact ⟨user, hsub user huser, hid⟩
  entered := h.entered
  guarded := h.guarded
  owner := by
    intro key hkey
    obtain ⟨user, huser, hid⟩ := h.owner key hkey
    exact ⟨user, hsub user huser, hid⟩
  user := fun key user hstage => hsub user (h.user key user hstage)
  service := fun stage hstage => (h.service stage hstage).mono hsub

/-- Only `Setup` makes a user, and it makes an administrator. -/
theorem createAdmin_admin {env : AuthEnv} {username password : String} {s s' : Store κ}
    {user : User} (h : Auth.Service.createAdmin env username password s = .ok (user, s')) :
    user.role = .admin := by
  unfold Auth.Service.createAdmin at h
  split at h
  · cases h
  · split at h
    · cases h
    · dsimp only at h
      split at h
      · cases h
      · cases h
        rfl

/-- A statement of the service keeps the users, and a new one is an administrator. -/
theorem advance_users (svc : Auth.Service) (col : ExpiryColumn κ) (env : AuthEnv) (s : Store κ)
    (stage : Auth.Stage) : (Auth.advance svc col env s stage).1.users = s.users
      ∨ ∃ user, user.role = .admin
        ∧ (Auth.advance svc col env s stage).1.users = s.users ++ [user] := by
  cases hstage : stage.isDone with
  | true =>
    cases stage with
    | done outcome => exact .inl rfl
    | _ => cases hstage
  | false =>
    cases stage with
    | createUser username password =>
      simp only [Auth.advance]
      split
      · exact .inl rfl
      · rename_i user s' hcreate
        obtain ⟨-, -, rfl⟩ := Service.createAdmin_ok hcreate
        exact .inr ⟨user, createAdmin_admin hcreate, rfl⟩
    | _ =>
      have heffect : Auth.Effect env s _ (Auth.advance svc col env s _).1
        (Auth.advance svc col env s _).2 := Auth.advance_effect hstage
      exact .inl (heffect.users_eq (by simp))

/-- The rows and the stage after a statement of the service. -/
theorem advance_owned (svc : Auth.Service) (col : ExpiryColumn κ) (env : AuthEnv) {s : Store κ}
    {stage : Auth.Stage} (hstage : OwnedStage s.users stage)
    (hrows : ∀ row ∈ s.refreshTokens, ∃ user ∈ s.users, user.id = row.userID) :
    (∀ row ∈ (Auth.advance svc col env s stage).1.refreshTokens,
        ∃ user ∈ (Auth.advance svc col env s stage).1.users, user.id = row.userID)
      ∧ OwnedStage (Auth.advance svc col env s stage).1.users
        (Auth.advance svc col env s stage).2 := by
  cases hdone : stage.isDone with
  | true =>
    cases stage with
    | done outcome => exact ⟨hrows, trivial⟩
    | _ => cases hdone
  | false =>
    have heffect : Auth.Effect env s stage (Auth.advance svc col env s stage).1
      (Auth.advance svc col env s stage).2 := Auth.advance_effect hdone
    revert heffect
    generalize Auth.advance svc col env s stage = after
    intro heffect
    obtain ⟨s', stage'⟩ := after
    cases heffect with
    | fail | count | expired | notStored => exact ⟨hrows, trivial⟩
    | create username password user =>
      refine ⟨?_, List.mem_append_right _ (List.mem_singleton_self user)⟩
      intro row hrow
      obtain ⟨owner, howner, hid⟩ := hrows row hrow
      exact ⟨owner, List.mem_append_left _ howner, hid⟩
    | login username password user found => exact ⟨hrows, List.mem_of_find?_eq_some found⟩
    | readToken row found => exact ⟨hrows, hrows row found⟩
    | deleteExpired hash => exact ⟨fun row hrow => hrows row (List.mem_filter.mp hrow).1, trivial⟩
    | readUser hash user found => exact ⟨hrows, found⟩
    | rotateRefused hash user refused => exact ⟨hrows, hstage⟩
    | rotate hash user => exact ⟨fun row hrow => hrows row (List.mem_filter.mp hrow).1, hstage⟩
    | issue user pair row token owner hash =>
      refine ⟨?_, trivial⟩
      intro row' hrow'
      rcases List.mem_append.mp hrow' with hold | hnew
      · exact hrows row' hold
      · rw [List.mem_singleton.mp hnew]
        exact ⟨user, hstage, owner.symm⟩
    | readOwner row found => exact ⟨hrows, trivial⟩
    | revoke userID => exact ⟨fun row hrow => hrows row (List.mem_filter.mp hrow).1, trivial⟩

variable {users : List User} {ctx : Context ρ}

/-- The response is written. A success comes from a request that is past `Auth`. -/
theorem Context.Holds.reply (h : ctx.Holds users) (hroute : ∃ route, ctx.request.route = some route)
    {status : Nat} (hentered : status < 400 → ctx.stage.Entered) (body : Body ρ) :
    (ctx.reply status body).Holds users where
  routed := fun _ => hroute
  identity := h.identity
  entered := fun hsuccess => h.entered (hentered hsuccess)
  guarded := fun hidentity => h.guarded (hidentity.imp False.elim id)
  owner := by
    intro key hstage
    cases hstage
  user := by
    intro key user hstage
    cases hstage
  service := by
    intro stage hstage
    cases hstage

/-- `Auth` lets the request pass. -/
theorem Context.Holds.setUser (h : ctx.Holds users) (hstage : ctx.stage.InAuth)
    (hroute : ∃ route, ctx.request.route = some route) {identity : Identity}
    (hidentity : ∃ user ∈ users, identityOf user = identity) :
    (ctx.setUser identity).Holds users where
  routed := fun _ => hroute
  identity := by
    intro identity' hsome
    cases hsome
    exact hidentity
  entered := fun _ _ _ _ => rfl
  guarded := fun _ => h.guarded (.inl hstage)
  owner := by
    intro key hstage
    cases hstage
  user := by
    intro key user hstage
    cases hstage
  service := by
    intro stage hstage
    cases hstage

/-- The request goes on in `Auth`. -/
theorem Context.Holds.next (h : ctx.Holds users) (hauth : ctx.stage.InAuth)
    (hroute : ∃ route, ctx.request.route = some route) {stage : Stage ρ}
    (hentered : ¬ stage.Entered)
    (howner : ∀ key, stage = .findOwner key → ∃ user ∈ users, user.id = key.userID)
    (huser : ∀ key user, stage = .touchKey key user → user ∈ users) :
    (ctx.next stage).Holds users where
  routed := fun _ => hroute
  identity := h.identity
  entered := fun hstage => absurd hstage hentered
  guarded := fun _ => h.guarded (.inl hauth)
  owner := howner
  user := huser
  service := by
    intro service hstage
    have hstage' : stage = .service service := hstage
    rw [hstage'] at hentered
    exact absurd trivial hentered

/-- The request goes on in a call of the service. -/
theorem Context.Holds.callService (h : ctx.Holds users)
    (hroute : ∃ route, ctx.request.route = some route) (hentered : ctx.stage.Entered)
    {stage : Auth.Stage} (hstage : OwnedStage users stage) :
    (ctx.next (.service stage)).Holds users where
  routed := fun _ => hroute
  identity := h.identity
  entered := fun _ => h.entered hentered
  guarded := fun hidentity => h.guarded (hidentity.imp False.elim id)
  owner := by
    intro key hstage
    cases hstage
  user := by
    intro key user hstage
    cases hstage
  service := by
    intro stage' heq
    cases heq
    exact hstage

theorem ownedStage_first (request : Auth.Request) : OwnedStage users request.first := by
  cases request with
  | handleLogout userID refreshToken =>
    simp only [Auth.Request.first]
    split <;> trivial
  | _ => trivial

/-- The rows of API keys change, and the other tables do not. -/
theorem Owned.withKeys {keys keys' : ApiKeyStore κ} {signed : List (Bytes × AccessClaims)}
    (h : Owned keys signed) (hstore : keys'.toStore = keys.toStore)
    (hrows : ∀ row ∈ keys'.apiKeys, ∃ user ∈ keys.users, user.id = row.userID) :
    Owned keys' signed where
  admins := by
    rw [hstore]
    exact h.admins
  refreshTokens := by
    rw [hstore]
    exact h.refreshTokens
  apiKeys := by
    rw [hstore]
    exact hrows
  signed := by
    rw [hstore]
    exact h.signed

variable {srv : Server κ} {env : GatewayEnv κ σ ρ} {r r' : Resources κ σ} {ctx' : Context ρ}

/-- One step of a request keeps the users, who owns what, and what holds of the request. -/
theorem Effect.keeps {signed : List (Bytes × AccessClaims)} (howned : Owned r.keys signed)
    (hctx : ctx.Holds r.keys.users) (hroute : ∃ route, ctx.request.route = some route)
    (hunforged : ∀ token claims,
      env.parseWithClaims (keyFunc srv.jwtSecret) token = .ok (claims, true) →
        ∃ q ∈ signed, q.1 = token ∧ claimed q.2 = claimed claims)
    (h : Effect srv env r ctx r' ctx') :
    (∀ user ∈ r.keys.users, user ∈ r'.keys.users) ∧ Owned r'.keys signed
      ∧ ctx'.Holds r'.keys.users := by
  have hhandler : ctx.stage = .handler → ctx.stage.Entered := by
    intro hstage
    rw [hstage]
    trivial
  cases h with
  | refuse status body hstatus =>
    exact ⟨fun _ huser => huser, howned, hctx.reply hroute (by omega) body⟩
  | pass inAuth =>
    refine ⟨fun _ huser => huser, howned, hctx.next inAuth hroute id ?_ ?_⟩
    · intro key hstage
      cases hstage
    · intro key user hstage
      cases hstage
  | token inAuth token claims accepted =>
    obtain ⟨q, hsigned, -, hsame⟩ := hunforged token claims accepted
    obtain ⟨user, huser, hid⟩ := howned.signed q hsigned
    exact ⟨fun _ huser => huser, howned,
      hctx.setUser inAuth hroute ⟨user, huser, hid.trans hsame⟩⟩
  | findKey inAuth key row found owner =>
    refine ⟨fun _ huser => huser, howned, hctx.next inAuth hroute id ?_ ?_⟩
    · intro key' hstage
      cases hstage
      rw [owner]
      exact howned.apiKeys row found
    · intro key user hstage
      cases hstage
  | findOwner inAuth key user found =>
    refine ⟨fun _ huser => huser, howned, hctx.next inAuth hroute id ?_ ?_⟩
    · intro key hstage
      cases hstage
    · intro key' user' hstage
      cases hstage
      exact found
  | touchKey key user stage keys store owners =>
    have hsame : keys.users = r.keys.users := by rw [store]
    have howned' : Owned keys signed := by
      refine howned.withKeys store ?_
      intro row hrow
      obtain ⟨row', hrow', howner⟩ := owners row hrow
      rw [← howner]
      exact howned.apiKeys row' hrow'
    have hauth : ctx.stage.InAuth := by
      rw [stage]
      trivial
    rw [← hsame] at hctx
    refine ⟨fun _ huser => hsame ▸ huser, howned', hctx.setUser hauth hroute ⟨user, ?_, rfl⟩⟩
    exact hctx.user key user stage
  | answer stage status body =>
    exact ⟨fun _ huser => huser, howned, hctx.reply hroute (fun _ => hhandler stage) body⟩
  | callService stage request =>
    exact ⟨fun _ huser => huser, howned,
      hctx.callService hroute (hhandler stage) (ownedStage_first request)⟩
  | createKey stage route hroute' guarded keys row owner store rows status body =>
    have hsame : keys.users = r.keys.users := by rw [store]
    -- The request is past `Auth`, so its identity is that of a user.
    have hsome := hctx.entered (hhandler stage) route hroute' guarded
    obtain ⟨identity, hidentity⟩ := Option.isSome_iff_exists.mp hsome
    obtain ⟨user, huser, hid⟩ := hctx.identity identity hidentity
    have hrow : user.id = row.userID := by
      rw [owner, Context.userID, hidentity, ← hid]
      rfl
    refine ⟨fun _ huser => hsame ▸ huser, howned.withKeys store ?_, ?_⟩
    · intro row' hrow'
      rw [rows] at hrow'
      rcases List.mem_append.mp hrow' with hold | hnew
      · exact howned.apiKeys row' hold
      · rw [List.mem_singleton.mp hnew]
        exact ⟨user, huser, hrow⟩
    · rw [← hsame] at hctx
      exact hctx.reply hroute (fun _ => hhandler stage) body
  | revokeKey stage keys store rows status body =>
    have hsame : keys.users = r.keys.users := by rw [store]
    refine ⟨fun _ huser => hsame ▸ huser,
      howned.withKeys store fun row hrow => howned.apiKeys row (rows row hrow), ?_⟩
    rw [← hsame] at hctx
    exact hctx.reply hroute (fun _ => hhandler stage) body
  | call stage route hroute' name handler next hnext =>
    refine ⟨fun _ huser => huser, howned, ?_⟩
    rcases hnext with rfl | ⟨response, rfl⟩
    · exact {
        routed := fun hdone => absurd hdone (by simp [Context.next, Stage.isDone])
        identity := hctx.identity
        entered := fun hsuccess => absurd hsuccess (by simp [Context.next, Stage.Entered])
        guarded := fun hidentity => hctx.guarded (hidentity.imp False.elim id)
        owner := fun key hstage => by cases hstage
        user := fun key user hstage => by cases hstage
        service := fun stage hstage => by cases hstage }
    · exact hctx.reply hroute (fun _ => hhandler stage) response.body
  | service stage hstage next hnext =>
    have husers := advance_users srv.service srv.column env.toAuthEnv r.keys.toStore stage
    obtain ⟨htokens, hafter⟩ := advance_owned srv.service srv.column env.toAuthEnv
      (hctx.service stage hstage) howned.refreshTokens
    revert husers htokens hafter hnext
    generalize Auth.advance srv.service srv.column env.toAuthEnv r.keys.toStore stage = after
    intro hnext husers htokens hafter
    have hsub : ∀ user ∈ r.keys.users, user ∈ after.1.users := by
      intro user huser
      rcases husers with heq | ⟨new, -, heq⟩
      · rw [heq]
        exact huser
      · rw [heq]
        exact List.mem_append_left _ huser
    have hentered : ctx.stage.Entered := by
      rw [hstage]
      trivial
    have hctx' := hctx.mono hsub
    refine ⟨hsub, ⟨?_, htokens, ?_, ?_⟩, ?_⟩
    · intro user huser
      rcases husers with heq | ⟨new, hadmin, heq⟩
      · exact howned.admins user (heq ▸ huser)
      · have huser' : user ∈ r.keys.users ++ [new] := heq ▸ huser
        rcases List.mem_append.mp huser' with hold | hnew
        · exact howned.admins user hold
        · rw [List.mem_singleton.mp hnew]
          exact hadmin
    · intro row hrow
      obtain ⟨user, huser, hid⟩ := howned.apiKeys row hrow
      exact ⟨user, hsub user huser, hid⟩
    · intro p hp
      obtain ⟨user, huser, hid⟩ := howned.signed p hp
      exact ⟨user, hsub user huser, hid⟩
    · rcases hnext with rfl | ⟨response, rfl⟩
      · exact hctx'.callService hroute hentered hafter
      · exact hctx'.reply hroute (fun _ => hentered) response.body
  | audit response stage =>
    refine ⟨fun _ huser => huser, howned, ?_⟩
    exact {
      routed := fun hdone => absurd hdone (by simp [Context.next, Stage.isDone])
      identity := hctx.identity
      entered := fun hsuccess => hctx.entered (by rw [stage]; exact hsuccess)
      guarded := fun hidentity => hctx.guarded (hidentity.imp False.elim id)
      owner := fun key hstage => by cases hstage
      user := fun key user hstage => by cases hstage
      service := fun stage hstage => by cases hstage }

end Credentials

/-! ### Runs -/

section Runs

variable {κ σ ρ : Type}

/-- The calls that the record has are those of public handlers and of users. -/
def Mediated (users : List User) (calls : List (Call σ)) : Prop :=
  ∀ call ∈ calls, (Handler.app call.handler).isPublic = true
    ∨ ∃ user ∈ users, call.identity = some (identityOf user)

/-- The invariant of all runs. -/
structure Inv (app₀ : σ) (p : State κ σ ρ × History σ) : Prop where
  owned : Owned p.1.resources.keys p.2.signed
  contexts : ∀ ctx ∈ p.1.contexts, ctx.Holds p.1.resources.keys.users
  calls : Mediated p.1.resources.keys.users p.2.calls
  app : p.1.resources.app = p.2.calls.foldl (fun app call => call.effect app) app₀

theorem holds_first (users : List User) (request : HttpRequest) :
    (⟨request, none, request.first⟩ : Context ρ).Holds users := by
  unfold HttpRequest.first
  cases hroute : request.route with
  | none =>
    exact {
      routed := fun hdone => by cases hdone
      identity := fun identity hsome => by cases hsome
      entered := fun _ route hroute' => by
        have hnone : request.route = some route := hroute'
        rw [hroute] at hnone
        cases hnone
      guarded := fun hauth => by
        rcases hauth with hauth | hidentity
        · cases hauth
        · cases hidentity
      owner := fun key hstage => by cases hstage
      user := fun key user hstage => by cases hstage
      service := fun stage hstage => by cases hstage }
  | some route =>
    dsimp only
    cases hguarded : route.guarded with
    | true =>
      exact {
        routed := fun _ => ⟨route, hroute⟩
        identity := fun identity hsome => by cases hsome
        entered := fun hentered => by cases hentered
        guarded := fun _ route' hroute' => by
          have hsome : request.route = some route' := hroute'
          rw [hroute] at hsome
          cases hsome
          exact hguarded
        owner := fun key hstage => by cases hstage
        user := fun key user hstage => by cases hstage
        service := fun stage hstage => by cases hstage }
    | false =>
      exact {
        routed := fun _ => ⟨route, hroute⟩
        identity := fun identity hsome => by cases hsome
        entered := fun _ route' hroute' hguarded' => by
          have hsome : request.route = some route' := hroute'
          rw [hroute] at hsome
          cases hsome
          rw [hguarded] at hguarded'
          cases hguarded'
        guarded := fun hauth => by
          rcases hauth with hauth | hidentity
          · cases hauth
          · cases hidentity
        owner := fun key hstage => by cases hstage
        user := fun key user hstage => by cases hstage
        service := fun stage hstage => by cases hstage }

variable {srv : Server κ} {env : GatewayEnv κ σ ρ} {r : Resources κ σ} {ctx : Context ρ}

/-- The rest of the process changes by the recorded calls. -/
theorem advance_app : (advance srv env r ctx).1.app
    = (newCalls env ctx).foldl (fun app call => call.effect app) r.app := by
  unfold advance newCalls
  cases hstage : ctx.stage with
  | isSetupRequired =>
    dsimp only
    split <;> rfl
  | credentials => rfl
  | findOwner key =>
    dsimp only
    split <;> rfl
  | touchKey key user =>
    dsimp only
    split <;> rfl
  | handler =>
    cases hroute : ctx.request.route with
    | none => rfl
    | some route =>
      dsimp only [Option.map_some]
      cases hhandler : route.handler with
      | handleSetupStatus | handleListApiKeys | handleList =>
        simp only [serve]
        split <;> rfl
      | app name =>
        simp only [serve]
        split
        · rename_i app status body happ
          simp [happ]
        · rename_i app happ
          simp [happ]
      | _ => rfl
  | service stage =>
    dsimp only
    split <;> rfl
  | audit response => rfl
  | done response => rfl

/-- The token that a step signs is the token of a user. -/
theorem newSigned_owned (hctx : ctx.Holds r.keys.users) :
    ∀ p ∈ newSigned srv env r ctx, ∃ user ∈ r.keys.users, identityOf user = claimed p.2 := by
  intro p hp
  unfold newSigned at hp
  split at hp
  · rename_i user hstage
    split at hp
    · rw [List.mem_singleton.mp hp]
      exact ⟨user, hctx.service _ hstage, rfl⟩
    · cases hp
  · cases hp

/-- The call that a step makes is mediated. -/
theorem newCalls_mediated (hctx : ctx.Holds r.keys.users) :
    Mediated r.keys.users (newCalls env ctx) := by
  intro call hcall
  unfold newCalls at hcall
  split at hcall
  · rename_i name hstage hhandler
    rw [List.mem_singleton.mp hcall]
    obtain ⟨route, hroute, hname⟩ := Option.map_eq_some_iff.mp hhandler
    cases hpublic : (Handler.app name).isPublic with
    | true => exact .inl rfl
    | false =>
      right
      have hguarded := guarded_of_mem (HttpRequest.mem_routes hroute)
      rw [hname, hpublic] at hguarded
      have hsome := hctx.entered (by rw [hstage]; trivial) route hroute hguarded
      obtain ⟨identity, hidentity⟩ := Option.isSome_iff_exists.mp hsome
      obtain ⟨user, huser, hid⟩ := hctx.identity identity hidentity
      exact ⟨user, huser, by rw [hidentity, hid]⟩
  · cases hcall

/-- What an event does to the server. -/
theorem step_advance {st st' : State κ σ ρ} {i : Nat}
    (h : step srv st (.advance i env) = some st') :
    ∃ ctx, st.contexts[i]? = some ctx ∧ ctx.stage.isDone = false
      ∧ st' = ⟨(advance srv env st.resources ctx).1,
        st.contexts.set i (advance srv env st.resources ctx).2⟩ := by
  simp only [step] at h
  split at h
  · cases h
  · rename_i ctx hctx
    split at h
    · cases h
    · rename_i hdone
      cases h
      exact ⟨ctx, hctx, by simpa using hdone, rfl⟩

theorem record_advance {st : State κ σ ρ} {g : History σ} {i : Nat}
    (h : st.contexts[i]? = some ctx) : record srv g st (.advance i env) = {
      signed := g.signed ++ newSigned srv env st.resources ctx
      calls := g.calls ++ newCalls env ctx
      logged := g.logged ++ newLogged env st.resources ctx i } := by
  simp only [record, h]

/-- Each event keeps the invariant. -/
theorem inv_step {app₀ : σ} (p : State κ σ ρ × History σ) (e : Event κ σ ρ)
    (p' : State κ σ ρ × History σ) (h : Inv app₀ p) (hunforged : Unforged srv p e)
    (hstep : withGhost (step srv) (record srv) p e = some p') : Inv app₀ p' := by
  obtain ⟨st, g⟩ := p
  obtain ⟨st', hst, rfl⟩ := Option.map_eq_some_iff.mp hstep
  cases e with
  | begin request =>
    cases hst
    refine ⟨h.owned, ?_, h.calls, h.app⟩
    intro ctx hctx
    rcases List.mem_append.mp hctx with hold | hnew
    · exact h.contexts ctx hold
    · rw [List.mem_singleton.mp hnew]
      exact holds_first _ request
  | advance i env =>
    obtain ⟨ctx, hctx, hdone, rfl⟩ := step_advance hst
    have hholds := h.contexts ctx (List.mem_of_getElem? hctx)
    have hroute := hholds.routed hdone
    obtain ⟨hsub, howned, hafter⟩ :=
      (advance_effect srv env st.resources hdone hroute).keeps
        h.owned hholds hroute hunforged
    rw [record_advance hctx]
    refine ⟨⟨howned.admins, howned.refreshTokens, howned.apiKeys, ?_⟩, ?_, ?_, ?_⟩
    · intro p hp
      rcases List.mem_append.mp hp with hold | hnew
      · exact howned.signed p hold
      · obtain ⟨user, huser, hid⟩ := newSigned_owned hholds p hnew
        exact ⟨user, hsub user huser, hid⟩
    · intro other hother
      rcases List.mem_or_eq_of_mem_set hother with hold | rfl
      · exact (h.contexts other hold).mono hsub
      · exact hafter
    · intro call hcall
      have hcase : call ∈ g.calls ∨ call ∈ newCalls env ctx := List.mem_append.mp hcall
      have hmediated := hcase.elim (h.calls call) (newCalls_mediated hholds call)
      refine hmediated.imp_right ?_
      rintro ⟨user, huser, hid⟩
      exact ⟨user, hsub user huser, hid⟩
    · show (advance srv env st.resources ctx).1.app = _
      rw [advance_app, List.foldl_append, ← h.app]

theorem inv_start {resources : Resources κ σ} {signed : List (Bytes × AccessClaims)}
    (howned : Owned resources.keys signed) :
    Inv resources.app ((start resources, ⟨signed, [], []⟩) : State κ σ ρ × History σ) := by
  refine ⟨howned, ?_, ?_, rfl⟩
  · intro ctx hctx
    cases hctx
  · intro call hcall
    cases hcall

/-- After a run, the invariant holds. -/
theorem inv_run {resources : Resources κ σ} {signed : List (Bytes × AccessClaims)}
    {events : List (Event κ σ ρ)} {t : State κ σ ρ × History σ}
    (howned : Owned resources.keys signed)
    (hunforged : StepsMeet (withGhost (step srv) (record srv)) (Unforged srv)
      (start resources, ⟨signed, [], []⟩) events)
    (hrun : run (withGhost (step srv) (record srv)) (start resources, ⟨signed, [], []⟩) events
      = some t) : Inv resources.app t :=
  run_invariant_of_stepsMeet (Inv resources.app) inv_step (inv_start howned) hunforged hrun

/-- **The handlers are mediated.** Take the server on tables whose credentials are owned, and any
run in which the JWT library accepts only signed tokens. The rest of the process changes by the
calls of the handlers alone. Each call of a handler that is not public is made with the identity
of a user that exists, who is an administrator. -/
theorem handlers_mediated (srv : Server κ) (resources : Resources κ σ)
    (signed : List (Bytes × AccessClaims)) (events : List (Event κ σ ρ))
    (t : State κ σ ρ × History σ) (howned : Owned resources.keys signed)
    (hunforged : StepsMeet (withGhost (step srv) (record srv)) (Unforged srv)
      (start resources, ⟨signed, [], []⟩) events)
    (hrun : run (withGhost (step srv) (record srv)) (start resources, ⟨signed, [], []⟩) events
      = some t) :
    t.1.resources.app = t.2.calls.foldl (fun app call => call.effect app) resources.app
      ∧ ∀ call ∈ t.2.calls, (Handler.app call.handler).isPublic = true
        ∨ ∃ user ∈ t.1.resources.keys.users,
          user.role = .admin ∧ call.identity = some (identityOf user) := by
  have hinv := inv_run howned hunforged hrun
  refine ⟨hinv.app, ?_⟩
  intro call hcall
  refine (hinv.calls call hcall).imp_right ?_
  rintro ⟨user, huser, hid⟩
  exact ⟨user, huser, hinv.owned.admins user huser, hid⟩

/-- **Every credential is owned.** In the same runs, also on connections that do not enforce foreign
keys, each refresh token, API key and signed access token belongs to a user that exists. So a
request with an API key that was found, or a refresh token that was found, is never refused because
its user is missing. -/
theorem credentials_owned (srv : Server κ) (resources : Resources κ σ)
    (signed : List (Bytes × AccessClaims)) (events : List (Event κ σ ρ))
    (t : State κ σ ρ × History σ) (howned : Owned resources.keys signed)
    (hunforged : StepsMeet (withGhost (step srv) (record srv)) (Unforged srv)
      (start resources, ⟨signed, [], []⟩) events)
    (hrun : run (withGhost (step srv) (record srv)) (start resources, ⟨signed, [], []⟩) events
      = some t) :
    Owned t.1.resources.keys t.2.signed
      ∧ ∀ ctx ∈ t.1.contexts, ∀ userID,
        ((∃ key, ctx.stage = .findOwner key ∧ key.userID = userID)
          ∨ ∃ hash, ctx.stage = .service (.readUser hash userID)) →
        ∀ env : AuthEnv, env.faults .getUserByID = none →
          ∃ user, t.1.resources.keys.toStore.getUserByID env userID = .ok user := by
  have hinv := inv_run howned hunforged hrun
  refine ⟨hinv.owned, ?_⟩
  intro ctx hctx userID hstage env hfault
  have hholds := hinv.contexts ctx hctx
  have hexists : ∃ user ∈ t.1.resources.keys.users, user.id = userID := by
    rcases hstage with ⟨key, hstage, rfl⟩ | ⟨hash, hstage⟩
    · exact hholds.owner key hstage
    · exact hholds.service _ hstage
  obtain ⟨user, huser, hid⟩ := hexists
  rw [Store.getUserByID, AuthEnv.call_of_faults_eq_none hfault]
  cases hfind : t.1.resources.keys.users.find? (·.id == userID) with
  | some found => exact ⟨found, rfl⟩
  | none =>
    have hnone := List.find?_eq_none.mp hfind user huser
    simp [hid] at hnone

end Runs

/-! ### A first session -/

deriving instance DecidableEq for AccessClaims

/-- An environment with the group handler of the process. `accepted` is the token that `jwt` has
signed, with its claims. -/
def answers (newID newToken : String) (accepted : Option (Bytes × AccessClaims)) :
    GatewayEnv GoTime.Instant Sqlite.Storage Groups.Reply where
  toAuthEnv := .quiet 0 newID newToken
  newKey := .error "entropy"
  keyFaults _ := none
  parseWithClaims key token :=
    match key ⟨"HS256", true⟩, accepted with
    | .ok _, some (signed, claims) =>
      if token = signed then .ok (claims, true) else .error "token signature is invalid"
    | _, _ => .error "token signature is invalid"
  handle name _ s :=
    match name with
    | .handleCreateGroup =>
      let (s, reply) := Groups.handleCreateGroup (.quiet 5 "g-1") (.ok { name := "edge" }) s
      (s, some (201, reply))
    | _ => (s, some (404, .error 404 "not found"))
  listFault := none
  newestFirst rows := ⟨rows, .refl rows⟩
  auditFault := none
  timestamp := 0
  auditRows := { arrange := fun rows => .byTie Audit.Row.timestamp Audit.Row.id rows }

/-- The server on empty tables. -/
def firstServer : Server GoTime.Instant := ⟨System.settings, [7], System.storedColumn⟩

def emptyTables : Resources GoTime.Instant Sqlite.Storage where
  keys := { users := [], refreshTokens := [], apiKeys := [] }
  app := .empty
  log := .empty

/-- The access token of the administrator. -/
def adminToken : Bytes × AccessClaims :=
  ("u-1".toUTF8.data.toList,
    System.settings.accessClaims (.quiet 0 "" "") ⟨"u-1", "admin", "password", .admin⟩)

/-- The administrator sets the server up, and asks for a new group. -/
def beforeToken : List (Event GoTime.Instant Sqlite.Storage Groups.Reply) :=
  [.begin {
      method := "POST"
      path := ["api", "auth", "setup"]
      body := .ok { username := "admin", password := "password" } },
    .advance 0 (answers "" "" none), .advance 0 (answers "" "" none),
    .advance 0 (answers "u-1" "" none), .advance 0 (answers "r-1" "token" none),
    .advance 0 (answers "" "" none),
    .begin {
      method := "POST"
      path := ["api", "v1", "groups"]
      authorization := "Bearer u-1".toUTF8.data.toList },
    .advance 1 (answers "" "" none)]

/-- `jwt` accepts the token, and the group is created. -/
def sessionEvents : List (Event GoTime.Instant Sqlite.Storage Groups.Reply) :=
  beforeToken ++ [.advance 1 (answers "" "" (some adminToken)), .advance 1 (answers "" "" none),
    .advance 1 (answers "" "" none)]

/-- The events of the session do not accept a token. -/
def Rejects : Event GoTime.Instant Sqlite.Storage Groups.Reply → Prop
  | .begin _ => True
  | .advance _ env => ∀ token claims,
    env.parseWithClaims (keyFunc firstServer.jwtSecret) token ≠ .ok (claims, true)

theorem rejects_none (i : Nat) (newID newToken : String) :
    Rejects (.advance i (answers newID newToken none)) := by
  intro token claims
  simp [answers]

theorem eq_of_accepted {newID newToken : String} {accepted : Bytes × AccessClaims} {token : Bytes}
    {claims : AccessClaims}
    (h : (answers newID newToken (some accepted)).parseWithClaims (keyFunc firstServer.jwtSecret)
      token = .ok (claims, true)) : (token, claims) = accepted := by
  obtain ⟨signed, claims'⟩ := accepted
  by_cases htoken : token = signed
  · have hclaims : claims' = claims := by simpa [answers, keyFunc, htoken] using h
    rw [htoken, hclaims]
  · simp [answers, keyFunc, htoken] at h

theorem unforged_of_rejects {events : List (Event GoTime.Instant Sqlite.Storage Groups.Reply)}
    (h : ∀ e ∈ events, Rejects e)
    (p : State GoTime.Instant Sqlite.Storage Groups.Reply × History Sqlite.Storage) :
    StepsMeet (withGhost (step firstServer) (record firstServer)) (Unforged firstServer) p
      events := by
  refine (stepsMeet_of_forall h p).mono ?_
  intro p e hrejects
  cases e with
  | begin request => trivial
  | advance i env => exact fun token claims haccepted => absurd haccepted (hrejects token claims)

theorem signed_beforeToken :
    (run (withGhost (step firstServer) (record firstServer)) (start emptyTables, ⟨[], [], []⟩)
      beforeToken).map (·.2.signed) = some [adminToken] := by decide +kernel

theorem unforged_session :
    StepsMeet (withGhost (step firstServer) (record firstServer)) (Unforged firstServer)
      (start emptyTables, ⟨[], [], []⟩) sessionEvents := by
  refine StepsMeet.append (unforged_of_rejects ?_ _) ?_
  · intro e he
    simp only [beforeToken, List.mem_cons, List.not_mem_nil, or_false] at he
    rcases he with rfl | rfl | rfl | rfl | rfl | rfl | rfl | rfl
    all_goals first | exact trivial | exact rejects_none _ _ _
  · intro t hrun
    have hsigned := signed_beforeToken
    rw [hrun, Option.map_some, Option.some_inj] at hsigned
    refine ⟨?_, fun s' _ => unforged_of_rejects (by simp [rejects_none]) s'⟩
    intro token claims haccepted
    have htoken : (token, claims) = adminToken := eq_of_accepted haccepted
    rw [hsigned]
    exact ⟨adminToken, List.mem_singleton_self _, (congrArg Prod.fst htoken).symm,
      congrArg (claimed ·.2) htoken.symm⟩

theorem isSome_session :
    (run (withGhost (step firstServer) (record firstServer)) (start emptyTables, ⟨[], [], []⟩)
      sessionEvents).isSome := by decide +kernel

/-- The server after the session. -/
def session : State GoTime.Instant Sqlite.Storage Groups.Reply × History Sqlite.Storage :=
  (run (withGhost (step firstServer) (record firstServer)) (start emptyTables, ⟨[], [], []⟩)
    sessionEvents).get isSome_session

theorem owned_emptyTables : Owned emptyTables.keys [] where
  admins := fun user huser => by cases huser
  refreshTokens := fun row hrow => by cases hrow
  apiKeys := fun row hrow => by cases hrow
  signed := fun p hp => by cases hp

theorem handlers_mediated_session :
    session.1.resources.app
        = session.2.calls.foldl (fun app call => call.effect app) emptyTables.app
      ∧ ∀ call ∈ session.2.calls, (Handler.app call.handler).isPublic = true
        ∨ ∃ user ∈ session.1.resources.keys.users,
          user.role = .admin ∧ call.identity = some (identityOf user) :=
  handlers_mediated firstServer emptyTables [] sessionEvents session owned_emptyTables
    unforged_session (Option.some_get isSome_session).symm

theorem credentials_owned_session :
    Owned session.1.resources.keys session.2.signed
      ∧ ∀ ctx ∈ session.1.contexts, ∀ userID,
        ((∃ key, ctx.stage = .findOwner key ∧ key.userID = userID)
          ∨ ∃ hash, ctx.stage = .service (.readUser hash userID)) →
        ∀ env : AuthEnv, env.faults .getUserByID = none →
          ∃ user, session.1.resources.keys.toStore.getUserByID env userID = .ok user :=
  credentials_owned firstServer emptyTables [] sessionEvents session owned_emptyTables
    unforged_session (Option.some_get isSome_session).symm

end OtelHive.Api.Gateway
