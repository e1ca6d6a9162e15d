import OtelHive.Proofs.Api.Gateway
import OtelHive.Proofs.Auth.Expiry

/-!
# `OtelHive.Proofs.Api.Sessions`: how long a session lasts

A client stays signed in with the access token of a setup or a login, and asks for a new pair with
its refresh token. On the column of the schema every refresh token reads back as expired
(`read_datetimeColumn`), so `Refresh` deletes it and fails. Over whole runs of the server this
means that a session ends with its first access token: whoever is let in with a bearer token has
been set up, or has logged in, less than `accessTokenExpiry` before (`session_lifetime`).

`Trace` records the sign-ins and the requests that are let in. The invariant is `Lasting`: a call of
the auth service is at a stage of its handler (`StageOf`), so tokens are issued at the end of a
setup or a login only.
-/

set_option autoImplicit false

namespace OtelHive.Api.Gateway

open OtelHive.Lib
open OtelHive.Auth

/-! ### The record of a run -/

/-- What a user did, and when. -/
structure Moment where
  userID : String
  time : GoTime.Instant

/-- The access tokens that the service has signed, the setups and logins that have ended with one,
and the requests that `Auth` has let in with a bearer token. -/
structure Trace where
  signed : List (Bytes × AccessClaims)
  signIns : List Moment
  entries : List Moment

section Trace

variable {κ σ ρ : Type} (srv : Server κ) (env : GatewayEnv κ σ ρ) (r : Resources κ σ)
  (ctx : Context ρ)

/-- The handler of the request. -/
def Context.handler? : Option Handler := ctx.request.route.map Route.handler

/-- The sign-in that ends in a step of a request, if one does. -/
def newSignIns : List Moment :=
  if ctx.handler? = some .handleSetup ∨ ctx.handler? = some .handleLogin then
    (newSigned srv env r ctx).map fun p => { userID := p.2.userID, time := env.now }
  else []

/-- The request, if its step lets it in with a bearer token. -/
def newEntries : List Moment :=
  match ctx.stage with
  | .credentials =>
    if bearer.isPrefixOf ctx.request.authorization then
      match validateAccessToken srv env (ctx.request.authorization.drop bearer.length) with
      | .error _ => []
      | .ok claims => [{ userID := claims.userID, time := env.now }]
    else []
  | _ => []

/-- The record after an event. -/
def trace (g : Trace) (st : State κ σ ρ) : Event κ σ ρ → Trace
  | .begin _ => g
  | .advance i env =>
    match st.contexts[i]? with
    | none => g
    | some ctx => {
        signed := g.signed ++ newSigned srv env st.resources ctx
        signIns := g.signIns ++ newSignIns srv env st.resources ctx
        entries := g.entries ++ newEntries srv env ctx }

/-- The clock is past the zero time, and `jwt` accepts only tokens that the service has signed, for
the user they were signed for and before they expire. -/
def Honest (p : State κ σ ρ × Trace) : Event κ σ ρ → Prop
  | .begin _ => True
  | .advance _ env => 0 < env.now ∧ ∀ token claims,
    env.parseWithClaims (keyFunc srv.jwtSecret) token = .ok (claims, true) →
      ∃ q ∈ p.2.signed, q.1 = token ∧ q.2.userID = claims.userID ∧ env.now < q.2.expiresAt

/-- An access token is the one of a sign-in, and it expires `expiry` after it. -/
def SignedAt (expiry : GoTime.Instant) (signIns : List Moment) (claims : AccessClaims) : Prop :=
  ∃ signIn ∈ signIns, signIn.userID = claims.userID ∧ claims.expiresAt = signIn.time + expiry

end Trace

/-! ### Stages -/

/-- The stages of the calls that a handler makes. No call of `Refresh` gets to the user of the
token. -/
def StageOf (handler : Option Handler) : Auth.Stage → Prop
  | .countUsers _ _ | .createUser _ _ => handler = some .handleSetup
  | .readLogin _ _ => handler = some .handleLogin
  | .readToken _ | .deleteExpired _ => handler = some .handleRefresh
  | .readUser _ _ | .rotate _ _ => False
  | .issue _ => handler = some .handleSetup ∨ handler = some .handleLogin
  | .readOwner _ | .revoke _ => handler = some .handleLogout
  | .done outcome => handler = some .handleRefresh → ∃ err, outcome = .failed err

/-- On the column of the schema, a call stays at the stages of its handler. -/
theorem stageOf_advance (decode : String → GoTime.Instant) (svc : Service) {env : AuthEnv}
    (hnow : 0 < env.now) (s : Store String) {handler : Option Handler} {stage : Auth.Stage}
    (h : StageOf handler stage) :
    StageOf handler (Auth.advance svc (datetimeColumn decode) env s stage).2 := by
  cases stage with
  | countUsers username password =>
    have hhandler : handler = some .handleSetup := h
    subst hhandler
    simp only [Auth.advance, Auth.Stage.ofResult]
    split
    · intro hrefresh
      cases hrefresh
    · split
      · intro hrefresh
        cases hrefresh
      · exact rfl
  | createUser username password =>
    have hhandler : handler = some .handleSetup := h
    subst hhandler
    simp only [Auth.advance]
    split
    · intro hrefresh
      cases hrefresh
    · exact .inl rfl
  | readLogin username password =>
    have hhandler : handler = some .handleLogin := h
    subst hhandler
    simp only [Auth.advance]
    split
    · intro hrefresh
      cases hrefresh
    · intro hrefresh
      cases hrefresh
    · split
      · intro hrefresh
        cases hrefresh
      · exact .inr rfl
  | readToken hash =>
    simp only [Auth.advance]
    split
    · exact fun _ => ⟨_, rfl⟩
    · exact fun _ => ⟨_, rfl⟩
    · rename_i userID expiresAt hread
      -- Every expiry reads back as the zero time, which is past.
      have hzero : expiresAt = 0 := by
        obtain ⟨-, hfind⟩ := AuthEnv.call_eq_ok hread
        split at hfind
        · rename_i row _
          cases hfind
          exact read_datetimeColumn decode row.expiresAt
        · cases hfind
      rw [hzero, if_pos hnow]
      exact h
  | deleteExpired hash => exact fun _ => ⟨_, rfl⟩
  | readUser hash userID => exact h.elim
  | rotate hash user => exact h.elim
  | issue user =>
    have hrefresh : handler ≠ some .handleRefresh := by
      intro hrefresh
      rw [hrefresh] at h
      rcases h with h | h <;> cases h
    simp only [Auth.advance]
    split <;> exact fun h => absurd h hrefresh
  | readOwner hash =>
    have hhandler : handler = some .handleLogout := h
    subst hhandler
    simp only [Auth.advance]
    split
    · intro hrefresh
      cases hrefresh
    · intro hrefresh
      cases hrefresh
    · exact rfl
  | revoke userID =>
    have hhandler : handler = some .handleLogout := h
    subst hhandler
    simp only [Auth.advance]
    split <;> (intro hrefresh; cases hrefresh)
  | done outcome => exact h

/-- What holds of each request: its call is at a stage of its handler, and a refresh is answered
with an error. -/
def Context.Typed {ρ : Type} (ctx : Context ρ) : Prop :=
  match ctx.stage with
  | .service stage => StageOf ctx.handler? stage
  | .audit response | .done response =>
    ctx.handler? = some .handleRefresh → 400 ≤ response.status
  | _ => True

section Typed

variable {σ ρ : Type} {srv : Server String} {env : GatewayEnv String σ ρ}
  {r : Resources String σ} {ctx : Context ρ}

theorem typed_reply {status : Nat} {body : Body ρ}
    (h : ctx.handler? = some .handleRefresh → 400 ≤ status) : (ctx.reply status body).Typed := h

theorem typed_readCredentials : (readCredentials srv env r ctx).Typed := by
  have hrefused : ∀ body : Body ρ, (ctx.reply 401 body).Typed :=
    fun _ => typed_reply fun _ => by decide
  unfold readCredentials
  split
  · split
    · exact hrefused _
    · exact trivial
  · split
    · split
      · exact hrefused _
      · split
        · exact hrefused _
        · exact hrefused _
        · exact trivial
    · exact hrefused _

theorem typed_callService {fields : AuthBody → List (Option String)}
    {request : AuthBody → Auth.Request}
    (h : ∀ req, StageOf ctx.handler? (request req).first) :
    (callService ctx fields request).Typed := by
  unfold callService
  split
  · exact typed_reply fun _ => by decide
  · exact h _

/-- A handler that is not `HandleRefresh` can give any answer. -/
theorem typed_of_ne (h : ctx.handler? ≠ some .handleRefresh) {status : Nat} {body : Body ρ} :
    (ctx.reply status body).Typed :=
  typed_reply fun hrefresh => absurd hrefresh h

theorem typed_serve {handler : Handler} (h : ctx.handler? = some handler) :
    (serve srv env r ctx handler).2.Typed := by
  cases handler with
  | handleSetup => exact typed_callService fun _ => h
  | handleLogin => exact typed_callService fun _ => h
  | handleRefresh => exact typed_callService fun _ => h
  | handleLogout =>
    have hne : ctx.handler? ≠ some .handleRefresh := by
      rw [h]
      decide
    simp only [serve, beginLogout]
    split
    · exact typed_of_ne hne
    · split
      · exact typed_of_ne hne
      · exact h
  | app name =>
    have hne : ctx.handler? ≠ some .handleRefresh := by
      rw [h]
      intro heq
      cases heq
    simp only [serve]
    split
    · exact typed_of_ne hne
    · exact fun hrefresh => absurd hrefresh hne
  | handleSetupStatus | handleMe | handleListApiKeys | handleCreateApiKey | handleRevokeApiKey
  | handleList =>
    have hne : ctx.handler? ≠ some .handleRefresh := by
      rw [h]
      decide
    simp only [serve, handleCreateApiKey, handleRevokeApiKey]
    first
      | exact typed_of_ne hne
      | (split <;> first | exact typed_of_ne hne | (split <;> exact typed_of_ne hne))

theorem typed_first (request : HttpRequest) :
    (⟨request, none, request.first⟩ : Context ρ).Typed := by
  unfold HttpRequest.first
  cases hroute : request.route with
  | none =>
    intro hrefresh
    have hnone : request.route.map Route.handler = some .handleRefresh := hrefresh
    rw [hroute] at hnone
    cases hnone
  | some route =>
    dsimp only
    cases route.guarded <;> exact trivial

end Typed

section Runs

variable {σ ρ : Type} {decode : String → GoTime.Instant} {service : Auth.Service}
  {jwtSecret : Bytes} {env : GatewayEnv String σ ρ} {r : Resources String σ} {ctx : Context ρ}

/-- The server on the columns of the schema. -/
def deployed (decode : String → GoTime.Instant) (service : Auth.Service) (jwtSecret : Bytes) :
    Server String :=
  ⟨service, jwtSecret, datetimeColumn decode⟩

/-- Every step keeps a request typed. -/
theorem typed_advance (hnow : 0 < env.now) (h : ctx.Typed) :
    (advance (deployed decode service jwtSecret) env r ctx).2.Typed := by
  unfold advance
  split
  · split
    · exact typed_reply fun _ => by decide
    · exact typed_reply fun _ => by decide
    · exact trivial
  · exact typed_readCredentials
  · split
    · exact typed_reply fun _ => by decide
    · exact trivial
  · split <;> exact trivial
  · rename_i hstage
    split
    · unfold Context.Typed
      rw [hstage]
      exact trivial
    · rename_i route hroute
      have hhandler : ctx.handler? = some route.handler := by
        unfold Context.handler?
        rw [hroute]
        rfl
      exact typed_serve hhandler
  · rename_i stage hstage
    have hof : StageOf ctx.handler? stage := by
      unfold Context.Typed at h
      rw [hstage] at h
      exact h
    have hnext := stageOf_advance decode service hnow r.keys.toStore hof
    split
    · rename_i store outcome hadvance
      have hdone : StageOf ctx.handler? (.done outcome) := by
        have hstage' : (Auth.advance service (datetimeColumn decode) env.toAuthEnv r.keys.toStore
            stage).2 = .done outcome := congrArg Prod.snd hadvance
        rw [← hstage']
        exact hnext
      -- `HandleRefresh` answers a failure.
      intro hrefresh
      obtain ⟨err, rfl⟩ := hdone hrefresh
      have hhandler : ctx.request.route.map Route.handler = some .handleRefresh := hrefresh
      rw [hhandler]
      show 400 ≤ (serviceReply (ρ := ρ) .handleRefresh (.failed err)).1
      cases err <;> exact Nat.le_of_ble_eq_true rfl
    · rename_i store stage' _ hadvance
      have hstage' : (Auth.advance service (datetimeColumn decode) env.toAuthEnv r.keys.toStore
          stage).2 = stage' := congrArg Prod.snd hadvance
      show StageOf ctx.handler? stage'
      rw [← hstage']
      exact hnext
  · rename_i response hstage
    unfold Context.Typed at h
    rw [hstage] at h
    exact h
  · exact h

/-- The invariant of all runs. -/
structure Lasting (expiry : GoTime.Instant) (p : State String σ ρ × Trace) : Prop where
  typed : ∀ ctx ∈ p.1.contexts, ctx.Typed
  signed : ∀ q ∈ p.2.signed, SignedAt expiry p.2.signIns q.2
  entries : ∀ entry ∈ p.2.entries, ∃ signIn ∈ p.2.signIns,
    signIn.userID = entry.userID ∧ entry.time < signIn.time + expiry

/-- A token is signed at the end of a sign-in. -/
theorem newSigned_signedAt (htyped : ctx.Typed) :
    ∀ q ∈ newSigned (deployed decode service jwtSecret) env r ctx,
      SignedAt service.accessTokenExpiry
        (newSignIns (deployed decode service jwtSecret) env r ctx) q.2 := by
  intro q hq
  have hissue : ctx.handler? = some .handleSetup ∨ ctx.handler? = some .handleLogin := by
    unfold newSigned at hq
    split at hq
    · rename_i user hstage
      unfold Context.Typed at htyped
      rw [hstage] at htyped
      exact htyped
    · cases hq
  refine ⟨{ userID := q.2.userID, time := env.now }, ?_, rfl, ?_⟩
  · unfold newSignIns
    rw [if_pos hissue]
    exact List.mem_map.mpr ⟨q, hq, rfl⟩
  · unfold newSigned at hq
    split at hq
    · split at hq
      · rw [List.mem_singleton.mp hq]
        rfl
      · cases hq
    · cases hq

theorem SignedAt.mono {expiry : GoTime.Instant} {signIns signIns' : List Moment}
    {claims : AccessClaims} (hsub : ∀ signIn ∈ signIns, signIn ∈ signIns')
    (h : SignedAt expiry signIns claims) : SignedAt expiry signIns' claims := by
  obtain ⟨signIn, hmem, hsigned⟩ := h
  exact ⟨signIn, hsub signIn hmem, hsigned⟩

/-- Whoever is let in has an accepted token. -/
theorem newEntries_accepted {srv : Server String} {entry : Moment}
    (h : entry ∈ newEntries srv env ctx) :
    ∃ token claims, env.parseWithClaims (keyFunc srv.jwtSecret) token = .ok (claims, true) ∧
      entry = { userID := claims.userID, time := env.now } := by
  unfold newEntries at h
  split at h
  · split at h
    · split at h
      · cases h
      · rename_i claims hclaims
        exact ⟨_, claims, validateAccessToken_ok hclaims, List.mem_singleton.mp h⟩
    · cases h
  · cases h

/-- Every event keeps the invariant. -/
theorem lasting_step (p : State String σ ρ × Trace) (e : Event String σ ρ)
    (p' : State String σ ρ × Trace) (h : Lasting service.accessTokenExpiry p)
    (hhonest : Honest (deployed decode service jwtSecret) p e)
    (hstep : withGhost (step (deployed decode service jwtSecret))
      (trace (deployed decode service jwtSecret)) p e = some p') :
    Lasting service.accessTokenExpiry p' := by
  obtain ⟨st, g⟩ := p
  obtain ⟨st', hst, rfl⟩ := Option.map_eq_some_iff.mp hstep
  cases e with
  | begin request =>
    cases hst
    refine ⟨?_, h.signed, h.entries⟩
    intro ctx hctx
    rcases List.mem_append.mp hctx with hold | hnew
    · exact h.typed ctx hold
    · rw [List.mem_singleton.mp hnew]
      exact typed_first request
  | advance i env =>
    obtain ⟨hnow, haccepts⟩ := hhonest
    obtain ⟨ctx, hctx, hdone, rfl⟩ := step_advance hst
    have htyped := h.typed ctx (List.mem_of_getElem? hctx)
    have htrace : trace (deployed decode service jwtSecret) g st (.advance i env) = {
        signed := g.signed ++ newSigned (deployed decode service jwtSecret) env st.resources ctx
        signIns := g.signIns ++ newSignIns (deployed decode service jwtSecret) env st.resources ctx
        entries := g.entries ++ newEntries (deployed decode service jwtSecret) env ctx } := by
      simp only [trace, hctx]
    rw [htrace]
    refine ⟨?_, ?_, ?_⟩
    · intro other hother
      rcases List.mem_or_eq_of_mem_set hother with hold | rfl
      · exact h.typed other hold
      · exact typed_advance hnow htyped
    · intro q hq
      rcases List.mem_append.mp hq with hold | hnew
      · exact (h.signed q hold).mono fun _ hmem => List.mem_append_left _ hmem
      · exact (newSigned_signedAt htyped q hnew).mono fun _ hmem => List.mem_append_right _ hmem
    · intro entry hentry
      rcases List.mem_append.mp hentry with hold | hnew
      · obtain ⟨signIn, hmem, hlasts⟩ := h.entries entry hold
        exact ⟨signIn, List.mem_append_left _ hmem, hlasts⟩
      · obtain ⟨token, claims, haccepted, rfl⟩ := newEntries_accepted hnew
        obtain ⟨q, hsigned, -, hsame, hexpires⟩ := haccepts token claims haccepted
        obtain ⟨signIn, hmem, huser, hexpiry⟩ := h.signed q hsigned
        refine ⟨signIn, List.mem_append_left _ hmem, huser.trans hsame, ?_⟩
        rw [← hexpiry]
        exact hexpires

/-- **A session lasts as long as its first access token.** Take the server on the columns of the
schema, with any rows, and any run with a clock past the zero time in which the JWT library accepts
only signed tokens that have not expired. Whoever is let in with a bearer token was set up or has
logged in less than `accessTokenExpiry` before, and every refresh is answered with an error. -/
theorem session_lifetime (decode : String → GoTime.Instant) (service : Auth.Service)
    (jwtSecret : Bytes) (resources : Resources String σ) (signed : List (Bytes × AccessClaims))
    (signIns : List Moment) (events : List (Event String σ ρ)) (t : State String σ ρ × Trace)
    (hsigned : ∀ q ∈ signed, SignedAt service.accessTokenExpiry signIns q.2)
    (hhonest : StepsMeet (withGhost (step (deployed decode service jwtSecret))
      (trace (deployed decode service jwtSecret))) (Honest (deployed decode service jwtSecret))
      (start resources, ⟨signed, signIns, []⟩) events)
    (hrun : run (withGhost (step (deployed decode service jwtSecret))
      (trace (deployed decode service jwtSecret))) (start resources, ⟨signed, signIns, []⟩) events
      = some t) :
    (∀ entry ∈ t.2.entries, ∃ signIn ∈ t.2.signIns,
        signIn.userID = entry.userID ∧ entry.time < signIn.time + service.accessTokenExpiry) ∧
      ∀ ctx ∈ t.1.contexts, ctx.handler? = some .handleRefresh →
        ∀ response, ctx.stage = .done response → 400 ≤ response.status := by
  have hstart : Lasting service.accessTokenExpiry
      ((start resources, ⟨signed, signIns, []⟩) : State String σ ρ × Trace) := by
    refine ⟨?_, hsigned, ?_⟩
    · intro ctx hctx
      cases hctx
    · intro entry hentry
      cases hentry
  have hlasting := run_invariant_of_stepsMeet (Lasting service.accessTokenExpiry) lasting_step
    hstart hhonest hrun
  refine ⟨hlasting.entries, ?_⟩
  intro ctx hctx hhandler response hstage
  have htyped := hlasting.typed ctx hctx
  unfold Context.Typed at htyped
  rw [hstage] at htyped
  exact htyped hhandler

end Runs

/-! ### A session on the schema -/

/-- An environment whose clock shows `now`. `accepted` is the token that `jwt` accepts. -/
def clocked (now : GoTime.Instant) (newID newToken : String)
    (accepted : Option (Bytes × AccessClaims)) : GatewayEnv String Unit Unit where
  toAuthEnv := .quiet now newID newToken
  newKey := .error "entropy"
  keyFaults _ := none
  parseWithClaims key token :=
    match key ⟨"HS256", true⟩, accepted with
    | .ok _, some (signed, claims) =>
      if token = signed then .ok (claims, true) else .error "token signature is invalid"
    | _, _ => .error "token signature is invalid"
  handle _ _ s := (s, some (200, ()))
  listFault := none
  newestFirst rows := ⟨rows, .refl rows⟩
  auditFault := none
  timestamp := 0
  auditRows := { arrange := fun rows => .byTie Audit.Row.timestamp Audit.Row.id rows }

/-- The server of `main`, on empty tables. -/
def schemaServer : Server String := deployed driverDecode System.settings [7]

def schemaTables : Resources String Unit where
  keys := { users := [], refreshTokens := [], apiKeys := [] }
  app := ()
  log := .empty

/-- The access token of the setup. -/
def setupToken : Bytes × AccessClaims :=
  ("u-1".toUTF8.data.toList,
    System.settings.accessClaims (.quiet 1 "" "") ⟨"u-1", "admin", "password", .admin⟩)

/-- The administrator sets the server up, and asks for the groups. -/
def untilBearer : List (Event String Unit Unit) :=
  [.begin {
      method := "POST"
      path := ["api", "auth", "setup"]
      body := .ok { username := "admin", password := "password" } },
    .advance 0 (clocked 1 "" "" none), .advance 0 (clocked 1 "" "" none),
    .advance 0 (clocked 1 "u-1" "" none), .advance 0 (clocked 1 "r-1" "token" none),
    .advance 0 (clocked 1 "" "" none),
    .begin {
      method := "GET"
      path := ["api", "v1", "groups"]
      authorization := "Bearer u-1".toUTF8.data.toList },
    .advance 1 (clocked 2 "" "" none)]

/-- `jwt` accepts the token. The administrator then asks for a new pair. -/
def refreshEvents : List (Event String Unit Unit) :=
  untilBearer ++ [.advance 1 (clocked 2 "" "" (some setupToken)),
    .begin {
      method := "POST"
      path := ["api", "auth", "refresh"]
      body := .ok { refreshToken := "token" } },
    .advance 2 (clocked 3 "" "" none), .advance 2 (clocked 3 "" "" none),
    .advance 2 (clocked 3 "" "" none), .advance 2 (clocked 3 "" "" none)]

/-- An event of a request, or a step past the zero time in which `jwt` accepts nothing. -/
def Denies : Event String Unit Unit → Prop
  | .begin _ => True
  | .advance _ env => 0 < env.now ∧ ∀ token claims,
    env.parseWithClaims (keyFunc schemaServer.jwtSecret) token ≠ .ok (claims, true)

theorem denies_none (i now : Nat) (newID newToken : String) :
    Denies (.advance i (clocked (now + 1) newID newToken none)) := by
  have hnow : (0 : GoTime.Instant) < now + 1 := Int.lt_add_one_of_le (Int.natCast_nonneg now)
  refine ⟨hnow, ?_⟩
  intro token claims
  simp [clocked]

theorem honest_of_denies {events : List (Event String Unit Unit)} (h : ∀ e ∈ events, Denies e)
    (p : State String Unit Unit × Trace) :
    StepsMeet (withGhost (step schemaServer) (trace schemaServer)) (Honest schemaServer) p
      events := by
  refine (stepsMeet_of_forall h p).mono ?_
  intro p e hdenies
  cases e with
  | begin request => trivial
  | advance i env =>
    exact ⟨hdenies.1, fun token claims haccepted => absurd haccepted (hdenies.2 token claims)⟩

theorem signed_untilBearer :
    (run (withGhost (step schemaServer) (trace schemaServer)) (start schemaTables, ⟨[], [], []⟩)
      untilBearer).map (·.2.signed) = some [setupToken] := by decide +kernel

theorem honest_refreshEvents :
    StepsMeet (withGhost (step schemaServer) (trace schemaServer)) (Honest schemaServer)
      (start schemaTables, ⟨[], [], []⟩) refreshEvents := by
  refine StepsMeet.append (honest_of_denies ?_ _) ?_
  · intro e he
    simp only [untilBearer, List.mem_cons, List.not_mem_nil, or_false] at he
    rcases he with rfl | rfl | rfl | rfl | rfl | rfl | rfl | rfl
    all_goals first | exact trivial | exact denies_none _ 0 _ _ | exact denies_none _ 1 _ _
  · intro t hrun
    have hsigned := signed_untilBearer
    rw [hrun, Option.map_some, Option.some_inj] at hsigned
    refine ⟨⟨by decide, ?_⟩, ?_⟩
    · intro token claims haccepted
      have htoken : token = setupToken.1 ∧ claims = setupToken.2 := by
        by_cases htoken : token = setupToken.1
        · refine ⟨htoken, ?_⟩
          simpa [clocked, keyFunc, htoken, eq_comm] using haccepted
        · simp [clocked, keyFunc, htoken] at haccepted
      obtain ⟨rfl, rfl⟩ := htoken
      rw [hsigned]
      exact ⟨setupToken, List.mem_singleton_self _, rfl, rfl, by decide⟩
    · intro s' _
      refine honest_of_denies ?_ s'
      intro e he
      simp only [List.mem_cons, List.not_mem_nil, or_false] at he
      rcases he with rfl | rfl | rfl | rfl | rfl
      all_goals first | exact trivial | exact denies_none _ 2 _ _

/-- The request that is let in rests on the setup before it, and the refresh fails. -/
theorem session_lifetime_schema :
    ∃ t, run (withGhost (step schemaServer) (trace schemaServer))
        (start schemaTables, ⟨[], [], []⟩) refreshEvents = some t ∧
      (t.2.entries.length = 1 ∧ t.1.contexts.length = 3) ∧
      (∀ entry ∈ t.2.entries, ∃ signIn ∈ t.2.signIns, signIn.userID = entry.userID ∧
        entry.time < signIn.time + System.settings.accessTokenExpiry) ∧
      ∀ ctx ∈ t.1.contexts, ctx.handler? = some .handleRefresh →
        ∀ response, ctx.stage = .done response → 400 ≤ response.status := by
  have hrun : run (withGhost (step schemaServer) (trace schemaServer))
      (start schemaTables, ⟨[], [], []⟩) refreshEvents
      = some ((run (withGhost (step schemaServer) (trace schemaServer))
        (start schemaTables, ⟨[], [], []⟩) refreshEvents).get (by decide +kernel)) :=
    (Option.some_get _).symm
  refine ⟨_, hrun, by decide +kernel, ?_⟩
  refine session_lifetime driverDecode System.settings [7] schemaTables [] [] refreshEvents _ ?_
    honest_refreshEvents hrun
  intro q hq
  cases hq

end OtelHive.Api.Gateway
