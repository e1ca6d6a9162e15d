import OtelHive.Lib.Lists
import OtelHive.Lib.Runs
import OtelHive.Proofs.Api.Gateway
import OtelHive.Ui.Client

/-!
# `OtelHive.Proofs.Ui.Client`: the UI is locked out

`simpleRequest` puts every endpoint after `/api/v1`, and those of `authApi` begin with `/api/auth`.
No route begins with `/api/v1/api`, so the server answers each call of `authApi` with a page of the
UI (`route_authApi`). That is not JSON, and the call fails. The other calls go to routes with `Auth`
or to none (`guarded_of_v1`).

So a page without an access token never gets one. `LockedOut` says that: nobody is signed in, each
function of the page awaits an answer that is not JSON, and `Auth` refuses all other requests. Every
event keeps it (`lockedOut_step`), also those of other clients.
-/

set_option autoImplicit false

namespace OtelHive.Ui.Client

open OtelHive.Lib
open OtelHive.Api
open OtelHive.Api.Gateway (Body Context GatewayEnv HttpRequest Resources Route Server matchesPath
  routes)

/-! ### Routes -/

/-- A path that matches a pattern does so up to any length. -/
theorem matchesPath_take {patterns segments : List String} (n : Nat)
    (h : matchesPath patterns segments = true) :
    matchesPath (patterns.take n) (segments.take n) = true := by
  induction n generalizing patterns segments with
  | zero => rfl
  | succ n ih =>
    cases patterns with
    | nil =>
      cases segments with
      | nil => rfl
      | cons segment segments => cases h
    | cons pattern patterns =>
      cases segments with
      | nil => cases h
      | cons segment segments =>
        obtain ⟨hhead, htail⟩ := Bool.and_eq_true_iff.mp h
        exact Bool.and_eq_true_iff.mpr ⟨hhead, ih htail⟩

/-- The route of a request is one of the table, and the path matches it. -/
theorem route_matches {request : HttpRequest} {route : Route} (h : request.route = some route) :
    route ∈ routes ∧ matchesPath route.path request.path = true := by
  unfold HttpRequest.route at h
  split at h
  · cases h
  · have hmatches := List.find?_some h
    exact ⟨List.mem_of_find?_eq_some h, (Bool.and_eq_true_iff.mp hmatches).2⟩

theorem v1_guarded : routes.all (fun route =>
    route.guarded || !matchesPath (route.path.take 2) ["api", "v1"]) = true := by decide

theorem v1_api : routes.all (fun route =>
    !matchesPath (route.path.take 3) ["api", "v1", "api"]) = true := by decide

/-- All routes under `/api/v1` have `Auth`. -/
theorem guarded_of_v1 {request : HttpRequest} {rest : List String}
    (hpath : request.path = baseUrl ++ rest) {route : Route} (h : request.route = some route) :
    route.guarded = true := by
  obtain ⟨hmem, hmatches⟩ := route_matches h
  have htake := matchesPath_take 2 hmatches
  rw [hpath] at htake
  have hroute := List.all_eq_true.mp v1_guarded route hmem
  rcases Bool.or_eq_true_iff.mp hroute with hguarded | hother
  · exact hguarded
  · rw [show matchesPath (route.path.take 2) ["api", "v1"] = true from htake] at hother
    cases hother

/-- No route begins with `/api/v1/api`. -/
theorem route_authApi {request : HttpRequest} {rest : List String}
    (hpath : request.path = baseUrl ++ "api" :: rest) : request.route = none := by
  cases h : request.route with
  | none => rfl
  | some route =>
    obtain ⟨hmem, hmatches⟩ := route_matches h
    have htake := matchesPath_take 3 hmatches
    rw [hpath] at htake
    have hroute := List.all_eq_true.mp v1_api route hmem
    rw [show matchesPath (route.path.take 3) ["api", "v1", "api"] = true from htake] at hroute
    cases hroute

theorem method_ne_options (call : Call) (stored : Session.Stored) :
    (call.request stored).method ≠ "OPTIONS" := by
  have hmethods : call.endpoint.1 ∈ ["GET", "POST", "PATCH", "PUT", "DELETE"] := by
    cases call <;> simp [Call.endpoint]
  intro h
  rw [show call.endpoint.1 = "OPTIONS" from h] at hmethods
  exact absurd hmethods (by decide)

/-- What `authApi` calls has no route. -/
theorem route_callOf {stored stored' : Session.Stored} {username password : String}
    {op : Session.Op} {call : Call} (h : callOf stored username password op = some call) :
    (call.request stored').route = none := by
  cases op with
  | done => cases h
  | setupStatus | initRefresh | me | login | setup | logout | refresh =>
    cases h
    exact route_authApi rfl

/-! ### The invariant -/

section Runs

variable {κ σ ρ : Type} {srv : Server κ} {json : Body ρ → Option Session.Answer}

/-- The page of the UI, as the answer to a request without a route. -/
def indexHtml : Gateway.Response ρ := ⟨200, .empty⟩

/-- `Auth` has not let the request in. -/
def Waiting : Gateway.Stage ρ → Prop
  | .isSetupRequired | .credentials => True
  | .audit response | .done response => 400 ≤ response.status
  | _ => False

/-- A request of the page that reaches no handler. -/
structure Refused (ctx : Context ρ) : Prop where
  authorization : ctx.request.authorization = []
  xApiKey : ctx.request.xApiKey = []
  identity : ctx.identity = none
  stage : ctx.request.route = none ∧ ctx.stage = .done indexHtml
    ∨ ctx.request.route ≠ none ∧ Waiting ctx.stage

/-- A function of the page that does not sign in when its request fails. -/
def Outside : Session.Op → Prop
  | .initRefresh | .me => False
  | _ => True

/-- Nobody is signed in on the page. -/
structure SignedOut (page : Session.State) : Prop where
  status : page.status = .loading ∨ page.status = .unauthenticated
  user : page.user = none
  token : Session.truthy page.stored.accessToken = false
  ops : ∀ op ∈ page.ops, Outside op

/-- The invariant of all runs. -/
structure LockedOut (w : World κ σ ρ) : Prop where
  page : SignedOut w.page
  awaits : ∀ k ∈ w.awaits, ∃ ctx, w.server.contexts[k]? = some ctx ∧ ctx.stage = .done indexHtml
  ours : ∀ k ∈ w.ours, ∃ ctx, w.server.contexts[k]? = some ctx ∧ Refused ctx

/-! ### The page -/

theorem authorization_eq_nil {stored : Session.Stored}
    (h : Session.truthy stored.accessToken = false) : authorization stored = [] := by
  unfold authorization
  rw [h]
  rfl

/-- What the page starts does not sign in. -/
theorem SignedOut.step {page page' : Session.State} (h : SignedOut page) (action : Action)
    (hstep : page.step action.event = some page') : SignedOut page' := by
  cases action with
  | load =>
    cases hstep
    refine ⟨.inl rfl, rfl, h.token, ?_⟩
    intro op hop
    rw [List.mem_singleton.mp hop]
    trivial
  | login username password | setup username password | logout =>
    cases hstep
    exact ⟨h.status, h.user, h.token, forall_mem_concat h.ops trivial⟩
  | refreshTokens =>
    cases hstep
    show SignedOut page.refreshTokens
    unfold Session.State.refreshTokens
    split
    · exact h
    · split
      · exact ⟨h.status, h.user, h.token, forall_mem_concat h.ops trivial⟩
      · exact ⟨.inr rfl, h.user, h.token, h.ops⟩

/-- After an error, a function of the page ends. Nobody is signed in. -/
theorem SignedOut.settle_error {page page' : Session.State} (h : SignedOut page) {i : Nat}
    {now : Int} (hsettle : page.settle i now .error = some page') :
    SignedOut page' ∧ page'.ops = page.ops.set i .done := by
  have hended : Outside .done := trivial
  have hdone : ∀ op ∈ page.ops.set i .done, Outside op := forall_mem_set h.ops hended i
  have hsignOut : SignedOut (page.signOut.goto i .done) := ⟨.inr rfl, rfl, rfl, hdone⟩
  cases hi : page.ops[i]? with
  | none =>
    simp only [Session.State.settle, hi] at hsettle
    cases hsettle
  | some op =>
    have hop := h.ops op (List.mem_of_getElem? hi)
    simp only [Session.State.settle, hi] at hsettle
    cases op with
    | initRefresh | me => exact hop.elim
    | done => cases hsettle
    | setupStatus =>
      cases hsettle
      exact ⟨⟨.inr rfl, h.user, h.token, hdone⟩, rfl⟩
    | login | setup =>
      cases hsettle
      exact ⟨⟨h.status, h.user, h.token, hdone⟩, rfl⟩
    | logout =>
      cases hsettle
      exact ⟨hsignOut, rfl⟩
    | refresh =>
      cases hsettle
      exact ⟨⟨.inr rfl, rfl, rfl, hdone⟩, rfl⟩

/-! ### The server -/

/-- The stage of a request without a route. -/
theorem first_of_none {request : HttpRequest} (hroute : request.route = none)
    (hmethod : request.method ≠ "OPTIONS") :
    (request.first : Gateway.Stage ρ) = .done indexHtml := by
  unfold HttpRequest.first
  rw [hroute]
  show Gateway.Stage.done (if request.method = "OPTIONS" then _ else _) = _
  rw [if_neg hmethod]
  rfl

/-- A request of the page reaches no handler when it arrives. -/
theorem refused_request {stored : Session.Stored}
    (htoken : Session.truthy stored.accessToken = false) (call : Call) :
    Refused (⟨call.request stored, none, (call.request stored).first⟩ : Context ρ) := by
  refine ⟨authorization_eq_nil htoken, rfl, rfl, ?_⟩
  cases hroute : (call.request stored).route with
  | none =>
    exact .inl ⟨rfl, first_of_none hroute (method_ne_options call stored)⟩
  | some route =>
    have hguarded := guarded_of_v1 rfl hroute
    refine .inr ⟨Option.some_ne_none route, ?_⟩
    show Waiting (HttpRequest.first _)
    unfold HttpRequest.first
    rw [hroute]
    show Waiting (if route.guarded then _ else _)
    rw [if_pos hguarded]
    trivial

/-- `Audit` logs no refused request. -/
theorem audit_refused {env : GatewayEnv κ σ ρ} {log : Audit.Table} {ctx : Context ρ}
    {response : Gateway.Response ρ} (h : 400 ≤ response.status) :
    Gateway.audit env log ctx response = log := by
  have hentry : Gateway.auditEntry ctx response = none := by
    unfold Gateway.auditEntry
    cases ctx.request.route with
    | none => rfl
    | some route => simp [h]
  unfold Gateway.audit
  rw [hentry]

/-- A step of a refused request changes nothing, and the request stays refused. -/
theorem Refused.advance {ctx : Context ρ} (h : Refused ctx) (env : GatewayEnv κ σ ρ)
    (r : Resources κ σ) :
    (Gateway.advance srv env r ctx).1 = r ∧ Refused (Gateway.advance srv env r ctx).2 := by
  obtain ⟨hauthorization, hkey, hidentity, hcase⟩ := h
  rcases hcase with ⟨hroute, hstage⟩ | ⟨hroute, hwaiting⟩
  · unfold Gateway.advance
    rw [hstage]
    exact ⟨rfl, hauthorization, hkey, hidentity, .inl ⟨hroute, hstage⟩⟩
  · have hnext : ∀ stage, Waiting stage → Refused (ctx.next stage) := fun stage hstage =>
      ⟨hauthorization, hkey, hidentity, .inr ⟨hroute, hstage⟩⟩
    have hreply : ∀ status (body : Body ρ), 400 ≤ status → Refused (ctx.reply status body) :=
      fun status body hstatus => hnext (.audit ⟨status, body⟩) hstatus
    cases hstage : ctx.stage with
    | isSetupRequired =>
      simp only [Gateway.advance, hstage]
      split
      · exact ⟨rfl, hreply 500 _ (by decide)⟩
      · exact ⟨rfl, hreply 503 _ (by decide)⟩
      · exact ⟨rfl, hnext .credentials trivial⟩
    | credentials =>
      -- There is neither a token nor an API key.
      have hread : Gateway.readCredentials srv env r ctx
          = ctx.reply 401 (.error "authentication required") := by
        unfold Gateway.readCredentials
        rw [hauthorization, hkey]
        rfl
      unfold Gateway.advance
      rw [hstage]
      exact ⟨rfl, hread ▸ hreply 401 _ (by decide)⟩
    | audit response =>
      rw [hstage] at hwaiting
      unfold Gateway.advance
      rw [hstage]
      refine ⟨?_, hnext (.done response) hwaiting⟩
      show { r with log := Gateway.audit env r.log ctx response } = r
      rw [audit_refused hwaiting]
    | done response =>
      unfold Gateway.advance
      rw [hstage]
      exact ⟨rfl, hauthorization, hkey, hidentity, .inr ⟨hroute, hwaiting⟩⟩
    | findOwner _ | touchKey _ _ | handler | service _ =>
      rw [hstage] at hwaiting
      exact hwaiting.elim

/-! ### Steps -/

/-- The server may go on, if it keeps the files and does not let a refused request in. -/
theorem LockedOut.of_contexts {w : World κ σ ρ} (h : LockedOut w) {server : Gateway.State κ σ ρ}
    (hfiles : ∀ (k : Nat) (ctx : Context ρ), w.server.contexts[k]? = some ctx →
      ctx.stage = .done indexHtml → server.contexts[k]? = some ctx)
    (hrefused : ∀ (k : Nat) (ctx : Context ρ), w.server.contexts[k]? = some ctx → Refused ctx →
      ∃ ctx', server.contexts[k]? = some ctx' ∧ Refused ctx') :
    LockedOut { w with server } := by
  refine ⟨h.page, ?_, ?_⟩
  · intro k hk
    obtain ⟨ctx, hctx, hstage⟩ := h.awaits k hk
    exact ⟨ctx, hfiles k ctx hctx hstage, hstage⟩
  · intro k hk
    obtain ⟨ctx, hctx, hkeep⟩ := h.ours k hk
    exact hrefused k ctx hctx hkeep

/-- Requests that arrive later change nothing for those that are there. -/
theorem lockedOut_arrive {w : World κ σ ρ} (h : LockedOut w) (request : HttpRequest) :
    LockedOut (w.arrive request) :=
  h.of_contexts (fun _ _ hctx _ => getElem?_append_of_getElem? hctx _)
    (fun _ ctx hctx hkeep => ⟨ctx, getElem?_append_of_getElem? hctx _, hkeep⟩)

/-- A request of the page is refused, or answered with a file. -/
theorem lockedOut_send {w : World κ σ ρ} (h : LockedOut w) (call : Call) :
    LockedOut (w.send (call.request w.page.stored)) := by
  have harrive := lockedOut_arrive h (call.request w.page.stored)
  refine ⟨h.page, harrive.awaits, ?_⟩
  intro k hk
  rcases List.mem_append.mp hk with hold | hnew
  · exact harrive.ours k hold
  · rw [List.mem_singleton.mp hnew]
    exact ⟨_, List.getElem?_concat_length, refused_request h.page.token call⟩

theorem mem_awaits_fetch {w : World κ σ ρ} {i k : Nat} {request : HttpRequest}
    (hk : k ∈ (w.fetch i request).awaits) : k ∈ w.awaits ∨ k = w.server.contexts.length := by
  have hk' : k ∈ if i < w.awaits.length then w.awaits.set i w.server.contexts.length
    else w.awaits ++ [w.server.contexts.length] := hk
  split at hk'
  · exact List.mem_or_eq_of_mem_set hk'
  · exact (List.mem_append.mp hk').imp_right List.mem_singleton.mp

/-- A function of the page awaits a file. -/
theorem lockedOut_goOn {w : World κ σ ρ} (h : LockedOut w) (i : Nat) (form : String × String) :
    LockedOut (w.goOn i form) := by
  unfold World.goOn
  split
  · exact h
  · rename_i call hcall
    obtain ⟨op, -, hop⟩ := Option.bind_eq_some_iff.mp hcall
    have hsend := lockedOut_send h call
    refine ⟨h.page, ?_, hsend.ours⟩
    intro k hk
    rcases mem_awaits_fetch hk with hold | rfl
    · exact hsend.awaits k hold
    · exact ⟨_, List.getElem?_concat_length,
        first_of_none (route_callOf hop) (method_ne_options call w.page.stored)⟩

/-- A function of the page ends with an error. -/
theorem lockedOut_settle {w w' : World κ σ ρ} (h : LockedOut w) {i : Nat} {now : Int}
    (hsettle : w.settle i now .error = some w') : LockedOut w' := by
  obtain ⟨page, hpage, rfl⟩ := Option.map_eq_some_iff.mp hsettle
  have hmoved : LockedOut { w with page } :=
    ⟨(h.page.settle_error hpage).1, h.awaits, h.ours⟩
  exact lockedOut_goOn hmoved i ("", "")

/-- What the page starts makes its first request. -/
theorem lockedOut_act {w w' : World κ σ ρ} (h : LockedOut w) {action : Action}
    (hact : w.act action = some w') : LockedOut w' := by
  obtain ⟨page, hpage, rfl⟩ := Option.map_eq_some_iff.mp hact
  have hkept : ∀ k ∈ w.kept action, k ∈ w.awaits := by
    intro k hk
    cases action with
    | load => cases hk
    | login _ _ | setup _ _ | logout | refreshTokens => exact hk
  have hmoved : LockedOut { w with page, awaits := w.kept action } :=
    ⟨h.page.step action hpage, fun k hk => h.awaits k (hkept k hk), h.ours⟩
  show LockedOut (World.begin _ _)
  unfold World.begin
  split
  · exact lockedOut_goOn hmoved _ _
  · exact hmoved

/-- A call fails if the response is a page of the UI. -/
theorem simpleRequest_indexHtml (hjson : json .empty = none) :
    simpleRequest (indexHtml : Gateway.Response ρ).status (json indexHtml.body) = .error := by
  show (json .empty).getD .error = .error
  rw [hjson]
  rfl

/-- What a function of the page awaits is not JSON. -/
theorem response_indexHtml {w : World κ σ ρ} (h : LockedOut w) {i : Nat}
    {request : HttpRequest} {response : Gateway.Response ρ}
    (hresponse : w.response? i = some (request, response)) : response = indexHtml := by
  obtain ⟨k, hk, hrest⟩ := Option.bind_eq_some_iff.mp hresponse
  obtain ⟨ctx, hctx, hstage⟩ := Option.bind_eq_some_iff.mp hrest
  obtain ⟨ctx', hctx', hdone⟩ := h.awaits k (List.mem_of_getElem? hk)
  rw [hctx] at hctx'
  cases hctx'
  rw [hdone] at hstage
  cases hstage
  rfl

/-- A step of the server keeps the requests of the page where they are. -/
theorem lockedOut_advance {w : World κ σ ρ} (h : LockedOut w) {k : Nat} {env : GatewayEnv κ σ ρ}
    {server : Gateway.State κ σ ρ}
    (hstep : Gateway.step srv w.server (.advance k env) = some server) :
    LockedOut { w with server } := by
  obtain ⟨ctx, hctx, hdone, rfl⟩ := Gateway.step_advance hstep
  refine h.of_contexts ?_ ?_
  · intro j ctx' hctx' hstage
    have hne : k ≠ j := by
      rintro rfl
      rw [hctx] at hctx'
      cases hctx'
      rw [hstage] at hdone
      cases hdone
    exact (List.getElem?_set_ne hne).trans hctx'
  · intro j ctx' hctx' hrefused
    by_cases hsame : k = j
    · subst hsame
      rw [hctx] at hctx'
      cases hctx'
      exact ⟨_, List.getElem?_set_self (lt_length_of_getElem? hctx),
        (hrefused.advance env w.server.resources).2⟩
    · exact ⟨ctx', (List.getElem?_set_ne hsame).trans hctx', hrefused⟩

/-- Every event keeps the invariant. -/
theorem lockedOut_step (hjson : json .empty = none) (w : World κ σ ρ) (e : Event κ σ ρ)
    (w' : World κ σ ρ) (h : LockedOut w) (hstep : w.step srv json e = some w') : LockedOut w' := by
  cases e with
  | page action => exact lockedOut_act h hstep
  | call call =>
    cases hstep
    exact lockedOut_send h call
  | retry i =>
    simp only [World.step] at hstep
    split at hstep
    · cases hstep
    · rename_i request response hresponse
      rw [response_indexHtml h hresponse] at hstep
      cases hstep
  | settle i now =>
    simp only [World.step] at hstep
    split at hstep
    · cases hstep
    · rename_i request response hresponse
      rw [response_indexHtml h hresponse, simpleRequest_indexHtml hjson] at hstep
      exact lockedOut_settle h hstep
  | networkError i now => exact lockedOut_settle h hstep
  | other request =>
    cases hstep
    exact lockedOut_arrive h request
  | advance k env =>
    obtain ⟨server, hserver, rfl⟩ := Option.map_eq_some_iff.mp hstep
    exact lockedOut_advance h hserver

/-- **The UI is locked out.** Take any run of a page with the server and other clients, from a page
without an access token and a server in any state. Every protected page of the UI shows nothing or
the login form, and no access token is stored. No request of the page reaches a handler: it is
refused, or answered with a file, and its steps change nothing on the server. -/
theorem ui_locked_out (srv : Server κ) (json : Body ρ → Option Session.Answer)
    (hjson : json .empty = none) (stored : Session.Stored) (server : Gateway.State κ σ ρ)
    (events : List (Event κ σ ρ)) (w : World κ σ ρ)
    (htoken : Session.truthy stored.accessToken = false)
    (hrun : run (World.step srv json) (World.start stored server) events = some w) :
    (requireAuth w.page.status = .nothing ∨ requireAuth w.page.status = .loginPage) ∧
      w.page.user = none ∧ Session.truthy w.page.stored.accessToken = false ∧
      ∀ k ∈ w.ours, ∃ ctx, w.server.contexts[k]? = some ctx ∧ ctx.identity = none ∧
        (Waiting ctx.stage ∨ ctx.request.route = none ∧ ctx.stage = .done indexHtml) ∧
        ∀ (env : GatewayEnv κ σ ρ) (r : Resources κ σ), (Gateway.advance srv env r ctx).1 = r := by
  have hstart : LockedOut (World.start stored server : World κ σ ρ) := by
    refine ⟨⟨.inl rfl, rfl, htoken, ?_⟩, ?_, ?_⟩
    · intro op hop
      cases hop
    · intro k hk
      cases hk
    · intro k hk
      cases hk
  have hlocked := run_invariant LockedOut (lockedOut_step hjson) hstart hrun
  refine ⟨?_, hlocked.page.user, hlocked.page.token, ?_⟩
  · rcases hlocked.page.status with hloading | hunauthenticated
    · exact .inl (congrArg requireAuth hloading)
    · exact .inr (congrArg requireAuth hunauthenticated)
  · intro k hk
    obtain ⟨ctx, hctx, hrefused⟩ := hlocked.ours k hk
    exact ⟨ctx, hctx, hrefused.identity, hrefused.stage.symm.imp_left And.right,
      fun env r => (hrefused.advance env r).1⟩

end Runs

/-! ### A first visit -/

/-- What decodes from the bodies of the server. -/
def jsonBody : Body Groups.Reply → Option Session.Answer
  | .setupStatus required => some (.setupStatus required)
  | _ => none

/-- The first visit to a new server: the page loads, the user tries to log in, and the page asks for
the agents. -/
def firstVisit : List (Event GoTime.Instant Sqlite.Storage Groups.Reply) :=
  [.page .load, .settle 0 1000, .page (.login "admin" "password"), .settle 1 2000,
    .call .getAgents, .advance 2 (Gateway.answers "" "" none),
    .advance 2 (Gateway.answers "" "" none)]

theorem ui_locked_out_firstVisit :
    ∃ w, run (World.step Gateway.firstServer jsonBody)
        (World.start Session.clearTokens (Gateway.start Gateway.emptyTables)) firstVisit = some w ∧
      w.ours = [0, 1, 2] ∧
      (requireAuth w.page.status = .nothing ∨ requireAuth w.page.status = .loginPage) ∧
      w.page.user = none ∧ Session.truthy w.page.stored.accessToken = false ∧
      ∀ k ∈ w.ours, ∃ ctx, w.server.contexts[k]? = some ctx ∧ ctx.identity = none ∧
        (Waiting ctx.stage ∨ ctx.request.route = none ∧ ctx.stage = .done indexHtml) ∧
        ∀ (env : GatewayEnv GoTime.Instant Sqlite.Storage Groups.Reply)
          (r : Resources GoTime.Instant Sqlite.Storage),
          (Gateway.advance Gateway.firstServer env r ctx).1 = r := by
  have hrun : run (World.step Gateway.firstServer jsonBody)
      (World.start Session.clearTokens (Gateway.start Gateway.emptyTables)) firstVisit
      = some ((run (World.step Gateway.firstServer jsonBody)
        (World.start Session.clearTokens (Gateway.start Gateway.emptyTables)) firstVisit).get
          (by decide +kernel)) := (Option.some_get _).symm
  exact ⟨_, hrun, by decide +kernel, ui_locked_out Gateway.firstServer jsonBody rfl
    Session.clearTokens (Gateway.start Gateway.emptyTables) firstVisit _ (by decide) hrun⟩

end OtelHive.Ui.Client
