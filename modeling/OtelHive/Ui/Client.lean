import OtelHive.Api.Gateway
import OtelHive.Ui.Session

/-!
# `OtelHive.Ui.Client`: the UI and the server

The functions of `ui/src/api`. Each makes one request with `simpleRequest`, which puts the endpoint
of the function after `apiConfig.baseUrl`: the address of the backend with `/api/v1`
(`ui/src/config.ts`). The address has no path of its own, as in `docker-compose.yml`.

`World` is a page of the UI (`Ui.Session`) with the server (`Api.Gateway`). A request of the page
arrives at the server, runs there between those of other clients, and its response settles the call.
After a 401 the page may make the request again.

An id is one segment of a path, as the ids of the server are. The stubs in `telemetry.ts`,
`lawrence-ql.ts` and `collector-metrics.ts` make no request and are left out.
-/

set_option autoImplicit false

namespace OtelHive.Ui.Client

open OtelHive.Lib
open OtelHive.Api
open OtelHive.Api.Gateway (AuthBody Body GatewayEnv HttpRequest Server bearer)

/-! ### Requests -/

/-- A call of a function of `ui/src/api`. The arguments are those of the path, and those that
`Api.Gateway` reads. -/
inductive Call where
  -- `authApi`.
  | getSetupStatus
  | setup (username password : String)
  | login (username password : String)
  | logout
  | refresh (refreshToken : String)
  | me
  | listApiKeys
  | createApiKey (name : String)
  | revokeApiKey (id : String)
  -- `agents.ts`.
  | getAgents
  | getAgent (id : String)
  | getAgentStats
  | updateAgentGroup (id : String)
  | sendConfigToAgent (agentId : String)
  | restartAgent (agentId : String)
  -- `groups.ts`.
  | getGroups
  | getGroup (id : String)
  | createGroup
  | deleteGroup (id : String)
  | assignConfigToGroup (groupId : String)
  | getGroupConfig (groupId : String)
  | getGroupAgents (groupId : String)
  | restartGroup (groupId : String)
  -- `configs.ts`.
  | getConfigs
  | getConfig (id : String)
  | createConfig
  | updateConfig (id : String)
  | validateConfig
  | getConfigVersions
  -- `gitsync.ts`.
  | listGitSources
  | getGitSource (id : String)
  | createGitSource
  | updateGitSource (id : String)
  | deleteGitSource (id : String)
  | triggerSync (id : String)
  -- `auditlog.ts`.
  | listAuditLog (page : Nat) (eventType : String)
  -- `topology.ts`.
  | getTopology
  | getAgentTopology (agentId : String)
  | getGroupTopology (groupId : String)

/-- The method and the endpoint, without the query. -/
def Call.endpoint : Call → String × List String
  | .getSetupStatus => ("GET", ["api", "auth", "setup", "status"])
  | .setup _ _ => ("POST", ["api", "auth", "setup"])
  | .login _ _ => ("POST", ["api", "auth", "login"])
  | .logout => ("POST", ["api", "auth", "logout"])
  | .refresh _ => ("POST", ["api", "auth", "refresh"])
  | .me => ("GET", ["api", "auth", "me"])
  | .listApiKeys => ("GET", ["api", "auth", "api-keys"])
  | .createApiKey _ => ("POST", ["api", "auth", "api-keys"])
  | .revokeApiKey id => ("DELETE", ["api", "auth", "api-keys", id])
  | .getAgents => ("GET", ["agents"])
  | .getAgent id => ("GET", ["agents", id])
  | .getAgentStats => ("GET", ["agents", "stats"])
  | .updateAgentGroup id => ("PATCH", ["agents", id, "group"])
  | .sendConfigToAgent agentId => ("POST", ["agents", agentId, "config"])
  | .restartAgent agentId => ("POST", ["agents", agentId, "restart"])
  | .getGroups => ("GET", ["groups"])
  | .getGroup id => ("GET", ["groups", id])
  | .createGroup => ("POST", ["groups"])
  | .deleteGroup id => ("DELETE", ["groups", id])
  | .assignConfigToGroup groupId => ("POST", ["groups", groupId, "config"])
  | .getGroupConfig groupId => ("GET", ["groups", groupId, "config"])
  | .getGroupAgents groupId => ("GET", ["groups", groupId, "agents"])
  | .restartGroup groupId => ("POST", ["groups", groupId, "restart"])
  | .getConfigs => ("GET", ["configs"])
  | .getConfig id => ("GET", ["configs", id])
  | .createConfig => ("POST", ["configs"])
  | .updateConfig id => ("PUT", ["configs", id])
  | .validateConfig => ("POST", ["configs", "validate"])
  | .getConfigVersions => ("GET", ["configs", "versions"])
  | .listGitSources => ("GET", ["git-sources"])
  | .getGitSource id => ("GET", ["git-sources", id])
  | .createGitSource => ("POST", ["git-sources"])
  | .updateGitSource id => ("PUT", ["git-sources", id])
  | .deleteGitSource id => ("DELETE", ["git-sources", id])
  | .triggerSync id => ("POST", ["git-sources", id, "sync"])
  | .listAuditLog _ _ => ("GET", ["audit-log"])
  | .getTopology => ("GET", ["topology"])
  | .getAgentTopology agentId => ("GET", ["topology", "agent", agentId])
  | .getGroupTopology groupId => ("GET", ["topology", "group", groupId])

/-- What the server decodes from the body. `logout` sends none. -/
def Call.body : Call → Except String AuthBody
  | .setup username password => .ok { username, password }
  | .login username password => .ok { username, password }
  | .refresh refreshToken => .ok { refreshToken }
  | .createApiKey name => .ok { name }
  | .logout => .error "EOF"
  | _ => .ok { }

/-- The query of `listAuditLog`. The page has `PAGE_LIMIT` entries. -/
def Call.query : Call → Audit.ListParams
  | .listAuditLog page eventType => ⟨.wrap page, .wrap 50, eventType⟩
  | _ => ⟨.wrap 1, .wrap 50, ""⟩

/-- The path of `apiConfig.baseUrl`. -/
def baseUrl : List String := ["api", "v1"]

/-- The header `Authorization`, if there is a token. -/
def authorization (stored : Session.Stored) : Bytes :=
  if Session.truthy stored.accessToken then
    bearer ++ (stored.accessToken.getD "").toUTF8.data.toList
  else []

/-- The request of `simpleRequest`. -/
def Call.request (call : Call) (stored : Session.Stored) : HttpRequest where
  method := call.endpoint.1
  path := baseUrl ++ call.endpoint.2
  authorization := authorization stored
  body := call.body
  query := call.query

/-- How `simpleRequest` settles with a response. `json` is what decodes from the body. -/
def simpleRequest (status : Nat) (json : Option Session.Answer) : Session.Answer :=
  if status < 200 ∨ 300 ≤ status then .error
  else if status = 204 then .loggedOut
  else json.getD .error

/-- The call of `authApi` that a function awaits. -/
def callOf (stored : Session.Stored) (username password : String) : Session.Op → Option Call
  | .setupStatus => some .getSetupStatus
  | .initRefresh => some (.refresh (stored.refreshToken.getD ""))
  | .me => some .me
  | .login => some (.login username password)
  | .setup => some (.setup username password)
  | .logout => some .logout
  | .refresh => some (.refresh (stored.refreshToken.getD ""))
  | .done => none

/-! ### The page with the server -/

/-- What the user, a timer or a 401 starts on the page. -/
inductive Action where
  | load
  | login (username password : String)
  | setup (username password : String)
  | logout
  | refreshTokens

def Action.event : Action → Session.Event
  | .load => .load
  | .login _ _ => .login
  | .setup _ _ => .setup
  | .logout => .logout
  | .refreshTokens => .refreshTokens

/-- The values of the form. -/
def Action.form : Action → String × String
  | .login username password => (username, password)
  | .setup username password => (username, password)
  | _ => ("", "")

structure World (κ σ ρ : Type) where
  page : Session.State
  server : Gateway.State κ σ ρ
  /-- The request that each function of the page has made last. -/
  awaits : List Nat
  /-- All requests of the page. -/
  ours : List Nat

inductive Event (κ σ ρ : Type) where
  | page (action : Action)
  /-- The page calls a function of `ui/src/api`. Its result does not sign in. -/
  | call (call : Call)
  /-- A function makes its request again, after a 401. -/
  | retry (i : Nat)
  /-- The response to the request of a function arrives. `now` is `Date.now()`. -/
  | settle (i : Nat) (now : Int)
  | networkError (i : Nat) (now : Int)
  /-- Another client makes a request. -/
  | other (request : HttpRequest)
  /-- The server runs a request up to its next statement. -/
  | advance (k : Nat) (env : GatewayEnv κ σ ρ)

namespace World

variable {κ σ ρ : Type}

/-- The page is opened. -/
def start (stored : Session.Stored) (server : Gateway.State κ σ ρ) : World κ σ ρ where
  page := .start stored
  server := server
  awaits := []
  ours := []

/-- A request arrives at the server. -/
def arrive (w : World κ σ ρ) (request : HttpRequest) : World κ σ ρ :=
  { w with server := { w.server with
      contexts := w.server.contexts ++ [⟨request, none, request.first⟩] } }

/-- The page makes a request. -/
def send (w : World κ σ ρ) (request : HttpRequest) : World κ σ ρ :=
  { w.arrive request with ours := w.ours ++ [w.server.contexts.length] }

/-- A function makes its request, and awaits the response. -/
def fetch (w : World κ σ ρ) (i : Nat) (request : HttpRequest) : World κ σ ρ :=
  let k := w.server.contexts.length
  { w.send request with
      awaits := if i < w.awaits.length then w.awaits.set i k else w.awaits ++ [k] }

/-- A function goes on up to its next `await`. -/
def goOn (w : World κ σ ρ) (i : Nat) (form : String × String) : World κ σ ρ :=
  match w.page.ops[i]?.bind (callOf w.page.stored form.1 form.2) with
  | none => w
  | some call => w.fetch i (call.request w.page.stored)

/-- The requests that the page still awaits. After a load nothing awaits an earlier one. -/
def kept (w : World κ σ ρ) : Action → List Nat
  | .load => []
  | _ => w.awaits

/-- A function that has just begun makes its request. -/
def begin (w : World κ σ ρ) (form : String × String) : World κ σ ρ :=
  if w.awaits.length < w.page.ops.length then w.goOn w.awaits.length form else w

/-- The page starts something. -/
def act (w : World κ σ ρ) (action : Action) : Option (World κ σ ρ) :=
  (w.page.step action.event).map fun page =>
    { w with page, awaits := w.kept action }.begin action.form

/-- A function settles its request and goes on. -/
def settle (w : World κ σ ρ) (i : Nat) (now : Int) (answer : Session.Answer) :
    Option (World κ σ ρ) :=
  (w.page.settle i now answer).map fun page => { w with page }.goOn i ("", "")

/-- The request of a function, with its response. -/
def response? (w : World κ σ ρ) (i : Nat) : Option (HttpRequest × Gateway.Response ρ) := do
  let k ← w.awaits[i]?
  let ctx ← w.server.contexts[k]?
  match ctx.stage with
  | .done response => some (ctx.request, response)
  | _ => none

/-- One event. `json` is what decodes from a body, if that is JSON. -/
def step (srv : Server κ) (json : Body ρ → Option Session.Answer) (w : World κ σ ρ) :
    Event κ σ ρ → Option (World κ σ ρ)
  | .page action => w.act action
  | .call call => some (w.send (call.request w.page.stored))
  | .retry i =>
    match w.response? i with
    | none => none
    | some (request, response) =>
      if response.status = 401 then
        some (w.fetch i { request with authorization := authorization w.page.stored })
      else none
  | .settle i now =>
    match w.response? i with
    | none => none
    | some (_, response) => w.settle i now (simpleRequest response.status (json response.body))
  | .networkError i now => w.settle i now .error
  | .other request => some (w.arrive request)
  | .advance k env =>
    (Gateway.step srv w.server (.advance k env)).map fun server => { w with server }

end World

/-- What `App.tsx` shows at the path of a protected page. -/
inductive Shown where
  | nothing
  | setupPage
  | loginPage
  | children
deriving DecidableEq

/-- `RequireAuth`. -/
def requireAuth : Session.AuthStatus → Shown
  | .loading => .nothing
  | .setupRequired => .setupPage
  | .unauthenticated => .loginPage
  | .authenticated => .children

end OtelHive.Ui.Client
