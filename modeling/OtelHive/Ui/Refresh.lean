import Mathlib.Logic.Relation

/-!
# `OtelHive.Ui.Refresh`: the silent refresh of the UI

`simpleRequest` of `ui/src/api/base.ts`, and `refreshTokens` with its `doRefresh` of
`ui/src/hooks/useAuth.tsx`. All three are async functions: each call is a promise, and it runs
without interruption between two `await`s. The state holds the calls of each function in the order
in which they began, each with what it awaits.

A fetch settles when the network answers (`Event.answer`). A call goes on when the promise that
it awaits has settled (`Event.resume`). Reading the body of a response is part of its fetch. The
URL, the headers and the status of the session are left out, because they do not decide what
awaits what.
-/

set_option autoImplicit false

namespace OtelHive.Ui

/-- `localStorage`, for the two tokens. -/
structure Storage where
  accessToken : Option String
  refreshToken : Option String
deriving DecidableEq

/-- The body of `authApi.refresh`. A field that is missing is `undefined`. -/
structure Tokens where
  accessToken : Option String
  refreshToken : Option String
deriving DecidableEq

/-- A response to a fetch, with what decodes from its body: nothing, `null`, or an object. -/
structure Response where
  status : Nat
  setupRequired : Bool
  body : Option (Option Tokens)
deriving DecidableEq

/-- How a fetch settles. -/
inductive Answer where
  | networkError
  | response (resp : Response)
deriving DecidableEq

/-- A call of `simpleRequest`. -/
inductive RequestStage where
  /-- It awaits its fetch. -/
  | fetch
  /-- It awaits a call of `refreshTokens`, after a 401. -/
  | refresh (call : Nat)
  /-- It awaits the fetch with the new token. -/
  | retry
  | resolved (tokens : Option Tokens)
  | rejected
  /-- It has returned a promise that never settles, because the page is navigating away. -/
  | never
deriving DecidableEq

/-- A call of `refreshTokens`. It returns the promise of a `doRefresh`, so it awaits that. -/
inductive CallStage where
  | awaits (refresh : Nat)
  | done (token : Option String)
deriving DecidableEq

/-- A call of `doRefresh`. -/
inductive RefreshStage where
  /-- It awaits `authApi.refresh`, which is a call of `simpleRequest`. -/
  | awaits (request : Nat)
  | done (token : Option String)
deriving DecidableEq

/-- The promises, with what the functions share. -/
structure State where
  requests : List RequestStage
  calls : List CallStage
  refreshes : List RefreshStage
  /-- `refreshPromiseRef.current`. -/
  refreshPromiseRef : Option Nat
  /-- Whether `_refreshTokens` is set. -/
  registered : Bool
  storage : Storage
deriving DecidableEq

/-- A promise. -/
inductive Promise where
  | request (i : Nat)
  | call (r : Nat)
  | refresh (d : Nat)
deriving DecidableEq

/-- What happens next. -/
inductive Event where
  /-- A component calls `simpleRequest`. -/
  | request
  /-- A component calls `refreshTokens`. -/
  | refreshTokens
  /-- `RefreshBridge` registers `refreshTokens`. -/
  | register
  /-- A login, a logout or another tab changes the tokens. -/
  | store (storage : Storage)
  /-- The fetch of a request settles. -/
  | answer (i : Nat) (a : Answer)
  /-- A call goes on, because what it awaits has settled. -/
  | resume (p : Promise)
deriving DecidableEq

namespace State

/-- The page before the first call. -/
def start (registered : Bool) (storage : Storage) : State := ⟨[], [], [], none, registered, storage⟩

/-- A string that JavaScript takes as true. -/
def truthy : Option String → Bool
  | some s => s != ""
  | none => false

/-- `doRefresh`, up to its first `await`. The index is that of its promise. -/
def doRefresh (s : State) : State × Nat :=
  if truthy s.storage.refreshToken then
    ({ s with
      requests := s.requests ++ [.fetch]
      refreshes := s.refreshes ++ [.awaits s.requests.length] }, s.refreshes.length)
  else
    -- This returns before the `try`, so no `finally` clears `refreshPromiseRef`.
    ({ s with refreshes := s.refreshes ++ [.done none] }, s.refreshes.length)

/-- `refreshTokens`. The index is that of its promise. -/
def refreshTokens (s : State) : State × Nat :=
  match s.refreshPromiseRef with
  | some d => ({ s with calls := s.calls ++ [.awaits d] }, s.calls.length)
  | none =>
    -- `doRefresh` runs up to its first `await` before the assignment.
    let (s, d) := s.doRefresh
    ({ s with refreshPromiseRef := some d, calls := s.calls ++ [.awaits d] }, s.calls.length)

/-- The end of `simpleRequest`, after its last fetch. -/
def settle (resp : Response) : RequestStage :=
  if resp.status = 503 ∧ resp.setupRequired = true then .never
  else if resp.status < 200 ∨ 300 ≤ resp.status then .rejected
  else if resp.status = 204 then .resolved none
  else
    match resp.body with
    | none => .rejected
    | some tokens => .resolved tokens

/-- A request goes on to another stage. -/
def setRequest (s : State) (i : Nat) (stage : RequestStage) : State :=
  { s with requests := s.requests.set i stage }

/-- The fetch of a request settles. The first 401 calls the function that is registered. -/
def answer (s : State) (i : Nat) (a : Answer) : Option State :=
  match s.requests[i]? with
  | some .fetch =>
    match a with
    | .networkError => some (s.setRequest i .rejected)
    | .response resp =>
      -- The path is not looked at: the request of `authApi.refresh` gets here as well.
      if resp.status = 401 ∧ s.registered = true then
        some (s.refreshTokens.1.setRequest i (.refresh s.refreshTokens.2))
      else some (s.setRequest i (settle resp))
  | some .retry =>
    -- After the retry a 401 is an error like the others.
    match a with
    | .networkError => some (s.setRequest i .rejected)
    | .response resp => some (s.setRequest i (settle resp))
  | _ => none

/-- The end of `doRefresh`: the tokens are stored, or cleared after an error, and the promise is
no longer the current one. Reading a field of `null` or `undefined` is an error. -/
def finishRefresh (s : State) (d : Nat) (tokens : Option Tokens) : State :=
  match tokens with
  | some tokens =>
    { s with
      refreshes := s.refreshes.set d (.done tokens.accessToken)
      refreshPromiseRef := none
      storage := ⟨some (tokens.accessToken.getD "undefined"),
        some (tokens.refreshToken.getD "undefined")⟩ }
  | none =>
    { s with
      refreshes := s.refreshes.set d (.done none)
      refreshPromiseRef := none
      storage := ⟨none, none⟩ }

/-- A call goes on after its `await`. -/
def resume (s : State) : Promise → Option State
  | .request i =>
    match s.requests[i]? with
    | some (.refresh r) =>
      match s.calls[r]? with
      | some (.done token) => some (s.setRequest i (if truthy token then .retry else .rejected))
      | _ => none
    | _ => none
  | .call r =>
    match s.calls[r]? with
    | some (.awaits d) =>
      match s.refreshes[d]? with
      | some (.done token) => some { s with calls := s.calls.set r (.done token) }
      | _ => none
    | _ => none
  | .refresh d =>
    match s.refreshes[d]? with
    | some (.awaits i) =>
      match s.requests[i]? with
      | some (.resolved tokens) => some (s.finishRefresh d tokens)
      | some .rejected => some (s.finishRefresh d none)
      | _ => none
    | _ => none

/-- One event. -/
def step (s : State) : Event → Option State
  | .request => some { s with requests := s.requests ++ [.fetch] }
  | .refreshTokens => some s.refreshTokens.1
  | .register => some { s with registered := true }
  | .store storage => some { s with storage }
  | .answer i a => s.answer i a
  | .resume p => s.resume p

/-! ### What awaits what -/

/-- The promise has settled. -/
def Settled (s : State) : Promise → Prop
  | .request i => (∃ tokens, s.requests[i]? = some (.resolved tokens)) ∨
      s.requests[i]? = some .rejected
  | .call r => ∃ token, s.calls[r]? = some (.done token)
  | .refresh d => ∃ token, s.refreshes[d]? = some (.done token)

/-- A promise waits on another one, which has not settled. -/
inductive Waits (s : State) : Promise → Promise → Prop where
  | request (i r : Nat) (awaits : s.requests[i]? = some (.refresh r))
    (unsettled : ¬ s.Settled (.call r)) : Waits s (.request i) (.call r)
  | call (r d : Nat) (awaits : s.calls[r]? = some (.awaits d))
    (unsettled : ¬ s.Settled (.refresh d)) : Waits s (.call r) (.refresh d)
  | refresh (d i : Nat) (awaits : s.refreshes[d]? = some (.awaits i))
    (unsettled : ¬ s.Settled (.request i)) : Waits s (.refresh d) (.request i)

/-- The request awaits an answer of the network. -/
def Fetching (s : State) (i : Nat) : Prop :=
  s.requests[i]? = some .fetch ∨ s.requests[i]? = some .retry

/-- No call can go on. -/
def Drained (s : State) : Prop := ∀ p, s.resume p = none

end State

end OtelHive.Ui
