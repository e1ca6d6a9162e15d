import Mathlib.Init

/-!
# `OtelHive.Ui.Session`: the session of the UI

`AuthProvider` of `ui/src/hooks/useAuth.tsx`: the status that decides which pages are shown, the
user, and the tokens in `localStorage`. `init`, `fetchMe`, `login`, `setup`, `logout` and
`refreshTokens` are async functions. Each runs without interruption between two `await`s, and an
`Op` is what it awaits. The calls of `authApi` settle at any time and in any order, with any answer
of their type.

`OtelHive.Ui.Refresh` has the requests behind these calls. Here a 401 only shows as a call of
`refreshTokens` at some time.

A reload of the page starts `AuthProvider` again, and nothing awaits an answer after it. Development
builds, in which React runs each effect twice, are left out.
-/

set_option autoImplicit false

namespace OtelHive.Ui.Session

/-- `AuthStatus`. -/
inductive AuthStatus where
  | loading
  | unauthenticated
  | authenticated
  | setupRequired
deriving DecidableEq

/-- `MeResponse`. -/
structure MeResponse where
  id : String
  username : String
  role : String
  createdAt : String
deriving DecidableEq

/-- `TokenPair`. -/
structure TokenPair where
  accessToken : String
  refreshToken : String
  expiresIn : Int
deriving DecidableEq

/-- The three keys in `localStorage`. -/
structure Stored where
  accessToken : Option String
  refreshToken : Option String
  /-- Milliseconds. -/
  expiresAt : Option Int
deriving DecidableEq

/-- What an async function awaits. -/
inductive Op where
  /-- `init` awaits `authApi.getSetupStatus`. -/
  | setupStatus
  /-- `init` awaits `authApi.refresh`. -/
  | initRefresh
  /-- `fetchMe` awaits `authApi.me`. -/
  | me
  | login
  | setup
  | logout
  /-- `doRefresh` awaits `authApi.refresh`. -/
  | refresh
  | done
deriving DecidableEq

/-- How a call of `authApi` settles. -/
inductive Answer where
  | setupStatus (setupRequired : Bool)
  | tokens (tokens : TokenPair)
  | me (user : MeResponse)
  | loggedOut
  | error
deriving DecidableEq

structure State where
  status : AuthStatus
  user : Option MeResponse
  stored : Stored
  /-- Whether `refreshPromiseRef.current` is set. -/
  refreshing : Bool
  ops : List Op
deriving DecidableEq

inductive Event where
  /-- The page is opened or loaded again. -/
  | load
  | login
  | setup
  | logout
  | refreshTokens
  /-- A call of `authApi` settles. `now` is `Date.now()`. -/
  | settle (i : Nat) (now : Int) (answer : Answer)
  /-- Another tab writes the keys. -/
  | otherTab (stored : Stored)
deriving DecidableEq

/-- A string that JavaScript takes as true. -/
def truthy (s : Option String) : Bool := s.getD "" != ""

/-- `clearTokens`. -/
def clearTokens : Stored := { accessToken := none, refreshToken := none, expiresAt := none }

/-- `storeTokens`. -/
def storeTokens (now : Int) (tokens : TokenPair) : Stored where
  accessToken := some tokens.accessToken
  refreshToken := some tokens.refreshToken
  expiresAt := some (now + tokens.expiresIn * 1000)

/-- `isTokenExpiringSoon`. -/
def Stored.isTokenExpiringSoon (stored : Stored) (now : Int) : Bool :=
  now > stored.expiresAt.getD 0 - 2 * 60 * 1000

namespace State

/-- The page before it is opened. -/
def start (stored : Stored) : State where
  status := .loading
  user := none
  stored := stored
  refreshing := false
  ops := []

def begin (s : State) (op : Op) : State := { s with ops := s.ops ++ [op] }

def goto (s : State) (i : Nat) (op : Op) : State := { s with ops := s.ops.set i op }

/-- `clearTokens()`, `setUser(null)` and `setStatus("unauthenticated")`. -/
def signOut (s : State) : State :=
  { s with status := .unauthenticated, user := none, stored := clearTokens }

/-- `refreshTokens`, with `doRefresh` up to its first `await`. -/
def refreshTokens (s : State) : State :=
  if s.refreshing then s
  else if truthy s.stored.refreshToken then { s.begin .refresh with refreshing := true }
  else
    -- This returns before the `try`, so no `finally` clears `refreshPromiseRef`.
    { s with status := .unauthenticated, refreshing := true }

/-- `init` after the setup status. -/
def checkTokens (s : State) (i : Nat) (now : Int) : State :=
  if truthy s.stored.accessToken then
    if s.stored.isTokenExpiringSoon now && truthy s.stored.refreshToken then s.goto i .initRefresh
    else s.goto i .me
  else { s.goto i .done with status := .unauthenticated }

/-- A function goes on after its `await`. -/
def settle (s : State) (i : Nat) (now : Int) (answer : Answer) : Option State :=
  match s.ops[i]?, answer with
  | some .setupStatus, .setupStatus true => some { s.goto i .done with status := .setupRequired }
  | some .setupStatus, .setupStatus false => some (s.checkTokens i now)
  -- The tokens stay after an error of `init`.
  | some .setupStatus, .error => some { s.goto i .done with status := .unauthenticated }
  | some .initRefresh, .tokens tokens =>
    some { s.goto i .me with stored := storeTokens now tokens }
  | some .initRefresh, .error => some { s.goto i .done with status := .unauthenticated }
  | some .me, .me user =>
    some { s.goto i .done with status := .authenticated, user := some user }
  | some .me, .error => some (s.signOut.goto i .done)
  | some .login, .tokens tokens => some { s.goto i .me with stored := storeTokens now tokens }
  | some .setup, .tokens tokens => some { s.goto i .me with stored := storeTokens now tokens }
  -- The form shows the error.
  | some .login, .error => some (s.goto i .done)
  | some .setup, .error => some (s.goto i .done)
  | some .logout, .loggedOut => some (s.signOut.goto i .done)
  | some .logout, .error => some (s.signOut.goto i .done)
  | some .refresh, .tokens tokens =>
    some { s.goto i .done with stored := storeTokens now tokens, refreshing := false }
  | some .refresh, .error => some { s.signOut.goto i .done with refreshing := false }
  | _, _ => none

def step (s : State) : Event → Option State
  | .load => some ((start s.stored).begin .setupStatus)
  | .login => some (s.begin .login)
  | .setup => some (s.begin .setup)
  | .logout => some (s.begin .logout)
  | .refreshTokens => some s.refreshTokens
  | .settle i now answer => s.settle i now answer
  | .otherTab stored => some { s with stored }

end State

end OtelHive.Ui.Session
