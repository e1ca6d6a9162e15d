import OtelHive.Auth.Store

/-!
# `OtelHive.Auth.Service`: the authentication service

`internal/auth/service.go`, for users and refresh tokens. Each function runs on the tables
and returns the tables after it. `hashToken` is the SHA-256 of the token in hexadecimal.
-/

set_option autoImplicit false

namespace OtelHive.Auth

open OtelHive.Lib
open OtelHive.Lib.GoTime (Instant)

/-- `TokenPair`. -/
structure TokenPair where
  accessToken : String
  refreshToken : String
  expiresIn : Int
deriving DecidableEq

/-- `Service`: its settings, in nanoseconds, and `bcrypt.CompareHashAndPassword`. -/
structure Service where
  accessTokenExpiry : Int
  refreshTokenExpiry : Int
  compareHashAndPassword : String → String → Bool

/-- `hashToken`. -/
def hashToken (token : String) : String := hexEncode (sha256 token.toUTF8.data.toList)

namespace Service

variable {κ : Type} (svc : Service) (col : ExpiryColumn κ) (env : AuthEnv)

/-- `IsSetupRequired`. -/
def isSetupRequired (s : Store κ) : Except AuthError Bool := do
  let count ← s.countUsers env
  pure (count == 0)

/-- The claims of the access token of a user. -/
def accessClaims (user : User) : AccessClaims where
  userID := user.id
  username := user.username
  role := user.role
  issuedAt := env.now
  expiresAt := env.now + svc.accessTokenExpiry

/-- `issueTokenPair`. -/
def issueTokenPair (user : User) (s : Store κ) : Store κ × Except AuthError TokenPair :=
  match env.signedString (svc.accessClaims env user) with
  | .error err => (s, .error (.other ("sign access token: " ++ err)))
  | .ok accessToken =>
    match env.newToken with
    | .error err => (s, .error (.other err))
    | .ok rawRefresh =>
      match s.storeRefreshToken col env user.id (hashToken rawRefresh)
          (env.now + svc.refreshTokenExpiry) with
      | .error err => (s, .error (err.wrap "store refresh token: "))
      | .ok s =>
        (s, .ok {
          accessToken
          refreshToken := rawRefresh
          expiresIn := svc.accessTokenExpiry / GoTime.second })

/-- The part of `Setup` between the count of the users and the token pair: the new user. -/
def createAdmin (username password : String) (s : Store κ) : Except AuthError (User × Store κ) :=
  match env.newID with
  | .error err => .error (.other err)
  | .ok id =>
    match env.generateFromPassword password with
    | .error err => .error (.other ("hash password: " ++ err))
    | .ok passwordHash =>
      let user : User := { id, username, passwordHash, role := .admin }
      match s.createUser env user with
      | .error err => .error (err.wrap "create user: ")
      | .ok s => .ok (user, s)

/-- `Setup`. -/
def setup (username password : String) (s : Store κ) : Store κ × Except AuthError TokenPair :=
  match isSetupRequired env s with
  | .error err => (s, .error err)
  | .ok required =>
    if !required then (s, .error .setupDone)
    else
      match createAdmin env username password s with
      | .error err => (s, .error err)
      | .ok (user, s) => svc.issueTokenPair col env user s

/-- `Login`. -/
def login (username password : String) (s : Store κ) : Store κ × Except AuthError TokenPair :=
  match s.getUserByUsername env username with
  | .error .notFound => (s, .error .invalidPassword)
  | .error err => (s, .error err)
  | .ok user =>
    if !svc.compareHashAndPassword user.passwordHash password then (s, .error .invalidPassword)
    else svc.issueTokenPair col env user s

/-- The tables after a delete whose error is dropped. -/
def ignored (s : Store κ) (result : Except AuthError (Store κ)) : Store κ :=
  match result with
  | .ok s => s
  | .error _ => s

/-- `Refresh`. -/
def refresh (refreshToken : String) (s : Store κ) : Store κ × Except AuthError TokenPair :=
  let hash := hashToken refreshToken
  match s.getRefreshToken col env hash with
  | .error .notFound => (s, .error .invalidToken)
  | .error err => (s, .error err)
  | .ok (userID, expiresAt) =>
    if expiresAt < env.now then
      -- The error of this delete is dropped too.
      (ignored s (s.deleteRefreshToken env hash), .error .tokenExpired)
    else
      match s.getUserByID env userID with
      | .error err => (s, .error err)
      | .ok user =>
        -- Rotate: delete the old token, issue a new pair.
        svc.issueTokenPair col env user (ignored s (s.deleteRefreshToken env hash))

/-- `Logout`: the error, if there is one. -/
def logout (refreshToken : String) (s : Store κ) : Store κ × Option AuthError :=
  match s.getRefreshToken col env (hashToken refreshToken) with
  | .error .notFound => (s, none)
  | .error err => (s, some err)
  | .ok (userID, _) =>
    match s.deleteUserRefreshTokens env userID with
    | .error err => (s, some err)
    | .ok s => (s, none)

end Service

/-! ### The handler and its client -/

/-- `HandleLogout`: it answers 204 whatever happens. The argument is the field of the request
body, which is empty when the body has none or cannot be read. -/
def handleLogout {κ : Type} (col : ExpiryColumn κ) (env : AuthEnv) (refreshToken : String)
    (s : Store κ) : Store κ × Nat :=
  if refreshToken = "" then (s, 204) else ((Service.logout col env refreshToken s).1, 204)

/-- The refresh token in the request that `authApi.logout` of the UI sends: the request has no
body. -/
def authApiLogoutToken : String := ""

end OtelHive.Auth
