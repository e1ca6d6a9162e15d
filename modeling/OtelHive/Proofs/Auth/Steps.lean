import OtelHive.Auth.Concurrent
import OtelHive.Lib.Lists
import OtelHive.Lib.Runs
import OtelHive.Proofs.Auth.Expiry

/-!
# `OtelHive.Proofs.Auth.Steps`: what one statement of a call does

`Effect` lists what `advance` can do to the tables and to the stage of a call, with what it
has read or checked. `advance_effect` is the only proof that looks into `advance`: the
invariants of the interleaved calls are case analyses over `Effect`.

The `uninterrupted` theorems connect the stages with the functions of `OtelHive.Auth.Service`:
a call that nobody interrupts ends with their result and their tables.
-/

set_option autoImplicit false

namespace OtelHive.Auth

open OtelHive.Lib

section Effects

variable {κ : Type}

/-- What the next statement of a call can do. -/
inductive Effect (env : AuthEnv) (s : Store κ) : Stage → Store κ → Stage → Prop where
  /-- The call fails, and the tables stay as they are. -/
  | fail (stage : Stage) (err : AuthError) : Effect env s stage s (.done (.failed err))
  /-- `Setup` counts no user. -/
  | count (username password : String) (empty : s.users = []) :
    Effect env s (.countUsers username password) s (.createUser username password)
  /-- `Setup` inserts a user, whose id is new. -/
  | create (username password : String) (user : User)
    (newID : ∀ other ∈ s.users, other.id ≠ user.id) (name : user.username = username) :
    Effect env s (.createUser username password) { s with users := s.users ++ [user] } (.issue user)
  /-- `Login` finds the user. -/
  | login (username password : String) (user : User)
    (found : s.users.find? (·.username == username) = some user) :
    Effect env s (.readLogin username password) s (.issue user)
  /-- `Refresh` finds an expired token. -/
  | expired (hash : String) : Effect env s (.readToken hash) s (.deleteExpired hash)
  /-- `Refresh` finds the token. -/
  | readToken (row : RefreshToken κ) (found : row ∈ s.refreshTokens) :
    Effect env s (.readToken row.tokenHash) s (.readUser row.tokenHash row.userID)
  /-- `Refresh` deletes an expired token. -/
  | deleteExpired (hash : String) :
    Effect env s (.deleteExpired hash) (s.dropToken hash) (.done (.failed .tokenExpired))
  /-- `Refresh` finds the user of the token. -/
  | readUser (hash : String) (user : User) (found : user ∈ s.users) :
    Effect env s (.readUser hash user.id) s (.rotate hash user)
  /-- `Refresh` goes on although the database refused the delete. -/
  | rotateRefused (hash : String) (user : User) (refused : env.faults .deleteRefreshToken ≠ none) :
    Effect env s (.rotate hash user) s (.issue user)
  /-- `Refresh` deletes the old token. -/
  | rotate (hash : String) (user : User) :
    Effect env s (.rotate hash user) (s.dropToken hash) (.issue user)
  /-- A token pair is issued. Its refresh token is the new one. -/
  | issue (user : User) (pair : TokenPair) (row : RefreshToken κ)
    (token : env.newToken = .ok pair.refreshToken) (owner : row.userID = user.id)
    (hash : row.tokenHash = hashToken pair.refreshToken) :
    Effect env s (.issue user) { s with refreshTokens := s.refreshTokens ++ [row] }
      (.done (.issued user.id pair))
  /-- `Logout` does not find the token. -/
  | notStored (hash : String) : Effect env s (.readOwner hash) s (.done .loggedOut)
  /-- `Logout` finds the token. -/
  | readOwner (row : RefreshToken κ) (found : row ∈ s.refreshTokens) :
    Effect env s (.readOwner row.tokenHash) s (.revoke row.userID)
  /-- `Logout` deletes the tokens of the user. -/
  | revoke (userID : String) :
    Effect env s (.revoke userID) (s.dropUserTokens userID) (.done .loggedOut)

/-- Only the end of `issueTokenPair` stores a token. -/
theorem Effect.rows_sublist {env : AuthEnv} {s s' : Store κ} {stage stage' : Stage}
    (h : Effect env s stage s' stage') (hother : ∀ user, stage ≠ .issue user) :
    s'.refreshTokens.Sublist s.refreshTokens := by
  cases h with
  | issue user => exact absurd rfl (hother user)
  | deleteExpired | rotate | revoke => exact List.filter_sublist
  | _ => exact .refl _

variable {svc : Service} {col : ExpiryColumn κ} {env : AuthEnv} {s : Store κ}

/-- A row that `GetRefreshToken` returns. -/
theorem Store.getRefreshToken_ok {hash userID : String} {expiresAt : GoTime.Instant}
    (h : s.getRefreshToken col env hash = .ok (userID, expiresAt)) :
    ∃ row ∈ s.refreshTokens, row.tokenHash = hash ∧ row.userID = userID := by
  obtain ⟨_, h⟩ := AuthEnv.call_eq_ok h
  split at h
  · rename_i row hrow
    cases h
    exact ⟨row, List.mem_of_find?_eq_some hrow, by simpa using List.find?_some hrow, rfl⟩
  · cases h

/-- What `createAdmin` does when it succeeds. -/
theorem Service.createAdmin_ok {username password : String} {user : User} {s' : Store κ}
    (h : Service.createAdmin env username password s = .ok (user, s')) :
    (∀ other ∈ s.users, other.id ≠ user.id) ∧ user.username = username ∧
      s' = { s with users := s.users ++ [user] } := by
  unfold Service.createAdmin at h
  split at h
  · cases h
  · split at h
    · cases h
    · dsimp only at h
      split at h
      · cases h
      · rename_i s'' hcreate
        cases h
        obtain ⟨_, hcreate⟩ := AuthEnv.call_eq_ok hcreate
        split at hcreate
        · cases hcreate
        · rename_i hid
          split at hcreate
          · cases hcreate
          · cases hcreate
            refine ⟨?_, rfl, rfl⟩
            intro other hother heq
            exact hid (List.any_eq_true.mpr ⟨other, hother, by simp [heq]⟩)

/-- What `issueTokenPair` does when it succeeds. -/
theorem Service.issueTokenPair_eq_ok {user : User} {s' : Store κ} {pair : TokenPair}
    (h : svc.issueTokenPair col env user s = (s', .ok pair)) :
    env.newToken = .ok pair.refreshToken ∧ ∃ row : RefreshToken κ, row.userID = user.id ∧
      row.tokenHash = hashToken pair.refreshToken ∧
      (∀ other ∈ s.refreshTokens, other.tokenHash ≠ row.tokenHash) ∧
      s' = { s with refreshTokens := s.refreshTokens ++ [row] } := by
  unfold Service.issueTokenPair at h
  split at h
  · cases h
  · split at h
    · cases h
    · rename_i token htoken
      split at h
      · cases h
      · rename_i s'' hstore
        cases h
        obtain ⟨_, _, _, hnew, hs'⟩ := Store.storeRefreshToken_ok hstore
        exact ⟨htoken, _, rfl, rfl, hnew, hs'⟩

/-- A failed `issueTokenPair` leaves the tables alone. -/
theorem Service.issueTokenPair_eq_error {user : User} {s' : Store κ} {err : AuthError}
    (h : svc.issueTokenPair col env user s = (s', .error err)) : s' = s := by
  unfold Service.issueTokenPair at h
  split at h
  · cases h
    rfl
  · split at h
    · cases h
      rfl
    · split at h
      · cases h
        rfl
      · cases h

/-- A delete whose error is dropped. -/
theorem Service.ignored_delete (env : AuthEnv) (s : Store κ) (hash : String) :
    Service.ignored s (s.deleteRefreshToken env hash)
      = if env.faults .deleteRefreshToken = none then s.dropToken hash else s := by
  unfold Store.deleteRefreshToken
  by_cases hop : env.faults .deleteRefreshToken = none
  · rw [AuthEnv.call_of_faults_eq_none hop, if_pos hop]
    rfl
  · obtain ⟨err, herr⟩ := Option.ne_none_iff_exists'.mp hop
    rw [if_neg hop]
    simp [AuthEnv.call, herr, Service.ignored]

/-- Every step of a call is one of the effects. -/
theorem advance_effect {stage : Stage} (h : stage.isDone = false) :
    Effect env s stage (advance svc col env s stage).1 (advance svc col env s stage).2 := by
  cases stage with
  | countUsers username password =>
    simp only [advance, Stage.ofResult]
    split
    · exact .fail _ _
    · rename_i required hrequired
      obtain ⟨count, hcount, hzero⟩ := bind_eq_ok hrequired
      obtain ⟨_, hcount⟩ := AuthEnv.call_eq_ok hcount
      cases hcount
      cases hzero
      split
      · exact .fail _ _
      · rename_i hempty
        exact .count username password (by simpa using hempty)
  | createUser username password =>
    simp only [advance]
    split
    · exact .fail _ _
    · rename_i user s' hcreate
      obtain ⟨hid, hname, rfl⟩ := Service.createAdmin_ok hcreate
      exact .create username password user hid hname
  | readLogin username password =>
    simp only [advance]
    split
    · exact .fail _ _
    · exact .fail _ _
    · rename_i user huser
      obtain ⟨_, hfind⟩ := AuthEnv.call_eq_ok huser
      split
      · exact .fail _ _
      · split at hfind
        · cases hfind
          exact .login username password user (by assumption)
        · cases hfind
  | readToken hash =>
    simp only [advance]
    split
    · exact .fail _ _
    · exact .fail _ _
    · rename_i userID expiresAt hget
      obtain ⟨row, hrow, rfl, rfl⟩ := Store.getRefreshToken_ok hget
      split
      · exact .expired row.tokenHash
      · exact .readToken row hrow
  | deleteExpired hash =>
    -- The error of this delete is dropped, so a refused one is a call that fails.
    simp only [advance]
    rw [Service.ignored_delete]
    split
    · exact .deleteExpired hash
    · exact .fail _ _
  | readUser hash userID =>
    simp only [advance, Stage.ofResult]
    split
    · exact .fail _ _
    · rename_i user huser
      obtain ⟨_, hfind⟩ := AuthEnv.call_eq_ok huser
      split at hfind
      · cases hfind
        rename_i hfind
        have hid : user.id = userID := by simpa using List.find?_some hfind
        subst hid
        exact .readUser hash user (List.mem_of_find?_eq_some hfind)
      · cases hfind
  | rotate hash user =>
    -- The error is dropped here as well, and the call goes on with the row still there.
    simp only [advance]
    rw [Service.ignored_delete]
    split
    · exact .rotate hash user
    · exact .rotateRefused hash user (by assumption)
  | issue user =>
    simp only [advance]
    split
    · rename_i s' err hissue
      rw [Service.issueTokenPair_eq_error hissue]
      exact .fail _ _
    · rename_i s' pair hissue
      obtain ⟨htoken, row, howner, hhash, _, rfl⟩ := Service.issueTokenPair_eq_ok hissue
      exact .issue user pair row htoken howner hhash
  | readOwner hash =>
    simp only [advance]
    split
    · -- `Logout` of an unknown token succeeds.
      exact .notStored hash
    · exact .fail _ _
    · rename_i userID expiresAt hget
      obtain ⟨row, hrow, rfl, rfl⟩ := Store.getRefreshToken_ok hget
      exact .readOwner row hrow
  | revoke userID =>
    simp only [advance]
    split
    · exact .fail _ _
    · rename_i s' hdelete
      obtain ⟨_, hdelete⟩ := AuthEnv.call_eq_ok hdelete
      cases hdelete
      exact .revoke userID
  | done outcome => cases h

end Effects

/-! ### Calls that nobody interrupts -/

section Uninterrupted

variable {κ : Type} (svc : Service) (col : ExpiryColumn κ) (env : AuthEnv)

/-- Advance a call until it has ended, for `n` statements at most. -/
def drive : Nat → Store κ × Stage → Store κ × Stage
  | 0, p => p
  | n + 1, (s, stage) => if stage.isDone then (s, stage) else drive n (advance svc col env s stage)

/-- The outcome of a call is the result of a function. -/
def Outcome.Reports : Outcome → Except AuthError TokenPair → Prop
  | .issued _ pair, .ok pair' => pair = pair'
  | .failed err, .error err' => err = err'
  | _, _ => False

/-- The call has ended with the tables and the result of a function. -/
def Ends (p : Store κ × Stage) (result : Store κ × Except AuthError TokenPair) : Prop :=
  p.1 = result.1 ∧ ∃ outcome, p.2 = .done outcome ∧ outcome.Reports result.2

theorem drive_done (n : Nat) (s : Store κ) (outcome : Outcome) :
    drive svc col env n (s, .done outcome) = (s, .done outcome) := by
  cases n <;> rfl

theorem drive_succ {stage : Stage} (h : stage.isDone = false) (n : Nat) (s : Store κ) :
    drive svc col env (n + 1) (s, stage) = drive svc col env n (advance svc col env s stage) := by
  simp [drive, h]

/-- The end of `Setup`, `Login` and `Refresh`. -/
theorem drive_issue (n : Nat) (s : Store κ) (user : User) :
    Ends (drive svc col env (n + 1) (s, .issue user)) (svc.issueTokenPair col env user s) := by
  rw [drive_succ svc col env rfl]
  simp only [advance]
  rcases svc.issueTokenPair col env user s with ⟨s', err | pair⟩
  · dsimp only
    rw [drive_done]
    exact ⟨rfl, _, rfl, rfl⟩
  · dsimp only
    rw [drive_done]
    exact ⟨rfl, _, rfl, rfl⟩

/-- `Setup`, statement by statement. -/
theorem uninterrupted_setup (username password : String) (s : Store κ) :
    Ends (drive svc col env 3 (s, (Request.setup username password).first))
      (svc.setup col env username password s) := by
  unfold Service.setup
  rw [show (Request.setup username password).first = .countUsers username password from rfl,
    drive_succ svc col env rfl]
  simp only [advance, Stage.ofResult]
  rcases Service.isSetupRequired env s with err | (_ | _)
  · exact ⟨rfl, _, rfl, rfl⟩
  · exact ⟨rfl, _, rfl, rfl⟩
  · simp only [Bool.not_true, Bool.false_eq_true, if_false]
    rw [drive_succ svc col env rfl]
    simp only [advance]
    rcases Service.createAdmin env username password s with err | ⟨user, s'⟩
    · exact ⟨rfl, _, rfl, rfl⟩
    · exact drive_issue svc col env 0 s' user

/-- `Login`, statement by statement. -/
theorem uninterrupted_login (username password : String) (s : Store κ) :
    Ends (drive svc col env 2 (s, (Request.login username password).first))
      (svc.login col env username password s) := by
  unfold Service.login
  rw [show (Request.login username password).first = .readLogin username password from rfl,
    drive_succ svc col env rfl]
  simp only [advance]
  cases s.getUserByUsername env username with
  | error err => cases err <;> exact ⟨rfl, _, rfl, rfl⟩
  | ok user =>
    dsimp only
    cases svc.compareHashAndPassword user.passwordHash password with
    | false => exact ⟨rfl, _, rfl, rfl⟩
    | true => exact drive_issue svc col env 0 s user

/-- `Refresh`, statement by statement. -/
theorem uninterrupted_refresh (refreshToken : String) (s : Store κ) :
    Ends (drive svc col env 4 (s, (Request.refresh refreshToken).first))
      (svc.refresh col env refreshToken s) := by
  unfold Service.refresh
  rw [show (Request.refresh refreshToken).first = .readToken (hashToken refreshToken) from rfl,
    drive_succ svc col env rfl]
  simp only [advance]
  rcases s.getRefreshToken col env (hashToken refreshToken) with err | ⟨userID, expiresAt⟩
  · cases err <;> exact ⟨rfl, _, rfl, rfl⟩
  · dsimp only
    by_cases hexpired : expiresAt < env.now
    · rw [if_pos hexpired, if_pos hexpired]
      exact ⟨rfl, _, rfl, rfl⟩
    · rw [if_neg hexpired, if_neg hexpired, drive_succ svc col env rfl]
      simp only [advance, Stage.ofResult]
      cases s.getUserByID env userID with
      | error err => exact ⟨rfl, _, rfl, rfl⟩
      | ok user =>
        dsimp only
        rw [drive_succ svc col env rfl]
        exact drive_issue svc col env 0 _ user

/-- `Logout`, statement by statement. -/
theorem uninterrupted_logout (refreshToken : String) (s : Store κ) :
    drive svc col env 2 (s, (Request.logout refreshToken).first)
      = ((Service.logout col env refreshToken s).1,
        .done (match (Service.logout col env refreshToken s).2 with
          | none => .loggedOut
          | some err => .failed err)) := by
  unfold Service.logout
  rw [show (Request.logout refreshToken).first = .readOwner (hashToken refreshToken) from rfl,
    drive_succ svc col env rfl]
  simp only [advance]
  rcases s.getRefreshToken col env (hashToken refreshToken) with err | ⟨userID, expiresAt⟩
  · cases err <;> rfl
  · dsimp only
    rw [drive_succ svc col env rfl]
    simp only [advance]
    cases s.deleteUserRefreshTokens env userID <;> rfl

end Uninterrupted

/-! ### Calls -/

/-- The stages that a request can be at. -/
def Request.Reaches : Request → Stage → Prop
  | .setup username password, stage =>
    stage = .countUsers username password ∨ stage = .createUser username password ∨
      (∃ user, stage = .issue user) ∨ (∃ userID pair, stage = .done (.issued userID pair)) ∨
      ∃ err, stage = .done (.failed err)
  | .login username password, stage =>
    stage = .readLogin username password ∨
      (∃ user, stage = .issue user) ∨ (∃ userID pair, stage = .done (.issued userID pair)) ∨
      ∃ err, stage = .done (.failed err)
  | .refresh refreshToken, stage =>
    stage = .readToken (hashToken refreshToken) ∨ stage = .deleteExpired (hashToken refreshToken) ∨
      (∃ userID, stage = .readUser (hashToken refreshToken) userID) ∨
      (∃ user, stage = .rotate (hashToken refreshToken) user) ∨
      (∃ user, stage = .issue user) ∨ (∃ userID pair, stage = .done (.issued userID pair)) ∨
      ∃ err, stage = .done (.failed err)
  | .logout refreshToken, stage =>
    stage = .readOwner (hashToken refreshToken) ∨ (∃ userID, stage = .revoke userID) ∨
      stage = .done .loggedOut ∨ ∃ err, stage = .done (.failed err)
  | .handleLogout _ refreshToken, stage =>
    stage = .readOwner (hashToken refreshToken) ∨ (∃ userID, stage = .revoke userID) ∨
      stage = .done .noContent

theorem Request.reaches_first (request : Request) : request.Reaches request.first := by
  cases request with
  | handleLogout userID refreshToken =>
    simp only [Request.Reaches, Request.first]
    split <;> simp
  | _ => simp [Request.Reaches, Request.first]

/-- A statement leads from a stage of the request to another one of it. -/
theorem Request.reaches_effect {κ : Type} {env : AuthEnv} {s s' : Store κ} {stage stage' : Stage}
    (h : Effect env s stage s' stage') {request : Request} (hstage : request.Reaches stage) :
    request.Reaches (request.finish stage') := by
  cases request <;> cases h <;> simp_all [Request.Reaches, Request.finish]

/-- A call goes on as its statement says, or it is the handler and answers 204. -/
theorem Request.finish_cases (request : Request) (stage : Stage) :
    request.finish stage = stage ∨ request.finish stage = .done .noContent := by
  unfold Request.finish
  split
  · exact .inr rfl
  · exact .inl rfl

/-- Every call is at a stage of its request. -/
def System.WellFormed {κ : Type} (sys : System κ) : Prop :=
  ∀ (i : Nat) (call : Call), sys.calls[i]? = some call → call.request.Reaches call.stage

namespace System

variable {κ : Type} {svc : Service} {col : ExpiryColumn κ} {sys sys' : System κ}

/-- What a step of a call does. -/
theorem step_advance {i : Nat} {env : AuthEnv}
    (h : step svc col sys (.advance i env) = some sys') :
    ∃ call stage store, sys.calls[i]? = some call ∧ call.stage.isDone = false ∧
      Effect env sys.store call.stage store stage ∧
      sys' = ⟨store, sys.calls.set i ⟨call.request, call.request.finish stage⟩⟩ := by
  simp only [step] at h
  split at h
  · cases h
  · rename_i call hcall
    split at h
    · cases h
    · rename_i hdone
      have hdone' : call.stage.isDone = false := by simpa using hdone
      cases h
      exact ⟨call, _, _, hcall, hdone', advance_effect hdone', rfl⟩

theorem wellFormed_start (store : Store κ) : (start store).WellFormed := by
  intro i call hcall
  simp [start] at hcall

theorem wellFormed_step {e : Event} (hwf : sys.WellFormed) (h : step svc col sys e = some sys') :
    sys'.WellFormed := by
  intro j call hcall
  cases e with
  | begin request =>
    cases h
    rcases getElem?_concat_iff.mp hcall with ⟨_, rfl⟩ | hcall
    · exact request.reaches_first
    · exact hwf j call hcall
  | advance i env =>
    obtain ⟨call₀, stage, store, hcall₀, _, heffect, rfl⟩ := step_advance h
    rcases (getElem?_set_iff (lt_length_of_getElem? hcall₀) _).mp hcall with ⟨_, rfl⟩ | ⟨_, hcall⟩
    · exact Request.reaches_effect heffect (hwf i call₀ hcall₀)
    · exact hwf j call hcall

/-! ### A service with one session -/

/-- A column that returns the instant that was stored. -/
def storedColumn : ExpiryColumn GoTime.Instant := ⟨id, id⟩

/-- The settings of the service: 15 minutes and 7 days. -/
def settings : Service := ⟨15 * 60 * GoTime.second, 7 * 24 * 3600 * GoTime.second, (· == ·)⟩

/-- A user with a live token. -/
def oneSession : Store GoTime.Instant where
  users := [⟨"u-1", "admin", "hash", .admin⟩]
  refreshTokens := [⟨"r-1", "u-1", hashToken "token", 10⟩]

end System

end OtelHive.Auth
