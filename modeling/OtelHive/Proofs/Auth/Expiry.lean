import OtelHive.Auth.Service

/-!
# `OtelHive.Proofs.Auth.Expiry`: how long a refresh token works

`StoreRefreshToken` writes the expiry as text with a space between the date and the time.
The driver decodes the `DATETIME` column and renders it with a `T`, so `GetRefreshToken`
parses a text of another layout. The parse fails, its error is dropped, and every token reads
as expired at the zero time.

`worksUntil_iff` reduces the claim to one equation about the column. `worksUntil_datetime_iff`
solves it for the column of the schema, whatever the driver decodes, and
`worksUntil_text` for a column that hands the text through.
-/

set_option autoImplicit false

namespace OtelHive.Auth

open OtelHive.Lib
open OtelHive.Lib.GoTime

/-- The database refuses no call. -/
def AuthEnv.FaultFree (env : AuthEnv) : Prop := ∀ op, env.faults op = none

/-- The world lets a refresh succeed on the tables: no call of the database fails, the random
values are new, and the access token can be signed. -/
structure AuthEnv.LetsRefresh {κ : Type} (env : AuthEnv) (s : Store κ) : Prop where
  faultFree : env.FaultFree
  newID : ∃ id, env.newID = .ok id ∧ ∀ row ∈ s.refreshTokens, row.id ≠ id
  newToken : ∃ token, env.newToken = .ok token ∧
    ∀ row ∈ s.refreshTokens, row.tokenHash ≠ hashToken token
  signed : ∀ claims, ∃ accessToken, env.signedString claims = .ok accessToken

/-- The stored token of the user works until `t`: it reads back with `t`, and its refreshes
before `t` succeed. -/
structure WorksUntil {κ : Type} (svc : Service) (col : ExpiryColumn κ) (s : Store κ)
    (userID tokenHash : String) (t : Instant) : Prop where
  readBack : ∀ env : AuthEnv, env.FaultFree →
    s.getRefreshToken col env tokenHash = .ok (userID, t)
  redeemed : ∀ (env : AuthEnv) (token : String), env.LetsRefresh s → hashToken token = tokenHash →
    env.now < t → ∃ pair, (svc.refresh col env token s).2 = .ok pair

/-- A world without faults. -/
def AuthEnv.quiet (now : Instant) (newID newToken : String) : AuthEnv where
  now
  newID := .ok newID
  newToken := .ok newToken
  generateFromPassword := .ok
  signedString claims := .ok claims.userID
  faults _ := none
  foreignKeys := true

theorem AuthEnv.quiet_faultFree (now : Instant) (newID newToken : String) :
    (AuthEnv.quiet now newID newToken).FaultFree := fun _ => rfl

section Column

variable {κ : Type} {col : ExpiryColumn κ} {env : AuthEnv} {s s' : Store κ}
  {userID tokenHash : String} {t : Instant}

/-- What a successful `StoreRefreshToken` writes. -/
theorem Store.storeRefreshToken_ok
    (h : s.storeRefreshToken col env userID tokenHash t = .ok s') :
    ∃ id, env.newID = .ok id ∧ env.faults .storeRefreshToken = none ∧
      (∀ row ∈ s.refreshTokens, row.tokenHash ≠ tokenHash) ∧
      s' = { s with refreshTokens :=
        s.refreshTokens ++ [{ id, userID, tokenHash, expiresAt := col.write t }] } := by
  unfold Store.storeRefreshToken at h
  split at h
  · cases h
  · rename_i id hid
    obtain ⟨hfault, h⟩ := AuthEnv.call_eq_ok h
    split at h
    · cases h
    · split at h
      · cases h
      · rename_i hhash
        split at h
        · cases h
        · cases h
          refine ⟨id, hid, hfault, ?_, rfl⟩
          intro row hrow heq
          exact hhash (List.any_eq_true.mpr ⟨row, hrow, by simp [heq]⟩)

/-- The token that was just stored is read back through the column. -/
theorem Store.getRefreshToken_stored
    (h : s.storeRefreshToken col env userID tokenHash t = .ok s') {env' : AuthEnv}
    (hfree : env'.FaultFree) :
    s'.getRefreshToken col env' tokenHash = .ok (userID, col.read (col.write t)) := by
  obtain ⟨id, _, _, hnew, rfl⟩ := Store.storeRefreshToken_ok h
  have hnone : s.refreshTokens.find? (·.tokenHash == tokenHash) = none := by
    rw [List.find?_eq_none]
    intro row hrow
    simpa using hnew row hrow
  unfold Store.getRefreshToken
  rw [AuthEnv.call_of_faults_eq_none (hfree _)]
  dsimp only
  rw [List.find?_append, hnone]
  simp

/-- With the random values new and the database working, a token pair is issued to a user that
exists. -/
theorem Service.issueTokenPair_ok (svc : Service) {user : User} (henv : env.LetsRefresh s)
    (huser : user ∈ s.users) : ∃ pair, (svc.issueTokenPair col env user s).2 = .ok pair := by
  obtain ⟨accessToken, hsigned⟩ := henv.signed (svc.accessClaims env user)
  obtain ⟨token, htoken, hhash⟩ := henv.newToken
  obtain ⟨id, hid, hnewID⟩ := henv.newID
  have hstore : ∃ s', s.storeRefreshToken col env user.id (hashToken token)
      (env.now + svc.refreshTokenExpiry) = .ok s' := by
    unfold Store.storeRefreshToken
    rw [hid]
    dsimp only
    rw [AuthEnv.call_of_faults_eq_none (henv.faultFree _), if_neg, if_neg, if_neg]
    · exact ⟨_, rfl⟩
    · simp only [Bool.and_eq_true, Bool.not_eq_true', not_and, Bool.not_eq_false]
      intro _
      exact List.any_eq_true.mpr ⟨user, huser, by simp⟩
    · simpa using hhash
    · simpa using hnewID
  obtain ⟨s', hstore⟩ := hstore
  unfold Service.issueTokenPair
  rw [hsigned, htoken]
  dsimp only
  rw [hstore]
  exact ⟨_, rfl⟩

/-- A delete leaves fewer rows to collide with. -/
theorem AuthEnv.LetsRefresh.dropToken (h : env.LetsRefresh s) (hash : String) :
    env.LetsRefresh (s.dropToken hash) where
  faultFree := h.faultFree
  newID := by
    obtain ⟨id, hid, hnew⟩ := h.newID
    exact ⟨id, hid, fun row hrow => hnew row (List.mem_of_mem_filter hrow)⟩
  newToken := by
    obtain ⟨token, htoken, hnew⟩ := h.newToken
    exact ⟨token, htoken, fun row hrow => hnew row (List.mem_of_mem_filter hrow)⟩
  signed := h.signed

/-- A stored token works until its expiry exactly if the column reads back what it wrote. -/
theorem worksUntil_iff (svc : Service) {user : User}
    (hstore : s.storeRefreshToken col env user.id tokenHash t = .ok s')
    (huser : s.users.find? (·.id == user.id) = some user) :
    WorksUntil svc col s' user.id tokenHash t ↔ col.read (col.write t) = t := by
  constructor
  -- Any read without a fault shows what the column gives back.
  · intro hworks
    have hfree := AuthEnv.quiet_faultFree 0 "" ""
    have hread := (Store.getRefreshToken_stored hstore hfree).symm.trans
      (hworks.readBack _ hfree)
    simpa using hread
  · intro hcolumn
    have hread : ∀ env' : AuthEnv, env'.FaultFree →
        s'.getRefreshToken col env' tokenHash = .ok (user.id, t) := by
      intro env' hfree
      rw [Store.getRefreshToken_stored hstore hfree, hcolumn]
    refine ⟨hread, ?_⟩
    intro env' token henv htoken hbefore
    obtain ⟨_, _, _, _, hs'⟩ := Store.storeRefreshToken_ok hstore
    have husers : s'.users = s.users := by rw [hs']
    have hfound : s'.getUserByID env' user.id = .ok user := by
      unfold Store.getUserByID
      rw [AuthEnv.call_of_faults_eq_none (henv.faultFree _), husers, huser]
    have hmem : user ∈ s'.users := by
      rw [husers]
      exact List.mem_of_find?_eq_some huser
    have hdelete : Service.ignored s' (s'.deleteRefreshToken env' tokenHash)
        = s'.dropToken tokenHash := by
      unfold Store.deleteRefreshToken
      rw [AuthEnv.call_of_faults_eq_none (henv.faultFree _)]
      rfl
    have hnotExpired : ¬ t < env'.now := Int.not_lt.mpr (Int.le_of_lt hbefore)
    unfold Service.refresh
    dsimp only
    rw [htoken, hread env' henv.faultFree]
    dsimp only
    rw [if_neg hnotExpired, hfound]
    dsimp only
    rw [hdelete]
    exact Service.issueTokenPair_ok svc (henv.dropToken tokenHash) hmem

end Column

/-- With the column of the schema, every expiry reads back as the zero time. -/
theorem read_datetimeColumn (decode : String → Instant) (text : String) :
    (datetimeColumn decode).read text = 0 := by
  unfold datetimeColumn textColumn
  dsimp only
  rw [parseDateTime_formatRFC3339Nano]
  rfl

/-- Store a refresh token of a user that exists. With the column of the schema, and whatever
the driver decodes, the token works until its expiry if and only if that is the zero time. -/
theorem worksUntil_datetime_iff (decode : String → Instant) (svc : Service) (env : AuthEnv)
    (s s' : Store String) (user : User) (tokenHash : String) (t : Instant)
    (hstore : s.storeRefreshToken (datetimeColumn decode) env user.id tokenHash t = .ok s')
    (huser : s.users.find? (·.id == user.id) = some user) :
    WorksUntil svc (datetimeColumn decode) s' user.id tokenHash t ↔ t = 0 := by
  rw [worksUntil_iff svc hstore huser, read_datetimeColumn]
  exact eq_comm

/-- If the driver handed the text through, tokens would work until their expiry, for the whole
seconds of the years 0 to 9999. -/
theorem worksUntil_text (svc : Service) {env : AuthEnv} {s s' : Store String} {user : User}
    {tokenHash : String} {t : Instant}
    (hstore : s.storeRefreshToken (textColumn id) env user.id tokenHash t = .ok s')
    (huser : s.users.find? (·.id == user.id) = some user) (hwhole : t % second = 0)
    (hyear : 0 ≤ (dateOfDay t.dayNumber).year ∧ (dateOfDay t.dayNumber).year < 10000) :
    WorksUntil svc (textColumn id) s' user.id tokenHash t := by
  rw [worksUntil_iff svc hstore huser]
  unfold textColumn
  dsimp only [id]
  rw [parseDateTime_formatDateTime hyear, Option.getD_some]
  have hsum := Int.mul_ediv_add_emod t second
  rw [hwhole, Int.add_zero, Int.mul_comm] at hsum
  exact hsum

/-! ### A token of a user -/

/-- The tables with one user. -/
def oneUser : Store String where
  users := [⟨"u-1", "admin", "hash", .admin⟩]
  refreshTokens := []

/-- A driver that decodes the texts of the column. -/
def driverDecode (text : String) : Instant := (parseDateTime text).getD 0

/-- The tables after the token `"token"` is stored with an expiry. -/
def withToken (t : Instant) : Store String where
  users := oneUser.users
  refreshTokens := [{
    id := "r-1", userID := "u-1", tokenHash := hashToken "token", expiresAt := formatDateTime t }]

theorem storeRefreshToken_withToken (t : Instant) :
    oneUser.storeRefreshToken (datetimeColumn driverDecode) (.quiet 0 "r-1" "") "u-1"
      (hashToken "token") t = .ok (withToken t) := rfl

/-- A token that expires at the zero time works until then. -/
theorem worksUntil_datetime_zero :
    WorksUntil ⟨0, 0, fun _ _ => true⟩ (datetimeColumn driverDecode) (withToken 0) "u-1"
      (hashToken "token") 0 :=
  (worksUntil_datetime_iff driverDecode ⟨0, 0, fun _ _ => true⟩ (.quiet 0 "r-1" "") oneUser
    (withToken 0) ⟨"u-1", "admin", "hash", .admin⟩ (hashToken "token") 0
    (storeRefreshToken_withToken 0) (by decide)).mpr rfl

/-- A token that expires in 2030 does not work until then. -/
theorem expired_at_once :
    ¬ ∀ (decode : String → Instant) (svc : Service) (env : AuthEnv) (s s' : Store String)
      (user : User) (tokenHash : String) (t : Instant), t % second = 0 →
      s.storeRefreshToken (datetimeColumn decode) env user.id tokenHash t = .ok s' →
      s.users.find? (·.id == user.id) = some user →
      WorksUntil svc (datetimeColumn decode) s' user.id tokenHash t := by
  intro hall
  have hworks := hall driverDecode ⟨0, 0, fun _ _ => true⟩ (.quiet 0 "r-1" "") oneUser
    (withToken (instantOf ⟨2030, 1, 1⟩ 0 0 0 0)) ⟨"u-1", "admin", "hash", .admin⟩
    (hashToken "token") (instantOf ⟨2030, 1, 1⟩ 0 0 0 0) (by decide)
    (storeRefreshToken_withToken _) (by decide)
  have hread := hworks.readBack _ (AuthEnv.quiet_faultFree 0 "" "")
  rw [Store.getRefreshToken_stored (storeRefreshToken_withToken _)
    (AuthEnv.quiet_faultFree 0 "" ""), read_datetimeColumn] at hread
  cases hread

end OtelHive.Auth
