import OtelHive.Proofs.Auth.Steps

/-!
# `OtelHive.Proofs.Auth.Logout`: which refresh tokens a logout leaves

`Logout` finds the user of a token and deletes the tokens of the user. A `Refresh` or `Login`
that began earlier may store its token after that. The logout of the UI does not get that
far: its request has no body, so `HandleLogout` answers 204 and deletes nothing.

`History` follows which call stored which token, and which logouts have completed.
`revoked_along_iff`: in every state of a run the stored tokens of a user were all issued by
calls that began after the completed logouts of the user, exactly if no call stores a token
for a user after a logout that completed since the call began, and the UI logs a user out only
when no token of the user is stored.

A token is redeemed by a `Refresh` that finds its row. `refresh_of_notStored` says that it is
not redeemed otherwise.
-/

set_option autoImplicit false

namespace OtelHive.Auth

open OtelHive.Lib

variable {κ : Type}

/-! ### When a token is not stored -/

/-- No token pair is issued: the access token is not signed, a random value is missing, or the
database refuses the insert. -/
def RefusesPair (svc : Service) (env : AuthEnv) (user : User) (s : Store κ) : Prop :=
  (∃ err, env.signedString (svc.accessClaims env user) = .error err) ∨
    (∃ err, env.newToken = .error err) ∨ (∃ err, env.newID = .error err) ∨
    env.faults .storeRefreshToken ≠ none ∨
    (∃ row ∈ s.refreshTokens, env.newID = .ok row.id) ∨
    (∃ row ∈ s.refreshTokens, ∃ token, env.newToken = .ok token ∧
      row.tokenHash = hashToken token) ∨
    env.foreignKeys = true ∧ ∀ other ∈ s.users, other.id ≠ user.id

section Refuses

variable {svc : Service} {col : ExpiryColumn κ} {env : AuthEnv} {s : Store κ}

/-- The database refuses a token exactly for a missing id, for a fault, for an id or a hash that
exists, or for a user that does not. -/
theorem Store.storeRefreshToken_error_iff {userID tokenHash : String} {t : GoTime.Instant} :
    (∃ err, s.storeRefreshToken col env userID tokenHash t = .error err) ↔
      (∃ err, env.newID = .error err) ∨ env.faults .storeRefreshToken ≠ none ∨
        (∃ row ∈ s.refreshTokens, env.newID = .ok row.id) ∨
        (∃ row ∈ s.refreshTokens, row.tokenHash = tokenHash) ∨
        env.foreignKeys = true ∧ ∀ other ∈ s.users, other.id ≠ userID := by
  unfold Store.storeRefreshToken
  cases hid : env.newID with
  | error err => simp
  | ok id =>
    cases hop : env.faults .storeRefreshToken with
    | some err => simp [AuthEnv.call, hop]
    | none =>
      dsimp only
      rw [AuthEnv.call_of_faults_eq_none hop]
      -- The checks of the insert, in their order: the id, the hash, the foreign key.
      split
      · rename_i hany
        have hrow : ∃ row ∈ s.refreshTokens, row.id = id := by simpa using hany
        obtain ⟨row, hrow, heq⟩ := hrow
        exact ⟨fun _ => .inr (.inr (.inl ⟨row, hrow, by rw [heq]⟩)), fun _ => ⟨_, rfl⟩⟩
      · rename_i hany
        have hid : ¬ ∃ row ∈ s.refreshTokens,
            (Except.ok id : Except String String) = .ok row.id := by
          rintro ⟨row, hrow, heq⟩
          exact hany (List.any_eq_true.mpr ⟨row, hrow, by simp [Except.ok.inj heq]⟩)
        split
        · rename_i hhash
          have hrow : ∃ row ∈ s.refreshTokens, row.tokenHash = tokenHash := by simpa using hhash
          exact ⟨fun _ => .inr (.inr (.inr (.inl hrow))), fun _ => ⟨_, rfl⟩⟩
        · rename_i hhash
          have hrow : ¬ ∃ row ∈ s.refreshTokens, row.tokenHash = tokenHash := by simpa using hhash
          split
          · rename_i hforeign
            have hkeys : env.foreignKeys = true ∧ ∀ other ∈ s.users, other.id ≠ userID := by
              simpa using hforeign
            exact ⟨fun _ => .inr (.inr (.inr (.inr hkeys))), fun _ => ⟨_, rfl⟩⟩
          · rename_i hforeign
            have hkeys : ¬ (env.foreignKeys = true ∧ ∀ other ∈ s.users, other.id ≠ userID) := by
              simpa using hforeign
            simp only [reduceCtorEq, exists_false, false_iff, ne_eq, not_true_eq_false, false_or]
            rintro (h | h | h)
            · exact hid h
            · exact hrow h
            · exact hkeys h

/-- `issueTokenPair` fails exactly if something refuses the pair. -/
theorem Service.issueTokenPair_error_iff {user : User} :
    (∃ err, (svc.issueTokenPair col env user s).2 = .error err) ↔ RefusesPair svc env user s := by
  unfold Service.issueTokenPair RefusesPair
  cases env.signedString (svc.accessClaims env user) with
  | error err => simp
  | ok accessToken =>
    cases env.newToken with
    | error err => simp
    | ok token =>
      have hstore := @Store.storeRefreshToken_error_iff κ col env s user.id (hashToken token)
        (env.now + svc.refreshTokenExpiry)
      dsimp only
      simp only [reduceCtorEq, exists_false, false_or, Except.ok.injEq, exists_eq_left']
      rw [← hstore]
      cases s.storeRefreshToken col env user.id (hashToken token)
        (env.now + svc.refreshTokenExpiry) with
      | error err => simp
      | ok s' => simp

/-- A token without a row is not redeemed. -/
theorem Service.refresh_of_notStored {token : String} {pair : TokenPair}
    (h : ∀ row ∈ s.refreshTokens, row.tokenHash ≠ hashToken token) :
    (svc.refresh col env token s).2 ≠ .ok pair := by
  unfold Service.refresh
  cases hget : s.getRefreshToken col env (hashToken token) with
  | error err => cases err <;> simp [hget]
  | ok found =>
    obtain ⟨row, hrow, hhash, _⟩ := Store.getRefreshToken_ok hget
    exact absurd hhash (h row hrow)

end Refuses

/-! ### The history of a run -/

/-- Which call has stored a token, by its hash, and which logouts have completed. A logout is
recorded with its user and the number of calls that had begun when it completed. -/
structure History where
  issuer : String → Option Nat
  completed : List (String × Nat)

namespace History

/-- Nothing has happened yet. -/
def empty : History := ⟨fun _ => none, []⟩

/-- The call `i` has stored a token. -/
def store (g : History) (hash : String) (i : Nat) : History :=
  { g with issuer := Function.update g.issuer hash (some i) }

/-- A logout of the user has completed. -/
def complete (g : History) (userID : String) (calls : Nat) : History :=
  { g with completed := g.completed ++ [(userID, calls)] }

end History

namespace System

/-- Follow the stored tokens and the completed logouts: those of `Logout`, which has deleted
the tokens of a user, and those of the UI, which `HandleLogout` has answered. -/
def recordLogout (svc : Service) (col : ExpiryColumn κ) (g : History) (sys : System κ) :
    Event → History
  | .begin request =>
    match request with
    | .handleLogout userID refreshToken =>
      if refreshToken = authApiLogoutToken then g.complete userID (sys.calls.length + 1) else g
    | _ => g
  | .advance i env =>
    match sys.calls[i]? with
    | some ⟨_, .revoke userID⟩ =>
      match sys.store.deleteUserRefreshTokens env userID with
      | .ok _ => g.complete userID sys.calls.length
      | .error _ => g
    | some ⟨_, .issue user⟩ =>
      match (svc.issueTokenPair col env user sys.store).2 with
      | .ok pair => g.store (hashToken pair.refreshToken) i
      | .error _ => g
    | _ => g

/-- Once a logout has completed, every stored token of its user was issued by a call that began
later. -/
def Revoked (p : System κ × History) : Prop :=
  ∀ userID calls, (userID, calls) ∈ p.2.completed → ∀ row ∈ p.1.store.refreshTokens,
    row.userID = userID → ∃ i, p.2.issuer row.tokenHash = some i ∧ calls ≤ i

/-- No call stores a token for a user after a logout of the user that has completed since the
call began, and the UI logs a user out only when no token of the user is stored. -/
def RevokesInTime (svc : Service) (p : System κ × History) : Event → Prop
  | .begin request => ∀ userID, request = .handleLogout userID authApiLogoutToken →
      ∀ row ∈ p.1.store.refreshTokens, row.userID ≠ userID
  | .advance i env => ∀ request user, p.1.calls[i]? = some ⟨request, .issue user⟩ →
      RefusesPair svc env user p.1.store ∨ ∀ calls, (user.id, calls) ∈ p.2.completed → calls ≤ i

/-- The stored tokens were issued by calls that have begun. -/
def IssuersBegun (p : System κ × History) : Prop :=
  ∀ hash i, p.2.issuer hash = some i → i < p.1.calls.length

/-! ### What one step does -/

/-- What a step does to the stored tokens and to the history. -/
inductive LogoutStep (svc : Service) (p : System κ × History) :
    Event → System κ × History → Prop where
  /-- A token is stored. -/
  | stores (i : Nat) (env : AuthEnv) (request : Request) (user : User) (row : RefreshToken κ)
    (calls : List Call) (found : p.1.calls[i]? = some ⟨request, .issue user⟩)
    (accepted : ¬ RefusesPair svc env user p.1.store) (owner : row.userID = user.id)
    (new : ∀ other ∈ p.1.store.refreshTokens, other.tokenHash ≠ row.tokenHash)
    (length : calls.length = p.1.calls.length) :
    LogoutStep svc p (.advance i env)
      (⟨{ p.1.store with refreshTokens := p.1.store.refreshTokens ++ [row] }, calls⟩,
        p.2.store row.tokenHash i)
  /-- `Logout` deletes the tokens of a user. -/
  | revokes (i : Nat) (env : AuthEnv) (request : Request) (userID : String) (calls : List Call)
    (found : p.1.calls[i]? = some ⟨request, .revoke userID⟩)
    (length : calls.length = p.1.calls.length) :
    LogoutStep svc p (.advance i env)
      (⟨p.1.store.dropUserTokens userID, calls⟩, p.2.complete userID p.1.calls.length)
  /-- The handler answers the UI. -/
  | answers (userID : String) (calls : List Call)
    (length : calls.length = p.1.calls.length + 1) :
    LogoutStep svc p (.begin (.handleLogout userID authApiLogoutToken))
      (⟨p.1.store, calls⟩, p.2.complete userID (p.1.calls.length + 1))
  /-- Any other step. It meets the condition. -/
  | other (e : Event) (s : Store κ) (calls : List Call) (inTime : RevokesInTime svc p e)
    (rows : s.refreshTokens.Sublist p.1.store.refreshTokens)
    (length : p.1.calls.length ≤ calls.length) :
    LogoutStep svc p e (⟨s, calls⟩, p.2)

variable {svc : Service} {col : ExpiryColumn κ} {p q : System κ × History}

/-- A call begins. -/
theorem logoutStep_begin {request : Request}
    (h : withGhost (step svc col) (recordLogout svc col) p (.begin request) = some q) :
    LogoutStep svc p (.begin request) q := by
  by_cases hui : ∃ userID, request = .handleLogout userID authApiLogoutToken
  · obtain ⟨userID, rfl⟩ := hui
    cases h
    exact .answers userID _ (by simp)
  · -- Any other call that begins completes no logout.
    have hcond : RevokesInTime svc p (.begin request) := by
      intro userID heq
      exact absurd ⟨userID, heq⟩ hui
    have hsame : recordLogout svc col p.2 p.1 (.begin request) = p.2 := by
      cases request with
      | handleLogout userID refreshToken =>
        have hne : refreshToken ≠ authApiLogoutToken := by
          intro heq
          exact hui ⟨userID, by rw [heq]⟩
        exact if_neg hne
      | _ => rfl
    cases h
    dsimp only
    rw [hsame]
    exact .other _ _ _ hcond (.refl _) (by simp)

/-- A statement of a call runs. -/
theorem logoutStep_advance {i : Nat} {env : AuthEnv}
    (h : withGhost (step svc col) (recordLogout svc col) p (.advance i env) = some q) :
    LogoutStep svc p (.advance i env) q := by
  obtain ⟨hstep, hghost⟩ := withGhost_eq_some.mp h
  obtain ⟨sys', g'⟩ := q
  dsimp only at hstep hghost
  subst hghost
  obtain ⟨⟨request, stage⟩, hcall, hdone⟩ :
      ∃ call, p.1.calls[i]? = some call ∧ call.stage.isDone = false := by
    obtain ⟨call, _, _, hcall, hdone, _⟩ := step_advance hstep
    exact ⟨call, hcall, hdone⟩
  simp only [step, hcall, hdone, Bool.false_eq_true, if_false] at hstep
  cases stage with
  | issue user =>
    simp only [advance] at hstep
    simp only [recordLogout, hcall]
    cases hpair : svc.issueTokenPair col env user p.1.store with
    | mk store result =>
      rw [hpair] at hstep
      cases result with
      | error err =>
        cases hstep
        -- A pair that fails has stored nothing, and the condition allows it.
        have hsame : store = p.1.store := Service.issueTokenPair_eq_error hpair
        subst hsame
        refine .other _ _ _ ?_ (.refl _) (by simp)
        intro request' user' hcall'
        rw [hcall] at hcall'
        cases hcall'
        exact .inl (Service.issueTokenPair_error_iff.mp ⟨err, congrArg Prod.snd hpair⟩)
      | ok pair =>
        cases hstep
        obtain ⟨_, row, howner, hhash, hnew, rfl⟩ := Service.issueTokenPair_eq_ok hpair
        dsimp only
        rw [← hhash]
        refine .stores i env request user row _ hcall ?_ howner hnew (by simp)
        intro hrefuses
        obtain ⟨err, herr⟩ := Service.issueTokenPair_error_iff.mpr hrefuses
        rw [hpair] at herr
        cases herr
  | revoke userID =>
    simp only [advance] at hstep
    simp only [recordLogout, hcall]
    cases hdelete : p.1.store.deleteUserRefreshTokens env userID with
    | error err =>
      rw [hdelete] at hstep
      cases hstep
      refine .other _ _ _ ?_ (.refl _) (by simp)
      intro request' user' hcall'
      rw [hcall] at hcall'
      cases hcall'
    | ok store =>
      rw [hdelete] at hstep
      cases hstep
      obtain ⟨_, hstore⟩ := AuthEnv.call_eq_ok hdelete
      cases hstore
      exact .revokes i env request userID _ hcall (by simp)
  | _ =>
    simp only [recordLogout, hcall]
    cases hstep
    refine .other _ _ _ ?_ ((advance_effect hdone).rows_sublist ?_) (by simp)
    · intro request' user' hcall'
      rw [hcall] at hcall'
      cases hcall'
    · intro user hissue
      cases hissue

theorem logoutStep_of_step {e : Event}
    (h : withGhost (step svc col) (recordLogout svc col) p e = some q) : LogoutStep svc p e q := by
  cases e with
  | begin request => exact logoutStep_begin h
  | advance i env => exact logoutStep_advance h

/-- The issuers of the stored tokens have begun, after any step. -/
theorem IssuersBegun.step {e : Event} (h : IssuersBegun p) (hstep : LogoutStep svc p e q) :
    IssuersBegun q := by
  intro hash j hissuer
  cases hstep with
  | stores i env request user row calls found accepted owner new length =>
    show j < calls.length
    rw [length]
    by_cases heq : hash = row.tokenHash
    -- The call of the step issued the new token. The issuers of the others have not changed.
    · subst heq
      have hji : i = j := by simpa [History.store] using hissuer
      rw [← hji]
      exact lt_length_of_getElem? found
    · have hold : p.2.issuer hash = some j := by
        simpa [History.store, Function.update_of_ne heq] using hissuer
      exact h hash j hold
  | revokes i env request userID calls found length =>
    have hlt := h hash j hissuer
    show j < calls.length
    omega
  | answers userID calls length =>
    have hlt := h hash j hissuer
    show j < calls.length
    omega
  | other _ s calls inTime rows length =>
    have hlt := h hash j hissuer
    show j < calls.length
    omega

/-- Fewer rows and the same history. -/
theorem Revoked.of_subset (h : Revoked p) {s : Store κ} {calls : List Call}
    (hrows : ∀ row ∈ s.refreshTokens, row ∈ p.1.store.refreshTokens) :
    Revoked (⟨s, calls⟩, p.2) :=
  fun userID n hcompleted row hrow howner => h userID n hcompleted row (hrows row hrow) howner

/-- A logout that completes revokes exactly if no token of its user is stored that a call issued
which began before. -/
theorem revoked_complete_iff (h : Revoked p) {s : Store κ} {calls : List Call} {userID : String}
    {n : Nat} (hrows : ∀ row ∈ s.refreshTokens, row ∈ p.1.store.refreshTokens)
    (hbegun : ∀ hash i, p.2.issuer hash = some i → i < n) :
    Revoked (⟨s, calls⟩, p.2.complete userID n) ↔
      ∀ row ∈ s.refreshTokens, row.userID ≠ userID := by
  have hmem : ∀ entry, entry ∈ (p.2.complete userID n).completed ↔
      entry ∈ p.2.completed ∨ entry = (userID, n) := by
    intro entry
    show entry ∈ p.2.completed ++ [(userID, n)] ↔ _
    rw [List.mem_append, List.mem_singleton]
  constructor
  -- Every issuer has begun, so a token of the user would be one that is still live.
  · intro hrevoked row hrow howner
    obtain ⟨i, hissuer, hle⟩ :=
      hrevoked userID n ((hmem _).mpr (.inr rfl)) row hrow howner
    have hlt := hbegun row.tokenHash i hissuer
    omega
  · intro hnone userID' n' hcompleted row hrow howner
    rcases (hmem _).mp hcompleted with hcompleted | heq
    · exact h userID' n' hcompleted row (hrows row hrow) howner
    · cases heq
      exact absurd howner (hnone row hrow)

/-- A step leads to revoked tokens exactly if it is in time. -/
theorem revoked_step (hbegun : IssuersBegun p) (h : Revoked p) {e : Event}
    (hstep : LogoutStep svc p e q) : Revoked q ↔ RevokesInTime svc p e := by
  cases hstep with
  | stores i env request user row calls found accepted owner new length =>
    -- The new row is the call's own, so the property asks that the call began late enough.
    have hself : (p.2.store row.tokenHash i).issuer row.tokenHash = some i := by
      simp [History.store]
    have hcond : RevokesInTime svc p (.advance i env) ↔
        ∀ n, (user.id, n) ∈ p.2.completed → n ≤ i := by
      constructor
      · intro hinTime
        exact (hinTime request user found).resolve_left accepted
      · intro hlater request' user' hcall
        rw [found] at hcall
        cases hcall
        exact .inr hlater
    rw [hcond]
    constructor
    · intro hrevoked n hcompleted
      have hrow : row ∈ p.1.store.refreshTokens ++ [row] :=
        List.mem_append_right _ List.mem_cons_self
      obtain ⟨j, hissuer, hle⟩ := hrevoked user.id n hcompleted row hrow owner
      rw [hself] at hissuer
      cases hissuer
      exact hle
    · intro hlater userID n hcompleted other hother howner
      rcases List.mem_append.mp hother with hother | hother
      · obtain ⟨j, hissuer, hle⟩ := h userID n hcompleted other hother howner
        refine ⟨j, ?_, hle⟩
        -- The hash is unique in the table, so the issuers of the other rows stay.
        show Function.update p.2.issuer row.tokenHash (some i) other.tokenHash = some j
        rw [Function.update_of_ne (new other hother)]
        exact hissuer
      · rw [List.mem_singleton.mp hother] at howner ⊢
        refine ⟨i, hself, hlater n ?_⟩
        rw [← owner, howner]
        exact hcompleted
  | revokes i env request userID calls found length =>
    have hcond : RevokesInTime svc p (.advance i env) := by
      intro request' user hcall
      rw [found] at hcall
      cases hcall
    have hrows : ∀ row ∈ (p.1.store.dropUserTokens userID).refreshTokens,
        row ∈ p.1.store.refreshTokens := fun row hrow => List.mem_of_mem_filter hrow
    -- The delete has removed every row of the user.
    have hnone : ∀ row ∈ (p.1.store.dropUserTokens userID).refreshTokens, row.userID ≠ userID := by
      intro row hrow
      simpa using List.of_mem_filter hrow
    exact ⟨fun _ => hcond, fun _ => (revoked_complete_iff h hrows hbegun).mpr hnone⟩
  | answers userID calls length =>
    -- The handler deletes nothing, so the user must have no token already.
    have hlater : ∀ hash i, p.2.issuer hash = some i → i < p.1.calls.length + 1 :=
      fun hash i hissuer => Nat.lt_succ_of_lt (hbegun hash i hissuer)
    rw [revoked_complete_iff h (fun _ hrow => hrow) hlater]
    constructor
    · intro hnone userID' heq
      cases heq
      exact hnone
    · intro hinTime
      exact hinTime userID rfl
  | other _ s calls inTime rows length =>
    exact ⟨fun _ => inTime, fun _ => h.of_subset fun row hrow => rows.subset hrow⟩

/-- For every database and every run of calls from it, in any order of their statements and with
any faults: in every state of the run, the stored tokens of a user who has logged out were all
issued by calls that began after the logout completed, if and only if every step is in time. -/
theorem revoked_along_iff (svc : Service) (col : ExpiryColumn κ) (store : Store κ)
    (es : List Event) (hrun : (run (step svc col) (System.start store) es).isSome) :
    Along (withGhost (step svc col) (recordLogout svc col)) Revoked
        (System.start store, .empty) es ↔
      StepsMeet (withGhost (step svc col) (recordLogout svc col)) (RevokesInTime svc)
        (System.start store, .empty) es := by
  have hbegun : IssuersBegun (System.start store, .empty) := by
    intro hash i hissuer
    cases hissuer
  have hrevoked : Revoked (System.start store, .empty) := by
    intro userID n hcompleted
    cases hcompleted
  have hrun' : (run (withGhost (step svc col) (recordLogout svc col))
      (System.start store, .empty) es).isSome := by
    rwa [isSome_run_withGhost]
  exact along_iff_stepsMeet (D := fun _ => True)
    (fun _ _ _ hinv hstep => hinv.step (logoutStep_of_step hstep))
    (fun _ _ _ _ hinv hP hstep => revoked_step hinv hP (logoutStep_of_step hstep))
    (fun _ _ => trivial) hbegun hrevoked hrun'

/-! ### A logout that a refresh outlives -/

/-- A user without tokens. -/
def noSession : Store GoTime.Instant := { oneSession with refreshTokens := [] }

/-- The UI logs the user out, who has no token, and then the user logs in. -/
def nextLogin : List Event :=
  [.begin (.handleLogout "u-1" authApiLogoutToken), .begin (.login "admin" "hash"),
    .advance 1 (.quiet 0 "" ""), .advance 1 (.quiet 0 "r-1" "token-1")]

/-- A `Refresh` has read its token when the user logs out. It stores the new one later. -/
def lateRefresh : List Event :=
  [.begin (.refresh "token"), .advance 0 (.quiet 0 "" ""), .advance 0 (.quiet 0 "" ""),
    .begin (.logout "token"), .advance 1 (.quiet 0 "" ""), .advance 1 (.quiet 0 "" ""),
    .advance 0 (.quiet 0 "" ""), .advance 0 (.quiet 0 "r-2" "token-1")]

/-- The token of the next login is one that was issued later. -/
theorem revoked_nextLogin :
    Along (withGhost (step settings storedColumn) (recordLogout settings storedColumn)) Revoked
      (start noSession, .empty) nextLogin := by
  refine (revoked_along_iff settings storedColumn noSession nextLogin (by decide +kernel)).mpr ?_
  refine ⟨fun _ _ row hrow => (by cases hrow), ?_⟩
  intro _ h
  cases h
  refine ⟨fun _ heq => (by cases heq), ?_⟩
  intro _ h
  cases h
  refine ⟨fun _ _ hcall => (by cases hcall), ?_⟩
  intro _ h
  cases h
  refine ⟨?_, fun _ _ => trivial⟩
  intro _ _ hcall
  cases hcall
  refine .inr fun n hcompleted => ?_
  have hn : n = 1 := congrArg Prod.snd (List.mem_singleton.mp hcompleted)
  omega

theorem isSome_lateRefresh :
    (run (withGhost (step settings storedColumn) (recordLogout settings storedColumn))
      (start oneSession, .empty) lateRefresh).isSome := by decide +kernel

/-- The token that the older call has issued, after the logout. -/
theorem lateRefresh_stored :
    ∃ q, run (withGhost (step settings storedColumn) (recordLogout settings storedColumn))
        (start oneSession, .empty) lateRefresh = some q ∧ ("u-1", 2) ∈ q.2.completed ∧
      ∃ row ∈ q.1.store.refreshTokens, row.userID = "u-1" ∧ q.2.issuer row.tokenHash = some 0 := by
  refine ⟨_, (Option.some_get isSome_lateRefresh).symm, by decide +kernel,
    ⟨"r-2", "u-1", hashToken "token-1", 7 * 24 * 3600 * GoTime.second⟩, ?_, rfl, ?_⟩
  · decide +kernel
  · decide +kernel

/-- A logout completes, and afterwards a call that began before it stores a token. -/
theorem not_revoked :
    ¬ ∀ (svc : Service) (store : Store GoTime.Instant) (es : List Event),
      (run (step svc storedColumn) (start store) es).isSome →
      Along (withGhost (step svc storedColumn) (recordLogout svc storedColumn)) Revoked
        (start store, .empty) es := by
  intro hall
  have halong := hall settings oneSession lateRefresh (by decide +kernel)
  obtain ⟨q, hrun, hcompleted, row, hrow, howner, hfirst⟩ := lateRefresh_stored
  obtain ⟨i, hissuer, hle⟩ := halong.last hrun "u-1" 2 hcompleted row hrow howner
  rw [hfirst] at hissuer
  cases hissuer
  exact absurd hle (by decide)

end System

end OtelHive.Auth
