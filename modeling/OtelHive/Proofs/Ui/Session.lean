import OtelHive.Lib.Lists
import OtelHive.Lib.Runs
import OtelHive.Ui.Session

/-!
# `OtelHive.Proofs.Ui.Session`: when a logout is final

`logout` clears the tokens and the user when its request has settled. Other functions may be in
flight then, and a `Live` one can still sign in: it stores tokens when they arrive, or it sets the
user. An `init` that awaits the setup status is not live, because it reads the tokens afterwards.

So a logout is final exactly if no live function is in flight. Without one, only a new login, a
setup or another tab signs in again: `Quiet` says that nobody is signed in and nothing live is in
flight, and every other event keeps it. With one, an answer to it is enough.
-/

set_option autoImplicit false

namespace OtelHive.Ui.Session

open OtelHive.Lib

/-! ### The property -/

/-- The function can still sign in. -/
def Op.Live : Op → Prop
  | .initRefresh | .me | .login | .setup | .refresh => True
  | .setupStatus | .logout | .done => False

/-- The user, or another tab, signs in. -/
def Event.SignsIn : Event → Prop
  | .login | .setup | .otherTab _ => True
  | .load | .logout | .refreshTokens | .settle _ _ _ => False

/-- Nobody is signed in, and no token is left. -/
structure State.SignedOut (s : State) : Prop where
  status : s.status ≠ .authenticated
  user : s.user = none
  accessToken : s.stored.accessToken = none
  refreshToken : s.stored.refreshToken = none

/-- Nobody is signed in, and no function can change this. -/
structure State.Quiet (s : State) : Prop where
  signedOut : s.SignedOut
  notLive : ∀ op ∈ s.ops, ¬ op.Live

namespace State

/-! ### Steps -/

theorem signedOut_signOut (s : State) : s.signOut.SignedOut where
  status := by
    intro h
    cases h
  user := rfl
  accessToken := rfl
  refreshToken := rfl

theorem not_live_done : ¬ Op.Live .done := id

/-- A logout signs out, whatever the answer. -/
theorem settle_logout {s s' : State} {i : Nat} {now : Int} {answer : Answer}
    (hi : s.ops[i]? = some .logout) (hsettle : s.settle i now answer = some s') :
    s' = s.signOut.goto i .done := by
  cases answer with
  | loggedOut | error =>
    simp only [settle, hi] at hsettle
    exact (Option.some.inj hsettle).symm
  | setupStatus _ | tokens _ | me _ =>
    simp only [settle, hi] at hsettle
    cases hsettle

/-- A function that is not live ends when it goes on, with nobody signed in. -/
theorem Quiet.settle {s s' : State} {i : Nat} {now : Int} {answer : Answer} (h : s.Quiet)
    (hsettle : s.settle i now answer = some s') : s'.Quiet := by
  have hdone : ∀ op ∈ s.ops.set i .done, ¬ op.Live :=
    forall_mem_set h.notLive not_live_done i
  have hstays : ∀ status, status ≠ .authenticated →
      State.Quiet { s.goto i .done with status } := by
    intro status hstatus
    exact ⟨{ h.signedOut with status := hstatus }, hdone⟩
  cases hi : s.ops[i]? with
  | none =>
    simp only [State.settle, hi] at hsettle
    cases hsettle
  | some op =>
    have hop : ¬ op.Live := h.notLive op (List.mem_of_getElem? hi)
    cases op with
    | initRefresh | me | login | setup | refresh => exact absurd trivial hop
    | done =>
      simp only [State.settle, hi] at hsettle
      cases hsettle
    | logout =>
      rw [settle_logout hi hsettle]
      exact ⟨{ signedOut_signOut s with }, hdone⟩
    | setupStatus =>
      have htoken : truthy s.stored.accessToken = false := by
        rw [h.signedOut.accessToken]
        decide
      cases answer with
      | setupStatus setupRequired =>
        cases setupRequired with
        | true =>
          simp only [State.settle, hi] at hsettle
          cases hsettle
          exact hstays _ (by decide)
        | false =>
          -- `init` finds no token.
          simp only [State.settle, hi, checkTokens, htoken] at hsettle
          cases hsettle
          exact hstays _ (by decide)
      | error =>
        simp only [State.settle, hi] at hsettle
        cases hsettle
        exact hstays _ (by decide)
      | tokens _ | me _ | loggedOut =>
        simp only [State.settle, hi] at hsettle
        cases hsettle

/-- Without a sign-in, everything stays quiet. -/
theorem Quiet.step {s s' : State} {e : Event} (h : s.Quiet) (he : ¬ e.SignsIn)
    (hstep : s.step e = some s') : s'.Quiet := by
  cases e with
  | login | setup | otherTab _ => exact absurd trivial he
  | load =>
    cases hstep
    have hloading : AuthStatus.loading ≠ .authenticated := by decide
    refine ⟨⟨hloading, rfl, h.signedOut.accessToken, h.signedOut.refreshToken⟩, ?_⟩
    exact forall_mem_concat (fun _ hmem => absurd hmem List.not_mem_nil) fun hlive => hlive
  | logout =>
    cases hstep
    exact ⟨{ h.signedOut with }, forall_mem_concat h.notLive fun hlive => hlive⟩
  | refreshTokens =>
    cases hstep
    unfold refreshTokens
    split
    · exact h
    · -- There is no refresh token, so no request is made.
      have htoken : truthy s.stored.refreshToken = false := by
        rw [h.signedOut.refreshToken]
        decide
      rw [if_neg (by rw [htoken]; decide)]
      have hstatus : AuthStatus.unauthenticated ≠ .authenticated := by decide
      exact ⟨{ h.signedOut with status := hstatus }, h.notLive⟩
  | settle i now answer => exact h.settle hstep

/-- An answer with which a live function signs in. -/
theorem exists_signIn {s : State} {op : Op} (hmem : op ∈ s.ops) (hlive : op.Live) :
    ∃ e s', ¬ Event.SignsIn e ∧ s.step e = some s' ∧ ¬ s'.SignedOut := by
  obtain ⟨i, hi⟩ := List.mem_iff_getElem?.mp hmem
  let tokens : TokenPair := { accessToken := "access", refreshToken := "refresh", expiresIn := 900 }
  let user : MeResponse := { id := "", username := "", role := "admin", createdAt := "" }
  -- The tokens are stored.
  have htokens : ∀ s' : State, s'.stored = storeTokens 0 tokens → ¬ s'.SignedOut := by
    intro s' hstored hout
    have hnone := hout.accessToken
    rw [hstored] at hnone
    cases hnone
  cases op with
  | setupStatus | logout | done => exact hlive.elim
  | me =>
    refine ⟨.settle i 0 (.me user), _, id, by simp only [State.step, State.settle, hi]; rfl, ?_⟩
    intro hout
    exact hout.status rfl
  | initRefresh | login | setup | refresh =>
    refine ⟨.settle i 0 (.tokens tokens), _, id,
      by simp only [State.step, State.settle, hi]; rfl, ?_⟩
    exact htokens _ rfl

/-- When a logout has settled, nobody is signed in. This lasts through every run without a new
login, a setup or another tab exactly if nothing else that can sign in is in flight. -/
theorem logout_final {s s' : State} {i : Nat} {now : Int} {answer : Answer}
    (hi : s.ops[i]? = some .logout) (hstep : s.step (.settle i now answer) = some s') :
    s'.SignedOut ∧
      ((∀ es t, (∀ e ∈ es, ¬ e.SignsIn) → run step s' es = some t → t.SignedOut) ↔
        ∀ op ∈ s.ops, ¬ op.Live) := by
  have hs' : s' = s.signOut.goto i .done := settle_logout hi hstep
  subst hs'
  refine ⟨{ signedOut_signOut s with }, ?_, ?_⟩
  · intro hfinal op hmem hlive
    -- The function is still there after the logout.
    have hmem' : op ∈ (s.signOut.goto i .done).ops := by
      obtain ⟨j, hj⟩ := List.mem_iff_getElem?.mp hmem
      have hne : i ≠ j := by
        rintro rfl
        rw [hi] at hj
        cases hj
        exact hlive
      refine List.mem_iff_getElem?.mpr ⟨j, ?_⟩
      rw [← hj]
      exact List.getElem?_set_ne hne
    obtain ⟨e, t, he, hstep, hin⟩ := exists_signIn hmem' hlive
    refine hin (hfinal [e] t ?_ (run_cons_eq_some.mpr ⟨t, hstep, rfl⟩))
    intro e' he'
    rw [List.mem_singleton.mp he']
    exact he
  · intro hnone es t hes hrun
    have hquiet : (s.signOut.goto i .done).Quiet :=
      ⟨{ signedOut_signOut s with }, forall_mem_set hnone not_live_done i⟩
    have hend : t.Quiet := run_invariant_of_stepsMeet State.Quiet
      (fun s e s' h he hstep => h.step he hstep) hquiet (stepsMeet_of_forall hes _) hrun
    exact hend.signedOut

/-- A logout with a refresh in flight. -/
theorem logout_final_refresh :
    let s : State := {
      status := .authenticated
      user := some { id := "1", username := "admin", role := "admin", createdAt := "" }
      stored := storeTokens 0 { accessToken := "a", refreshToken := "r", expiresIn := 900 }
      refreshing := true
      ops := [.refresh, .logout] }
    ∃ s', s.step (.settle 1 0 .loggedOut) = some s' ∧ s'.SignedOut ∧
      ((∀ es t, (∀ e ∈ es, ¬ e.SignsIn) → run step s' es = some t → t.SignedOut) ↔
        ∀ op ∈ s.ops, ¬ op.Live) := by
  intro s
  have hstep : s.step (.settle 1 0 .loggedOut) = some (s.signOut.goto 1 .done) := rfl
  exact ⟨_, hstep, logout_final rfl hstep⟩

end State

end OtelHive.Ui.Session
