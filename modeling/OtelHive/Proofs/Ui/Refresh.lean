import Mathlib.Order.Nat
import OtelHive.Lib.Lists
import OtelHive.Lib.Runs
import OtelHive.Ui.Refresh

/-!
# `OtelHive.Proofs.Ui.Refresh`: when the silent refresh deadlocks

`doRefresh` asks for new tokens with `simpleRequest`, which calls `refreshTokens` after a 401.
While the refresh is in flight, that returns its own promise. So after a 401 for the refresh
request, the refresh waits on the request, the request on the call and the call on the refresh.

`Inv` holds in every state: at most one refresh is in flight, it is the current one, a call
waits on it, and a call that its own request has made waits on it too. Under the invariant,
`NoDeadlock` is a fact about the request of the refresh in flight alone (`Clear`):
`noDeadlock_iff`. A step keeps it exactly if that request is not answered with a 401, nor with
the 503 that makes it a promise that never settles (`Answered`).
-/

set_option autoImplicit false

namespace OtelHive.Ui

open OtelHive.Lib

namespace State

/-! ### The property and the condition -/

/-- No promises wait on one another, and every call of `refreshTokens` settles once its fetches
have settled: when its refresh does not await the network and every call that can go on has gone
on, it has settled. -/
structure NoDeadlock (s : State) : Prop where
  acyclic : ∀ p, ¬ Relation.TransGen s.Waits p p
  settles : ∀ r d : Nat, s.calls[r]? = some (.awaits d) →
    (∀ i : Nat, s.refreshes[d]? = some (.awaits i) → ¬ s.Fetching i) →
    ∀ ps s', run resume s ps = some s' → s'.Drained → s'.Settled (.call r)

/-- The request of a refresh in flight is not answered with a 401 while `refreshTokens` is
registered, and not with the 503 for a setup. -/
def Answered (s : State) : Event → Prop
  | .answer i (.response resp) => .awaits i ∈ s.refreshes →
      ¬ (resp.status = 401 ∧ s.registered = true) ∧
      ¬ (resp.status = 503 ∧ resp.setupRequired = true)
  | _ => True

instance (s : State) : ∀ e, Decidable (s.Answered e)
  | .answer i (.response resp) => inferInstanceAs <| Decidable <|
      .awaits i ∈ s.refreshes → ¬ (resp.status = 401 ∧ s.registered = true) ∧
        ¬ (resp.status = 503 ∧ resp.setupRequired = true)
  | .answer _ .networkError | .request | .refreshTokens | .register | .store _ | .resume _ =>
    .isTrue trivial

/-- What the request of a refresh in flight can be at. -/
inductive Serving (s : State) (d i : Nat) : Prop where
  | fetch (h : s.requests[i]? = some .fetch)
  /-- It waits on a call that waits on the refresh. -/
  | refresh (r : Nat) (h : s.requests[i]? = some (.refresh r))
    (hcall : s.calls[r]? = some (.awaits d))
  | settled (h : s.Settled (.request i))
  | never (h : s.requests[i]? = some .never)

/-- What holds in every state. -/
structure Inv (s : State) : Prop where
  current : ∀ d, s.refreshPromiseRef = some d → d < s.refreshes.length
  target : ∀ r d : Nat, s.calls[r]? = some (.awaits d) → d < s.refreshes.length
  inFlight : ∀ d i : Nat, s.refreshes[d]? = some (.awaits i) → s.refreshPromiseRef = some d ∧
    (∃ r : Nat, s.calls[r]? = some (.awaits d)) ∧ s.Serving d i

/-- The request of a refresh in flight awaits its fetch or has settled. -/
def Clear (s : State) : Prop :=
  ∀ d i : Nat, s.refreshes[d]? = some (.awaits i) →
    s.requests[i]? = some .fetch ∨ s.Settled (.request i)

/-! ### Waiting -/

/-- The request of a refresh in flight, then refreshes, calls and the other requests. -/
def rank (s : State) : Promise → Nat
  | .request i => if .awaits i ∈ s.refreshes then 0 else 3
  | .refresh _ => 1
  | .call _ => 2

theorem Clear.rank_lt {s : State} (h : s.Clear) (p q : Promise) (hwaits : s.Waits p q) :
    s.rank q < s.rank p := by
  cases hwaits with
  | request i r awaits unsettled =>
    -- No refresh waits on a request that awaits a call, so its rank is 3.
    have hordinary : .awaits i ∉ s.refreshes := by
      intro hmem
      obtain ⟨d, hd⟩ := List.mem_iff_getElem?.mp hmem
      rcases h d i hd with hfetch | ⟨tokens, hresolved⟩ | hrejected
      · rw [awaits] at hfetch
        cases hfetch
      · rw [awaits] at hresolved
        cases hresolved
      · rw [awaits] at hrejected
        cases hrejected
    simp [rank, hordinary]
  | call r d awaits unsettled => simp [rank]
  | refresh d i awaits unsettled =>
    have hserves : .awaits i ∈ s.refreshes := List.mem_of_getElem? awaits
    simp [rank, hserves]

/-! ### Calls that go on -/

/-- What a call does when it goes on: a request retries or fails with the token of its call, a
call takes the token of its refresh, and a refresh ends with what its request has come to. -/
inductive Resumed (s : State) : Promise → State → Prop where
  | request (i r : Nat) (token : Option String) (awaits : s.requests[i]? = some (.refresh r))
    (done : s.calls[r]? = some (.done token)) :
    Resumed s (.request i) (s.setRequest i (if truthy token then .retry else .rejected))
  | call (r d : Nat) (token : Option String) (awaits : s.calls[r]? = some (.awaits d))
    (done : s.refreshes[d]? = some (.done token)) :
    Resumed s (.call r) { s with calls := s.calls.set r (.done token) }
  | resolved (d i : Nat) (tokens : Option Tokens) (awaits : s.refreshes[d]? = some (.awaits i))
    (done : s.requests[i]? = some (.resolved tokens)) :
    Resumed s (.refresh d) (s.finishRefresh d tokens)
  | rejected (d i : Nat) (awaits : s.refreshes[d]? = some (.awaits i))
    (done : s.requests[i]? = some .rejected) :
    Resumed s (.refresh d) (s.finishRefresh d none)

theorem Resumed.resume_eq {s s' : State} {p : Promise} (h : s.Resumed p s') :
    s.resume p = some s' := by
  cases h with
  | request i r token awaits done => simp only [resume, awaits, done]
  | call r d token awaits done => simp only [resume, awaits, done]
  | resolved d i tokens awaits done => simp only [resume, awaits, done]
  | rejected d i awaits done => simp only [resume, awaits, done]

theorem resumed_of_resume {s s' : State} {p : Promise} (h : s.resume p = some s') :
    s.Resumed p s' := by
  cases p with
  | request i =>
    simp only [resume] at h
    split at h
    · rename_i r awaits
      split at h
      · rename_i token done
        cases h
        exact .request i r token awaits done
      · cases h
    · cases h
  | call r =>
    simp only [resume] at h
    split at h
    · rename_i d awaits
      split at h
      · rename_i token done
        cases h
        exact .call r d token awaits done
      · cases h
    · cases h
  | refresh d =>
    simp only [resume] at h
    split at h
    · rename_i i awaits
      split at h
      · rename_i tokens done
        cases h
        exact .resolved d i tokens awaits done
      · rename_i done
        cases h
        exact .rejected d i awaits done
      · cases h
    · cases h

@[simp] theorem finishRefresh_requests (s : State) (d : Nat) (tokens : Option Tokens) :
    (s.finishRefresh d tokens).requests = s.requests := by
  cases tokens <;> rfl

@[simp] theorem finishRefresh_calls (s : State) (d : Nat) (tokens : Option Tokens) :
    (s.finishRefresh d tokens).calls = s.calls := by
  cases tokens <;> rfl

@[simp] theorem finishRefresh_refreshPromiseRef (s : State) (d : Nat) (tokens : Option Tokens) :
    (s.finishRefresh d tokens).refreshPromiseRef = none := by
  cases tokens <;> rfl

theorem finishRefresh_refreshes (s : State) (d : Nat) (tokens : Option Tokens) :
    (s.finishRefresh d tokens).refreshes =
      s.refreshes.set d (.done (tokens.bind Tokens.accessToken)) := by
  cases tokens <;> rfl

/-- Only a request that awaits a call goes on. -/
theorem Resumed.requests_eq {s s' : State} {p : Promise} (h : s.Resumed p s') {i : Nat}
    (hi : ∀ r, s.requests[i]? ≠ some (.refresh r)) : s'.requests[i]? = s.requests[i]? := by
  cases h with
  | request j r token awaits done =>
    -- The request that goes on is another one, because `i` awaits no call.
    have hne : j ≠ i := by
      rintro rfl
      exact hi r awaits
    exact List.getElem?_set_ne hne
  | call r d token awaits done => rfl
  | resolved d j tokens awaits done => rw [finishRefresh_requests]
  | rejected d j awaits done => rw [finishRefresh_requests]

/-- A call goes on once, with the token of its refresh. -/
theorem Resumed.calls_cases {s s' : State} {p : Promise} (h : s.Resumed p s') {r d : Nat}
    (hr : s.calls[r]? = some (.awaits d)) :
    s'.calls[r]? = some (.awaits d) ∨
      ∃ token, s.refreshes[d]? = some (.done token) ∧ s'.calls[r]? = some (.done token) := by
  cases h with
  | request i r' token awaits done => exact .inl hr
  | call r' d' token awaits done =>
    by_cases heq : r' = r
    · subst heq
      rw [awaits] at hr
      cases hr
      refine .inr ⟨token, done, ?_⟩
      exact List.getElem?_set_self (lt_length_of_getElem? awaits)
    · left
      rw [← hr]
      exact List.getElem?_set_ne heq
  | resolved d' i tokens awaits done =>
    rw [finishRefresh_calls]
    exact .inl hr
  | rejected d' i awaits done =>
    rw [finishRefresh_calls]
    exact .inl hr

theorem Resumed.calls_done {s s' : State} {p : Promise} (h : s.Resumed p s') {r : Nat}
    {token : Option String} (hr : s.calls[r]? = some (.done token)) :
    s'.calls[r]? = some (.done token) := by
  cases h with
  | request i r' token' awaits done => exact hr
  | call r' d' token' awaits done =>
    have hne : r' ≠ r := by
      rintro rfl
      rw [awaits] at hr
      cases hr
    rw [← hr]
    exact List.getElem?_set_ne hne
  | resolved d' i tokens awaits done =>
    rw [finishRefresh_calls]
    exact hr
  | rejected d' i awaits done =>
    rw [finishRefresh_calls]
    exact hr

/-- A refresh goes on once its request has settled. -/
theorem Resumed.refreshes_cases {s s' : State} {p : Promise} (h : s.Resumed p s') {d : Nat}
    {stage : RefreshStage} (hd : s.refreshes[d]? = some stage) :
    s'.refreshes[d]? = some stage ∨
      (∃ i, stage = .awaits i ∧ s.Settled (.request i)) ∧
        ∃ token, s'.refreshes[d]? = some (.done token) := by
  -- The two ends of a refresh differ in the tokens only.
  have hfinish : ∀ d' i tokens, s.refreshes[d']? = some (.awaits i) → s.Settled (.request i) →
      (s.finishRefresh d' tokens).refreshes[d]? = some stage ∨
        (∃ i, stage = .awaits i ∧ s.Settled (.request i)) ∧
          ∃ token, (s.finishRefresh d' tokens).refreshes[d]? = some (.done token) := by
    intro d' i tokens awaits hsettled
    rw [finishRefresh_refreshes]
    by_cases heq : d' = d
    · subst heq
      rw [awaits] at hd
      cases hd
      refine .inr ⟨⟨i, rfl, hsettled⟩, tokens.bind Tokens.accessToken, ?_⟩
      exact List.getElem?_set_self (lt_length_of_getElem? awaits)
    · left
      rw [← hd]
      exact List.getElem?_set_ne heq
  cases h with
  | request i r token awaits done => exact .inl hd
  | call r d' token awaits done => exact .inl hd
  | resolved d' i tokens awaits done => exact hfinish d' i tokens awaits (.inl ⟨tokens, done⟩)
  | rejected d' i awaits done => exact hfinish d' i none awaits (.inr done)

/-! ### Nothing goes on for ever -/

/-- What is left to do: the awaits that `resume` can end. -/
def pending (s : State) : Nat :=
  s.requests.countP (fun | .refresh _ => true | _ => false)
    + s.calls.countP (fun | .awaits _ => true | _ => false)
    + s.refreshes.countP (fun | .awaits _ => true | _ => false)

theorem Resumed.pending_lt {s s' : State} {p : Promise} (h : s.Resumed p s') :
    s'.pending < s.pending := by
  cases h with
  | request i r token awaits done =>
    have hlt := countP_set_lt (p := fun | .refresh _ => true | _ => false)
      (b := if truthy token then RequestStage.retry else .rejected) awaits rfl
      (by cases truthy token <;> rfl)
    simp only [pending, setRequest]
    omega
  | call r d token awaits done =>
    have hlt := countP_set_lt (p := fun | .awaits _ => true | _ => false)
      (b := CallStage.done token) awaits rfl rfl
    simp only [pending]
    omega
  | resolved d i tokens awaits done =>
    have hlt := countP_set_lt (p := fun | .awaits _ => true | _ => false)
      (b := RefreshStage.done (tokens.bind Tokens.accessToken)) awaits rfl rfl
    simp only [pending, finishRefresh_requests, finishRefresh_calls, finishRefresh_refreshes]
    omega
  | rejected d i awaits done =>
    have hlt := countP_set_lt (p := fun | .awaits _ => true | _ => false)
      (b := RefreshStage.done none) awaits rfl rfl
    simp only [pending, finishRefresh_requests, finishRefresh_calls, finishRefresh_refreshes]
    exact Nat.add_lt_add_left hlt _

/-- From every state, the calls that can go on come to an end. -/
theorem exists_drained (s : State) : ∃ ps s', run resume s ps = some s' ∧ s'.Drained := by
  -- Each continuation lowers `pending`.
  induction hn : s.pending using Nat.strongRecOn generalizing s with
  | ind n ih =>
    by_cases hdrained : s.Drained
    · exact ⟨[], s, rfl, hdrained⟩
    · obtain ⟨p, hp⟩ := Classical.not_forall.mp hdrained
      obtain ⟨s₁, hs₁⟩ := Option.ne_none_iff_exists'.mp hp
      have hlt : s₁.pending < n := by
        rw [← hn]
        exact (resumed_of_resume hs₁).pending_lt
      obtain ⟨ps, s', hrun, hend⟩ := ih _ hlt s₁ rfl
      exact ⟨p :: ps, s', run_cons_eq_some.mpr ⟨s₁, hs₁, hrun⟩, hend⟩

/-! ### The property and the request of the refresh in flight -/

/-- The refresh has its result, or only its own code is left. -/
def Ready (s : State) (d : Nat) : Prop :=
  (∃ token, s.refreshes[d]? = some (.done token)) ∨
    ∃ i, s.refreshes[d]? = some (.awaits i) ∧ s.Settled (.request i)

theorem Resumed.settled {s s' : State} {p : Promise} (h : s.Resumed p s') {i : Nat}
    (hi : s.Settled (.request i)) : s'.Settled (.request i) := by
  have hkept : s'.requests[i]? = s.requests[i]? := by
    apply h.requests_eq
    intro r hr
    rcases hi with ⟨tokens, hresolved⟩ | hrejected
    · rw [hr] at hresolved
      cases hresolved
    · rw [hr] at hrejected
      cases hrejected
  simp only [Settled, hkept]
  exact hi

theorem Resumed.ready {s s' : State} {p : Promise} (h : s.Resumed p s') {d : Nat}
    (hd : s.Ready d) : s'.Ready d := by
  rcases hd with ⟨token, hdone⟩ | ⟨i, hawaits, hsettled⟩
  · rcases h.refreshes_cases hdone with hkept | ⟨⟨i, hstage, _⟩, _⟩
    · exact .inl ⟨token, hkept⟩
    · cases hstage
  · rcases h.refreshes_cases hawaits with hkept | ⟨_, hdone⟩
    · exact .inr ⟨i, hkept, h.settled hsettled⟩
    · exact .inl hdone

/-- A call of a refresh that is ready has settled when no call can go on. -/
theorem Ready.settles {s s' : State} {r d : Nat} {ps : List Promise} (hd : s.Ready d)
    (hr : s.calls[r]? = some (.awaits d)) (hrun : run resume s ps = some s')
    (hend : s'.Drained) : s'.Settled (.call r) := by
  have hinv : s'.Ready d ∧ (s'.calls[r]? = some (.awaits d) ∨ s'.Settled (.call r)) := by
    apply run_invariant
      (fun s : State => s.Ready d ∧ (s.calls[r]? = some (.awaits d) ∨ s.Settled (.call r))) _
      ⟨hd, .inl hr⟩ hrun
    intro s p s' h hstep
    have hresumed := resumed_of_resume hstep
    refine ⟨hresumed.ready h.1, ?_⟩
    rcases h.2 with hcall | ⟨token, hdone⟩
    · rcases hresumed.calls_cases hcall with hkept | ⟨token, _, hdone⟩
      · exact .inl hkept
      · exact .inr ⟨token, hdone⟩
    · exact .inr ⟨token, hresumed.calls_done hdone⟩
  -- What could still go on contradicts `Drained`.
  have hstuck : ∀ p s'', ¬ s'.Resumed p s'' := by
    intro p s'' h
    have hnone := hend p
    rw [h.resume_eq] at hnone
    cases hnone
  rcases hinv with ⟨⟨token, hdone⟩ | ⟨i, hawaits, ⟨tokens, hresolved⟩ | hrejected⟩, hcall⟩
  · rcases hcall with hcall | hsettled
    · exact absurd (.call r d token hcall hdone) (hstuck _ _)
    · exact hsettled
  · exact absurd (.resolved d i tokens hawaits hresolved) (hstuck _ _)
  · exact absurd (.rejected d i hawaits hrejected) (hstuck _ _)

/-- While the request of the refresh in flight awaits its fetch or has settled, nothing is
deadlocked. -/
theorem Inv.noDeadlock {s : State} (hinv : s.Inv) (h : s.Clear) : s.NoDeadlock where
  acyclic := by
    intro p hcycle
    have hlower : Relation.TransGen (· > ·) (s.rank p) (s.rank p) :=
      Relation.TransGen.lift s.rank h.rank_lt p p hcycle
    rw [Relation.transGen_eq_self] at hlower
    exact Nat.lt_irrefl _ hlower
  settles := by
    intro r d hr hanswered ps s' hrun hend
    have hready : s.Ready d := by
      have hlt := hinv.target r d hr
      cases hstage : s.refreshes[d] with
      | done token => exact .inl ⟨token, List.getElem?_eq_some_iff.mpr ⟨hlt, hstage⟩⟩
      | awaits i =>
        have hawaits : s.refreshes[d]? = some (.awaits i) :=
          List.getElem?_eq_some_iff.mpr ⟨hlt, hstage⟩
        rcases h d i hawaits with hfetch | hsettled
        · exact absurd (.inl hfetch) (hanswered i hawaits)
        · exact .inr ⟨i, hawaits, hsettled⟩
    exact hready.settles hr hrun hend

/-- A request that is at a call of its own refresh: the refresh waits on the request, the
request on the call and the call on the refresh. -/
theorem cycle {s : State} {d i r : Nat} (hrefresh : s.refreshes[d]? = some (.awaits i))
    (hrequest : s.requests[i]? = some (.refresh r)) (hcall : s.calls[r]? = some (.awaits d)) :
    Relation.TransGen s.Waits (.refresh d) (.refresh d) := by
  have hunsettled_request : ¬ s.Settled (.request i) := by
    rintro (⟨tokens, hresolved⟩ | hrejected)
    · rw [hrequest] at hresolved
      cases hresolved
    · rw [hrequest] at hrejected
      cases hrejected
  have hunsettled_call : ¬ s.Settled (.call r) := by
    rintro ⟨token, hdone⟩
    rw [hcall] at hdone
    cases hdone
  have hunsettled_refresh : ¬ s.Settled (.refresh d) := by
    rintro ⟨token, hdone⟩
    rw [hrefresh] at hdone
    cases hdone
  have hfirst : s.Waits (.refresh d) (.request i) := .refresh d i hrefresh hunsettled_request
  have hsecond : s.Waits (.request i) (.call r) := .request i r hrequest hunsettled_call
  have hthird : s.Waits (.call r) (.refresh d) := .call r d hcall hunsettled_refresh
  exact ((Relation.TransGen.single hfirst).tail hsecond).tail hthird

/-- A call whose refresh awaits a promise that never settles does not settle. -/
theorem not_settled_of_never {s s' : State} {d i r : Nat} {ps : List Promise}
    (hrefresh : s.refreshes[d]? = some (.awaits i)) (hrequest : s.requests[i]? = some .never)
    (hcall : s.calls[r]? = some (.awaits d)) (hrun : run resume s ps = some s') :
    ¬ s'.Settled (.call r) := by
  -- No continuation moves the three promises.
  have hinv : s'.refreshes[d]? = some (.awaits i) ∧ s'.requests[i]? = some .never ∧
      s'.calls[r]? = some (.awaits d) := by
    apply run_invariant (fun s : State => s.refreshes[d]? = some (.awaits i) ∧
      s.requests[i]? = some .never ∧ s.calls[r]? = some (.awaits d)) _
      ⟨hrefresh, hrequest, hcall⟩ hrun
    rintro s p s' ⟨hrefresh, hrequest, hcall⟩ hstep
    have hresumed := resumed_of_resume hstep
    refine ⟨?_, ?_, ?_⟩
    · rcases hresumed.refreshes_cases hrefresh with hkept | ⟨⟨j, hstage, hsettled⟩, _⟩
      · exact hkept
      · cases hstage
        simp [Settled, hrequest] at hsettled
    · rw [hresumed.requests_eq, hrequest]
      intro r' hr'
      rw [hrequest] at hr'
      cases hr'
    · rcases hresumed.calls_cases hcall with hkept | ⟨token, hdone, _⟩
      · exact hkept
      · rw [hrefresh] at hdone
        cases hdone
  rintro ⟨token, hdone⟩
  rw [hinv.2.2] at hdone
  cases hdone

theorem Inv.clear {s : State} (hinv : s.Inv) (h : s.NoDeadlock) : s.Clear := by
  intro d i hawaits
  obtain ⟨_, ⟨r, hcall⟩, hserving⟩ := hinv.inFlight d i hawaits
  cases hserving with
  | fetch hfetch => exact .inl hfetch
  | refresh r' hrequest hcall' => exact absurd (cycle hawaits hrequest hcall') (h.acyclic _)
  | settled hsettled => exact .inr hsettled
  | never hnever =>
    -- There is no cycle, but a call waits on the refresh and does not settle.
    exfalso
    have hanswered : ∀ j : Nat, s.refreshes[d]? = some (.awaits j) → ¬ s.Fetching j := by
      intro j hj hfetching
      rw [hawaits] at hj
      cases hj
      simp [Fetching, hnever] at hfetching
    obtain ⟨ps, s', hrun, hend⟩ := s.exists_drained
    exact not_settled_of_never hawaits hnever hcall hrun
      (h.settles r d hcall hanswered ps s' hrun hend)

theorem Inv.noDeadlock_iff {s : State} (h : s.Inv) : s.NoDeadlock ↔ s.Clear :=
  ⟨h.clear, h.noDeadlock⟩

/-! ### The invariant -/

theorem Serving.isSome {s : State} {d i : Nat} (h : s.Serving d i) :
    ∃ stage, s.requests[i]? = some stage := by
  cases h with
  | fetch hfetch => exact ⟨_, hfetch⟩
  | refresh r hrefresh hcall => exact ⟨_, hrefresh⟩
  | settled hsettled =>
    rcases hsettled with ⟨tokens, hresolved⟩ | hrejected
    · exact ⟨_, hresolved⟩
    · exact ⟨_, hrejected⟩
  | never hnever => exact ⟨_, hnever⟩

/-- What the request is at does not change when the request does not and calls that wait on the
refresh go on waiting. -/
theorem Serving.mono {s s' : State} {d i : Nat} (h : s.Serving d i)
    (hrequest : s'.requests[i]? = s.requests[i]?)
    (hcalls : ∀ r : Nat, s.calls[r]? = some (.awaits d) → s'.calls[r]? = some (.awaits d)) :
    s'.Serving d i := by
  cases h with
  | fetch hfetch => exact .fetch (hrequest.trans hfetch)
  | refresh r hrefresh hcall => exact .refresh r (hrequest.trans hrefresh) (hcalls r hcall)
  | settled hsettled =>
    apply Serving.settled
    simp only [Settled, hrequest]
    exact hsettled
  | never hnever => exact .never (hrequest.trans hnever)

theorem inv_start (registered : Bool) (storage : Storage) : (start registered storage).Inv where
  current := by
    intro d h
    cases h
  target := by
    intro r d h
    cases h
  inFlight := by
    intro d i h
    cases h

/-- What a call of `refreshTokens` does: it joins the current refresh, or begins one, which asks
for new tokens or, without a refresh token, is done. -/
inductive Refreshed (s : State) : State → Prop where
  | joins (d : Nat) (current : s.refreshPromiseRef = some d) :
    Refreshed s { s with calls := s.calls ++ [.awaits d] }
  | asks (current : s.refreshPromiseRef = none) :
    Refreshed s { s with
      requests := s.requests ++ [.fetch]
      calls := s.calls ++ [.awaits s.refreshes.length]
      refreshes := s.refreshes ++ [.awaits s.requests.length]
      refreshPromiseRef := some s.refreshes.length }
  | noToken (current : s.refreshPromiseRef = none) :
    Refreshed s { s with
      calls := s.calls ++ [.awaits s.refreshes.length]
      refreshes := s.refreshes ++ [.done none]
      refreshPromiseRef := some s.refreshes.length }

theorem refreshed (s : State) : s.Refreshed s.refreshTokens.1 := by
  cases href : s.refreshPromiseRef with
  | some d =>
    have hjoins := Refreshed.joins d href
    simpa only [refreshTokens, href] using hjoins
  | none =>
    simp only [refreshTokens, href, doRefresh]
    split
    · exact .asks href
    · exact .noToken href

theorem refreshTokens_snd (s : State) : s.refreshTokens.2 = s.calls.length := by
  cases href : s.refreshPromiseRef <;> simp only [refreshTokens, href, doRefresh]
  split <;> rfl

theorem Refreshed.requests_kept {s s' : State} (h : s.Refreshed s') {i : Nat}
    {stage : RequestStage} (hi : s.requests[i]? = some stage) : s'.requests[i]? = some stage := by
  cases h with
  | joins d current => exact hi
  | asks current => exact getElem?_append_of_getElem? hi _
  | noToken current => exact hi

theorem Refreshed.refreshes_kept {s s' : State} (h : s.Refreshed s') {d : Nat}
    {stage : RefreshStage} (hd : s.refreshes[d]? = some stage) :
    s'.refreshes[d]? = some stage := by
  cases h with
  | joins d' current => exact hd
  | asks current => exact getElem?_append_of_getElem? hd _
  | noToken current => exact getElem?_append_of_getElem? hd _

/-- The new call waits on the current refresh. -/
theorem Refreshed.call {s s' : State} (h : s.Refreshed s') :
    ∃ d, s'.refreshPromiseRef = some d ∧ s'.calls[s.calls.length]? = some (.awaits d) := by
  cases h with
  | joins d current => exact ⟨d, current, List.getElem?_concat_length⟩
  | asks current => exact ⟨s.refreshes.length, rfl, List.getElem?_concat_length⟩
  | noToken current => exact ⟨s.refreshes.length, rfl, List.getElem?_concat_length⟩

/-- A refresh in flight was in flight, or it is the new one, whose request awaits its fetch. -/
theorem Refreshed.awaits_cases {s s' : State} (h : s.Refreshed s') {d i : Nat}
    (hd : s'.refreshes[d]? = some (.awaits i)) :
    s.refreshes[d]? = some (.awaits i) ∨
      i = s.requests.length ∧ s'.requests[i]? = some .fetch := by
  cases h with
  | joins d' current => exact .inl hd
  | asks current =>
    rcases getElem?_concat_iff.mp hd with ⟨_, hnew⟩ | hold
    · cases hnew
      exact .inr ⟨rfl, List.getElem?_concat_length⟩
    · exact .inl hold
  | noToken current =>
    rcases getElem?_concat_iff.mp hd with ⟨_, hnew⟩ | hold
    · cases hnew
    · exact .inl hold

theorem Inv.refreshed {s s' : State} (h : s.Inv) (hs : s.Refreshed s') : s'.Inv := by
  -- Without a current refresh none is in flight.
  have hidle : s.refreshPromiseRef = none → ∀ d i : Nat, s.refreshes[d]? ≠ some (.awaits i) := by
    intro hnone d i hawaits
    have hcurrent := (h.inFlight d i hawaits).1
    rw [hnone] at hcurrent
    cases hcurrent
  have htarget : ∀ (refreshes : List RefreshStage) (d : Nat),
      s.refreshes.length ≤ refreshes.length → d < refreshes.length →
      ∀ r d' : Nat, (s.calls ++ [CallStage.awaits d])[r]? = some (.awaits d') →
        d' < refreshes.length := by
    intro refreshes d hle hlt r d' hcall
    rcases getElem?_concat_iff.mp hcall with ⟨_, hnew⟩ | hold
    · cases hnew
      exact hlt
    · exact Nat.lt_of_lt_of_le (h.target r d' hold) hle
  cases hs with
  | joins d current =>
    refine ⟨h.current, htarget _ d (Nat.le_refl _) (h.current d current), ?_⟩
    intro d' i hawaits
    obtain ⟨hcurrent, ⟨r, hcall⟩, hserving⟩ := h.inFlight d' i hawaits
    exact ⟨hcurrent, ⟨r, getElem?_append_of_getElem? hcall _⟩,
      hserving.mono rfl fun r hr => getElem?_append_of_getElem? hr _⟩
  | asks current =>
    refine ⟨?_, htarget _ _ (by simp) (by simp), ?_⟩
    · rintro d ⟨⟩
      simp
    · intro d i hawaits
      rcases getElem?_concat_iff.mp hawaits with ⟨hd, hnew⟩ | hold
      · cases hnew
        subst hd
        exact ⟨rfl, ⟨s.calls.length, List.getElem?_concat_length⟩,
          .fetch List.getElem?_concat_length⟩
      · exact absurd hold (hidle current d i)
  | noToken current =>
    refine ⟨?_, htarget _ _ (by simp) (by simp), ?_⟩
    · rintro d ⟨⟩
      simp
    · intro d i hawaits
      rcases getElem?_concat_iff.mp hawaits with ⟨_, hnew⟩ | hold
      · cases hnew
      · exact absurd hold (hidle current d i)

/-- A request goes on to a stage that the request of a refresh in flight can be at. -/
theorem Inv.setRequest {s : State} {i : Nat} {stage : RequestStage} (h : s.Inv)
    (hserving : ∀ d : Nat, s.refreshes[d]? = some (.awaits i) →
      (s.setRequest i stage).Serving d i) : (s.setRequest i stage).Inv := by
  refine ⟨h.current, h.target, ?_⟩
  intro d j hawaits
  obtain ⟨hcurrent, hcall, hold⟩ := h.inFlight d j hawaits
  refine ⟨hcurrent, hcall, ?_⟩
  by_cases heq : i = j
  · subst heq
    exact hserving d hawaits
  · exact hold.mono (List.getElem?_set_ne heq) fun r hr => hr

theorem setRequest_requests {s : State} {i : Nat} {old stage : RequestStage}
    (h : s.requests[i]? = some old) : (s.setRequest i stage).requests[i]? = some stage :=
  List.getElem?_set_self (lt_length_of_getElem? h)

/-- The last fetch of a request ends it, or leaves it as the promise that never settles. -/
theorem settle_cases (resp : Response) :
    (resp.status = 503 ∧ resp.setupRequired = true) ∧ settle resp = .never ∨
      ¬ (resp.status = 503 ∧ resp.setupRequired = true) ∧
        ((∃ tokens, settle resp = .resolved tokens) ∨ settle resp = .rejected) := by
  by_cases hsetup : resp.status = 503 ∧ resp.setupRequired = true
  · exact .inl ⟨hsetup, by rw [settle, if_pos hsetup]⟩
  · refine .inr ⟨hsetup, ?_⟩
    rw [settle, if_neg hsetup]
    split
    · exact .inr rfl
    · split
      · exact .inl ⟨none, rfl⟩
      · split
        · exact .inr rfl
        · rename_i tokens _
          exact .inl ⟨tokens, rfl⟩

/-- What an answer does. The first 401 calls `refreshTokens`, if it is registered. -/
inductive Received (s : State) (i : Nat) : Answer → State → Prop where
  | failed (fetching : s.Fetching i) : Received s i .networkError (s.setRequest i .rejected)
  | unauthorized (resp : Response) (fetch : s.requests[i]? = some .fetch)
    (status : resp.status = 401 ∧ s.registered = true) :
    Received s i (.response resp) (s.refreshTokens.1.setRequest i (.refresh s.calls.length))
  | last (resp : Response) (fetching : s.Fetching i)
    (status : s.requests[i]? = some .fetch → ¬ (resp.status = 401 ∧ s.registered = true)) :
    Received s i (.response resp) (s.setRequest i (settle resp))

theorem received_of_answer {s s' : State} {i : Nat} {a : Answer} (h : s.answer i a = some s') :
    s.Received i a s' := by
  simp only [answer] at h
  split at h
  · rename_i hfetch
    cases a with
    | networkError =>
      cases h
      exact .failed (.inl hfetch)
    | response resp =>
      simp only [refreshTokens_snd] at h
      split at h
      · rename_i hstatus
        cases h
        exact .unauthorized resp hfetch hstatus
      · rename_i hstatus
        cases h
        exact .last resp (.inl hfetch) fun _ => hstatus
  · rename_i hretry
    cases a with
    | networkError =>
      cases h
      exact .failed (.inr hretry)
    | response resp =>
      cases h
      refine .last resp (.inr hretry) ?_
      intro hfetch
      rw [hretry] at hfetch
      cases hfetch
  · cases h

theorem Fetching.isSome {s : State} {i : Nat} (h : s.Fetching i) :
    ∃ stage, s.requests[i]? = some stage := by
  rcases h with hfetch | hretry
  · exact ⟨_, hfetch⟩
  · exact ⟨_, hretry⟩

theorem Inv.received {s s' : State} {i : Nat} {a : Answer} (h : s.Inv) (hs : s.Received i a s') :
    s'.Inv := by
  cases hs with
  | failed fetching =>
    obtain ⟨stage, hstage⟩ := fetching.isSome
    exact h.setRequest fun d _ => .settled (.inr (setRequest_requests hstage))
  | unauthorized resp fetch status =>
    have hrefreshed := s.refreshed
    have hinv := h.refreshed hrefreshed
    apply hinv.setRequest
    intro d hawaits
    obtain ⟨d', hcurrent, hcall⟩ := hrefreshed.call
    -- The new call waits on the current refresh, and only that one is in flight.
    have hsame : d = d' := by
      have hd := (hinv.inFlight d i hawaits).1
      rw [hcurrent] at hd
      exact (Option.some.inj hd).symm
    subst hsame
    exact .refresh s.calls.length (setRequest_requests (hrefreshed.requests_kept fetch)) hcall
  | last resp fetching status =>
    obtain ⟨stage, hstage⟩ := fetching.isSome
    apply h.setRequest
    intro d _
    rcases settle_cases resp with ⟨_, hnever⟩ | ⟨_, ⟨tokens, hresolved⟩ | hrejected⟩
    · rw [hnever]
      exact .never (setRequest_requests hstage)
    · rw [hresolved]
      exact .settled (.inl ⟨tokens, setRequest_requests hstage⟩)
    · rw [hrejected]
      exact .settled (.inr (setRequest_requests hstage))

/-- The end of a refresh leaves none in flight. -/
theorem Inv.finishRefresh {s : State} {d i : Nat} (h : s.Inv)
    (hawaits : s.refreshes[d]? = some (.awaits i)) (tokens : Option Tokens) :
    (s.finishRefresh d tokens).Inv := by
  have hcurrent := (h.inFlight d i hawaits).1
  refine ⟨?_, ?_, ?_⟩
  · intro d' hd'
    rw [finishRefresh_refreshPromiseRef] at hd'
    cases hd'
  · intro r d' hcall
    rw [finishRefresh_calls] at hcall
    rw [finishRefresh_refreshes, List.length_set]
    exact h.target r d' hcall
  · intro d' j hawaits'
    -- Another refresh in flight would be the current one too.
    exfalso
    rw [finishRefresh_refreshes] at hawaits'
    by_cases heq : d = d'
    · subst heq
      rw [List.getElem?_set_self (lt_length_of_getElem? hawaits)] at hawaits'
      cases hawaits'
    · rw [List.getElem?_set_ne heq] at hawaits'
      have hcurrent' := (h.inFlight d' j hawaits').1
      rw [hcurrent] at hcurrent'
      exact heq (Option.some.inj hcurrent')

theorem Inv.resumed {s s' : State} {p : Promise} (h : s.Inv) (hs : s.Resumed p s') : s'.Inv := by
  cases hs with
  | request i r token awaits done =>
    apply h.setRequest
    intro d hawaits
    exfalso
    obtain ⟨_, _, hserving⟩ := h.inFlight d i hawaits
    cases hserving with
    | fetch hfetch => simp [hfetch] at awaits
    | refresh r' hrefresh hcall =>
      -- The call of its own refresh has not settled, because the refresh is in flight.
      rw [hrefresh] at awaits
      cases awaits
      rw [hcall] at done
      cases done
    | settled hsettled => simp [Settled, awaits] at hsettled
    | never hnever => simp [hnever] at awaits
  | call r d token awaits done =>
    -- The call that settles waited on a refresh that is done, not on one in flight.
    have hkept : ∀ d' i : Nat, s.refreshes[d']? = some (.awaits i) → ∀ r' : Nat,
        s.calls[r']? = some (.awaits d') →
        (s.calls.set r (.done token))[r']? = some (.awaits d') := by
      intro d' i hawaits r' hcall
      have hne : r ≠ r' := by
        rintro rfl
        rw [awaits] at hcall
        cases hcall
        rw [done] at hawaits
        cases hawaits
      rw [← hcall]
      exact List.getElem?_set_ne hne
    refine ⟨h.current, ?_, ?_⟩
    · intro r' d' hcall
      by_cases heq : r = r'
      · subst heq
        rw [List.getElem?_set_self (lt_length_of_getElem? awaits)] at hcall
        cases hcall
      · rw [List.getElem?_set_ne heq] at hcall
        exact h.target r' d' hcall
    · intro d' i hawaits
      obtain ⟨hcurrent, ⟨r', hcall⟩, hserving⟩ := h.inFlight d' i hawaits
      exact ⟨hcurrent, ⟨r', hkept d' i hawaits r' hcall⟩,
        hserving.mono rfl (hkept d' i hawaits)⟩
  | resolved d i tokens awaits done => exact h.finishRefresh awaits tokens
  | rejected d i awaits done => exact h.finishRefresh awaits none

/-- The invariant does not read what is registered, nor what is stored. -/
theorem Inv.withStorage {s : State} (h : s.Inv) (registered : Bool) (storage : Storage) :
    ({ s with registered, storage } : State).Inv := by
  refine ⟨h.current, h.target, ?_⟩
  intro d i hawaits
  obtain ⟨hcurrent, hcall, hserving⟩ := h.inFlight d i hawaits
  exact ⟨hcurrent, hcall, hserving.mono rfl fun r hr => hr⟩

theorem Inv.step {s s' : State} {e : Event} (h : s.Inv) (hstep : s.step e = some s') :
    s'.Inv := by
  cases e with
  | request =>
    cases hstep
    refine ⟨h.current, h.target, ?_⟩
    intro d i hawaits
    obtain ⟨hcurrent, hcall, hserving⟩ := h.inFlight d i hawaits
    obtain ⟨stage, hstage⟩ := hserving.isSome
    refine ⟨hcurrent, hcall, hserving.mono ?_ fun r hr => hr⟩
    rw [hstage]
    exact getElem?_append_of_getElem? hstage _
  | refreshTokens =>
    cases hstep
    exact h.refreshed s.refreshed
  | register =>
    cases hstep
    exact h.withStorage true s.storage
  | store storage =>
    cases hstep
    exact h.withStorage s.registered storage
  | answer i a => exact h.received (received_of_answer hstep)
  | resume p => exact h.resumed (resumed_of_resume hstep)

/-! ### What an answer does to the refresh in flight -/

theorem Clear.refreshed {s s' : State} (h : s.Clear) (hs : s.Refreshed s') : s'.Clear := by
  intro d i hawaits
  rcases hs.awaits_cases hawaits with hold | ⟨_, hfetch⟩
  · rcases h d i hold with hfetch | ⟨tokens, hresolved⟩ | hrejected
    · exact .inl (hs.requests_kept hfetch)
    · exact .inr (.inl ⟨tokens, hs.requests_kept hresolved⟩)
    · exact .inr (.inr (hs.requests_kept hrejected))
  · exact .inl hfetch

theorem Clear.setRequest {s : State} {i : Nat} {stage : RequestStage} (h : s.Clear)
    (hstage : ∀ d : Nat, s.refreshes[d]? = some (.awaits i) →
      (s.setRequest i stage).Settled (.request i)) : (s.setRequest i stage).Clear := by
  intro d j hawaits
  by_cases heq : i = j
  · subst heq
    exact .inr (hstage d hawaits)
  · have hkept : (s.setRequest i stage).requests[j]? = s.requests[j]? :=
      List.getElem?_set_ne heq
    simp only [Settled, hkept]
    exact h d j hawaits

theorem Clear.finishRefresh {s : State} (h : s.Clear) (d : Nat) (tokens : Option Tokens) :
    (s.finishRefresh d tokens).Clear := by
  intro d' i hawaits
  rw [finishRefresh_refreshes] at hawaits
  simp only [Settled, finishRefresh_requests]
  have hmem : .awaits i ∈ s.refreshes := by
    rcases List.mem_or_eq_of_mem_set (List.mem_of_getElem? hawaits) with hmem | hdone
    · exact hmem
    · cases hdone
  obtain ⟨d₀, hd₀⟩ := List.mem_iff_getElem?.mp hmem
  exact h d₀ i hd₀

/-- A refresh does not wait on a request that awaits a call. -/
theorem Clear.not_awaits {s : State} (h : s.Clear) {i r : Nat}
    (hi : s.requests[i]? = some (.refresh r)) (d : Nat) : s.refreshes[d]? ≠ some (.awaits i) := by
  intro hawaits
  have hclear := h d i hawaits
  simp [Settled, hi] at hclear

theorem Clear.resumed {s s' : State} {p : Promise} (h : s.Clear) (hs : s.Resumed p s') :
    s'.Clear := by
  cases hs with
  | request i r token awaits done =>
    exact h.setRequest fun d hd => absurd hd (h.not_awaits awaits d)
  | call r d token awaits done => exact h
  | resolved d i tokens awaits done => exact h.finishRefresh d tokens
  | rejected d i awaits done => exact h.finishRefresh d none

theorem Clear.received_iff {s s' : State} {i : Nat} {a : Answer} (h : s.Clear)
    (hs : s.Received i a s') : s'.Clear ↔ s.Answered (.answer i a) := by
  cases hs with
  | failed fetching =>
    obtain ⟨stage, hstage⟩ := fetching.isSome
    have hclear : (s.setRequest i .rejected).Clear :=
      h.setRequest fun d _ => .inr (setRequest_requests hstage)
    exact ⟨fun _ => trivial, fun _ => hclear⟩
  | unauthorized resp fetch status =>
    have hrefreshed := s.refreshed
    constructor
    · -- The request of a refresh in flight would be at a call of its own refresh.
      intro hclear hmem
      exfalso
      obtain ⟨d, hd⟩ := List.mem_iff_getElem?.mp hmem
      have hrequest : (s.refreshTokens.1.setRequest i (.refresh s.calls.length)).requests[i]? =
          some (.refresh s.calls.length) := setRequest_requests (hrefreshed.requests_kept fetch)
      exact hclear.not_awaits hrequest d (hrefreshed.refreshes_kept hd)
    · intro hanswered
      apply (h.refreshed hrefreshed).setRequest
      intro d hawaits
      exfalso
      rcases hrefreshed.awaits_cases hawaits with hold | ⟨hnew, _⟩
      · exact (hanswered (List.mem_of_getElem? hold)).1 status
      · -- The refresh that this 401 begins has a request of its own.
        have hlt := lt_length_of_getElem? fetch
        omega
  | last resp fetching status =>
    obtain ⟨stage, hstage⟩ := fetching.isSome
    have hnew : (s.setRequest i (settle resp)).requests[i]? = some (settle resp) :=
      setRequest_requests hstage
    rcases settle_cases resp with ⟨hsetup, hnever⟩ | ⟨hsetup, hsettle⟩
    · constructor
      · intro hclear hmem
        exfalso
        obtain ⟨d, hd⟩ := List.mem_iff_getElem?.mp hmem
        have hrequest := hclear d i hd
        rw [hnever] at hnew
        simp [Settled, hnever, hnew] at hrequest
      · intro hanswered
        apply h.setRequest
        intro d hawaits
        exact absurd hsetup (hanswered (List.mem_of_getElem? hawaits)).2
    · constructor
      · intro _ hmem
        obtain ⟨d, hd⟩ := List.mem_iff_getElem?.mp hmem
        refine ⟨status ?_, hsetup⟩
        -- Before a refresh's request is answered it is at its first fetch.
        rcases h d i hd with hfetch | hsettled
        · exact hfetch
        · rcases fetching with hfetch | hretry
          · exact hfetch
          · simp [Settled, hretry] at hsettled
      · intro _
        apply h.setRequest
        intro d _
        rcases hsettle with ⟨tokens, hresolved⟩ | hrejected
        · exact .inl ⟨tokens, by rw [← hresolved]; exact hnew⟩
        · exact .inr (by rw [← hrejected]; exact hnew)

/-- A step keeps the request of the refresh in flight clear exactly if it is `Answered`. -/
theorem Clear.step_iff {s s' : State} {e : Event} (hinv : s.Inv) (h : s.Clear)
    (hstep : s.step e = some s') : s'.Clear ↔ s.Answered e := by
  cases e with
  | request =>
    cases hstep
    refine ⟨fun _ => trivial, fun _ => ?_⟩
    intro d i hawaits
    obtain ⟨_, _, hserving⟩ := hinv.inFlight d i hawaits
    obtain ⟨stage, hstage⟩ := hserving.isSome
    -- The new request is not the one that the refresh awaits.
    have hkept : (s.requests ++ [RequestStage.fetch])[i]? = s.requests[i]? := by
      rw [hstage]
      exact getElem?_append_of_getElem? hstage _
    simp only [Settled, hkept]
    exact h d i hawaits
  | refreshTokens =>
    cases hstep
    exact ⟨fun _ => trivial, fun _ => h.refreshed s.refreshed⟩
  | register =>
    cases hstep
    exact ⟨fun _ => trivial, fun _ => h⟩
  | store storage =>
    cases hstep
    exact ⟨fun _ => trivial, fun _ => h⟩
  | answer i a => exact h.received_iff (received_of_answer hstep)
  | resume p => exact ⟨fun _ => trivial, fun _ => h.resumed (resumed_of_resume hstep)⟩

theorem noDeadlock_start (registered : Bool) (storage : Storage) :
    (start registered storage).NoDeadlock := by
  apply (inv_start registered storage).noDeadlock
  intro d i hawaits
  cases hawaits

/-- Over every order of calls, answers and continuations, no state of the run has a deadlock
exactly if the request of a refresh in flight is always `Answered`. -/
theorem noDeadlock_along_iff (registered : Bool) (storage : Storage) (es : List Event)
    (hrun : (run step (start registered storage) es).isSome) :
    Along step NoDeadlock (start registered storage) es ↔
      StepsMeet step Answered (start registered storage) es := by
  apply along_iff_stepsMeet (I := Inv) (D := fun _ => True) (fun s e s' => Inv.step) _
    (fun _ _ => trivial) (inv_start registered storage) (noDeadlock_start registered storage) hrun
  intro s e s' _ hinv hP hstep
  rw [(hinv.step hstep).noDeadlock_iff]
  exact (hinv.clear hP).step_iff hinv hstep

/-- A request is answered with a 401, its refresh with new tokens, and the retry with a 204. -/
theorem noDeadlock_along_retry :
    Along step NoDeadlock (start true ⟨some "access", some "refresh"⟩)
      [.request, .answer 0 (.response ⟨401, false, none⟩),
        .answer 1 (.response ⟨200, false, some (some ⟨some "new", some "next"⟩)⟩),
        .resume (.refresh 0), .resume (.call 0), .resume (.request 0),
        .answer 0 (.response ⟨204, false, none⟩)] :=
  (noDeadlock_along_iff true ⟨some "access", some "refresh"⟩ _ (by decide)).mpr (by decide)

/-- The refresh request is answered with a 401 as well. No fetch is out and no call can go on:
the refresh waits on its request, the request on its call and the call on the refresh. -/
theorem deadlock :
    ∃ s, run step (start true ⟨some "access", some "refresh"⟩)
        [.request, .answer 0 (.response ⟨401, false, none⟩),
          .answer 1 (.response ⟨401, false, none⟩)] = some s ∧
      Relation.TransGen s.Waits (.refresh 0) (.refresh 0) ∧ (∀ i, ¬ s.Fetching i) ∧
      s.Drained ∧ ¬ s.NoDeadlock := by
  have hcycle : Relation.TransGen (State.Waits ⟨[.refresh 0, .refresh 1], [.awaits 0, .awaits 0],
      [.awaits 1], some 0, true, ⟨some "access", some "refresh"⟩⟩) (.refresh 0) (.refresh 0) :=
    cycle (i := 1) (r := 1) rfl rfl rfl
  refine ⟨_, rfl, hcycle, ?_, ?_, fun h => h.acyclic _ hcycle⟩
  · intro i hfetching
    match i with
    | 0 | 1 | _ + 2 =>
      rcases hfetching with hfetch | hretry
      · cases hfetch
      · cases hretry
  · intro p
    match p with
    | .request 0 | .request 1 | .request (_ + 2) => rfl
    | .call 0 | .call 1 | .call (_ + 2) => rfl
    | .refresh 0 | .refresh (_ + 1) => rfl

end State

end OtelHive.Ui
