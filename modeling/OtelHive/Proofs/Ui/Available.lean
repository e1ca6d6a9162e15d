import OtelHive.Proofs.Ui.Refresh

/-!
# `OtelHive.Proofs.Ui.Available`: when a silent refresh stays possible

`refreshTokens` keeps the promise of the refresh in flight in `refreshPromiseRef`, and `doRefresh`
clears it in its `finally`. Without a stored refresh token `doRefresh` returns before the `try`,
so the settled promise is assigned and nothing clears it: every later call gets that result, also
after a login.

Under the invariant `Inv` of the refreshes, `Available` says that the current promise belongs to a
refresh that awaits its request (`Held`) and that this request is out or has settled (`Clear`).
A step keeps the first exactly if no refresh begins without a refresh token (`HasToken`), and the
second exactly if the request of the refresh in flight is `Answered`.
-/

set_option autoImplicit false

namespace OtelHive.Ui

open OtelHive.Lib

namespace State

/-! ### The property and the condition -/

/-- A refresh request is in flight: its fetch is out, or it has settled and `doRefresh` is about
to go on. -/
def InFlight (s : State) : Prop :=
  ∃ d i : Nat, s.refreshes[d]? = some (.awaits i) ∧
    (s.requests[i]? = some .fetch ∨ s.Settled (.request i))

/-- A call of `refreshTokens` issues a refresh request, and awaits the refresh that sent it. -/
def IssuesRequest (s : State) : Prop :=
  s.refreshTokens.1.requests = s.requests ++ [.fetch] ∧
    ∃ d, s.refreshTokens.1.calls[s.refreshTokens.2]? = some (.awaits d) ∧
      s.refreshTokens.1.refreshes[d]? = some (.awaits s.requests.length)

/-- While no refresh request is in flight the reference is null, and a call with a stored refresh
token issues a request. -/
structure Available (s : State) : Prop where
  current : ¬ s.InFlight → s.refreshPromiseRef = none
  issues : ¬ s.InFlight → truthy s.storage.refreshToken = true → s.IssuesRequest

/-- A refresh token is stored, unless a refresh is in flight already. -/
def CanRefresh (s : State) : Prop :=
  s.refreshPromiseRef = none → truthy s.storage.refreshToken = true

/-- When the event calls `refreshTokens`, a refresh token is stored or a refresh is in flight. -/
def HasToken (s : State) : Event → Prop
  | .refreshTokens => s.CanRefresh
  | .answer i (.response resp) =>
    s.requests[i]? = some .fetch → resp.status = 401 → s.registered = true → s.CanRefresh
  | _ => True

instance (s : State) : Decidable s.CanRefresh :=
  inferInstanceAs <| Decidable <|
    s.refreshPromiseRef = none → truthy s.storage.refreshToken = true

instance (s : State) : ∀ e, Decidable (s.HasToken e)
  | .refreshTokens => inferInstanceAs (Decidable s.CanRefresh)
  | .answer i (.response resp) => inferInstanceAs <| Decidable <|
      s.requests[i]? = some .fetch → resp.status = 401 → s.registered = true → s.CanRefresh
  | .answer _ .networkError | .request | .register | .store _ | .resume _ => .isTrue trivial

/-- The current promise is that of a refresh that awaits its request. -/
def Held (s : State) : Prop :=
  ∀ d, s.refreshPromiseRef = some d → ∃ i, s.refreshes[d]? = some (.awaits i)

/-! ### The property under the invariant -/

/-- Without a current promise, a call with a refresh token issues a request. -/
theorem issuesRequest_of_token {s : State} (hcurrent : s.refreshPromiseRef = none)
    (htoken : truthy s.storage.refreshToken = true) : s.IssuesRequest := by
  have hcall : s.refreshTokens = ({ s with
      requests := s.requests ++ [.fetch]
      calls := s.calls ++ [.awaits s.refreshes.length]
      refreshes := s.refreshes ++ [.awaits s.requests.length]
      refreshPromiseRef := some s.refreshes.length }, s.calls.length) := by
    simp only [refreshTokens, hcurrent, doRefresh, htoken, if_true]
  unfold IssuesRequest
  rw [hcall]
  exact ⟨rfl, s.refreshes.length, List.getElem?_concat_length, List.getElem?_concat_length⟩

theorem Inv.available_iff {s : State} (hinv : s.Inv) : s.Available ↔ s.Held ∧ s.Clear := by
  constructor
  · intro h
    -- A current promise means that a request is in flight, and there is one refresh at most.
    have hflight : ∀ d, s.refreshPromiseRef = some d → s.InFlight := by
      intro d hcurrent
      by_contra hnone
      rw [h.current hnone] at hcurrent
      cases hcurrent
    constructor
    · intro d hcurrent
      obtain ⟨d', i, hawaits, _⟩ := hflight d hcurrent
      have hcurrent' := (hinv.inFlight d' i hawaits).1
      rw [hcurrent, Option.some.injEq] at hcurrent'
      subst hcurrent'
      exact ⟨i, hawaits⟩
    · intro d i hawaits
      have hcurrent := (hinv.inFlight d i hawaits).1
      obtain ⟨d', i', hawaits', hrequest⟩ := hflight d hcurrent
      have hcurrent' := (hinv.inFlight d' i' hawaits').1
      rw [hcurrent, Option.some.injEq] at hcurrent'
      subst hcurrent'
      rw [hawaits] at hawaits'
      cases hawaits'
      exact hrequest
  · rintro ⟨hheld, hclear⟩
    have hcurrent : ¬ s.InFlight → s.refreshPromiseRef = none := by
      intro hnone
      by_contra hsome
      obtain ⟨d, hd⟩ := Option.ne_none_iff_exists'.mp hsome
      obtain ⟨i, hawaits⟩ := hheld d hd
      exact hnone ⟨d, i, hawaits, hclear d i hawaits⟩
    exact ⟨hcurrent, fun hnone => issuesRequest_of_token (hcurrent hnone)⟩

/-! ### What a step does to the current promise -/

/-- A call of `refreshTokens` keeps `Held` exactly if it finds a refresh token, where it needs
one. -/
theorem Held.refreshTokens_iff {s : State} (h : s.Held) :
    s.refreshTokens.1.Held ↔ s.CanRefresh := by
  cases hcurrent : s.refreshPromiseRef with
  -- The call gets the current promise.
  | some d =>
    have hkept : s.refreshTokens.1.Held := by
      intro d' hd'
      simp only [refreshTokens, hcurrent] at hd' ⊢
      exact h d' (by rw [hcurrent]; exact hd')
    refine ⟨fun _ hnone => ?_, fun _ => hkept⟩
    rw [hcurrent] at hnone
    cases hnone
  | none =>
    cases htoken : truthy s.storage.refreshToken with
    | true =>
      refine ⟨fun _ _ => htoken, fun _ => ?_⟩
      intro d hd
      simp only [refreshTokens, hcurrent, doRefresh, htoken, if_true] at hd ⊢
      cases hd
      exact ⟨s.requests.length, List.getElem?_concat_length⟩
    | false =>
      -- The promise that is assigned is settled.
      constructor
      · intro hheld
        have hcall : s.refreshTokens.1 = { s with
            calls := s.calls ++ [.awaits s.refreshes.length]
            refreshes := s.refreshes ++ [.done none]
            refreshPromiseRef := some s.refreshes.length } := by
          simp only [refreshTokens, hcurrent, doRefresh, htoken, Bool.false_eq_true, if_false]
        rw [hcall] at hheld
        obtain ⟨i, hawaits⟩ := hheld s.refreshes.length rfl
        rw [List.getElem?_concat_length] at hawaits
        cases hawaits
      · intro hcan
        have htrue := hcan hcurrent
        rw [htoken] at htrue
        cases htrue

/-- A continuation of another promise leaves the refreshes, and the end of one clears the
reference. -/
theorem Held.resumed {s s' : State} {p : Promise} (h : s.Held) (hs : s.Resumed p s') :
    s'.Held := by
  cases hs with
  | request i r token awaits done => exact h
  | call r d token awaits done => exact h
  | resolved d i tokens awaits done =>
    intro d' hd'
    rw [finishRefresh_refreshPromiseRef] at hd'
    cases hd'
  | rejected d i awaits done =>
    intro d' hd'
    rw [finishRefresh_refreshPromiseRef] at hd'
    cases hd'

theorem Held.received_iff {s s' : State} {i : Nat} {a : Answer} (h : s.Held)
    (hs : s.Received i a s') : s'.Held ↔ s.HasToken (.answer i a) := by
  cases hs with
  | failed fetching => exact ⟨fun _ => trivial, fun _ => h⟩
  -- Only the first 401 of a request calls `refreshTokens`.
  | unauthorized resp fetch status =>
    refine Iff.trans h.refreshTokens_iff ?_
    exact ⟨fun hcan _ _ _ => hcan, fun hcan => hcan fetch status.1 status.2⟩
  | last resp fetching status =>
    refine ⟨fun _ hfetch hunauthorized hregistered => ?_, fun _ => h⟩
    exact absurd ⟨hunauthorized, hregistered⟩ (status hfetch)

/-- A step keeps `Held` exactly if no refresh begins without a refresh token. -/
theorem Held.step_iff {s s' : State} {e : Event} (h : s.Held) (hstep : s.step e = some s') :
    s'.Held ↔ s.HasToken e := by
  cases e with
  | request =>
    cases hstep
    exact ⟨fun _ => trivial, fun _ => h⟩
  | refreshTokens =>
    cases hstep
    exact h.refreshTokens_iff
  | register =>
    cases hstep
    exact ⟨fun _ => trivial, fun _ => h⟩
  | store storage =>
    cases hstep
    exact ⟨fun _ => trivial, fun _ => h⟩
  | answer i a => exact h.received_iff (received_of_answer hstep)
  | resume p => exact ⟨fun _ => trivial, fun _ => h.resumed (resumed_of_resume hstep)⟩

/-! ### The run -/

/-- The refreshes stay available along a run exactly if every refresh begins with a stored refresh
token and the request of a refresh in flight is always `Answered`. -/
theorem available_along_iff (registered : Bool) (storage : Storage) (es : List Event)
    (hrun : (run step (start registered storage) es).isSome) :
    Along step Available (start registered storage) es ↔
      StepsMeet step (fun s e => s.HasToken e ∧ s.Answered e) (start registered storage) es := by
  have hinv := inv_start registered storage
  have hstart : (start registered storage).Available := by
    refine hinv.available_iff.mpr ⟨?_, hinv.clear (noDeadlock_start registered storage)⟩
    intro d hd
    cases hd
  apply along_iff_stepsMeet (I := Inv) (D := fun _ => True) (fun s e s' => Inv.step) _
    (fun _ _ => trivial) hinv hstart hrun
  intro s e s' _ hinv hP hstep
  obtain ⟨hheld, hclear⟩ := hinv.available_iff.mp hP
  -- A step keeps `Held` under one half of the condition, and `Clear` under the other.
  rw [(hinv.step hstep).available_iff]
  exact and_congr (hheld.step_iff hstep) (hclear.step_iff hinv hstep)

/-- A logout, a login, and then a 401 whose refresh gets new tokens. -/
theorem available_along_login :
    Along step Available (start true ⟨some "access", some "refresh"⟩)
      [.store ⟨none, none⟩, .store ⟨some "access", some "second"⟩, .request,
        .answer 0 (.response ⟨401, false, none⟩),
        .answer 1 (.response ⟨200, false, some (some ⟨some "new", some "next"⟩)⟩),
        .resume (.refresh 0), .resume (.call 0), .resume (.request 0),
        .answer 0 (.response ⟨204, false, none⟩)] :=
  (available_along_iff true ⟨some "access", some "refresh"⟩ _ (by decide)).mpr (by decide)

/-- A request is answered with a 401 after a logout, so its refresh finds no refresh token. Then a
login stores one. No request is in flight, and still a call gets the result of the old attempt. -/
theorem stuck_after_login :
    ∃ s, run step (start true ⟨none, none⟩)
        [.request, .answer 0 (.response ⟨401, false, none⟩), .resume (.call 0),
          .resume (.request 0), .store ⟨some "access", some "refresh"⟩] = some s ∧
      ¬ s.InFlight ∧ s.refreshPromiseRef = some 0 ∧ s.refreshes[0]? = some (.done none) ∧
      truthy s.storage.refreshToken = true ∧
      s.refreshTokens.1.calls[s.refreshTokens.2]? = some (.awaits 0) ∧ ¬ s.Available := by
  refine ⟨_, rfl, ?_, rfl, rfl, rfl, rfl, ?_⟩
  · rintro ⟨d, i, hawaits, _⟩
    match d with
    | 0 | _ + 1 => cases hawaits
  · intro h
    have hnone := h.current ?_
    · cases hnone
    · rintro ⟨d, i, hawaits, _⟩
      match d with
      | 0 | _ + 1 => cases hawaits

end State

end OtelHive.Ui
