import Mathlib.Logic.Relation
import OtelHive.Proofs.Auth.Steps

/-!
# `OtelHive.Proofs.Auth.Rotation`: how often a refresh token is exchanged

`Refresh` reads the row of a token, deletes it and inserts the row of a new one, in three
statements. The error of the delete is dropped, and the delete does not tell whether there was
a row. So two calls that have both read the row both insert a new one, and after a delete that
the database refuses the old token lives on next to the new one.

`RotatesAlone` is the step where that is decided: the delete of `Refresh` removes the row, or
the row is gone already and no other `Refresh` of the same token is past its delete.
`singleUse_of_rotatesAlone`: in a run whose deletes all do so, a token is exchanged at most
once, and the live tokens that descend from one token, such as the one of a login, are never
two.

The invariant is about single tokens only (`RotationInv`). That a login has one live token
follows from it: a token that is exchanged at most once has at most one successor, so the
successors of a token form a chain, and the live token is its end.
-/

set_option autoImplicit false

namespace OtelHive.Auth

open OtelHive.Lib

/-! ### What a call has done -/

namespace Call

/-- The hash of the token that a `Refresh` exchanges: it is past its delete and has not
failed. -/
def redeems : Call → Option String
  | ⟨.refresh refreshToken, .issue _⟩ => some (hashToken refreshToken)
  | ⟨.refresh refreshToken, .done (.issued _ _)⟩ => some (hashToken refreshToken)
  | _ => none

/-- The hash of the token whose row a `Refresh` has read, unless it has failed. -/
def holds : Call → Option String
  | ⟨.refresh refreshToken, .readUser _ _⟩ => some (hashToken refreshToken)
  | ⟨.refresh refreshToken, .rotate _ _⟩ => some (hashToken refreshToken)
  | call => call.redeems

/-- The hash of the token that a `Refresh` is about to delete. -/
def rotates : Call → Option String
  | ⟨_, .rotate hash _⟩ => some hash
  | _ => none

/-- The call is about to store a token. -/
def issues : Call → Bool
  | ⟨_, .issue _⟩ => true
  | _ => false

/-- The hash of the token that a call has issued. -/
def issued : Call → Option String
  | ⟨_, .done (.issued _ pair)⟩ => some (hashToken pair.refreshToken)
  | _ => none

/-- A `Refresh` that exchanges a token has read its row. -/
theorem holds_of_redeems {call : Call} {hash : String} (h : call.redeems = some hash) :
    call.holds = some hash := by
  obtain ⟨request, stage⟩ := call
  cases request <;> cases stage <;> first | exact h | cases h

/-- A call that has not ended has issued no token. -/
theorem issued_of_not_isDone {call : Call} (h : call.stage.isDone = false) :
    call.issued = none := by
  obtain ⟨request, stage⟩ := call
  cases stage <;> first | rfl | cases h

/-- A call that begins has done nothing. -/
theorem first_eq_none (request : Request) :
    redeems ⟨request, request.first⟩ = none ∧ holds ⟨request, request.first⟩ = none ∧
      issued ⟨request, request.first⟩ = none := by
  cases request with
  | handleLogout userID refreshToken =>
    simp only [Request.first]
    split <;> exact ⟨rfl, rfl, rfl⟩
  | _ => exact ⟨rfl, rfl, rfl⟩

end Call

namespace System

variable {κ : Type}

/-- A call has exchanged the token with the first hash for the one with the second. -/
def Renews (sys : System κ) (hash hash' : String) : Prop :=
  ∃ (i : Nat) (call : Call), sys.calls[i]? = some call ∧ call.redeems = some hash ∧
    call.issued = some hash'

/-- The token with the second hash descends from the one with the first. -/
def Descends (sys : System κ) : String → String → Prop := Relation.ReflTransGen sys.Renews

/-- A stored token yields at most one successful `Refresh`, and at most one live token descends
from a token. A login issues one token, so at most one live token descends from a login. -/
structure SingleUse (sys : System κ) : Prop where
  once : ∀ (i j : Nat) (token token' userID userID' : String) (pair pair' : TokenPair),
    sys.calls[i]? = some ⟨.refresh token, .done (.issued userID pair)⟩ →
    sys.calls[j]? = some ⟨.refresh token', .done (.issued userID' pair')⟩ →
    hashToken token = hashToken token' → i = j
  oneLive : ∀ root, sys.store.refreshTokens.Pairwise fun row row' =>
    ¬ (sys.Descends root row.tokenHash ∧ sys.Descends root row'.tokenHash)

/-- The hash was stored at the start, or a call has issued its token. -/
def Known (tokens₀ : List String) (sys : System κ) (hash : String) : Prop :=
  hash ∈ tokens₀ ∨ ∃ call ∈ sys.calls, call.issued = some hash

/-- The new token of a call is none that was stored before. -/
def FreshToken (tokens₀ : List String) (sys : System κ) : Event → Prop
  | .begin _ => True
  | .advance i env => ∀ call token, sys.calls[i]? = some call → call.issues = true →
      env.newToken = .ok token → ¬ sys.Known tokens₀ (hashToken token)

/-- The delete of a `Refresh` removes the row of its token. Or the row is gone already, and no
other `Refresh` of the token is past its delete, unless it has failed. -/
def RotatesAlone (sys : System κ) : Event → Prop
  | .begin _ => True
  | .advance i env => ∀ call hash, sys.calls[i]? = some call → call.rotates = some hash →
      if ∃ row ∈ sys.store.refreshTokens, row.tokenHash = hash then
        env.faults .deleteRefreshToken = none
      else ∀ other ∈ sys.calls, other.redeems ≠ some hash

/-- What holds of every run whose deletes all rotate alone. -/
structure RotationInv (tokens₀ : List String) (sys : System κ) : Prop where
  wellFormed : sys.WellFormed
  distinct : (sys.store.refreshTokens.map (·.tokenHash)).Nodup
  known : ∀ row ∈ sys.store.refreshTokens, sys.Known tokens₀ row.tokenHash
  held : ∀ call ∈ sys.calls, ∀ hash, call.holds = some hash → sys.Known tokens₀ hash
  single : ∀ (i j : Nat) (call call' : Call) (hash : String), sys.calls[i]? = some call →
    sys.calls[j]? = some call' → call.redeems = some hash → call'.redeems = some hash → i = j
  unspent : ∀ row ∈ sys.store.refreshTokens, ∀ call ∈ sys.calls,
    call.redeems ≠ some row.tokenHash

/-! ### A chain has one end -/

/-- With one successor at most for each token, the tokens that descend from one and have no
successor are equal. -/
theorem end_unique {α : Type} {r : α → α → Prop} (hr : Relator.RightUnique r) {a b c : α}
    (hb : Relation.ReflTransGen r a b) (hc : Relation.ReflTransGen r a c) (hbEnd : ∀ d, ¬ r b d)
    (hcEnd : ∀ d, ¬ r c d) : b = c := by
  rcases Relation.ReflTransGen.total_of_right_unique hr hb hc with h | h
  · rcases h.cases_head with rfl | ⟨d, hd, _⟩
    · rfl
    · exact absurd hd (hbEnd d)
  · rcases h.cases_head with rfl | ⟨d, hd, _⟩
    · rfl
    · exact absurd hd (hcEnd d)

/-- Single tokens that are exchanged once give logins with one live token. -/
theorem RotationInv.singleUse {tokens₀ : List String} {sys : System κ}
    (h : RotationInv tokens₀ sys) : sys.SingleUse where
  once i j token token' userID userID' pair pair' hi hj hsame :=
    h.single i j _ _ (hashToken token) hi hj rfl (congrArg some hsame.symm)
  oneLive root := by
    have hunique : Relator.RightUnique sys.Renews := by
      rintro hash hash₁ hash₂ ⟨i, call, hi, hredeems, hissued⟩ ⟨j, call', hj, hredeems', hissued'⟩
      have hij : i = j := h.single i j call call' hash hi hj hredeems hredeems'
      rw [hij, hj] at hi
      cases hi
      rw [hissued] at hissued'
      exact Option.some.inj hissued'
    -- A live token is the end of its chain, because nobody has exchanged it.
    have hend : ∀ row ∈ sys.store.refreshTokens, ∀ hash, ¬ sys.Renews row.tokenHash hash := by
      rintro row hrow hash ⟨i, call, hi, hredeems, _⟩
      exact h.unspent row hrow call (List.mem_of_getElem? hi) hredeems
    have hne : sys.store.refreshTokens.Pairwise fun row row' => row.tokenHash ≠ row'.tokenHash :=
      List.pairwise_map.mp h.distinct
    refine hne.imp_of_mem ?_
    rintro row row' hrow hrow' hdistinct ⟨hdescends, hdescends'⟩
    exact hdistinct (end_unique hunique hdescends hdescends' (hend row hrow) (hend row' hrow'))

/-! ### What one statement does -/

/-- What a statement does to the stored tokens and to what its call has done. -/
inductive RotationStep (env : AuthEnv) (s : Store κ) (call : Call) : Store κ → Call → Prop where
  /-- The call neither exchanges nor stores a token. -/
  | other (s' : Store κ) (call' : Call) (rows : s'.refreshTokens.Sublist s.refreshTokens)
    (redeems : ∀ hash, call'.redeems = some hash → call.redeems = some hash)
    (holds : ∀ hash, call'.holds = some hash →
      call.holds = some hash ∨ ∃ row ∈ s.refreshTokens, row.tokenHash = hash) :
    RotationStep env s call s' call'
  /-- A `Refresh` goes past its delete. -/
  | rotates (s' : Store κ) (call' : Call) (hash : String) (rotates : call.rotates = some hash)
    (held : call.holds = some hash) (redeems : call'.redeems = some hash)
    (holds : call'.holds = some hash) (rows : s'.refreshTokens.Sublist s.refreshTokens)
    (deleted : (∀ row ∈ s'.refreshTokens, row.tokenHash ≠ hash) ∨
      env.faults .deleteRefreshToken ≠ none ∧ s' = s) :
    RotationStep env s call s' call'
  /-- The call stores a new token. -/
  | issues (call' : Call) (row : RefreshToken κ) (token : String) (issues : call.issues = true)
    (newToken : env.newToken = .ok token) (hash : row.tokenHash = hashToken token)
    (redeems : call'.redeems = call.redeems) (holds : call'.holds = call.holds)
    (issued : call'.issued = some (hashToken token)) :
    RotationStep env s call { s with refreshTokens := s.refreshTokens ++ [row] } call'

/-- A statement that does not touch the stored tokens, of a call that holds no token after it. -/
theorem RotationStep.idle {env : AuthEnv} {s s' : Store κ} {call call' : Call}
    (hrows : s'.refreshTokens = s.refreshTokens) (hholds : call'.holds = none) :
    RotationStep env s call s' call' := by
  have hredeems : call'.redeems = none := by
    obtain ⟨request, stage⟩ := call'
    cases request <;> cases stage <;> simp_all [Call.holds, Call.redeems]
  refine .other s' call' (by rw [hrows]) ?_ ?_
  · intro hash hsome
    rw [hredeems] at hsome
    cases hsome
  · intro hash hsome
    rw [hholds] at hsome
    cases hsome

/-- A call that has ended without a token pair holds no token. -/
theorem holds_failed (request : Request) (err : AuthError) :
    Call.holds ⟨request, request.finish (.done (.failed err))⟩ = none := by
  cases request <;> rfl

/-- Each effect is a step of the rotation. -/
theorem rotationStep_of_effect {env : AuthEnv} {s s' : Store κ} {request : Request}
    {stage stage' : Stage} (hreaches : request.Reaches stage) (h : Effect env s stage s' stage') :
    RotationStep env s ⟨request, stage⟩ s' ⟨request, request.finish stage'⟩ := by
  cases h with
  | fail _ err => exact .idle rfl (holds_failed request err)
  | readToken row found =>
    cases request with
    | refresh token =>
      have hhash : row.tokenHash = hashToken token := by
        simpa [Request.Reaches] using hreaches
      refine .other s _ (.refl _) (fun hash hsome => by cases hsome) ?_
      intro hash hsome
      cases hsome
      exact .inr ⟨row, found, hhash⟩
    | _ => simp [Request.Reaches] at hreaches
  | readUser hash user found =>
    cases request with
    | refresh token => exact .other s _ (.refl _) (fun _ hsome => by cases hsome) fun _ => .inl
    | _ => simp [Request.Reaches] at hreaches
  | rotateRefused hash user refused =>
    cases request with
    | refresh token =>
      have hhash : hash = hashToken token := by simpa [Request.Reaches] using hreaches
      subst hhash
      exact .rotates s _ _ rfl rfl rfl rfl (.refl _) (.inr ⟨refused, rfl⟩)
    | _ => simp [Request.Reaches] at hreaches
  | rotate hash user =>
    cases request with
    | refresh token =>
      have hhash : hash = hashToken token := by simpa [Request.Reaches] using hreaches
      subst hhash
      refine .rotates _ _ _ rfl rfl rfl rfl List.filter_sublist (.inl ?_)
      intro row hrow
      simpa using List.of_mem_filter hrow
    | _ => simp [Request.Reaches] at hreaches
  | issue user pair row token owner hash =>
    cases request with
    | logout _ => simp [Request.Reaches] at hreaches
    | handleLogout _ _ => simp [Request.Reaches] at hreaches
    | _ => exact .issues _ row _ rfl token hash rfl rfl rfl
  | deleteExpired hash =>
    -- The token has expired: its row goes, and nobody gets a new one for it.
    have hnone := holds_failed request .tokenExpired
    exact .other _ _ List.filter_sublist
      (fun hash hsome => by cases request <;> cases hsome)
      (fun hash hsome => by rw [hnone] at hsome; cases hsome)
  | revoke userID =>
    exact .other _ _ List.filter_sublist
      (fun hash hsome => by cases request <;> cases hsome)
      (fun hash hsome => by cases request <;> cases hsome)
  | expired hash => exact .idle rfl (by cases request <;> rfl)
  | _ =>
    cases request with
    | refresh _ => simp [Request.Reaches] at hreaches
    | _ => exact .idle rfl rfl

/-- What a step does: a call begins, or a statement of a call runs. -/
theorem rotationStep_of_step {svc : Service} {col : ExpiryColumn κ} {sys sys' : System κ} {i : Nat}
    {env : AuthEnv} (hwf : sys.WellFormed)
    (h : step svc col sys (.advance i env) = some sys') :
    ∃ call call', sys.calls[i]? = some call ∧ call.issued = none ∧
      sys'.calls = sys.calls.set i call' ∧
      RotationStep env sys.store call sys'.store call' := by
  obtain ⟨call, stage, store, hcall, hdone, heffect, rfl⟩ := step_advance h
  exact ⟨call, _, hcall, Call.issued_of_not_isDone hdone, rfl,
    rotationStep_of_effect (hwf i call hcall) heffect⟩

section Known

variable {tokens₀ : List String} {sys sys' : System κ} {hash : String}

/-- A known token stays known when a call that has issued none goes on. -/
theorem Known.set {i : Nat} {call call' : Call} (h : sys.Known tokens₀ hash)
    (hcall : sys.calls[i]? = some call) (hnone : call.issued = none)
    (hset : sys'.calls = sys.calls.set i call') : sys'.Known tokens₀ hash := by
  rcases h with h | ⟨other, hother, hissued⟩
  · exact .inl h
  · obtain ⟨j, hj⟩ := List.mem_iff_getElem?.mp hother
    -- The call that has issued the token has ended, so it is not the one that goes on.
    have hne : j ≠ i := by
      rintro rfl
      rw [hcall] at hj
      cases hj
      rw [hnone] at hissued
      cases hissued
    have hj' : sys'.calls[j]? = some other := by
      rw [hset, getElem?_set_iff (lt_length_of_getElem? hcall)]
      exact .inr ⟨hne, hj⟩
    exact .inr ⟨other, List.mem_of_getElem? hj', hissued⟩

/-- A known token stays known when a call begins. -/
theorem Known.append {call : Call} (h : sys.Known tokens₀ hash)
    (hcalls : sys'.calls = sys.calls ++ [call]) : sys'.Known tokens₀ hash := by
  rcases h with h | ⟨other, hother, hissued⟩
  · exact .inl h
  · refine .inr ⟨other, ?_, hissued⟩
    rw [hcalls]
    exact List.mem_append_left _ hother

end Known

namespace RotationInv

variable {svc : Service} {col : ExpiryColumn κ} {tokens₀ : List String} {sys sys' : System κ}

theorem start {store : Store κ} (h : (store.refreshTokens.map (·.tokenHash)).Nodup) :
    RotationInv (store.refreshTokens.map (·.tokenHash)) (System.start store) where
  wellFormed := wellFormed_start store
  distinct := h
  known row hrow := .inl (List.mem_map_of_mem hrow)
  held call hcall := by cases hcall
  single i j call call' hash hcall := by simp [System.start] at hcall
  unspent row hrow call hcall := by cases hcall

/-- A call that begins keeps the invariant. -/
theorem begin (h : RotationInv tokens₀ sys) (request : Request)
    (hwf : System.WellFormed ⟨sys.store, sys.calls ++ [⟨request, request.first⟩]⟩) :
    RotationInv tokens₀ ⟨sys.store, sys.calls ++ [⟨request, request.first⟩]⟩ := by
  -- The new call exchanges and holds no token yet.
  obtain ⟨hredeems, hholds, _⟩ := Call.first_eq_none request
  have hknown : ∀ hash, sys.Known tokens₀ hash →
      Known tokens₀ ⟨sys.store, sys.calls ++ [⟨request, request.first⟩]⟩ hash :=
    fun hash hold => hold.append rfl
  refine ⟨hwf, h.distinct, fun row hrow => hknown _ (h.known row hrow), ?_, ?_, ?_⟩
  · intro call hcall hash hheld
    rcases List.mem_append.mp hcall with hcall | hcall
    · exact hknown hash (h.held call hcall hash hheld)
    · rw [List.mem_singleton.mp hcall, hholds] at hheld
      cases hheld
  · intro i j call call' hash hi hj hi' hj'
    rcases getElem?_concat_iff.mp hi with ⟨_, rfl⟩ | hi
    · rw [hredeems] at hi'
      cases hi'
    · rcases getElem?_concat_iff.mp hj with ⟨_, rfl⟩ | hj
      · rw [hredeems] at hj'
        cases hj'
      · exact h.single i j call call' hash hi hj hi' hj'
  · intro row hrow call hcall
    rcases List.mem_append.mp hcall with hcall | hcall
    · exact h.unspent row hrow call hcall
    · rw [List.mem_singleton.mp hcall, hredeems]
      simp

/-- The exchanges stay single when only the call `i` changes, and it exchanges what it did
before or a token that nobody else does. -/
theorem single_set (h : RotationInv tokens₀ sys) {i : Nat} {call call' : Call}
    (hcall : sys.calls[i]? = some call)
    (hredeems : ∀ hash, call'.redeems = some hash → call.redeems = some hash ∨
      ∀ other ∈ sys.calls, other.redeems ≠ some hash)
    (j k : Nat) (cj ck : Call) (hash : String) (hj : (sys.calls.set i call')[j]? = some cj)
    (hk : (sys.calls.set i call')[k]? = some ck) (hj' : cj.redeems = some hash)
    (hk' : ck.redeems = some hash) : j = k := by
  have hlt := lt_length_of_getElem? hcall
  -- Each of the two calls is the changed one or an old one.
  rcases (getElem?_set_iff hlt _).mp hj with ⟨hji, rfl⟩ | ⟨_, hj₀⟩
  · rcases (getElem?_set_iff hlt _).mp hk with ⟨hki, _⟩ | ⟨_, hk₀⟩
    · rw [hji, hki]
    · rcases hredeems hash hj' with hsame | hnone
      · rw [hji]
        exact h.single i k call ck hash hcall hk₀ hsame hk'
      · exact absurd hk' (hnone ck (List.mem_of_getElem? hk₀))
  · rcases (getElem?_set_iff hlt _).mp hk with ⟨hki, rfl⟩ | ⟨_, hk₀⟩
    · rcases hredeems hash hk' with hsame | hnone
      · rw [hki]
        exact h.single j i cj call hash hj₀ hcall hj' hsame
      · exact absurd hj' (hnone cj (List.mem_of_getElem? hj₀))
    · exact h.single j k cj ck hash hj₀ hk₀ hj' hk'

section Advance

variable {i : Nat} {env : AuthEnv} {store' : Store κ} {call call' : Call} {hash : String}

/-- The tokens that the calls hold stay known when a call goes on, if what it holds then is known
already. -/
theorem held_set (h : RotationInv tokens₀ sys) (hcall : sys.calls[i]? = some call)
    (hnone : call.issued = none)
    (hholds : ∀ hash, call'.holds = some hash → sys.Known tokens₀ hash) :
    ∀ other ∈ sys.calls.set i call', ∀ hash, other.holds = some hash →
      Known tokens₀ ⟨store', sys.calls.set i call'⟩ hash := by
  intro other hother hash hheld
  have hold : sys.Known tokens₀ hash := by
    rcases List.mem_or_eq_of_mem_set hother with hother | rfl
    · exact h.held other hother hash hheld
    · exact hholds hash hheld
  exact hold.set hcall hnone rfl

/-- A call that neither exchanges nor stores a token keeps the invariant. -/
theorem other (h : RotationInv tokens₀ sys) (hcall : sys.calls[i]? = some call)
    (hnone : call.issued = none) (hwf : System.WellFormed ⟨store', sys.calls.set i call'⟩)
    (rows : store'.refreshTokens.Sublist sys.store.refreshTokens)
    (redeems : ∀ hash, call'.redeems = some hash → call.redeems = some hash)
    (holds : ∀ hash, call'.holds = some hash →
      call.holds = some hash ∨ ∃ row ∈ sys.store.refreshTokens, row.tokenHash = hash) :
    RotationInv tokens₀ ⟨store', sys.calls.set i call'⟩ := by
  have hmem : call ∈ sys.calls := List.mem_of_getElem? hcall
  refine ⟨hwf, h.distinct.sublist (rows.map _), ?_, ?_, ?_, ?_⟩
  · intro row hrow
    exact (h.known row (rows.subset hrow)).set hcall hnone rfl
  · refine h.held_set hcall hnone ?_
    intro hash hheld
    rcases holds hash hheld with hold | ⟨row, hrow, rfl⟩
    · exact h.held call hmem hash hold
    · exact h.known row hrow
  · exact h.single_set hcall fun hash hsome => .inl (redeems hash hsome)
  · intro row hrow other hother hsome
    rcases List.mem_or_eq_of_mem_set hother with hother | rfl
    · exact h.unspent row (rows.subset hrow) other hother hsome
    · exact h.unspent row (rows.subset hrow) call hmem (redeems _ hsome)

/-- A `Refresh` that goes past its delete keeps the invariant, if the delete rotates alone. -/
theorem rotates (h : RotationInv tokens₀ sys) (hcall : sys.calls[i]? = some call)
    (hnone : call.issued = none) (hwf : System.WellFormed ⟨store', sys.calls.set i call'⟩)
    (halone : sys.RotatesAlone (.advance i env)) (rotates : call.rotates = some hash)
    (held : call.holds = some hash) (redeems : call'.redeems = some hash)
    (holds : call'.holds = some hash)
    (rows : store'.refreshTokens.Sublist sys.store.refreshTokens)
    (deleted : (∀ row ∈ store'.refreshTokens, row.tokenHash ≠ hash) ∨
      env.faults .deleteRefreshToken ≠ none ∧ store' = sys.store) :
    RotationInv tokens₀ ⟨store', sys.calls.set i call'⟩ := by
  have hcond := halone call hash hcall rotates
  -- Nobody else exchanges the token: its row is there, or the condition says so.
  have hothers : ∀ other ∈ sys.calls, other.redeems ≠ some hash := by
    split at hcond
    · rename_i hstored
      obtain ⟨row, hrow, rfl⟩ := hstored
      exact h.unspent row hrow
    · exact hcond
  -- After the delete its row is gone.
  have hgone : ∀ row ∈ store'.refreshTokens, row.tokenHash ≠ hash := by
    rcases deleted with hgone | ⟨hrefused, hsame⟩
    · exact hgone
    · rw [hsame]
      intro row hrow heq
      rw [if_pos ⟨row, hrow, heq⟩] at hcond
      exact hrefused hcond
  refine ⟨hwf, h.distinct.sublist (rows.map _), ?_, ?_, ?_, ?_⟩
  · intro row hrow
    exact (h.known row (rows.subset hrow)).set hcall hnone rfl
  · refine h.held_set hcall hnone ?_
    intro hash' hheld
    rw [holds] at hheld
    cases hheld
    exact h.held call (List.mem_of_getElem? hcall) hash held
  · refine h.single_set hcall ?_
    intro hash' hsome
    rw [redeems] at hsome
    cases hsome
    exact .inr hothers
  · intro row hrow other hother hsome
    rcases List.mem_or_eq_of_mem_set hother with hother | rfl
    · exact h.unspent row (rows.subset hrow) other hother hsome
    · rw [redeems] at hsome
      cases hsome
      exact hgone row hrow rfl

/-- A call that stores a new token keeps the invariant, if nobody has known the token. -/
theorem issues (h : RotationInv tokens₀ sys) (hcall : sys.calls[i]? = some call)
    (hnone : call.issued = none) {row : RefreshToken κ}
    (hwf : System.WellFormed
      ⟨{ sys.store with refreshTokens := sys.store.refreshTokens ++ [row] }, sys.calls.set i call'⟩)
    (hnew : ¬ sys.Known tokens₀ row.tokenHash) (redeems : call'.redeems = call.redeems)
    (holds : call'.holds = call.holds) (issued : call'.issued = some row.tokenHash) :
    RotationInv tokens₀
      ⟨{ sys.store with refreshTokens := sys.store.refreshTokens ++ [row] },
        sys.calls.set i call'⟩ := by
  have hmem : call ∈ sys.calls := List.mem_of_getElem? hcall
  -- Nobody has exchanged the new token, since nobody has read its row.
  have hunread : ∀ other ∈ sys.calls, other.redeems ≠ some row.tokenHash := by
    intro other hother hsome
    exact hnew (h.held other hother _ (Call.holds_of_redeems hsome))
  refine ⟨hwf, ?_, ?_, ?_, ?_, ?_⟩
  · rw [List.map_append, List.nodup_append]
    refine ⟨h.distinct, List.nodup_singleton _, ?_⟩
    intro old hold new hnew' heq
    obtain ⟨other, hother, rfl⟩ := List.mem_map.mp hold
    rw [List.mem_singleton.mp hnew'] at heq
    have hsame : other.tokenHash = row.tokenHash := heq
    exact hnew (hsame ▸ h.known other hother)
  · intro other hother
    rcases List.mem_append.mp hother with hother | hother
    · exact (h.known other hother).set hcall hnone rfl
    · rw [List.mem_singleton.mp hother]
      exact .inr ⟨call', List.mem_set (lt_length_of_getElem? hcall) _, issued⟩
  · refine h.held_set hcall hnone ?_
    intro hash' hheld
    rw [holds] at hheld
    exact h.held call hmem hash' hheld
  · exact h.single_set hcall fun hash' hsome => .inl (redeems ▸ hsome)
  · intro other hother other' hother' hsome
    have hbefore : ∃ before ∈ sys.calls, before.redeems = some other.tokenHash := by
      rcases List.mem_or_eq_of_mem_set hother' with hother' | rfl
      · exact ⟨other', hother', hsome⟩
      · exact ⟨call, hmem, redeems ▸ hsome⟩
    obtain ⟨before, hbefore, hsome'⟩ := hbefore
    rcases List.mem_append.mp hother with hother | hother
    · exact h.unspent other hother before hbefore hsome'
    · rw [List.mem_singleton.mp hother] at hsome'
      exact hunread before hbefore hsome'

/-- A statement of a call keeps the invariant, if its new token is fresh and its delete rotates
alone. -/
theorem advance (h : RotationInv tokens₀ sys) (hwf : sys'.WellFormed)
    (hfresh : sys.FreshToken tokens₀ (.advance i env)) (halone : sys.RotatesAlone (.advance i env))
    (hstep : step svc col sys (.advance i env) = some sys') : RotationInv tokens₀ sys' := by
  obtain ⟨call, call', hcall, hnone, hset, heffect⟩ := rotationStep_of_step h.wellFormed hstep
  obtain ⟨store', calls'⟩ := sys'
  dsimp only at hset heffect
  subst hset
  cases heffect with
  | other _ _ rows redeems holds => exact h.other hcall hnone hwf rows redeems holds
  | rotates _ _ hash rotates held redeems holds rows deleted =>
    exact h.rotates hcall hnone hwf halone rotates held redeems holds rows deleted
  | issues _ row token issues newToken hash redeems holds issued =>
    have hnew : ¬ sys.Known tokens₀ row.tokenHash := by
      rw [hash]
      exact hfresh call token hcall issues newToken
    rw [← hash] at issued
    exact h.issues hcall hnone hwf hnew redeems holds issued

end Advance

end RotationInv

/-- Take a database in which no two rows of `refresh_tokens` have the same hash, as its schema
demands, and any run of calls from it, in any order of their statements and with any faults.
If new tokens are fresh and every delete of a `Refresh` rotates alone, then every stored token
yields at most one successful `Refresh`, and a login has at most one live token. -/
theorem singleUse_of_rotatesAlone (svc : Service) (col : ExpiryColumn κ) (store : Store κ)
    (es : List Event) (sys : System κ)
    (hunique : (store.refreshTokens.map (·.tokenHash)).Nodup)
    (hfresh : StepsMeet (step svc col) (FreshToken (store.refreshTokens.map (·.tokenHash)))
      (System.start store) es)
    (halone : StepsMeet (step svc col) RotatesAlone (System.start store) es)
    (hrun : run (step svc col) (System.start store) es = some sys) : sys.SingleUse := by
  have hinv : RotationInv (store.refreshTokens.map (·.tokenHash)) sys := by
    refine run_invariant_of_stepsMeet _ ?_ (.start hunique) (hfresh.and halone) hrun
    rintro sys e sys' h ⟨hfresh, halone⟩ hstep
    have hwf := wellFormed_step h.wellFormed hstep
    cases e with
    | begin request =>
      cases hstep
      exact h.begin request hwf
    | advance i env => exact h.advance hwf hfresh halone hstep
  exact hinv.singleUse

/-! ### Two clients with one token -/

instance (tokens₀ : List String) (sys : System κ) (hash : String) :
    Decidable (sys.Known tokens₀ hash) :=
  inferInstanceAs (Decidable (_ ∨ _))

instance (tokens₀ : List String) (sys : System κ) : ∀ e, Decidable (sys.FreshToken tokens₀ e)
  | .begin _ => .isTrue trivial
  | .advance i env =>
    match hcall : sys.calls[i]?, htoken : env.newToken with
    | none, _ => .isTrue (by simp [FreshToken, hcall])
    | some _, .error _ => .isTrue (by simp [FreshToken, htoken])
    | some call, .ok token =>
      decidable_of_iff (call.issues = true → ¬ sys.Known tokens₀ (hashToken token))
        (by simp [FreshToken, hcall, htoken])

instance (sys : System κ) : ∀ e, Decidable (sys.RotatesAlone e)
  | .begin _ => .isTrue trivial
  | .advance i env =>
    match hcall : (sys.calls[i]?).bind Call.rotates with
    | none => .isTrue fun call hash h hash' => by simp [h, hash'] at hcall
    | some hash =>
      decidable_of_iff
        (if ∃ row ∈ sys.store.refreshTokens, row.tokenHash = hash then
          env.faults .deleteRefreshToken = none
        else ∀ other ∈ sys.calls, other.redeems ≠ some hash)
        (by
          obtain ⟨call, h, hrotates⟩ := Option.bind_eq_some_iff.mp hcall
          constructor
          · intro hcond call' hash' h' hrotates'
            rw [h] at h'
            cases h'
            rw [hrotates] at hrotates'
            cases hrotates'
            exact hcond
          · intro hall
            exact hall call hash h hrotates)

/-- A client exchanges the token. A second one tries after it. -/
def oneRefresh : List Event :=
  [.begin (.refresh "token"), .advance 0 (.quiet 0 "" ""), .advance 0 (.quiet 0 "" ""),
    .advance 0 (.quiet 0 "" ""), .advance 0 (.quiet 0 "r-2" "token-1"),
    .begin (.refresh "token"), .advance 1 (.quiet 0 "" "")]

/-- Two clients exchange the token. Both read its row before either deletes it. -/
def twoRefreshes : List Event :=
  [.begin (.refresh "token"), .begin (.refresh "token"), .advance 0 (.quiet 0 "" ""),
    .advance 1 (.quiet 0 "" ""), .advance 0 (.quiet 0 "" ""), .advance 1 (.quiet 0 "" ""),
    .advance 0 (.quiet 0 "" ""), .advance 1 (.quiet 0 "" ""),
    .advance 0 (.quiet 0 "r-2" "token-1"), .advance 1 (.quiet 0 "r-3" "token-2")]

theorem isSome_oneRefresh :
    (run (step settings storedColumn) (start oneSession) oneRefresh).isSome := by decide +kernel

theorem isSome_twoRefreshes :
    (run (step settings storedColumn) (start oneSession) twoRefreshes).isSome := by decide +kernel

/-- The token is exchanged once when the second client comes later. -/
theorem singleUse_oneRefresh :
    ((run (step settings storedColumn) (start oneSession) oneRefresh).get
      isSome_oneRefresh).SingleUse :=
  singleUse_of_rotatesAlone settings storedColumn oneSession oneRefresh _ (by decide +kernel)
    (by decide +kernel) (by decide +kernel) (Option.some_get isSome_oneRefresh).symm

/-- Two calls of `Refresh` succeed with one token. -/
theorem exchanged_twice :
    ¬ ∀ (svc : Service) (store : Store GoTime.Instant) (es : List Event)
      (sys : System GoTime.Instant), (store.refreshTokens.map (·.tokenHash)).Nodup →
      StepsMeet (step svc storedColumn) (FreshToken (store.refreshTokens.map (·.tokenHash)))
        (start store) es →
      run (step svc storedColumn) (start store) es = some sys → sys.SingleUse := by
  intro hall
  have hsingle := hall settings oneSession twoRefreshes _ (by decide +kernel) (by decide +kernel)
    (Option.some_get isSome_twoRefreshes).symm
  have htwice := hsingle.once 0 1 "token" "token" "u-1" "u-1" ⟨"u-1", "token-1", 900⟩
    ⟨"u-1", "token-2", 900⟩ (by decide +kernel) (by decide +kernel) rfl
  exact absurd htwice (by decide)

end System

end OtelHive.Auth
