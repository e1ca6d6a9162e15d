import OtelHive.Proofs.Auth.Steps

/-!
# `OtelHive.Proofs.Auth.Setup`: how many calls of `Setup` create a user

`Setup` counts the users, hashes the password and inserts the admin. The count and the insert
are two statements, so calls that have all counted no user insert one after the other. The
database refuses an insert for an id or a username that exists, and nothing else.

`oneAdmin_along_iff`: in every state of a run at most one call of `Setup` has created a user,
and the others have failed and left the users alone, exactly if every insert that the
database takes is one into an empty table.
-/

set_option autoImplicit false

namespace OtelHive.Auth

open OtelHive.Lib

variable {κ : Type}

/-- `Setup` does not insert the user: a random value or the hash fails, or the database
refuses the insert. -/
def Refuses (env : AuthEnv) (username password : String) (s : Store κ) : Prop :=
  (∃ err, env.newID = .error err) ∨ (∃ err, env.generateFromPassword password = .error err) ∨
    env.faults .createUser ≠ none ∨
    ∃ other ∈ s.users, env.newID = .ok other.id ∨ other.username = username

/-- The database refuses a user exactly for a fault, or for an id or a username that exists. -/
theorem Store.createUser_error_iff {env : AuthEnv} {s : Store κ} {user : User} :
    (∃ err, s.createUser env user = .error err) ↔
      env.faults .createUser ≠ none ∨
        ∃ other ∈ s.users, other.id = user.id ∨ other.username = user.username := by
  unfold Store.createUser
  by_cases hop : env.faults .createUser = none
  · -- Without a fault the two unique columns decide.
    rw [AuthEnv.call_of_faults_eq_none hop]
    constructor
    · rintro ⟨err, herr⟩
      right
      split at herr
      · rename_i hid
        obtain ⟨other, hother, heq⟩ := List.any_eq_true.mp hid
        exact ⟨other, hother, .inl (by simpa using heq)⟩
      · split at herr
        · rename_i hname
          obtain ⟨other, hother, heq⟩ := List.any_eq_true.mp hname
          exact ⟨other, hother, .inr (by simpa using heq)⟩
        · cases herr
    · rintro (h | ⟨other, hother, hid | hname⟩)
      · exact absurd hop h
      · rw [if_pos (List.any_eq_true.mpr ⟨other, hother, by simp [hid]⟩)]
        exact ⟨_, rfl⟩
      · split
        · exact ⟨_, rfl⟩
        · rw [if_pos (List.any_eq_true.mpr ⟨other, hother, by simp [hname]⟩)]
          exact ⟨_, rfl⟩
  · obtain ⟨err, herr⟩ := Option.ne_none_iff_exists'.mp hop
    unfold AuthEnv.call
    rw [herr]
    simp

/-- `Setup` fails between the count and the token pair exactly if the insert is refused. -/
theorem Service.createAdmin_error_iff {env : AuthEnv} {username password : String}
    {s : Store κ} : (∃ err, Service.createAdmin env username password s = .error err) ↔
      Refuses env username password s := by
  unfold Service.createAdmin Refuses
  cases env.newID with
  | error err => simp
  | ok id =>
    cases env.generateFromPassword password with
    | error err => simp
    | ok passwordHash =>
      have hcreate := @Store.createUser_error_iff κ env s ⟨id, username, passwordHash, .admin⟩
      dsimp only at hcreate ⊢
      simp only [reduceCtorEq, exists_false, false_or, Except.ok.injEq, eq_comm (a := id)]
      rw [← hcreate]
      cases s.createUser env ⟨id, username, passwordHash, .admin⟩ with
      | error err => simp
      | ok s' => simp

/-- A statement other than the insert of `Setup` leaves the users alone. -/
theorem Effect.users_eq {env : AuthEnv} {s s' : Store κ} {stage stage' : Stage}
    (h : Effect env s stage s' stage') (hother : ∀ username password,
      stage ≠ .createUser username password) : s'.users = s.users := by
  cases h with
  | create username password user newID name => exact absurd rfl (hother username password)
  | _ => rfl

namespace System

/-- Follow the calls of `Setup` that have created a user. -/
def recordCreator (creators : List Nat) (sys : System κ) : Event → List Nat
  | .begin _ => creators
  | .advance i env =>
    match sys.calls[i]? with
    | some ⟨_, .createUser username password⟩ =>
      match Service.createAdmin env username password sys.store with
      | .ok _ => creators ++ [i]
      | .error _ => creators
    | _ => creators

/-- At most one call has created a user, and the other calls of `Setup` that have ended have
failed and left the users alone. -/
structure OneAdmin (users₀ : List User) (p : System κ × List Nat) : Prop where
  once : p.2.length ≤ 1
  unchanged : ∃ created, p.1.store.users = users₀ ++ created ∧ created.length = p.2.length
  refused : ∀ (i : Nat) (username password : String) (outcome : Outcome),
    p.1.calls[i]? = some ⟨.setup username password, .done outcome⟩ → i ∉ p.2 →
    ∃ err, outcome = .failed err

/-- An insert that the database takes is one into an empty table. -/
def InsertsFirst (p : System κ × List Nat) : Event → Prop
  | .begin _ => True
  | .advance i env => ∀ request username password,
      p.1.calls[i]? = some ⟨request, .createUser username password⟩ →
      p.1.store.users = [] ∨ Refuses env username password p.1.store

/-- What holds of every run. A call that is past its count found the table empty, and one that
has inserted a user is recorded. -/
structure SetupInv (users₀ : List User) (p : System κ × List Nat) : Prop where
  wellFormed : p.1.WellFormed
  unchanged : ∃ created, p.1.store.users = users₀ ++ created ∧ created.length = p.2.length
  counted : ∀ (i : Nat) (request : Request) (username password : String),
    p.1.calls[i]? = some ⟨request, .createUser username password⟩ → users₀ = []
  recorded : ∀ (i : Nat) (username password : String) (stage : Stage),
    p.1.calls[i]? = some ⟨.setup username password, stage⟩ →
    (∃ user, stage = .issue user) ∨ (∃ userID pair, stage = .done (.issued userID pair)) → i ∈ p.2

/-! ### What one statement does -/

/-- What a statement of the call `i` does to the users and to the recorded calls. -/
inductive SetupStep (env : AuthEnv) (i : Nat) (p : System κ × List Nat) :
    System κ × List Nat → Prop where
  /-- `Setup` inserts a user. -/
  | inserted (request : Request) (username password : String) (user : User)
    (found : p.1.calls[i]? = some ⟨request, .createUser username password⟩)
    (accepted : ¬ Refuses env username password p.1.store) :
    SetupStep env i p
      (⟨{ p.1.store with users := p.1.store.users ++ [user] },
        p.1.calls.set i ⟨request, request.finish (.issue user)⟩⟩, p.2 ++ [i])
  /-- `Setup` fails to insert a user. -/
  | refused (request : Request) (username password : String) (err : AuthError)
    (found : p.1.calls[i]? = some ⟨request, .createUser username password⟩)
    (refuses : Refuses env username password p.1.store) :
    SetupStep env i p
      (⟨p.1.store, p.1.calls.set i ⟨request, request.finish (.done (.failed err))⟩⟩, p.2)
  /-- Any other statement. -/
  | other (call : Call) (stage : Stage) (store : Store κ) (found : p.1.calls[i]? = some call)
    (notCreate : ∀ username password, call.stage ≠ .createUser username password)
    (effect : Effect env p.1.store call.stage store stage) :
    SetupStep env i p
      (⟨store, p.1.calls.set i ⟨call.request, call.request.finish stage⟩⟩, p.2)

variable {svc : Service} {col : ExpiryColumn κ} {p q : System κ × List Nat} {users₀ : List User}

theorem setupStep_of_step {i : Nat} {env : AuthEnv}
    (h : withGhost (step svc col) recordCreator p (.advance i env) = some q) :
    SetupStep env i p q := by
  obtain ⟨hstep, hghost⟩ := withGhost_eq_some.mp h
  obtain ⟨sys', creators⟩ := q
  dsimp only at hstep hghost
  subst hghost
  by_cases hcreate : ∃ request username password,
      p.1.calls[i]? = some ⟨request, .createUser username password⟩
  · -- The ghost and the statement evaluate the same `createAdmin`.
    obtain ⟨request, username, password, hcall⟩ := hcreate
    simp only [step, hcall, Stage.isDone, Bool.false_eq_true, if_false, advance] at hstep
    simp only [recordCreator, hcall]
    cases hadmin : Service.createAdmin env username password p.1.store with
    | error err =>
      rw [hadmin] at hstep
      cases hstep
      have hrefuses : Refuses env username password p.1.store :=
        Service.createAdmin_error_iff.mp ⟨err, hadmin⟩
      exact .refused request username password err hcall hrefuses
    | ok created =>
      obtain ⟨user, store⟩ := created
      rw [hadmin] at hstep
      cases hstep
      obtain ⟨_, _, rfl⟩ := Service.createAdmin_ok hadmin
      have haccepted : ¬ Refuses env username password p.1.store := by
        intro hrefuses
        obtain ⟨err, herr⟩ := Service.createAdmin_error_iff.mpr hrefuses
        rw [hadmin] at herr
        cases herr
      exact .inserted request username password user hcall haccepted
  · obtain ⟨call, stage, store, hcall, _, heffect, rfl⟩ := step_advance hstep
    have hother : ∀ username password, call.stage ≠ .createUser username password := by
      intro username password heq
      exact hcreate ⟨call.request, username, password, by rw [hcall, ← heq]⟩
    have hsame : recordCreator p.2 p.1 (.advance i env) = p.2 := by
      obtain ⟨request, stage⟩ := call
      simp only [recordCreator, hcall]
      cases stage with
      | createUser username password => exact absurd rfl (hother username password)
      | _ => rfl
    rw [hsame]
    exact .other call stage store hcall hother heffect

namespace SetupInv

/-- A call of `Setup` that has ended without creating a user has failed. -/
theorem failed (h : SetupInv users₀ p) {i : Nat} {username password : String} {outcome : Outcome}
    (hcall : p.1.calls[i]? = some ⟨.setup username password, .done outcome⟩) (hi : i ∉ p.2) :
    ∃ err, outcome = .failed err := by
  have hreaches := h.wellFormed i _ hcall
  simp only [Request.Reaches, reduceCtorEq, false_or, Stage.done.injEq, exists_false] at hreaches
  rcases hreaches with ⟨userID, pair, rfl⟩ | hfailed
  · exact absurd (h.recorded i username password _ hcall (.inr ⟨userID, pair, rfl⟩)) hi
  · exact hfailed

/-- What remains of the property is that one call at most has created a user. -/
theorem oneAdmin_iff (h : SetupInv users₀ p) : OneAdmin users₀ p ↔ p.2.length ≤ 1 := by
  constructor
  · exact OneAdmin.once
  · intro honce
    exact ⟨honce, h.unchanged, fun i username password outcome hcall hi => h.failed hcall hi⟩

theorem start (store : Store κ) : SetupInv store.users (System.start store, []) where
  wellFormed := wellFormed_start store
  unchanged := ⟨[], by simp [System.start], rfl⟩
  counted i request username password hcall := by simp [System.start] at hcall
  recorded i username password stage hcall := by simp [System.start] at hcall

/-- A call that begins has not counted yet. -/
theorem begin (h : SetupInv users₀ p) {request : Request}
    (hstep : withGhost (step svc col) recordCreator p (.begin request) = some q) :
    SetupInv users₀ q := by
  have hwf := wellFormed_step h.wellFormed (withGhost_eq_some.mp hstep).1
  cases hstep
  refine ⟨hwf, h.unchanged, ?_, ?_⟩
  · intro j request' username password hcall
    rcases getElem?_concat_iff.mp hcall with ⟨_, heq⟩ | hcall
    · cases request <;> simp [Request.first] at heq
      split at heq <;> simp at heq
    · exact h.counted j request' username password hcall
  · intro j username password stage hcall hstage
    rcases getElem?_concat_iff.mp hcall with ⟨_, heq⟩ | hcall
    · cases heq
      simp [Request.first] at hstage
    · exact h.recorded j username password stage hcall hstage

/-- A statement of a call keeps the invariant. -/
theorem advance (h : SetupInv users₀ p) {i : Nat} {env : AuthEnv} (hwf : q.1.WellFormed)
    (hstep : SetupStep env i p q) : SetupInv users₀ q := by
  obtain ⟨created, husers, hlen⟩ := h.unchanged
  cases hstep with
  | inserted request username password user found accepted =>
    have hset := @getElem?_set_iff Call p.1.calls i
    -- Only a handler of a logout ends otherwise than its statement says.
    have hfinish : request.finish (.issue user) = .issue user := by cases request <;> rfl
    refine ⟨hwf, ⟨created ++ [user], ?_, ?_⟩, ?_, ?_⟩
    · dsimp only
      rw [husers, List.append_assoc]
    · simp [hlen]
    · intro j request' username' password' hcall
      rcases (hset (lt_length_of_getElem? found) _).mp hcall with ⟨_, heq⟩ | ⟨_, hcall⟩
      · rw [hfinish] at heq
        cases heq
      · exact h.counted j request' username' password' hcall
    · intro j username' password' stage hcall hstage
      rcases (hset (lt_length_of_getElem? found) _).mp hcall with ⟨rfl, _⟩ | ⟨_, hcall⟩
      · exact List.mem_append_right _ List.mem_cons_self
      · exact List.mem_append_left _ (h.recorded j username' password' stage hcall hstage)
  | refused request username password err found refuses =>
    have hset := @getElem?_set_iff Call p.1.calls i
    refine ⟨hwf, h.unchanged, ?_, ?_⟩
    · intro j request' username' password' hcall
      rcases (hset (lt_length_of_getElem? found) _).mp hcall with ⟨_, heq⟩ | ⟨_, hcall⟩
      · cases request <;> cases heq
      · exact h.counted j request' username' password' hcall
    · intro j username' password' stage hcall hstage
      rcases (hset (lt_length_of_getElem? found) _).mp hcall with ⟨_, heq⟩ | ⟨_, hcall⟩
      · rcases hstage with ⟨user, rfl⟩ | ⟨userID, pair, rfl⟩ <;> cases request <;> cases heq
      · exact h.recorded j username' password' stage hcall hstage
  | other call stage store found notCreate effect =>
    have hset := @getElem?_set_iff Call p.1.calls i
    have hsame : store.users = p.1.store.users := effect.users_eq notCreate
    refine ⟨hwf, ⟨created, by rw [← husers, ← hsame], hlen⟩, ?_, ?_⟩
    · intro j request' username' password' hcall
      rcases (hset (lt_length_of_getElem? found) _).mp hcall with ⟨_, heq⟩ | ⟨_, hcall⟩
      · have hstage := (Call.mk.inj heq).2
        rcases call.request.finish_cases stage with hf | hf
        · rw [hf] at hstage
          subst hstage
          obtain ⟨_, stage₀⟩ := call
          -- Only a count leads to the insert.
          cases effect with
          | count username password empty =>
            rw [husers] at empty
            exact (List.append_eq_nil_iff.mp empty).1
        · rw [hf] at hstage
          cases hstage
      · exact h.counted j request' username' password' hcall
    · intro j username' password' stage' hcall hstage
      rcases (hset (lt_length_of_getElem? found) _).mp hcall with ⟨rfl, heq⟩ | ⟨_, hcall⟩
      · obtain ⟨request, stage₀⟩ := call
        obtain ⟨rfl, rfl⟩ := Call.mk.inj heq
        have hreaches := h.wellFormed j _ found
        dsimp only at effect notCreate
        -- A call of `Setup` that issues a token pair was about to, so it had inserted its user.
        cases effect with
        | issue user pair row token owner hash =>
          exact h.recorded j username' password' _ found (.inl ⟨user, rfl⟩)
        | create username password user newID name => exact absurd rfl (notCreate username password)
        | _ => simp [Request.Reaches, Request.finish] at hreaches hstage
      · exact h.recorded j username' password' stage' hcall hstage

end SetupInv

/-- Every step keeps the invariant. -/
theorem setupInv_step {e : Event} (h : SetupInv users₀ p)
    (hstep : withGhost (step svc col) recordCreator p e = some q) : SetupInv users₀ q := by
  cases e with
  | begin request => exact h.begin hstep
  | advance i env =>
    have hwf := wellFormed_step h.wellFormed (withGhost_eq_some.mp hstep).1
    exact h.advance hwf (setupStep_of_step hstep)

/-- A step leads to one admin exactly if an insert that the database takes is the first one. -/
theorem oneAdmin_step {e : Event} (h : SetupInv users₀ p) (hone : OneAdmin users₀ p)
    (hstep : withGhost (step svc col) recordCreator p e = some q) :
    OneAdmin users₀ q ↔ InsertsFirst p e := by
  rw [(setupInv_step h hstep).oneAdmin_iff]
  have honce := hone.once
  cases e with
  | begin request =>
    cases hstep
    exact ⟨fun _ => trivial, fun _ => honce⟩
  | advance i env =>
    cases setupStep_of_step hstep with
    | inserted request username password user found accepted =>
      obtain ⟨created, husers, hlen⟩ := h.unchanged
      -- The call has counted no user, so the users are those that calls have created.
      have hempty : users₀ = [] := h.counted i request username password found
      rw [hempty, List.nil_append] at husers
      have hfirst : p.1.store.users = [] ↔ p.2.length = 0 := by
        rw [husers, ← hlen, List.length_eq_zero_iff]
      have hcond : InsertsFirst p (.advance i env) ↔ p.1.store.users = [] := by
        constructor
        · intro hinserts
          exact (hinserts request username password found).resolve_right accepted
        · intro hnil _ _ _ _
          exact .inl hnil
      rw [hcond, hfirst, List.length_append, List.length_singleton]
      omega
    | refused request username password err found refuses =>
      have hcond : InsertsFirst p (.advance i env) := by
        intro request' username' password' hcall
        rw [found] at hcall
        cases hcall
        exact .inr refuses
      exact ⟨fun _ => hcond, fun _ => honce⟩
    | other call stage store found notCreate effect =>
      have hcond : InsertsFirst p (.advance i env) := by
        intro request' username' password' hcall
        rw [found] at hcall
        cases hcall
        exact absurd rfl (notCreate username' password')
      exact ⟨fun _ => hcond, fun _ => honce⟩

/-- For every database, every number of calls and every order of their statements: one call of
`Setup` at most creates a user, and the others fail and leave the users alone, in every state
of the run if and only if every insert that the database takes is one into an empty table. -/
theorem oneAdmin_along_iff (svc : Service) (col : ExpiryColumn κ) (store : Store κ)
    (es : List Event) (hrun : (run (step svc col) (System.start store) es).isSome) :
    Along (withGhost (step svc col) recordCreator) (OneAdmin store.users)
        (System.start store, []) es ↔
      StepsMeet (withGhost (step svc col) recordCreator) InsertsFirst
        (System.start store, []) es := by
  have hinv := SetupInv.start store
  have hone : OneAdmin store.users (System.start store, []) := hinv.oneAdmin_iff.mpr (by simp)
  have hrun' : (run (withGhost (step svc col) recordCreator) (System.start store, []) es).isSome :=
    by rwa [isSome_run_withGhost]
  exact along_iff_stepsMeet (D := fun _ => True) (fun _ _ _ => setupInv_step)
    (fun _ _ _ _ => oneAdmin_step) (fun _ _ => trivial) hinv hone hrun'

/-! ### Two administrators -/

/-- An empty database. -/
def noUsers : Store String := ⟨[], []⟩

/-- Two clients set the service up with names of their own. Both count before either inserts. -/
def twoSetups : List Event :=
  [.begin (.setup "alice" "a-secret"), .begin (.setup "bob" "b-secret"),
    .advance 0 (.quiet 0 "u-1" "token-1"), .advance 1 (.quiet 0 "u-2" "token-2"),
    .advance 0 (.quiet 0 "u-1" "token-1"), .advance 1 (.quiet 0 "u-2" "token-2")]

/-- A client sets the service up, and a second one comes after the insert. -/
def oneSetup : List Event :=
  [.begin (.setup "alice" "a-secret"), .advance 0 (.quiet 0 "u-1" "token-1"),
    .advance 0 (.quiet 0 "u-1" "token-1"), .begin (.setup "bob" "b-secret"),
    .advance 1 (.quiet 0 "u-2" "token-2")]

/-- One admin is there when the second client comes after the insert. -/
theorem oneAdmin_oneSetup :
    Along (withGhost (step settings (datetimeColumn driverDecode)) recordCreator) (OneAdmin [])
      (System.start noUsers, []) oneSetup := by
  refine (oneAdmin_along_iff settings (datetimeColumn driverDecode) noUsers oneSetup
    (by decide +kernel)).mpr ⟨trivial, ?_⟩
  intro _ h
  cases h
  refine ⟨fun _ _ _ hcall => (by cases hcall), ?_⟩
  intro _ h
  cases h
  refine ⟨fun _ _ _ _ => .inl rfl, ?_⟩
  intro _ h
  cases h
  refine ⟨trivial, ?_⟩
  intro _ h
  cases h
  exact ⟨fun _ _ _ hcall => (by cases hcall), fun _ _ => trivial⟩

/-- Two calls of `Setup` create a user each. -/
theorem two_admins :
    ¬ ∀ (svc : Service) (col : ExpiryColumn String) (store : Store String) (es : List Event),
      (run (step svc col) (System.start store) es).isSome →
      Along (withGhost (step svc col) recordCreator) (OneAdmin store.users)
        (System.start store, []) es := by
  intro hall
  have halong := hall settings (datetimeColumn driverDecode) noUsers twoSetups (by decide +kernel)
  have hlast : ∃ q, run (withGhost (step settings (datetimeColumn driverDecode)) recordCreator)
      (System.start noUsers, []) twoSetups = some q ∧ q.2 = [0, 1] := ⟨_, rfl, rfl⟩
  obtain ⟨q, hrun, hcreators⟩ := hlast
  have honce := (halong.last hrun).once
  rw [hcreators] at honce
  exact absurd honce (by decide)

end System

end OtelHive.Auth
