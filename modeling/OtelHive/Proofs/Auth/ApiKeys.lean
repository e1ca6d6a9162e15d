import Mathlib.Data.List.Basic
import OtelHive.Auth.ApiKeys
import OtelHive.Lib.Table

/-!
# `OtelHive.Proofs.Auth.ApiKeys`: which API keys are valid

`LiveKey` reads the log of the calls: a raw key was returned by `CreateApiKey`, and its owner has
not revoked it since. `KeyInv` says that the rows of `api_keys` are exactly the live keys, each
under its HMAC. `answer_effect` is the only proof that looks into the calls. It reads a row as a
`Credential`, without the columns that decide nothing.

`apiKey_lifecycle` assumes that no other issued key has the HMAC of the presented one, and, for a
key to be accepted, that the two reads of the call succeed. It does not need fresh ids: the columns
`id` and `key_hash` are unique, and `RevokeApiKey` deletes by the id and the user.
-/

set_option autoImplicit false

namespace OtelHive.Auth

open OtelHive.Lib

/-! ### What the log says -/

/-- `CreateApiKey` returned the raw key to the user, with the id. -/
def Returned (entry : ApiKeyCall × ApiKeyResult) (raw : Bytes) (userID id : String) : Prop :=
  ∃ env name key, entry = (.create env userID name, .create (.ok (key, raw))) ∧ key.id = id

/-- `RevokeApiKey` of the user revoked the id. -/
def RevokedBy (entry : ApiKeyCall × ApiKeyResult) (userID id : String) : Prop :=
  ∃ env, entry = (.revoke env id userID, .revoke none)

/-- The raw key was returned to the user with the id, and the user has not revoked it since. -/
def LiveKey (log : ApiKeyLog) (raw : Bytes) (userID id : String) : Prop :=
  ∃ before entry after, log = before ++ entry :: after ∧ Returned entry raw userID id ∧
    ∀ later ∈ after, ¬ RevokedBy later userID id

/-- The raw key is a live key of the user. -/
def Live (log : ApiKeyLog) (raw : Bytes) (userID : String) : Prop :=
  ∃ id, LiveKey log raw userID id

/-- The raw key was returned to some user. -/
def Issued (log : ApiKeyLog) (raw : Bytes) : Prop :=
  ∃ entry ∈ log, ∃ userID id, Returned entry raw userID id

/-- The id was given to a key of the user. -/
def Owns (log : ApiKeyLog) (userID id : String) : Prop :=
  ∃ entry ∈ log, ∃ raw, Returned entry raw userID id

/-- A call for a user of the table. -/
def ApiKeyCall.ByUser (users : List User) : ApiKeyCall → Prop
  | .create _ userID _ => ∃ user ∈ users, user.id = userID
  | .revoke _ _ userID => ∃ user ∈ users, user.id = userID
  | .validate _ _ => True

/-- The live keys after one more entry. -/
theorem liveKey_concat {log : ApiKeyLog} {entry : ApiKeyCall × ApiKeyResult} {raw : Bytes}
    {userID id : String} :
    LiveKey (log ++ [entry]) raw userID id ↔
      Returned entry raw userID id ∨ (LiveKey log raw userID id ∧ ¬ RevokedBy entry userID id) := by
  constructor
  · rintro ⟨before, issued, after, heq, hreturned, hlater⟩
    -- The entry is the one that issued the key, or the last one after it.
    rcases List.eq_nil_or_concat after with rfl | ⟨rest, last, rfl⟩
    · obtain ⟨_, hlast⟩ := List.append_inj' heq rfl
      cases hlast
      exact Or.inl hreturned
    · rw [List.concat_eq_append, ← List.cons_append, ← List.append_assoc] at heq
      obtain ⟨hlog, hlast⟩ := List.append_inj' heq rfl
      cases hlast
      refine Or.inr ⟨⟨before, issued, rest, hlog, hreturned, ?_⟩, ?_⟩
      · intro later hmem
        exact hlater later (by simp [hmem])
      · exact hlater entry (by simp)
  · rintro (hreturned | ⟨⟨before, issued, after, rfl, hreturned, hlater⟩, hkept⟩)
    · refine ⟨log, entry, [], rfl, hreturned, ?_⟩
      intro later hmem
      cases hmem
    · refine ⟨before, issued, after ++ [entry], by simp, hreturned, ?_⟩
      intro later hmem
      rcases List.mem_append.mp hmem with hmem | hmem
      · exact hlater later hmem
      · rw [List.mem_singleton.mp hmem]
        exact hkept

/-- A live key was returned. -/
theorem LiveKey.returned {log : ApiKeyLog} {raw : Bytes} {userID id : String}
    (h : LiveKey log raw userID id) : ∃ entry ∈ log, Returned entry raw userID id := by
  obtain ⟨before, entry, after, rfl, hreturned, _⟩ := h
  exact ⟨entry, by simp, hreturned⟩

/-! ### What a call does to the table -/

/-- The columns of a row that decide whether a key is valid. -/
structure Credential where
  id : String
  userID : String
  keyHash : String
deriving DecidableEq

/-- The columns of a row. -/
def ApiKeyRow.credential {κ : Type} (row : ApiKeyRow κ) : Credential :=
  ⟨row.id, row.userID, row.keyHash⟩

/-- The rows of `api_keys`. -/
def ApiKeyStore.credentials {κ : Type} (s : ApiKeyStore κ) : List Credential :=
  s.apiKeys.map (·.credential)

/-- What a call does to the rows, with its result. -/
inductive KeyEffect (jwtSecret : Bytes) (rows : List Credential) :
    ApiKeyCall × ApiKeyResult → List Credential → Prop where
  | create (env : ApiKeyEnv) (userID name : String) (key : ApiKey) (raw : Bytes)
    (newHash : ∀ row ∈ rows, row.keyHash ≠ hmacKeyHash raw jwtSecret)
    (hasPrefix : apiKeyPrefix.isPrefixOf raw = true) :
    KeyEffect jwtSecret rows (.create env userID name, .create (.ok (key, raw)))
      (rows ++ [⟨key.id, userID, hmacKeyHash raw jwtSecret⟩])
  | createFailed (env : ApiKeyEnv) (userID name : String) (err : AuthError) :
    KeyEffect jwtSecret rows (.create env userID name, .create (.error err)) rows
  | revoke (env : ApiKeyEnv) (keyID userID : String) :
    KeyEffect jwtSecret rows (.revoke env keyID userID, .revoke none)
      (rows.filter fun row => !(row.id == keyID && row.userID == userID))
  | revokeFailed (env : ApiKeyEnv) (keyID userID : String) (err : AuthError) :
    KeyEffect jwtSecret rows (.revoke env keyID userID, .revoke (some err)) rows
  | validate (env : ApiKeyEnv) (rawKey : Bytes) (result : Except AuthError (User × ApiKey)) :
    KeyEffect jwtSecret rows (.validate env rawKey, .validate result) rows

section Effects

variable {κ : Type} {jwtSecret : Bytes} {col : ExpiryColumn κ} {env : ApiKeyEnv}
  {s s' : ApiKeyStore κ}

/-- A call that returns a value is one that the database did not refuse. -/
theorem ApiKeyEnv.keyCall_eq_ok {α : Type} {op : ApiKeyOp} {result : Except AuthError α} {a : α}
    (h : env.keyCall op result = .ok a) : result = .ok a := by
  unfold ApiKeyEnv.keyCall at h
  split at h
  · cases h
  · exact h

/-- A call that the database does not refuse. -/
theorem ApiKeyEnv.keyCall_of_none {α : Type} {op : ApiKeyOp} (h : env.keyFaults op = none)
    (result : Except AuthError α) : env.keyCall op result = result := by
  simp [ApiKeyEnv.keyCall, h]

/-- An insert adds a row whose hash is new. -/
theorem createApiKey_ok {k : ApiKey} (h : s.createApiKey env k = .ok s') :
    s'.toStore = s.toStore ∧ (∀ row ∈ s.credentials, row.keyHash ≠ k.keyHash) ∧
      s'.credentials = s.credentials ++ [⟨k.id, k.userID, k.keyHash⟩] := by
  have hinsert := ApiKeyEnv.keyCall_eq_ok h
  split at hinsert
  · cases hinsert
  split at hinsert
  · cases hinsert
  · rename_i hnew
    split at hinsert
    · cases hinsert
    · cases hinsert
      refine ⟨rfl, ?_, ?_⟩
      · intro row hrow
        obtain ⟨stored, hstored, rfl⟩ := List.mem_map.mp hrow
        exact not_any_key_iff.mp hnew stored hstored
      · simp [ApiKeyStore.credentials, ApiKeyRow.credential]

/-- A delete takes away the rows with the id and the user, and there was one. -/
theorem deleteApiKey_ok {id userID : String} (h : s.deleteApiKey env id userID = .ok s') :
    s'.toStore = s.toStore ∧
      s'.credentials = s.credentials.filter fun row => !(row.id == id && row.userID == userID) := by
  have hdelete := ApiKeyEnv.keyCall_eq_ok h
  split at hdelete
  · cases hdelete
    refine ⟨rfl, ?_⟩
    simp only [ApiKeyStore.credentials, List.filter_map]
    rfl
  · cases hdelete

/-- A touch leaves the columns of the credentials alone. -/
theorem touchApiKeyLastUsed_ok {id : String} (h : s.touchApiKeyLastUsed col env id = .ok s') :
    s'.toStore = s.toStore ∧ s'.credentials = s.credentials := by
  have htouch := ApiKeyEnv.keyCall_eq_ok h
  cases htouch
  refine ⟨rfl, ?_⟩
  simp only [ApiKeyStore.credentials, List.map_map]
  refine List.map_congr_left ?_
  intro row _
  simp only [Function.comp_apply]
  split <;> rfl

/-- A new raw key has the prefix. -/
theorem generateRawApiKey_starts {raw : Bytes} (h : generateRawApiKey env = .ok raw) :
    apiKeyPrefix.isPrefixOf raw = true := by
  unfold generateRawApiKey at h
  split at h
  · cases h
  · cases h
    rw [List.isPrefixOf_iff_prefix]
    exact List.prefix_append _ _

/-- A validation changes no credential. -/
theorem validateApiKey_frame (jwtSecret : Bytes) (col : ExpiryColumn κ) (env : ApiKeyEnv)
    (s : ApiKeyStore κ) (rawKey : Bytes) :
    (validateApiKey jwtSecret col env s rawKey).1.toStore = s.toStore ∧
      (validateApiKey jwtSecret col env s rawKey).1.credentials = s.credentials := by
  unfold validateApiKey
  split
  · exact ⟨rfl, rfl⟩
  split
  · exact ⟨rfl, rfl⟩
  · exact ⟨rfl, rfl⟩
  split
  · exact ⟨rfl, rfl⟩
  split
  · exact ⟨rfl, rfl⟩
  · rename_i htouch
    exact touchApiKeyLastUsed_ok htouch

/-- What a call does. No call changes the users. -/
theorem answer_effect (jwtSecret : Bytes) (col : ExpiryColumn κ) (s : ApiKeyStore κ)
    (call : ApiKeyCall) :
    (call.answer jwtSecret col s).1.toStore = s.toStore ∧
      KeyEffect jwtSecret s.credentials (call, (call.answer jwtSecret col s).2)
        (call.answer jwtSecret col s).1.credentials := by
  cases call with
  | create env userID name =>
    simp only [ApiKeyCall.answer, createApiKey]
    cases hid : env.newID with
    | error err => exact ⟨rfl, .createFailed env userID name _⟩
    | ok id =>
      dsimp only
      cases hraw : generateRawApiKey env with
      | error err => exact ⟨rfl, .createFailed env userID name _⟩
      | ok raw =>
        dsimp only
        cases hcreate : s.createApiKey env
            { id, userID, name, keyHash := hmacKeyHash raw jwtSecret } with
        | error err => exact ⟨rfl, .createFailed env userID name err⟩
        | ok s' =>
          obtain ⟨hstore, hnew, hrows⟩ := createApiKey_ok hcreate
          refine ⟨hstore, ?_⟩
          dsimp only
          rw [hrows]
          exact .create env userID name _ raw hnew (generateRawApiKey_starts hraw)
  | revoke env keyID userID =>
    simp only [ApiKeyCall.answer, revokeApiKey]
    cases hdelete : s.deleteApiKey env keyID userID with
    | error err => exact ⟨rfl, .revokeFailed env keyID userID err⟩
    | ok s' =>
      obtain ⟨hstore, hrows⟩ := deleteApiKey_ok hdelete
      refine ⟨hstore, ?_⟩
      dsimp only
      rw [hrows]
      exact .revoke env keyID userID
  | validate env rawKey =>
    obtain ⟨hstore, hrows⟩ := validateApiKey_frame jwtSecret col env s rawKey
    refine ⟨hstore, ?_⟩
    show KeyEffect jwtSecret s.credentials _
      (validateApiKey jwtSecret col env s rawKey).1.credentials
    rw [hrows]
    exact .validate env rawKey _

end Effects

/-! ### The invariant -/

/-- The rows and the log of the calls that led to them.

* `nodup`: no two rows have one hash.
* `live`: a row is there exactly for each live key, under the HMAC of the key.
* `prefixed`: each raw key that was returned has the prefix. -/
structure KeyInv (jwtSecret : Bytes) (rows : List Credential) (log : ApiKeyLog) : Prop where
  nodup : (rows.map (·.keyHash)).Nodup
  live : ∀ c, c ∈ rows ↔
    ∃ raw, LiveKey log raw c.userID c.id ∧ hmacKeyHash raw jwtSecret = c.keyHash
  prefixed : ∀ entry ∈ log, ∀ raw userID id, Returned entry raw userID id →
    apiKeyPrefix.isPrefixOf raw = true

section Invariant

variable {jwtSecret : Bytes} {rows rows' : List Credential} {log : ApiKeyLog}
  {entry : ApiKeyCall × ApiKeyResult}

/-- Without rows and without calls. -/
theorem KeyInv.start (jwtSecret : Bytes) : KeyInv jwtSecret [] [] := by
  refine ⟨List.nodup_nil, ?_, ?_⟩
  · intro c
    constructor
    · intro h
      cases h
    · rintro ⟨raw, hlive, _⟩
      obtain ⟨entry, hentry, _⟩ := hlive.returned
      cases hentry
  · intro entry hentry
    cases hentry

/-- An entry that neither returns a key nor revokes one. -/
theorem KeyInv.quiet (hinv : KeyInv jwtSecret rows log)
    (hcreate : ∀ raw userID id, ¬ Returned entry raw userID id)
    (hrevoke : ∀ userID id, ¬ RevokedBy entry userID id) :
    KeyInv jwtSecret rows (log ++ [entry]) := by
  refine ⟨hinv.nodup, ?_, ?_⟩
  · intro c
    rw [hinv.live]
    simp only [liveKey_concat, hcreate, hrevoke, false_or, not_false_eq_true, and_true]
  · intro e he raw userID id hreturned
    rcases List.mem_append.mp he with he | he
    · exact hinv.prefixed e he raw userID id hreturned
    · rw [List.mem_singleton.mp he] at hreturned
      exact absurd hreturned (hcreate raw userID id)

/-- An entry that returns a key. -/
theorem KeyInv.create (hinv : KeyInv jwtSecret rows log) (env : ApiKeyEnv) (userID name : String)
    (key : ApiKey) (raw : Bytes) (hnew : ∀ row ∈ rows, row.keyHash ≠ hmacKeyHash raw jwtSecret)
    (hstarts : apiKeyPrefix.isPrefixOf raw = true) :
    KeyInv jwtSecret (rows ++ [⟨key.id, userID, hmacKeyHash raw jwtSecret⟩])
      (log ++ [(.create env userID name, .create (.ok (key, raw)))]) := by
  have hreturned : ∀ raw' u id, Returned (.create env userID name, .create (.ok (key, raw)))
      raw' u id ↔ raw' = raw ∧ u = userID ∧ id = key.id := by
    intro raw' u id
    constructor
    · rintro ⟨_, _, _, heq, rfl⟩
      cases heq
      exact ⟨rfl, rfl, rfl⟩
    · rintro ⟨rfl, rfl, rfl⟩
      exact ⟨env, name, key, rfl, rfl⟩
  have hrevoked : ∀ u id,
      ¬ RevokedBy (.create env userID name, .create (.ok (key, raw))) u id := by
    rintro u id ⟨_, heq⟩
    cases heq
  refine ⟨?_, ?_, ?_⟩
  · refine nodup_concat_key hinv.nodup ?_
    exact not_any_key_iff.mpr hnew
  · intro c
    rw [List.mem_append, List.mem_singleton, hinv.live]
    constructor
    · rintro (⟨raw', hlive, hhash⟩ | rfl)
      · exact ⟨raw', liveKey_concat.mpr (Or.inr ⟨hlive, hrevoked _ _⟩), hhash⟩
      · exact ⟨raw, liveKey_concat.mpr (Or.inl ((hreturned _ _ _).mpr ⟨rfl, rfl, rfl⟩)), rfl⟩
    · rintro ⟨raw', hlive, hhash⟩
      rcases liveKey_concat.mp hlive with hret | ⟨hlive, _⟩
      · obtain ⟨rfl, huser, hid⟩ := (hreturned _ _ _).mp hret
        refine Or.inr ?_
        cases c
        simp_all
      · exact Or.inl ⟨raw', hlive, hhash⟩
  · intro e he raw' u id hret
    rcases List.mem_append.mp he with he | he
    · exact hinv.prefixed e he raw' u id hret
    · rw [List.mem_singleton.mp he, hreturned] at hret
      rw [hret.1]
      exact hstarts

/-- An entry that revokes a key. -/
theorem KeyInv.revoke (hinv : KeyInv jwtSecret rows log) (env : ApiKeyEnv)
    (keyID userID : String) :
    KeyInv jwtSecret (rows.filter fun row => !(row.id == keyID && row.userID == userID))
      (log ++ [(.revoke env keyID userID, .revoke none)]) := by
  have hreturned : ∀ raw u id,
      ¬ Returned (.revoke env keyID userID, .revoke none) raw u id := by
    rintro raw u id ⟨_, _, _, heq, _⟩
    cases heq
  have hrevoked : ∀ u id, RevokedBy (.revoke env keyID userID, .revoke none) u id ↔
      id = keyID ∧ u = userID := by
    intro u id
    constructor
    · rintro ⟨_, heq⟩
      cases heq
      exact ⟨rfl, rfl⟩
    · rintro ⟨rfl, rfl⟩
      exact ⟨env, rfl⟩
  refine ⟨?_, ?_, ?_⟩
  · exact hinv.nodup.sublist (List.filter_sublist.map _)
  · intro c
    rw [List.mem_filter, hinv.live]
    simp only [liveKey_concat, hreturned, hrevoked, false_or]
    simp only [Bool.not_eq_true', Bool.and_eq_false_iff, beq_eq_false_iff_ne]
    grind
  · intro e he raw u id hret
    rcases List.mem_append.mp he with he | he
    · exact hinv.prefixed e he raw u id hret
    · rw [List.mem_singleton.mp he] at hret
      exact absurd hret (hreturned raw u id)

/-- One call. -/
theorem KeyInv.effect (hinv : KeyInv jwtSecret rows log)
    (heffect : KeyEffect jwtSecret rows entry rows') : KeyInv jwtSecret rows' (log ++ [entry]) := by
  cases heffect with
  | create env userID name key raw hnew hstarts =>
    exact hinv.create env userID name key raw hnew hstarts
  | revoke env keyID userID => exact hinv.revoke env keyID userID
  | createFailed | revokeFailed | validate =>
    refine hinv.quiet ?_ ?_
    · rintro raw u id ⟨_, _, _, heq, _⟩
      cases heq
    · rintro u id ⟨_, heq⟩
      cases heq

end Invariant

/-! ### Runs -/

section Lifecycle

variable {κ : Type} (jwtSecret : Bytes) (col : ExpiryColumn κ)

/-- The rows are the live keys after every sequence of calls. The log has the calls, and the users
are the ones of the start. -/
theorem keyInv_foldl (s : ApiKeyStore κ) (log : ApiKeyLog) (calls : List ApiKeyCall)
    (hinv : KeyInv jwtSecret s.credentials log) :
    KeyInv jwtSecret (calls.foldl (ApiKeyCall.perform jwtSecret col) (s, log)).1.credentials
        (calls.foldl (ApiKeyCall.perform jwtSecret col) (s, log)).2 ∧
      (calls.foldl (ApiKeyCall.perform jwtSecret col) (s, log)).1.toStore = s.toStore ∧
      (calls.foldl (ApiKeyCall.perform jwtSecret col) (s, log)).2.map Prod.fst
        = log.map Prod.fst ++ calls := by
  induction calls generalizing s log with
  | nil => exact ⟨hinv, rfl, by simp⟩
  | cons call calls ih =>
    rw [List.foldl_cons]
    obtain ⟨hstore, heffect⟩ := answer_effect jwtSecret col s call
    obtain ⟨hrest, hstore', hcalls⟩ := ih (call.answer jwtSecret col s).1
      (log ++ [(call, (call.answer jwtSecret col s).2)]) (hinv.effect heffect)
    refine ⟨hrest, hstore'.trans hstore, ?_⟩
    rw [ApiKeyCall.perform]
    rw [hcalls]
    simp

variable {jwtSecret col}

/-- A revocation by a user that was never given the id. -/
theorem revokeApiKey_of_not_owns {s : ApiKeyStore κ} {log : ApiKeyLog} {env : ApiKeyEnv}
    {keyID userID : String} (hinv : KeyInv jwtSecret s.credentials log)
    (hfault : env.keyFaults .deleteApiKey = none) (howns : ¬ Owns log userID keyID) :
    revokeApiKey env s keyID userID = (s, some .notFound) := by
  have hnone : ¬ s.apiKeys.any (fun row => row.id == keyID && row.userID == userID) = true := by
    rw [List.any_eq_true]
    rintro ⟨row, hrow, hmatch⟩
    simp only [Bool.and_eq_true, beq_iff_eq] at hmatch
    obtain ⟨raw, hlive, _⟩ := (hinv.live row.credential).mp (List.mem_map_of_mem hrow)
    obtain ⟨entry, hentry, hreturned⟩ := hlive.returned
    refine howns ⟨entry, hentry, raw, ?_⟩
    rw [← hmatch.1, ← hmatch.2]
    exact hreturned
  rw [revokeApiKey, ApiKeyStore.deleteApiKey, if_neg hnone, ApiKeyEnv.keyCall_of_none hfault]

/-- The user that is found has the id. -/
theorem id_of_getUserByID {s : Store κ} {env : AuthEnv} {id : String} {user : User}
    (h : s.getUserByID env id = .ok user) : user.id = id := by
  rw [Store.getUserByID, AuthEnv.call] at h
  cases hfault : env.faults .getUserByID with
  | some err => simp [hfault] at h
  | none =>
    cases hfind : s.users.find? (·.id == id) with
    | none => simp [hfault, hfind] at h
    | some found =>
      simp only [hfault, hfind, Except.ok.injEq] at h
      rw [← h]
      exact key_of_find? hfind

/-- A raw key that is accepted has a row, and the user is the owner of the row. -/
theorem validateApiKey_ok {s : ApiKeyStore κ} {env : ApiKeyEnv} {raw : Bytes} {user : User}
    {key : ApiKey} (h : (validateApiKey jwtSecret col env s raw).2 = .ok (user, key)) :
    ∃ c ∈ s.credentials, c.keyHash = hmacKeyHash raw jwtSecret ∧ c.userID = user.id := by
  rw [validateApiKey] at h
  cases hstarts : !apiKeyPrefix.isPrefixOf raw with
  | true => simp [hstarts] at h
  | false =>
    cases hget : s.getApiKeyByHash col env (hmacKeyHash raw jwtSecret) with
    | error err => cases err <;> simp [hstarts, hget] at h
    | ok k =>
      cases hfound : s.toStore.getUserByID env.toAuthEnv k.userID with
      | error err => simp [hstarts, hget, hfound] at h
      | ok owner =>
        have howner : owner = user := by
          cases htouch : s.touchApiKeyLastUsed col env k.id <;> simp_all
        rw [howner] at hfound
        have hid := id_of_getUserByID hfound
        have hrow := ApiKeyEnv.keyCall_eq_ok hget
        cases hfind : s.apiKeys.find? (·.keyHash == hmacKeyHash raw jwtSecret) with
        | none =>
          rw [hfind] at hrow
          cases hrow
        | some row =>
          rw [hfind] at hrow
          cases hrow
          have hhash : row.keyHash = hmacKeyHash raw jwtSecret := key_of_find? hfind
          exact ⟨row.credential, List.mem_map_of_mem (List.mem_of_find?_eq_some hfind), hhash,
            hid.symm⟩

/-- A raw key with the prefix and a row is accepted for the owner of the row, who is a user. -/
theorem validateApiKey_of_mem {s : ApiKeyStore κ} {env : ApiKeyEnv} {raw : Bytes} {c : Credential}
    (hnodup : (s.credentials.map (·.keyHash)).Nodup)
    (hkeyFault : env.keyFaults .getApiKeyByHash = none)
    (huserFault : env.faults .getUserByID = none)
    (hstarts : apiKeyPrefix.isPrefixOf raw = true) (hc : c ∈ s.credentials)
    (hhash : c.keyHash = hmacKeyHash raw jwtSecret)
    (hstored : ∃ user ∈ s.users, user.id = c.userID) :
    ∃ user key, (validateApiKey jwtSecret col env s raw).2 = .ok (user, key) ∧
      user.id = c.userID := by
  obtain ⟨row, hrow, rfl⟩ := List.mem_map.mp hc
  have hkeys : (s.apiKeys.map (·.keyHash)).Nodup := by
    simpa [ApiKeyStore.credentials, ApiKeyRow.credential, Function.comp_def] using hnodup
  have hfind : s.apiKeys.find? (·.keyHash == hmacKeyHash raw jwtSecret) = some row :=
    (find?_key_iff hkeys).mpr ⟨hrow, hhash⟩
  have hsome : (s.users.find? (·.id == row.userID)).isSome := by
    rw [← any_key_eq]
    exact any_key_iff.mpr hstored
  obtain ⟨user, huser⟩ := Option.isSome_iff_exists.mp hsome
  have hget : s.getApiKeyByHash col env (hmacKeyHash raw jwtSecret) = .ok {
      id := row.id, userID := row.userID, name := row.name, keyHash := row.keyHash
      lastUsed := row.lastUsed.map col.read } := by
    rw [ApiKeyStore.getApiKeyByHash, ApiKeyEnv.keyCall_of_none hkeyFault, hfind]
  have hfound : s.toStore.getUserByID env.toAuthEnv row.userID = .ok user := by
    rw [Store.getUserByID, AuthEnv.call, huserFault, huser]
  -- The error of the last update is dropped.
  cases htouch : s.touchApiKeyLastUsed col env row.id <;>
    exact ⟨user, _, by simp [validateApiKey, hstarts, hget, hfound, htouch]; rfl,
      key_of_find? huser⟩

/-- The owner of each key that was returned is a user. -/
theorem LiveKey.user {log : ApiKeyLog} {calls : List ApiKeyCall} {users : List User}
    {raw : Bytes} {u id : String} (hlive : LiveKey log raw u id)
    (hcalls : log.map Prod.fst = calls) (husers : ∀ call ∈ calls, call.ByUser users) :
    ∃ user ∈ users, user.id = u := by
  obtain ⟨entry, hentry, env, name, key, rfl, _⟩ := hlive.returned
  have hcall := husers (.create env u name)
  rw [← hcalls] at hcall
  exact hcall (List.mem_map_of_mem hentry)

/-- The life of an API key. The calls are any calls by users of the table, in any order, and each
may fail.

`ValidateApiKey` accepts a raw key for a user exactly when the key is live: `CreateApiKey`
returned it to the user, who has not revoked it since. It accepts no other key whatever the
database does, and it accepts a live one when its two reads succeed. `RevokeApiKey` with an id that
the user was never given fails with `ErrNotFound`, and it changes nothing. -/
theorem apiKey_lifecycle (jwtSecret : Bytes) (col : ExpiryColumn κ) (s₀ : ApiKeyStore κ)
    (calls : List ApiKeyCall) (hkeys : s₀.apiKeys = [])
    (husers : ∀ call ∈ calls, call.ByUser s₀.users) :
    let s := (calls.foldl (ApiKeyCall.perform jwtSecret col) (s₀, [])).1
    let log := (calls.foldl (ApiKeyCall.perform jwtSecret col) (s₀, [])).2
    (∀ (env : ApiKeyEnv) (raw : Bytes) (user : User) (key : ApiKey),
      (∀ raw', Issued log raw' → hmacKeyHash raw' jwtSecret = hmacKeyHash raw jwtSecret →
        raw' = raw) →
      (validateApiKey jwtSecret col env s raw).2 = .ok (user, key) → Live log raw user.id) ∧
    (∀ (env : ApiKeyEnv) (raw : Bytes) (u : String),
      env.keyFaults .getApiKeyByHash = none → env.faults .getUserByID = none →
      Live log raw u →
      ∃ user key, (validateApiKey jwtSecret col env s raw).2 = .ok (user, key) ∧ user.id = u) ∧
    (∀ (env : ApiKeyEnv) (keyID u : String), env.keyFaults .deleteApiKey = none →
      ¬ Owns log u keyID → revokeApiKey env s keyID u = (s, some .notFound)) := by
  have hstart : KeyInv jwtSecret s₀.credentials [] := by
    rw [ApiKeyStore.credentials, hkeys]
    exact .start jwtSecret
  obtain ⟨hinv, hstore, hcalls⟩ := keyInv_foldl jwtSecret col s₀ [] calls hstart
  dsimp only
  refine ⟨?_, ?_, ?_⟩
  · intro env raw user key hcollide hvalid
    obtain ⟨c, hc, hhash, huser⟩ := validateApiKey_ok hvalid
    obtain ⟨raw', hlive, hhash'⟩ := (hinv.live c).mp hc
    obtain ⟨entry, hentry, hreturned⟩ := hlive.returned
    -- The row is of a key with the same HMAC, which is the presented one.
    have hsame : raw' = raw :=
      hcollide raw' ⟨entry, hentry, _, _, hreturned⟩ (hhash'.trans hhash)
    rw [← hsame, ← huser]
    exact ⟨c.id, hlive⟩
  · intro env raw u hkeyFault huserFault hlive
    obtain ⟨id, hlive⟩ := hlive
    obtain ⟨entry, hentry, hreturned⟩ := hlive.returned
    have hmem : (⟨id, u, hmacKeyHash raw jwtSecret⟩ : Credential) ∈
        (calls.foldl (ApiKeyCall.perform jwtSecret col) (s₀, [])).1.credentials :=
      (hinv.live _).mpr ⟨raw, hlive, rfl⟩
    refine validateApiKey_of_mem hinv.nodup hkeyFault huserFault
      (hinv.prefixed entry hentry raw u id hreturned) hmem rfl ?_
    rw [hstore]
    exact hlive.user hcalls husers
  · intro env keyID u hfault howns
    exact revokeApiKey_of_not_owns hinv hfault howns

/-- Two users, and no key. -/
def twoUsers : ApiKeyStore GoTime.Instant where
  users := [⟨"u-1", "admin", "hash", .admin⟩, ⟨"u-2", "viewer", "hash", .viewer⟩]
  refreshTokens := []
  apiKeys := []

/-- The random bytes are zero, and the database is there. -/
def zeroKeys : ApiKeyEnv where
  now := 0
  newID := .ok "k-1"
  newToken := .ok "token"
  generateFromPassword := .ok
  signedString _ := .ok "jwt"
  faults _ := none
  foreignKeys := true
  newKey := .ok ⟨List.replicate apiKeyRawBytes 0, List.length_replicate⟩
  keyFaults _ := none

/-- The raw key of the zero bytes. -/
def zeroRaw : Bytes :=
  apiKeyPrefix ++ (hexEncode (List.replicate apiKeyRawBytes 0)).toUTF8.data.toList

/-- The first user makes a key. -/
def oneKey : ApiKeyStore GoTime.Instant × ApiKeyLog :=
  [ApiKeyCall.create zeroKeys "u-1" "ci"].foldl (ApiKeyCall.perform [] ⟨id, id⟩) (twoUsers, [])

/-- The log has the key. -/
theorem oneKey_log : ∃ key : ApiKey, key.id = "k-1" ∧
    oneKey.2 = [(.create zeroKeys "u-1" "ci", .create (.ok (key, zeroRaw)))] :=
  ⟨_, rfl, rfl⟩

/-- The only key that was returned. -/
theorem returned_oneKey {raw : Bytes} {u id : String}
    (h : ∃ entry ∈ oneKey.2, Returned entry raw u id) : raw = zeroRaw ∧ u = "u-1" := by
  obtain ⟨key, _, hlog⟩ := oneKey_log
  obtain ⟨entry, hentry, env, name, k, rfl, _⟩ := h
  rw [hlog, List.mem_singleton] at hentry
  cases hentry
  exact ⟨rfl, rfl⟩

/-- The key of the first user is valid for the first user alone, and the second user cannot revoke
it. -/
theorem apiKey_lifecycle_oneKey :
    (∃ user key, (validateApiKey [] ⟨id, id⟩ zeroKeys oneKey.1 zeroRaw).2 = .ok (user, key) ∧
      user.id = "u-1") ∧
    (∀ user key, (validateApiKey [] ⟨id, id⟩ zeroKeys oneKey.1 zeroRaw).2 = .ok (user, key) →
      Live oneKey.2 zeroRaw user.id) ∧
    revokeApiKey zeroKeys oneKey.1 "k-1" "u-2" = (oneKey.1, some .notFound) := by
  have husers : ∀ call ∈ [ApiKeyCall.create zeroKeys "u-1" "ci"], call.ByUser twoUsers.users := by
    intro call hcall
    rw [List.mem_singleton.mp hcall]
    exact ⟨_, List.mem_cons_self, rfl⟩
  obtain ⟨hsound, hcomplete, hscoped⟩ := apiKey_lifecycle [] ⟨id, id⟩ twoUsers
    [.create zeroKeys "u-1" "ci"] rfl husers
  obtain ⟨key, hid, hlog⟩ := oneKey_log
  refine ⟨?_, ?_, ?_⟩
  · refine hcomplete zeroKeys zeroRaw "u-1" rfl rfl ⟨"k-1", [], _, [], hlog, ?_, by simp⟩
    exact ⟨zeroKeys, "ci", key, rfl, hid⟩
  · intro user key
    refine hsound zeroKeys zeroRaw user key ?_
    rintro raw' ⟨entry, hentry, u, id, hreturned⟩ _
    exact (returned_oneKey ⟨entry, hentry, hreturned⟩).1
  · refine hscoped zeroKeys "k-1" "u-2" rfl ?_
    rintro ⟨entry, hentry, raw, hreturned⟩
    have huser := (returned_oneKey ⟨entry, hentry, hreturned⟩).2
    exact absurd huser (by decide)

end Lifecycle

end OtelHive.Auth
