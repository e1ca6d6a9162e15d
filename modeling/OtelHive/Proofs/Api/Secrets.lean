import OtelHive.Api.GitSources

/-!
# `OtelHive.Proofs.Api.Secrets`: which responses depend on the secrets of the sources

`redact` replaces the non-empty secrets by one mark, in a row and in a request. Two tables, or two
requests, that differ in the values of non-empty secrets only are those with the same redaction.

Every handler but the one that lists the sources works on redacted data as it does on the data
(`handleSource_redact`): its response is the same, and the table after it is the redacted one. So
its response reads no secret, over any number of requests. The list encodes the rows by the tags of
the struct, which keep the secrets (`toJson_eq_iff`). `body_eq_iff` joins both.
-/

set_option autoImplicit false

namespace OtelHive.Api

open OtelHive.Lib
open OtelHive.Gitsync

/-! ### Redaction -/

/-- One mark for every non-empty secret. -/
def redactSecret (secret : String) : String := if secret = "" then "" else "*"

theorem redactSecret_eq_empty_iff (secret : String) : redactSecret secret = "" ↔ secret = "" := by
  unfold redactSecret
  split <;> simp_all

/-- The row without the values of its secrets. -/
def redactRow (row : SourceRow) : SourceRow :=
  { row with
    token := redactSecret row.token
    webhookSecret := redactSecret row.webhookSecret }

/-- The request without the values of its secrets. -/
def CreateSourceRequest.redact (req : CreateSourceRequest) : CreateSourceRequest :=
  { req with
    token := redactSecret req.token
    webhookSecret := redactSecret req.webhookSecret }

def SourceRequest.redact : SourceRequest → SourceRequest
  | .create body => .create (body.map CreateSourceRequest.redact)
  | .update id body => .update id (body.map CreateSourceRequest.redact)
  | .list => .list
  | .get id => .get id
  | .delete id => .delete id

/-- The secrets of a row. -/
def secrets (row : SourceRow) : String × String := (row.token, row.webhookSecret)

/-- A row is what its redaction and its secrets say. -/
theorem eq_of_redactRow_of_secrets {a b : SourceRow} (h : redactRow a = redactRow b)
    (hs : secrets a = secrets b) : a = b := by
  obtain ⟨htoken, hsecret⟩ := Prod.mk.inj hs
  cases a
  cases b
  simp only [redactRow, SourceRow.mk.injEq] at h htoken hsecret ⊢
  grind

/-! ### Encodings -/

/-- The encoding of `sanitise` reads no secret. -/
theorem sanitise_redactRow (gs : SourceRow) : sanitise (redactRow gs) = sanitise gs := by
  have hmark : ∀ secret, (redactSecret secret != "") = (secret != "") := by
    intro secret
    rw [Bool.eq_iff_iff, bne_iff_ne, bne_iff_ne, ne_eq, redactSecret_eq_empty_iff]
  simp only [sanitise, redactRow, hmark]

/-- The field with the tag `omitempty` under its name. -/
theorem lookup_omitEmpty (name value : String) :
    (omitEmpty name value).lookup name = if value = "" then none else some (.str value) := by
  unfold omitEmpty
  split
  · rfl
  · exact List.lookup_cons_self

theorem lookup_omitEmpty_of_ne {name key : String} (h : key ≠ name) (value : String) :
    (omitEmpty name value).lookup key = none := by
  unfold omitEmpty
  split
  · rfl
  · simp [List.lookup_cons, beq_eq_false_iff_ne.mpr h]

/-- The encoding by the tags holds the token. -/
theorem lookup_token (gs : SourceRow) :
    (SourceRow.toJson gs).fields.lookup "token"
      = if gs.token = "" then none else some (.str gs.token) := by
  cases hsync : gs.lastSyncAt <;>
    simp [SourceRow.toJson, JsonValue.fields, hsync, List.lookup_append, List.lookup_cons,
      lookup_omitEmpty, lookup_omitEmpty_of_ne]

theorem lookup_webhook_secret (gs : SourceRow) :
    (SourceRow.toJson gs).fields.lookup "webhook_secret"
      = if gs.webhookSecret = "" then none else some (.str gs.webhookSecret) := by
  cases hsync : gs.lastSyncAt <;>
    simp [SourceRow.toJson, JsonValue.fields, hsync, List.lookup_append, List.lookup_cons,
      lookup_omitEmpty, lookup_omitEmpty_of_ne]

/-- A text is what its field says. -/
theorem eq_of_field_eq {s s' : String}
    (h : (if s = "" then none else some (JsonValue.str s))
      = if s' = "" then none else some (JsonValue.str s')) : s = s' := by
  split at h <;> split at h
  · rename_i hs hs'
    rw [hs, hs']
  · cases h
  · cases h
  · cases h
    rfl

/-- The encoding by the tags tells the secrets apart. -/
theorem toJson_eq_iff {a b : SourceRow} (h : redactRow a = redactRow b) :
    SourceRow.toJson a = SourceRow.toJson b ↔ secrets a = secrets b := by
  constructor
  · intro hjson
    have htoken : a.token = b.token := by
      apply eq_of_field_eq
      rw [← lookup_token, ← lookup_token, hjson]
    have hsecret : a.webhookSecret = b.webhookSecret := by
      apply eq_of_field_eq
      rw [← lookup_webhook_secret, ← lookup_webhook_secret, hjson]
    exact Prod.ext htoken hsecret
  · intro hs
    rw [eq_of_redactRow_of_secrets h hs]

/-! ### The store on redacted rows -/

namespace Redacted

variable (env : SourceEnv) (t : Sources)

theorem call_map {α β : Type} (op : SourceOp) (f : α → β) (result : Except String α) :
    env.call op (result.map f) = (env.call op result).map f := by
  unfold SourceEnv.call
  cases env.faults op <;> rfl

theorem get (id : String) :
    Sources.get env (t.map redactRow) id = (Sources.get env t id).map redactRow := by
  have hfind : (t.map redactRow).find? (·.id == id) = (t.find? (·.id == id)).map redactRow :=
    List.find?_map
  unfold Sources.get
  rw [← call_map, hfind]
  refine congrArg (env.call .get) ?_
  cases t.find? (·.id == id) <;> rfl

/-- The table and the record after a write, redacted. -/
def pair (p : Sources × SourceRow) : Sources × SourceRow := (p.1.map redactRow, redactRow p.2)

theorem create (gs : SourceRow) :
    Sources.create env (t.map redactRow) (redactRow gs) = (Sources.create env t gs).map pair := by
  unfold Sources.create
  rw [← call_map]
  refine congrArg (env.call .create) ?_
  have hprepare : Sources.prepare env (redactRow gs) = redactRow (Sources.prepare env gs) := rfl
  have hany : (t.map redactRow).any (·.id == (Sources.prepare env gs).id)
      = t.any (·.id == (Sources.prepare env gs).id) := List.any_map
  rw [hprepare]
  show (if (t.map redactRow).any (·.id == (Sources.prepare env gs).id) then _ else _) = _
  rw [hany]
  split
  · rfl
  · simp only [Except.map, pair, List.map_append, List.map_singleton]
    rfl

theorem update (gs : SourceRow) :
    Sources.update env (t.map redactRow) (redactRow gs) = (Sources.update env t gs).map pair := by
  unfold Sources.update
  rw [← call_map]
  refine congrArg (env.call .update) ?_
  simp only [Except.map, pair, List.map_map]
  refine congrArg Except.ok (Prod.ext (List.map_congr_left ?_) rfl)
  intro row _
  simp only [Function.comp_apply]
  show (if row.id = gs.id then _ else _) = _
  split
  · rfl
  · rfl

theorem delete (id : String) :
    Sources.delete env (t.map redactRow) id = (Sources.delete env t id).map (·.map redactRow) := by
  unfold Sources.delete
  rw [← call_map]
  refine congrArg (env.call .delete) ?_
  exact congrArg Except.ok List.filter_map

end Redacted

/-! ### The handlers on redacted data -/

section Handlers

variable (env : SourceEnv) (t : Sources)

/-- The required fields are no secrets. -/
theorem bind_redact (body : Except String CreateSourceRequest) :
    bind "createSourceRequest" CreateSourceRequest.required (body.map CreateSourceRequest.redact)
      = (bind "createSourceRequest" CreateSourceRequest.required body).map
        CreateSourceRequest.redact := by
  unfold bind
  cases body with
  | error err => rfl
  | ok req =>
    simp only [Except.map]
    rw [show req.redact.required = req.required from rfl]
    cases missingRequired "createSourceRequest" req.required <;> rfl

/-- An edit of redacted data is the redacted edit. -/
theorem edit_redact (req : CreateSourceRequest) (existing : SourceRow) :
    req.redact.edit (redactRow existing) = redactRow (req.edit existing) := by
  have htoken : (if redactSecret req.token != "" then redactSecret req.token
      else redactSecret existing.token)
      = redactSecret (if req.token != "" then req.token else existing.token) := by
    simp only [bne_iff_ne, ne_eq, redactSecret_eq_empty_iff]
    split <;> rfl
  exact congrArg (fun token => { redactRow (req.edit existing) with token := token }) htoken

theorem createSource_redact (gs : SourceRow) :
    createSource env (t.map redactRow) (redactRow gs)
      = (createSource env t gs).map Redacted.pair := by
  unfold createSource
  rw [show validate env.quote (redactRow gs) = validate env.quote gs from rfl, Redacted.create]
  cases validate env.quote gs <;> rfl

theorem updateSource_redact (gs : SourceRow) :
    updateSource env (t.map redactRow) (redactRow gs)
      = (updateSource env t gs).map Redacted.pair := by
  unfold updateSource
  rw [show validate env.quote (redactRow gs) = validate env.quote gs from rfl, Redacted.update]
  cases validate env.quote gs <;> rfl

/-- Apart from the list, a handler does the same on redacted data, and its response is the same. -/
theorem handleSource_redact {r : SourceRequest} (hr : r ≠ .list) :
    handleSource env (t.map redactRow) r.redact
      = ((handleSource env t r).1.map redactRow, (handleSource env t r).2) := by
  cases r with
  | list => exact absurd rfl hr
  | get id =>
    simp only [handleSource, SourceRequest.redact, handleGetSource, Redacted.get]
    cases Sources.get env t id with
    | error err => rfl
    | ok gs =>
      simp only [Except.map]
      rw [sanitise_redactRow]
  | create body =>
    simp only [handleSource, SourceRequest.redact, handleCreateSource, bind_redact]
    cases bind "createSourceRequest" CreateSourceRequest.required body with
    | error err => rfl
    | ok req =>
      simp only [Except.map]
      -- The row of a redacted request is the redacted row.
      rw [show req.redact.newSource = redactRow req.newSource from rfl, createSource_redact]
      cases createSource env t req.newSource with
      | error err => rfl
      | ok result =>
        simp only [Except.map, Redacted.pair]
        rw [sanitise_redactRow]
  | update id body =>
    simp only [handleSource, SourceRequest.redact, handleUpdateSource, Redacted.get, bind_redact]
    cases Sources.get env t id with
    | error err => rfl
    | ok existing =>
      simp only [Except.map]
      cases bind "createSourceRequest" CreateSourceRequest.required body with
      | error err => rfl
      | ok req =>
        simp only [edit_redact, updateSource_redact]
        cases updateSource env t (req.edit existing) with
        | error err => rfl
        | ok result =>
          simp only [Except.map, Redacted.pair]
          rw [sanitise_redactRow]
  | delete id =>
    simp only [handleSource, SourceRequest.redact, handleDeleteSource, Redacted.get,
      Redacted.delete]
    cases Sources.get env t id with
    | error err => rfl
    | ok gs =>
      simp only [Except.map]
      cases Sources.delete env t id <;> rfl

/-- A request that redacts as the list does is the list. -/
theorem redact_eq_list {r : SourceRequest} (h : SourceRequest.redact .list = r.redact) :
    r = .list := by
  cases r with
  | list => rfl
  | get | create | update | delete => cases h

/-- Data with the same redaction has the same redaction after a request. -/
theorem redact_handleSource {env : SourceEnv} {t₁ t₂ : Sources} {r₁ r₂ : SourceRequest}
    (ht : t₁.map redactRow = t₂.map redactRow) (hr : r₁.redact = r₂.redact) :
    (handleSource env t₁ r₁).1.map redactRow = (handleSource env t₂ r₂).1.map redactRow := by
  by_cases hlist : r₁ = .list
  · subst hlist
    have hlist₂ := redact_eq_list hr
    subst hlist₂
    have hkept : ∀ t : Sources, (handleSource env t .list).1 = t := by
      intro t
      simp only [handleSource, handleListSources]
      cases Sources.list env t <;> rfl
    rw [hkept, hkept, ht]
  · have hlist₂ : r₂ ≠ .list := fun h => hlist (redact_eq_list (by rw [hr, h]))
    have h₁ := handleSource_redact env t₁ hlist
    have h₂ := handleSource_redact env t₂ hlist₂
    rw [ht, hr, h₂] at h₁
    exact (congrArg Prod.fst h₁).symm

end Handlers

/-! ### The list -/

/-- Two tables in the order of creation, row by row. -/
theorem map_list_eq_iff {t₁ t₂ : Sources} (ht : t₁.map redactRow = t₂.map redactRow) :
    (t₁.insertionSort fun a b => a.createdAt ≤ b.createdAt).map SourceRow.toJson
        = (t₂.insertionSort fun a b => a.createdAt ≤ b.createdAt).map SourceRow.toJson
      ↔ t₁.map secrets = t₂.map secrets := by
  have hlength : t₁.length = t₂.length := by
    simpa using congrArg List.length ht
  -- Both tables are read off the list of the pairs of rows.
  obtain ⟨pairs, rfl, rfl⟩ : ∃ pairs : List (SourceRow × SourceRow),
      t₁ = pairs.map Prod.fst ∧ t₂ = pairs.map Prod.snd :=
    ⟨t₁.zip t₂, (List.map_fst_zip hlength.le).symm, (List.map_snd_zip hlength.ge).symm⟩
  have hpair : ∀ p ∈ pairs, redactRow p.1 = redactRow p.2 := by
    rw [List.map_map, List.map_map, List.map_inj_left] at ht
    exact ht
  have htime : ∀ p ∈ pairs, p.1.createdAt = p.2.createdAt := by
    intro p hp
    have hrow := congrArg SourceRow.createdAt (hpair p hp)
    exact hrow
  let sorted := pairs.insertionSort fun p q => p.1.createdAt ≤ q.1.createdAt
  have hfst : (pairs.map Prod.fst).insertionSort (fun a b => a.createdAt ≤ b.createdAt)
      = sorted.map Prod.fst := by
    refine (List.map_insertionSort (fun p q => p.1.createdAt ≤ q.1.createdAt)
      (fun a b => a.createdAt ≤ b.createdAt) Prod.fst pairs ?_).symm
    exact fun p _ q _ => Iff.rfl
  have hsnd : (pairs.map Prod.snd).insertionSort (fun a b => a.createdAt ≤ b.createdAt)
      = sorted.map Prod.snd := by
    refine (List.map_insertionSort (fun p q => p.1.createdAt ≤ q.1.createdAt)
      (fun a b => a.createdAt ≤ b.createdAt) Prod.snd pairs ?_).symm
    intro p hp q hq
    rw [htime p hp, htime q hq]
  have hsorted : ∀ p, p ∈ sorted ↔ p ∈ pairs :=
    fun p => (List.perm_insertionSort _ pairs).mem_iff
  -- The sort reads the times only, so both lists are sorted as the pairs are.
  rw [hfst, hsnd, List.map_map, List.map_map, List.map_map, List.map_map, List.map_inj_left,
    List.map_inj_left]
  refine forall_congr' ?_
  intro p
  rw [hsorted]
  exact forall_congr' fun hp => toJson_eq_iff (hpair p hp)

/-- For tables and requests that differ in the values of non-empty secrets only, the responses have
the same body exactly if the request is no list, or the list fails, or the tables have the same
secrets. -/
theorem body_eq_iff (env : SourceEnv) {t₁ t₂ : Sources} {r₁ r₂ : SourceRequest}
    (ht : t₁.map redactRow = t₂.map redactRow) (hr : r₁.redact = r₂.redact) :
    (handleSource env t₁ r₁).2.body = (handleSource env t₂ r₂).2.body ↔
      (r₁ = .list → env.faults .list = none → t₁.map secrets = t₂.map secrets) := by
  by_cases hlist : r₁ = .list
  · subst hlist
    have hlist₂ := redact_eq_list hr
    subst hlist₂
    simp only [handleSource, handleListSources, Sources.list, SourceEnv.call, forall_const]
    cases hfault : env.faults .list with
    | some err =>
      refine ⟨fun _ h => ?_, fun _ => rfl⟩
      cases h
    | none =>
      simp only [forall_const, Option.some.injEq, JsonValue.obj.injEq, List.cons.injEq,
        Prod.mk.injEq, JsonValue.arr.injEq, true_and, and_true]
      exact map_list_eq_iff ht
  · have hlist₂ : r₂ ≠ .list := fun h => hlist (redact_eq_list (by rw [hr, h]))
    have h₁ := handleSource_redact env t₁ hlist
    have h₂ := handleSource_redact env t₂ hlist₂
    rw [ht, hr, h₂] at h₁
    have hresponse := congrArg (fun p => p.2.body) h₁
    exact ⟨fun _ h => absurd h hlist, fun _ => hresponse.symm⟩

/-- A source with a token. -/
def sourceWithToken (token : String) : SourceRow :=
  { id := "s", name := "configs", repoURL := "https://example.com/configs", token,
    provider := "github" }

/-- An update of a source with another token, by a request with another token. -/
theorem body_eq_update :
    (handleSource (.quiet 1 "u") [sourceWithToken "first"]
        (.update "s" (.ok ⟨"configs", "https://example.com/configs", "new", "main", "", "github",
          .wrap 60, ""⟩))).2.body
      = (handleSource (.quiet 1 "u") [sourceWithToken "second"]
        (.update "s" (.ok ⟨"configs", "https://example.com/configs", "newer", "main", "", "github",
          .wrap 60, ""⟩))).2.body := by
  refine (body_eq_iff (.quiet 1 "u") ?_ ?_).mpr ?_
  · decide
  · rfl
  · intro h
    cases h

/-- The list of the sources shows the token. -/
theorem list_shows_token :
    [sourceWithToken "first"].map redactRow = [sourceWithToken "second"].map redactRow ∧
      (handleSource (.quiet 1 "u") [sourceWithToken "first"] .list).2.body
        ≠ (handleSource (.quiet 1 "u") [sourceWithToken "second"] .list).2.body := by
  have hredact : [sourceWithToken "first"].map redactRow
      = [sourceWithToken "second"].map redactRow := by
    decide
  refine ⟨hredact, ?_⟩
  intro h
  have hjson : [SourceRow.toJson (sourceWithToken "first")]
      = [SourceRow.toJson (sourceWithToken "second")] := by
    injection h with h
    injection h with h
    injection h with h
    injection h with _ h
    injection h
  have htoken := congrArg (fun items => items.map fun item => item.fields.lookup "token") hjson
  simp only [List.map_cons, List.map_nil, lookup_token] at htoken
  simp [sourceWithToken] at htoken

end OtelHive.Api
