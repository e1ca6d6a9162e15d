import OtelHive.Lib.Table
import OtelHive.Proofs.Api.Secrets

/-!
# `OtelHive.Proofs.Api.EditSource`: what an edit with blank secrets changes

The form of the page sends back what the read endpoints returned, with a blank token and a blank
webhook secret, to keep the stored ones. `HandleUpdateSource` keeps the token. The webhook secret it
overwrites, so an accepted edit keeps the configuration exactly if there is none
(`edit_keeps_iff`), and afterwards every webhook passes (`accepted_after_edit`).
-/

set_option autoImplicit false

namespace OtelHive.Api

open OtelHive.Lib
open OtelHive.Gitsync

/-- The fields that a request can set, as they are stored. -/
def config (row : SourceRow) : CreateSourceRequest where
  name := row.name
  repoURL := row.repoURL
  token := row.token
  branch := row.branch
  configRoot := row.configRoot
  provider := row.provider
  pollIntervalSeconds := row.pollIntervalSeconds
  webhookSecret := row.webhookSecret

/-- The request repeats the fields of a source that a read endpoint has returned, with blank
secrets. -/
structure CreateSourceRequest.Repeats (req : CreateSourceRequest) (body : JsonValue) : Prop where
  name : body.fields.lookup "name" = some (.str req.name)
  repoURL : body.fields.lookup "repo_url" = some (.str req.repoURL)
  token : req.token = ""
  branch : body.fields.lookup "branch" = some (.str req.branch)
  configRoot : body.fields.lookup "config_root" = some (.str req.configRoot)
  provider : body.fields.lookup "provider" = some (.str req.provider)
  pollIntervalSeconds :
    body.fields.lookup "poll_interval_seconds" = some (.num req.pollIntervalSeconds.1)
  webhookSecret : req.webhookSecret = ""

/-- The form after `openEdit` of a source. -/
def blankEdit (row : SourceRow) : CreateSourceRequest :=
  { config row with token := "", webhookSecret := "" }

/-- Both read endpoints return the fields that the form repeats. -/
theorem repeats_blankEdit (row : SourceRow) :
    (blankEdit row).Repeats (sanitise row) ∧ (blankEdit row).Repeats (SourceRow.toJson row) := by
  constructor
  · exact ⟨rfl, rfl, rfl, rfl, rfl, rfl, rfl, rfl⟩
  · constructor <;>
      simp [SourceRow.toJson, JsonValue.fields, blankEdit, config, List.lookup_append,
        List.lookup_cons, lookup_omitEmpty_of_ne]

/-- A request that repeats what the read endpoint returns is that of the form. -/
theorem CreateSourceRequest.Repeats.eq_blankEdit {req : CreateSourceRequest} {row : SourceRow}
    (h : req.Repeats (sanitise row)) : req = blankEdit row := by
  have hform := (repeats_blankEdit row).1
  have hstr : ∀ {s s' : String} {o : Option JsonValue}, o = some (.str s) → o = some (.str s') →
      s = s' := by
    rintro s s' o rfl h'
    cases h'
    rfl
  have hnum : ∀ {x y : GoInt} {o : Option JsonValue}, o = some (.num x.1) → o = some (.num y.1) →
      x = y := by
    rintro x y o rfl h'
    exact Subtype.ext (JsonValue.num.inj (Option.some.inj h'))
  -- Each field is the one that the body has under its key.
  obtain ⟨name, repoURL, token, branch, configRoot, provider, poll, secret⟩ := req
  obtain rfl := hstr h.name hform.name
  obtain rfl := hstr h.repoURL hform.repoURL
  obtain rfl := h.token
  obtain rfl := hstr h.branch hform.branch
  obtain rfl := hstr h.configRoot hform.configRoot
  obtain rfl := hstr h.provider hform.provider
  obtain rfl := hnum h.pollIntervalSeconds hform.pollIntervalSeconds
  obtain rfl := h.webhookSecret
  rfl

/-! ### The edit -/

/-- Every stored configuration is as before. -/
def Kept (env : SourceEnv) (t t' : Sources) : Prop :=
  ∀ id, (t'.get env id).map config = (t.get env id).map config

/-- The service or the database refuses to store the row again. -/
def Refused (env : SourceEnv) (row : SourceRow) : Prop :=
  (validate env.quote row).isSome ∨ (env.faults .update).isSome

/-- The row that a request with blank secrets stores. -/
theorem config_edit_blankEdit (row : SourceRow) :
    config ((blankEdit row).edit row) = { config row with webhookSecret := "" } := by
  -- A stored interval that is not positive stays as well.
  have hpoll : (if 0 < row.pollIntervalSeconds.1 then row.pollIntervalSeconds
      else row.pollIntervalSeconds) = row.pollIntervalSeconds := by
    split <;> rfl
  exact congrArg (fun poll => { config row with pollIntervalSeconds := poll, webhookSecret := "" })
    hpoll

/-- The validation does not read the secrets. -/
theorem validate_edit_blankEdit (quote : String → String) (row : SourceRow) :
    validate quote ((blankEdit row).edit row) = validate quote row := rfl

/-- A valid row has the fields that a request must set. -/
theorem required_of_validate {quote : String → String} {row : SourceRow}
    (h : validate quote row = none) : row.name ≠ "" ∧ row.repoURL ≠ "" ∧ row.provider ≠ "" := by
  unfold validate at h
  split at h
  · cases h
  · rename_i hname
    split at h
    · cases h
    · rename_i hrepo
      split at h
      · rename_i hprovider
        -- The empty text is blank, and no provider has an empty name.
        refine ⟨fun hempty => hname ?_, fun hempty => hrepo ?_, ?_⟩
        · rw [hempty]
          rfl
        · rw [hempty]
          rfl
        · intro hempty
          rw [hempty] at hprovider
          simp at hprovider
      · cases h

/-- An edit that is not refused writes the row again, with a blank webhook secret. -/
theorem handleUpdateSource_of_accepted {env : SourceEnv} {t : Sources} {id : String}
    {row : SourceRow} (hget : t.get env id = .ok row) (haccepted : ¬ Refused env row) :
    (handleUpdateSource env t id (.ok (blankEdit row))).1
      = t.map fun r => if r.id = row.id then r.configuredAs ((blankEdit row).edit row) env.now
          else r := by
  rw [Refused, not_or, Option.not_isSome_iff_eq_none, Option.not_isSome_iff_eq_none] at haccepted
  obtain ⟨hvalid, hfault⟩ := haccepted
  obtain ⟨hname, hrepo, hprovider⟩ := required_of_validate hvalid
  have hbind : bind "createSourceRequest" CreateSourceRequest.required (.ok (blankEdit row))
      = .ok (blankEdit row) := by
    simp [bind, missingRequired, CreateSourceRequest.required, blankEdit, config, hname, hrepo,
      hprovider]
  unfold handleUpdateSource updateSource Sources.update SourceEnv.call
  simp only [hget, hbind, validate_edit_blankEdit, hvalid, hfault]
  rfl

/-- An edit that is refused leaves the table as it is. -/
theorem handleUpdateSource_of_refused {env : SourceEnv} {t : Sources} {id : String}
    {row : SourceRow} (hget : t.get env id = .ok row) (hrefused : Refused env row) :
    (handleUpdateSource env t id (.ok (blankEdit row))).1 = t := by
  unfold handleUpdateSource
  simp only [hget, bind]
  cases missingRequired "createSourceRequest" (blankEdit row).required with
  -- `gin` refuses the request before the service does.
  | some err => rfl
  | none =>
    simp only [updateSource, validate_edit_blankEdit]
    cases hvalid : validate env.quote row with
    | some err => rfl
    | none =>
      rcases hrefused with hinvalid | hfault
      · rw [hvalid] at hinvalid
        cases hinvalid
      · obtain ⟨err, herr⟩ := Option.isSome_iff_exists.mp hfault
        simp only [Sources.update, SourceEnv.call, herr]

/-- A read that succeeds has found the row. -/
theorem find?_of_get {env : SourceEnv} {t : Sources} {id : String} {row : SourceRow}
    (h : t.get env id = .ok row) :
    env.faults .get = none ∧ t.find? (·.id == id) = some row := by
  obtain ⟨hfault, hget⟩ := SourceEnv.call_eq_ok h
  refine ⟨hfault, ?_⟩
  cases hfind : t.find? (·.id == id) with
  | none =>
    rw [hfind] at hget
    cases hget
  | some found =>
    rw [hfind] at hget
    cases hget
    rfl

/-- The row of an id after an edit that is not refused. -/
theorem find?_of_accepted {env : SourceEnv} {t : Sources} {id : String} {row : SourceRow}
    (hget : t.get env id = .ok row) (haccepted : ¬ Refused env row) (id' : String) :
    (handleUpdateSource env t id (.ok (blankEdit row))).1.find? (·.id == id')
      = if id' = id then some (row.configuredAs ((blankEdit row).edit row) env.now)
        else t.find? (·.id == id') := by
  obtain ⟨_, hfind⟩ := find?_of_get hget
  have hid : row.id = id := key_of_find? hfind
  have hkey : ∀ r : SourceRow,
      (r.configuredAs ((blankEdit row).edit row) env.now).id = r.id := fun _ => rfl
  rw [handleUpdateSource_of_accepted hget haccepted, find?_update_key hkey, hid]
  split
  · rename_i heq
    rw [heq, hfind, Option.map_some]
  · rfl

/-- What the reads find, up to the fields that cannot be set. -/
theorem kept_iff {env : SourceEnv} {t t' : Sources} (hfault : env.faults .get = none) :
    Kept env t t' ↔
      ∀ id, (t'.find? (·.id == id)).map config = (t.find? (·.id == id)).map config := by
  refine forall_congr' ?_
  intro id
  unfold Sources.get SourceEnv.call
  simp only [hfault]
  cases t'.find? (·.id == id) <;> cases t.find? (·.id == id) <;> simp [Except.map]

/-- An edit that repeats the fields of a stored source with blank secrets keeps every stored
configuration exactly if the source has no webhook secret or the edit is refused. -/
theorem edit_keeps_iff (env : SourceEnv) (t : Sources) {id : String} {row : SourceRow}
    (hget : t.get env id = .ok row) {req : CreateSourceRequest}
    (hreq : req.Repeats (sanitise row)) :
    Kept env t (handleUpdateSource env t id (.ok req)).1 ↔
      row.webhookSecret = "" ∨ Refused env row := by
  rw [hreq.eq_blankEdit]
  by_cases hrefused : Refused env row
  · rw [handleUpdateSource_of_refused hget hrefused]
    exact ⟨fun _ => Or.inr hrefused, fun _ _ => rfl⟩
  · obtain ⟨hfault, hfind⟩ := find?_of_get hget
    have hconfig : config (row.configuredAs ((blankEdit row).edit row) env.now)
        = { config row with webhookSecret := "" } :=
      config_edit_blankEdit row
    rw [kept_iff hfault]
    constructor
    -- The edited row itself shows whether the secret is kept.
    · intro h
      have hrow := h id
      rw [find?_of_accepted hget hrefused, if_pos rfl, hfind, Option.map_some, Option.map_some,
        hconfig, Option.some.injEq] at hrow
      exact Or.inl (congrArg CreateSourceRequest.webhookSecret hrow).symm
    · rintro (hsecret | hrefused') id'
      · rw [find?_of_accepted hget hrefused]
        split
        · rename_i heq
          rw [heq, hfind, Option.map_some, Option.map_some, hconfig, ← hsecret]
          rfl
        · rfl
      · exact absurd hrefused' hrefused

/-- After an edit with a blank webhook secret that is not refused, every webhook passes. -/
theorem accepted_after_edit {env : SourceEnv} {t : Sources} {id : String} {row : SourceRow}
    (hget : t.get env id = .ok row) (haccepted : ¬ Refused env row) (payload : Bytes)
    (sigHeader : String) :
    validateWebhookSignature env (handleUpdateSource env t id (.ok (blankEdit row))).1 id payload
      sigHeader = none := by
  obtain ⟨hfault, _⟩ := find?_of_get hget
  unfold validateWebhookSignature Sources.get SourceEnv.call
  simp only [hfault, find?_of_accepted hget haccepted, if_true]
  exact if_pos rfl

/-- A source with a webhook secret. -/
def sourceWithSecret : SourceRow :=
  { id := "s", name := "configs", repoURL := "https://example.com/configs", branch := "main",
    configRoot := "configs", provider := "github", pollIntervalSeconds := .wrap 300,
    webhookSecret := "secret" }

/-- A source without a secret keeps its configuration, and its token. -/
theorem edit_keeps_token :
    Kept (.quiet 1 "u") [{ sourceWithSecret with token := "token", webhookSecret := "" }]
      (handleUpdateSource (.quiet 1 "u")
        [{ sourceWithSecret with token := "token", webhookSecret := "" }] "s"
        (.ok (blankEdit { sourceWithSecret with token := "token", webhookSecret := "" }))).1 :=
  (edit_keeps_iff (.quiet 1 "u") _ rfl (repeats_blankEdit
    { sourceWithSecret with token := "token", webhookSecret := "" }).1).mpr (Or.inl rfl)

/-- The source loses its webhook secret. A webhook that was refused before passes. -/
theorem edit_clears_secret :
    (blankEdit sourceWithSecret).Repeats (sanitise sourceWithSecret) ∧
      (handleUpdateSource (.quiet 1 "u") [sourceWithSecret] "s"
          (.ok (blankEdit sourceWithSecret))).1
        = [{ sourceWithSecret with webhookSecret := "", updatedAt := 1 }] ∧
      ¬ Kept (.quiet 1 "u") [sourceWithSecret]
        (handleUpdateSource (.quiet 1 "u") [sourceWithSecret] "s"
          (.ok (blankEdit sourceWithSecret))).1 ∧
      validateWebhookSignature (.quiet 1 "u") [sourceWithSecret] "s" [] "forged"
        = some "webhook signature mismatch" ∧
      validateWebhookSignature (.quiet 1 "u")
        (handleUpdateSource (.quiet 1 "u") [sourceWithSecret] "s"
          (.ok (blankEdit sourceWithSecret))).1 "s" [] "forged" = none := by
  have hafter : (handleUpdateSource (.quiet 1 "u") [sourceWithSecret] "s"
        (.ok (blankEdit sourceWithSecret))).1
      = [{ sourceWithSecret with webhookSecret := "", updatedAt := 1 }] := by
    decide
  refine ⟨(repeats_blankEdit sourceWithSecret).1, hafter, ?_, by decide, ?_⟩
  · intro h
    have hrow := h "s"
    rw [hafter] at hrow
    exact absurd hrow (by decide)
  · rw [hafter]
    decide

end OtelHive.Api
