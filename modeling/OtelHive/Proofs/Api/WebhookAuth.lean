import OtelHive.Api.Webhook

/-!
# `OtelHive.Proofs.Api.WebhookAuth`: which webhooks are authentic

GitHub and Gitea sign the body, and GitLab sends the secret itself. One header carries either, and
`ValidateWebhookSignature` takes it for a signature if it begins with `sha256=`. A secret may begin
so too. Then the secret is never compared with the header, and a delivery of GitLab is refused.

`triggers_iff`: a webhook triggers a sync exactly if its header is the signature or the secret,
unless the header is a secret that begins with `sha256=` and is not the signature itself.
-/

set_option autoImplicit false

namespace OtelHive.Api

open OtelHive.Lib
open OtelHive.Gitsync

/-- The header that the handler selects is the signature of the body or the secret. -/
def WebhookRequest.Authentic (req : WebhookRequest) (secret : String) (body : Bytes) : Prop :=
  req.sig = "sha256=" ++ computeHMAC body secret ∨ req.sig = secret

/-- The webhook triggers a sync. -/
def WebhookRequest.Triggers (req : WebhookRequest) (env : SourceEnv) (t : Sources) : Prop :=
  (handleWebhook env t req).2.isSome = true

/-- A text with a prefix is the prefix and the rest. -/
theorem eq_append_iff (s pre rest : String) :
    s = pre ++ rest ↔
      pre.toList <+: s.toList ∧ rest.toList = s.toList.drop pre.toList.length := by
  rw [← String.toList_inj, String.toList_append]
  constructor
  · intro h
    rw [h]
    exact ⟨List.prefix_append _ _, List.drop_left.symm⟩
  · rintro ⟨⟨tail, htail⟩, hrest⟩
    rw [← htail, List.drop_left] at hrest
    rw [hrest, htail]

variable {env : SourceEnv} {t : Sources} {id : String} {gs : SourceRow}

/-- A header that begins with `sha256=` has to be the signature, and any other the secret. -/
theorem validateWebhookSignature_eq_none_iff (hget : t.get env id = .ok gs)
    (hsecret : gs.webhookSecret ≠ "") (payload : Bytes) (sig : String) :
    validateWebhookSignature env t id payload sig = none ↔
      if "sha256=".toList <+: sig.toList then
        sig = "sha256=" ++ computeHMAC payload gs.webhookSecret
      else sig = gs.webhookSecret := by
  unfold validateWebhookSignature
  rw [hget]
  dsimp only
  rw [if_neg hsecret]
  by_cases hpre : "sha256=".toList <+: sig.toList
  · rw [if_pos (List.isPrefixOf_iff_prefix.mpr hpre), if_pos hpre, eq_append_iff]
    by_cases hmac : (computeHMAC payload gs.webhookSecret).toList = sig.toList.drop 7
    · simp only [hmac, if_true, true_iff]
      exact ⟨hpre, rfl⟩
    · simp only [hmac, if_false, reduceCtorEq, false_iff]
      exact fun h => hmac h.2
  · rw [if_neg (mt List.isPrefixOf_iff_prefix.mp hpre), if_neg hpre]
    by_cases hsig : sig = gs.webhookSecret <;> simp [hsig]

/-- The handler triggers a sync exactly if the signature of the body is valid. -/
theorem triggers_iff_validate {req : WebhookRequest} {body : Bytes} (hbody : req.body = .ok body)
    (hlimit : body.length ≤ 5 <<< 20) :
    req.Triggers env t ↔ validateWebhookSignature env t req.id body req.sig = none := by
  unfold WebhookRequest.Triggers handleWebhook
  rw [hbody]
  dsimp only
  rw [List.take_of_length_le hlimit]
  cases validateWebhookSignature env t req.id body req.sig <;> simp

/-- A webhook triggers a sync exactly if it is authentic, unless its header is a secret that begins
with `sha256=` and is not the signature. -/
theorem triggers_iff (env : SourceEnv) (t : Sources) (req : WebhookRequest) (gs : SourceRow)
    (body : Bytes) (hget : t.get env req.id = .ok gs) (hsecret : gs.webhookSecret ≠ "")
    (hbody : req.body = .ok body) (hlimit : body.length ≤ 5 <<< 20) :
    (req.Triggers env t ↔ req.Authentic gs.webhookSecret body) ↔
      (req.sig = gs.webhookSecret → "sha256=".toList <+: gs.webhookSecret.toList →
        gs.webhookSecret = "sha256=" ++ computeHMAC body gs.webhookSecret) := by
  rw [triggers_iff_validate hbody hlimit, validateWebhookSignature_eq_none_iff hget hsecret]
  unfold WebhookRequest.Authentic
  by_cases hpre : "sha256=".toList <+: req.sig.toList
  · rw [if_pos hpre]
    constructor
    · intro h hsig _
      rw [← hsig]
      rw [hsig] at h ⊢
      exact h.mpr (.inr rfl)
    · intro h
      refine ⟨.inl, ?_⟩
      rintro (hsignature | hsig)
      · exact hsignature
      · rw [hsig]
        exact h hsig (hsig ▸ hpre)
  · rw [if_neg hpre]
    -- A header without the prefix is not a signature.
    have hnot : req.sig ≠ "sha256=" ++ computeHMAC body gs.webhookSecret := fun h =>
      hpre ((eq_append_iff _ _ _).mp h).1
    simp only [hnot, false_or, true_iff]
    intro hsig hsecretPrefix
    exact absurd (hsig ▸ hsecretPrefix) hpre

/-! ### A secret that begins like a signature -/

/-- A source with the webhook secret. -/
def sourceWith (secret : String) : SourceRow where
  id := "src-1"
  name := "configs"
  repoURL := "https://gitlab.com/team/configs"
  branch := "main"
  configRoot := "configs"
  provider := "gitlab"
  webhookSecret := secret

/-- A delivery of GitLab with the token. -/
def gitlabDelivery (token : String) : WebhookRequest where
  id := "src-1"
  body := .ok []
  gitlabToken := token

theorem triggers_gitlabDelivery :
    (gitlabDelivery "token").Triggers (.quiet 1 "u") [sourceWith "token"] ↔
      (gitlabDelivery "token").Authentic "token" [] :=
  (triggers_iff (.quiet 1 "u") [sourceWith "token"] (gitlabDelivery "token") (sourceWith "token") []
    rfl (by decide) rfl (Nat.zero_le _)).mpr (by
      intro _ hpre
      exact absurd hpre (by decide))

/-- GitLab sends the secret of the source, and no sync is triggered. -/
theorem refused_gitlabDelivery :
    ¬ ∀ (env : SourceEnv) (t : Sources) (req : WebhookRequest) (gs : SourceRow) (body : Bytes),
      t.get env req.id = .ok gs → gs.webhookSecret ≠ "" → req.body = .ok body →
      body.length ≤ 5 <<< 20 → (req.Triggers env t ↔ req.Authentic gs.webhookSecret body) := by
  intro hall
  have htriggers := (hall (.quiet 1 "u") [sourceWith "sha256=token"]
    (gitlabDelivery "sha256=token") (sourceWith "sha256=token") [] rfl (by decide) rfl
    (Nat.zero_le _)).mpr (.inr rfl)
  revert htriggers
  unfold WebhookRequest.Triggers
  decide +kernel

end OtelHive.Api
