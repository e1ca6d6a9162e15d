import OtelHive.Api.GitSources
import OtelHive.Gitsync.Steps

/-!
# `OtelHive.Api.Webhook`: the webhook of a git source

`HandleWebhook` of `internal/api/handlers/gitsync.go`. It answers an accepted webhook before the
sync is done: the sync runs in a goroutine, with the context of the request. `net/http` cancels
this context when the handler returns. So the events of a run are the steps of the goroutine and
the return of the handler, in any order.

The goroutine reads `c.Request` when it starts. `gin` may use `c` for another request by then. The
model leaves this out, and gives the sync the context of its own request.
-/

set_option autoImplicit false

namespace OtelHive.Api

open OtelHive.Lib
open OtelHive.Gitsync

/-! ### The handler -/

/-- A request to the webhook: the body, or the error of its read, and the headers. -/
structure WebhookRequest where
  id : String
  body : Except String Bytes
  hubSignature256 : String := ""
  giteaSignature : String := ""
  gitlabToken : String := ""

/-- The signature: the first of the headers that is set. -/
def WebhookRequest.sig (req : WebhookRequest) : String :=
  if req.hubSignature256 != "" then req.hubSignature256
  else if req.giteaSignature != "" then req.giteaSignature
  else req.gitlabToken

/-- `HandleWebhook`: the response, and the sync of the goroutine that it starts. -/
def handleWebhook (env : SourceEnv) (t : Sources) (req : WebhookRequest) :
    Response × Option Sync :=
  match req.body with
  | .error _ => (errorResponse 400 "failed to read body", none)
  | .ok body =>
    -- The limit is 5 MB.
    match validateWebhookSignature env t req.id (body.take (5 <<< 20)) req.sig with
    | some _ => (errorResponse 401 "invalid webhook signature", none)
    | none =>
      (⟨202, some (.obj [("message", .str "sync triggered")])⟩,
        some { id := req.id, forceAll := true })

/-! ### The handler and the goroutine -/

variable {σ : Type}

/-- An accepted webhook. -/
structure Webhook (σ : Type) where
  world : σ
  store : Store
  sync : Sync
  /-- The handler has returned. -/
  returned : Bool := false

inductive WebhookEvent where
  /-- A step of the goroutine. -/
  | sync
  | handlerReturns
deriving DecidableEq

namespace Webhook

/-- The goroutine has not run yet. -/
def start (t : Sources) (fileSHAs : GoMap (String × String) String) (world : σ) (sync : Sync) :
    Webhook σ where
  world
  store := { sources := t.map SourceRow.source, fileSHAs }
  sync

/-- The context of the request. -/
def ctx (err : ContextCall → String) (w : Webhook σ) : Context :=
  if w.returned then .cancelled err else .live

def step (svc : Service σ) (err : ContextCall → String) (w : Webhook σ) :
    WebhookEvent → Option (Webhook σ)
  | .sync =>
    (w.sync.step svc (w.ctx err) w.world w.store).map fun (sync, world, store) =>
      { w with sync, world, store }
  | .handlerReturns => if w.returned then none else some { w with returned := true }

end Webhook

end OtelHive.Api
