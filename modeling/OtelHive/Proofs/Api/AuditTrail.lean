import OtelHive.Proofs.Api.Gateway
import OtelHive.Proofs.Audit.Pages

/-!
# `OtelHive.Proofs.Api.AuditTrail`: what the audit log says about a run

`Audit` writes its entry after the handler, so the entries of a run stand in another order than its
handlers ran in. `Trail` relates the log to the requests that have ended: the rows of the run are
the entries of the recorded requests, in the order of the inserts, and no request has two. An
insert can fail, and the middleware drops its error. `Complete` says that every request that is to
have an entry has one, and a step keeps it when the insert works.

`audit_trail` is the result about all runs. A row of a guarded route names an administrator that
exists. The middleware reads the identity that `Auth` has set, and `Auth` does not run on the other
routes, so the rows of `setup`, `login` and `logout` name nobody.
-/

set_option autoImplicit false

namespace OtelHive.Api.Gateway

open OtelHive.Lib
open OtelHive.Auth

/-! ### Rows and entries -/

/-- What a row says, without its id and its time. -/
def content (row : Audit.Row) : Audit.Entry := { row.entry with id := 0, timestamp := 0 }

theorem content_newRow (t : Audit.Table) (now : Time) {entry : Audit.Entry} (hid : entry.id = 0)
    (htime : entry.timestamp = 0) : content (t.newRow now entry) = entry := by
  rw [content, Audit.entry_newRow]
  cases entry
  cases hid
  cases htime
  rfl

/-- What an insert does. -/
theorem rows_of_log {t t' : Audit.Table} {fault : Option String} {now : Time} {entry : Audit.Entry}
    (h : t.log fault now entry = .ok t') : t'.rows = t.rows ++ [t.newRow now entry] := by
  unfold Audit.Table.log at h
  split at h
  · cases h
  · split at h
    · cases h
      rfl
    · cases h

/-- An insert works when the database reports no error and is not full. -/
theorem log_of_room {t : Audit.Table} (now : Time) (entry : Audit.Entry)
    (hroom : t.rows.length + 1 < 2 ^ 48) : ∃ t', t.log none now entry = .ok t' := by
  have hlength : (t.rows ++ [t.newRow now entry]).length < 2 ^ 48 := by
    rw [List.length_append, List.length_singleton]
    exact hroom
  simp only [Audit.Table.log, dif_pos hlength]
  exact ⟨_, rfl⟩

section Trails

variable {κ σ ρ : Type}

/-! ### The entries of requests -/

/-- The entry that a request that has ended is to have. -/
def Context.trail (ctx : Context ρ) : Option Audit.Entry :=
  match ctx.stage with
  | .done response => auditEntry ctx response
  | _ => none

/-- Only a success has an entry, and the entry names the identity of the request. -/
theorem auditEntry_eq_some {ctx : Context ρ} {response : Response ρ} {entry : Audit.Entry}
    (h : auditEntry ctx response = some entry) :
    response.status < 400 ∧ entry.id = 0 ∧ entry.timestamp = 0 ∧ entry.actorID = ctx.userID
      ∧ entry.actorName = (ctx.identity.map Identity.username).getD "" := by
  unfold auditEntry at h
  obtain ⟨route, hroute, h⟩ := Option.bind_eq_some_iff.mp h
  dsimp only at h
  split at h
  · cases h
  · split at h
    · cases h
    · rename_i hstatus
      obtain ⟨found, -, h⟩ := Option.bind_eq_some_iff.mp h
      cases h
      exact ⟨by omega, rfl, rfl, rfl, rfl⟩

theorem auditEntry_of_no_route {ctx : Context ρ} (h : ctx.request.route = none)
    (response : Response ρ) : auditEntry ctx response = none := by
  unfold auditEntry
  rw [h]
  rfl

variable {srv : Server κ} {env : GatewayEnv κ σ ρ} {r r' : Resources κ σ} {ctx ctx' : Context ρ}

/-- A step outside of `Audit` writes no entry, and does not end a request that is to have one. -/
theorem Effect.quiet (h : Effect srv env r ctx r' ctx')
    (hstage : ∀ response, ctx.stage ≠ .audit response) :
    r'.log = r.log ∧ ctx'.trail = none := by
  cases h with
  | call stage route hroute name handler next hnext =>
    refine ⟨rfl, ?_⟩
    rcases hnext with rfl | ⟨response, rfl⟩
    · -- The panic of a handler: the status 500 has no entry.
      cases hentry : auditEntry (ctx.next (.done ⟨500, .empty⟩)) (⟨500, .empty⟩ : Response ρ) with
      | none => exact hentry
      | some entry =>
        have hsuccess : 500 < 400 := (auditEntry_eq_some hentry).1
        omega
    · rfl
  | service stage hstage next hnext =>
    refine ⟨rfl, ?_⟩
    rcases hnext with rfl | ⟨response, rfl⟩ <;> rfl
  | audit response stage => exact absurd stage (hstage response)
  | _ => exact ⟨rfl, rfl⟩

/-- What a step does to the audit log. -/
inductive Logs (env : GatewayEnv κ σ ρ) (log : Audit.Table) (i : Nat) :
    Audit.Table → Option Audit.Entry → List Nat → Prop where
  /-- The entry of the request is inserted as a row. -/
  | insert (log' : Audit.Table) (row : Audit.Row) (rows : log'.rows = log.rows ++ [row]) :
    Logs env log i log' (some (content row)) [i]
  /-- The insert fails. -/
  | fail (entry : Audit.Entry) (err : String)
    (failed : log.log env.auditFault env.timestamp entry = .error err) :
    Logs env log i log (some entry) []
  /-- There is no entry. -/
  | none : Logs env log i log none []

theorem advance_logs (srv : Server κ) (env : GatewayEnv κ σ ρ) (r : Resources κ σ)
    {ctx : Context ρ} (i : Nat) (hdone : ctx.stage.isDone = false)
    (hroute : ∃ route, ctx.request.route = some route) :
    Logs env r.log i (advance srv env r ctx).1.log (advance srv env r ctx).2.trail
      (newLogged env r ctx i) := by
  by_cases haudit : ∃ response, ctx.stage = .audit response
  · obtain ⟨response, hstage⟩ := haudit
    have hadvance : advance srv env r ctx
        = ({ r with log := audit env r.log ctx response }, ctx.next (.done response)) := by
      simp only [advance, hstage]
    have htrail : (ctx.next (.done response)).trail = auditEntry ctx response := rfl
    rw [hadvance]
    dsimp only
    rw [htrail]
    simp only [newLogged, hstage, audit]
    cases hentry : auditEntry ctx response with
    | none => exact .none
    | some entry =>
      dsimp only
      cases hlog : r.log.log env.auditFault env.timestamp entry with
      | error err => exact .fail entry err hlog
      | ok log =>
        have hcontent : content (r.log.newRow env.timestamp entry) = entry := by
          obtain ⟨-, hid, htime, -⟩ := auditEntry_eq_some hentry
          exact content_newRow _ _ hid htime
        have hinsert : Logs env r.log i log _ [i] := .insert log _ (rows_of_log hlog)
        rwa [hcontent] at hinsert
  · have hstage : ∀ response, ctx.stage ≠ .audit response :=
      fun response heq => haudit ⟨response, heq⟩
    have heffect := advance_effect srv env r hdone hroute
    obtain ⟨hlog, htrail⟩ := heffect.quiet hstage
    have hnew : newLogged env r ctx i = [] := by
      unfold newLogged
      split
      · rename_i response heq
        exact absurd heq (hstage response)
      · rfl
    rw [hlog, htrail, hnew]
    exact .none

/-! ### Runs -/

/-- The entry that a request of the server is to have. -/
def entryAt (contexts : List (Context ρ)) (i : Nat) : Option Audit.Entry :=
  contexts[i]?.bind Context.trail

/-- The rows of the run are the entries of the recorded requests, in their order. -/
structure Trail (log₀ : Audit.Table) (p : State κ σ ρ × History σ) : Prop where
  rows : ∃ rows, p.1.resources.log.rows = log₀.rows ++ rows
    ∧ rows.map (fun row => some (content row)) = p.2.logged.map (entryAt p.1.contexts)
  once : p.2.logged.Nodup

/-- Each request that is to have an entry is recorded. -/
def Complete (p : State κ σ ρ × History σ) : Prop :=
  ∀ i entry, entryAt p.1.contexts i = some entry → i ∈ p.2.logged

/-- The database takes a row of the audit log. -/
def AuditWorks (p : State κ σ ρ × History σ) : Event κ σ ρ → Prop
  | .begin _ => True
  | .advance _ env => env.auditFault = none ∧ p.1.resources.log.rows.length + 1 < 2 ^ 48

theorem entryAt_of_getElem? {contexts : List (Context ρ)} {i : Nat} (h : contexts[i]? = some ctx) :
    entryAt contexts i = ctx.trail := by
  rw [entryAt, h, Option.bind_some]

/-- A request that goes on has no entry yet. -/
theorem trail_of_not_done (h : ctx.stage.isDone = false) : ctx.trail = none := by
  unfold Context.trail
  split
  · rename_i response hstage
    rw [hstage] at h
    cases h
  · rfl

/-- A request that begins has no entry. One that is answered at once has no route. -/
theorem trail_first (request : HttpRequest) :
    (⟨request, none, request.first⟩ : Context ρ).trail = none := by
  cases hroute : request.route with
  | none =>
    unfold Context.trail
    split
    · exact auditEntry_of_no_route hroute _
    · rfl
  | some route =>
    apply trail_of_not_done
    unfold HttpRequest.first
    rw [hroute]
    dsimp only
    split <;> rfl

theorem entryAt_concat {contexts : List (Context ρ)} (hnew : ctx.trail = none) (i : Nat) :
    entryAt (contexts ++ [ctx]) i = entryAt contexts i := by
  by_cases hlt : i < contexts.length
  · rw [entryAt, entryAt, List.getElem?_append_left hlt]
  · have hout : contexts[i]? = none := List.getElem?_eq_none (by omega)
    rw [entryAt, entryAt, hout, Option.bind_none]
    by_cases heq : i = contexts.length
    · rw [heq, List.getElem?_concat_length, Option.bind_some, hnew]
    · rw [List.getElem?_eq_none (by simp; omega), Option.bind_none]

theorem entryAt_set {contexts : List (Context ρ)} {i : Nat} (h : contexts[i]? = some ctx)
    (ctx' : Context ρ) (j : Nat) :
    entryAt (contexts.set i ctx') j = if j = i then ctx'.trail else entryAt contexts j := by
  have hlt := lt_length_of_getElem? h
  by_cases heq : j = i
  · subst heq
    rw [if_pos rfl, entryAt, List.getElem?_set_self hlt, Option.bind_some]
  · rw [if_neg heq, entryAt, entryAt, List.getElem?_set_ne (Ne.symm heq)]

/-- A recorded request has an entry. -/
theorem Trail.entry {log₀ : Audit.Table} {p : State κ σ ρ × History σ} (h : Trail log₀ p) {i : Nat}
    (hi : i ∈ p.2.logged) : ∃ entry, entryAt p.1.contexts i = some entry := by
  obtain ⟨rows, -, hrows⟩ := h.rows
  have hmem : entryAt p.1.contexts i ∈ rows.map fun row => some (content row) := by
    rw [hrows]
    exact List.mem_map_of_mem hi
  obtain ⟨row, -, hrow⟩ := List.mem_map.mp hmem
  exact ⟨content row, hrow.symm⟩

/-- The trail after a step of a request. -/
theorem Trail.step {log₀ : Audit.Table} {st : State κ σ ρ} {g : History σ}
    (h : Trail log₀ (st, g)) {i : Nat} (hctx : st.contexts[i]? = some ctx)
    (hdone : ctx.stage.isDone = false) {log : Audit.Table} {trail : Option Audit.Entry}
    {new : List Nat} (hlogs : Logs env st.resources.log i log trail new)
    {st' : State κ σ ρ} {g' : History σ} (hlog : st'.resources.log = log)
    (hcontexts : ∀ j, entryAt st'.contexts j = if j = i then trail else entryAt st.contexts j)
    (hlogged : g'.logged = g.logged ++ new) : Trail log₀ (st', g') := by
  have hfresh : i ∉ g.logged := by
    intro hi
    obtain ⟨entry, hentry⟩ := h.entry hi
    rw [entryAt_of_getElem? hctx, trail_of_not_done hdone] at hentry
    cases hentry
  have hframe : g.logged.map (entryAt st'.contexts) = g.logged.map (entryAt st.contexts) := by
    refine List.map_congr_left ?_
    intro j hj
    rw [hcontexts, if_neg]
    intro heq
    exact hfresh (heq ▸ hj)
  obtain ⟨rows, hrows, hmap⟩ := h.rows
  have hself := hcontexts i
  rw [if_pos rfl] at hself
  cases hlogs with
  | insert log' row hinsert =>
    constructor
    · refine ⟨rows ++ [row], ?_, ?_⟩
      · show st'.resources.log.rows = _
        rw [hlog, hinsert, hrows, List.append_assoc]
      · show _ = g'.logged.map (entryAt st'.contexts)
        rw [hlogged, List.map_append, List.map_append, hmap, hframe, List.map_singleton,
          List.map_singleton, hself]
    · show g'.logged.Nodup
      rw [hlogged]
      exact List.nodup_append.mpr ⟨h.once, List.nodup_singleton i, by
        intro j hj k hk heq
        rw [List.mem_singleton.mp hk] at heq
        exact hfresh (heq ▸ hj)⟩
  | fail | none =>
    constructor
    · refine ⟨rows, ?_, ?_⟩
      · show st'.resources.log.rows = _
        rw [hlog, hrows]
      · show _ = g'.logged.map (entryAt st'.contexts)
        rw [hlogged, List.append_nil, hmap, hframe]
    · show g'.logged.Nodup
      rw [hlogged, List.append_nil]
      exact h.once

/-- A step whose insert works keeps `Complete`. -/
theorem Complete.step {st : State κ σ ρ} {g : History σ} (h : Complete (st, g)) {i : Nat}
    {log : Audit.Table} {trail : Option Audit.Entry} {new : List Nat}
    (hlogs : Logs env st.resources.log i log trail new) (hfault : env.auditFault = none)
    (hroom : st.resources.log.rows.length + 1 < 2 ^ 48) {st' : State κ σ ρ} {g' : History σ}
    (hcontexts : ∀ j, entryAt st'.contexts j = if j = i then trail else entryAt st.contexts j)
    (hlogged : g'.logged = g.logged ++ new) : Complete (st', g') := by
  intro j entry hentry
  have hentry' : entryAt st'.contexts j = some entry := hentry
  show j ∈ g'.logged
  rw [hlogged]
  rw [hcontexts] at hentry'
  split at hentry'
  · rename_i heq
    subst heq
    cases hlogs with
    | insert log' row rows => exact List.mem_append_right _ (List.mem_singleton_self j)
    | fail entry' err failed =>
      rw [hfault] at failed
      obtain ⟨t', hworks⟩ := log_of_room env.timestamp entry' hroom
      rw [hworks] at failed
      cases failed
    | none => cases hentry'
  · exact List.mem_append_left _ (h j entry hentry')

/-- What an event does to the requests and to the log. -/
theorem trail_step {log₀ : Audit.Table} {p p' : State κ σ ρ × History σ} {e : Event κ σ ρ}
    (hroutes : ∀ ctx ∈ p.1.contexts, ctx.stage.isDone = false →
      ∃ route, ctx.request.route = some route)
    (hstep : withGhost (step srv) (record srv) p e = some p') (h : Trail log₀ p) :
    Trail log₀ p' ∧ (AuditWorks p e → Complete p → Complete p') := by
  obtain ⟨st, g⟩ := p
  obtain ⟨st', hst, rfl⟩ := Option.map_eq_some_iff.mp hstep
  cases e with
  | begin request =>
    cases hst
    have hentries : entryAt (st.contexts ++ [⟨request, none, request.first⟩])
        = entryAt st.contexts := funext (entryAt_concat (trail_first request))
    refine ⟨⟨?_, h.once⟩, ?_⟩
    · show ∃ rows, _ ∧ _ = g.logged.map (entryAt (st.contexts ++ [_]))
      rw [hentries]
      exact h.rows
    · intro _ hcomplete i entry hentry
      have hentry' : entryAt (st.contexts ++ [⟨request, none, request.first⟩]) i = some entry :=
        hentry
      rw [hentries] at hentry'
      exact hcomplete i entry hentry'
  | advance i env =>
    obtain ⟨ctx, hctx, hdone, rfl⟩ := step_advance hst
    have hlogs := advance_logs srv env st.resources i hdone
      (hroutes ctx (List.mem_of_getElem? hctx) hdone)
    have hcontexts := entryAt_set hctx (advance srv env st.resources ctx).2
    have hlogged : (record srv g st (.advance i env)).logged
        = g.logged ++ newLogged env st.resources ctx i := by
      rw [record_advance hctx]
    refine ⟨h.step hctx hdone hlogs rfl hcontexts hlogged, ?_⟩
    intro hworks hcomplete
    exact hcomplete.step hlogs hworks.1 hworks.2 hcontexts hlogged

/-- The actor of an entry: the identity of a guarded request, and nobody otherwise. -/
theorem actor_of_trail {keys : ApiKeyStore κ} {signed : List (Bytes × AccessClaims)}
    {contexts : List (Context ρ)} {i : Nat} {entry : Audit.Entry} (hholds : ctx.Holds keys.users)
    (howned : Owned keys signed) (hctx : contexts[i]? = some ctx)
    (hentry : ctx.trail = some entry) :
    ∃ ctx entry route, contexts[i]? = some ctx ∧ ctx.trail = some entry
      ∧ ctx.request.route = some route
      ∧ if route.guarded then ∃ user ∈ keys.users, user.role = .admin
          ∧ entry.actorID = user.id ∧ entry.actorName = user.username
        else entry.actorID = "" ∧ entry.actorName = "" := by
  have htrail := hentry
  unfold Context.trail at htrail
  split at htrail
  · rename_i response hstage
    obtain ⟨hsuccess, -, -, hactor, hname⟩ := auditEntry_eq_some htrail
    cases hroute : ctx.request.route with
    | none =>
      rw [auditEntry_of_no_route hroute] at htrail
      cases htrail
    | some route =>
      refine ⟨ctx, entry, route, hctx, hentry, hroute, ?_⟩
      cases hguarded : route.guarded with
      | true =>
        have hsome := hholds.entered (by rw [hstage]; exact hsuccess) route hroute hguarded
        obtain ⟨identity, hidentity⟩ := Option.isSome_iff_exists.mp hsome
        obtain ⟨user, huser, rfl⟩ := hholds.identity identity hidentity
        rw [if_pos rfl, hactor, hname, Context.userID, hidentity]
        exact ⟨user, huser, howned.admins user huser, rfl, rfl⟩
      | false =>
        have hnone : ctx.identity = none := by
          cases hidentity : ctx.identity with
          | none => rfl
          | some identity =>
            have hguarded' := hholds.guarded (.inr (by rw [hidentity]; rfl)) route hroute
            rw [hguarded] at hguarded'
            cases hguarded'
        rw [if_neg (by decide), hactor, hname, Context.userID, hnone]
        exact ⟨rfl, rfl⟩
  · cases htrail

/-- **The audit log is the trail of the run.** Take the server on tables whose credentials are
owned, and any run in which the JWT library accepts only signed tokens. The rows that the run adds
are the entries of requests that have ended with a success, in the order of the inserts and one for each.
A row of a guarded route names an administrator that exists, and a row of another route names
nobody. When each insert works, every request that is to have an entry has its row. -/
theorem audit_trail (srv : Server κ) (resources : Resources κ σ)
    (signed : List (Bytes × AccessClaims)) (events : List (Event κ σ ρ))
    (t : State κ σ ρ × History σ) (howned : Owned resources.keys signed)
    (hunforged : StepsMeet (withGhost (step srv) (record srv)) (Unforged srv)
      (start resources, ⟨signed, [], []⟩) events)
    (hrun : run (withGhost (step srv) (record srv)) (start resources, ⟨signed, [], []⟩) events
      = some t) :
    Trail resources.log t
      ∧ (∀ i ∈ t.2.logged, ∃ ctx entry route, t.1.contexts[i]? = some ctx
        ∧ ctx.trail = some entry ∧ ctx.request.route = some route
        ∧ if route.guarded then ∃ user ∈ t.1.resources.keys.users, user.role = .admin
            ∧ entry.actorID = user.id ∧ entry.actorName = user.username
          else entry.actorID = "" ∧ entry.actorName = "")
      ∧ (StepsMeet (withGhost (step srv) (record srv)) AuditWorks
          (start resources, ⟨signed, [], []⟩) events → Complete t) := by
  have hstart : Inv resources.app ((start resources, ⟨signed, [], []⟩) : State κ σ ρ × History σ) :=
    inv_start howned
  have htrail₀ : Trail resources.log
      ((start resources, ⟨signed, [], []⟩) : State κ σ ρ × History σ) :=
    ⟨⟨[], (List.append_nil _).symm, rfl⟩, List.nodup_nil⟩
  have hroutes : ∀ (p : State κ σ ρ × History σ), Inv resources.app p → ∀ ctx ∈ p.1.contexts,
      ctx.stage.isDone = false → ∃ route, ctx.request.route = some route :=
    fun p hinv ctx hctx => (hinv.contexts ctx hctx).routed
  have hinv := inv_run howned hunforged hrun
  have htrail : Inv resources.app t ∧ Trail resources.log t := by
    refine run_invariant_of_stepsMeet
      (fun p => Inv resources.app p ∧ Trail resources.log p) ?_ ⟨hstart, htrail₀⟩ hunforged hrun
    intro p e p' h hforged hstep
    exact ⟨inv_step p e p' h.1 hforged hstep, (trail_step (hroutes p h.1) hstep h.2).1⟩
  refine ⟨htrail.2, ?_, ?_⟩
  · intro i hi
    obtain ⟨entry, hentry⟩ := htrail.2.entry hi
    obtain ⟨ctx, hctx, hentry⟩ := Option.bind_eq_some_iff.mp hentry
    exact actor_of_trail (hinv.contexts ctx (List.mem_of_getElem? hctx)) hinv.owned hctx hentry
  · intro hworks
    have hcomplete₀ : Complete
        ((start resources, ⟨signed, [], []⟩) : State κ σ ρ × History σ) := by
      intro i entry hentry
      cases hentry
    have hcomplete := run_invariant_of_stepsMeet
      (fun p => Inv resources.app p ∧ Trail resources.log p ∧ Complete p)
      (fun p e p' h hmeet hstep =>
        have hnext := trail_step (hroutes p h.1) hstep h.2.1
        ⟨inv_step p e p' h.1 hmeet.1 hstep, hnext.1, hnext.2 hmeet.2 h.2.2⟩)
      ⟨hstart, htrail₀, hcomplete₀⟩ (hunforged.and hworks) hrun
    exact hcomplete.2.2

end Trails

theorem audit_trail_session :
    Trail emptyTables.log session
      ∧ (∀ i ∈ session.2.logged, ∃ ctx entry route, session.1.contexts[i]? = some ctx
        ∧ ctx.trail = some entry ∧ ctx.request.route = some route
        ∧ if route.guarded then ∃ user ∈ session.1.resources.keys.users, user.role = .admin
            ∧ entry.actorID = user.id ∧ entry.actorName = user.username
          else entry.actorID = "" ∧ entry.actorName = "")
      ∧ (StepsMeet (withGhost (step firstServer) (record firstServer)) AuditWorks
          (start emptyTables, ⟨[], [], []⟩) sessionEvents → Complete session) :=
  audit_trail firstServer emptyTables [] sessionEvents session owned_emptyTables unforged_session
    (Option.some_get isSome_session).symm

end OtelHive.Api.Gateway
