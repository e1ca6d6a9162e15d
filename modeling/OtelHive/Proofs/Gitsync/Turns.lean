import OtelHive.Proofs.Gitsync.Concurrent

/-!
# `OtelHive.Proofs.Gitsync.Turns`: syncs that take turns

Syncs of a GitHub source that take turns are orderly, when commits come between them only
(`orderly_of_turns`). So the commits alone can part the cache from the agents, and `KeepsFiles` says
which ones do not (`settled_of_turns`).

`Turn` is the invariant. The one sync that runs has read the source and the tree as they are, and
the agents that it has pushed a file to hold the file.
-/

set_option autoImplicit false

namespace OtelHive.Gitsync.Concurrent

open OtelHive.Lib

section Turns

variable (blob : String → Bytes) (agents : List Types.Agent) (gs : GitSource)

/-! ### The condition -/

/-- The stage has returned. -/
def Returned (stage : Sync.Stage) : Prop := ∃ result, stage = .returned result

/-- Every file has a SHA. -/
def Tree.HasSHAs (tree : Tree) : Prop := ∀ entry ∈ tree.entries, entry.sha ≠ ""

/-- A sync or a commit comes only when every sync has returned. A commit lists each file with its
SHA, and keeps what the cache says of the agents. -/
def TakesTurns (s : System) : Event → Prop
  | .start _ => ∀ sync ∈ s.syncs, Returned sync.stage
  | .step _ _ => True
  | .advance tree =>
    (∀ sync ∈ s.syncs, Returned sync.stage) ∧ tree.HasSHAs ∧ KeepsFiles blob agents gs s tree

/-! ### The invariant -/

/-- The variables of the loop come from the source and the tree as they are. -/
structure FromTree (tree : Tree) (l : Locals) : Prop where
  source : gs.SameSource l.gs
  shas : l.shas = shaByPath tree.entries
  agents : l.agents = agents
  rules : ∀ rule ∈ l.rules, rule ∈ rulesOf gs tree

/-- The matched agents without a failed push hold the content, or are among those that are left. -/
def Pushed (world : World) (rule : LabelRule) (content : Bytes) (left : List Types.Agent) : Prop :=
  ∀ a ∈ matchAgents rule agents, a.id ∉ world.failed →
    a ∈ left ∨ world.held.lookup a.id = some content

/-- What a sync has read is as it was, and the agents hold what it has pushed. -/
def Current (world : World) : Sync.Stage → Prop
  | .latestCommitSHA row | .listFiles row _ => gs.SameSource row
  | .listAgents row _ entries => gs.SameSource row ∧ entries = world.tree.entries
  | .nextRule l => FromTree agents gs world.tree l
  | .fetchFile l rule => FromTree agents gs world.tree l ∧ rule ∈ rulesOf gs world.tree
  | .push l rule content matched =>
    FromTree agents gs world.tree l ∧ rule ∈ rulesOf gs world.tree ∧
      (∀ a ∈ matched, a ∈ matchAgents rule agents) ∧ Pushed agents world rule content matched
  | .upsertFileSHA l rule content _ =>
    FromTree agents gs world.tree l ∧ rule ∈ rulesOf gs world.tree ∧
      Pushed agents world rule content []
  | .get | .recordFailure _ _ _ _ _ | .returned _ => True

structure Turn (s : System) : Prop where
  source : ∃ row, s.store.get gs.id = .ok row ∧ gs.SameSource row
  shas : s.world.tree.HasSHAs
  /-- One sync runs at most. -/
  alone : ∀ (i j : Nat) (sync other : Sync), i ≠ j → s.syncs[i]? = some sync →
    s.syncs[j]? = some other → Returned sync.stage ∨ Returned other.stage
  current : ∀ (i : Nat) (sync : Sync), s.syncs[i]? = some sync →
    sync.id = gs.id ∧ Current agents gs s.world sync.stage

variable {blob agents gs} {s s' : System} {world : World} {store : Store}

theorem current_of_returned {stage : Sync.Stage} (h : Returned stage) :
    Current agents gs world stage := by
  obtain ⟨result, rfl⟩ := h
  trivial

/-! ### One step of a sync -/

section Step

variable {answer : Answer} {sync sync' : Sync} {world' : World} {store' : Store}

/-- A fetched file goes to the matched agents, if there are any. -/
theorem current_fetched {l : Locals} {rule : LabelRule} {content : Bytes} {stage : Sync.Stage}
    (hcurrent : Current agents gs world (.fetchFile l rule))
    (hnext : matchAgents rule l.agents = [] ∧ stage = .upsertFileSHA l rule content false ∨
      matchAgents rule l.agents ≠ [] ∧ stage = .push l rule content (matchAgents rule l.agents)) :
    Current agents gs world stage := by
  obtain ⟨hfrom, hrule⟩ := hcurrent
  rw [hfrom.agents] at hnext
  rcases hnext with ⟨hmatched, rfl⟩ | ⟨_, rfl⟩
  · refine ⟨hfrom, hrule, ?_⟩
    intro a ha
    rw [hmatched] at ha
    cases ha
  · exact ⟨hfrom, hrule, fun a ha => ha, fun a ha _ => Or.inl ha⟩

/-- After a push the agent holds the content, or the push has failed. -/
theorem current_afterPush {l : Locals} {rule : LabelRule} {content : Bytes} {a : Types.Agent}
    {matched : List Types.Agent}
    (hcurrent : Current agents gs world (.push l rule content (a :: matched))) :
    let pushed := Sync.afterPush (service blob agents answer) l rule content matched a world
    Current agents gs pushed.2 pushed.1 ∧ pushed.2.tree = world.tree := by
  obtain ⟨hfrom, hrule, hmatched, hpushed⟩ := hcurrent
  have hleft : ∀ b ∈ matched, b ∈ matchAgents rule agents :=
    fun b hb => hmatched b (List.mem_cons_of_mem a hb)
  dsimp only [Sync.afterPush, service]
  cases herr : answer.err with
  | some err =>
    refine ⟨⟨⟨hfrom.source, hfrom.shas, hfrom.agents, hfrom.rules⟩, hrule, hleft, ?_⟩, rfl⟩
    intro b hb hok
    rcases hpushed b hb (fun hfailed => hok (List.mem_cons_of_mem _ hfailed)) with hb | hheld
    · rcases List.mem_cons.mp hb with rfl | hb
      · exact absurd List.mem_cons_self hok
      · exact Or.inl hb
    · exact Or.inr hheld
  | none =>
    refine ⟨⟨⟨hfrom.source, hfrom.shas, hfrom.agents, hfrom.rules⟩, hrule, hleft, ?_⟩, rfl⟩
    intro b hb hok
    dsimp only
    rw [GoMap.lookup_insert_eq]
    by_cases hid : b.id = a.id
    · rw [if_pos hid]
      exact Or.inr rfl
    · rw [if_neg hid]
      rcases hpushed b hb hok with hb | hheld
      · rcases List.mem_cons.mp hb with rfl | hb
        · exact absurd rfl hid
        · exact Or.inl hb
      · exact Or.inr hheld

/-- A call that succeeds returns its result. -/
theorem Answer.call_eq_ok {α : Type} {result value : α} (h : answer.call result = .ok value) :
    value = result := by
  unfold Answer.call at h
  split at h
  · cases h
  · exact (Except.ok.inj h).symm

/-- The rules that are left are rules of the tree. -/
theorem FromTree.tail {tree : Tree} {l : Locals} {rule : LabelRule} {rules : List LabelRule}
    (h : FromTree agents gs tree l) (hrules : l.rules = rule :: rules) :
    FromTree agents gs tree { l with rules } ∧ rule ∈ rulesOf gs tree := by
  have hall : ∀ rule' ∈ rule :: rules, rule' ∈ rulesOf gs tree := by
    rw [← hrules]
    exact h.rules
  exact ⟨⟨h.source, h.shas, h.agents,
    fun rule' hrule' => hall rule' (List.mem_cons_of_mem _ hrule')⟩, hall rule List.mem_cons_self⟩

/-- A step of the sync that runs keeps the tree and the source, and the sync stays current. -/
theorem current_step (hid : sync.id = gs.id)
    (hsource : ∃ row, store.get gs.id = .ok row ∧ gs.SameSource row)
    (hcurrent : Current agents gs world sync.stage)
    (hstep : sync.step (service blob agents answer) .live world store
      = some (sync', world', store')) :
    Current agents gs world' sync'.stage ∧ world'.tree = world.tree ∧
      ∃ row, store'.get gs.id = .ok row ∧ gs.SameSource row := by
  have hwritten : ∀ id sha status syncErr, ∃ row',
      (store.updateSyncState id sha status syncErr).get gs.id = .ok row' ∧ gs.SameSource row' := by
    intro id sha status syncErr
    obtain ⟨row, hget, hsame⟩ := hsource
    obtain ⟨row', hget', hsame'⟩ := Store.sameSource_updateSyncState hget id sha status syncErr
    exact ⟨row', hget', hsame.trans hsame'⟩
  cases Sync.step_inv hstep with
  | notFound | noProvider | noCommit | sameCommit | noFiles | noAgents | loopFailed =>
    exact ⟨trivial, rfl, hsource⟩
  | loopDone | recordFailure => exact ⟨trivial, rfl, hwritten _ _ _ _⟩
  | found row' _ _ hget' =>
    obtain ⟨row, hget, hsame⟩ := hsource
    rw [hid, hget] at hget'
    cases hget'
    exact ⟨hsame, rfl, row', hget, hsame⟩
  | newCommit row' _ _ hstage =>
    rw [hstage] at hcurrent
    exact ⟨hcurrent, rfl, hsource⟩
  | files row' commitSHA entries hstage hfiles =>
    rw [hstage] at hcurrent
    exact ⟨⟨hcurrent, Answer.call_eq_ok hfiles⟩, rfl, hsource⟩
  | agents row' commitSHA entries agents' hstage hagents =>
    rw [hstage] at hcurrent
    obtain ⟨hsame, rfl⟩ := hcurrent
    obtain rfl := Answer.call_eq_ok hagents
    refine ⟨⟨hsame, rfl, rfl, ?_⟩, rfl, hsource⟩
    -- The source has the config root that it had.
    obtain ⟨_, _, _, rfl⟩ := hsame
    exact fun rule hrule => hrule
  | skipRule l rule rules hstage hrules =>
    rw [hstage] at hcurrent
    exact ⟨(FromTree.tail hcurrent hrules).1, rfl, hsource⟩
  | dueRule l rule rules hstage hrules =>
    rw [hstage] at hcurrent
    exact ⟨FromTree.tail hcurrent hrules, rfl, hsource⟩
  | fetchFailed l rule _ err hstage hfetch =>
    have hworld : world = _ := congrArg Prod.fst hfetch
    cases hworld
    rw [hstage] at hcurrent
    obtain ⟨hfrom, _⟩ := hcurrent
    exact ⟨⟨hfrom.source, hfrom.shas, hfrom.agents, hfrom.rules⟩, rfl, hsource⟩
  | fetched l rule _ content stage hstage hfetch hnext =>
    have hworld : world = _ := congrArg Prod.fst hfetch
    cases hworld
    rw [hstage] at hcurrent
    exact ⟨current_fetched hcurrent hnext, rfl, hsource⟩
  | push l rule content a matched hstage =>
    rw [hstage] at hcurrent
    obtain ⟨hcurrent', htree⟩ := @current_afterPush blob agents gs world answer _ _ _ _ _ hcurrent
    exact ⟨hcurrent', htree, hsource⟩
  | pushed l rule content hstage =>
    rw [hstage] at hcurrent
    obtain ⟨hfrom, hrule, _, hpushed⟩ := hcurrent
    exact ⟨⟨hfrom, hrule, hpushed⟩, rfl, hsource⟩
  | upsertFileSHA l l' rule content pushed hstage hnext =>
    rw [hstage] at hcurrent
    obtain ⟨hfrom, _, _⟩ := hcurrent
    obtain ⟨row, hget, hsame⟩ := hsource
    have hcached : (cacheFileSHA (service blob agents answer) l.gs store rule.filePath
        (l.fileSHA rule)).get gs.id = .ok row := by
      unfold Store.get
      rw [sources_cacheFileSHA]
      exact hget
    refine ⟨?_, rfl, row, hcached, hsame⟩
    subst hnext
    cases pushed with
    | false => exact hfrom
    | true => exact ⟨hfrom.source, hfrom.shas, hfrom.agents, hfrom.rules⟩

end Step

/-! ### One event -/

/-- A listed file has the SHA of the tree. -/
theorem FromTree.fileSHA_ne {tree : Tree} {l : Locals} (h : FromTree agents gs tree l)
    (hshas : tree.HasSHAs) {rule : LabelRule} (hrule : rule ∈ rulesOf gs tree) :
    l.fileSHA rule ≠ "" := by
  rw [rulesOf, parseRules, List.mem_filterMap] at hrule
  obtain ⟨e, he, hruleOf⟩ := hrule
  obtain ⟨found, hfound, hlookup⟩ :=
    lookup_shaByPath ⟨e, he, (filePath_of_ruleOf hruleOf).symm⟩
  rw [Locals.fileSHA, h.shas, hlookup]
  exact hshas found hfound

/-- The next step of a current sync of a GitHub source is orderly. -/
theorem orderlyStep_of_current (hgithub : gs.providerType = .github)
    (hids : (agents.map Types.Agent.id).Nodup) (hshas : s.world.tree.HasSHAs)
    {stage : Sync.Stage} (hcurrent : Current agents gs s.world stage) (i : Nat)
    (answer : Answer) : OrderlyStep blob agents gs s i answer stage := by
  cases stage with
  | fetchFile l rule =>
    obtain ⟨_, _, _, hgs⟩ := hcurrent.1.source
    refine fetchesListed_of_github blob ?_ rule answer
    rw [hgs]
    exact hgithub
  | push l rule content matched =>
    obtain ⟨_, hrule, hmatched, _⟩ := hcurrent
    cases matched with
    | nil => trivial
    | cons a matched =>
      obtain ⟨ha, hselects⟩ := List.mem_filter.mp (hmatched a List.mem_cons_self)
      intro _ b hb hid _ rule' _ honly
      -- The rule matches the agent, so its file is the only one.
      obtain rfl : b = a := List.inj_on_of_nodup_map hids hb ha hid
      exact Or.inl (honly.2 rule hrule hselects).symm
  | upsertFileSHA l rule content pushed =>
    obtain ⟨hfrom, hrule, hpushed⟩ := hcurrent
    intro a ha hok honly
    obtain ⟨⟨rule', hrule', hpath, hselects⟩, _⟩ := honly
    obtain rfl : rule' = rule := eq_of_filePath_eq hrule' hrule hpath
    rw [if_neg (hfrom.fileSHA_ne hshas hrule)]
    have hheld := hpushed a (List.mem_filter.mpr ⟨ha, hselects⟩) hok
    exact Or.inr (hheld.resolve_left List.not_mem_nil)
  | get | latestCommitSHA | listFiles | listAgents | nextRule | recordFailure | returned => trivial

/-- Syncs of a GitHub source that take turns are orderly. -/
theorem orderly_of_turns (h : Turn agents gs s) (hgithub : gs.providerType = .github)
    (hids : (agents.map Types.Agent.id).Nodup) {e : Event}
    (hturns : TakesTurns blob agents gs s e) : Orderly blob agents gs s e := by
  cases e with
  | start forceAll => trivial
  | step i answer =>
    intro sync hsync
    exact orderlyStep_of_current hgithub hids h.shas (h.current i sync hsync).2 i answer
  | advance tree => exact hturns.2.2

theorem Turn.start (h : Turn agents gs s) (hidle : ∀ sync ∈ s.syncs, Returned sync.stage)
    (forceAll : Bool) :
    Turn agents gs { s with syncs := s.syncs ++ [{ id := gs.id, forceAll }] } where
  source := h.source
  shas := h.shas
  alone := by
    intro i j sync other hij hi hj
    rcases getElem?_concat_iff.mp hi with ⟨rfl, _⟩ | hi
    · rcases getElem?_concat_iff.mp hj with ⟨rfl, _⟩ | hj
      · exact absurd rfl hij
      · exact Or.inr (hidle other (List.mem_of_getElem? hj))
    · exact Or.inl (hidle sync (List.mem_of_getElem? hi))
  current := by
    intro i sync hi
    rcases getElem?_concat_iff.mp hi with ⟨_, rfl⟩ | hi
    · exact ⟨rfl, trivial⟩
    · exact h.current i sync hi

/-- A commit comes between the syncs. -/
theorem Turn.advance (h : Turn agents gs s) (hidle : ∀ sync ∈ s.syncs, Returned sync.stage)
    {tree : Tree} (hshas : tree.HasSHAs) :
    Turn agents gs { s with world := { s.world with tree } } where
  source := h.source
  shas := hshas
  alone := h.alone
  current := by
    intro i sync hi
    exact ⟨(h.current i sync hi).1, current_of_returned (hidle sync (List.mem_of_getElem? hi))⟩

/-- The sync that runs takes a step, and the others have returned. -/
theorem Turn.sync {answer : Answer} {i : Nat} {sync sync' : Sync} {world' : World}
    {store' : Store} (h : Turn agents gs s) (hi : s.syncs[i]? = some sync)
    (hstep : sync.step (service blob agents answer) .live s.world s.store
      = some (sync', world', store')) :
    Turn agents gs { world := world', store := store', syncs := s.syncs.set i sync' } := by
  obtain ⟨hid, hcurrent⟩ := h.current i sync hi
  obtain ⟨hcurrent', htree, hsource⟩ := current_step hid h.source hcurrent hstep
  have hothers : ∀ (j : Nat) (other : Sync), j ≠ i → s.syncs[j]? = some other →
      Returned other.stage := by
    intro j other hne hj
    refine (h.alone j i other sync hne hj hi).resolve_right ?_
    rintro ⟨result, hstage⟩
    unfold Sync.step at hstep
    rw [hstage] at hstep
    cases hstep
  have hlt := lt_length_of_getElem? hi
  refine ⟨hsource, ?_, ?_, ?_⟩
  · show world'.tree.HasSHAs
    rw [htree]
    exact h.shas
  · intro j k one other hjk hj hk
    rcases (getElem?_set_iff hlt _).mp hj with ⟨rfl, _⟩ | ⟨hji, hj⟩
    · rcases (getElem?_set_iff hlt _).mp hk with ⟨rfl, _⟩ | ⟨hki, hk⟩
      · exact absurd rfl hjk
      · exact Or.inr (hothers k other hki hk)
    · exact Or.inl (hothers j one hji hj)
  · intro j other hj
    rcases (getElem?_set_iff hlt _).mp hj with ⟨_, rfl⟩ | ⟨hji, hj⟩
    · exact ⟨(Sync.id_step hstep).trans hid, hcurrent'⟩
    · exact ⟨(h.current j other hj).1, current_of_returned (hothers j other hji hj)⟩

theorem Turn.step (h : Turn agents gs s) {e : Event} (hturns : TakesTurns blob agents gs s e)
    (hstep : s.step blob agents gs.id e = some s') : Turn agents gs s' := by
  cases e with
  | start forceAll =>
    cases hstep
    exact h.start hturns forceAll
  | advance tree =>
    cases hstep
    exact h.advance hturns.1 hturns.2.1
  | step i answer =>
    rw [System.step, Option.bind_eq_bind, Option.bind_eq_some_iff] at hstep
    obtain ⟨sync, hi, hstep⟩ := hstep
    rw [Option.bind_eq_bind, Option.bind_eq_some_iff] at hstep
    obtain ⟨⟨sync', world', store'⟩, hsync, hnext⟩ := hstep
    cases hnext
    exact h.sync hi hsync

/-! ### The run -/

/-- Take a run of syncs of a GitHub source that take turns, with commits between them, from a state
in which no file of the source is cached. If each commit keeps what the cache says of the agents,
then the syncs settle on what the cache says. -/
theorem settled_of_turns (hgithub : gs.providerType = .github)
    (hids : (agents.map Types.Agent.id).Nodup) (hshas : world.tree.HasSHAs)
    (hget : store.get gs.id = .ok gs) (hcache : ∀ path, store.getFileSHA gs.id path = "")
    {es : List Event}
    (hmeet : StepsMeet (System.step blob agents gs.id) (TakesTurns blob agents gs)
      (newSystem world store) es) :
    Along (System.step blob agents gs.id) (Settled blob agents gs) (newSystem world store) es := by
  have hturn : Turn agents gs (newSystem world store) := by
    refine ⟨⟨gs, hget, ⟨_, _, _, rfl⟩⟩, hshas, ?_, ?_⟩
    · intro i j sync other _ hi
      cases hi
    · intro i sync hi
      cases hi
  have hinv : Inv blob agents gs (newSystem world store) :=
    inv_newSystem (Store.hasSource_of_get hget).1 hcache
  exact along_of_stepsMeet (I := fun s => Inv blob agents gs s ∧ Turn agents gs s)
    (fun _ h => h.1.settled)
    (fun _ _ _ h hturns hstep =>
      ⟨inv_step h.1 (orderly_of_turns h.2 hgithub hids hturns) hstep, h.2.step hturns hstep⟩)
    ⟨hinv, hturn⟩ hmeet

end Turns

end OtelHive.Gitsync.Concurrent
