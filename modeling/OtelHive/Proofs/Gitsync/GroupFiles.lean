import OtelHive.Opamp.Server
import OtelHive.Proofs.Gitsync.Matcher
import OtelHive.Proofs.Gitsync.Retry

/-!
# `OtelHive.Proofs.Gitsync.GroupFiles`: who gets the file of a group

The comment of `ParseRules` says that a file `groups/<group-id>.yaml` also matches the agents whose
group id is `<group-id>`. `MatchAgents` only reads labels, and the labels of an agent are its
non-identifying attributes. The server finds the group of an agent in both attribute lists and
under several keys, and by the name of the group.

`Sent` is a world that records the pushes of a sync with their content. `reachesMembers_iff`: a sync
that processes the file pushes it to all members of the group exactly if each agent with the group
id has the label as well. `lookup_extractAgentLabels` says which attributes give a label.
-/

set_option autoImplicit false

namespace OtelHive.Gitsync

open OtelHive.Lib

/-! ### Pushes with their content -/

/-- The file of the last fetch, and the pushes: the file, the agent and the content. -/
structure Sent where
  current : String := ""
  pushes : List (String × UUID × Bytes) := []

/-- The service over the record of pushes. -/
def pushingService (commit : Commit) (agents : List Types.Agent) (answers : Answers) :
    Service Sent where
  provider _ := {
    latestCommitSHA := fun _ _ => .ok commit.sha
    listFiles := fun _ _ _ => .ok commit.entries
    fetchFile := fun path _ sent => ({ sent with current := path }, answers.fetch path) }
  listAgents _ := .ok agents
  sendConfigToAgent id content sent :=
    ({ sent with pushes := sent.pushes ++ [(sent.current, id, content)] },
      answers.push sent.current id)

theorem records_pushingService (commit : Commit) (agents : List Types.Agent) (answers : Answers)
    (gs : GitSource) :
    Records (pushingService commit agents answers)
      ((pushingService commit agents answers).provider gs) answers.fetch Sent.current Sent.pushes
      fun path id content => (path, id, content) where
  result _ _ _ := rfl
  fetched _ _ _ := ⟨rfl, rfl⟩
  pushed _ _ _ := ⟨rfl, rfl⟩

/-- The pushes of one rule. -/
abbrev contentsOf (answers : Answers) (agents : List Types.Agent) :
    LabelRule → List (String × UUID × Bytes) :=
  entriesOf answers.fetch (fun path id content => (path, id, content)) agents

/-- The pushes of a sync. -/
def pushesOfSync (commit : Commit) (agents : List Types.Agent) (answers : Answers) (gs : GitSource)
    (forceAll : Bool) (store : Store) : List (String × UUID × Bytes) :=
  (runSync (pushingService commit agents answers) gs forceAll {} store).world.pushes

section Sync

variable {commit : Commit} {agents : List Types.Agent} {answers : Answers} {gs : GitSource}
variable {store : Store}

/-- The pushes of a sync are those of the rules it processes. -/
theorem pushesOfSync_eq (hvalid : gs.Valid) (forceAll : Bool) :
    pushesOfSync commit agents answers gs forceAll store
      = (if forceAll then commit.rules gs else commit.processed gs store).flatMap
          (contentsOf answers agents) := by
  unfold pushesOfSync
  rw [runSync_of_ok hvalid rfl rfl rfl]
  cases forceAll with
  | true =>
    rw [Bool.not_true, Bool.false_and, if_neg Bool.false_ne_true, world_persistOutcome]
    exact (records_pushingService commit agents answers gs).log_foldl_syncRule _ _
  | false =>
    rw [Bool.not_false, Bool.true_and, Commit.processed]
    split
    · rfl
    · rw [world_persistOutcome, syncLoop,
        foldl_syncRule_unforced (nodup_filePath_parseRules commit.nodup gs.configRoot)]
      exact (records_pushingService commit agents answers gs).log_foldl_syncRule _ _

/-- A file that the sync processes goes to the agents that its rule matches. -/
theorem mem_pushesOfSync_iff (hvalid : gs.Valid) {forceAll : Bool} {rule : LabelRule}
    (hrule : rule ∈ commit.rules gs)
    (hprocess : forceAll = true ∨ rule ∈ commit.processed gs store) {content : Bytes}
    (hfetch : answers.fetch rule.filePath = .ok content) (id : UUID) :
    (rule.filePath, id, content) ∈ pushesOfSync commit agents answers gs forceAll store ↔
      ∃ a ∈ matchAgents rule agents, a.id = id := by
  rw [pushesOfSync_eq hvalid, List.mem_flatMap]
  constructor
  · rintro ⟨rule', hrule', hpush⟩
    have hlisted : rule' ∈ commit.rules gs := by
      cases forceAll with
      | true => exact hrule'
      | false => exact mem_rules_of_mem_processed hrule'
    unfold contentsOf entriesOf at hpush
    split at hpush
    · cases hpush
    · obtain ⟨a, ha, hpair⟩ := List.mem_map.mp hpush
      have hsame := eq_of_filePath_eq hlisted hrule (Prod.mk.inj hpair).1
      subst hsame
      exact ⟨a, ha, (Prod.mk.inj (Prod.mk.inj hpair).2).1⟩
  · rintro ⟨a, ha, rfl⟩
    refine ⟨rule, ?_, ?_⟩
    · cases forceAll with
      | true => exact hrule
      | false => exact hprocess.resolve_left Bool.false_ne_true
    · unfold contentsOf entriesOf
      rw [hfetch]
      exact List.mem_map.mpr ⟨a, ha, rfl⟩

end Sync

/-! ### The file of a group -/

/-- `<root>/groups/<g>.yaml`. -/
def groupFile (configRoot group : String) : String :=
  String.ofList
    (trimSuffix configRoot.toList ['/'] ++ "/groups/".toList ++ group.toList ++ ".yaml".toList)

/-- The extension of a YAML file is taken off. -/
theorem stripExt_yaml (name : List Char) : stripExt (name ++ ".yaml".toList) = name := by
  have hext : ext (name ++ ".yaml".toList) = ".yaml".toList := by
    unfold ext
    simp
  unfold stripExt trimSuffix
  rw [hext]
  simp

/-- The elements of the path below the root. -/
theorem splitPath_groupFile {name : List Char} (hslash : '/' ∉ name) :
    splitPath ("groups/".toList ++ name ++ ".yaml".toList)
      = ["groups".toList, name ++ ".yaml".toList] := by
  have hfile : '/' ∉ name ++ ".yaml".toList := by simp [hslash]
  have hlength : 5 ≤ (name ++ ".yaml".toList).length := by simp
  have hsplit : ("groups/".toList ++ name ++ ".yaml".toList).splitOn '/'
      = ["groups".toList, name ++ ".yaml".toList] := by
    rw [List.append_assoc]
    change ("groups".toList ++ '/' :: (name ++ ".yaml".toList)).splitOn '/' = _
    rw [List.splitOn_append_cons_self_of_not_mem (by decide), List.splitOn_eq_singleton hfile]
  generalize hname : name ++ ".yaml".toList = file at hfile hlength hsplit ⊢
  have hpush : cleanStep false ["groups".toList] file = [file, "groups".toList] := by
    have hskip : ¬ (file = [] || file = ['.']) = true := by
      rw [Bool.or_eq_true, decide_eq_true_iff, decide_eq_true_iff]
      rintro (rfl | rfl) <;> simp at hlength
    have hup : file ≠ ['.', '.'] := by
      rintro rfl
      simp at hlength
    unfold cleanStep
    rw [if_neg hskip, if_neg hup]
  have hclean : clean ("groups/".toList ++ name ++ ".yaml".toList)
      = ['/'].intercalate ["groups".toList, file] := by
    unfold clean
    dsimp only
    rw [hsplit]
    have hrooted : (("groups/".toList ++ name ++ ".yaml".toList).head? == some '/') = false := rfl
    rw [hrooted, List.foldl_cons, List.foldl_cons, List.foldl_nil]
    rw [show cleanStep false [] "groups".toList = ["groups".toList] from by decide, hpush]
    rfl
  unfold splitPath
  rw [hclean]
  refine List.splitOn_intercalate '/' ?_ (by simp)
  intro part hpart
  rcases List.mem_cons.mp hpart with rfl | hpart
  · decide
  · rw [List.mem_singleton.mp hpart]
    exact hfile

/-- The rule of the file: the label of the group. -/
theorem ruleOf_groupFile {configRoot group : String} (hslash : '/' ∉ group.toList) {e : FileEntry}
    (hpath : e.path = groupFile configRoot group) :
    ruleOf (trimSuffix configRoot.toList ['/']) e = some {
      filePath := groupFile configRoot group
      selectors := (∅ : GoMap String String).insert "group.id" group } := by
  have hrel : relPath e.path.toList (trimSuffix configRoot.toList ['/'])
      = "groups/".toList ++ group.toList ++ ".yaml".toList := by
    rw [hpath, groupFile, String.toList_ofList]
    have hbelow := relPath_append (trimSuffix configRoot.toList ['/'])
      ("groups/".toList ++ group.toList ++ ".yaml".toList)
    simpa using hbelow
  unfold ruleOf selectorsOf
  rw [hrel, if_neg (by simp), splitPath_groupFile hslash]
  dsimp only
  rw [if_pos rfl, stripExt_yaml, String.ofList_toList, hpath]
  rfl

/-- The agent is a member of the group: its label or its group id says so. -/
def IsMember (group : String) (a : Types.Agent) : Prop :=
  a.labels.lookup "group.id" = some group ∨ a.groupID = some group

/-- The sync pushes the file of the group to the members. -/
def ReachesMembers (commit : Commit) (agents : List Types.Agent) (answers : Answers)
    (gs : GitSource) (forceAll : Bool) (store : Store) (group : String) (content : Bytes) : Prop :=
  ∀ a ∈ agents, IsMember group a →
    (groupFile gs.configRoot group, a.id, content)
      ∈ pushesOfSync commit agents answers gs forceAll store

/-- The sync processes the file: it is forced, or there is a new commit and the file is not the
cached one. -/
def Processes (commit : Commit) (gs : GitSource) (forceAll : Bool) (store : Store)
    (path : String) : Prop :=
  forceAll = true ∨ (commitUnchanged gs commit.sha = false ∧
    fileUnchanged gs store path (commit.shaOf path) = false)

/-- A sync that processes the file of a group pushes it to all members exactly if each agent with
the group id has the label as well. -/
theorem reachesMembers_iff (commit : Commit) (agents : List Types.Agent) (answers : Answers)
    (gs : GitSource) (forceAll : Bool) (store : Store) (group : String) (content : Bytes)
    (hvalid : gs.Valid) (hslash : '/' ∉ group.toList)
    (hlisted : ∃ e ∈ commit.entries, e.path = groupFile gs.configRoot group)
    (hprocess : Processes commit gs forceAll store (groupFile gs.configRoot group))
    (hfetch : answers.fetch (groupFile gs.configRoot group) = .ok content) :
    ReachesMembers commit agents answers gs forceAll store group content ↔
      ∀ a ∈ agents, a.groupID = some group →
        ∃ b ∈ agents, b.id = a.id ∧ (b.labels.lookup "group.id").getD "" = group := by
  obtain ⟨e, hentry, hpath⟩ := hlisted
  have hrule : { filePath := groupFile gs.configRoot group
                 selectors := (∅ : GoMap String String).insert "group.id" group : LabelRule }
      ∈ commit.rules gs :=
    List.mem_filterMap.mpr ⟨e, hentry, ruleOf_groupFile hslash hpath⟩
  generalize hr : ({ filePath := groupFile gs.configRoot group
                     selectors := (∅ : GoMap String String).insert "group.id" group } : LabelRule)
    = rule at hrule
  have hfile : rule.filePath = groupFile gs.configRoot group := hr ▸ rfl
  have hselectors : rule.selectors = (∅ : GoMap String String).insert "group.id" group := hr ▸ rfl
  have hprocessed : forceAll = true ∨ rule ∈ commit.processed gs store := by
    refine hprocess.imp_right ?_
    rintro ⟨hcommit, hdue⟩
    unfold Commit.processed
    rw [if_neg (by rw [hcommit]; exact Bool.false_ne_true)]
    refine List.mem_filter.mpr ⟨hrule, ?_⟩
    unfold due
    rw [hfile]
    exact congrArg not hdue
  have hpushed : ∀ id, (groupFile gs.configRoot group, id, content)
        ∈ pushesOfSync commit agents answers gs forceAll store ↔
      ∃ b ∈ agents, b.id = id ∧ (b.labels.lookup "group.id").getD "" = group := by
    intro id
    rw [← hfile, mem_pushesOfSync_iff hvalid hrule hprocessed (hfile ▸ hfetch)]
    unfold matchAgents
    simp only [List.mem_filter, selects_group_iff hselectors]
    constructor
    · rintro ⟨b, ⟨hb, hlabel⟩, hid⟩
      exact ⟨b, hb, hid, hlabel⟩
    · rintro ⟨b, hb, hid, hlabel⟩
      exact ⟨b, ⟨hb, hlabel⟩, hid⟩
  unfold ReachesMembers
  simp only [hpushed]
  constructor
  · intro hall a ha hgroup
    exact hall a ha (.inr hgroup)
  · rintro hcond a ha (hlabel | hgroup)
    · exact ⟨a, ha, rfl, by rw [hlabel]; rfl⟩
    · exact hcond a ha hgroup

/-! ### What an agent announces -/

/-- The label of a key is its last value among the non-identifying attributes. -/
theorem lookup_extractAgentLabels (desc : Opamp.AgentDescription) (key : String) :
    (Opamp.extractAgentLabels (some desc)).lookup key
      = ((desc.nonIdentifyingAttributes.filter fun attr =>
          attr.key == key && attr.value.isSome).getLast?).map (·.getStringValue) := by
  unfold Opamp.extractAgentLabels
  dsimp only
  induction desc.nonIdentifyingAttributes using List.reverseRecOn with
  | nil => rfl
  | append_singleton attrs last ih =>
    rw [List.foldl_append, List.foldl_cons, List.foldl_nil, List.filter_append]
    by_cases hvalue : last.value.isSome = true
    · rw [if_pos hvalue, GoMap.lookup_insert_eq]
      by_cases hkey : key = last.key
      · simp [hkey, hvalue]
      · rw [if_neg hkey, ih]
        simp [Ne.symm hkey]
    · rw [if_neg hvalue, ih]
      simp [hvalue]

/-- The row of an agent with the description, whose group is the one the description names. -/
def announcing (desc : Opamp.AgentDescription) : Types.Agent :=
  { agentWith (Opamp.extractAgentLabels (some desc)) with
    groupID := some (Opamp.extractGroupInfo desc).1 }

/-- The group `ops`, as a value of an attribute. -/
def opsAttribute : Opamp.KeyValue where
  key := "group.id"
  value := some (.stringValue "ops")

/-- A commit with the file of the group `ops`. -/
def opsCommit : Commit where
  sha := "c1"
  entries := [{ path := "configs/groups/ops.yaml", sha := "aa" }]
  nodup := by decide

/-- An agent that announces its group as a non-identifying attribute gets the file. -/
theorem reachesMembers_nonIdentifying :
    ReachesMembers opsCommit [announcing ⟨[], [opsAttribute]⟩] (pushAnswers none) repoSource true
      ⟨[repoSource], ∅⟩ "ops" [1] :=
  (reachesMembers_iff opsCommit [announcing ⟨[], [opsAttribute]⟩] (pushAnswers none) repoSource true
    ⟨[repoSource], ∅⟩ "ops" [1] repoSource_valid (by decide)
    ⟨_, List.mem_singleton_self _, by decide +kernel⟩ (.inl rfl) rfl).mpr (by
      rintro a ha _
      refine ⟨a, ha, rfl, ?_⟩
      rw [List.mem_singleton.mp ha]
      show ((Opamp.extractAgentLabels (some ⟨[], [opsAttribute]⟩)).lookup _).getD "" = "ops"
      rw [lookup_extractAgentLabels]
      decide +kernel)

/-- An agent that announces it as an identifying attribute does not. -/
theorem missed_identifying :
    ¬ ∀ (commit : Commit) (agents : List Types.Agent) (answers : Answers) (gs : GitSource)
      (forceAll : Bool) (store : Store) (group : String) (content : Bytes), gs.Valid →
      '/' ∉ group.toList → (∃ e ∈ commit.entries, e.path = groupFile gs.configRoot group) →
      Processes commit gs forceAll store (groupFile gs.configRoot group) →
      answers.fetch (groupFile gs.configRoot group) = .ok content →
      ReachesMembers commit agents answers gs forceAll store group content := by
  intro hall
  have hreaches := hall opsCommit [announcing ⟨[opsAttribute], []⟩] (pushAnswers none) repoSource
    true ⟨[repoSource], ∅⟩ "ops" [1] repoSource_valid (by decide)
    ⟨_, List.mem_singleton_self _, by decide +kernel⟩ (.inl rfl) rfl
  have hmember : IsMember "ops" (announcing ⟨[opsAttribute], []⟩) := .inr (by decide +kernel)
  have hpushed := hreaches _ (List.mem_singleton_self _) hmember
  revert hpushed
  decide +kernel

end OtelHive.Gitsync
