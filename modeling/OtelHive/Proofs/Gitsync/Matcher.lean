import OtelHive.Gitsync.Downloads

/-!
# `OtelHive.Proofs.Gitsync.Matcher`: what a rule asks of a label

`labelsMatch` reads a label that is missing as the empty string. So a rule selects the agents that
have its labels exactly if no selector is empty or every agent that the others select has the
label. An empty selector comes from a file whose name is only an extension, such as
`groups/.yaml`. The environment of a rule is never empty, because `path.Clean` leaves no empty
element (`ne_nil_of_splitPath`).

`matchAgents_eq_iff`: the agents that `MatchAgents` returns are those with the labels, in order,
exactly if the agents have the label that a bare extension asks for.

`HTTP.not_usable`: the generic HTTP provider lists a file directly below the root, and no rule
comes from such a path.
-/

set_option autoImplicit false

namespace OtelHive.Gitsync

open OtelHive.Lib

/-! ### Paths -/

/-- The parts of a split hold no separator. -/
theorem notMem_of_mem_splitOn {sep : Char} {s part : List Char} (h : part ∈ s.splitOn sep) :
    sep ∉ part := by
  induction s generalizing part with
  | nil =>
    rw [List.splitOn_nil, List.mem_singleton] at h
    simp [h]
  | cons c s ih =>
    rw [List.splitOn_cons_eq_if_modifyHead] at h
    by_cases hc : c = sep
    · rw [if_pos (by simpa using hc), List.mem_cons] at h
      rcases h with rfl | h
      · simp
      · exact ih h
    · rw [if_neg (by simpa using hc)] at h
      -- The character joins the first part.
      cases hparts : s.splitOn sep with
      | nil => exact absurd hparts (List.splitOn_ne_nil sep s)
      | cons first rest =>
        rw [hparts] at ih h
        rcases List.mem_cons.mp h with rfl | h
        · have hfirst : sep ∉ first := ih List.mem_cons_self
          simp [Ne.symm hc, hfirst]
        · exact ih (List.mem_cons_of_mem _ h)

/-- An element of a path: not empty, and without a slash. -/
def IsElement (element : List Char) : Prop := element ≠ [] ∧ '/' ∉ element

theorem cleanStep_isElement {rooted : Bool} {stack : List (List Char)} {element : List Char}
    (hstack : ∀ e ∈ stack, IsElement e) (helement : '/' ∉ element) :
    ∀ e ∈ cleanStep rooted stack element, IsElement e := by
  unfold cleanStep
  by_cases hskip : element = [] || element = ['.']
  · rw [if_pos hskip]
    exact hstack
  · rw [if_neg hskip]
    have hnew : IsElement element := by
      refine ⟨?_, helement⟩
      rintro rfl
      exact hskip rfl
    have hpush : ∀ e ∈ element :: stack, IsElement e := by
      rintro e (_ | ⟨_, he⟩)
      · exact hnew
      · exact hstack e he
    by_cases hup : element = ['.', '.']
    · rw [if_pos hup]
      cases stack with
      | nil =>
        cases rooted with
        | true => simp
        | false => simpa using hnew
      | cons top below =>
        by_cases htop : top = ['.', '.']
        · simpa only [htop, if_true] using (htop ▸ hpush)
        · simp only [htop, if_false]
          exact fun e he => hstack e (List.mem_cons_of_mem _ he)
    · rw [if_neg hup]
      exact hpush

/-- The elements that `path.Clean` keeps. -/
theorem foldl_cleanStep_isElement {rooted : Bool} {elements stack : List (List Char)}
    (hstack : ∀ e ∈ stack, IsElement e) (helements : ∀ e ∈ elements, '/' ∉ e) :
    ∀ e ∈ elements.foldl (cleanStep rooted) stack, IsElement e := by
  induction elements generalizing stack with
  | nil => exact hstack
  | cons element elements ih =>
    exact ih (cleanStep_isElement hstack (helements _ List.mem_cons_self))
      fun e he => helements e (List.mem_cons_of_mem _ he)

/-- After a first element that is not empty, no element is. -/
theorem ne_nil_of_splitPath {p dir : List Char} {rest : List (List Char)}
    (h : splitPath p = dir :: rest) (hdir : dir ≠ []) : ∀ e ∈ rest, e ≠ [] := by
  unfold splitPath clean at h
  dsimp only at h
  have hkept : ∀ e ∈ (p.splitOn '/').foldl (cleanStep (p.head? == some '/')) [], IsElement e :=
    foldl_cleanStep_isElement (by simp) fun e he => notMem_of_mem_splitOn he
  generalize (p.splitOn '/').foldl (cleanStep (p.head? == some '/')) [] = stack at h hkept
  by_cases hrooted : (p.head? == some '/') = true
  · -- A rooted path begins with an empty element.
    rw [if_pos hrooted, List.splitOn_cons_eq_if_modifyHead, if_pos (by simp)] at h
    exact absurd (List.cons.inj h).1.symm hdir
  · rw [if_neg hrooted] at h
    by_cases hbody : ['/'].intercalate stack.reverse = []
    · rw [if_pos hbody] at h
      obtain ⟨_, rfl⟩ := List.cons.inj h
      simp
    · rw [if_neg hbody] at h
      have hne : stack.reverse ≠ [] := by
        intro hnil
        rw [hnil] at hbody
        exact hbody rfl
      rw [List.splitOn_intercalate '/' (fun e he => (hkept e (List.mem_reverse.mp he)).2) hne] at h
      intro e he
      have hmem : e ∈ stack.reverse := h ▸ List.mem_cons_of_mem _ he
      exact (hkept e (List.mem_reverse.mp hmem)).1

/-! ### Selectors -/

/-- The selectors of an environment and a role. -/
theorem lookup_environmentSelectors (env role key : String) :
    (environmentSelectors env role).lookup key =
      if key = "collector.role" ∧ role ≠ "base" ∧ role ≠ "default" then some role
      else if key = "deployment.environment" ∧ env ≠ "default" then some env
      else none := by
  have hkeep : (role != "base" && role != "default") = true ↔
      role ≠ "base" ∧ role ≠ "default" := by simp
  unfold environmentSelectors
  by_cases hrole : role ≠ "base" ∧ role ≠ "default" <;> by_cases henv : env = "default"
  · simp [-AList.insert_empty, hkeep.mpr hrole, hrole, henv, GoMap.lookup_insert_eq]
  · simp [-AList.insert_empty, hkeep.mpr hrole, hrole, henv, GoMap.lookup_insert_eq]
  · simp [mt hkeep.mp hrole, hrole, henv]
  · simp [-AList.insert_empty, mt hkeep.mp hrole, hrole, henv, GoMap.lookup_insert_eq]

/-- The paths with selectors are those of a file in an environment, and of one in `groups`. -/
theorem selectorsOf_cases {rel : List Char} {selectors : GoMap String String}
    (h : selectorsOf rel = some selectors) :
    (∃ env file, splitPath rel = ["environments".toList, env, file] ∧ env ≠ [] ∧
        selectors = environmentSelectors (String.ofList env) (String.ofList (stripExt file))) ∨
      ∃ file, splitPath rel = ["groups".toList, file] ∧ selectors =
        (∅ : GoMap String String).insert "group.id" (String.ofList (stripExt file)) := by
  unfold selectorsOf at h
  by_cases hrel : rel = []
  · rw [if_pos hrel] at h
    cases h
  · rw [if_neg hrel] at h
    split at h
    · rename_i dir env file hparts
      split at h
      · rename_i hdir
        have henv : env ≠ [] :=
          ne_nil_of_splitPath hparts (hdir ▸ by decide) env List.mem_cons_self
        exact .inl ⟨env, file, hdir ▸ hparts, henv, (Option.some.inj h).symm⟩
      · cases h
    · rename_i dir file hparts
      split at h
      · rename_i hdir
        exact .inr ⟨file, hdir ▸ hparts, (Option.some.inj h).symm⟩
      · cases h
    · cases h

/-- The selectors of a rule come from its path below the root. -/
theorem selectorsOf_of_mem {entries : List FileEntry} {configRoot : String} {rule : LabelRule}
    (h : rule ∈ parseRules entries configRoot) :
    selectorsOf (relPath rule.filePath.toList (trimSuffix configRoot.toList ['/']))
      = some rule.selectors := by
  obtain ⟨e, _, hrule⟩ := List.mem_filterMap.mp h
  obtain ⟨selectors, hselectors, rfl⟩ := Option.map_eq_some_iff.mp hrule
  exact hselectors

/-- The agent has every label that the rule asks for, with its value. -/
def LabelRule.MetBy (rule : LabelRule) (agent : Types.Agent) : Prop :=
  ∀ key value, rule.selectors.lookup key = some value → agent.labels.lookup key = some value

instance (rule : LabelRule) (agent : Types.Agent) : Decidable (rule.MetBy agent) :=
  decidable_of_iff
    (∀ pair ∈ rule.selectors.toList, agent.labels.lookup pair.1 = some pair.2) (by
      constructor
      · intro h key value hselector
        exact h (key, value) ((GoMap.mem_toList_iff _ _ _).mpr hselector)
      · intro h pair hpair
        exact h pair.1 pair.2 ((GoMap.mem_toList_iff _ _ _).mp hpair))

theorem selects_iff (rule : LabelRule) (agent : Types.Agent) :
    rule.selects agent = true ↔ ∀ key value, rule.selectors.lookup key = some value →
      (agent.labels.lookup key).getD "" = value := by
  unfold LabelRule.selects labelsMatch
  rw [List.all_eq_true]
  constructor
  · intro h key value hselector
    simpa using h (key, value) ((GoMap.mem_toList_iff _ _ _).mpr hselector)
  · intro h pair hpair
    simpa using h pair.1 pair.2 ((GoMap.mem_toList_iff _ _ _).mp hpair)

/-- A selected agent has the labels, apart from those with an empty selector. -/
theorem metBy_iff (rule : LabelRule) (agent : Types.Agent) :
    rule.MetBy agent ↔ rule.selects agent = true ∧
      ∀ key, rule.selectors.lookup key = some "" → (agent.labels.lookup key).isSome := by
  rw [selects_iff]
  constructor
  · intro h
    refine ⟨fun key value hselector => ?_, fun key hselector => ?_⟩
    · rw [h key value hselector]
      rfl
    · rw [h key "" hselector]
      rfl
  · rintro ⟨hselects, hpresent⟩ key value hselector
    have hvalue := hselects key value hselector
    cases hlabel : agent.labels.lookup key with
    | some label =>
      rw [hlabel] at hvalue
      exact congrArg some hvalue
    | none =>
      -- Only the empty string matches a label that is missing.
      rw [hlabel] at hvalue
      have hempty : value = "" := hvalue.symm
      have hsome := hpresent key (hempty ▸ hselector)
      simp [hlabel] at hsome

/-- The right agents match exactly if every selected one has the labels with an empty
selector. -/
theorem matchAgents_eq_iff_isSome (rule : LabelRule) (agents : List Types.Agent) :
    matchAgents rule agents = agents.filter (fun agent => decide (rule.MetBy agent)) ↔
      ∀ agent ∈ agents, rule.selects agent = true →
        ∀ key, rule.selectors.lookup key = some "" → (agent.labels.lookup key).isSome := by
  constructor
  · intro h agent hagent hselects
    have hmem : agent ∈ matchAgents rule agents := List.mem_filter.mpr ⟨hagent, hselects⟩
    rw [h, List.mem_filter, decide_eq_true_iff, metBy_iff] at hmem
    exact hmem.2.2
  · intro h
    refine List.filter_congr fun agent hagent => ?_
    rw [Bool.eq_iff_iff, decide_eq_true_iff, metBy_iff]
    exact ⟨fun hselects => ⟨hselects, h agent hagent hselects⟩, And.left⟩

/-- The agents have the label that a file with no name but an extension asks for: the role in
an environment, of those in it, and the group id in `groups`. -/
def Labelled (root path : List Char) (agents : List Types.Agent) : Prop :=
  match splitPath (relPath path root) with
  | [_, env, file] => stripExt file = [] → ∀ agent ∈ agents,
      (String.ofList env = "default" ∨
        agent.labels.lookup "deployment.environment" = some (String.ofList env)) →
      (agent.labels.lookup "collector.role").isSome
  | [_, file] => stripExt file = [] → ∀ agent ∈ agents,
      (agent.labels.lookup "group.id").isSome
  | _ => True

/-- Only the selector of the role can be empty. -/
theorem lookup_environmentSelectors_eq_empty {env role key : String} (henv : env ≠ "") :
    (environmentSelectors env role).lookup key = some "" ↔ key = "collector.role" ∧ role = "" := by
  rw [lookup_environmentSelectors]
  constructor
  · intro h
    split at h
    · rename_i hrole
      exact ⟨hrole.1, Option.some.inj h⟩
    · split at h
      · exact absurd (Option.some.inj h) henv
      · cases h
  · rintro ⟨rfl, rfl⟩
    exact if_pos (by decide)

/-- The agents that a file of an environment selects. -/
theorem selects_environment_iff {rule : LabelRule} {env role : String}
    (h : rule.selectors = environmentSelectors env role) (agent : Types.Agent) :
    rule.selects agent = true ↔
      (env = "default" ∨ (agent.labels.lookup "deployment.environment").getD "" = env) ∧
        (role = "base" ∨ role = "default" ∨
          (agent.labels.lookup "collector.role").getD "" = role) := by
  rw [selects_iff, h]
  simp only [lookup_environmentSelectors]
  constructor
  · intro hall
    refine ⟨Classical.or_iff_not_imp_left.mpr fun henv => ?_,
      Classical.or_iff_not_imp_left.mpr fun hbase => Classical.or_iff_not_imp_left.mpr
        fun hdefault => ?_⟩
    · exact hall "deployment.environment" env (by simp [henv])
    · exact hall "collector.role" role (by simp [hbase, hdefault])
  · rintro ⟨henv, hrole⟩ key value hselector
    split at hselector
    · rename_i hkey
      obtain ⟨rfl, hbase, hdefault⟩ := hkey
      cases hselector
      exact (hrole.resolve_left hbase).resolve_left hdefault
    · split at hselector
      · rename_i hkey
        obtain ⟨rfl, hdefault⟩ := hkey
        cases hselector
        exact henv.resolve_left hdefault
      · cases hselector

/-- The agents that a file of `groups` selects. -/
theorem selects_group_iff {rule : LabelRule} {group : String}
    (h : rule.selectors = (∅ : GoMap String String).insert "group.id" group)
    (agent : Types.Agent) :
    rule.selects agent = true ↔ (agent.labels.lookup "group.id").getD "" = group := by
  rw [selects_iff, h]
  simp only [GoMap.lookup_insert_eq]
  constructor
  · intro hall
    exact hall "group.id" group (if_pos rfl)
  · intro hgroup key value hselector
    split at hselector
    · rename_i hkey
      cases hselector
      rw [hkey]
      exact hgroup
    · cases hselector

/-- The agents that match a rule of a listing are those with its labels, in order, exactly if the
agents have the label that a bare extension asks for. -/
theorem matchAgents_eq_iff (entries : List FileEntry) (configRoot : String) (rule : LabelRule)
    (h : rule ∈ parseRules entries configRoot) (agents : List Types.Agent) :
    matchAgents rule agents = agents.filter (fun agent => decide (rule.MetBy agent)) ↔
      Labelled (trimSuffix configRoot.toList ['/']) rule.filePath.toList agents := by
  rw [matchAgents_eq_iff_isSome]
  unfold Labelled
  rcases selectorsOf_cases (selectorsOf_of_mem h) with
    ⟨env, file, hparts, henv, hselectors⟩ | ⟨file, hparts, hselectors⟩
  · rw [hparts]
    dsimp only
    have hname : String.ofList env ≠ "" := by simpa using henv
    have hvalue : ∀ label : Option String,
        label.getD "" = String.ofList env ↔ label = some (String.ofList env) := by
      rintro (_ | label)
      · simpa using hname.symm
      · simp
    constructor
    · intro hall hbare agent hagent hin
      rw [Option.isSome_iff_ne_none]
      intro hnone
      -- Without a role the agent is selected all the same.
      have hselects : rule.selects agent = true :=
        (selects_environment_iff hselectors agent).mpr
          ⟨hin.imp_right (hvalue _).mpr, .inr (.inr (by rw [hnone, hbare]; rfl))⟩
      have hsome := hall agent hagent hselects "collector.role" (by
        rw [hselectors, lookup_environmentSelectors_eq_empty hname, hbare]
        exact ⟨rfl, rfl⟩)
      rw [hnone] at hsome
      cases hsome
    · intro hlabelled agent hagent hselects key hkey
      rw [hselectors, lookup_environmentSelectors_eq_empty hname] at hkey
      obtain ⟨rfl, hempty⟩ := hkey
      have hbare : stripExt file = [] := by simpa using hempty
      have hin := ((selects_environment_iff hselectors agent).mp hselects).1
      exact hlabelled hbare agent hagent (hin.imp_right (hvalue _).mp)
  · rw [hparts]
    dsimp only
    constructor
    · intro hall hbare agent hagent
      rw [Option.isSome_iff_ne_none]
      intro hnone
      have hselects : rule.selects agent = true :=
        (selects_group_iff hselectors agent).mpr (by rw [hnone, hbare]; rfl)
      have hsome := hall agent hagent hselects "group.id" (by
        rw [hselectors, GoMap.lookup_insert_eq, hbare]
        rfl)
      rw [hnone] at hsome
      cases hsome
    · intro hlabelled agent hagent _ key hkey
      rw [hselectors, GoMap.lookup_insert_eq] at hkey
      split at hkey
      · rename_i hgroup
        have hbare : stripExt file = [] := by simpa using hkey
        rw [hgroup]
        exact hlabelled hbare agent hagent
      · cases hkey

/-! ### A file with no name -/

/-- An agent with the labels. -/
def agentWith (labels : GoMap String String) : Types.Agent where
  id := .nil
  name := "agent"
  labels := labels
  status := .online
  lastSeen := 0
  groupID := none
  groupName := none
  version := "1"
  capabilities := []
  createdAt := 0
  updatedAt := 0

/-- The rule of the group `ops`. -/
def opsRule : LabelRule where
  filePath := "configs/groups/ops.yaml"
  selectors := (∅ : GoMap String String).insert "group.id" "ops"

theorem mem_opsRule :
    opsRule ∈ parseRules [{ path := "configs/groups/ops.yaml", sha := "aa" }] "configs" :=
  List.mem_singleton.mpr rfl

/-- The file of the group selects its member only. -/
theorem matched_member :
    matchAgents opsRule [agentWith opsRule.selectors, agentWith ∅]
      = [agentWith opsRule.selectors, agentWith ∅].filter
          (fun agent => decide (opsRule.MetBy agent)) :=
  (matchAgents_eq_iff [{ path := "configs/groups/ops.yaml", sha := "aa" }] "configs" opsRule
    mem_opsRule [agentWith opsRule.selectors, agentWith ∅]).mpr (by
      have hparts : splitPath (relPath opsRule.filePath.toList
          (trimSuffix "configs".toList ['/'])) = ["groups".toList, "ops.yaml".toList] := by
        decide +kernel
      unfold Labelled
      rw [hparts]
      intro hbare
      exact absurd hbare (by decide +kernel))

/-- The file `groups/.yaml` selects the agents without a group. -/
theorem matched_without_label :
    ¬ ∀ (entries : List FileEntry) (configRoot : String) (rule : LabelRule),
      rule ∈ parseRules entries configRoot → ∀ agents : List Types.Agent,
        matchAgents rule agents = agents.filter (fun agent => decide (rule.MetBy agent)) := by
  intro hall
  have h := hall [{ path := "configs/groups/.yaml", sha := "aa" }] "configs"
    { filePath := "configs/groups/.yaml",
      selectors := (∅ : GoMap String String).insert "group.id" "" }
    (List.mem_singleton.mpr rfl) [agentWith ∅]
  have hcount := congrArg List.length h
  revert hcount
  decide +kernel

/-! ### The generic HTTP provider -/

/-- A path without a slash has one element. -/
theorem splitPath_of_notMem {p : List Char} (h : '/' ∉ p) : ∃ element, splitPath p = [element] := by
  have hrooted : ¬ (p.head? == some '/') = true := by
    intro hhead
    exact h (List.mem_of_mem_head? (by simpa using hhead))
  unfold splitPath clean
  dsimp only
  rw [if_neg hrooted, List.splitOn_eq_singleton h, List.foldl_cons, List.foldl_nil]
  have hstack : cleanStep (p.head? == some '/') [] p = [] ∨
      cleanStep (p.head? == some '/') [] p = [p] := by
    unfold cleanStep
    by_cases hskip : p = [] || p = ['.']
    · exact .inl (if_pos hskip)
    · rw [if_neg hskip]
      by_cases hup : p = ['.', '.'] <;> simp [hup]
  rcases hstack with hstack | hstack
  · exact ⟨['.'], by rw [hstack]; rfl⟩
  · by_cases hp : p = []
    · subst hp
      exact ⟨['.'], by rw [hstack]; rfl⟩
    · refine ⟨p, ?_⟩
      have hbody : ['/'].intercalate [p].reverse = p := by simp
      rw [hstack, hbody, if_neg hp]
      exact List.splitOn_eq_singleton h

/-- A file directly below the root has no selectors. -/
theorem selectorsOf_of_notMem {rel : List Char} (h : '/' ∉ rel) : selectorsOf rel = none := by
  obtain ⟨element, hparts⟩ := splitPath_of_notMem h
  unfold selectorsOf
  rw [hparts]
  exact ite_self none

theorem relPath_append (root name : List Char) : relPath (root ++ ['/'] ++ name) root = name := by
  unfold relPath
  dsimp only
  rw [if_pos (List.isPrefixOf_iff_prefix.mpr (List.prefix_append _ _)), List.drop_left]

namespace Providers.HTTP

/-- The matcher has a rule for the file that the provider lists. -/
def Usable (h : HTTP) (branch rootPath : String) : Prop :=
  ∃ entry, h.listFiles branch rootPath = .ok [entry] ∧
    ∃ rule ∈ parseRules [entry] rootPath, rule.filePath = entry.path

/-- The last segment of the URL has no slash. -/
theorem slash_notMem_name (h : HTTP) : '/' ∉ h.name := by
  unfold name
  dsimp only
  split
  · decide
  · generalize h.rawURL.toList.rdropWhile (· == '/') = url
    cases hlast : (url.splitOn '/').getLast? with
    | none => exact absurd (List.getLast?_eq_none_iff.mp hlast) (List.splitOn_ne_nil '/' url)
    | some part =>
      rw [List.getLastD_eq_getLast?, hlast]
      exact notMem_of_mem_splitOn (List.mem_of_getLast? hlast)

/-- No rule comes from a listing of the provider. -/
theorem parseRules_listFiles {h : HTTP} {branch rootPath : String} {entries : List FileEntry}
    (hlist : h.listFiles branch rootPath = .ok entries) : parseRules entries rootPath = [] := by
  cases hlist
  refine List.filterMap_eq_nil_iff.mpr fun entry hentry => ?_
  rw [List.mem_singleton.mp hentry]
  unfold ruleOf
  rw [String.toList_ofList, relPath_append, selectorsOf_of_notMem h.slash_notMem_name]
  rfl

/-- No source of the generic HTTP provider is usable. -/
theorem not_usable (h : HTTP) (branch rootPath : String) : ¬ h.Usable branch rootPath := by
  rintro ⟨entry, hlist, rule, hrule, _⟩
  rw [parseRules_listFiles hlist] at hrule
  cases hrule

/-- The file at the URL is listed as `configs/collector.yaml`, which is not a path of a rule. -/
theorem unusable_raw :
    ¬ ∀ (h : HTTP) (branch rootPath : String), h.Usable branch rootPath := by
  intro hall
  obtain ⟨entry, hlist, rule, hrule, _⟩ :=
    hall ⟨"https://raw.githubusercontent.com/org/repo/main/collector.yaml"⟩ "main" "configs/"
  cases hlist
  have hnone : parseRules [{ path := "configs/collector.yaml", sha := "" }] "configs/" = [] := rfl
  cases (hnone ▸ hrule : rule ∈ ([] : List LabelRule))

end Providers.HTTP

end OtelHive.Gitsync
