import OtelHive.Ui.Validation

/-!
# `OtelHive.Proofs.Ui.Validation`: the verdict on a config

A verdict is exact if it is negative exactly for a config with a reference to something that is
not defined. The first two validators report each such reference, and the third one only warns. So
the verdict is exact unless a validator throws, and takes the errors it has found with it
(`verdictExact_iff`).

A validator throws at a pipeline that is `null`. It also throws while it looks for the position of
a name that makes no regular expression, if the text has a list at the path of the name
(`ListAt`). The theorems hold for every `RegExp`.
-/

set_option autoImplicit false

namespace OtelHive.Ui

open OtelHive.Lib
open JsString (unit ascii)

variable {regExp : RegExp} {text name : JsString} {path : List JsString}

/-! ### What the validators look for -/

/-- The name is defined as a component of the kind. A connector is a receiver and an exporter. -/
def Kind.IsDefined (config : OTelConfig) : Kind → JsString → Prop
  | .receiver, name => name ∈ keysOf config.receivers ∨ name ∈ keysOf config.connectors
  | .processor, name => name ∈ keysOf config.processors
  | .exporter, name => name ∈ keysOf config.exporters ∨ name ∈ keysOf config.connectors

theorem Kind.mem_defined_iff (config : OTelConfig) (kind : Kind) (name : JsString) :
    name ∈ kind.defined config ↔ kind.IsDefined config name := by
  cases kind with
  | receiver => exact List.mem_append
  | processor => exact Iff.rfl
  | exporter => exact List.mem_append

/-- A pipeline references a component of the kind. -/
def References (config : OTelConfig) (pipelineName : JsString) (kind : Kind) (name : JsString) :
    Prop :=
  ∃ pipeline, (pipelineName, some pipeline) ∈ config.pipelines?.getD [] ∧
    name ∈ (kind.components pipeline).getD []

/-- Some pipeline references a component that is not defined. -/
def UndefinedComponent (config : OTelConfig) : Prop :=
  ∃ pipelineName kind name, References config pipelineName kind name ∧
    ¬ kind.IsDefined config name

/-- The service references an extension that is not defined. -/
def UndefinedExtension (config : OTelConfig) : Prop :=
  ∃ name ∈ config.usedExtensions?.getD [], name ∉ keysOf config.extensions

/-- The verdict is negative exactly if a reference is not defined. -/
def VerdictExact (regExp : RegExp) (text : JsString) (config : OTelConfig) : Prop :=
  (validateYamlConfig text (some config) (defaultValidators regExp)).valid = false ↔
    UndefinedComponent config ∨ UndefinedExtension config

/-! ### Positions -/

/-- The lines of the section below a key, without empty lines and comments. -/
def block (indent : Nat) (following : List JsString) : List JsString :=
  (following.filter fun line => !isSkipped line).takeWhile fun line => indent < indentOf line

/-- The section below a key has an item of a list. -/
def hasItem (indent : Nat) (following : List JsString) : Bool :=
  (block indent following).any fun line => line.trim.startsWith '-'

/-- The text has a list at the path: on the line of the last key, or in the section below. -/
def ListAt (text : JsString) (path : List JsString) : Prop :=
  ∃ key, findKey path 0 text.lines path 0 = some key ∧
    ((matchInlineArray key.line).isSome = true ∨ hasItem key.indent key.following = true)

/-- The search for the name in the text builds no regular expression, or it builds one. -/
def Searchable (regExp : RegExp) (text : JsString) (path : List JsString) (name : JsString) :
    Prop :=
  name = [] ∨ (componentRegex regExp name).isOk = true ∨ ¬ ListAt text path

@[simp] theorem isOk_map {ε α β : Type} (f : α → β) (x : Except ε α) :
    (x.map f).isOk = x.isOk := by
  cases x <;> rfl

theorem hasItem_cons (indent : Nat) (line : JsString) (following : List JsString) :
    hasItem indent (line :: following)
      = if isSkipped line then hasItem indent following
        else if indentOf line ≤ indent then false
        else line.trim.startsWith '-' || hasItem indent following := by
  unfold hasItem block
  cases hskip : isSkipped line with
  | true => simp [hskip]
  | false =>
    by_cases hindent : indentOf line ≤ indent
    · simp [hskip, hindent]
    · simp [hskip, hindent, Nat.not_le.mp hindent]

/-- The search below the key fails exactly if it comes to an item without an expression. -/
theorem isOk_findItem (indent j : Nat) (following : List JsString) :
    (findItem regExp name indent j following).isOk = true ↔
      (componentRegex regExp name).isOk = true ∨ hasItem indent following = false := by
  induction following generalizing j with
  | nil => exact ⟨fun _ => Or.inr rfl, fun _ => rfl⟩
  | cons line following ih =>
    rw [findItem, hasItem_cons]
    cases hskip : isSkipped line with
    | true =>
      rw [if_pos rfl, if_pos rfl]
      exact ih (j + 1)
    | false =>
      rw [if_neg Bool.false_ne_true, if_neg Bool.false_ne_true]
      by_cases hindent : indentOf line ≤ indent
      · rw [if_pos hindent, if_pos hindent]
        exact ⟨fun _ => Or.inr rfl, fun _ => rfl⟩
      · rw [if_neg hindent, if_neg hindent]
        cases hitem : line.trim.startsWith '-' with
        | false =>
          rw [if_neg Bool.false_ne_true, Bool.false_or]
          exact ih (j + 1)
        | true =>
          rw [if_pos rfl, Bool.true_or]
          -- The first item builds the expression, and the search ends there or goes on.
          cases hregex : componentRegex regExp name with
          | error err =>
            constructor
            · intro h
              cases h
            · rintro (h | h)
              · cases h
              · cases h
          | ok test =>
            rw [hregex] at ih
            dsimp only
            split
            · exact ⟨fun _ => Or.inl rfl, fun _ => rfl⟩
            · exact ⟨fun _ => Or.inl rfl, fun _ => (ih (j + 1)).mpr (Or.inl rfl)⟩

theorem isOk_findComponent (key : KeyLine) :
    (findComponent regExp name key).isOk = true ↔
      (componentRegex regExp name).isOk = true ∨
        ¬((matchInlineArray key.line).isSome = true ∨
          hasItem key.indent key.following = true) := by
  unfold findComponent
  cases hinline : matchInlineArray key.line with
  | none =>
    dsimp only
    rw [isOk_findItem]
    simp
  -- An array on the line of the key builds the expression before the lines below are read.
  | some content =>
    cases hregex : componentRegex regExp name with
    | error err => simp [Except.isOk, Except.toBool]
    | ok test =>
      dsimp only
      split
      · simp [Except.isOk, Except.toBool]
      · rw [isOk_findItem, hregex]
        simp [Except.isOk, Except.toBool]

theorem isOk_findYamlPosition :
    (findYamlPosition regExp text path (some name)).isOk = true ↔
      Searchable regExp text path name := by
  unfold findYamlPosition Searchable ListAt
  cases hkey : findKey path 0 text.lines path 0 with
  | none => simp [Except.isOk, Except.toBool]
  | some key =>
    by_cases hname : name = []
    -- The empty name is falsy, and the position of the key is taken.
    · rw [hname]
      exact ⟨fun _ => Or.inl rfl, fun _ => rfl⟩
    · rw [Option.filter_some, if_pos (by simpa using hname)]
      dsimp only
      rw [isOk_map, isOk_findComponent]
      simp [hname]

theorem isOk_createValidationError (message : JsString) (severity : Severity) :
    (createValidationError regExp message text path (some name) severity).isOk = true ↔
      Searchable regExp text path name := by
  unfold createValidationError
  rw [isOk_map, isOk_findYamlPosition]

/-- An error has the message and the severity that it is created with. -/
theorem of_createValidationError {message : JsString} {componentName : Option JsString}
    {severity : Severity} {e : ValidationError}
    (h : createValidationError regExp message text path componentName severity = .ok e) :
    e.message = message ∧ e.severity = severity := by
  unfold createValidationError at h
  cases hposition : findYamlPosition regExp text path componentName with
  | error err =>
    rw [hposition] at h
    cases h
  | ok position =>
    rw [hposition] at h
    cases position with
    | none =>
      cases h
      exact ⟨rfl, rfl⟩
    | some p =>
      cases h
      exact ⟨rfl, rfl⟩

/-! ### One list of names -/

section Names

variable {defined : List JsString} {message : JsString → JsString} {names : List JsString}

/-- The loop over the names throws exactly if it cannot search for an undefined one. -/
theorem isOk_checkNames :
    (checkNames regExp text defined message path names).isOk = true ↔
      ∀ name ∈ names, name ∉ defined → Searchable regExp text path name := by
  unfold checkNames
  rw [isOk_mapM_iff]
  constructor
  · intro h name hname hundefined
    have hmem : name ∈ names.filter fun name => name ∉ defined :=
      List.mem_filter.mpr ⟨hname, decide_eq_true hundefined⟩
    exact (isOk_createValidationError _ _).mp (h name hmem)
  · intro h name hmem
    obtain ⟨hname, hundefined⟩ := List.mem_filter.mp hmem
    exact (isOk_createValidationError _ _).mpr (h name hname (of_decide_eq_true hundefined))

/-- The errors of the loop: one for each undefined name. -/
theorem mem_checkNames {errors : List ValidationError}
    (h : checkNames regExp text defined message path names = .ok errors) :
    (∀ e ∈ errors, e.severity = .error ∧ ∃ name, e.message = message name) ∧
      ((∃ e, e ∈ errors) ↔ ∃ name ∈ names, name ∉ defined) := by
  have hsearch := isOk_checkNames.mp (show Except.isOk _ = true by rw [h]; rfl)
  unfold checkNames at h
  refine ⟨?_, ?_⟩
  · intro e he
    obtain ⟨name, _, hcreate⟩ := (mem_of_mapM_eq_ok h).mp he
    obtain ⟨hmessage, hseverity⟩ := of_createValidationError hcreate
    exact ⟨hseverity, name, hmessage⟩
  · constructor
    · rintro ⟨e, he⟩
      obtain ⟨name, hmem, _⟩ := (mem_of_mapM_eq_ok h).mp he
      obtain ⟨hname, hundefined⟩ := List.mem_filter.mp hmem
      exact ⟨name, hname, of_decide_eq_true hundefined⟩
    · rintro ⟨name, hname, hundefined⟩
      have hmem : name ∈ names.filter fun name => name ∉ defined :=
        List.mem_filter.mpr ⟨hname, decide_eq_true hundefined⟩
      have hok : (createValidationError regExp (message name) text path (some name) .error).isOk
          = true := (isOk_createValidationError _ _).mpr (hsearch name hname hundefined)
      -- The loop has not thrown, so it has created an error for this name.
      obtain ⟨e, hcreate⟩ := exists_eq_ok hok
      exact ⟨e, (mem_of_mapM_eq_ok h).mpr ⟨name, hmem, hcreate⟩⟩

end Names

/-! ### The validators -/

section Validators

variable {config : OTelConfig}

/-- The pipeline validator gets to the end: no pipeline is `null`, and it can search for each
undefined component. -/
def PipelinesRead (regExp : RegExp) (text : JsString) (config : OTelConfig) : Prop :=
  (∀ entry ∈ config.pipelines?.getD [], entry.2 ≠ none) ∧
    ∀ pipelineName kind name, References config pipelineName kind name →
      ¬ kind.IsDefined config name → Searchable regExp text (kind.path pipelineName) name

/-- The extensions validator gets to the end. -/
def ExtensionsRead (regExp : RegExp) (text : JsString) (config : OTelConfig) : Prop :=
  ∀ name ∈ config.usedExtensions?.getD [], name ∉ keysOf config.extensions →
    Searchable regExp text extensionPath name

theorem Kind.mem_all (kind : Kind) : kind ∈ [Kind.receiver, .processor, .exporter] := by
  cases kind <;> decide

theorem isOk_checkPipeline {entry : JsString × Option Pipeline} :
    (checkPipeline regExp text config entry).isOk = true ↔
      ∃ pipeline, entry.2 = some pipeline ∧
        ∀ (kind : Kind), ∀ name ∈ (kind.components pipeline).getD [],
          ¬ kind.IsDefined config name → Searchable regExp text (kind.path entry.1) name := by
  unfold checkPipeline
  cases hpipeline : entry.2 with
  -- The read of `receivers` from `null` throws.
  | none =>
    constructor
    · intro h
      cases h
    · rintro ⟨pipeline, h, _⟩
      cases h
  | some pipeline =>
    dsimp only
    rw [isOk_map, isOk_mapM_iff]
    simp only [checkComponents, isOk_checkNames, Kind.mem_defined_iff]
    constructor
    · intro h
      exact ⟨pipeline, rfl, fun kind => h kind kind.mem_all⟩
    · rintro ⟨_, heq, h⟩ kind _
      cases heq
      exact h kind

/-- The pipeline validator of a config with pipelines. -/
theorem pipelineValidator_eq (regExp : RegExp) (text : JsString) (config : OTelConfig) :
    pipelineValidator regExp text (some config)
      = ((config.pipelines?.getD []).mapM (checkPipeline regExp text config)).map List.flatten := by
  unfold pipelineValidator
  dsimp only
  cases config.pipelines? <;> rfl

theorem isOk_pipelineValidator :
    (pipelineValidator regExp text (some config)).isOk = true ↔
      PipelinesRead regExp text config := by
  rw [pipelineValidator_eq, isOk_map, isOk_mapM_iff]
  simp only [isOk_checkPipeline]
  constructor
  · intro h
    refine ⟨?_, ?_⟩
    · intro entry hentry hnull
      obtain ⟨pipeline, hsome, _⟩ := h entry hentry
      rw [hnull] at hsome
      cases hsome
    · rintro pipelineName kind name ⟨pipeline, hentry, hname⟩ hundefined
      obtain ⟨_, heq, hsearch⟩ := h _ hentry
      cases heq
      exact hsearch kind name hname hundefined
  · rintro ⟨hnull, hsearch⟩ ⟨pipelineName, pipeline?⟩ hentry
    cases pipeline? with
    | none => exact absurd rfl (hnull _ hentry)
    | some pipeline =>
      refine ⟨pipeline, rfl, ?_⟩
      intro kind name hname hundefined
      exact hsearch pipelineName kind name ⟨pipeline, hentry, hname⟩ hundefined

/-- A pipeline that is checked to the end is not `null`. -/
theorem checkPipeline_eq_ok {entry : JsString × Option Pipeline} {errors : List ValidationError}
    (h : checkPipeline regExp text config entry = .ok errors) :
    ∃ pipeline, entry.2 = some pipeline ∧
      ([Kind.receiver, .processor, .exporter].mapM
        (checkComponents regExp text config entry.1 pipeline)).map List.flatten = .ok errors := by
  unfold checkPipeline at h
  split at h
  · cases h
  · rename_i pipeline hpipeline
    exact ⟨pipeline, hpipeline, h⟩

/-- The errors of the pipeline validator. -/
theorem mem_pipelineValidator {errors : List ValidationError}
    (h : pipelineValidator regExp text (some config) = .ok errors) :
    (∀ e ∈ errors, e.severity = .error ∧
        ∃ kind pipelineName name, e.message = Kind.message kind pipelineName name) ∧
      ((∃ e, e ∈ errors) ↔ UndefinedComponent config) := by
  rw [pipelineValidator_eq] at h
  refine ⟨?_, ?_⟩
  -- An error is found in a round over the pipelines, and there in a round over the kinds.
  · intro e he
    obtain ⟨⟨pipelineName, _⟩, _, _, hentry, he⟩ := (mem_of_map_flatten_eq_ok h).mp he
    obtain ⟨pipeline, _, hkinds⟩ := checkPipeline_eq_ok hentry
    obtain ⟨kind, _, _, hcheck, he⟩ := (mem_of_map_flatten_eq_ok hkinds).mp he
    obtain ⟨hseverity, name, hmessage⟩ := (mem_checkNames hcheck).1 e he
    exact ⟨hseverity, kind, pipelineName, name, hmessage⟩
  · constructor
    · rintro ⟨e, he⟩
      obtain ⟨⟨pipelineName, _⟩, hmem, _, hentry, he⟩ := (mem_of_map_flatten_eq_ok h).mp he
      obtain ⟨pipeline, hsome, hkinds⟩ := checkPipeline_eq_ok hentry
      obtain ⟨kind, _, _, hcheck, he⟩ := (mem_of_map_flatten_eq_ok hkinds).mp he
      obtain ⟨name, hname, hundefined⟩ := (mem_checkNames hcheck).2.mp ⟨e, he⟩
      dsimp only at hsome
      rw [hsome] at hmem
      rw [Kind.mem_defined_iff] at hundefined
      exact ⟨pipelineName, kind, name, ⟨pipeline, hmem, hname⟩, hundefined⟩
    · rintro ⟨pipelineName, kind, name, ⟨pipeline, hmem, hname⟩, hundefined⟩
      obtain ⟨_, hentry, hkeep⟩ := exists_round_of_map_flatten_eq_ok h hmem
      obtain ⟨_, heq, hkinds⟩ := checkPipeline_eq_ok hentry
      cases heq
      obtain ⟨_, hcheck, hkeep'⟩ := exists_round_of_map_flatten_eq_ok hkinds kind.mem_all
      rw [← Kind.mem_defined_iff] at hundefined
      obtain ⟨e, he⟩ := (mem_checkNames hcheck).2.mpr ⟨name, hname, hundefined⟩
      exact ⟨e, hkeep e (hkeep' e he)⟩

theorem extensionsValidator_eq (regExp : RegExp) (text : JsString) (config : OTelConfig) :
    extensionsValidator regExp text (some config)
      = checkNames regExp text (keysOf config.extensions) extensionMessage extensionPath
          (config.usedExtensions?.getD []) := by
  unfold extensionsValidator
  dsimp only
  cases config.usedExtensions? <;> rfl

theorem isOk_extensionsValidator :
    (extensionsValidator regExp text (some config)).isOk = true ↔
      ExtensionsRead regExp text config := by
  rw [extensionsValidator_eq, isOk_checkNames]
  rfl

/-- The errors of the extensions validator. -/
theorem mem_extensionsValidator {errors : List ValidationError}
    (h : extensionsValidator regExp text (some config) = .ok errors) :
    (∀ e ∈ errors, e.severity = .error ∧ ∃ name, e.message = extensionMessage name) ∧
      ((∃ e, e ∈ errors) ↔ UndefinedExtension config) := by
  rw [extensionsValidator_eq] at h
  exact mem_checkNames h

/-- The third validator only warns. -/
theorem mem_emptyPipelineValidator {errors : List ValidationError}
    (h : emptyPipelineValidator regExp text (some config) = .ok errors) {e : ValidationError}
    (he : e ∈ errors) :
    e.severity = .warning ∧ ∃ pipelineName kind, e.message = emptyMessage pipelineName kind := by
  unfold emptyPipelineValidator at h
  dsimp only at h
  split at h
  -- Without pipelines there is nothing to warn of.
  · cases h
    cases he
  · obtain ⟨⟨pipelineName, pipeline?⟩, _, _, hentry, he⟩ := (mem_of_map_flatten_eq_ok h).mp he
    unfold checkEmptyPipeline at hentry
    split at hentry
    · cases hentry
    · obtain ⟨kind, _, hcreate⟩ := (mem_of_mapM_eq_ok hentry).mp he
      obtain ⟨hmessage, hseverity⟩ := of_createValidationError hcreate
      exact ⟨hseverity, pipelineName, kind, hmessage⟩

/-! ### The verdict -/

/-- The errors of the first validator, then those of the others. -/
theorem mem_allErrors_cons {e : ValidationError} {parsedData : Option OTelConfig}
    (validate : Validator) (validators : List Validator) :
    e ∈ allErrors text parsedData (validate :: validators) ↔
      (∃ errors, validate text parsedData = .ok errors ∧ e ∈ errors) ∨
        e ∈ allErrors text parsedData validators := by
  unfold allErrors
  rw [List.flatMap_cons, List.mem_append]
  cases validate text parsedData with
  | error err => simp
  | ok errors => simp

theorem mem_allErrors {e : ValidationError} :
    e ∈ allErrors text (some config) (defaultValidators regExp) ↔
      (∃ errors, pipelineValidator regExp text (some config) = .ok errors ∧ e ∈ errors) ∨
      (∃ errors, extensionsValidator regExp text (some config) = .ok errors ∧ e ∈ errors) ∨
      (∃ errors, emptyPipelineValidator regExp text (some config) = .ok errors ∧ e ∈ errors) := by
  have hnil : e ∉ allErrors text (some config) [] := List.not_mem_nil
  unfold defaultValidators
  rw [mem_allErrors_cons, mem_allErrors_cons, mem_allErrors_cons, or_iff_left hnil]

theorem take_key {e : ValidationError} {a b : UInt16} {rest : JsString}
    (h : e.message = a :: b :: rest) : e.key.take 2 = [a, b] := by
  rw [ValidationError.key, h]
  rfl

/-- The key of an error shows its severity: only the warnings begin with `Pi`. -/
theorem severity_of_mem_allErrors {e : ValidationError}
    (he : e ∈ allErrors text (some config) (defaultValidators regExp)) :
    e.severity = .error ↔ e.key.take 2 ≠ ascii "Pi" := by
  rcases mem_allErrors.mp he with ⟨_, h, he⟩ | ⟨_, h, he⟩ | ⟨_, h, he⟩
  · obtain ⟨hseverity, kind, pipelineName, name, hmessage⟩ := (mem_pipelineValidator h).1 e he
    have hkey : e.key.take 2 ≠ ascii "Pi" := by
      cases kind with
      | receiver =>
        rw [take_key hmessage]
        decide
      | processor =>
        rw [take_key hmessage]
        decide
      | exporter =>
        rw [take_key hmessage]
        decide
    exact ⟨fun _ => hkey, fun _ => hseverity⟩
  · obtain ⟨hseverity, name, hmessage⟩ := (mem_extensionsValidator h).1 e he
    have hkey : e.key.take 2 ≠ ascii "Pi" := by
      rw [take_key hmessage]
      decide
    exact ⟨fun _ => hkey, fun _ => hseverity⟩
  · obtain ⟨hseverity, pipelineName, kind, hmessage⟩ := mem_emptyPipelineValidator h he
    have hkey : e.key.take 2 = ascii "Pi" := take_key hmessage
    rw [hseverity]
    constructor
    · intro h
      cases h
    · intro h
      exact absurd hkey h

/-- The removal of duplicates does not change the verdict. -/
theorem valid_eq_false_iff :
    (validateYamlConfig text (some config) (defaultValidators regExp)).valid = false ↔
      ∃ e ∈ allErrors text (some config) (defaultValidators regExp), e.severity = .error := by
  have hkeys : ∀ a ∈ allErrors text (some config) (defaultValidators regExp),
      ∀ b ∈ allErrors text (some config) (defaultValidators regExp),
      a.key = b.key → a.severity = .error → b.severity = .error := by
    intro a ha b hb hkey hseverity
    rw [severity_of_mem_allErrors hb, ← hkey, ← severity_of_mem_allErrors ha]
    exact hseverity
  rw [← exists_firstOfEachKey_iff hkeys]
  unfold validateYamlConfig
  dsimp only
  rw [decide_eq_false_iff_not, List.length_eq_zero_iff, List.filter_eq_nil_iff]
  simp only [decide_eq_true_eq, not_forall, not_not, exists_prop]

/-- The verdict is negative exactly if a validator that gets to the end finds a reference that is
not defined. -/
theorem valid_eq_false_iff_read :
    (validateYamlConfig text (some config) (defaultValidators regExp)).valid = false ↔
      (UndefinedComponent config ∧ PipelinesRead regExp text config) ∨
      (UndefinedExtension config ∧ ExtensionsRead regExp text config) := by
  rw [valid_eq_false_iff, ← isOk_pipelineValidator, ← isOk_extensionsValidator]
  constructor
  · rintro ⟨e, he, hseverity⟩
    rcases mem_allErrors.mp he with ⟨_, h, he⟩ | ⟨_, h, he⟩ | ⟨_, h, he⟩
    · refine Or.inl ⟨(mem_pipelineValidator h).2.mp ⟨e, he⟩, ?_⟩
      rw [h]
      rfl
    · refine Or.inr ⟨(mem_extensionsValidator h).2.mp ⟨e, he⟩, ?_⟩
      rw [h]
      rfl
    -- The third validator only warns.
    · rw [(mem_emptyPipelineValidator h he).1] at hseverity
      cases hseverity
  · rintro (⟨hundefined, hok⟩ | ⟨hundefined, hok⟩)
    · obtain ⟨errors, h⟩ := exists_eq_ok hok
      obtain ⟨e, he⟩ := (mem_pipelineValidator h).2.mpr hundefined
      exact ⟨e, mem_allErrors.mpr (Or.inl ⟨errors, h, he⟩), ((mem_pipelineValidator h).1 e he).1⟩
    · obtain ⟨errors, h⟩ := exists_eq_ok hok
      obtain ⟨e, he⟩ := (mem_extensionsValidator h).2.mpr hundefined
      exact ⟨e, mem_allErrors.mpr (Or.inr (Or.inl ⟨errors, h, he⟩)),
        ((mem_extensionsValidator h).1 e he).1⟩

end Validators

/-- The verdict is exact if and only if no reference is undefined, or one of the two validators
gets to the end and finds one. -/
theorem verdictExact_iff (regExp : RegExp) (text : JsString) (config : OTelConfig) :
    VerdictExact regExp text config ↔
      (UndefinedComponent config ∨ UndefinedExtension config →
        (UndefinedComponent config ∧ PipelinesRead regExp text config) ∨
        (UndefinedExtension config ∧ ExtensionsRead regExp text config)) := by
  unfold VerdictExact
  rw [valid_eq_false_iff_read]
  constructor
  · intro h
    exact h.mpr
  · intro h
    refine ⟨?_, h⟩
    rintro (⟨hundefined, _⟩ | ⟨hundefined, _⟩)
    · exact Or.inl hundefined
    · exact Or.inr hundefined

/-! ### Errors that are lost -/

/-- A pipeline with an undefined receiver, next to a pipeline that is `null`:

    service:
      pipelines:
        traces:
          receivers: [nope]
        metrics:
-/
def emptyPipelineConfig : OTelConfig where
  service := some {
    pipelines := some [
      (ascii "traces", some ⟨some [ascii "nope"], none, none⟩),
      (ascii "metrics", none)]
    extensions := none }

/-- A pipeline with an undefined receiver that has an open bracket in its name. -/
def openBracketConfig : OTelConfig where
  service := some {
    pipelines := some [(ascii "traces", some ⟨some [ascii "a("], none, none⟩)]
    extensions := none }

def openBracketText : JsString :=
  ascii "service:\n  pipelines:\n    traces:\n      receivers: [a(]"

theorem undefined_emptyPipelineConfig : UndefinedComponent emptyPipelineConfig := by
  refine ⟨ascii "traces", .receiver, ascii "nope", ⟨_, List.mem_cons_self, List.mem_cons_self⟩, ?_⟩
  rintro (h | h)
  · cases h
  · cases h

theorem undefined_openBracketConfig :
    References openBracketConfig (ascii "traces") .receiver (ascii "a(") ∧
      ¬ Kind.receiver.IsDefined openBracketConfig (ascii "a(") := by
  refine ⟨⟨_, List.mem_cons_self, List.mem_cons_self⟩, ?_⟩
  rintro (h | h)
  · cases h
  · cases h

/-- The verdict on the first config is positive for each text. The verdict on the second config is
positive for its text, if the name makes no regular expression. -/
theorem errors_erased :
    (¬ ∃ regExp text, VerdictExact regExp text emptyPipelineConfig) ∧
    ∀ regExp : RegExp, regExp (ascii "\\ba(\\b") = none →
      ¬ VerdictExact regExp openBracketText openBracketConfig := by
  refine ⟨?_, ?_⟩
  · rintro ⟨regExp, text, hexact⟩
    have hvalid := hexact.mpr (Or.inl undefined_emptyPipelineConfig)
    rcases valid_eq_false_iff_read.mp hvalid with ⟨_, hnull, _⟩ | ⟨⟨_, hextension, _⟩, _⟩
    -- The pipeline validator throws at `metrics`, and no extension is used.
    · exact hnull (ascii "metrics", none) (List.mem_cons_of_mem _ List.mem_cons_self) rfl
    · cases hextension
  · intro regExp hreject hexact
    obtain ⟨hreference, hundefined⟩ := undefined_openBracketConfig
    have hvalid := hexact.mpr (Or.inl ⟨_, _, _, hreference, hundefined⟩)
    rcases valid_eq_false_iff_read.mp hvalid with ⟨_, _, hsearch⟩ | ⟨⟨_, hextension, _⟩, _⟩
    · rcases hsearch _ _ _ hreference hundefined with hempty | hregex | hlist
      · exact absurd hempty (by decide)
      · have hpattern : componentRegex regExp (ascii "a(") = .error .syntaxError := by
          unfold componentRegex
          rw [show ascii "\\b" ++ ascii "a(" ++ ascii "\\b" = ascii "\\ba(\\b" from rfl, hreject]
        rw [hpattern] at hregex
        cases hregex
      -- The text has the list, in brackets on the line of its key.
      · exact hlist ⟨_, rfl, Or.inl (by decide)⟩
    · cases hextension

end OtelHive.Ui
