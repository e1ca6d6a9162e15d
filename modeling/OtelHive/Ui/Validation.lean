import OtelHive.Lib.Collect
import OtelHive.Ui.JsString

/-!
# `OtelHive.Ui.Validation`: the validators of collector configs

`ui/src/lib/validation`, with the validators of `defaultValidators`. A validator gets the text of
the editor and what `yaml.load` made of it, and may throw. `validateYamlConfig` goes on without a
validator that throws.

Of the sections of a config only the keys matter. A section that is missing or `null` is `none`,
and so is a pipeline that is `null`. The entries of an object are in the order of
`Object.entries`.

`findYamlPosition` searches for the position of a component with a regular expression that it
builds from the name of the component. Its loops are split up: `findKey` finds the line of the
path, and `findComponent` searches from there.
-/

set_option autoImplicit false

namespace OtelHive.Ui

open OtelHive.Lib
open JsString (unit ascii)

/-! ### Types -/

/-- A pipeline of `OTelConfig`. -/
structure Pipeline where
  receivers : Option (List JsString)
  processors : Option (List JsString)
  exporters : Option (List JsString)
deriving DecidableEq

/-- The service section of `OTelConfig`. -/
structure Service where
  pipelines : Option (List (JsString × Option Pipeline))
  extensions : Option (List JsString)
deriving DecidableEq

/-- `OTelConfig`. -/
structure OTelConfig where
  receivers : Option (List JsString) := none
  processors : Option (List JsString) := none
  exporters : Option (List JsString) := none
  extensions : Option (List JsString) := none
  connectors : Option (List JsString) := none
  service : Option Service := none
deriving DecidableEq

inductive Severity where
  | error
  | warning
deriving DecidableEq

/-- `ValidationError`. -/
structure ValidationError where
  message : JsString
  severity : Severity
  line : Nat
  column : Nat
  endLine : Option Nat := none
  endColumn : Option Nat := none
  path : List JsString
deriving DecidableEq

/-- `ValidationResult`. -/
structure ValidationResult where
  valid : Bool
  errors : List ValidationError
deriving DecidableEq

/-- `validate` of a validator. The parsed data is none if it is not an object. -/
abbrev Validator : Type :=
  JsString → Option OTelConfig → Except Thrown (List ValidationError)

/-! ### Positions -/

/-- What `findYamlPosition` returns. -/
structure Position where
  line : Nat
  column : Nat
  endLine : Nat
  endColumn : Nat
deriving DecidableEq

/-- Where a text stands on the line with an index. -/
def Position.of (i : Nat) (line text : JsString) : Position where
  line := i + 1
  column := line.columnOf text
  endLine := i + 1
  endColumn := line.columnOf text + text.length

/-- An empty line or a comment. -/
def isSkipped (line : JsString) : Bool :=
  line.trim == [] || line.trim.startsWith '#'

/-- The length of the leading white space. -/
def indentOf (line : JsString) : Nat := line.length - line.trimStart.length

/-- `/^([^:#[\]]+):/`, and the group of the match. -/
def matchKey (s : JsString) : Option JsString :=
  let key := s.takeWhile fun u => !(u ∈ [unit ':', unit '#', unit '[', unit ']'])
  if key ≠ [] ∧ JsString.startsWith (s.drop key.length) ':' then some key else none

/-- The part of the next expression after the colon. -/
def matchArray (s : JsString) : Option JsString :=
  match s.dropWhile JsString.isSpace with
  | u :: inner =>
    let content := inner.takeWhile (· != unit ']')
    if u = unit '[' ∧ content ≠ [] ∧ content.length < inner.length then some content else none
  | [] => none

/-- `/:\s*\[([^\]]+)\]/`, and the group of the first match. -/
def matchInlineArray : JsString → Option JsString
  | [] => none
  | u :: rest =>
    match if u = unit ':' then matchArray rest else none with
    | some content => some content
    | none => matchInlineArray rest

/-- The line of the last key of a path. -/
structure KeyLine where
  index : Nat
  line : JsString
  indent : Nat
  /-- The lines after it. -/
  following : List JsString

/-- The loop of `findYamlPosition` over the lines, up to the last key of the path. `keys` are the
keys of the path that it has not found yet. -/
def findKey (path : List JsString) :
    Nat → List JsString → List JsString → Nat → Option KeyLine
  | _, [], _, _ => none
  | i, line :: rest, keys, currentIndent =>
    if isSkipped line then findKey path (i + 1) rest keys currentIndent
    else
      let indent := indentOf line
      if keys ≠ [] ∧ (matchKey line.trim).map JsString.trim = keys.head? then
        if keys.tail = [] then some { index := i, line, indent, following := rest }
        else findKey path (i + 1) rest keys.tail indent
      -- A smaller indentation leaves the context of the path.
      else if indent < currentIndent then findKey path (i + 1) rest path 0
      else findKey path (i + 1) rest keys currentIndent

/-- `new RegExp` for the name of a component. The name is not escaped. -/
def componentRegex (regExp : RegExp) (componentName : JsString) :
    Except Thrown (JsString → Bool) :=
  match regExp (ascii "\\b" ++ componentName ++ ascii "\\b") with
  | some test => .ok test
  | none => .error .syntaxError

/-- The search for the component in the lines after the key. -/
def findItem (regExp : RegExp) (componentName : JsString) (currentIndent : Nat) :
    Nat → List JsString → Except Thrown (Option Position)
  | _, [] => .ok none
  | j, nextLine :: rest =>
    if isSkipped nextLine then findItem regExp componentName currentIndent (j + 1) rest
    else if indentOf nextLine ≤ currentIndent then .ok none
    else if nextLine.trim.startsWith '-' then
      match componentRegex regExp componentName with
      | .error err => .error err
      | .ok test =>
        if test nextLine.trim then .ok (some (.of j nextLine componentName))
        else findItem regExp componentName currentIndent (j + 1) rest
    else findItem regExp componentName currentIndent (j + 1) rest

/-- The search for the component: on the line of the key, then in the lines after it. -/
def findComponent (regExp : RegExp) (componentName : JsString) (key : KeyLine) :
    Except Thrown (Option Position) :=
  match matchInlineArray key.line with
  | some arrayContent =>
    match componentRegex regExp componentName with
    | .error err => .error err
    | .ok test =>
      if test arrayContent then .ok (some (.of key.index key.line componentName))
      else findItem regExp componentName key.indent (key.index + 1) key.following
  | none => findItem regExp componentName key.indent (key.index + 1) key.following

/-- `findYamlPosition`. An empty component name is the same as none. -/
def findYamlPosition (regExp : RegExp) (yamlContent : JsString) (path : List JsString)
    (componentName : Option JsString) : Except Thrown (Option Position) :=
  match findKey path 0 yamlContent.lines path 0 with
  | none => .ok none
  | some key =>
    let keyPosition := Position.of key.index key.line (path.getLast?.getD [])
    match componentName.filter (· ≠ []) with
    | none => .ok (some keyPosition)
    | some componentName =>
      (findComponent regExp componentName key).map fun position =>
        some (position.getD keyPosition)

/-- `createValidationError`. -/
def createValidationError (regExp : RegExp) (message yamlContent : JsString)
    (path : List JsString) (componentName : Option JsString) (severity : Severity) :
    Except Thrown ValidationError :=
  (findYamlPosition regExp yamlContent path componentName).map fun position =>
    match position with
    | some p =>
      { message, severity, path
        line := p.line
        column := p.column
        endLine := some p.endLine
        endColumn := some p.endColumn }
    | none => { message, severity, path, line := 1, column := 1 }

/-! ### Validators -/

/-- `Object.keys(section || {})`. -/
def keysOf (section? : Option (List JsString)) : List JsString := section?.getD []

/-- `config.service?.pipelines`. -/
def OTelConfig.pipelines? (config : OTelConfig) : Option (List (JsString × Option Pipeline)) :=
  config.service.bind (·.pipelines)

/-- The component lists of a pipeline. -/
inductive Kind where
  | receiver
  | processor
  | exporter
deriving DecidableEq

namespace Kind

/-- `pipeline.receivers` and so on. -/
def components : Kind → Pipeline → Option (List JsString)
  | .receiver, pipeline => pipeline.receivers
  | .processor, pipeline => pipeline.processors
  | .exporter, pipeline => pipeline.exporters

/-- `definedReceivers` and so on. A connector is a receiver and an exporter. -/
def defined : Kind → OTelConfig → List JsString
  | .receiver, config => keysOf config.receivers ++ keysOf config.connectors
  | .processor, config => keysOf config.processors
  | .exporter, config => keysOf config.exporters ++ keysOf config.connectors

def label : Kind → JsString
  | .receiver => ascii "Receiver"
  | .processor => ascii "Processor"
  | .exporter => ascii "Exporter"

def sectionName : Kind → JsString
  | .receiver => ascii "receivers"
  | .processor => ascii "processors"
  | .exporter => ascii "exporters"

/-- The message for a component that is not defined. -/
def message (kind : Kind) (pipelineName name : JsString) : JsString :=
  kind.label ++ ascii " '" ++ name ++ ascii "' is used in pipeline '" ++ pipelineName
    ++ ascii "' but not defined in " ++ kind.sectionName ++ ascii " section"

def path (kind : Kind) (pipelineName : JsString) : List JsString :=
  [ascii "service", ascii "pipelines", pipelineName, kind.sectionName]

end Kind

/-- The loop over the names of a list: an error for each name that is not defined. -/
def checkNames (regExp : RegExp) (yamlContent : JsString) (defined : List JsString)
    (message : JsString → JsString) (path : List JsString) (names : List JsString) :
    Except Thrown (List ValidationError) :=
  (names.filter fun name => name ∉ defined).mapM fun name =>
    createValidationError regExp (message name) yamlContent path (some name) .error

/-- One list of a pipeline. -/
def checkComponents (regExp : RegExp) (yamlContent : JsString) (config : OTelConfig)
    (pipelineName : JsString) (pipeline : Pipeline) (kind : Kind) :
    Except Thrown (List ValidationError) :=
  checkNames regExp yamlContent (kind.defined config) (kind.message pipelineName)
    (kind.path pipelineName) ((kind.components pipeline).getD [])

/-- One pipeline of `OTelPipelineValidator`. -/
def checkPipeline (regExp : RegExp) (yamlContent : JsString) (config : OTelConfig)
    (entry : JsString × Option Pipeline) : Except Thrown (List ValidationError) :=
  match entry.2 with
  -- `pipeline.receivers` of `null`.
  | none => .error .typeError
  | some pipeline =>
    ([Kind.receiver, .processor, .exporter].mapM
      (checkComponents regExp yamlContent config entry.1 pipeline)).map List.flatten

/-- `OTelPipelineValidator`. -/
def pipelineValidator (regExp : RegExp) : Validator := fun yamlContent parsedData =>
  match parsedData with
  | none => .ok []
  | some config =>
    match config.pipelines? with
    | none => .ok []
    | some pipelines =>
      (pipelines.mapM (checkPipeline regExp yamlContent config)).map List.flatten

/-- `config.service?.extensions`. -/
def OTelConfig.usedExtensions? (config : OTelConfig) : Option (List JsString) :=
  config.service.bind (·.extensions)

def extensionMessage (extension : JsString) : JsString :=
  ascii "Extension '" ++ extension
    ++ ascii "' is used in service but not defined in extensions section"

def extensionPath : List JsString := [ascii "service", ascii "extensions"]

/-- `OTelExtensionsValidator`. -/
def extensionsValidator (regExp : RegExp) : Validator := fun yamlContent parsedData =>
  match parsedData with
  | none => .ok []
  | some config =>
    match config.usedExtensions? with
    | none => .ok []
    | some extensions =>
      checkNames regExp yamlContent (keysOf config.extensions) extensionMessage extensionPath
        extensions

/-- The warning for a pipeline without components of a kind. -/
def emptyMessage (pipelineName kind : JsString) : JsString :=
  ascii "Pipeline '" ++ pipelineName ++ ascii "' must have at least one " ++ kind

/-- One pipeline of `OTelEmptyPipelineValidator`. -/
def checkEmptyPipeline (regExp : RegExp) (yamlContent : JsString)
    (entry : JsString × Option Pipeline) : Except Thrown (List ValidationError) :=
  match entry.2 with
  | none => .error .typeError
  | some pipeline =>
    let missing :=
      (if pipeline.receivers.getD [] = [] then [ascii "receiver"] else [])
        ++ (if pipeline.exporters.getD [] = [] then [ascii "exporter"] else [])
    missing.mapM fun kind =>
      createValidationError regExp (emptyMessage entry.1 kind) yamlContent
        [ascii "service", ascii "pipelines", entry.1] none .warning

/-- `OTelEmptyPipelineValidator`. -/
def emptyPipelineValidator (regExp : RegExp) : Validator := fun yamlContent parsedData =>
  match parsedData with
  | none => .ok []
  | some config =>
    match config.pipelines? with
    | none => .ok []
    | some pipelines =>
      (pipelines.mapM (checkEmptyPipeline regExp yamlContent)).map List.flatten

/-- `defaultValidators`. -/
def defaultValidators (regExp : RegExp) : List Validator :=
  [pipelineValidator regExp, extensionsValidator regExp, emptyPipelineValidator regExp]

/-! ### The result -/

/-- The key of an error for the removal of duplicates. -/
def ValidationError.key (e : ValidationError) : JsString :=
  e.message ++ ascii "|" ++ .ofNat e.line ++ ascii "|" ++ .ofNat e.column

/-- The errors of the validators. A validator that throws has none. -/
def allErrors (yamlContent : JsString) (parsedData : Option OTelConfig)
    (validators : List Validator) : List ValidationError :=
  validators.flatMap fun validate =>
    match validate yamlContent parsedData with
    | .ok errors => errors
    | .error _ => []

/-- `validateYamlConfig`. -/
def validateYamlConfig (yamlContent : JsString) (parsedData : Option OTelConfig)
    (validators : List Validator) : ValidationResult :=
  let uniqueErrors :=
    firstOfEachKey ValidationError.key [] (allErrors yamlContent parsedData validators)
  { valid := (uniqueErrors.filter fun e => e.severity = .error).length = 0
    errors := uniqueErrors }

end OtelHive.Ui
