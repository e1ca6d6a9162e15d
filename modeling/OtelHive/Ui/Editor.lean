import OtelHive.Lib.Debounce
import OtelHive.Ui.PipelineGraph

/-!
# `OtelHive.Ui.Editor`: the editor of a config

`ConfigEditorSideBySide` of `ui/src/components/configs`, with the hooks `useYamlParser` and
`useYamlValidation` of `ui/src/hooks` and the preview `CollectorPipelineView`. The page shows the
text in Monaco and its pipelines beside it.

React commits a render when it likes (`Event.commit`) and then runs the effects whose dependencies
have changed. The effects of the hooks start a timer each, and their cleanups stop the timer before.
A timer can fire between a change and its commit, with the text of the last effect, and the two
timers can fire in either order. The badges are those of a render of the state.

An exception in an effect unmounts the page, because no component catches it.
-/

set_option autoImplicit false

namespace OtelHive.Ui

open OtelHive.Lib
open JsString (ascii)

/-! ### `useYamlParser` -/

/-- `YamlParseResult`. -/
structure YamlParseResult where
  valid : Bool
  data : Option OTelConfig
  error : Option JsString
deriving DecidableEq

/-- The state of `useYamlParser`. -/
structure Parsing where
  parseResult : YamlParseResult
  isParsing : Bool
deriving DecidableEq

def Parsing.start : Parsing where
  parseResult := { valid := true, data := none, error := none }
  isParsing := false

/-- `!content.trim()`. -/
def isBlankText (content : JsString) : Bool := content.trim = []

/-- `parseYaml`. -/
def parseYaml (load : Load) (content : JsString) (p : Parsing) : Parsing :=
  if isBlankText content then
    -- This returns before the `try`, so no `finally` ends `isParsing`.
    { p with parseResult := { valid := true, data := none, error := none } }
  else
    match load content with
    | .ok parsed =>
      { parseResult := { valid := true, data := parsed, error := none }, isParsing := false }
    | .error message =>
      { parseResult :=
          { valid := false, data := none
            error := some (message.getD (ascii "Failed to parse YAML")) }
        isParsing := false }

/-! ### `useYamlValidation` -/

/-- `IMarkerData` of Monaco. -/
structure Marker where
  severity : Nat
  startLineNumber : Nat
  startColumn : Nat
  endLineNumber : Nat
  endColumn : Nat
  message : JsString
  source : JsString
deriving DecidableEq

/-- The state of `useYamlValidation`, with the markers that it has set in Monaco. -/
structure Validating where
  validationResult : ValidationResult
  isValidating : Bool
  markers : List Marker
deriving DecidableEq

def Validating.start : Validating where
  validationResult := { valid := true, errors := [] }
  isValidating := false
  markers := []

/-- `a || b` for numbers. -/
def orNumber (a : Option Nat) (b : Nat) : Nat :=
  match a with
  | none | some 0 => b
  | some n => n

def marker (e : ValidationError) : Marker where
  severity := if e.severity = .error then 8 else 4
  startLineNumber := e.line
  startColumn := e.column
  endLineNumber := orNumber e.endLine e.line
  endColumn := orNumber e.endColumn (e.column + 1)
  message := e.message
  source := ascii "otel-validator"

/-- The result for a text that does not parse. -/
def parseErrorResult (message : Option JsString) : ValidationResult where
  valid := false
  errors := [{
    message := message.getD (ascii "YAML parse error")
    severity := .error
    line := 1
    column := 1
    path := [] }]

/-- `performValidation`. `hasModel` says whether Monaco is there with a model. -/
def performValidation (load : Load) (validators : List Validator) (hasModel : Bool)
    (content : JsString) (v : Validating) : Validating :=
  if isBlankText content then
    { v with validationResult := { valid := true, errors := [] }, isValidating := false }
  else
    match load content with
    | .ok parsed =>
      let result := validateYamlConfig content parsed validators
      { validationResult := result
        isValidating := false
        markers := if hasModel then result.errors.map marker else v.markers }
    | .error message => { v with validationResult := parseErrorResult message, isValidating := false }

/-! ### The page -/

/-- What the source gets from outside. -/
structure Libraries where
  casing : Casing
  load : Load
  validators : List Validator

/-- `ConfigEditorSideBySide`. -/
structure Editor where
  /-- `value`. -/
  text : JsString
  parser : Debounced JsString Parsing
  validation : Debounced JsString Validating
  /-- Whether `editorRef.current` is set. -/
  mounted : Bool
  /-- The preview, if it is mounted: the text of its last effect, and the nodes and edges. -/
  preview : Option (JsString × Graph)
  /-- An effect has thrown. -/
  crashed : Bool
deriving DecidableEq

inductive Editor.Event where
  /-- The user types, or another config is opened. -/
  | change (text : JsString)
  /-- `onMount` of Monaco. -/
  | mount
  /-- React commits a render and runs the effects. -/
  | commit
  | parserTimer
  | validationTimer
deriving DecidableEq

/-- The effect of `CollectorPipelineView` in preview mode. -/
def drawPreview (lib : Libraries) (effectiveConfig : JsString) : Except Thrown Graph :=
  if effectiveConfig = [] then .ok { nodes := [], edges := [] }
  else generatePipelineNodes lib.casing lib.load effectiveConfig []

namespace Editor

def start (text : JsString) : Editor where
  text := text
  parser := .idle .start
  validation := .idle .start
  mounted := false
  preview := none
  crashed := false

/-- The preview after a commit. It is mounted while the parse result is valid. -/
def commitPreview (lib : Libraries) (s : Editor) : Except Thrown (Option (JsString × Graph)) :=
  if s.parser.output.parseResult.valid then
    match s.preview with
    | some (text, graph) =>
      if text = s.text then .ok (some (text, graph))
      else (drawPreview lib s.text).map fun graph => some (s.text, graph)
    | none => (drawPreview lib s.text).map fun graph => some (s.text, graph)
  else .ok none

/-- A commit. The effects of the preview run before those of the page. -/
def commit (lib : Libraries) (s : Editor) : Editor :=
  match s.commitPreview lib with
  | .error _ => { s with crashed := true }
  | .ok preview =>
    { s with
      preview
      parser := s.parser.effect (fun p => { p with isParsing := true }) s.text
      validation := s.validation.effect (fun v => { v with isValidating := true }) s.text }

def step (lib : Libraries) (s : Editor) (e : Event) : Option Editor :=
  if s.crashed then none
  else
    match e with
    | .change text => some { s with text }
    | .mount => some { s with mounted := true }
    | .commit => some (s.commit lib)
    | .parserTimer =>
      (s.parser.fire (parseYaml lib.load)).map fun parser => { s with parser }
    | .validationTimer =>
      (s.validation.fire (performValidation lib.load lib.validators s.mounted)).map
        fun validation => { s with validation }

/-! ### The badges -/

/-- A badge. The counts are those of its text. -/
inductive Badge where
  | validating
  | updating
  | parseError
  | counts (errors warnings : Nat)
  | valid
  | warnings
  | invalid
deriving DecidableEq

/-- The badges above the text. -/
def headerBadges (s : Editor) : List Badge :=
  let parsing := s.parser.output
  let validating := s.validation.output
  let busy := parsing.isParsing || validating.isValidating
  let errors := validating.validationResult.errors
  (if busy then [if validating.isValidating then .validating else .updating] else [])
    ++ (if !busy && !parsing.parseResult.valid && parsing.parseResult.error.getD [] ≠ [] then
        [.parseError]
      else [])
    ++ (if !busy && parsing.parseResult.valid && errors.length > 0 then
        [.counts (errors.countP (·.severity = .error)) (errors.countP (·.severity = .warning))]
      else [])

/-- The badges above the preview. -/
def verdictBadges (s : Editor) : List Badge :=
  let parsed := s.parser.output.parseResult.valid
  let result := s.validation.output.validationResult
  let someError := result.errors.any (·.severity = .error)
  let someWarning := result.errors.any (·.severity = .warning)
  (if parsed && result.valid then [.valid] else [])
    ++ (if parsed && !result.valid && someWarning && !someError then [.warnings] else [])
    ++ (if !parsed || (parsed && someError) then [.invalid] else [])

end Editor

end OtelHive.Ui
