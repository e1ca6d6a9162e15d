import OtelHive.Ui.Validation

/-!
# `OtelHive.Ui.YamlParser`: the components of a config and their lines

`ui/src/utils/yaml-parser.ts`. `parseYamlComponents` goes through the lines of the editor's text. A
line `receivers:`, `processors:` or `exporters:` starts a section, and a line `service:`,
`extensions:` or `connectors:` ends it. Other lines that end with a colon are components of the
section if their indentation is near that of the section.
-/

set_option autoImplicit false

namespace OtelHive.Ui

open JsString (unit ascii)

/-- `YamlComponent`. -/
structure YamlComponent where
  name : JsString
  type : Kind
  lineNumber : Nat
deriving DecidableEq

/-- The variables of `parseYamlComponents`. -/
structure ParserState where
  components : List YamlComponent := []
  currentSection : Option Kind := none
  sectionIndent : Int := -1

/-- The body of the loop over the lines. -/
def parseLine (state : ParserState) (line : JsString) (index : Nat) : ParserState :=
  let trimmed := line.trim
  let indent := line.searchNonSpace
  if trimmed = ascii "receivers:" then
    { state with currentSection := some .receiver, sectionIndent := indent }
  else if trimmed = ascii "processors:" then
    { state with currentSection := some .processor, sectionIndent := indent }
  else if trimmed = ascii "exporters:" then
    { state with currentSection := some .exporter, sectionIndent := indent }
  else if trimmed = ascii "service:" ∨ trimmed = ascii "extensions:"
      ∨ trimmed = ascii "connectors:" then
    { state with currentSection := none }
  else
    match state.currentSection with
    | none => state
    | some currentSection =>
      if indent > state.sectionIndent ∧ indent ≠ -1 then
        if trimmed.endsWith ':' ∧ ¬ trimmed.startsWith '-' then
          let componentName := JsString.trim trimmed.dropLast
          let expectedIndent := state.sectionIndent + 2
          if (indent - expectedIndent).natAbs ≤ 2 ∧ componentName ≠ []
              ∧ unit ' ' ∉ componentName then
            { state with components := state.components ++ [{
                name := componentName
                type := currentSection
                lineNumber := index + 1 }] }
          else state
        else state
      else state

/-- The loop over the lines from an index on. -/
def parseLines (state : ParserState) (index : Nat) : List JsString → ParserState
  | [] => state
  | line :: rest => parseLines (parseLine state line index) (index + 1) rest

/-- `parseYamlComponents`. -/
def parseYamlComponents (yamlContent : JsString) : List YamlComponent :=
  (parseLines {} 0 yamlContent.lines).components

end OtelHive.Ui
