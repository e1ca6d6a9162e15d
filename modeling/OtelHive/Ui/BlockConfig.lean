import OtelHive.Ui.BlockMapping
import OtelHive.Ui.YamlParser

/-!
# `OtelHive.Ui.BlockConfig`: collector configs in block style

What `parseYamlComponents` is for: the sections of a config hold components, and each component has
a line. `BlockConfig` is a text in block style with an indentation of two columns: the key of a
section stands in the first column, and the key of a component in the third one. The lines inside a
component are indented by four columns or more, and those inside another section by two. Blank
lines, comments and the items of a sequence can have any indentation. What such a line says does not
matter for the components, so it can be any text.

The text of a key can differ from its name by quotes and escapes.
-/

set_option autoImplicit false

namespace OtelHive.Ui

open JsString (unit ascii)

/-! ### Lines -/

/-- A key as it is written, with the white space before the colon. Quotes and escapes make the text
longer than the name. -/
structure Spelling where
  text : JsString
  gap : JsString := []
  name : JsString
  ne_nil : text ≠ []
  trimmed : text.trim = text
  blank : ∀ u ∈ gap, JsString.isSpace u = true
  oneLine : unit '\n' ∉ text ++ gap
  shorter : name = text ∨ name.length < text.length

/-- A line that holds no key of the first `n` columns: a blank line, a comment, an item of a
sequence, or a line that is indented by `n` columns or more. -/
structure InnerLine (n : Nat) where
  text : JsString
  oneLine : unit '\n' ∉ text
  inner : isSkipped text = true ∨ text.trim.startsWith '-' = true ∨
    List.replicate n (unit ' ') <+: text

/-- A line of a config. The key of a section or of a component has its indentation, the key, a colon
and any text. -/
inductive Line where
  | «section» (key : Spelling) (lineEnd : LineEnd)
  | component (kind : Kind) (key : Spelling) (lineEnd : LineEnd)
  | inner (line : InnerLine 2)

/-- A key after its indentation. -/
def Spelling.line (key : Spelling) (indent : Nat) (lineEnd : LineEnd) : JsString :=
  List.replicate indent (unit ' ') ++ (key.text ++ (key.gap ++ unit ':' :: lineEnd.text))

namespace Line

def text : Line → JsString
  | «section» key lineEnd => key.line 0 lineEnd
  | component _ key lineEnd => key.line 2 lineEnd
  | inner line => line.text

/-- The component of which the line is the key. -/
def component? : Line → Option (Kind × JsString)
  | component kind key _ => some (kind, key.name)
  | _ => none

end Line

/-! ### Configs -/

/-- The key of a component and the lines inside it. -/
structure ComponentEntry where
  key : Spelling
  lineEnd : LineEnd
  body : List (InnerLine 4)

/-- A section of a config. -/
inductive BlockSection where
  | components (kind : Kind) (key : Spelling) (named : key.name = kind.sectionName)
      (lineEnd : LineEnd) (leading : List (InnerLine 4)) (entries : List ComponentEntry)
  | other (key : Spelling) (named : ∀ kind : Kind, key.name ≠ kind.sectionName)
      (lineEnd : LineEnd) (body : List (InnerLine 2))

/-- A config, with the lines before its first section. -/
structure BlockConfig where
  preamble : List (InnerLine 2)
  sections : List BlockSection

theorem replicate_two_prefix {text : JsString} (h : List.replicate 4 (unit ' ') <+: text) :
    List.replicate 2 (unit ' ') <+: text :=
  List.IsPrefix.trans ⟨List.replicate 2 (unit ' '), rfl⟩ h

/-- A line inside a component is a line inside its section. -/
def InnerLine.line (line : InnerLine 4) : Line :=
  .inner {
    text := line.text
    oneLine := line.oneLine
    inner := line.inner.imp_right fun h => h.imp_right replicate_two_prefix }

def ComponentEntry.lines (kind : Kind) (entry : ComponentEntry) : List Line :=
  .component kind entry.key entry.lineEnd :: entry.body.map InnerLine.line

def BlockSection.lines : BlockSection → List Line
  | components kind key _ lineEnd leading entries =>
    .section key lineEnd :: leading.map InnerLine.line ++ entries.flatMap (·.lines kind)
  | other key _ lineEnd body => .section key lineEnd :: body.map .inner

namespace BlockConfig

def lines (config : BlockConfig) : List Line :=
  config.preamble.map .inner ++ config.sections.flatMap (·.lines)

def text (config : BlockConfig) : JsString :=
  List.intercalate [unit '\n'] (config.lines.map Line.text)

/-- A component on the line with an index. -/
def componentAt (index : Nat) (component : Kind × JsString) : YamlComponent where
  name := component.2
  type := component.1
  lineNumber := index + 1

/-- The components of the lines from an index on. -/
def componentsFrom (index : Nat) : List Line → List YamlComponent
  | [] => []
  | line :: rest =>
    (line.component?.map (componentAt index)).toList ++ componentsFrom (index + 1) rest

/-- The components of the sections, with their lines counted from 1. -/
def components (config : BlockConfig) : List YamlComponent := componentsFrom 0 config.lines

end BlockConfig

end OtelHive.Ui
