import OtelHive.Ui.Validation

/-!
# `OtelHive.Ui.BlockMapping`: YAML documents of block mappings

What `findYamlPosition` is for: a key path names an entry of a document, and the entry has a line.
`Document` is a text in block style with its entries. A mapping is its first entry, the value of
that entry and the entries after it. The entries of a mapping have one indentation, and a value is
indented deeper than its key by any amount. Before an entry and at the end there can be blank lines
and comments. A key is plain, and what follows its colon on the line can be any text.
-/

set_option autoImplicit false

namespace OtelHive.Ui

open JsString (unit)

/-- A plain key. -/
structure Key where
  text : JsString
  ne_nil : text ≠ []
  trimmed : text.trim = text
  plain : ∀ u ∈ text, u ∉ [unit ':', unit '#', unit '[', unit ']', unit '\n']

/-- A blank line or a comment. -/
structure Filler where
  text : JsString
  skipped : isSkipped text = true
  oneLine : unit '\n' ∉ text

/-- The line of a key after the colon. -/
structure LineEnd where
  text : JsString
  oneLine : unit '\n' ∉ text

/-- The entries of a mapping. The value of an entry is indented by `deeper` and one more. -/
inductive Mapping where
  | nil
  | cons (filler : List Filler) (key : Key) (lineEnd : LineEnd) (deeper : Nat) (value : Mapping)
      (siblings : Mapping)

namespace Mapping

/-- The line of a key. -/
def keyLine (indent : Nat) (key : Key) (lineEnd : LineEnd) : JsString :=
  List.replicate indent (unit ' ') ++ (key.text ++ unit ':' :: lineEnd.text)

/-- The lines of a mapping. -/
def lines : Mapping → Nat → List JsString
  | nil, _ => []
  | cons filler key lineEnd deeper value siblings, indent =>
    filler.map Filler.text ++ keyLine indent key lineEnd
      :: (value.lines (indent + deeper + 1) ++ siblings.lines indent)

/-- The number of lines. -/
def height : Mapping → Nat
  | nil => 0
  | cons filler _ _ _ value siblings => filler.length + (1 + (value.height + siblings.height))

/-- The keys of the entries themselves. -/
def ownKeys : Mapping → List JsString
  | nil => []
  | cons _ key _ _ _ siblings => key.text :: siblings.ownKeys

/-- All keys, at any level. -/
def keys : Mapping → List JsString
  | nil => []
  | cons _ key _ _ value siblings => key.text :: (value.keys ++ siblings.keys)

/-- The keys of each mapping are distinct. -/
def Distinct : Mapping → Prop
  | nil => True
  | cons _ key _ _ value siblings =>
    key.text ∉ siblings.ownKeys ∧ value.Distinct ∧ siblings.Distinct

/-- The line of the entry at a path, counted from the first line of the mapping. -/
def lineOf : Mapping → List JsString → Option Nat
  | _, [] => none
  | nil, _ :: _ => none
  | cons filler key _ _ value siblings, k :: path =>
    if key.text = k then
      if path = [] then some filler.length
      else (value.lineOf path).map (filler.length + 1 + ·)
    else (siblings.lineOf (k :: path)).map (filler.length + (1 + value.height) + ·)

/-- Along the path, no key occurs inside the value of an earlier entry of its mapping. -/
def Clear : Mapping → List JsString → Prop
  | _, [] => True
  | nil, _ :: _ => True
  | cons _ key _ _ value siblings, k :: path =>
    if key.text = k then value.Clear path else k ∉ value.keys ∧ siblings.Clear (k :: path)

end Mapping

/-- A document. -/
structure Document where
  indent : Nat
  mapping : Mapping
  trailing : List Filler
  distinct : mapping.Distinct

namespace Document

def lines (doc : Document) : List JsString :=
  doc.mapping.lines doc.indent ++ doc.trailing.map Filler.text

def text (doc : Document) : JsString :=
  List.intercalate [unit '\n'] doc.lines

end Document

end OtelHive.Ui
