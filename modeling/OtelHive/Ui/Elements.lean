import OtelHive.Ui.Validation

/-!
# `OtelHive.Ui.Elements`: the list at a key

What `findYamlPosition` is for when it gets a component name: the name is an element of the list at
a key, and the element has a place in the text. A list is either in brackets after the colon of the
key, or its items are below the key. An element is a plain scalar, or a scalar in quotes, and its
place is that of the text without the quotes. Elements in brackets are separated by commas.
-/

set_option autoImplicit false

namespace OtelHive.Ui

open JsString (unit)

/-- An element: the index of its line, the number of code units before it, and its text. -/
structure Element where
  index : Nat
  offset : Nat
  text : JsString
deriving DecidableEq

/-- The range of the element. -/
def Element.position (e : Element) : Position where
  line := e.index + 1
  column := e.offset + 1
  endLine := e.index + 1
  endColumn := e.offset + 1 + e.text.length

/-- The quotation marks, double and single. -/
def quotes : List UInt16 := [0x22, 0x27]

/-- The scalar in a piece of a line, without white space around it and without quotes. -/
def elementAt (index offset : Nat) (piece : JsString) : Element :=
  match piece.trim with
  | [] => ⟨index, offset + indentOf piece, []⟩
  | u :: rest =>
    if u ∈ quotes ∧ rest.getLast? = some u then
      ⟨index, offset + indentOf piece + 1, rest.dropLast⟩
    else ⟨index, offset + indentOf piece, u :: rest⟩

/-- The elements in brackets. The pieces between the commas begin at `offset`. -/
def flowElements (index : Nat) : Nat → List JsString → List Element
  | _, [] => []
  | offset, piece :: pieces =>
    elementAt index offset piece :: flowElements index (offset + piece.length + 1) pieces

/-- The text before the first colon. -/
def beforeColon (line : JsString) : JsString := line.takeWhile (· != unit ':')

/-- The text after the first colon. -/
def afterColon (line : JsString) : JsString := line.drop ((beforeColon line).length + 1)

/-- The elements of a list in brackets, after the first colon of the line. -/
def inlineElements (key : KeyLine) : List Element :=
  match matchArray (afterColon key.line) with
  | some content =>
    flowElements key.index
      ((beforeColon key.line).length + 1 + indentOf (afterColon key.line) + 1)
      (content.splitOn (unit ','))
  | none => []

/-- The text before a comment. -/
def withoutComment : JsString → JsString
  | [] => []
  | [u] => [u]
  | u :: v :: rest =>
    if JsString.isSpace u && v == unit '#' then [] else u :: withoutComment (v :: rest)

/-- The line is an item: a dash, and white space or nothing after it. -/
def isItem (line : JsString) : Bool :=
  match line.trimStart with
  | u :: v :: _ => u == unit '-' && JsString.isSpace v
  | [u] => u == unit '-'
  | [] => false

/-- The scalar of an item. -/
def itemElement (index : Nat) (line : JsString) : Element :=
  elementAt index (indentOf line + 1) (withoutComment (line.drop (indentOf line + 1)))

/-- The lines below the key with their indices, without blank lines and comments. -/
def linesBelow (key : KeyLine) : List (JsString × Nat) :=
  (key.following.zipIdx (key.index + 1)).filter fun l => !isSkipped l.1

/-- The elements of a list below the key. Nothing but a comment stands after the colon. The first
item gives the indentation of the list, which can be that of the key. A line that is indented deeper
belongs to the item before it. -/
def blockElements (key : KeyLine) : List Element :=
  match linesBelow key with
  | [] => []
  | first :: rest =>
    let indent := indentOf first.1
    if (withoutComment (afterColon key.line)).trim = [] ∧ key.indent ≤ indent then
      (((first :: rest).takeWhile fun l =>
          indent < indentOf l.1 || (indentOf l.1 == indent && isItem l.1)).filter fun l =>
        indentOf l.1 == indent).map fun l => itemElement l.2 l.1
    else []

/-- The elements of the list at the last key of the path. -/
def elementsAt (text : JsString) (path : List JsString) : List Element :=
  match findKey path 0 text.lines path 0 with
  | some key => inlineElements key ++ blockElements key
  | none => []

end OtelHive.Ui
