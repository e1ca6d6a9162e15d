import Mathlib.Data.List.DropRight

/-!
# `OtelHive.Ui.JsString`: the strings of JavaScript

A string of JavaScript is a sequence of UTF-16 code units, which need not be well formed. The
functions are the methods of `String` that the UI calls.

`RegExp` is a parameter of the functions that build a regular expression from a string. The
literal regular expressions of the UI are functions next to their use.
-/

set_option autoImplicit false

namespace OtelHive.Ui

abbrev JsString : Type := List UInt16

namespace JsString

/-- The code unit of an ASCII character. -/
def unit (c : Char) : UInt16 := UInt16.ofNat c.toNat

/-- The code units of an ASCII text. -/
def ascii (s : String) : JsString := s.toList.map unit

/-- A number in a template string. -/
def ofNat (n : Nat) : JsString := (Nat.toDigits 10 n).map unit

/-- What `trim` removes and `\s` matches: `WhiteSpace` and `LineTerminator`. -/
def isSpace (u : UInt16) : Bool :=
  let n := u.toNat
  (0x09 ≤ n && n ≤ 0x0d) || n == 0x20 || n == 0xa0 || n == 0x1680
    || (0x2000 ≤ n && n ≤ 0x200a) || n == 0x2028 || n == 0x2029 || n == 0x202f || n == 0x205f
    || n == 0x3000 || n == 0xfeff

/-- `trimStart`. -/
def trimStart (s : JsString) : JsString := s.dropWhile isSpace

/-- `trim`. -/
def trim (s : JsString) : JsString := (trimStart s).rdropWhile isSpace

/-- `split("\n")`. -/
def lines (s : JsString) : List JsString := s.splitOn (unit '\n')

/-- `startsWith` for one character. -/
def startsWith (s : JsString) (c : Char) : Bool := s.head? == some (unit c)

/-- `endsWith` for one character. -/
def endsWith (s : JsString) (c : Char) : Bool := s.getLast? == some (unit c)

/-- `search(/\S/)`. -/
def searchNonSpace (s : JsString) : Int :=
  match s.findIdx? fun u => !isSpace u with
  | some i => i
  | none => -1

/-- `indexOf(sub) + 1`. A string that does not occur has the index -1. -/
def columnOf (s sub : JsString) : Nat :=
  match (List.range (s.length + 1)).find? fun i => sub.isPrefixOf (s.drop i) with
  | some i => i + 1
  | none => 0

end JsString

/-- `new RegExp(pattern)`: the test of the expression, or none for a `SyntaxError`. -/
abbrev RegExp : Type := JsString → Option (JsString → Bool)

/-- An exception. -/
inductive Thrown where
  | typeError
  | syntaxError
deriving DecidableEq

end OtelHive.Ui
