import Mathlib.Data.Nat.Notation

/-!
# `OtelHive.Lib.Json`: JSON texts

JSON values, the text that `render` writes for a value, and the value that `parse` reads from a
text. The texts are those of Go's `encoding/json`: no blanks between the tokens, and escapes in a
string also for the characters that HTML and JavaScript treat specially. The reader takes any
JSON text: blanks between the tokens, any number literal, all escapes, and surrogate pairs.

The main result is `parse_render`: a rendered value is read back.

The reader has fuel, as one step reads a value or an element of a list. Each step reads a character
at least, so the length of the text is enough fuel.
-/

set_option autoImplicit false

namespace OtelHive.Lib.Json

/-! ### Values -/

/-- A character of a number literal. -/
def isNumberChar (c : Char) : Bool :=
  c.isDigit || c == '-' || c == '+' || c == '.' || c == 'e' || c == 'E'

/-- Drop one digit or more. -/
def dropDigits : List Char → Option (List Char)
  | [] => none
  | c :: rest => if c.isDigit then some (rest.dropWhile Char.isDigit) else none

/-- Drop a sign, if one of `signs` comes first. -/
def dropSign (signs : List Char) : List Char → List Char
  | [] => []
  | c :: rest => if c ∈ signs then rest else c :: rest

/-- Drop the digits before the point. A zero stands alone. -/
def dropWhole : List Char → Option (List Char)
  | '0' :: rest => some rest
  | text => dropDigits text

/-- Drop the point and the digits after it, if there is a point. -/
def dropFraction : List Char → Option (List Char)
  | '.' :: rest => dropDigits rest
  | text => some text

/-- Drop the exponent, if there is one. -/
def dropExponent : List Char → Option (List Char)
  | [] => some []
  | c :: rest =>
    if c = 'e' ∨ c = 'E' then dropDigits (dropSign ['+', '-'] rest) else some (c :: rest)

/-- The grammar of a number. -/
def isNumber (text : List Char) : Bool :=
  !text.isEmpty && text.all isNumberChar
    && ((dropWhole (dropSign ['-'] text)).bind dropFraction).bind dropExponent == some []

/-- A number, as it is written. -/
abbrev Number : Type := { text : List Char // isNumber text = true }

/-- A JSON value. An object has its members in the order of the text. -/
inductive Value where
  | null
  | bool (b : Bool)
  | number (n : Number)
  | string (s : String)
  | array (elems : List Value)
  | object (members : List (String × Value))

/-! ### Writing -/

/-- The escape `\u` of a code unit. -/
def unicodeEscape (n : Nat) : List Char :=
  ['\\', 'u', Nat.digitChar (n / 4096 % 16), Nat.digitChar (n / 256 % 16),
    Nat.digitChar (n / 16 % 16), Nat.digitChar (n % 16)]

/-- The escapes of two characters: the letter after the backslash, and what it stands for. -/
def shortEscapes : List (Char × Char) :=
  [('"', '"'), ('\\', '\\'), ('b', Char.ofNat 8), ('f', Char.ofNat 12), ('n', '\n'), ('r', '\r'),
    ('t', '\t')]

/-- A character is written with `\u`: a control character, or one that HTML or JavaScript treats
specially. -/
def needsUnicode (c : Char) : Bool :=
  c.toNat < 32 || c == '<' || c == '>' || c == '&' || c.toNat == 0x2028 || c.toNat == 0x2029

/-- A character of a string. -/
def escapeChar (c : Char) : List Char :=
  match shortEscapes.find? (·.2 == c) with
  | some (letter, _) => ['\\', letter]
  | none => if needsUnicode c then unicodeEscape c.toNat else [c]

/-- A string without its first quotation mark. -/
def renderChars : List Char → List Char
  | [] => ['"']
  | c :: cs => escapeChar c ++ renderChars cs

/-- A string. -/
def renderString (s : String) : List Char := '"' :: renderChars s.toList

mutual

/-- The text of a value. -/
def render : Value → List Char
  | .null => "null".toList
  | .bool true => "true".toList
  | .bool false => "false".toList
  | .number n => n.1
  | .string s => renderString s
  | .array [] => ['[', ']']
  | .array (v :: vs) => '[' :: (render v ++ renderElems vs)
  | .object [] => ['{', '}']
  | .object ((k, v) :: ms) => '{' :: (renderString k ++ ':' :: (render v ++ renderMembers ms))

/-- The elements after the first one, and the end of the array. -/
def renderElems : List Value → List Char
  | [] => [']']
  | v :: vs => ',' :: (render v ++ renderElems vs)

/-- The members after the first one, and the end of the object. -/
def renderMembers : List (String × Value) → List Char
  | [] => ['}']
  | (k, v) :: ms => ',' :: (renderString k ++ ':' :: (render v ++ renderMembers ms))

end

/-! ### Reading -/

/-- White space between tokens. -/
def isSpace (c : Char) : Bool := c == ' ' || c == '\t' || c == '\n' || c == '\r'

def skipSpace (text : List Char) : List Char := text.dropWhile isSpace

/-- The value of a hexadecimal digit. -/
def hexValue (c : Char) : Option Nat :=
  if c.isDigit then some (c.toNat - 48)
  else if 'a' ≤ c ∧ c ≤ 'f' then some (c.toNat - 87)
  else if 'A' ≤ c ∧ c ≤ 'F' then some (c.toNat - 55)
  else none

/-- Read the four digits of a code unit. -/
def readHex : List Char → Option (Nat × List Char)
  | a :: b :: c :: d :: rest => do
    let a ← hexValue a
    let b ← hexValue b
    let c ← hexValue c
    let d ← hexValue d
    some (a * 4096 + b * 256 + c * 16 + d, rest)
  | _ => none

/-- The character of a code unit that may be half of a surrogate pair, and the text after it. A half
without its other half is the replacement character. -/
def joinSurrogates (unit : Nat) (rest : List Char) : Char × List Char :=
  if 0xD800 ≤ unit ∧ unit < 0xE000 then
    match rest with
    | '\\' :: 'u' :: digits =>
      match readHex digits with
      | some (low, rest') =>
        if unit < 0xDC00 ∧ 0xDC00 ≤ low ∧ low < 0xE000 then
          (Char.ofNat ((unit - 0xD800) * 1024 + (low - 0xDC00) + 0x10000), rest')
        else (Char.ofNat 0xFFFD, rest)
      | none => (Char.ofNat 0xFFFD, rest)
    | _ => (Char.ofNat 0xFFFD, rest)
  else (Char.ofNat unit, rest)

/-- Read the rest of an escape, after its backslash. -/
def readEscape : List Char → Option (Char × List Char)
  | [] => none
  | letter :: rest =>
    if letter = 'u' then (readHex rest).map fun (unit, rest) => joinSurrogates unit rest
    else if letter = '/' then some ('/', rest)
    else (shortEscapes.find? (·.1 == letter)).map fun (_, c) => (c, rest)

/-- Read a string, after its first quotation mark. -/
def readChars : Nat → List Char → Option (List Char × List Char)
  | 0, _ => none
  | _, [] => none
  | fuel + 1, c :: rest =>
    if c = '"' then some ([], rest)
    else if c = '\\' then do
      let (c, rest) ← readEscape rest
      let (cs, rest) ← readChars fuel rest
      some (c :: cs, rest)
    else if c.toNat < 32 then none
    else do
      let (cs, rest) ← readChars fuel rest
      some (c :: cs, rest)

/-- Read a string. -/
def readString : List Char → Option (String × List Char)
  | [] => none
  | c :: rest =>
    if c = '"' then (readChars rest.length rest).map fun (cs, rest) => (String.ofList cs, rest)
    else none

/-- Read a word. -/
def readWord (word : String) (v : Value) (text : List Char) : Option (Value × List Char) :=
  if word.toList.isPrefixOf text then some (v, text.drop word.length) else none

/-- Read a number. -/
def readNumber (text : List Char) : Option (Value × List Char) :=
  if h : isNumber (text.takeWhile isNumberChar) = true then
    some (.number ⟨text.takeWhile isNumberChar, h⟩, text.dropWhile isNumberChar)
  else none

/-- Read one character. -/
def readChar (c : Char) : List Char → Option (List Char)
  | [] => none
  | d :: rest => if d = c then some rest else none

mutual

/-- Read a value, at the start of a text. -/
def readValue : Nat → List Char → Option (Value × List Char)
  | 0, _ => none
  | fuel + 1, text =>
    match skipSpace text with
    | [] => none
    | c :: rest =>
      if c = '"' then (readString (c :: rest)).map fun (s, rest) => (.string s, rest)
      else if c = 'n' then readWord "null" .null (c :: rest)
      else if c = 't' then readWord "true" (.bool true) (c :: rest)
      else if c = 'f' then readWord "false" (.bool false) (c :: rest)
      else if c = '[' then
        match readChar ']' (skipSpace rest) with
        | some rest => some (.array [], rest)
        | none => do
          let (v, rest) ← readValue fuel rest
          let (vs, rest) ← readElems fuel rest
          some (.array (v :: vs), rest)
      else if c = '{' then
        match readChar '}' (skipSpace rest) with
        | some rest => some (.object [], rest)
        | none => do
          let (m, rest) ← readMember fuel rest
          let (ms, rest) ← readMembers fuel rest
          some (.object (m :: ms), rest)
      else readNumber (c :: rest)

/-- Read the elements after the first one, and the end of the array. -/
def readElems : Nat → List Char → Option (List Value × List Char)
  | 0, _ => none
  | fuel + 1, text =>
    match readChar ']' (skipSpace text) with
    | some rest => some ([], rest)
    | none => do
      let rest ← readChar ',' (skipSpace text)
      let (v, rest) ← readValue fuel rest
      let (vs, rest) ← readElems fuel rest
      some (v :: vs, rest)

/-- Read a member. -/
def readMember : Nat → List Char → Option ((String × Value) × List Char)
  | 0, _ => none
  | fuel + 1, text => do
    let (k, rest) ← readString (skipSpace text)
    let rest ← readChar ':' (skipSpace rest)
    let (v, rest) ← readValue fuel rest
    some ((k, v), rest)

/-- Read the members after the first one, and the end of the object. -/
def readMembers : Nat → List Char → Option (List (String × Value) × List Char)
  | 0, _ => none
  | fuel + 1, text =>
    match readChar '}' (skipSpace text) with
    | some rest => some ([], rest)
    | none => do
      let rest ← readChar ',' (skipSpace text)
      let (m, rest) ← readMember fuel rest
      let (ms, rest) ← readMembers fuel rest
      some (m :: ms, rest)

end

/-- Read a text: one value, and blanks after it. -/
def parse (text : List Char) : Option Value :=
  match readValue (2 * text.length) text with
  | some (v, rest) => if skipSpace rest = [] then some v else none
  | none => none

/-! ### Strings read back -/

theorem hexValue_digitChar {n : Nat} (h : n < 16) : hexValue (Nat.digitChar n) = some n := by
  have hall : ((List.range 16).all fun n => hexValue (Nat.digitChar n) == some n) = true := by
    decide
  exact eq_of_beq (List.all_eq_true.mp hall n (List.mem_range.mpr h))

/-- The digits of a code unit are read back. -/
theorem readHex_digits {n : Nat} (h : n < 65536) (rest : List Char) :
    readHex (Nat.digitChar (n / 4096 % 16) :: Nat.digitChar (n / 256 % 16)
      :: Nat.digitChar (n / 16 % 16) :: Nat.digitChar (n % 16) :: rest) = some (n, rest) := by
  have hdigit : ∀ m : Nat, hexValue (Nat.digitChar (m % 16)) = some (m % 16) :=
    fun m => hexValue_digitChar (Nat.mod_lt m (by decide))
  have hunit : n / 4096 % 16 * 4096 + n / 256 % 16 * 256 + n / 16 % 16 * 16 + n % 16 = n := by
    omega
  simp only [readHex, hdigit, Option.bind_eq_bind, Option.bind_some, hunit]

/-- A character that is written with `\u` is a code unit of its own. -/
theorem lt_of_needsUnicode {c : Char} (h : needsUnicode c = true) : c.toNat < 0xD800 := by
  simp only [needsUnicode, Bool.or_eq_true, decide_eq_true_eq, beq_iff_eq] at h
  rcases h with ((((hcontrol | rfl) | rfl) | rfl) | hline) | hpar
  · omega
  · decide
  · decide
  · decide
  · omega
  · omega

/-- An escape of two characters is read back. -/
theorem readEscape_short {letter c : Char} (h : shortEscapes.find? (·.2 == c) = some (letter, c))
    (rest : List Char) : readEscape (letter :: rest) = some (c, rest) := by
  have hall : (shortEscapes.all fun e => e.1 != 'u' && e.1 != '/'
      && (shortEscapes.find? (·.1 == e.1) == some e)) = true := by decide
  have hletter := List.all_eq_true.mp hall _ (List.mem_of_find?_eq_some h)
  simp only [Bool.and_eq_true, bne_iff_ne, beq_iff_eq] at hletter
  simp only [readEscape, if_neg hletter.1.1, if_neg hletter.1.2, hletter.2, Option.map_some]

/-- The escape `\u` is read back. -/
theorem readEscape_unicode {c : Char} (h : needsUnicode c = true) (rest : List Char) :
    readEscape ((unicodeEscape c.toNat).tail ++ rest) = some (c, rest) := by
  have hlt := lt_of_needsUnicode h
  have hunit : joinSurrogates c.toNat rest = (c, rest) := by
    unfold joinSurrogates
    rw [if_neg (by omega), Char.ofNat_toNat]
  simp only [unicodeEscape, List.tail_cons, List.cons_append, List.nil_append, readEscape, if_pos,
    readHex_digits (show c.toNat < 65536 by omega), Option.map_some, hunit]

/-- A character of a string is read back. -/
theorem readChars_escapeChar (fuel : Nat) (c : Char) (rest : List Char) :
    readChars (fuel + 1) (escapeChar c ++ rest)
      = (readChars fuel rest).map fun (cs, rest) => (c :: cs, rest) := by
  have hbind : ∀ x : Option (List Char × List Char),
      (x.bind fun p => some (c :: p.1, p.2)) = x.map fun p => (c :: p.1, p.2) :=
    fun x => Option.map_eq_bind.symm
  have hslash : ('\\' : Char) ≠ '"' := by decide
  unfold escapeChar
  cases hshort : shortEscapes.find? (·.2 == c) with
  | some e =>
    obtain ⟨letter, c'⟩ := e
    have hc : c' = c := eq_of_beq (List.find?_some hshort :)
    subst hc
    show readChars (fuel + 1) ('\\' :: letter :: rest) = _
    rw [readChars, if_neg hslash, if_pos rfl, readEscape_short hshort]
    exact hbind _
  | none =>
    by_cases hunicode : needsUnicode c = true
    · rw [if_pos hunicode]
      show readChars (fuel + 1) ('\\' :: ((unicodeEscape c.toNat).tail ++ rest)) = _
      rw [readChars, if_neg hslash, if_pos rfl, readEscape_unicode hunicode]
      exact hbind _
    · -- A quotation mark, a backslash and a control character are all escaped.
      have hplain := List.find?_eq_none.mp hshort
      have hquote : c ≠ '"' := by
        rintro rfl
        exact hplain ('"', '"') (by decide) (by decide)
      have hback : c ≠ '\\' := by
        rintro rfl
        exact hplain ('\\', '\\') (by decide) (by decide)
      have hcontrol : ¬ c.toNat < 32 := by
        intro hlt
        simp [needsUnicode, hlt] at hunicode
      rw [if_neg hunicode]
      show readChars (fuel + 1) (c :: rest) = _
      rw [readChars, if_neg hquote, if_neg hback, if_neg hcontrol]
      exact hbind _

/-- The characters of a string are read back. -/
theorem readChars_renderChars {fuel : Nat} (cs : List Char) (h : cs.length < fuel)
    (rest : List Char) : readChars fuel (renderChars cs ++ rest) = some (cs, rest) := by
  induction cs generalizing fuel with
  | nil =>
    obtain ⟨fuel, rfl⟩ : ∃ n, fuel = n + 1 := ⟨fuel - 1, by simp at h; omega⟩
    rfl
  | cons c cs ih =>
    rw [List.length_cons] at h
    obtain ⟨fuel, rfl⟩ : ∃ n, fuel = n + 1 := ⟨fuel - 1, by omega⟩
    rw [renderChars, List.append_assoc, readChars_escapeChar, ih (by omega)]
    rfl

theorem length_lt_length_renderChars (cs : List Char) : cs.length < (renderChars cs).length := by
  induction cs with
  | nil => exact Nat.zero_lt_one
  | cons c cs ih =>
    have hpos : 0 < (escapeChar c).length := by
      unfold escapeChar unicodeEscape
      split
      · exact Nat.zero_lt_succ _
      · split <;> exact Nat.zero_lt_succ _
    rw [renderChars, List.length_append, List.length_cons]
    omega

/-- A string is read back. -/
theorem readString_renderString (s : String) (rest : List Char) :
    readString (renderString s ++ rest) = some (s, rest) := by
  have hlt := length_lt_length_renderChars s.toList
  have hfuel : s.toList.length < (renderChars s.toList ++ rest).length := by
    rw [List.length_append]
    omega
  show (readChars (renderChars s.toList ++ rest).length (renderChars s.toList ++ rest)).map _ = _
  rw [readChars_renderChars s.toList hfuel, Option.map_some]
  exact congrArg (fun s => some (s, rest)) String.ofList_toList

/-! ### Values read back -/

theorem readChar_self (c : Char) (rest : List Char) : readChar c (c :: rest) = some rest :=
  if_pos rfl

theorem readChar_of_ne {c d : Char} (h : d ≠ c) (rest : List Char) :
    readChar c (d :: rest) = none :=
  if_neg h

theorem skipSpace_cons {c : Char} (h : isSpace c = false) (rest : List Char) :
    skipSpace (c :: rest) = c :: rest := by
  simp [skipSpace, h]

/-- No number goes on in a text. -/
def NumberEnds (text : List Char) : Prop := text.head?.all fun c => !isNumberChar c

/-- What a number literal does not begin with. -/
theorem ne_of_isNumberChar {c d : Char} (h : isNumberChar c = true) (hd : isNumberChar d = false) :
    c ≠ d := by
  rintro rfl
  rw [h] at hd
  cases hd

/-- A number is read back. -/
theorem readNumber_literal (n : Number) {rest : List Char} (hrest : NumberEnds rest) :
    readNumber (n.1 ++ rest) = some (.number n, rest) := by
  have hchars : n.1.all isNumberChar = true := by
    have hnumber := n.2
    simp only [isNumber, Bool.and_eq_true] at hnumber
    exact hnumber.1.2
  have hspan : (n.1 ++ rest).takeWhile isNumberChar = n.1
      ∧ (n.1 ++ rest).dropWhile isNumberChar = rest := by
    rw [List.takeWhile_append_of_pos (List.all_eq_true.mp hchars),
      List.dropWhile_append_of_pos (List.all_eq_true.mp hchars)]
    cases rest with
    | nil => exact ⟨List.append_nil _, rfl⟩
    | cons c rest =>
      have hc : isNumberChar c = false := by simpa [NumberEnds] using hrest
      simp [hc]
  unfold readNumber
  rw [dif_pos (by rw [hspan.1]; exact n.2)]
  simp only [hspan.1, hspan.2]

/-- The first character of a value, which ends no list and is no blank. -/
theorem exists_render_eq (v : Value) :
    ∃ c cs, render v = c :: cs ∧ isSpace c = false ∧ c ≠ ']' ∧ c ≠ '}' := by
  cases v with
  | null => exact ⟨'n', "ull".toList, rfl, by decide, by decide, by decide⟩
  | bool b =>
    cases b with
    | true => exact ⟨'t', "rue".toList, rfl, by decide, by decide, by decide⟩
    | false => exact ⟨'f', "alse".toList, rfl, by decide, by decide, by decide⟩
  | number n =>
    obtain ⟨literal, hnumber⟩ := n
    cases literal with
    | nil => cases hnumber
    | cons c cs =>
      have hc : isNumberChar c = true := by
        simp only [isNumber, Bool.and_eq_true, List.all_cons] at hnumber
        exact hnumber.1.2.1
      have hspace : isSpace c = false := by
        simp only [isSpace, Bool.or_eq_false_iff, beq_eq_false_iff_ne]
        exact ⟨⟨⟨ne_of_isNumberChar hc rfl, ne_of_isNumberChar hc rfl⟩,
          ne_of_isNumberChar hc rfl⟩, ne_of_isNumberChar hc rfl⟩
      exact ⟨c, cs, rfl, hspace, ne_of_isNumberChar hc rfl, ne_of_isNumberChar hc rfl⟩
  | string s => exact ⟨'"', renderChars s.toList, rfl, by decide, by decide, by decide⟩
  | array elems =>
    cases elems with
    | nil => exact ⟨'[', [']'], rfl, by decide, by decide, by decide⟩
    | cons v vs => exact ⟨'[', render v ++ renderElems vs, by rw [render], by decide, by decide,
        by decide⟩
  | object members =>
    cases members with
    | nil => exact ⟨'{', ['}'], rfl, by decide, by decide, by decide⟩
    | cons m ms =>
      obtain ⟨k, v⟩ := m
      exact ⟨'{', renderString k ++ ':' :: (render v ++ renderMembers ms), by rw [render],
        by decide, by decide, by decide⟩

/-- After an element or a member, no number goes on. -/
theorem numberEnds_renderElems (vs : List Value) (rest : List Char) :
    NumberEnds (renderElems vs ++ rest) := by
  cases vs with
  | nil => exact rfl
  | cons v vs =>
    rw [renderElems]
    exact rfl

theorem numberEnds_renderMembers (ms : List (String × Value)) (rest : List Char) :
    NumberEnds (renderMembers ms ++ rest) := by
  cases ms with
  | nil => exact rfl
  | cons m ms =>
    rw [renderMembers]
    exact rfl

/-- A member is read back, if its value is. -/
theorem readMember_render {fuel : Nat} {k : String} {v : Value} {rest : List Char}
    (h : readValue fuel (render v ++ rest) = some (v, rest)) :
    readMember (fuel + 1) (renderString k ++ ':' :: (render v ++ rest)) = some ((k, v), rest) := by
  have hquote : skipSpace (renderString k ++ ':' :: (render v ++ rest))
      = renderString k ++ ':' :: (render v ++ rest) := skipSpace_cons (by decide) _
  rw [readMember, hquote, readString_renderString]
  have hcolon : isSpace ':' = false := rfl
  simp only [Option.bind_eq_bind, Option.bind_some, skipSpace_cons hcolon, readChar_self, h]

/-- A bracket does not come before a value. -/
theorem readChar_render {c : Char} (hc : c = ']' ∨ c = '}') (v : Value) (rest : List Char) :
    readChar c (skipSpace (render v ++ rest)) = none := by
  obtain ⟨d, ds, hv, hspace, hbracket, hbrace⟩ := exists_render_eq v
  rw [hv, List.cons_append, skipSpace_cons hspace]
  refine readChar_of_ne ?_ _
  rcases hc with rfl | rfl
  · exact hbracket
  · exact hbrace

/-- What the reader does at the first character of a number. -/
theorem readValue_number (fuel : Nat) (n : Number) {rest : List Char} (hrest : NumberEnds rest) :
    readValue (fuel + 1) (n.1 ++ rest) = some (.number n, rest) := by
  obtain ⟨c, cs, hn, hspace, -⟩ := exists_render_eq (.number n)
  rw [render] at hn
  have hc : isNumberChar c = true := by
    have hnumber := n.2
    rw [hn] at hnumber
    simp only [isNumber, Bool.and_eq_true, List.all_cons] at hnumber
    exact hnumber.1.2.1
  have hread := readNumber_literal n hrest
  rw [hn, List.cons_append] at hread ⊢
  rw [readValue, skipSpace_cons hspace]
  have hquote := ne_of_isNumberChar (d := '"') hc rfl
  have hnull := ne_of_isNumberChar (d := 'n') hc rfl
  have htrue := ne_of_isNumberChar (d := 't') hc rfl
  have hfalse := ne_of_isNumberChar (d := 'f') hc rfl
  have hbracket := ne_of_isNumberChar (d := '[') hc rfl
  have hbrace := ne_of_isNumberChar (d := '{') hc rfl
  simp only [if_neg hquote, if_neg hnull, if_neg htrue, if_neg hfalse, if_neg hbracket,
    if_neg hbrace, hread]

/-- An array with elements is read back, if its parts are. -/
theorem readValue_array {fuel : Nat} {v : Value} {vs : List Value} {rest : List Char}
    (hv : readValue fuel (render v ++ (renderElems vs ++ rest))
      = some (v, renderElems vs ++ rest))
    (hvs : readElems fuel (renderElems vs ++ rest) = some (vs, rest)) :
    readValue (fuel + 1) (render (.array (v :: vs)) ++ rest) = some (.array (v :: vs), rest) := by
  rw [render, List.cons_append, List.append_assoc, readValue, skipSpace_cons (by decide)]
  simp only [readChar_render (Or.inl rfl), hv, hvs, Option.bind_eq_bind, Option.bind_some]
  rfl

/-- An object with members is read back, if its parts are. -/
theorem readValue_object {fuel : Nat} {k : String} {v : Value} {ms : List (String × Value)}
    {rest : List Char}
    (hm : readMember fuel (renderString k ++ ':' :: (render v ++ (renderMembers ms ++ rest)))
      = some ((k, v), renderMembers ms ++ rest))
    (hms : readMembers fuel (renderMembers ms ++ rest) = some (ms, rest)) :
    readValue (fuel + 1) (render (.object ((k, v) :: ms)) ++ rest)
      = some (.object ((k, v) :: ms), rest) := by
  have hquote : readChar '}' (skipSpace (renderString k
      ++ ':' :: (render v ++ (renderMembers ms ++ rest)))) = none := rfl
  rw [render, List.cons_append, List.append_assoc, List.cons_append, List.append_assoc, readValue,
    skipSpace_cons (by decide)]
  simp only [hquote, hm, hms, Option.bind_eq_bind, Option.bind_some]
  rfl

/-- What one unit of fuel reads back. -/
structure ReadsBack (fuel : Nat) : Prop where
  value : ∀ v rest, 2 * (render v).length ≤ fuel → NumberEnds rest →
    readValue fuel (render v ++ rest) = some (v, rest)
  elems : ∀ vs rest, 2 * (renderElems vs).length ≤ fuel →
    readElems fuel (renderElems vs ++ rest) = some (vs, rest)
  member : ∀ k v rest, 2 * (render v).length + 1 ≤ fuel → NumberEnds rest →
    readMember fuel (renderString k ++ ':' :: (render v ++ rest)) = some ((k, v), rest)
  members : ∀ ms rest, 2 * (renderMembers ms).length ≤ fuel →
    readMembers fuel (renderMembers ms ++ rest) = some (ms, rest)

/-- The induction on the fuel: each reader passes one unit less to the next one. -/
theorem readsBack (fuel : Nat) : ReadsBack fuel := by
  induction fuel with
  | zero =>
    refine ⟨?_, ?_, ?_, ?_⟩
    · intro v rest hfuel _
      obtain ⟨c, cs, hv, -⟩ := exists_render_eq v
      rw [hv, List.length_cons] at hfuel
      omega
    · intro vs rest hfuel
      cases vs <;> simp [renderElems] at hfuel
    · intro k v rest hfuel _
      omega
    · intro ms rest hfuel
      cases ms <;> simp [renderMembers] at hfuel
  | succ fuel ih =>
    refine ⟨?_, ?_, ?_, ?_⟩
    · intro v rest hfuel hrest
      cases v with
      | null => exact rfl
      | bool b => cases b <;> exact rfl
      | number n => exact readValue_number fuel n hrest
      | string s =>
        show (readString (renderString s ++ rest)).map _ = _
        rw [readString_renderString]
        rfl
      | array elems =>
        cases elems with
        | nil => exact rfl
        | cons v vs =>
          rw [render, List.length_cons, List.length_append] at hfuel
          exact readValue_array
            (ih.value v _ (by omega) (numberEnds_renderElems vs rest))
            (ih.elems vs rest (by omega))
      | object members =>
        cases members with
        | nil => exact rfl
        | cons m ms =>
          obtain ⟨k, v⟩ := m
          rw [render, List.length_cons, List.length_append, List.length_cons,
            List.length_append] at hfuel
          exact readValue_object
            (ih.member k v _ (by omega) (numberEnds_renderMembers ms rest))
            (ih.members ms rest (by omega))
    · intro vs rest hfuel
      cases vs with
      | nil => exact rfl
      | cons v vs =>
        rw [renderElems, List.length_cons, List.length_append] at hfuel
        have hv := ih.value v (renderElems vs ++ rest) (by omega) (numberEnds_renderElems vs rest)
        have hvs := ih.elems vs rest (by omega)
        rw [renderElems, List.cons_append, List.append_assoc, readElems,
          skipSpace_cons (by decide), readChar_of_ne (by decide)]
        simp only [readChar_self, hv, hvs, Option.bind_eq_bind, Option.bind_some]
    · intro k v rest hfuel hrest
      exact readMember_render (ih.value v rest (by omega) hrest)
    · intro ms rest hfuel
      cases ms with
      | nil => exact rfl
      | cons m ms =>
        obtain ⟨k, v⟩ := m
        rw [renderMembers, List.length_cons, List.length_append, List.length_cons,
          List.length_append] at hfuel
        have hm := ih.member k v (renderMembers ms ++ rest) (by omega)
          (numberEnds_renderMembers ms rest)
        have hms := ih.members ms rest (by omega)
        rw [renderMembers, List.cons_append, List.append_assoc, List.cons_append,
          List.append_assoc, readMembers, skipSpace_cons (by decide), readChar_of_ne (by decide)]
        simp only [readChar_self, hm, hms, Option.bind_eq_bind, Option.bind_some]

/-- **A rendered value is read back.** -/
theorem parse_render (v : Value) : parse (render v) = some v := by
  have hread := (readsBack (2 * (render v).length)).value v [] (Nat.le_refl _) rfl
  rw [List.append_nil] at hread
  simp only [parse, hread]
  rfl

end OtelHive.Lib.Json
