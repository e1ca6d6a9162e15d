import Mathlib.Data.List.Infix
import OtelHive.Proofs.Ui.Validation
import OtelHive.Ui.Elements

/-!
# `OtelHive.Proofs.Ui.Highlight`: the range for a component

The expression `\bname\b` decides on which line `findYamlPosition` sees the component, and the
column is where the name first occurs on that line. The two do not look for the same thing. The
expression is made of the raw name, and the first occurrence can be inside a longer element or
inside the key.

`findComponent_eq` says which text the search stops at. `highlights_iff` reads from it when the
range is right, for every `RegExp`.
-/

set_option autoImplicit false

namespace OtelHive.Ui

open OtelHive.Lib
open JsString (unit ascii)

variable {regExp : RegExp} {text name : JsString} {path : List JsString}

/-! ### Columns -/

theorem exists_columnOf {s sub : JsString} (h : sub <:+: s) :
    ∃ c ≤ s.length, s.columnOf sub = c + 1 ∧ sub <+: s.drop c := by
  obtain ⟨before, after, rfl⟩ := h
  unfold JsString.columnOf
  cases hfind : (List.range ((before ++ sub ++ after).length + 1)).find?
      fun i => sub.isPrefixOf ((before ++ sub ++ after).drop i) with
  | none =>
    rw [List.find?_eq_none] at hfind
    have hrange : before.length < (before ++ sub ++ after).length + 1 := by
      rw [List.length_append, List.length_append]
      omega
    refine absurd ?_ (hfind before.length (List.mem_range.mpr hrange))
    rw [List.isPrefixOf_iff_prefix, List.append_assoc, List.drop_left]
    exact List.prefix_append sub after
  | some c =>
    have hmem := List.mem_range.mp (List.mem_of_find?_eq_some hfind)
    have hpre := List.find?_some hfind
    exact ⟨c, by omega, rfl, List.isPrefixOf_iff_prefix.mp hpre⟩

theorem columnOf_eq_zero {s sub : JsString} (h : ¬ sub <:+: s) : s.columnOf sub = 0 := by
  unfold JsString.columnOf
  rw [List.find?_eq_none.mpr]
  intro c _ hpre
  exact h ((List.isPrefixOf_iff_prefix.mp hpre).isInfix.trans (List.drop_suffix c s).isInfix)

/-- A line is its indentation and the rest. -/
theorem takeWhile_append_trimStart (line : JsString) :
    line.takeWhile JsString.isSpace ++ line.trimStart = line :=
  List.takeWhile_append_dropWhile

theorem length_takeWhile_isSpace (line : JsString) :
    (line.takeWhile JsString.isSpace).length = indentOf line := by
  have hlength := congrArg List.length (takeWhile_append_trimStart line)
  rw [List.length_append] at hlength
  unfold indentOf
  omega

theorem drop_indentOf (line : JsString) : line.drop (indentOf line) = line.trimStart := by
  have hdrop : (line.takeWhile JsString.isSpace ++ line.trimStart).drop
      (line.takeWhile JsString.isSpace).length = line.trimStart := List.drop_left
  rw [takeWhile_append_trimStart, length_takeWhile_isSpace] at hdrop
  exact hdrop

theorem indentOf_le (line : JsString) : indentOf line ≤ line.length :=
  Nat.sub_le _ _

/-- A text that begins the line after the leading white space stands there first. -/
theorem columnOf_of_trimStart {line sub : JsString} {u : UInt16}
    (hhead : sub.head? = some u) (hu : JsString.isSpace u = false) (h : sub <+: line.trimStart) :
    line.columnOf sub = indentOf line + 1 := by
  have hfind : (List.range (line.length + 1)).find? (fun i => sub.isPrefixOf (line.drop i))
      = some (indentOf line) := by
    rw [List.find?_range_eq_some]
    refine ⟨?_, List.mem_range.mpr (Nat.lt_succ_of_le (indentOf_le line)), ?_⟩
    · rw [List.isPrefixOf_iff_prefix, drop_indentOf]
      exact h
    · intro i hi
      rw [Bool.not_eq_true', ← Bool.not_eq_true, List.isPrefixOf_iff_prefix]
      -- A unit of the leading white space is no first unit of the text.
      intro hpre
      obtain ⟨after, hafter⟩ := hpre
      have hfirst : List.head? (line.drop i) = some u := by
        rw [← hafter, List.head?_append, hhead]
        rfl
      rw [List.head?_drop, ← takeWhile_append_trimStart line,
        List.getElem?_append_left (by rw [length_takeWhile_isSpace]; exact hi)] at hfirst
      have hspace := List.mem_takeWhile_imp (List.mem_of_getElem? hfirst)
      rw [hspace] at hu
      cases hu
  unfold JsString.columnOf
  rw [hfind]

/-! ### The key -/

/-- The group of a match of a key begins the trimmed line. -/
theorem matchKey_some {s group : JsString} (h : matchKey s = some group) :
    group <+: s ∧ group ≠ [] := by
  unfold matchKey at h
  dsimp only at h
  split at h
  · rename_i hmatch
    cases h
    exact ⟨List.takeWhile_prefix _, hmatch.1⟩
  · cases h

/-- The trimmed group begins the line after its indentation. -/
theorem trim_of_matchKey {line group : JsString} (h : matchKey line.trim = some group) :
    ∃ u, group.trim.head? = some u ∧ JsString.isSpace u = false ∧
      group.trim <+: line.trimStart := by
  obtain ⟨hpre, hne⟩ := matchKey_some h
  have hstart : group <+: line.trimStart := hpre.trans (List.rdropWhile_prefix _ _)
  obtain ⟨u, rest, rfl⟩ := List.exists_cons_of_ne_nil hne
  -- A trimmed line does not begin with white space.
  have hspace : JsString.isSpace u = false := by
    obtain ⟨after, hafter⟩ := hstart
    have hhead := List.head?_dropWhile_not JsString.isSpace line
    rw [show line.dropWhile JsString.isSpace = u :: rest ++ after from hafter.symm] at hhead
    simpa using hhead
  have htrim : JsString.trim (u :: rest) = (u :: rest).rdropWhile JsString.isSpace := by
    unfold JsString.trim JsString.trimStart
    rw [List.dropWhile_cons_of_neg (by rw [hspace]; simp)]
  have hprefix : JsString.trim (u :: rest) <+: u :: rest := by
    rw [htrim]
    exact List.rdropWhile_prefix _ _
  refine ⟨u, ?_, hspace, hprefix.trans hstart⟩
  cases hgroup : JsString.trim (u :: rest) with
  | nil =>
    rw [htrim, List.rdropWhile_eq_nil_iff] at hgroup
    rw [hgroup u List.mem_cons_self] at hspace
    cases hspace
  | cons v rest' =>
    rw [hgroup] at hprefix
    rw [(List.cons_prefix_cons.mp hprefix).1]
    rfl

/-- What the loop over the lines returns: the line of the last key, and the lines after it. -/
theorem findKey_some {i : Nat} {lines keys : List JsString} {currentIndent : Nat} {key : KeyLine}
    (hkeys : keys.getLast? = path.getLast?)
    (h : findKey path i lines keys currentIndent = some key) :
    ∃ j, key.index = i + j ∧ lines[j]? = some key.line ∧ key.indent = indentOf key.line ∧
      key.following = lines.drop (j + 1) ∧
      ∃ last group, path.getLast? = some last ∧ matchKey key.line.trim = some group ∧
        group.trim = last := by
  induction lines generalizing i keys currentIndent with
  | nil => cases h
  | cons line lines ih =>
    -- The key is on a later line.
    have hlater : ∀ keys' currentIndent', keys'.getLast? = path.getLast? →
        findKey path (i + 1) lines keys' currentIndent' = some key →
        ∃ j, key.index = i + j ∧ (line :: lines)[j]? = some key.line ∧
          key.indent = indentOf key.line ∧ key.following = (line :: lines).drop (j + 1) ∧
          ∃ last group, path.getLast? = some last ∧ matchKey key.line.trim = some group ∧
            group.trim = last := by
      intro keys' currentIndent' hkeys' h'
      obtain ⟨j, hindex, hrest⟩ := ih hkeys' h'
      exact ⟨j + 1, by omega, hrest⟩
    rw [findKey] at h
    split at h
    · exact hlater keys currentIndent hkeys h
    · dsimp only at h
      split at h
      · rename_i hmatch
        obtain ⟨hne, hmatch⟩ := hmatch
        obtain ⟨k, keys', rfl⟩ := List.exists_cons_of_ne_nil hne
        split at h
        · rename_i hlast
          cases h
          rw [List.tail_cons] at hlast
          rw [hlast, List.getLast?_singleton] at hkeys
          obtain ⟨group, hgroup, htrim⟩ := Option.map_eq_some_iff.mp hmatch
          exact ⟨0, rfl, rfl, rfl, rfl, k, group, hkeys.symm, hgroup, htrim⟩
        · rename_i hlast
          rw [List.tail_cons] at hlast h
          -- The keys that are left end with the same key.
          refine hlater keys' _ ?_ h
          rw [← hkeys, List.getLast?_cons_of_ne_nil hlast]
      · split at h
        · exact hlater path 0 rfl h
        · exact hlater keys currentIndent hkeys h

/-- The key that is found: its line and what comes after it, and the place of the last key of the
path on the line. -/
theorem findKey_key {key : KeyLine} (h : findKey path 0 text.lines path 0 = some key) :
    text.lines[key.index]? = some key.line ∧ key.indent = indentOf key.line ∧
      key.following = text.lines.drop (key.index + 1) ∧
      ∃ last, path.getLast? = some last ∧ key.line.columnOf last = key.indent + 1 ∧
        last <:+: key.line := by
  obtain ⟨j, hindex, hline, hindent, hfollowing, last, group, hlast, hgroup, htrim⟩ :=
    findKey_some rfl h
  obtain ⟨u, hhead, hspace, hpre⟩ := trim_of_matchKey hgroup
  rw [htrim] at hhead hpre
  have hj : j = key.index := by omega
  rw [hj] at hline hfollowing
  refine ⟨hline, hindent, hfollowing, last, hlast, ?_, ?_⟩
  · rw [hindent]
    exact columnOf_of_trimStart hhead hspace hpre
  · exact hpre.isInfix.trans (List.dropWhile_suffix _).isInfix

/-! ### The search for the component -/

/-- A text that the search tests with the expression, and the line that it is on. -/
structure Searched where
  index : Nat
  line : JsString
  text : JsString

/-- The range of the first occurrence of the name on the line. -/
def Searched.position (name : JsString) (s : Searched) : Position := .of s.index s.line name

/-- The array on the line of the key. -/
def searchedArray (key : KeyLine) : List Searched :=
  (matchInlineArray key.line).toList.map fun content => ⟨key.index, key.line, content⟩

/-- The lines of the section below the key that begin with a dash. The first one is line `j`. -/
def searchedItems (indent j : Nat) (following : List JsString) : List Searched :=
  ((((following.zipIdx j).filter fun l => !isSkipped l.1).takeWhile fun l =>
    indent < indentOf l.1).filter fun l => l.1.trim.startsWith '-').map fun l =>
      ⟨l.2, l.1, l.1.trim⟩

/-- All texts that the search tests, in their order. -/
def searched (key : KeyLine) : List Searched :=
  searchedArray key ++ searchedItems key.indent (key.index + 1) key.following

/-- The first of the texts that the expression matches. -/
def firstMatch (regExp : RegExp) (name : JsString) (key : KeyLine) : Option Searched :=
  match componentRegex regExp name with
  | .ok test => (searched key).find? fun s => test s.text
  | .error _ => none

theorem searchedItems_cons (indent j : Nat) (line : JsString) (following : List JsString) :
    searchedItems indent j (line :: following)
      = if isSkipped line then searchedItems indent (j + 1) following
        else if indentOf line ≤ indent then []
        else if line.trim.startsWith '-' then
          ⟨j, line, line.trim⟩ :: searchedItems indent (j + 1) following
        else searchedItems indent (j + 1) following := by
  unfold searchedItems
  rw [List.zipIdx_cons]
  cases hskip : isSkipped line with
  | true => simp [hskip]
  | false =>
    by_cases hindent : indentOf line ≤ indent
    · simp [hskip, hindent]
    · cases hitem : line.trim.startsWith '-' with
      | true => simp [hskip, hindent, Nat.not_le.mp hindent, hitem]
      | false => simp [hskip, hindent, Nat.not_le.mp hindent, hitem]

/-- With an expression, the search below the key ends at the first item that it matches. -/
theorem findItem_eq {test : JsString → Bool} (htest : componentRegex regExp name = .ok test)
    (indent j : Nat) (following : List JsString) :
    findItem regExp name indent j following
      = .ok (((searchedItems indent j following).find? fun s => test s.text).map
          (Searched.position name)) := by
  induction following generalizing j with
  | nil => rfl
  | cons line following ih =>
    rw [findItem, searchedItems_cons]
    split
    · exact ih (j + 1)
    · split
      · rfl
      · split
        · rw [htest, List.find?_cons]
          dsimp only
          cases hhit : test line.trim with
          | true => rfl
          | false => exact ih (j + 1)
        · exact ih (j + 1)

/-- Without an expression, the search below the key finds nothing. -/
theorem findItem_of_error {err : Thrown} (herr : componentRegex regExp name = .error err)
    {indent j : Nat} {following : List JsString} {position? : Option Position}
    (h : findItem regExp name indent j following = .ok position?) : position? = none := by
  induction following generalizing j with
  | nil =>
    cases h
    rfl
  | cons line following ih =>
    rw [findItem] at h
    split at h
    · exact ih h
    · split at h
      · cases h
        rfl
      · split at h
        · rw [herr] at h
          cases h
        · exact ih h

/-- A search that returns has found the first text that the expression matches. -/
theorem findComponent_eq {key : KeyLine} {position? : Option Position}
    (h : findComponent regExp name key = .ok position?) :
    position? = (firstMatch regExp name key).map (Searched.position name) := by
  unfold findComponent at h
  unfold firstMatch searched searchedArray
  cases hregex : componentRegex regExp name with
  | error err =>
    cases hinline : matchInlineArray key.line with
    -- Without an array the search can return, if there is no item either.
    | none =>
      rw [hinline] at h
      exact findItem_of_error hregex h
    | some content =>
      rw [hinline, hregex] at h
      cases h
  | ok test =>
    dsimp only
    rw [List.find?_append]
    cases hinline : matchInlineArray key.line with
    | none =>
      rw [hinline] at h
      dsimp only at h
      rw [findItem_eq hregex] at h
      cases h
      rfl
    | some content =>
      rw [hinline, hregex] at h
      dsimp only at h
      rw [Option.toList_some, List.map_singleton, List.find?_singleton]
      cases hhit : test content with
      | true =>
        rw [hhit, if_pos rfl] at h
        cases h
        rfl
      | false =>
        rw [hhit, if_neg Bool.false_ne_true, findItem_eq hregex] at h
        cases h
        rfl

/-- What `findYamlPosition` returns at a key, when it returns. -/
theorem findYamlPosition_eq {key : KeyLine} (hkey : findKey path 0 text.lines path 0 = some key)
    (hname : name ≠ []) {position? : Option Position}
    (h : findYamlPosition regExp text path (some name) = .ok position?) :
    position? = some (((firstMatch regExp name key).map (Searched.position name)).getD
      (.of key.index key.line (path.getLast?.getD []))) := by
  unfold findYamlPosition at h
  rw [hkey, Option.filter_some, if_pos (by simpa using hname)] at h
  dsimp only at h
  cases hfind : findComponent regExp name key with
  | error err =>
    rw [hfind] at h
    cases h
  | ok found =>
    rw [hfind] at h
    cases h
    rw [findComponent_eq hfind]

/-! ### Where the elements are -/

/-- The scalar of a piece is not before the piece. -/
theorem elementAt_place (index offset : Nat) (piece : JsString) :
    (elementAt index offset piece).index = index ∧
      offset ≤ (elementAt index offset piece).offset := by
  unfold elementAt
  split
  · exact ⟨rfl, by dsimp only; omega⟩
  · split
    · exact ⟨rfl, by dsimp only; omega⟩
    · exact ⟨rfl, by dsimp only; omega⟩

theorem flowElements_place {index offset : Nat} {pieces : List JsString} {e : Element}
    (he : e ∈ flowElements index offset pieces) : e.index = index ∧ offset ≤ e.offset := by
  induction pieces generalizing offset with
  | nil => cases he
  | cons piece pieces ih =>
    rw [flowElements, List.mem_cons] at he
    rcases he with rfl | he
    · exact elementAt_place index offset piece
    · obtain ⟨hindex, hoffset⟩ := ih he
      exact ⟨hindex, by omega⟩

theorem length_takeWhile_le {p q : UInt16 → Bool} (hpq : ∀ u, p u = true → q u = true)
    (l : JsString) : (l.takeWhile p).length ≤ (l.takeWhile q).length := by
  induction l with
  | nil => exact Nat.le_refl _
  | cons u l ih =>
    cases hp : p u with
    | false => simp [hp]
    | true =>
      rw [List.takeWhile_cons_of_pos hp, List.takeWhile_cons_of_pos (hpq u hp), List.length_cons,
        List.length_cons]
      omega

/-- The colon of a line is not part of its indentation. -/
theorem indentOf_le_beforeColon (line : JsString) :
    indentOf line ≤ (beforeColon line).length := by
  rw [← length_takeWhile_isSpace]
  refine length_takeWhile_le ?_ line
  intro u hu
  rw [bne_iff_ne]
  rintro rfl
  exact absurd hu (by decide)

/-- An element below the key is on one of the lines there. -/
theorem mem_blockElements {key : KeyLine} {e : Element} (he : e ∈ blockElements key) :
    ∃ l ∈ key.following.zipIdx (key.index + 1), e = itemElement l.2 l.1 := by
  unfold blockElements at he
  split at he
  · cases he
  · rename_i first rest hbelow
    dsimp only at he
    split at he
    · obtain ⟨l, hl, rfl⟩ := List.mem_map.mp he
      have hmem : l ∈ linesBelow key := by
        rw [hbelow]
        exact (List.takeWhile_prefix _).mem (List.mem_filter.mp hl).1
      exact ⟨l, (List.mem_filter.mp hmem).1, rfl⟩
    · cases he

theorem itemElement_index (index : Nat) (line : JsString) :
    (itemElement index line).index = index :=
  (elementAt_place index _ _).1

/-- No element begins where the key does. -/
theorem element_ne_key {key : KeyLine} (hindent : key.indent = indentOf key.line) {e : Element}
    (he : e ∈ inlineElements key ++ blockElements key) :
    ¬(e.index = key.index ∧ e.offset = key.indent) := by
  rintro ⟨hindex, hoffset⟩
  rcases List.mem_append.mp he with he | he
  · unfold inlineElements at he
    split at he
    · have hplace := (flowElements_place he).2
      have hcolon := indentOf_le_beforeColon key.line
      omega
    · cases he
  · obtain ⟨l, hl, rfl⟩ := mem_blockElements he
    have hle := (List.mk_mem_zipIdx_iff_le_and_getElem?_sub.mp hl).1
    rw [itemElement_index] at hindex
    omega

/-! ### Ranges -/

/-- The range lies in the text, and `s` stands there. -/
def Position.Marks (p : Position) (text s : JsString) : Prop :=
  ∃ line, text.lines[p.line - 1]? = some line ∧ 1 ≤ p.line ∧ p.line ≤ text.lines.length ∧
    p.endLine = p.line ∧ 1 ≤ p.column ∧ p.endColumn ≤ line.length + 1 ∧
      (line.drop (p.column - 1)).take (p.endColumn - p.column) = s

/-- The name is an element of the list at the path. -/
def IsElement (text : JsString) (path : List JsString) (name : JsString) : Prop :=
  ∃ e ∈ elementsAt text path, e.text = name

/-- The range lies in the text and is that of the last key or of the name. If the name is an element
of the list at the path, it is the range of such an element. -/
def RightRange (text : JsString) (path : List JsString) (name : JsString) (position : Position) :
    Prop :=
  (∃ s, (path.getLast? = some s ∨ s = name) ∧ position.Marks text s) ∧
    (IsElement text path name →
      ∃ e ∈ elementsAt text path, e.text = name ∧ position = e.position)

/-- The call does not throw, and a range that it returns is right. -/
def Highlights (regExp : RegExp) (text : JsString) (path : List JsString) (name : JsString) :
    Prop :=
  ∃ position?, findYamlPosition regExp text path (some name) = .ok position? ∧
    ∀ position ∈ position?, RightRange text path name position

/-- The first occurrence of the name on the line is an element. -/
def FirstIsElement (text : JsString) (path : List JsString) (name : JsString) (hit : Searched) :
    Prop :=
  ∃ e ∈ elementsAt text path, e.text = name ∧ e.index = hit.index ∧
    hit.line.columnOf name = e.offset + 1

/-- The name makes an expression if there is a text to search. The first text that it matches is on
a line with the name. If the name is an element, then there is such a text, and the first occurrence
of the name on its line is an element. -/
def PointsRight (regExp : RegExp) (text : JsString) (path : List JsString) (name : JsString) :
    Prop :=
  Searchable regExp text path name ∧
    ∀ key, findKey path 0 text.lines path 0 = some key →
      (∀ hit, firstMatch regExp name key = some hit → name <:+: hit.line) ∧
      (IsElement text path name →
        ∃ hit, firstMatch regExp name key = some hit ∧ FirstIsElement text path name hit)

/-- A range with the length of the text that stands there. -/
theorem marks_of_stands {line s : JsString} {i c : Nat} (hline : text.lines[i]? = some line)
    (hpre : s <+: line.drop c) (hle : c ≤ line.length) :
    (Position.mk (i + 1) (c + 1) (i + 1) (c + 1 + s.length)).Marks text s := by
  have hlength := hpre.length_le
  rw [List.length_drop] at hlength
  refine ⟨line, hline, by dsimp only; omega, (List.getElem?_eq_some_iff.mp hline).1, rfl,
    by dsimp only; omega, by dsimp only; omega, ?_⟩
  dsimp only
  rw [Nat.add_sub_cancel, Nat.add_sub_cancel_left]
  exact (List.prefix_iff_eq_take.mp hpre).symm

/-- The range of the first occurrence of a text on a line. -/
theorem marks_of_occurs {line s : JsString} {i : Nat} (hline : text.lines[i]? = some line)
    (h : s <:+: line) : (Position.of i line s).Marks text s := by
  obtain ⟨c, hle, hcolumn, hpre⟩ := exists_columnOf h
  unfold Position.of
  rw [hcolumn]
  exact marks_of_stands hline hpre hle

/-- A range on a line without the name marks nothing. -/
theorem occurs_of_marks {line s s' : JsString} {i : Nat}
    (h : (Position.of i line s).Marks text s') : s <:+: line := by
  by_contra hnot
  obtain ⟨_, _, _, _, _, hcolumn, _⟩ := h
  unfold Position.of at hcolumn
  rw [columnOf_eq_zero hnot] at hcolumn
  exact absurd hcolumn (Nat.not_succ_le_zero 0)

/-- The lines after a key are lines of the text. -/
theorem getElem?_of_mem_following {key : KeyLine}
    (hfollowing : key.following = text.lines.drop (key.index + 1)) {l : JsString × Nat}
    (h : l ∈ key.following.zipIdx (key.index + 1)) : text.lines[l.2]? = some l.1 := by
  obtain ⟨hle, hget⟩ := List.mk_mem_zipIdx_iff_le_and_getElem?_sub.mp h
  rw [hfollowing, List.getElem?_drop] at hget
  rw [← hget]
  congr 1
  omega

/-- The texts that are searched are on lines of the text. -/
theorem getElem?_of_firstMatch {key : KeyLine}
    (hline : text.lines[key.index]? = some key.line)
    (hfollowing : key.following = text.lines.drop (key.index + 1)) {hit : Searched}
    (h : firstMatch regExp name key = some hit) : text.lines[hit.index]? = some hit.line := by
  unfold firstMatch at h
  split at h
  · rcases List.mem_append.mp (List.mem_of_find?_eq_some h) with hmem | hmem
    · obtain ⟨content, -, rfl⟩ := List.mem_map.mp hmem
      exact hline
    · obtain ⟨l, hl, rfl⟩ := List.mem_map.mp hmem
      have hmem := (List.takeWhile_prefix _).mem (List.mem_filter.mp hl).1
      exact getElem?_of_mem_following hfollowing (List.mem_filter.mp hmem).1
  · cases h

/-- The range of the first occurrence of the name is that of an element exactly if this occurrence
is one. -/
theorem position_eq_element_iff (hit : Searched) :
    (∃ e ∈ elementsAt text path, e.text = name ∧ hit.position name = e.position) ↔
      FirstIsElement text path name hit := by
  unfold FirstIsElement
  refine exists_congr fun e => and_congr_right fun _ => and_congr_right fun hname => ?_
  unfold Searched.position Position.of Element.position
  rw [Position.mk.injEq, hname]
  constructor
  · rintro ⟨hindex, hcolumn, -, -⟩
    exact ⟨by omega, hcolumn⟩
  · rintro ⟨hindex, hcolumn⟩
    exact ⟨by omega, hcolumn, by omega, by omega⟩

/-- The range that is returned at a key: that of the first occurrence of the name on the line of the
first match, or that of the key. -/
theorem rightRange_iff {key : KeyLine} (hkey : findKey path 0 text.lines path 0 = some key) :
    RightRange text path name (((firstMatch regExp name key).map (Searched.position name)).getD
        (.of key.index key.line (path.getLast?.getD []))) ↔
      (∀ hit, firstMatch regExp name key = some hit → name <:+: hit.line) ∧
      (IsElement text path name →
        ∃ hit, firstMatch regExp name key = some hit ∧ FirstIsElement text path name hit) := by
  obtain ⟨hline, hindent, hfollowing, last, hlast, hcolumn, hinfix⟩ := findKey_key hkey
  cases hfirst : firstMatch regExp name key with
  | none =>
    rw [Option.map_none, Option.getD_none, hlast, Option.getD_some]
    -- The range of the key is not that of an element.
    have hkeyRange : ∀ e ∈ elementsAt text path,
        Position.of key.index key.line last ≠ e.position := by
      intro e he hrange
      unfold elementsAt at he
      rw [hkey] at he
      refine absurd ?_ (element_ne_key hindent he)
      unfold Position.of Element.position at hrange
      rw [Position.mk.injEq, hcolumn] at hrange
      omega
    constructor
    · rintro ⟨-, helement⟩
      refine ⟨?_, ?_⟩
      · rintro _ ⟨⟩
      · intro h
        obtain ⟨e, he, -, hrange⟩ := helement h
        exact absurd hrange (hkeyRange e he)
    · rintro ⟨-, helement⟩
      refine ⟨⟨last, Or.inl hlast, marks_of_occurs hline hinfix⟩, fun h => ?_⟩
      obtain ⟨hit, hhit, -⟩ := helement h
      cases hhit
  | some hit =>
    rw [Option.map_some, Option.getD_some]
    constructor
    · rintro ⟨⟨s, -, hmarks⟩, helement⟩
      refine ⟨?_, fun h => ⟨hit, rfl, (position_eq_element_iff hit).mp (helement h)⟩⟩
      rintro _ ⟨⟩
      exact occurs_of_marks hmarks
    · rintro ⟨hname, helement⟩
      have hhit := getElem?_of_firstMatch hline hfollowing hfirst
      refine ⟨⟨name, Or.inr rfl, marks_of_occurs hhit (hname hit rfl)⟩, fun h => ?_⟩
      obtain ⟨_, heq, hfirst'⟩ := helement h
      cases heq
      exact (position_eq_element_iff hit).mpr hfirst'

/-- `findYamlPosition` gives the right range exactly if `PointsRight` holds. -/
theorem highlights_iff (regExp : RegExp) (text : JsString) (path : List JsString)
    (name : JsString) (hname : name ≠ []) :
    Highlights regExp text path name ↔ PointsRight regExp text path name := by
  unfold Highlights PointsRight
  constructor
  · rintro ⟨position?, hposition, hright⟩
    refine ⟨isOk_findYamlPosition.mp (by rw [hposition]; rfl), ?_⟩
    intro key hkey
    refine (rightRange_iff hkey).mp (hright _ ?_)
    exact findYamlPosition_eq hkey hname hposition
  · rintro ⟨hsearch, hright⟩
    have hok : (findYamlPosition regExp text path (some name)).isOk = true :=
      isOk_findYamlPosition.mpr hsearch
    obtain ⟨position?, hposition⟩ := exists_eq_ok hok
    refine ⟨position?, hposition, ?_⟩
    cases hkey : findKey path 0 text.lines path 0 with
    | none =>
      unfold findYamlPosition at hposition
      rw [hkey] at hposition
      cases hposition
      exact fun _ h => by cases h
    | some key =>
      rw [findYamlPosition_eq hkey hname hposition]
      rintro _ ⟨⟩
      exact (rightRange_iff hkey).mpr (hright key hkey)

/-! ### The ranges of the elements -/

theorem withoutComment_begins (s : JsString) : withoutComment s <+: s := by
  induction s with
  | nil => exact List.prefix_refl _
  | cons u rest ih =>
    cases rest with
    | nil => exact List.prefix_refl _
    | cons v rest =>
      rw [withoutComment]
      split
      · exact List.nil_prefix
      · exact List.cons_prefix_cons.mpr ⟨rfl, ih⟩

/-- The scalar of a piece stands where the element says. -/
theorem elementAt_stands {line piece : JsString} (index : Nat) {offset : Nat}
    (h : piece <+: line.drop offset) :
    (elementAt index offset piece).text <+: line.drop (elementAt index offset piece).offset := by
  have htrim : piece.trim <+: line.drop (offset + indentOf piece) := by
    rw [← List.drop_drop]
    have hdrop := h.drop (indentOf piece)
    rw [drop_indentOf] at hdrop
    exact (List.rdropWhile_prefix _ _).trans hdrop
  unfold elementAt
  split
  · exact List.nil_prefix
  · rename_i u rest hpiece
    rw [hpiece] at htrim
    split
    · have hrest := htrim.drop 1
      rw [List.drop_drop] at hrest
      exact (List.dropLast_prefix rest).trans hrest
    · exact htrim

theorem flowElements_stands {line : JsString} {index offset : Nat} {pieces : List JsString}
    (h : List.intercalate [unit ','] pieces <+: line.drop offset) {e : Element}
    (he : e ∈ flowElements index offset pieces) : e.text <+: line.drop e.offset := by
  induction pieces generalizing offset with
  | nil => cases he
  | cons piece pieces ih =>
    rw [flowElements, List.mem_cons] at he
    cases pieces with
    | nil =>
      rcases he with rfl | he
      · refine elementAt_stands index ?_
        simpa using h
      · cases he
    | cons piece' pieces =>
      rw [List.intercalate_cons_cons] at h
      rcases he with rfl | he
      · refine elementAt_stands index (List.IsPrefix.trans ?_ h)
        rw [List.append_assoc]
        exact List.prefix_append _ _
      · refine ih ?_ he
        have hrest := h.drop (piece ++ [unit ',']).length
        rw [List.drop_left, List.drop_drop, List.length_append, List.length_singleton,
          ← Nat.add_assoc] at hrest
        exact hrest

theorem matchArray_some {rest content : JsString} (h : matchArray rest = some content) :
    content <+: rest.drop (indentOf rest + 1) := by
  unfold matchArray at h
  split at h
  · rename_i u inner hdrop
    dsimp only at h
    split at h
    · cases h
      have hinner : rest.drop (indentOf rest + 1) = inner := by
        rw [← List.drop_drop, drop_indentOf]
        unfold JsString.trimStart
        rw [hdrop]
        rfl
      rw [hinner]
      exact List.takeWhile_prefix _
    · cases h
  · cases h

/-- An element stands in the text where its range says. -/
theorem marks_element {e : Element} (he : e ∈ elementsAt text path) (hne : e.text ≠ []) :
    e.position.Marks text e.text := by
  obtain ⟨line, hline, hpre⟩ : ∃ line, text.lines[e.index]? = some line ∧
      e.text <+: line.drop e.offset := by
    unfold elementsAt at he
    split at he
    · rename_i key hkey
      obtain ⟨hline, -, hfollowing, -⟩ := findKey_key hkey
      rcases List.mem_append.mp he with he | he
      · unfold inlineElements at he
        split at he
        · rename_i content hcontent
          rw [(flowElements_place he).1]
          refine ⟨key.line, hline, flowElements_stands ?_ he⟩
          rw [List.intercalate_splitOn]
          have harray := matchArray_some hcontent
          unfold afterColon at harray
          rw [List.drop_drop] at harray
          exact harray
        · cases he
      · obtain ⟨l, hl, rfl⟩ := mem_blockElements he
        refine ⟨l.1, ?_, elementAt_stands _ (withoutComment_begins _)⟩
        rw [itemElement_index]
        exact getElem?_of_mem_following hfollowing hl
    · cases he
  have hlength := hpre.length_le
  have hpos := List.length_pos_iff.mpr hne
  rw [List.length_drop] at hlength
  exact marks_of_stands hline hpre (by omega)

/-! ### A longer element -/

/-- `\w`. -/
def isWord (u : UInt16) : Bool :=
  (unit 'a' ≤ u && u ≤ unit 'z') || (unit 'A' ≤ u && u ≤ unit 'Z')
    || (unit '0' ≤ u && u ≤ unit '9') || u == unit '_'

/-- `\b`, between two code units or at an end of the text. -/
def isBoundary (before after : Option UInt16) : Bool :=
  before.any isWord != after.any isWord

/-- The test of `\bname\b` for a name in which no character is special. -/
def literalTest (name s : JsString) : Bool :=
  (List.range (s.length + 1)).any fun i =>
    name.isPrefixOf (s.drop i) && isBoundary (s.take i).getLast? name.head?
      && isBoundary name.getLast? (s.drop (i + name.length)).head?

/-- The expressions `\bname\b` for names of letters, digits and some signs that are not special. -/
def literalRegExp : RegExp := fun pattern =>
  let name := (pattern.drop 2).take (pattern.length - 4)
  if pattern = ascii "\\b" ++ name ++ ascii "\\b" ∧ name ≠ [] ∧
      name.all (fun u => isWord u || u == unit '/' || u == unit '-') then
    some (literalTest name)
  else none

theorem highlights_data : Highlights literalRegExp (ascii "receivers: [otlp, data, jaeger]")
    [ascii "receivers"] (ascii "data") := by
  refine (highlights_iff _ _ _ _ (by decide)).mpr ⟨Or.inr (Or.inl rfl), ?_⟩
  have hkey : findKey [ascii "receivers"] 0 (ascii "receivers: [otlp, data, jaeger]").lines
      [ascii "receivers"] 0 = some ⟨0, ascii "receivers: [otlp, data, jaeger]", 0, []⟩ := rfl
  rw [hkey]
  rintro _ ⟨⟩
  have hfirst : firstMatch literalRegExp (ascii "data")
      ⟨0, ascii "receivers: [otlp, data, jaeger]", 0, []⟩
      = some ⟨0, ascii "receivers: [otlp, data, jaeger]", ascii "otlp, data, jaeger"⟩ := rfl
  rw [hfirst]
  refine ⟨?_, ?_⟩
  · rintro _ ⟨⟩
    decide
  · intro _
    exact ⟨_, rfl, ⟨0, 18, ascii "data"⟩, by decide, rfl, rfl, rfl⟩

/-- A list with the element `otlp` after the element `otlp/2`. -/
def longerFirst : JsString := ascii "receivers: [otlp/2, otlp]"

/-- If the expression matches the list, then the range for `otlp` is in `otlp/2`. -/
theorem longer_element_highlighted :
    (∀ (regExp : RegExp) (test : JsString → Bool), regExp (ascii "\\botlp\\b") = some test →
      test (ascii "otlp/2, otlp") = true →
      findYamlPosition regExp longerFirst [ascii "receivers"] (some (ascii "otlp"))
        = .ok (some ⟨1, 13, 1, 17⟩)) ∧
    ¬ ∀ regExp text path name, name ≠ [] → unit '\n' ∉ name →
      Highlights regExp text path name := by
  have hposition : ∀ (regExp : RegExp) (test : JsString → Bool),
      regExp (ascii "\\botlp\\b") = some test → test (ascii "otlp/2, otlp") = true →
      findYamlPosition regExp longerFirst [ascii "receivers"] (some (ascii "otlp"))
        = .ok (some ⟨1, 13, 1, 17⟩) := by
    intro regExp test hregex htest
    have hkey : findKey [ascii "receivers"] 0 longerFirst.lines [ascii "receivers"] 0
        = some ⟨0, longerFirst, 0, []⟩ := rfl
    have harray : matchInlineArray longerFirst = some (ascii "otlp/2, otlp") := rfl
    have hpattern : componentRegex regExp (ascii "otlp") = .ok test := by
      unfold componentRegex
      rw [show ascii "\\b" ++ ascii "otlp" ++ ascii "\\b" = ascii "\\botlp\\b" from rfl, hregex]
    have hfind : findComponent regExp (ascii "otlp") ⟨0, longerFirst, 0, []⟩
        = .ok (some ⟨1, 13, 1, 17⟩) := by
      unfold findComponent
      rw [harray, hpattern]
      dsimp only
      rw [if_pos htest]
      rfl
    unfold findYamlPosition
    rw [hkey, Option.filter_some, if_pos (by decide)]
    dsimp only
    rw [hfind]
    rfl
  refine ⟨hposition, ?_⟩
  intro hall
  obtain ⟨position?, hfound, hright⟩ :=
    hall literalRegExp longerFirst [ascii "receivers"] (ascii "otlp") (by decide) (by decide)
  rw [hposition literalRegExp (literalTest (ascii "otlp")) rfl rfl] at hfound
  cases hfound
  obtain ⟨e, he, -, hrange⟩ := (hright _ rfl).2 ⟨⟨0, 20, ascii "otlp"⟩, by decide, rfl⟩
  have helsewhere : ∀ e ∈ elementsAt longerFirst [ascii "receivers"],
      e.position ≠ ⟨1, 13, 1, 17⟩ := by decide
  exact helsewhere e he hrange.symm

end OtelHive.Ui
