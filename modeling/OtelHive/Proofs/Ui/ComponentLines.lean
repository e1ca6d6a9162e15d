import OtelHive.Proofs.Ui.PathLookup
import OtelHive.Ui.BlockConfig

/-!
# `OtelHive.Proofs.Ui.ComponentLines`: which lines `parseYamlComponents` takes for components

A line is a header if it is one of the six section keys and a colon, wherever it stands. The parser
takes a line for a component of the nearest header above it if the line is a bare key, up to four
columns to the right of that header: the tolerance of two columns on both sides of the third column
lets in the settings of a component. `Line.Clear` says that a line is not taken for something else.

`parseYamlComponents_eq` says what the parser returns for any text, and `exact_iff` is the result
for configs in block style.
-/

set_option autoImplicit false

namespace OtelHive.Ui

open JsString (unit ascii)

/-! ### The property -/

/-- One of the six section keys with a colon. -/
def isHeader (line : JsString) : Bool :=
  [ascii "receivers:", ascii "processors:", ascii "exporters:", ascii "service:",
    ascii "extensions:", ascii "connectors:"].any fun header => line.trim = header

/-- The kind of components below a header. -/
def headerKind (line : JsString) : Option Kind :=
  [Kind.receiver, .processor, .exporter].find? fun kind =>
    line.trim = kind.sectionName ++ ascii ":"

/-- The kind and the indentation of the nearest header above, if it is one for components. -/
def sectionAt (above : List JsString) : Option (Kind × Nat) :=
  (above.filter isHeader).getLast?.bind fun header =>
    (headerKind header).map fun kind => (kind, indentOf header)

/-- The name if a line ends with a colon and has a name without blanks before it. -/
def bareKey (line : JsString) : Option JsString :=
  let name := JsString.trim line.trim.dropLast
  if line.trim.endsWith ':' ∧ ¬ line.trim.startsWith '-' ∧ name ≠ [] ∧ unit ' ' ∉ name then
    some name
  else none

/-- The key of a component is plain, has no blank in it and no dash before it, is not a header, and
nothing follows its colon. -/
structure Spelling.Bare (key : Spelling) (lineEnd : LineEnd) : Prop where
  plain : key.name = key.text
  noBlank : unit ' ' ∉ key.text
  noDash : key.text.startsWith '-' = false
  noHeader : isHeader (key.line 2 lineEnd) = false
  noValue : ∀ u ∈ lineEnd.text, JsString.isSpace u = true

/-- The key of a component is bare, and the nearest header above it is that of its section. A line
inside a component or another section is no bare key, or it does not stand up to four columns to the
right of the nearest header. -/
def Line.Clear (above : List JsString) : Line → Prop
  | .section _ _ => True
  | .component kind key lineEnd => key.Bare lineEnd ∧ sectionAt above = some (kind, 0)
  | .inner line => ∀ kind indent, sectionAt above = some (kind, indent) →
    indent < indentOf line.text → indentOf line.text ≤ indent + 4 →
      isHeader line.text = true ∨ bareKey line.text = none

/-- All lines are clear. -/
def BlockConfig.Clear (config : BlockConfig) : Prop :=
  ∀ above line below, config.lines = above ++ line :: below → line.Clear (above.map Line.text)

/-- The parser returns the components of the sections and nothing else. -/
def BlockConfig.Exact (config : BlockConfig) : Prop :=
  (parseYamlComponents config.text).Perm config.components

/-! ### Lines -/

/-- Trimming the end of a text that is trimmed. -/
theorem rdropWhile_self {s : JsString} (hne : s ≠ []) (htrim : s.trim = s) :
    s.rdropWhile JsString.isSpace = s := by
  obtain ⟨u, rest, rfl, hspace⟩ := head_not_space hne htrim
  rw [JsString.trim, JsString.trimStart, List.dropWhile_cons_of_neg (by simp [hspace])] at htrim
  exact htrim

/-- White space at the end is trimmed. -/
theorem rdropWhile_append_of_pos {s gap : JsString} (h : ∀ u ∈ gap, JsString.isSpace u = true) :
    (s ++ gap).rdropWhile JsString.isSpace = s.rdropWhile JsString.isSpace := by
  rw [List.rdropWhile, List.reverse_append, List.dropWhile_append_of_pos]
  · rfl
  · intro u hu
    exact h u (List.mem_reverse.mp hu)

/-- The first character that is not white space follows the indentation. -/
theorem findIdx?_nonSpace (line : JsString) :
    line.findIdx? (fun u => !JsString.isSpace u)
      = if line.trimStart = [] then none else some (indentOf line) := by
  induction line with
  | nil => rfl
  | cons u line ih =>
    rw [List.findIdx?_cons]
    by_cases hspace : JsString.isSpace u = true
    · have hrest : JsString.trimStart (u :: line) = JsString.trimStart line :=
        List.dropWhile_cons_of_pos hspace
      have hle : (JsString.trimStart line).length ≤ line.length :=
        (List.dropWhile_suffix _).length_le
      have hindent : indentOf (u :: line) = indentOf line + 1 := by
        unfold indentOf
        rw [hrest, List.length_cons]
        omega
      rw [hspace, hrest, hindent, ih]
      by_cases hblank : JsString.trimStart line = []
      · simp [hblank]
      · simp [hblank]
    · have hfirst : JsString.trimStart (u :: line) = u :: line :=
        List.dropWhile_cons_of_neg (by simpa using hspace)
      rw [Bool.not_eq_true] at hspace
      simp [indentOf, hfirst, hspace]

theorem searchNonSpace_eq {line : JsString} (h : line.trim ≠ []) :
    line.searchNonSpace = indentOf line := by
  have hstart : line.trimStart ≠ [] := by
    intro hnil
    apply h
    rw [JsString.trim, hnil, List.rdropWhile_nil]
  rw [JsString.searchNonSpace, findIdx?_nonSpace, if_neg hstart]

section Line

variable (key : Spelling) (n : Nat) (lineEnd : LineEnd)

theorem trimStart_line :
    (key.line n lineEnd).trimStart = key.text ++ (key.gap ++ unit ':' :: lineEnd.text) := by
  obtain ⟨u, rest, htext, hspace⟩ := head_not_space key.ne_nil key.trimmed
  unfold Spelling.line JsString.trimStart
  rw [List.dropWhile_append_of_pos, htext, List.cons_append, List.dropWhile_cons_of_neg]
  · simp [hspace]
  · intro a ha
    rw [List.eq_of_mem_replicate ha]
    exact isSpace_space

theorem trim_key (b : JsString) : JsString.trim (key.text ++ (key.gap ++ unit ':' :: b))
    = key.text ++ (key.gap ++ unit ':' :: b.rdropWhile JsString.isSpace) := by
  obtain ⟨u, rest, htext, hspace⟩ := head_not_space key.ne_nil key.trimmed
  have hstart : JsString.trimStart (key.text ++ (key.gap ++ unit ':' :: b))
      = key.text ++ (key.gap ++ unit ':' :: b) := by
    rw [htext, List.cons_append]
    exact List.dropWhile_cons_of_neg (by simp [hspace])
  rw [JsString.trim, hstart, ← List.append_assoc, rdropWhile_colon, List.append_assoc]

theorem trim_line : (key.line n lineEnd).trim
    = key.text ++ (key.gap ++ unit ':' :: lineEnd.text.rdropWhile JsString.isSpace) := by
  rw [JsString.trim, trimStart_line, ← List.append_assoc, rdropWhile_colon, List.append_assoc]

theorem indentOf_line : indentOf (key.line n lineEnd) = n := by
  rw [indentOf, trimStart_line, Spelling.line, List.length_append, List.length_replicate]
  omega

/-- When nothing follows the colon, the key stands before it. -/
theorem name_of_noValue (h : ∀ u ∈ lineEnd.text, JsString.isSpace u = true) :
    (key.line n lineEnd).trim.endsWith ':' = true ∧
      JsString.trim (key.line n lineEnd).trim.dropLast = key.text := by
  obtain ⟨u, rest, htext, hspace⟩ := head_not_space key.ne_nil key.trimmed
  have hline : (key.line n lineEnd).trim = key.text ++ key.gap ++ [unit ':'] := by
    rw [trim_line, List.rdropWhile_eq_nil_iff.mpr h, List.append_assoc]
  have hstart : JsString.trimStart (key.text ++ key.gap) = key.text ++ key.gap := by
    rw [htext, List.cons_append]
    exact List.dropWhile_cons_of_neg (by simp [hspace])
  rw [hline, List.dropLast_concat]
  constructor
  · simp [JsString.endsWith]
  · rw [JsString.trim, hstart, rdropWhile_append_of_pos key.blank]
    exact rdropWhile_self key.ne_nil key.trimmed

/-- When something follows the colon, what stands before the end holds the key and the colon. -/
theorem length_lt_of_value (h : ¬ ∀ u ∈ lineEnd.text, JsString.isSpace u = true) :
    key.text.length < (JsString.trim (key.line n lineEnd).trim.dropLast).length := by
  have hrest : lineEnd.text.rdropWhile JsString.isSpace ≠ [] :=
    mt List.rdropWhile_eq_nil_iff.mp h
  rw [trim_line, List.dropLast_append_of_ne_nil (by simp),
    List.dropLast_append_of_ne_nil (List.cons_ne_nil _ _), List.dropLast_cons_of_ne_nil hrest,
    trim_key, List.length_append, List.length_append, List.length_cons]
  omega

/-- The line of a key is a bare key with its name. -/
theorem bareKey_line_iff :
    bareKey (key.line n lineEnd) = some key.name ↔ key.name = key.text ∧ unit ' ' ∉ key.text ∧
      key.text.startsWith '-' = false ∧ ∀ u ∈ lineEnd.text, JsString.isSpace u = true := by
  have hdash : (key.line n lineEnd).trim.startsWith '-' = key.text.startsWith '-' := by
    obtain ⟨u, rest, htext, -⟩ := head_not_space key.ne_nil key.trimmed
    rw [trim_line, htext]
    rfl
  by_cases hvalue : ∀ u ∈ lineEnd.text, JsString.isSpace u = true
  · obtain ⟨hcolon, hname⟩ := name_of_noValue key n lineEnd hvalue
    simp only [bareKey, hname, hcolon, hdash]
    split
    · rename_i hbare
      constructor
      · intro heq
        exact ⟨(Option.some.inj heq).symm, hbare.2.2.2, Bool.eq_false_iff.mpr hbare.2.1, hvalue⟩
      · intro hplain
        rw [hplain.1]
    · rename_i hbare
      constructor
      · intro heq
        cases heq
      · intro hplain
        exact absurd ⟨trivial, Bool.eq_false_iff.mp hplain.2.2.1, key.ne_nil, hplain.2.1⟩ hbare
  · refine iff_of_false ?_ fun hplain => hvalue hplain.2.2.2
    intro heq
    rw [bareKey] at heq
    split at heq
    · -- A name is not longer than the key as it is written.
      have hlength := length_lt_of_value key n lineEnd hvalue
      rw [Option.some.inj heq] at hlength
      rcases key.shorter with hsame | hlt
      · rw [hsame] at hlength
        exact absurd hlength (Nat.lt_irrefl _)
      · omega
    · cases heq

end Line

/-! ### The parser -/

/-- What the parser takes a line for. -/
def found (above : List JsString) (line : JsString) : Option (Kind × JsString) :=
  if isHeader line then none
  else
    (sectionAt above).bind fun s =>
      if s.2 < indentOf line ∧ indentOf line ≤ s.2 + 4 then
        (bareKey line).map fun name => (s.1, name)
      else none

/-- What the parser finds from a line on. -/
def foundFrom (above : List JsString) (index : Nat) : List JsString → List YamlComponent
  | [] => []
  | line :: rest =>
    ((found above line).map (BlockConfig.componentAt index)).toList
      ++ foundFrom (above ++ [line]) (index + 1) rest

/-- The section of the parser is that of the nearest header. -/
structure ParserState.Tracks (state : ParserState) (above : List JsString) : Prop where
  none : sectionAt above = none → state.currentSection = none
  some : ∀ kind indent, sectionAt above = some (kind, indent) →
    state.currentSection = some kind ∧ state.sectionIndent = indent

theorem sectionAt_concat (above : List JsString) (line : JsString) :
    sectionAt (above ++ [line])
      = if isHeader line then (headerKind line).map fun kind => (kind, indentOf line)
        else sectionAt above := by
  rw [sectionAt, List.filter_append, List.filter_singleton]
  by_cases hheader : isHeader line = true
  · rw [if_pos hheader, hheader, cond_true, List.getLast?_concat]
    rfl
  · rw [if_neg hheader, Bool.eq_false_iff.mpr hheader, cond_false, List.append_nil]
    rfl

/-- A header sets the section. -/
theorem parseLine_of_header {line : JsString} (h : isHeader line = true) (state : ParserState)
    (index : Nat) :
    parseLine state line index
      = { state with
          currentSection := headerKind line
          sectionIndent := if (headerKind line).isSome then line.searchNonSpace
            else state.sectionIndent } := by
  simp only [isHeader, List.any_cons, List.any_nil, Bool.or_false, Bool.or_eq_true,
    decide_eq_true_eq] at h
  rcases h with h | h | h | h | h | h
  all_goals
    simp only [parseLine, headerKind, h]
    rfl

/-- Another line below no header for components. -/
theorem parseLine_of_none {line : JsString} (h : isHeader line = false) {state : ParserState}
    (hsection : state.currentSection = none) (index : Nat) :
    parseLine state line index = state := by
  simp only [isHeader, List.any_cons, List.any_nil, Bool.or_false, Bool.or_eq_false_iff,
    decide_eq_false_iff_not] at h
  simp [parseLine, h, hsection]

/-- Another line below a header for components. -/
theorem parseLine_of_some {line : JsString} (h : isHeader line = false) {state : ParserState}
    {kind : Kind} {indent : Nat} (hsection : state.currentSection = some kind)
    (hindent : state.sectionIndent = indent) (index : Nat) :
    parseLine state line index
      = { state with
          components := state.components
            ++ ((if indent < indentOf line ∧ indentOf line ≤ indent + 4 then
                (bareKey line).map fun name => (kind, name)
              else none).map (BlockConfig.componentAt index)).toList } := by
  simp only [isHeader, List.any_cons, List.any_nil, Bool.or_false, Bool.or_eq_false_iff,
    decide_eq_false_iff_not] at h
  have hstate : state = {
      components := state.components
      currentSection := some kind
      sectionIndent := (indent : Int) } := by
    rw [← hsection, ← hindent]
  simp only [parseLine, h, or_self, if_false, hsection, hindent]
  by_cases hkey : line.trim.endsWith ':' = true ∧ ¬ line.trim.startsWith '-' = true ∧
      JsString.trim line.trim.dropLast ≠ [] ∧ unit ' ' ∉ JsString.trim line.trim.dropLast
  · have htrim : line.trim ≠ [] := by
      intro hnil
      rw [hnil] at hkey
      exact absurd hkey.1 (by decide)
    have hbare : bareKey line = some (JsString.trim line.trim.dropLast) := if_pos hkey
    rw [hbare, searchNonSpace_eq htrim, if_pos (⟨hkey.1, hkey.2.1⟩ : _ ∧ _)]
    by_cases hnear : indent < indentOf line ∧ indentOf line ≤ indent + 4
    · -- The tolerance on both sides of the third column.
      have htolerance : ((indentOf line : Int) - (indent + 2)).natAbs ≤ 2 := by omega
      rw [if_pos (by omega), if_pos ⟨htolerance, hkey.2.2⟩, if_pos hnear]
      rfl
    · rw [if_neg hnear]
      split
      · rw [if_neg (by omega)]
        simpa using hstate
      · simpa using hstate
  · have hbare : bareKey line = none := if_neg hkey
    have hnone : (if indent < indentOf line ∧ indentOf line ≤ indent + 4 then
        (bareKey line).map fun name => (kind, name) else none) = none := by
      rw [hbare]
      simp
    rw [hnone]
    split
    · split
      · rename_i hcolon
        rw [if_neg fun hname => hkey ⟨hcolon.1, hcolon.2, hname.2⟩]
        simpa using hstate
      · simpa using hstate
    · simpa using hstate

/-- One line. -/
theorem parseLine_spec {state : ParserState} {above : List JsString} (h : state.Tracks above)
    (line : JsString) (index : Nat) :
    (parseLine state line index).Tracks (above ++ [line]) ∧
      (parseLine state line index).components
        = state.components ++ ((found above line).map (BlockConfig.componentAt index)).toList := by
  by_cases hheader : isHeader line = true
  · have htrim : line.trim ≠ [] := by
      intro hnil
      rw [isHeader, hnil] at hheader
      exact absurd hheader (by decide)
    rw [parseLine_of_header hheader, found, if_pos hheader]
    refine ⟨⟨?_, ?_⟩, (List.append_nil _).symm⟩
    · intro hsection
      rw [sectionAt_concat, if_pos hheader] at hsection
      exact Option.map_eq_none_iff.mp hsection
    · intro kind indent hsection
      rw [sectionAt_concat, if_pos hheader] at hsection
      obtain ⟨kind', hkind, hpair⟩ := Option.map_eq_some_iff.mp hsection
      cases hpair
      refine ⟨hkind, ?_⟩
      show (if (headerKind line).isSome then line.searchNonSpace else state.sectionIndent) = _
      rw [hkind, Option.isSome_some, if_pos rfl, searchNonSpace_eq htrim]
  · rw [Bool.not_eq_true] at hheader
    have hsame : sectionAt (above ++ [line]) = sectionAt above := by
      rw [sectionAt_concat, hheader]
      rfl
    rw [found, hheader]
    cases hsection : sectionAt above with
    | none =>
      rw [parseLine_of_none hheader (h.none hsection)]
      refine ⟨⟨fun _ => h.none hsection, ?_⟩, (List.append_nil _).symm⟩
      intro kind indent heq
      rw [hsame, hsection] at heq
      cases heq
    | some s =>
      obtain ⟨hcurrent, hindent⟩ := h.some s.1 s.2 hsection
      rw [parseLine_of_some hheader hcurrent hindent]
      refine ⟨⟨?_, ?_⟩, rfl⟩
      · intro heq
        rw [hsame, hsection] at heq
        cases heq
      · intro kind indent heq
        rw [hsame] at heq
        exact h.some kind indent heq

/-- All lines. -/
theorem parseLines_spec {state : ParserState} {above : List JsString} (h : state.Tracks above)
    (index : Nat) (lines : List JsString) :
    (parseLines state index lines).components
      = state.components ++ foundFrom above index lines := by
  induction lines generalizing state above index with
  | nil => exact (List.append_nil _).symm
  | cons line rest ih =>
    obtain ⟨htracks, hcomponents⟩ := parseLine_spec h line index
    rw [parseLines, ih htracks, hcomponents, foundFrom, List.append_assoc]

/-- What the parser returns for any text. -/
theorem parseYamlComponents_eq (yamlContent : JsString) :
    parseYamlComponents yamlContent = foundFrom [] 0 yamlContent.lines :=
  have htracks : ({} : ParserState).Tracks [] := by
    refine ⟨fun _ => rfl, ?_⟩
    intro kind indent h
    cases h
  parseLines_spec htracks 0 yamlContent.lines

/-! ### Comparison -/

open BlockConfig (componentAt componentsFrom)

theorem componentAt_injective (index : Nat) : Function.Injective (componentAt index) := by
  intro c c' h
  exact Prod.ext (YamlComponent.mk.inj h).2.1 (YamlComponent.mk.inj h).1

theorem lt_lineNumber_foundFrom {above lines : List JsString} {index : Nat} :
    ∀ c ∈ foundFrom above index lines, index < c.lineNumber := by
  induction lines generalizing above index with
  | nil => exact fun c hc => absurd hc List.not_mem_nil
  | cons line rest ih =>
    intro c hc
    rcases List.mem_append.mp hc with hc | hc
    · obtain ⟨_, -, rfl⟩ := Option.map_eq_some_iff.mp (Option.mem_toList.mp hc)
      exact Nat.lt_succ_self index
    · exact (Nat.lt_succ_self index).trans (ih c hc)

theorem lt_lineNumber_componentsFrom {lines : List Line} {index : Nat} :
    ∀ c ∈ componentsFrom index lines, index < c.lineNumber := by
  induction lines generalizing index with
  | nil => exact fun c hc => absurd hc List.not_mem_nil
  | cons line rest ih =>
    intro c hc
    rcases List.mem_append.mp hc with hc | hc
    · obtain ⟨_, -, rfl⟩ := Option.map_eq_some_iff.mp (Option.mem_toList.mp hc)
      exact Nat.lt_succ_self index
    · exact (Nat.lt_succ_self index).trans (ih c hc)

/-- A first entry that the rest of the other list does not have. -/
theorem perm_toList_append_iff {α : Type} {a b : Option α} {l m : List α}
    (ha : ∀ c, a = some c → c ∉ m) (hb : ∀ c, b = some c → c ∉ l) :
    (a.toList ++ l).Perm (b.toList ++ m) ↔ a = b ∧ l.Perm m := by
  constructor
  · intro h
    have heq : a = b := by
      cases ha' : a with
      | some c =>
        have hmem : c ∈ b.toList ++ m :=
          h.subset (List.mem_append_left _ (Option.mem_toList.mpr ha'))
        rcases List.mem_append.mp hmem with hmem | hmem
        · exact (Option.mem_toList.mp hmem).symm
        · exact absurd hmem (ha c ha')
      | none =>
        cases hb' : b with
        | none => rfl
        | some c =>
          have hmem : c ∈ a.toList ++ l :=
            h.symm.subset (List.mem_append_left _ (Option.mem_toList.mpr hb'))
          rw [ha'] at hmem
          exact absurd hmem (hb c hb')
    rw [heq] at h
    exact ⟨heq, (List.perm_append_left_iff _).mp h⟩
  · rintro ⟨rfl, h⟩
    exact h.append_left _

/-- The parser finds the components exactly if it takes each line for what it is. -/
theorem foundFrom_perm_iff (above : List JsString) (index : Nat) (lines : List Line) :
    (foundFrom above index (lines.map Line.text)).Perm (componentsFrom index lines) ↔
      ∀ before line below, lines = before ++ line :: below →
        found (above ++ before.map Line.text) line.text = line.component? := by
  induction lines generalizing above index with
  | nil =>
    refine iff_of_true .nil ?_
    intro before line below h
    simp at h
  | cons line rest ih =>
    have hfirst := Nat.lt_irrefl (index + 1)
    rw [List.map_cons, foundFrom, componentsFrom, perm_toList_append_iff,
      (Option.map_injective (componentAt_injective index)).eq_iff, ih]
    · constructor
      · rintro ⟨hline, hrest⟩ before line' below h
        cases before with
        | nil =>
          obtain ⟨rfl, rfl⟩ := List.cons.inj h
          simpa using hline
        | cons line before =>
          obtain ⟨rfl, rfl⟩ := List.cons.inj h
          simpa using hrest before line' below rfl
      · intro h
        refine ⟨by simpa using h [] line rest rfl, ?_⟩
        intro before line' below heq
        simpa using h (line :: before) line' below (by rw [heq]; rfl)
    · intro c hc hmem
      obtain ⟨_, -, rfl⟩ := Option.map_eq_some_iff.mp hc
      exact hfirst (lt_lineNumber_componentsFrom _ hmem)
    · intro c hc hmem
      obtain ⟨_, -, rfl⟩ := Option.map_eq_some_iff.mp hc
      exact hfirst (lt_lineNumber_foundFrom _ hmem)

/-! ### Configs -/

/-- A text that is indented by two columns or more. -/
theorem le_indentOf_of_begins {n : Nat} {text : JsString}
    (h : List.replicate n (unit ' ') <+: text) : n ≤ indentOf text := by
  obtain ⟨rest, rfl⟩ := h
  have hstart : JsString.trimStart (List.replicate n (unit ' ') ++ rest)
      = JsString.trimStart rest := by
    refine List.dropWhile_append_of_pos ?_
    intro u hu
    rw [List.eq_of_mem_replicate hu]
    exact isSpace_space
  have hle : (JsString.trimStart rest).length ≤ rest.length := (List.dropWhile_suffix _).length_le
  rw [indentOf, hstart, List.length_append, List.length_replicate]
  omega

/-- A header is no blank line, no comment and no item of a sequence. -/
theorem not_skipped_of_header {text : JsString} (h : isHeader text = true) :
    isSkipped text = false ∧ text.trim.startsWith '-' = false := by
  simp only [isHeader, List.any_cons, List.any_nil, Bool.or_false, Bool.or_eq_true,
    decide_eq_true_eq] at h
  rcases h with h | h | h | h | h | h
  all_goals
    rw [isSkipped, h]
    decide

/-- A header stands in the first column, or two columns to the right or more. -/
theorem indentOf_header {line : Line} (h : isHeader line.text = true) :
    indentOf line.text = 0 ∨ 2 ≤ indentOf line.text := by
  cases line with
  | «section» key lineEnd => exact Or.inl (indentOf_line key 0 lineEnd)
  | component kind key lineEnd => exact Or.inr (indentOf_line key 2 lineEnd).ge
  | inner line =>
    obtain ⟨hskipped, hdash⟩ := not_skipped_of_header h
    rcases line.inner with hinner | hinner | hinner
    · exact absurd (hskipped.symm.trans hinner) Bool.false_ne_true
    · exact absurd (hdash.symm.trans hinner) Bool.false_ne_true
    · exact Or.inr (le_indentOf_of_begins hinner)

theorem sectionAt_lines {above : List Line} {kind : Kind} {indent : Nat}
    (h : sectionAt (above.map Line.text) = some (kind, indent)) : indent = 0 ∨ 2 ≤ indent := by
  obtain ⟨header, hlast, hpair⟩ := Option.bind_eq_some_iff.mp h
  obtain ⟨_, -, heq⟩ := Option.map_eq_some_iff.mp hpair
  obtain ⟨hmem, hheader⟩ := List.mem_filter.mp (List.mem_of_getLast? hlast)
  obtain ⟨line, -, rfl⟩ := List.mem_map.mp hmem
  rw [← (Prod.mk.inj heq).2]
  exact indentOf_header hheader

/-- What is found of a line that is no header, below a header for components. -/
theorem found_eq_some_iff (above : List JsString) (line : JsString) (kind : Kind)
    (name : JsString) :
    found above line = some (kind, name) ↔ isHeader line = false ∧ bareKey line = some name ∧
      ∃ indent, sectionAt above = some (kind, indent) ∧ indent < indentOf line ∧
        indentOf line ≤ indent + 4 := by
  rw [found]
  by_cases hheader : isHeader line = true
  · simp [hheader]
  · rw [if_neg hheader, Option.bind_eq_some_iff]
    rw [Bool.not_eq_true] at hheader
    constructor
    · rintro ⟨⟨kind', indent⟩, hsection, hfound⟩
      split at hfound
      · rename_i hnear
        obtain ⟨name', hname, hpair⟩ := Option.map_eq_some_iff.mp hfound
        cases hpair
        exact ⟨hheader, hname, indent, hsection, hnear⟩
      · cases hfound
    · rintro ⟨-, hname, indent, hsection, hnear⟩
      refine ⟨(kind, indent), hsection, ?_⟩
      rw [if_pos hnear, hname]
      rfl

/-- The parser takes a line for what it is exactly if the line is clear. -/
theorem found_eq_component_iff (above : List Line) (line : Line) :
    found (above.map Line.text) line.text = line.component? ↔
      line.Clear (above.map Line.text) := by
  cases line with
  | «section» key lineEnd =>
    refine iff_of_true ?_ trivial
    show found _ _ = none
    -- Nothing is found in the first column.
    refine Option.eq_none_iff_forall_ne_some.mpr ?_
    rintro ⟨kind, name⟩ hfound
    obtain ⟨-, -, indent, -, hlt, -⟩ := (found_eq_some_iff _ _ _ _).mp hfound
    have hindent : indentOf (Line.section key lineEnd).text = 0 := indentOf_line key 0 lineEnd
    omega
  | component kind key lineEnd =>
    show found _ (key.line 2 lineEnd) = some (kind, key.name) ↔ key.Bare lineEnd ∧ _
    rw [found_eq_some_iff, bareKey_line_iff, indentOf_line]
    constructor
    · rintro ⟨hheader, ⟨hplain, hblank, hdash, hvalue⟩, indent, hsection, hlt, -⟩
      have hindent : indent = 0 := by
        have hcolumn := sectionAt_lines hsection
        omega
      exact ⟨⟨hplain, hblank, hdash, hheader, hvalue⟩, hindent ▸ hsection⟩
    · rintro ⟨hbare, hsection⟩
      exact ⟨hbare.noHeader, ⟨hbare.plain, hbare.noBlank, hbare.noDash, hbare.noValue⟩, 0,
        hsection, by omega, by omega⟩
  | inner line =>
    show found _ line.text = none ↔ ∀ kind indent, _
    constructor
    · intro hnone kind indent hsection hlt hle
      by_contra hkey
      rw [not_or, Bool.not_eq_true] at hkey
      obtain ⟨name, hname⟩ := Option.ne_none_iff_exists'.mp hkey.2
      have hfound := (found_eq_some_iff _ _ kind name).mpr
        ⟨hkey.1, hname, indent, hsection, hlt, hle⟩
      rw [hnone] at hfound
      cases hfound
    · intro hclear
      refine Option.eq_none_iff_forall_ne_some.mpr ?_
      rintro ⟨kind, name⟩ hfound
      obtain ⟨hheader, hname, indent, hsection, hlt, hle⟩ := (found_eq_some_iff _ _ _ _).mp hfound
      rcases hclear kind indent hsection hlt hle with hline | hline
      · exact absurd (hheader.symm.trans hline) Bool.false_ne_true
      · rw [hname] at hline
        cases hline

/-- No line has a line break. -/
theorem Line.break_notMem (line : Line) : unit '\n' ∉ line.text := by
  have hkey : ∀ (key : Spelling) (n : Nat) (lineEnd : LineEnd),
      unit '\n' ∉ key.line n lineEnd := by
    intro key n lineEnd hmem
    have honeLine := key.oneLine
    simp only [Spelling.line, List.mem_append, List.mem_cons] at hmem honeLine
    rcases hmem with hmem | hmem | hmem | hmem | hmem
    · exact absurd (List.eq_of_mem_replicate hmem) (by decide)
    · exact honeLine (Or.inl hmem)
    · exact honeLine (Or.inr hmem)
    · exact absurd hmem (by decide)
    · exact lineEnd.oneLine hmem
  cases line with
  | «section» key lineEnd => exact hkey key 0 lineEnd
  | component kind key lineEnd => exact hkey key 2 lineEnd
  | inner line => exact line.oneLine

/-- The text of a config is read back as its lines, and an empty one as a blank line. -/
theorem parse_text (config : BlockConfig) :
    parseYamlComponents config.text = foundFrom [] 0 (config.lines.map Line.text) := by
  rw [parseYamlComponents_eq]
  by_cases hlines : config.lines = []
  · rw [BlockConfig.text, hlines]
    decide
  · have hsplit : config.text.lines = config.lines.map Line.text := by
      refine List.splitOn_intercalate _ ?_ (by simpa using hlines)
      intro text htext
      obtain ⟨line, -, rfl⟩ := List.mem_map.mp htext
      exact line.break_notMem
    rw [hsplit]

/-- For every config in block style: the parser returns exactly the components of the sections if
and only if all lines are clear. -/
theorem exact_iff (config : BlockConfig) : config.Exact ↔ config.Clear := by
  rw [BlockConfig.Exact, parse_text, BlockConfig.components, foundFrom_perm_iff]
  refine forall_congr' fun above => forall_congr' fun line => forall_congr' fun below => ?_
  rw [List.nil_append, found_eq_component_iff]

/-! ### A setting that is taken for a component -/

/-- A key without quotes. -/
def plainKey (text : JsString) (ne_nil : text ≠ []) (trimmed : text.trim = text)
    (oneLine : unit '\n' ∉ text) : Spelling where
  text
  name := text
  ne_nil
  trimmed
  blank := fun _ hu => absurd hu List.not_mem_nil
  oneLine := by rwa [List.append_nil]
  shorter := Or.inl rfl

theorem break_notMem_nil : unit '\n' ∉ ([] : JsString) := List.not_mem_nil

/-- The config

    receivers:
      otlp:
        protocols:
          grpc:
-/
def protocolsConfig : BlockConfig where
  preamble := []
  sections := [
    .components .receiver (plainKey (ascii "receivers") (by decide) (by decide) (by decide)) rfl
      ⟨[], break_notMem_nil⟩ [] [{
        key := plainKey (ascii "otlp") (by decide) (by decide) (by decide)
        lineEnd := ⟨[], break_notMem_nil⟩
        body := [
          ⟨ascii "    protocols:", by decide, Or.inr (Or.inr ⟨_, rfl⟩)⟩,
          ⟨ascii "      grpc:", by decide, Or.inr (Or.inr ⟨_, rfl⟩)⟩] }]]

/-- The protocols are taken for a second receiver. -/
theorem protocols_found :
    protocolsConfig.text = ascii "receivers:\n  otlp:\n    protocols:\n      grpc:" ∧
    parseYamlComponents protocolsConfig.text
      = [⟨ascii "otlp", .receiver, 2⟩, ⟨ascii "protocols", .receiver, 3⟩] ∧
    ¬ protocolsConfig.Exact := by
  have hparsed : parseYamlComponents protocolsConfig.text
      = [⟨ascii "otlp", .receiver, 2⟩, ⟨ascii "protocols", .receiver, 3⟩] := by decide
  refine ⟨by decide, hparsed, ?_⟩
  intro hexact
  rw [BlockConfig.Exact, hparsed] at hexact
  exact absurd hexact.length_eq (by decide)

end OtelHive.Ui
