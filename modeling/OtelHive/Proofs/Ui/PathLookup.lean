import OtelHive.Ui.BlockMapping

/-!
# `OtelHive.Proofs.Ui.PathLookup`: which key paths `findYamlPosition` finds

`findKey` looks for the keys of a path one after the other. It does not look where the value of an
entry ends: a key that it looks for can be inside the value of an earlier entry. `Clear` says that
this does not happen along a path.

`findKey_of_notMem` and `findKey_of_clear` follow the scan over a mapping, and `clear_of_found`
reads back from the lines that it finds that nothing is in the way. `finds_iff` is the result for
documents.
-/

set_option autoImplicit false

namespace OtelHive.Ui

open JsString (unit ascii)

/-! ### Lines -/

theorem isSpace_space : JsString.isSpace (unit ' ') = true := by decide

theorem isSpace_colon : JsString.isSpace (unit ':') = false := by decide

/-- The first unit of a text without white space around it. -/
theorem head_not_space {s : JsString} (hne : s ≠ []) (htrim : s.trim = s) :
    ∃ u rest, s = u :: rest ∧ JsString.isSpace u = false := by
  cases s with
  | nil => exact absurd rfl hne
  | cons u rest =>
    refine ⟨u, rest, rfl, ?_⟩
    -- Trimming would drop it.
    by_contra hspace
    rw [Bool.not_eq_false] at hspace
    have hlength := congrArg List.length htrim
    unfold JsString.trim JsString.trimStart at hlength
    rw [List.dropWhile_cons_of_pos hspace] at hlength
    have hle : ((rest.dropWhile JsString.isSpace).rdropWhile JsString.isSpace).length
        ≤ rest.length :=
      ((List.rdropWhile_prefix _ _).length_le).trans (List.dropWhile_suffix _).length_le
    rw [List.length_cons] at hlength
    omega

/-- The first unit of a key is not white space. -/
theorem Key.head_not_space (key : Key) :
    ∃ u rest, key.text = u :: rest ∧ JsString.isSpace u = false ∧ u ≠ unit '#' := by
  obtain ⟨u, rest, htext, hspace⟩ := OtelHive.Ui.head_not_space key.ne_nil key.trimmed
  refine ⟨u, rest, htext, hspace, ?_⟩
  rintro rfl
  exact key.plain (unit '#') (by rw [htext]; exact List.mem_cons_self) (by simp)

theorem rdropWhile_colon (a b : JsString) :
    (a ++ unit ':' :: b).rdropWhile JsString.isSpace
      = a ++ unit ':' :: b.rdropWhile JsString.isSpace := by
  unfold List.rdropWhile
  rw [List.reverse_append, List.reverse_cons, List.append_assoc, List.singleton_append,
    List.dropWhile_append]
  split
  · rename_i hempty
    rw [List.isEmpty_iff] at hempty
    rw [hempty, List.dropWhile_cons_of_neg (by rw [isSpace_colon]; simp)]
    simp
  · simp

section KeyLine

variable (n : Nat) (key : Key) (lineEnd : LineEnd)

theorem trimStart_keyLine :
    (Mapping.keyLine n key lineEnd).trimStart = key.text ++ unit ':' :: lineEnd.text := by
  obtain ⟨u, rest, htext, hspace, -⟩ := key.head_not_space
  unfold Mapping.keyLine JsString.trimStart
  rw [List.dropWhile_append_of_pos, htext, List.cons_append, List.dropWhile_cons_of_neg]
  · rw [hspace]
    simp
  · intro a ha
    rw [List.eq_of_mem_replicate ha]
    exact isSpace_space

theorem trim_keyLine : (Mapping.keyLine n key lineEnd).trim
    = key.text ++ unit ':' :: lineEnd.text.rdropWhile JsString.isSpace := by
  unfold JsString.trim
  rw [trimStart_keyLine, rdropWhile_colon]

theorem indentOf_keyLine : indentOf (Mapping.keyLine n key lineEnd) = n := by
  unfold indentOf
  rw [trimStart_keyLine]
  unfold Mapping.keyLine
  rw [List.length_append, List.length_replicate]
  omega

theorem isSkipped_keyLine : isSkipped (Mapping.keyLine n key lineEnd) = false := by
  obtain ⟨u, rest, htext, -, hcomment⟩ := key.head_not_space
  unfold isSkipped
  rw [trim_keyLine, htext]
  simp [JsString.startsWith, hcomment]

theorem matchKey_keyLine : matchKey (Mapping.keyLine n key lineEnd).trim = some key.text := by
  have hkey : (key.text ++ unit ':' :: lineEnd.text.rdropWhile JsString.isSpace).takeWhile
      (fun u => !(u ∈ [unit ':', unit '#', unit '[', unit ']'])) = key.text := by
    rw [List.takeWhile_append_of_pos, List.takeWhile_cons_of_neg (by simp), List.append_nil]
    intro u hu
    have hplain := key.plain u hu
    simp only [List.mem_cons, List.not_mem_nil, or_false, not_or] at hplain
    simp [hplain]
  unfold matchKey
  dsimp only
  rw [trim_keyLine, hkey, List.drop_left, if_pos ⟨key.ne_nil, by simp [JsString.startsWith]⟩]

end KeyLine

/-! ### The scan -/

@[simp] theorem Mapping.lineOf_nil (m : Mapping) : m.lineOf [] = none := by
  cases m <;> rfl

@[simp] theorem Mapping.clear_nil (m : Mapping) : m.Clear [] := by
  cases m <;> exact trivial

theorem Mapping.length_lines (m : Mapping) (n : Nat) : (m.lines n).length = m.height := by
  induction m generalizing n with
  | nil => rfl
  | cons filler key lineEnd deeper value siblings ihValue ihSiblings =>
    rw [lines, height, List.length_append, List.length_map, List.length_cons, List.length_append,
      ihValue, ihSiblings]
    omega

/-- The line of a path is the line of its last key. -/
theorem Mapping.getElem?_lineOf {m : Mapping} {keys : List JsString} {l : Nat}
    (hl : m.lineOf keys = some l) (n : Nat) :
    ∃ indent key lineEnd, keys.getLast? = some key.text ∧
      (m.lines n)[l]? = some (keyLine indent key lineEnd) := by
  induction m generalizing keys l n with
  | nil => cases keys <;> cases hl
  | cons filler key lineEnd deeper value siblings ihValue ihSiblings =>
    cases keys with
    | nil => cases hl
    | cons k keys =>
      -- The lines after that of the first key.
      have hafter : ∀ i, ((cons filler key lineEnd deeper value siblings).lines n)[
          filler.length + 1 + i]?
          = (value.lines (n + deeper + 1) ++ siblings.lines n)[i]? := by
        intro i
        rw [lines, List.getElem?_append_right (by simp; omega), List.length_map,
          show filler.length + 1 + i - filler.length = i + 1 by omega, List.getElem?_cons_succ]
      rw [lineOf] at hl
      split at hl
      · rename_i hkey
        split at hl
        · rename_i hlast
          cases hl
          refine ⟨n, key, lineEnd, by rw [hlast, hkey]; rfl, ?_⟩
          rw [lines, List.getElem?_append_right (by simp), List.length_map, Nat.sub_self]
          rfl
        · obtain ⟨l', hl', rfl⟩ := Option.map_eq_some_iff.mp hl
          obtain ⟨indent, key', lineEnd', hkey', hline⟩ := ihValue hl' (n + deeper + 1)
          refine ⟨indent, key', lineEnd', ?_, ?_⟩
          · rw [List.getLast?_cons, hkey', Option.getD_some]
          · have hlt := (List.getElem?_eq_some_iff.mp hline).1
            rw [hafter, List.getElem?_append_left hlt]
            exact hline
      · obtain ⟨l', hl', rfl⟩ := Option.map_eq_some_iff.mp hl
        obtain ⟨indent, key', lineEnd', hkey', hline⟩ := ihSiblings hl' n
        refine ⟨indent, key', lineEnd', hkey', ?_⟩
        rw [show filler.length + (1 + value.height) + l' = filler.length + 1 + (value.height + l')
          by omega, hafter, List.getElem?_append_right (by rw [length_lines]; omega), length_lines,
          Nat.add_sub_cancel_left]
        exact hline

/-- What is in the way of a prefix is in the way of the path. -/
theorem Mapping.Clear.initial {m : Mapping} {keys keys' : List JsString} (h : m.Clear keys)
    (hpre : keys' <+: keys) : m.Clear keys' := by
  induction m generalizing keys keys' with
  | nil => cases keys' <;> exact trivial
  | cons filler key lineEnd deeper value siblings ihValue ihSiblings =>
    cases keys' with
    | nil => exact trivial
    | cons k keys' =>
      obtain ⟨keys, rfl⟩ := hpre
      rw [List.cons_append, Mapping.Clear] at h
      rw [Mapping.Clear]
      by_cases hkey : key.text = k
      · rw [if_pos hkey] at h ⊢
        exact ihValue h (List.prefix_append keys' keys)
      · rw [if_neg hkey] at h ⊢
        exact ⟨h.1, ihSiblings h.2 (List.prefix_append (k :: keys') keys)⟩

section Scan

variable (path : List JsString)

theorem findKey_filler (filler : List Filler) (i : Nat) (tail keys : List JsString)
    (currentIndent : Nat) :
    findKey path i (filler.map Filler.text ++ tail) keys currentIndent
      = findKey path (i + filler.length) tail keys currentIndent := by
  induction filler generalizing i with
  | nil => rfl
  | cons line filler ih =>
    rw [List.map_cons, List.cons_append, findKey, if_pos line.skipped, ih, List.length_cons]
    congr 1
    omega

/-- The line of a key, at no less than the remembered indentation. -/
theorem findKey_keyLine {n currentIndent : Nat} (h : currentIndent ≤ n) (key : Key)
    (lineEnd : LineEnd) (i : Nat) (tail : List JsString) (k : JsString) (keys : List JsString) :
    findKey path i (Mapping.keyLine n key lineEnd :: tail) (k :: keys) currentIndent
      = if key.text = k then
          if keys = [] then some ⟨i, Mapping.keyLine n key lineEnd, n, tail⟩
          else findKey path (i + 1) tail keys n
        else findKey path (i + 1) tail (k :: keys) currentIndent := by
  rw [findKey, isSkipped_keyLine, if_neg Bool.false_ne_true]
  dsimp only
  rw [matchKey_keyLine, indentOf_keyLine, Option.map_some, key.trimmed, List.head?_cons,
    List.tail_cons]
  by_cases hkey : key.text = k
  · rw [if_pos ⟨List.cons_ne_nil k keys, by rw [hkey]⟩, if_pos hkey]
  · rw [if_neg (by simp [hkey]), if_neg hkey, if_neg (by omega)]

/-- The first entry of a mapping: its key is the one to find, or the scan goes on to its value. -/
theorem findKey_cons {n currentIndent : Nat} (h : currentIndent ≤ n) (filler : List Filler)
    (key : Key) (lineEnd : LineEnd) (deeper : Nat) (value siblings : Mapping) (i : Nat)
    (tail : List JsString) (k : JsString) (keys : List JsString) :
    findKey path i ((Mapping.cons filler key lineEnd deeper value siblings).lines n ++ tail)
        (k :: keys) currentIndent
      = if key.text = k then
          if keys = [] then
            some ⟨i + filler.length, Mapping.keyLine n key lineEnd, n,
              value.lines (n + deeper + 1) ++ (siblings.lines n ++ tail)⟩
          else findKey path (i + filler.length + 1)
            (value.lines (n + deeper + 1) ++ (siblings.lines n ++ tail)) keys n
        else findKey path (i + filler.length + 1)
          (value.lines (n + deeper + 1) ++ (siblings.lines n ++ tail)) (k :: keys)
            currentIndent := by
  rw [Mapping.lines, List.append_assoc, List.cons_append, List.append_assoc, findKey_filler,
    findKey_keyLine path h]

/-- A key that does not occur in a mapping is not found there. -/
theorem findKey_of_notMem {m : Mapping} {k : JsString} (hk : k ∉ m.keys) (keys : List JsString)
    {n currentIndent : Nat} (h : currentIndent ≤ n) (i : Nat) (tail : List JsString) :
    findKey path i (m.lines n ++ tail) (k :: keys) currentIndent
      = findKey path (i + m.height) tail (k :: keys) currentIndent := by
  induction m generalizing n i tail with
  | nil => rfl
  | cons filler key lineEnd deeper value siblings ihValue ihSiblings =>
    rw [Mapping.keys, List.mem_cons, List.mem_append, not_or, not_or] at hk
    obtain ⟨hkey, hvalue, hsiblings⟩ := hk
    -- No line is indented less than the remembered one, so the scan never starts again.
    rw [findKey_cons path h, if_neg (Ne.symm hkey), ihValue hvalue (by omega),
      ihSiblings hsiblings h, Mapping.height]
    congr 1
    omega

/-- The last key of a path is found at its first occurrence, at whatever level. -/
theorem findKey_of_mem {m : Mapping} {k : JsString} (hk : k ∈ m.keys) {n currentIndent : Nat}
    (h : currentIndent ≤ n) (i : Nat) (tail : List JsString) :
    ∃ l < m.height,
      (findKey path i (m.lines n ++ tail) [k] currentIndent).map KeyLine.index = some (i + l) := by
  induction m generalizing n i tail with
  | nil => cases hk
  | cons filler key lineEnd deeper value siblings ihValue ihSiblings =>
    rw [findKey_cons path h, Mapping.height]
    by_cases hkey : key.text = k
    · rw [if_pos hkey, if_pos rfl]
      exact ⟨filler.length, by omega, rfl⟩
    · rw [if_neg hkey]
      by_cases hvalue : k ∈ value.keys
      · obtain ⟨l, hl, hfound⟩ := ihValue hvalue (show currentIndent ≤ n + deeper + 1 by omega)
          (i + filler.length + 1) (siblings.lines n ++ tail)
        refine ⟨filler.length + 1 + l, by omega, ?_⟩
        rw [hfound]
        congr 1
        omega
      · have hsiblings : k ∈ siblings.keys := by
          rw [Mapping.keys, List.mem_cons, List.mem_append] at hk
          exact (hk.resolve_left (Ne.symm hkey)).resolve_left hvalue
        obtain ⟨l, hl, hfound⟩ := ihSiblings hsiblings h
          (i + filler.length + 1 + value.height) tail
        refine ⟨filler.length + (1 + value.height) + l, by omega, ?_⟩
        rw [findKey_of_notMem path hvalue [] (by omega), hfound]
        congr 1
        omega

/-- A path with nothing in its way is found. -/
theorem findKey_of_clear {m : Mapping} {keys : List JsString} {l : Nat}
    (hl : m.lineOf keys = some l) (hclear : m.Clear keys) {n currentIndent : Nat}
    (h : currentIndent ≤ n) (i : Nat) (tail : List JsString) :
    (findKey path i (m.lines n ++ tail) keys currentIndent).map KeyLine.index = some (i + l) := by
  induction m generalizing keys l n currentIndent i tail with
  | nil =>
    cases keys <;> cases hl
  | cons filler key lineEnd deeper value siblings ihValue ihSiblings =>
    cases keys with
    | nil => cases hl
    | cons k keys =>
      rw [findKey_cons path h]
      rw [Mapping.lineOf] at hl
      rw [Mapping.Clear] at hclear
      by_cases hkey : key.text = k
      · rw [if_pos hkey] at hl hclear ⊢
        by_cases hlast : keys = []
        · rw [if_pos hlast] at hl ⊢
          cases hl
          rfl
        · rw [if_neg hlast] at hl ⊢
          obtain ⟨l', hl', rfl⟩ := Option.map_eq_some_iff.mp hl
          -- The indentation of the key is remembered, and the value is deeper.
          rw [ihValue hl' hclear (show n ≤ n + deeper + 1 by omega)]
          congr 1
          omega
      · rw [if_neg hkey] at hl hclear ⊢
        obtain ⟨l', hl', rfl⟩ := Option.map_eq_some_iff.mp hl
        -- The scan passes the value, and comes to the other entries with the same keys.
        rw [findKey_of_notMem path hclear.1 keys (by omega), ihSiblings hl' hclear.2 h]
        congr 1
        omega

end Scan

/-- A path leads through the entries of its prefixes. -/
theorem exists_lineOf_initial {m : Mapping} {keys keys' : List JsString} {l : Nat}
    (hl : m.lineOf keys = some l) (hpre : keys' <+: keys) (hne : keys' ≠ []) :
    ∃ l', m.lineOf keys' = some l' := by
  induction m generalizing keys keys' l with
  | nil => cases keys <;> cases hl
  | cons filler key lineEnd deeper value siblings ihValue ihSiblings =>
    cases keys' with
    | nil => exact absurd rfl hne
    | cons k keys' =>
      obtain ⟨keys, rfl⟩ := hpre
      rw [List.cons_append, Mapping.lineOf] at hl
      rw [Mapping.lineOf]
      by_cases hkey : key.text = k
      · rw [if_pos hkey] at hl ⊢
        by_cases hlast : keys' = []
        · rw [if_pos hlast]
          exact ⟨_, rfl⟩
        · rw [if_neg (by simp [hlast])] at hl
          obtain ⟨l', hl', -⟩ := Option.map_eq_some_iff.mp hl
          obtain ⟨l'', hl''⟩ := ihValue hl' (List.prefix_append keys' keys) hlast
          rw [if_neg hlast, hl'']
          exact ⟨_, rfl⟩
      · rw [if_neg hkey] at hl ⊢
        obtain ⟨l', hl', -⟩ := Option.map_eq_some_iff.mp hl
        obtain ⟨l'', hl''⟩ := ihSiblings hl' (List.prefix_append (k :: keys') keys) hne
        rw [hl'']
        exact ⟨_, rfl⟩

/-! ### What is in the way -/

/-- From the mapping `m` on, the scan finds the path and its prefixes at their lines. `q` are the
keys that lead to the mapping. -/
def Found (q : List JsString) (i n : Nat) (m : Mapping) (tail : List JsString)
    (currentIndent : Nat) (keys : List JsString) : Prop :=
  ∀ keys' l, keys' <+: keys → m.lineOf keys' = some l →
    (findKey (q ++ keys') i (m.lines n ++ tail) keys' currentIndent).map KeyLine.index
      = some (i + l)

section Found

variable {filler : List Filler} {key : Key} {lineEnd : LineEnd} {deeper : Nat}
  {value siblings : Mapping} {q keys tail : List JsString} {k : JsString} {i n currentIndent : Nat}

/-- After the first key, the rest of the path is found in the value. -/
theorem Found.inValue (h : currentIndent ≤ n) (hkey : key.text = k)
    (hfound : Found q i n (.cons filler key lineEnd deeper value siblings) tail currentIndent
      (k :: keys)) :
    Found (q ++ [k]) (i + filler.length + 1) (n + deeper + 1) value
      (siblings.lines n ++ tail) n keys := by
  intro keys' l hpre hl
  have hne : keys' ≠ [] := by
    rintro rfl
    rw [Mapping.lineOf_nil] at hl
    cases hl
  have hline : (Mapping.cons filler key lineEnd deeper value siblings).lineOf (k :: keys')
      = some (filler.length + 1 + l) := by
    rw [Mapping.lineOf, if_pos hkey, if_neg hne, hl]
    rfl
  have hindex := hfound (k :: keys') _ (List.cons_prefix_cons.mpr ⟨rfl, hpre⟩) hline
  rw [findKey_cons _ h, if_pos hkey, if_neg hne] at hindex
  rw [List.append_assoc, List.singleton_append, hindex]
  congr 1
  omega

/-- The line of an entry after the first one. -/
theorem Mapping.lineOf_siblings (hkey : key.text ≠ k) {l : Nat}
    (hl : siblings.lineOf (k :: keys) = some l) :
    (Mapping.cons filler key lineEnd deeper value siblings).lineOf (k :: keys)
      = some (filler.length + (1 + value.height) + l) := by
  rw [lineOf, if_neg hkey, hl]
  rfl

/-- The key alone is found after the value, so it does not occur in the value. -/
theorem Found.notMem (h : currentIndent ≤ n) (hkey : key.text ≠ k)
    (hfound : Found q i n (.cons filler key lineEnd deeper value siblings) tail currentIndent
      (k :: keys)) {l : Nat} (hl : siblings.lineOf (k :: keys) = some l) : k ∉ value.keys := by
  intro hmem
  have hpre : [k] <+: k :: keys := List.prefix_append [k] keys
  obtain ⟨l₁, hl₁⟩ := exists_lineOf_initial hl hpre (List.cons_ne_nil k [])
  obtain ⟨l₂, hlt, hinner⟩ := findKey_of_mem (q ++ [k]) hmem
    (show currentIndent ≤ n + deeper + 1 by omega) (i + filler.length + 1)
    (siblings.lines n ++ tail)
  have houter := hfound [k] _ hpre (Mapping.lineOf_siblings hkey hl₁)
  rw [findKey_cons _ h, if_neg hkey, hinner] at houter
  have hindex := Option.some.inj houter
  omega

/-- A path of a later entry is found after the value. -/
theorem Found.afterValue (h : currentIndent ≤ n) (hkey : key.text ≠ k) (hvalue : k ∉ value.keys)
    (hfound : Found q i n (.cons filler key lineEnd deeper value siblings) tail currentIndent
      (k :: keys)) :
    Found q (i + filler.length + 1 + value.height) n siblings tail currentIndent (k :: keys) := by
  intro keys' l hpre hl
  cases keys' with
  | nil =>
    rw [Mapping.lineOf_nil] at hl
    cases hl
  | cons k' keys' =>
    obtain ⟨rfl, -⟩ := List.cons_prefix_cons.mp hpre
    have hindex := hfound (k' :: keys') _ hpre (Mapping.lineOf_siblings hkey hl)
    rw [findKey_cons _ h, if_neg hkey, findKey_of_notMem _ hvalue keys' (by omega)] at hindex
    rw [hindex]
    congr 1
    omega

end Found

/-- If the path and its prefixes are found at their lines, then nothing is in the way. -/
theorem clear_of_found {m : Mapping} {q keys tail : List JsString} {i n currentIndent l : Nat}
    (hl : m.lineOf keys = some l) (h : currentIndent ≤ n)
    (hfound : Found q i n m tail currentIndent keys) : m.Clear keys := by
  induction m generalizing q keys tail i n currentIndent l with
  | nil => cases keys <;> exact trivial
  | cons filler key lineEnd deeper value siblings ihValue ihSiblings =>
    cases keys with
    | nil => exact trivial
    | cons k keys =>
      rw [Mapping.lineOf] at hl
      rw [Mapping.Clear]
      by_cases hkey : key.text = k
      · rw [if_pos hkey] at hl ⊢
        by_cases hlast : keys = []
        · rw [hlast]
          exact value.clear_nil
        · rw [if_neg hlast] at hl
          obtain ⟨l', hl', -⟩ := Option.map_eq_some_iff.mp hl
          exact ihValue hl' (by omega) (hfound.inValue h hkey)
      · rw [if_neg hkey] at hl ⊢
        obtain ⟨l', hl', -⟩ := Option.map_eq_some_iff.mp hl
        have hvalue := hfound.notMem h hkey hl'
        exact ⟨hvalue, ihSiblings hl' h (hfound.afterValue h hkey hvalue)⟩

/-! ### Documents -/

/-- No line of a mapping has a line break. -/
theorem break_notMem_lines {m : Mapping} {n : Nat} : ∀ line ∈ m.lines n, unit '\n' ∉ line := by
  induction m generalizing n with
  | nil => exact fun line hline => absurd hline List.not_mem_nil
  | cons filler key lineEnd deeper value siblings ihValue ihSiblings =>
    intro line hline
    rw [Mapping.lines, List.mem_append, List.mem_cons, List.mem_append] at hline
    rcases hline with hline | rfl | hline | hline
    · obtain ⟨f, -, rfl⟩ := List.mem_map.mp hline
      exact f.oneLine
    · unfold Mapping.keyLine
      simp only [List.mem_append, List.mem_cons, not_or]
      refine ⟨?_, ?_, by decide, lineEnd.oneLine⟩
      · intro hmem
        exact absurd (List.eq_of_mem_replicate hmem) (by decide)
      · intro hmem
        exact key.plain _ hmem (by simp)
    · exact ihValue line hline
    · exact ihSiblings line hline

/-- A document with lines is read back as these lines. -/
theorem lines_text {doc : Document} (h : doc.lines ≠ []) : doc.text.lines = doc.lines := by
  refine List.splitOn_intercalate _ ?_ h
  intro line hline
  rcases List.mem_append.mp hline with hline | hline
  · exact break_notMem_lines line hline
  · obtain ⟨f, -, rfl⟩ := List.mem_map.mp hline
    exact f.oneLine

/-- The path leads to an entry of the document. -/
def Document.Present (doc : Document) (path : List JsString) : Prop :=
  ∃ l, doc.mapping.lineOf path = some l

/-- `findYamlPosition` returns the line of the entry at the path, counted from 1. -/
def Document.Finds (doc : Document) (regExp : RegExp) (path : List JsString) : Prop :=
  ∃ l position, doc.mapping.lineOf path = some l ∧
    findYamlPosition regExp doc.text path none = .ok (some position) ∧ position.line = l + 1

/-- An entry has a line in the document. -/
theorem lines_ne_nil {doc : Document} {path : List JsString} {l : Nat}
    (h : doc.mapping.lineOf path = some l) : doc.lines ≠ [] := by
  unfold Document.lines
  cases hmapping : doc.mapping with
  | nil =>
    rw [hmapping] at h
    cases path <;> cases h
  | cons filler key lineEnd deeper value siblings =>
    rw [Mapping.lines]
    simp

theorem Document.finds_iff_findKey {doc : Document} (regExp : RegExp) {path : List JsString}
    {l : Nat} (h : doc.mapping.lineOf path = some l) :
    doc.Finds regExp path ↔ (findKey path 0 doc.lines path 0).map KeyLine.index = some l := by
  unfold Document.Finds findYamlPosition
  rw [lines_text (lines_ne_nil h)]
  cases hkey : findKey path 0 doc.lines path 0 with
  | none => simp
  | some key =>
    rw [Option.map_some, Option.some.injEq]
    constructor
    · rintro ⟨l', position, hl', hposition, hline⟩
      rw [h] at hl'
      cases hl'
      cases hposition
      exact Nat.succ.inj hline
    · rintro rfl
      exact ⟨_, _, h, rfl, rfl⟩

/-- A path with nothing in its way is found. -/
theorem Document.finds_of_clear {doc : Document} (regExp : RegExp) {path : List JsString}
    (h : doc.Present path) (hclear : doc.mapping.Clear path) : doc.Finds regExp path := by
  obtain ⟨l, hl⟩ := h
  rw [finds_iff_findKey regExp hl]
  have hindex := findKey_of_clear path hl hclear (Nat.zero_le doc.indent) 0
    (doc.trailing.map Filler.text)
  rw [Nat.zero_add] at hindex
  exact hindex

/-- A path and its prefixes are all found exactly if nothing is in the way of the path. -/
theorem Document.finds_prefixes_iff (regExp : RegExp) {doc : Document} {path : List JsString}
    (h : doc.Present path) :
    (∀ path', path' <+: path → path' ≠ [] → doc.Finds regExp path') ↔
      doc.mapping.Clear path := by
  obtain ⟨l, hl⟩ := h
  constructor
  · intro hfinds
    have hfound : Found [] 0 doc.indent doc.mapping (doc.trailing.map Filler.text) 0 path := by
      intro path' l' hpre hl'
      have hne : path' ≠ [] := by
        rintro rfl
        rw [Mapping.lineOf_nil] at hl'
        cases hl'
      rw [Nat.zero_add]
      exact (finds_iff_findKey regExp hl').mp (hfinds path' hpre hne)
    exact clear_of_found hl (Nat.zero_le doc.indent) hfound
  · intro hclear path' hpre hne
    exact finds_of_clear regExp (exists_lineOf_initial hl hpre hne) (hclear.initial hpre)

/-- For every document: a path of it is found, together with its prefixes, exactly if nothing is in
its way, and all its paths are found exactly if nothing is in the way of any of them. -/
theorem finds_iff (regExp : RegExp) (doc : Document) :
    (∀ path, doc.Present path →
      ((∀ path', path' <+: path → path' ≠ [] → doc.Finds regExp path') ↔
        doc.mapping.Clear path)) ∧
    ((∀ path, doc.Present path → doc.Finds regExp path) ↔
      ∀ path, doc.Present path → doc.mapping.Clear path) := by
  refine ⟨fun path h => doc.finds_prefixes_iff regExp h, ?_⟩
  constructor
  · intro hfinds path h
    refine (doc.finds_prefixes_iff regExp h).mp ?_
    intro path' hpre hne
    obtain ⟨l, hl⟩ := h
    exact hfinds path' (exists_lineOf_initial hl hpre hne)
  · intro hclear path h
    exact doc.finds_of_clear regExp h (hclear path h)

/-! ### A key in the way -/

/-- A key of one letter. -/
def letterKey (u : UInt16) (hspace : JsString.isSpace u = false)
    (hplain : u ∉ [unit ':', unit '#', unit '[', unit ']', unit '\n']) : Key where
  text := [u]
  ne_nil := List.cons_ne_nil u []
  trimmed := by simp [JsString.trim, JsString.trimStart, List.rdropWhile, hspace]
  plain := by
    intro v hv
    rw [List.mem_singleton.mp hv]
    exact hplain

/-- The document

    x:
      a:
        b: 1
    a:
      b: 2
-/
def twiceDocument : Document where
  indent := 0
  mapping :=
    .cons [] (letterKey (unit 'x') rfl (by decide)) ⟨[], by decide⟩ 1
      (.cons [] (letterKey (unit 'a') rfl (by decide)) ⟨[], by decide⟩ 1
        (.cons [] (letterKey (unit 'b') rfl (by decide)) ⟨ascii " 1", by decide⟩ 0 .nil .nil)
        .nil)
      (.cons [] (letterKey (unit 'a') rfl (by decide)) ⟨[], by decide⟩ 1
        (.cons [] (letterKey (unit 'b') rfl (by decide)) ⟨ascii " 2", by decide⟩ 0 .nil .nil)
        .nil)
  trailing := []
  distinct := by
    simp only [Mapping.Distinct, Mapping.ownKeys]
    decide

/-- The path `a`, `b` ends on line 5, and the search returns line 3. -/
theorem earlier_key_found :
    (∀ regExp, twiceDocument.mapping.lineOf [ascii "a", ascii "b"] = some 4 ∧
      findYamlPosition regExp twiceDocument.text [ascii "a", ascii "b"] none
        = .ok (some ⟨3, 5, 3, 6⟩)) ∧
    ¬ ∀ regExp (doc : Document) path, doc.Present path → doc.Finds regExp path := by
  have hposition : ∀ regExp, findYamlPosition regExp twiceDocument.text [ascii "a", ascii "b"] none
      = .ok (some ⟨3, 5, 3, 6⟩) := fun _ => rfl
  refine ⟨fun regExp => ⟨rfl, hposition regExp⟩, ?_⟩
  intro hall
  obtain ⟨l, position, hl, hfound, hline⟩ :=
    hall (fun _ => none) twiceDocument [ascii "a", ascii "b"] ⟨4, rfl⟩
  rw [hposition] at hfound
  cases hfound
  cases hl
  cases hline

end OtelHive.Ui
