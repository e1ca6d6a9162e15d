import Mathlib.Data.List.Basic

/-!
# `OtelHive.Lib.Url`: request targets of a URL

A request target is the path and the query of a URL: the segments of the path and the pairs of
the query, decoded. `target` writes one, with every segment and every value escaped, and
`parseTarget` is what a client and a server together read of the text. `parseTarget_target`:
an escaped target reads back.

Text that is put into a URL unescaped can mean something else: `#` ends the target, `?` starts
the query, and `%` starts an escape (`parseTarget_append`).

The functions follow `net/url`: `pathEscape` and `queryEscape` are `url.PathEscape` and
`url.QueryEscape`, on bytes. The bytes with a meaning of their own are 37 (`%`), 47 (`/`),
63 (`?`), 35 (`#`), 38 (`&`), 61 (`=`), 59 (`;`) and 43 (`+`).
-/

set_option autoImplicit false

namespace OtelHive.Lib.Url

/-- The bytes of a string. -/
def utf8 (s : String) : List UInt8 := s.toUTF8.data.toList

/-! ### Escapes -/

/-- A hexadecimal digit in upper case. -/
def upperHex (n : Nat) : UInt8 := UInt8.ofNat (if n < 10 then 48 + n else 55 + n)

/-- The value of a hexadecimal digit. -/
def hexValue (c : UInt8) : Option Nat :=
  if 48 ≤ c ∧ c ≤ 57 then some (c.toNat - 48)
  else if 97 ≤ c ∧ c ≤ 102 then some (c.toNat - 87)
  else if 65 ≤ c ∧ c ≤ 70 then some (c.toNat - 55)
  else none

/-- `%XX`. -/
def escapeByte (c : UInt8) : List UInt8 := [37, upperHex (c.toNat / 16), upperHex (c.toNat % 16)]

/-- Escape the bytes that are not kept. -/
def escape (keep : UInt8 → Bool) (s : List UInt8) : List UInt8 :=
  s.flatMap fun c => if keep c then [c] else escapeByte c

/-- Decode the escapes. An incomplete one is an error. -/
def unescape : List UInt8 → Option (List UInt8)
  | [] => some []
  | c :: rest =>
    if c = 37 then
      match rest with
      | a :: b :: rest =>
        match hexValue a, hexValue b with
        | some x, some y => (unescape rest).map (UInt8.ofNat (x * 16 + y) :: ·)
        | _, _ => none
      | _ => none
    else (unescape rest).map (c :: ·)

/-- Letters, digits, and `-`, `_`, `.` and `~`. -/
def unreserved (c : UInt8) : Bool :=
  (97 ≤ c && c ≤ 122) || (65 ≤ c && c ≤ 90) || (48 ≤ c && c ≤ 57)
    || c == 45 || c == 95 || c == 46 || c == 126

/-- The bytes that `url.PathEscape` keeps: the unreserved ones, and `$`, `&`, `+`, `:`, `=` and
`@`. -/
def keptInPath (c : UInt8) : Bool :=
  unreserved c || c == 36 || c == 38 || c == 43 || c == 58 || c == 61 || c == 64

/-- `url.PathEscape`. -/
def pathEscape (s : List UInt8) : List UInt8 := escape keptInPath s

/-- `url.QueryEscape`: a space is written as `+`. -/
def queryEscape (s : List UInt8) : List UInt8 :=
  s.flatMap fun c => if c = 32 then [43] else if unreserved c then [c] else escapeByte c

/-- Decode a part of a query. -/
def queryUnescape (s : List UInt8) : Option (List UInt8) :=
  unescape (s.map fun c => if c = 43 then 32 else c)

/-! ### Targets -/

/-- A request target, decoded. -/
structure Target where
  segments : List (List UInt8)
  query : List (List UInt8 × List UInt8)
deriving DecidableEq

/-- `strings.Cut`: before the separator and after it. -/
def cut (sep : UInt8) (s : List UInt8) : List UInt8 × List UInt8 :=
  (s.takeWhile (· != sep), (s.dropWhile (· != sep)).tail)

/-- A control character. -/
def isControl (c : UInt8) : Bool := c < 32 || c == 127

/-- A pair of a query. Pairs with a semicolon or a broken escape are dropped. -/
def parsePair (s : List UInt8) : Option (List UInt8 × List UInt8) :=
  if s = [] ∨ 59 ∈ s then none
  else
    let (key, value) := cut 61 s
    match queryUnescape key, queryUnescape value with
    | some key, some value => some (key, value)
    | _, _ => none

/-- `url.ParseQuery`. -/
def parseQuery (s : List UInt8) : List (List UInt8 × List UInt8) :=
  (s.splitOn 38).filterMap parsePair

/-- Read the path and the query. -/
def parseSent (sent : List UInt8) : Option Target :=
  (((cut 63 sent).1.splitOn 47).tail.mapM unescape).map
    fun segments => { segments, query := parseQuery (cut 63 sent).2 }

/-- Read a URL from its path on. The fragment is checked but not sent. -/
def parseTarget (url : List UInt8) : Option Target :=
  if (cut 35 url).1.any isControl || (unescape (cut 35 url).2).isNone then none
  else parseSent (cut 35 url).1

/-- The path with the segments, each after a slash. -/
def pathOf (segments : List (List UInt8)) : List UInt8 :=
  segments.flatMap fun segment => 47 :: pathEscape segment

/-- The query with the pairs. -/
def queryOf (query : List (List UInt8 × List UInt8)) : List UInt8 :=
  [38].intercalate (query.map fun (key, value) => queryEscape key ++ 61 :: queryEscape value)

/-- The text of a target. -/
def target (segments : List (List UInt8)) (query : List (List UInt8 × List UInt8)) : List UInt8 :=
  pathOf segments ++ if query = [] then [] else 63 :: queryOf query

/-! ### Escapes read back -/

theorem unescape_cons {c : UInt8} (h : c ≠ 37) (rest : List UInt8) :
    unescape (c :: rest) = (unescape rest).map (c :: ·) := by
  rw [unescape.eq_def]
  exact if_neg h

theorem hexValue_upperHex {n : Nat} (h : n < 16) : hexValue (upperHex n) = some n := by
  revert n
  decide

/-- An escape reads back. -/
theorem unescape_escapeByte (c : UInt8) (rest : List UInt8) :
    unescape (escapeByte c ++ rest) = (unescape rest).map (c :: ·) := by
  have hc := c.toNat_lt
  have hbyte : c.toNat / 16 * 16 + c.toNat % 16 = c.toNat := by omega
  simp only [escapeByte, List.cons_append, List.nil_append, unescape, if_true]
  rw [hexValue_upperHex (by omega), hexValue_upperHex (by omega)]
  dsimp only
  rw [hbyte, UInt8.ofNat_toNat]

/-- Escaped text reads back, if the percent sign is escaped. -/
theorem unescape_escape {keep : UInt8 → Bool} (hkeep : keep 37 = false) (s : List UInt8) :
    unescape (escape keep s) = some s := by
  induction s with
  | nil => rfl
  | cons c s ih =>
    show unescape ((if keep c then [c] else escapeByte c) ++ escape keep s) = _
    by_cases hc : keep c = true
    · have hne : c ≠ 37 := by
        rintro rfl
        rw [hkeep] at hc
        cases hc
      rw [if_pos hc, List.singleton_append]
      rw [unescape_cons hne, ih]
      rfl
    · rw [if_neg hc, unescape_escapeByte, ih]
      rfl

/-- A byte of an escaped text is kept or part of an escape. -/
theorem mem_escape {keep : UInt8 → Bool} {s : List UInt8} {c : UInt8} (h : c ∈ escape keep s) :
    keep c = true ∨ c = 37 ∨ ∃ n, n < 16 ∧ c = upperHex n := by
  obtain ⟨x, _, hx⟩ := List.mem_flatMap.mp h
  have hlt := x.toNat_lt
  split at hx
  · rw [List.mem_singleton.mp hx]
    exact .inl (by assumption)
  · simp only [escapeByte, List.mem_cons, List.not_mem_nil, or_false] at hx
    rcases hx with rfl | rfl | rfl
    · exact .inr (.inl rfl)
    · exact .inr (.inr ⟨_, by omega, rfl⟩)
    · exact .inr (.inr ⟨_, by omega, rfl⟩)

theorem unescape_pathEscape (s : List UInt8) : unescape (pathEscape s) = some s :=
  unescape_escape (by decide) s

/-- A text without reserved bytes is its own escape. -/
theorem pathEscape_of_unreserved {s : List UInt8} (h : ∀ c ∈ s, keptInPath c = true) :
    pathEscape s = s := by
  induction s with
  | nil => rfl
  | cons c s ih =>
    show (if keptInPath c then [c] else escapeByte c) ++ pathEscape s = _
    rw [if_pos (h c List.mem_cons_self), ih fun x hx => h x (List.mem_cons_of_mem c hx)]
    rfl

/-- The hexadecimal digits are unreserved. -/
theorem unreserved_upperHex {n : Nat} (h : n < 16) : unreserved (upperHex n) = true := by
  revert n
  decide

/-- Before decoding, a `+` of the query is read as a space. -/
theorem map_queryEscape (s : List UInt8) :
    (queryEscape s).map (fun c => if c = 43 then 32 else c)
      = escape (fun c => c == 32 || unreserved c) s := by
  have hplus : ∀ c, unreserved c = true → c ≠ 43 := by
    rintro c hc rfl
    cases hc
  unfold queryEscape escape
  rw [List.map_flatMap]
  congr 1
  funext c
  have hlt := c.toNat_lt
  by_cases hspace : c = 32
  · subst hspace
    rfl
  · by_cases hkeep : unreserved c = true
    · simp [hspace, hkeep, hplus c hkeep]
    · have hhigh := hplus _ (unreserved_upperHex (n := c.toNat / 16) (by omega))
      have hlow := hplus _ (unreserved_upperHex (n := c.toNat % 16) (by omega))
      simp [hspace, hkeep, escapeByte, hhigh, hlow]

theorem queryUnescape_queryEscape (s : List UInt8) : queryUnescape (queryEscape s) = some s := by
  unfold queryUnescape
  rw [map_queryEscape]
  exact unescape_escape (by decide) s

/-! ### Targets read back -/

/-- A byte that ends a segment or the path, or that no URL may contain. -/
def isDelimiter (c : UInt8) : Bool := c == 47 || c == 63 || c == 35 || isControl c

/-- A property of all bytes, checked one by one. -/
theorem forall_byte {P : UInt8 → Prop} (h : ∀ n < 256, P (UInt8.ofNat n)) (c : UInt8) : P c := by
  have hc := h c.toNat c.toNat_lt
  rwa [UInt8.ofNat_toNat] at hc

theorem isDelimiter_of_kept : ∀ c, keptInPath c = true → isDelimiter c = false :=
  forall_byte (by decide +kernel)

/-- A byte of an escaped segment delimits nothing. -/
theorem isDelimiter_pathEscape {s : List UInt8} {c : UInt8} (h : c ∈ pathEscape s) :
    isDelimiter c = false := by
  rcases mem_escape h with hkept | rfl | ⟨n, hn, rfl⟩
  · exact isDelimiter_of_kept c hkept
  · rfl
  · exact isDelimiter_of_kept _ (by simp [keptInPath, unreserved_upperHex hn])

/-- A byte that ends a part of a query, or that no URL may contain. -/
def isQueryDelimiter (c : UInt8) : Bool := c == 38 || c == 61 || c == 59 || c == 35 || isControl c

theorem isQueryDelimiter_of_unreserved : ∀ c, unreserved c = true → isQueryDelimiter c = false :=
  forall_byte (by decide +kernel)

/-- A byte of an escaped part of a query delimits nothing. -/
theorem isQueryDelimiter_queryEscape {s : List UInt8} {c : UInt8} (h : c ∈ queryEscape s) :
    isQueryDelimiter c = false := by
  obtain ⟨x, _, hx⟩ := List.mem_flatMap.mp h
  have hlt := x.toNat_lt
  split at hx
  · rw [List.mem_singleton.mp hx]
    rfl
  · split at hx
    · rw [List.mem_singleton.mp hx]
      exact isQueryDelimiter_of_unreserved x (by assumption)
    · simp only [escapeByte, List.mem_cons, List.not_mem_nil, or_false] at hx
      rcases hx with rfl | rfl | rfl
      · rfl
      · exact isQueryDelimiter_of_unreserved _ (unreserved_upperHex (by omega))
      · exact isQueryDelimiter_of_unreserved _ (unreserved_upperHex (by omega))

/-- A cut passes over text without the separator. -/
theorem cut_append {sep : UInt8} {before : List UInt8} (h : sep ∉ before) (s : List UInt8) :
    cut sep (before ++ s) = (before ++ (cut sep s).1, (cut sep s).2) := by
  have hall : ∀ c ∈ before, (c != sep) = true := by
    intro c hc
    rw [bne_iff_ne]
    rintro rfl
    exact h hc
  unfold cut
  rw [List.takeWhile_append_of_pos hall, List.dropWhile_append_of_pos hall]

theorem cut_self (sep : UInt8) (s : List UInt8) : cut sep (sep :: s) = ([], s) := by
  simp [cut]

theorem cut_of_notMem {sep : UInt8} {s : List UInt8} (h : sep ∉ s) : cut sep s = (s, []) := by
  have hcut := cut_append h []
  rw [List.append_nil] at hcut
  rw [hcut]
  simp [cut]

/-- A byte of an escaped path is a slash or delimits nothing. -/
theorem mem_pathOf {segments : List (List UInt8)} {c : UInt8} (h : c ∈ pathOf segments) :
    c = 47 ∨ isDelimiter c = false := by
  obtain ⟨segment, _, hc⟩ := List.mem_flatMap.mp h
  rcases List.mem_cons.mp hc with rfl | hc
  · exact .inl rfl
  · exact .inr (isDelimiter_pathEscape hc)

/-- An escaped path contains no byte of another kind. -/
theorem notMem_pathOf {segments : List (List UInt8)} {c : UInt8} (hslash : c ≠ 47)
    (hdelimiter : isDelimiter c = true) : c ∉ pathOf segments := by
  intro h
  rcases mem_pathOf h with rfl | hnone
  · exact hslash rfl
  · rw [hdelimiter] at hnone
    cases hnone

/-- A slash at the front ends an empty segment. -/
theorem splitOn_slash (s : List UInt8) : (47 :: s).splitOn 47 = [] :: s.splitOn 47 := by
  have hempty : (47 : UInt8) ∉ ([] : List UInt8) := nofun
  exact List.splitOn_append_cons_self_of_not_mem hempty s

/-- The segments before a slash, one by one. -/
theorem splitOn_pathOf (segments : List (List UInt8)) (s : List UInt8) :
    (pathOf segments ++ 47 :: s).splitOn 47
      = [] :: (segments.map pathEscape ++ s.splitOn 47) := by
  induction segments with
  | nil => exact splitOn_slash s
  | cons segment segments ih =>
    have hslash : (47 : UInt8) ∉ pathEscape segment := by
      intro h
      cases isDelimiter_pathEscape h
    obtain ⟨rest, hrest⟩ : ∃ rest, pathOf segments ++ 47 :: s = 47 :: rest := by
      cases segments with
      | nil => exact ⟨s, rfl⟩
      | cons next segments => exact ⟨_, rfl⟩
    rw [hrest, splitOn_slash] at ih
    have htail : rest.splitOn 47 = segments.map pathEscape ++ s.splitOn 47 := (List.cons.inj ih).2
    show (47 :: (pathEscape segment ++ pathOf segments) ++ 47 :: s).splitOn 47 = _
    rw [List.cons_append, splitOn_slash, List.append_assoc, hrest,
      List.splitOn_append_cons_self_of_not_mem hslash, htail]
    rfl

theorem splitOn_pathOf_tail (segments : List (List UInt8)) :
    ((pathOf segments).splitOn 47).tail = segments.map pathEscape := by
  rcases List.eq_nil_or_concat segments with rfl | ⟨before, last, rfl⟩
  · rfl
  · have hslash : (47 : UInt8) ∉ pathEscape last := by
      intro h
      cases isDelimiter_pathEscape h
    have hpath : pathOf (before ++ [last]) = pathOf before ++ 47 :: pathEscape last := by
      simp [pathOf]
    rw [List.concat_eq_append, hpath, splitOn_pathOf, List.splitOn_eq_singleton hslash]
    simp

/-- Escaped segments read back. -/
theorem mapM_unescape (segments : List (List UInt8)) :
    (segments.map pathEscape).mapM unescape = some segments := by
  induction segments with
  | nil => rfl
  | cons segment segments ih => simp [unescape_pathEscape, ih]

/-- A pair of an escaped query reads back. -/
theorem parsePair_pair (key value : List UInt8) :
    parsePair (queryEscape key ++ 61 :: queryEscape value) = some (key, value) := by
  have hnone : ∀ s c, c ∈ queryEscape s → isQueryDelimiter c = false :=
    fun s c h => isQueryDelimiter_queryEscape h
  have hequals : (61 : UInt8) ∉ queryEscape key := by
    intro h
    cases hnone key 61 h
  -- `parsePair` drops neither an empty pair nor one with a semicolon here.
  have hplain : ¬ (queryEscape key ++ 61 :: queryEscape value = [] ∨
      59 ∈ queryEscape key ++ 61 :: queryEscape value) := by
    rintro (h | h)
    · simp at h
    · rcases List.mem_append.mp h with h | h
      · cases hnone key 59 h
      · rcases List.mem_cons.mp h with h | h
        · cases h
        · cases hnone value 59 h
  unfold parsePair
  rw [if_neg hplain, cut_append hequals, cut_self]
  simp [queryUnescape_queryEscape]

/-- An escaped query reads back. -/
theorem parseQuery_queryOf {query : List (List UInt8 × List UInt8)} (h : query ≠ []) :
    parseQuery (queryOf query) = query := by
  have hpairs : ∀ pair ∈ query.map fun (key, value) => queryEscape key ++ 61 :: queryEscape value,
      (38 : UInt8) ∉ pair := by
    intro pair hpair hamp
    obtain ⟨⟨key, value⟩, _, rfl⟩ := List.mem_map.mp hpair
    rcases List.mem_append.mp hamp with hamp | hamp
    · cases isQueryDelimiter_queryEscape hamp
    · rcases List.mem_cons.mp hamp with hamp | hamp
      · cases hamp
      · cases isQueryDelimiter_queryEscape hamp
  unfold parseQuery queryOf
  rw [List.splitOn_intercalate 38 hpairs (by simpa using h), List.filterMap_map]
  have hid : ((fun pair => parsePair pair) ∘ fun (key, value) =>
      queryEscape key ++ 61 :: queryEscape value) = some := by
    funext ⟨key, value⟩
    exact parsePair_pair key value
  rw [show parsePair = fun pair => parsePair pair from rfl, hid, List.filterMap_some]

/-- A byte of joined texts is the separator or a byte of one of them. -/
theorem mem_intercalate {sep c : UInt8} {texts : List (List UInt8)}
    (h : c ∈ [sep].intercalate texts) : c = sep ∨ ∃ text ∈ texts, c ∈ text := by
  induction texts with
  | nil => cases h
  | cons text texts ih =>
    by_cases hnil : texts = []
    · subst hnil
      rw [List.intercalate_singleton] at h
      exact .inr ⟨text, List.mem_cons_self, h⟩
    · rw [List.intercalate_cons_of_ne_nil hnil] at h
      simp only [List.mem_append, List.mem_singleton] at h
      rcases h with (h | rfl) | h
      · exact .inr ⟨text, List.mem_cons_self, h⟩
      · exact .inl rfl
      · rcases ih h with rfl | ⟨other, hother, hc⟩
        · exact .inl rfl
        · exact .inr ⟨other, List.mem_cons_of_mem text hother, hc⟩

/-- A byte that may stand in a URL before its fragment. -/
def isSent (c : UInt8) : Bool := c != 35 && !isControl c

theorem isSent_pathOf {segments : List (List UInt8)} {c : UInt8} (h : c ∈ pathOf segments) :
    isSent c = true := by
  have hall : ∀ c, isDelimiter c = false → isSent c = true := forall_byte (by decide +kernel)
  rcases mem_pathOf h with rfl | hnone
  · rfl
  · exact hall c hnone

theorem isSent_queryOf {query : List (List UInt8 × List UInt8)} {c : UInt8}
    (h : c ∈ queryOf query) : isSent c = true := by
  have hall : ∀ c, isQueryDelimiter c = false → isSent c = true := forall_byte (by decide +kernel)
  rcases mem_intercalate h with rfl | ⟨pair, hpair, hc⟩
  · rfl
  · obtain ⟨⟨key, value⟩, _, rfl⟩ := List.mem_map.mp hpair
    rcases List.mem_append.mp hc with hc | hc
    · exact hall c (isQueryDelimiter_queryEscape hc)
    · rcases List.mem_cons.mp hc with rfl | hc
      · rfl
      · exact hall c (isQueryDelimiter_queryEscape hc)

theorem any_isControl_of_isSent {s : List UInt8} (h : ∀ c ∈ s, isSent c = true) :
    s.any isControl = false := by
  rw [List.any_eq_false]
  intro c hc
  have hsent := h c hc
  simp only [isSent, Bool.and_eq_true] at hsent
  simpa using hsent.2

/-- An escaped target reads back. -/
theorem parseTarget_target (segments : List (List UInt8)) (query : List (List UInt8 × List UInt8)) :
    parseTarget (target segments query) = some ⟨segments, query⟩ := by
  have hmark : (63 : UInt8) ∉ pathOf segments := notMem_pathOf (by decide) rfl
  -- No byte of the target starts a fragment or is a control character.
  have hsent : ∀ c ∈ target segments query, isSent c = true := by
    intro c hc
    rcases List.mem_append.mp hc with hc | hc
    · exact isSent_pathOf hc
    · split at hc
      · cases hc
      · rcases List.mem_cons.mp hc with rfl | hc
        · rfl
        · exact isSent_queryOf hc
  have hfragment : cut 35 (target segments query) = (target segments query, []) := by
    apply cut_of_notMem
    intro h
    cases hsent 35 h
  have hcontrol : (target segments query).any isControl = false := any_isControl_of_isSent hsent
  unfold parseTarget
  rw [hfragment]
  dsimp only
  rw [hcontrol]
  show parseSent (target segments query) = _
  unfold parseSent target
  by_cases hquery : query = []
  · subst hquery
    rw [if_pos rfl, List.append_nil, cut_of_notMem hmark]
    dsimp only
    rw [splitOn_pathOf_tail, mapM_unescape]
    rfl
  · rw [if_neg hquery, cut_append hmark, cut_self]
    dsimp only
    rw [List.append_nil, splitOn_pathOf_tail, mapM_unescape, parseQuery_queryOf hquery]
    rfl

/-- Text after an escaped path is read as it would be on its own. -/
theorem parseTarget_append (segments : List (List UInt8)) (s : List UInt8) :
    parseTarget (pathOf segments ++ 47 :: s)
      = (parseTarget (47 :: s)).map fun t => { t with segments := segments ++ t.segments } := by
  have hmark : (63 : UInt8) ∉ pathOf segments := notMem_pathOf (by decide) rfl
  have hhash : (35 : UInt8) ∉ pathOf segments := notMem_pathOf (by decide) rfl
  have hcontrol : (pathOf segments).any isControl = false :=
    any_isControl_of_isSent fun c hc => isSent_pathOf hc
  -- A cut passes over the escaped path and over the slash after it.
  have hslash : ∀ sep : UInt8, sep ≠ 47 → ∀ t : List UInt8,
      cut sep (47 :: t) = (47 :: (cut sep t).1, (cut sep t).2) := by
    intro sep hsep t
    have hnot : sep ∉ [(47 : UInt8)] := by simpa using hsep
    exact cut_append hnot t
  unfold parseTarget
  rw [cut_append hhash, hslash 35 (by decide)]
  dsimp only
  rw [List.any_append, hcontrol, Bool.false_or]
  split
  · rfl
  · unfold parseSent
    rw [cut_append hmark, hslash 63 (by decide)]
    dsimp only
    rw [splitOn_pathOf, splitOn_slash]
    simp only [List.tail_cons, List.mapM_append, mapM_unescape]
    cases ((cut 63 (cut 35 s).1).1.splitOn 47).mapM unescape <;> rfl

/-! ### Text without escapes -/

/-- A byte that means itself in a path: not `%`, `#` or `?`, and no control character. -/
def isPlain (c : UInt8) : Bool := c != 37 && c != 35 && c != 63 && !isControl c

/-- Text without a percent sign has no escape. -/
theorem unescape_of_notMem {s : List UInt8} (h : 37 ∉ s) : unescape s = some s := by
  induction s with
  | nil => rfl
  | cons c s ih =>
    rw [List.mem_cons, not_or] at h
    rw [unescape_cons (Ne.symm h.1), ih h.2, Option.map_some]

theorem unescape_plain {s : List UInt8} (h : ∀ c ∈ s, isPlain c = true) : unescape s = some s := by
  refine unescape_of_notMem ?_
  intro hpercent
  cases h 37 hpercent

/-- A byte of one of the texts is a byte of the joined ones. -/
theorem mem_intercalate_of_mem {sep c : UInt8} {texts : List (List UInt8)} {text : List UInt8}
    (htext : text ∈ texts) (hc : c ∈ text) : c ∈ [sep].intercalate texts := by
  induction texts with
  | nil => cases htext
  | cons first texts ih =>
    by_cases hnil : texts = []
    · subst hnil
      rw [List.intercalate_singleton, ← List.mem_singleton.mp htext]
      exact hc
    · rw [List.intercalate_cons_of_ne_nil hnil]
      rcases List.mem_cons.mp htext with rfl | htext
      · exact List.mem_append_left _ (List.mem_append_left _ hc)
      · exact List.mem_append_right _ (ih htext)

/-- A plain path is read as it is. -/
theorem parseTarget_plain {s : List UInt8} (h : ∀ c ∈ s, isPlain c = true) :
    parseTarget (47 :: s) = some ⟨s.splitOn 47, []⟩ := by
  have hall : ∀ c ∈ 47 :: s, isPlain c = true := by
    intro c hc
    rcases List.mem_cons.mp hc with rfl | hc
    · rfl
    · exact h c hc
  -- A plain path has no fragment and no query.
  have hcut : ∀ sep, isPlain sep = false → cut sep (47 :: s) = (47 :: s, []) := by
    intro sep hsep
    apply cut_of_notMem
    intro hmem
    rw [hall sep hmem] at hsep
    cases hsep
  have hcontrol : (47 :: s).any isControl = false := by
    apply any_isControl_of_isSent
    intro c hc
    have hplain := hall c hc
    simp only [isPlain, Bool.and_eq_true] at hplain
    simp [isSent, hplain.1.1.2, hplain.2]
  have hsegments : (s.splitOn 47).mapM unescape = some (s.splitOn 47) := by
    have hpieces : ∀ piece ∈ s.splitOn 47, unescape piece = some piece := by
      intro piece hpiece
      apply unescape_plain
      intro c hc
      have hmem := @mem_intercalate_of_mem 47 c _ _ hpiece hc
      rw [List.intercalate_splitOn] at hmem
      exact h c hmem
    generalize s.splitOn 47 = pieces at hpieces
    induction pieces with
    | nil => rfl
    | cons piece pieces ih =>
      simp [hpieces piece List.mem_cons_self,
        ih fun other hother => hpieces other (List.mem_cons_of_mem piece hother)]
  unfold parseTarget
  rw [hcut 35 rfl]
  dsimp only
  rw [hcontrol]
  show parseSent (47 :: s) = _
  unfold parseSent
  rw [hcut 63 rfl]
  dsimp only
  rw [splitOn_slash, List.tail_cons, hsegments]
  rfl

end OtelHive.Lib.Url
