import OtelHive.Lib.Url

/-!
# `OtelHive.Lib.UrlParse`: reading a URL

`url.Parse` of `net/url`, with the scheme, the host and the decoded path of the result. What stands
between `//` and the path is an authority, and `parseAuthority` reads its host. It is a parameter:
the rules for user names, IPv6 addresses and ports do not touch the rest of the URL.

`parse_absolute` says what becomes of a URL with a scheme and an authority. From there it matters
that text without a percent sign can be appended to a path (`unescape_append`).

The bytes with a meaning of their own are those of `OtelHive.Lib.Url`, 58 (`:`) and 42 (`*`).
-/

set_option autoImplicit false

namespace OtelHive.Lib.Url

/-- `URL`. -/
structure URL where
  scheme : List UInt8
  host : List UInt8
  path : List UInt8
deriving DecidableEq

/-- An ASCII letter. -/
def isLetter (c : UInt8) : Bool := (97 ≤ c && c ≤ 122) || (65 ≤ c && c ≤ 90)

/-- Letters, digits, `+`, `-` and `.`. -/
def isSchemeByte (c : UInt8) : Bool :=
  isLetter c || (48 ≤ c && c ≤ 57) || c == 43 || c == 45 || c == 46

/-- `strings.ToLower` on ASCII. -/
def lower (s : List UInt8) : List UInt8 := s.map fun c => if 65 ≤ c ∧ c ≤ 90 then c + 32 else c

/-- `getScheme`: the scheme and what follows its colon. A colon at the front is an error. -/
def getScheme (s : List UInt8) : Option (List UInt8 × List UInt8) :=
  match s.head? with
  | none => some ([], s)
  | some c =>
    if c = 58 then none
    else if isLetter c ∧ (s.dropWhile isSchemeByte).head? = some 58 then
      some (s.takeWhile isSchemeByte, (s.dropWhile isSchemeByte).tail)
    else some ([], s)

section Parse

variable (parseAuthority : List UInt8 → Option (List UInt8))

/-- `parse` after the scheme and without the query. -/
def parseRest (scheme rest : List UInt8) : Option URL :=
  if rest.head? ≠ some 47 then
    -- A path without a slash after a scheme is opaque.
    if scheme ≠ [] then some { scheme, host := [], path := [] }
    else if 58 ∈ (cut 47 rest).1 then none
    else (unescape rest).map fun path => { scheme, host := [], path }
  else if [47, 47] <+: rest ∧ (scheme ≠ [] ∨ ¬ [47, 47, 47] <+: rest) then
    (parseAuthority ((rest.drop 2).takeWhile (· != 47))).bind fun host =>
      (unescape ((rest.drop 2).dropWhile (· != 47))).map fun path => { scheme, host, path }
  else (unescape rest).map fun path => { scheme, host := [], path }

/-- `url.Parse`. The query and the fragment are checked but not kept. -/
def parse (raw : List UInt8) : Option URL :=
  let u := (cut 35 raw).1
  if u.any isControl || (unescape (cut 35 raw).2).isNone then none
  else if u = [42] then some { scheme := [], host := [], path := [42] }
  else
    (getScheme u).bind fun (scheme, rest) =>
      parseRest parseAuthority (lower scheme) (cut 63 rest).1

end Parse

/-! ### URLs with an authority -/

/-- A scheme: a letter, and then more bytes of a scheme. -/
structure Scheme where
  text : List UInt8
  begins : ∃ c ∈ text.head?, isLetter c = true
  bytes : ∀ c ∈ text, isSchemeByte c = true

/-- An authority: the text between `//` and the path. -/
structure Authority where
  text : List UInt8
  slash : 47 ∉ text
  question : 63 ∉ text
  hash : 35 ∉ text

/-- `<scheme>://<authority><path>`. -/
def absolute (scheme : Scheme) (authority : Authority) (path : List UInt8) : List UInt8 :=
  scheme.text ++ [58, 47, 47] ++ authority.text ++ path

theorem isSchemeByte_of_isLetter {c : UInt8} (h : isLetter c = true) : isSchemeByte c = true := by
  simp [isSchemeByte, h]

/-- The scheme ends at the colon. -/
theorem getScheme_scheme (scheme : Scheme) (rest : List UInt8) :
    getScheme (scheme.text ++ 58 :: rest) = some (scheme.text, rest) := by
  obtain ⟨c, hc, hletter⟩ := scheme.begins
  obtain ⟨text, htext⟩ : ∃ text, scheme.text = c :: text := by
    cases hscheme : scheme.text with
    | nil =>
      rw [hscheme] at hc
      cases hc
    | cons d text =>
      rw [hscheme] at hc
      cases hc
      exact ⟨text, rfl⟩
  have hcolon : isSchemeByte 58 = false := by decide
  have hne : c ≠ 58 := by
    rintro rfl
    rw [isSchemeByte_of_isLetter hletter] at hcolon
    cases hcolon
  have hdrop : (scheme.text ++ 58 :: rest).dropWhile isSchemeByte = 58 :: rest := by
    rw [List.dropWhile_append_of_pos scheme.bytes, List.dropWhile_cons_of_neg (by simp [hcolon])]
  have htake : (scheme.text ++ 58 :: rest).takeWhile isSchemeByte = scheme.text := by
    rw [List.takeWhile_append_of_pos scheme.bytes, List.takeWhile_cons_of_neg (by simp [hcolon]),
      List.append_nil]
  have hhead : (scheme.text ++ 58 :: rest).head? = some c := by rw [htext]; rfl
  simp only [getScheme, hhead, if_neg hne, hdrop, htake]
  exact if_pos ⟨hletter, rfl⟩

/-- A scheme has no delimiter. -/
theorem Scheme.notMem (scheme : Scheme) {c : UInt8} (h : isSchemeByte c = false) :
    c ∉ scheme.text := by
  intro hc
  rw [scheme.bytes c hc] at h
  cases h

theorem lower_ne_nil (scheme : Scheme) : lower scheme.text ≠ [] := by
  obtain ⟨c, hc, -⟩ := scheme.begins
  cases htext : scheme.text with
  | nil =>
    rw [htext] at hc
    cases hc
  | cons d text => exact List.cons_ne_nil _ _

variable {parseAuthority : List UInt8 → Option (List UInt8)}

/-- After the scheme, the authority ends at the next slash. -/
theorem parseRest_authority (scheme : Scheme) (authority : Authority) (path : List UInt8) :
    parseRest parseAuthority (lower scheme.text) (47 :: 47 :: (authority.text ++ 47 :: path))
      = (parseAuthority authority.text).bind fun host =>
          (unescape (47 :: path)).map fun path => { scheme := lower scheme.text, host, path } := by
  have hslash : ∀ c ∈ authority.text, (c != 47) = true := by
    intro c hc
    rw [bne_iff_ne]
    rintro rfl
    exact authority.slash hc
  have hslashes : [47, 47] <+: (47 : UInt8) :: 47 :: (authority.text ++ 47 :: path) := ⟨_, rfl⟩
  have htake : (authority.text ++ 47 :: path).takeWhile (· != 47) = authority.text := by
    rw [List.takeWhile_append_of_pos hslash, List.takeWhile_cons_of_neg (by decide),
      List.append_nil]
  have hdrop : (authority.text ++ 47 :: path).dropWhile (· != 47) = 47 :: path := by
    rw [List.dropWhile_append_of_pos hslash, List.dropWhile_cons_of_neg (by decide)]
  rw [parseRest, if_neg (by simp), if_pos ⟨hslashes, Or.inl (lower_ne_nil scheme)⟩]
  show (parseAuthority ((authority.text ++ 47 :: path).takeWhile (· != 47))).bind _ = _
  rw [htake]
  show (parseAuthority authority.text).bind (fun host =>
    (unescape ((authority.text ++ 47 :: path).dropWhile (· != 47))).map _) = _
  rw [hdrop]

/-- What `url.Parse` reads of a URL with an authority, when no query and no fragment follow. -/
theorem parse_absolute (scheme : Scheme) (authority : Authority) {path : List UInt8}
    (hquestion : 63 ∉ path) (hhash : 35 ∉ path) :
    parse parseAuthority (absolute scheme authority (47 :: path))
      = if (absolute scheme authority (47 :: path)).any isControl then none
        else (parseAuthority authority.text).bind fun host =>
          (unescape (47 :: path)).map fun path => { scheme := lower scheme.text, host, path } := by
  have htext : absolute scheme authority (47 :: path)
      = scheme.text ++ 58 :: (47 :: 47 :: (authority.text ++ 47 :: path)) := by
    simp [absolute]
  have hcutHash : cut 35 (absolute scheme authority (47 :: path))
      = (absolute scheme authority (47 :: path), []) := by
    refine cut_of_notMem ?_
    simp [absolute, scheme.notMem (c := 35) (by decide), authority.hash, hhash]
  have hcutQuestion : cut 63 (47 :: 47 :: (authority.text ++ 47 :: path))
      = (47 :: 47 :: (authority.text ++ 47 :: path), []) := by
    refine cut_of_notMem ?_
    simp [authority.question, hquestion]
  have hstar : absolute scheme authority (47 :: path) ≠ [42] := by
    intro h
    have hmem : (47 : UInt8) ∈ absolute scheme authority (47 :: path) := by simp [absolute]
    rw [h] at hmem
    simp at hmem
  unfold parse
  rw [hcutHash]
  by_cases hcontrol : (absolute scheme authority (47 :: path)).any isControl = true
  · simp [hcontrol]
  · have hnil : unescape ([] : List UInt8) = some [] := rfl
    simp only [hcontrol, hnil, Option.isNone_some, Bool.or_false, if_neg hstar]
    rw [if_neg (by simp), if_neg (by simp), htext, getScheme_scheme, Option.bind_some]
    show parseRest _ _ (cut 63 _).1 = _
    rw [hcutQuestion, parseRest_authority]

/-- Text that begins with no hexadecimal digit and has no percent sign can be appended. -/
theorem unescape_append {suffix : List UInt8} (hpercent : 37 ∉ suffix)
    (hfirst : ∀ c ∈ suffix.head?, hexValue c = none) (s : List UInt8) :
    unescape (s ++ suffix) = (unescape s).map (· ++ suffix) := by
  induction s using unescape.induct with
  | case1 => simp [unescape, unescape_of_notMem hpercent]
  | case2 a b rest x y hx hy ih =>
    simp only [List.cons_append, unescape, if_true, hx, hy, ih, Option.map_map]
    rfl
  | case3 a b rest hnone =>
    cases hx : hexValue a with
    | none => simp [unescape, hx]
    | some x =>
      cases hy : hexValue b with
      | none => simp [unescape, hx, hy]
      | some y => exact absurd hy (hnone x y hx)
  | case4 rest hshort =>
    -- The escape is incomplete, and the text that follows does not complete it.
    have hnone : unescape (37 :: rest) = none := by
      rw [unescape.eq_def]
      cases rest with
      | nil => rfl
      | cons a rest =>
        cases rest with
        | nil => rfl
        | cons b rest => exact (hshort a b rest rfl).elim
    rw [hnone, Option.map_none]
    cases rest with
    | nil =>
      cases suffix with
      | nil => rfl
      | cons c suffix =>
        have hc : hexValue c = none := hfirst c rfl
        cases suffix with
        | nil => rfl
        | cons d suffix => simp [unescape, hc]
    | cons a rest =>
      cases rest with
      | cons b rest => exact (hshort a b rest rfl).elim
      | nil =>
        cases suffix with
        | nil => rfl
        | cons c suffix =>
          have hc : hexValue c = none := hfirst c rfl
          cases ha : hexValue a <;> simp [unescape, hc, ha]
  | case5 c rest hc ih =>
    rw [List.cons_append, unescape_cons hc, unescape_cons hc, ih, Option.map_map, Option.map_map]
    rfl

end OtelHive.Lib.Url
