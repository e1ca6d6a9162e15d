import OtelHive.Gitsync.RepoUrls

/-!
# `OtelHive.Proofs.Gitsync.RepoUrls`: the forms of a repository URL

A repository URL, the URL with a slash at its end, with `.git`, and with `.git` and a slash name the
same repository. GitHub and Gitea trim the slashes of the path before they remove `.git`, so they
read the same from all four (`ownerAndRepo_suffix`). GitLab removes `.git` from the end of the path
alone and keeps a slash there, which becomes a part of the project path (`parseGitLabURL_slash`).

`alike_iff` is the result for every URL: the parsers treat its four forms alike exactly if
`url.Parse` refuses it.
-/

set_option autoImplicit false

namespace OtelHive.Gitsync.RepoUrls

open OtelHive.Lib.Url

/-! ### The property -/

/-- The parser returns the same on the four forms. -/
def RepoURL.Alike {β : Type} (u : RepoURL) (parser : Bytes → β) : Prop :=
  ∀ form ∈ u.forms, parser form = parser u.text

/-! ### Trimming -/

theorem trimSuffix_append (s suffix : Bytes) : trimSuffix (s ++ suffix) suffix = s := by
  have hsuffix : suffix.isSuffixOf (s ++ suffix) = true :=
    List.isSuffixOf_iff_suffix.mpr (List.suffix_append s suffix)
  rw [trimSuffix, if_pos hsuffix, List.length_append, Nat.add_sub_cancel, List.take_left]

theorem trimSuffix_of_not_suffix {s suffix : Bytes} (h : ¬ suffix <:+ s) :
    trimSuffix s suffix = s := by
  rw [trimSuffix, if_neg]
  rwa [List.isSuffixOf_iff_suffix]

/-- Text that ends in a slash does not end in `.git`. -/
theorem not_dotGit_suffix_slash (s : Bytes) : ¬ dotGit <:+ s ++ [47] := by
  intro h
  have hlast : (s ++ [47]).getLast? = dotGit.getLast? := by
    obtain ⟨before, hbefore⟩ := h
    rw [← hbefore, List.getLast?_append_of_ne_nil _ (by decide)]
  rw [List.getLast?_concat] at hlast
  revert hlast
  decide

/-- Text that neither begins nor ends with a slash, between slashes. -/
theorem trimSlashes_eq {s : Bytes} (hfirst : s.head? ≠ some 47) (hlast : s.getLast? ≠ some 47) :
    trimSlashes (47 :: s) = s ∧ trimSlashes (47 :: (s ++ [47])) = s := by
  have hr : s.rdropWhile (· == 47) = s := by
    rw [List.rdropWhile_eq_self_iff]
    intro hne h
    refine hlast ?_
    rw [List.getLast?_eq_some_getLast hne, eq_of_beq h]
  have hdrop : ∀ t : Bytes, s ≠ [] → (s ++ t).dropWhile (· == 47) = s ++ t := by
    intro t hne
    cases s with
    | nil => exact absurd rfl hne
    | cons c s =>
      rw [List.cons_append, List.dropWhile_cons_of_neg]
      intro hc
      exact hfirst (by rw [List.head?_cons, eq_of_beq hc])
  by_cases hnil : s = []
  · subst hnil
    decide
  · have h0 := hdrop [] hnil
    rw [List.append_nil] at h0
    constructor
    · rw [trimSlashes, List.dropWhile_cons_of_pos (by decide), h0, hr]
    · rw [trimSlashes, List.dropWhile_cons_of_pos (by decide), hdrop [47] hnil,
        List.rdropWhile_concat_pos _ _ _ (by decide), hr]

/-! ### Projects -/

namespace Project

theorem splitOn_path (project : Project) :
    project.path.splitOn 47 = project.parents ++ [project.name] := by
  refine List.splitOn_intercalate 47 ?_ (by simp)
  intro segment hsegment
  rcases List.mem_append.mp hsegment with hparent | hname
  · exact (project.parents_segment segment hparent).2
  · rw [List.mem_singleton.mp hname]
    exact project.name_segment.2

/-- The project whose name has the suffix `.git`. -/
def withGit (project : Project) : Project where
  parents := project.parents
  name := project.name ++ dotGit
  parents_segment := project.parents_segment
  name_segment := by
    refine ⟨by simp [project.name_segment.1], ?_⟩
    rw [List.mem_append, not_or]
    exact ⟨project.name_segment.2, by decide⟩

theorem path_withGit (project : Project) : project.withGit.path = project.path ++ dotGit := by
  show [47].intercalate (project.parents ++ [project.name ++ dotGit])
    = [47].intercalate (project.parents ++ [project.name]) ++ dotGit
  induction project.parents with
  | nil => simp
  | cons p ps ih =>
    simp only [List.cons_append, List.intercalate_cons_of_ne_nil (List.append_ne_nil_of_right_ne_nil
      ps (List.cons_ne_nil _ _)), ih, List.append_assoc]

/-- A project path ends with its name. -/
theorem name_suffix_path (project : Project) : project.name <:+ project.path := by
  show project.name <:+ [47].intercalate (project.parents ++ [project.name])
  induction project.parents with
  | nil => simp
  | cons p ps ih =>
    have hne : ps ++ [project.name] ≠ [] := by simp
    rw [List.cons_append, List.intercalate_cons_of_ne_nil hne]
    exact ih.trans (List.suffix_append _ _)

/-- A project path neither begins nor ends with a slash. -/
theorem path_ends (project : Project) :
    project.path.head? ≠ some 47 ∧ project.path.getLast? ≠ some 47 := by
  have hhead : ∀ segment : Bytes, segment ≠ [] ∧ 47 ∉ segment → ∀ t : Bytes,
      (segment ++ t).head? ≠ some 47 := by
    intro segment h t
    cases segment with
    | nil => exact absurd rfl h.1
    | cons c segment =>
      intro hc
      rw [List.cons_append, List.head?_cons, Option.some.injEq] at hc
      exact h.2 (hc ▸ List.mem_cons_self)
  constructor
  · show ([47].intercalate (project.parents ++ [project.name])).head? ≠ some 47
    have hparents := project.parents_segment
    cases hps : project.parents with
    | nil =>
      have h := hhead project.name project.name_segment []
      rw [List.append_nil] at h
      rwa [List.nil_append, List.intercalate_singleton]
    | cons p ps =>
      have hne : ps ++ [project.name] ≠ [] := by simp
      rw [List.cons_append, List.intercalate_cons_of_ne_nil hne, List.append_assoc]
      exact hhead p (hparents p (by rw [hps]; exact List.mem_cons_self)) _
  · obtain ⟨before, hbefore⟩ := project.name_suffix_path
    rw [← hbefore, List.getLast?_append_of_ne_nil _ project.name_segment.1]
    intro h
    exact project.name_segment.2 (List.mem_of_getLast? h)

/-- The slashes around a project path are trimmed. -/
theorem ownerAndRepo_slash (project : Project) :
    ownerAndRepo (47 :: (project.path ++ [47])) = ownerAndRepo (47 :: project.path) := by
  obtain ⟨hfirst, hlast⟩ := project.path_ends
  obtain ⟨hplain, hslash⟩ := trimSlashes_eq hfirst hlast
  rw [ownerAndRepo, ownerAndRepo, hplain, hslash]

/-- The suffix `.git` is removed from the repository, and the owner is another segment. -/
theorem ownerAndRepo_withGit (project : Project) (h : ¬ dotGit <:+ project.path) :
    ownerAndRepo (47 :: project.withGit.path) = ownerAndRepo (47 :: project.path) := by
  have htrim : ∀ p : Project, trimSlashes (47 :: p.path) = p.path := by
    intro p
    exact (trimSlashes_eq p.path_ends.1 p.path_ends.2).1
  have hname : trimSuffix project.name dotGit = project.name := by
    refine trimSuffix_of_not_suffix ?_
    intro hsuffix
    exact h (hsuffix.trans project.name_suffix_path)
  have hsegments : project.withGit.parents ++ [project.withGit.name]
      = project.parents ++ [project.name ++ dotGit] := rfl
  rw [ownerAndRepo, ownerAndRepo, htrim, htrim, splitOn_path, splitOn_path, hsegments]
  cases project.parents with
  | nil => rfl
  | cons owner ps =>
    cases ps with
    | nil =>
      show (owner, trimSuffix (project.name ++ dotGit) dotGit)
        = (owner, trimSuffix project.name dotGit)
      rw [trimSuffix_append, hname]
    | cons repo ps => rfl

/-- The owner and the repository do not depend on the suffix. -/
theorem ownerAndRepo_suffix (project : Project) (h : ¬ dotGit <:+ project.path) :
    ∀ suffix ∈ RepoURL.suffixes,
      ownerAndRepo (47 :: (project.path ++ suffix)) = ownerAndRepo (47 :: project.path) := by
  intro suffix hsuffix
  simp only [RepoURL.suffixes, List.mem_cons, List.not_mem_nil, or_false] at hsuffix
  rcases hsuffix with rfl | rfl | rfl | rfl
  · rw [List.append_nil]
  · exact project.ownerAndRepo_slash
  · rw [← path_withGit]
    exact project.ownerAndRepo_withGit h
  · rw [← List.append_assoc, ← path_withGit, ownerAndRepo_slash]
    exact project.ownerAndRepo_withGit h

end Project

/-! ### The forms -/

namespace RepoURL

variable {parseAuthority : Bytes → Option Bytes}

/-- What `url.Parse` reads from a form of the URL. -/
theorem parse_form (u : RepoURL) {suffix : Bytes} (hsuffix : suffix ∈ suffixes) :
    parse parseAuthority (u.form suffix)
      = if u.text.any isControl then none
        else (parseAuthority u.authority.text).map fun host =>
          { scheme := lower u.scheme.text, host, path := 47 :: (u.project.path ++ suffix) } := by
  -- A suffix has no byte with a meaning of its own, and completes no escape.
  have hplain : ∀ suffix ∈ suffixes, 63 ∉ suffix ∧ 35 ∉ suffix ∧ 37 ∉ suffix ∧
      suffix.any isControl = false ∧ suffix.head?.bind hexValue = none := by decide
  obtain ⟨hquestion, hhash, hpercent, hcontrol, hhex⟩ := hplain suffix hsuffix
  have hfirst : ∀ c ∈ suffix.head?, hexValue c = none := by
    intro c hc
    rwa [Option.mem_def.mp hc, Option.bind_some] at hhex
  have hany : (u.form suffix).any isControl = u.text.any isControl := by
    simp [form, text, absolute, hcontrol]
  have hpath : unescape (47 :: (u.spelling ++ suffix))
      = some (47 :: (u.project.path ++ suffix)) := by
    rw [unescape_cons (by decide), unescape_append hpercent hfirst, u.spelled, Option.map_some,
      Option.map_some]
  rw [← hany]
  unfold form
  rw [parse_absolute u.scheme u.authority (by simp [u.question, hquestion])
    (by simp [u.hash, hhash]), hpath]
  simp only [Option.map_some]
  cases parseAuthority u.authority.text <;> rfl

/-- The path of the URL is the project path. -/
theorem path_of_parse_text (u : RepoURL) {r : URL} (h : parse parseAuthority u.text = some r) :
    r.path = 47 :: u.project.path := by
  have htext : parse parseAuthority (u.form []) = _ :=
    u.parse_form (show [] ∈ suffixes by decide)
  rw [show u.form [] = u.text from rfl, h] at htext
  split at htext
  · cases htext
  · obtain ⟨host, -, hr⟩ := Option.map_eq_some_iff.mp htext.symm
    rw [← hr, List.append_nil]

/-- `url.Parse` puts the suffix after the path, and reads the rest as before. -/
theorem parse_form_eq (u : RepoURL) {suffix : Bytes} (hsuffix : suffix ∈ suffixes) :
    parse parseAuthority (u.form suffix)
      = (parse parseAuthority u.text).map fun r => { r with path := r.path ++ suffix } := by
  have htext : parse parseAuthority (u.form []) = _ :=
    u.parse_form (show [] ∈ suffixes by decide)
  rw [show u.form [] = u.text from rfl] at htext
  rw [htext, u.parse_form hsuffix]
  split
  · rfl
  · cases parseAuthority u.authority.text <;> simp

/-! ### The parsers -/

theorem alike_parseGitHubURL (u : RepoURL) : u.Alike (parseGitHubURL parseAuthority) := by
  intro form hform
  obtain ⟨suffix, hsuffix, rfl⟩ := List.mem_map.mp hform
  unfold parseGitHubURL
  rw [u.parse_form_eq hsuffix]
  cases hparse : parse parseAuthority u.text with
  | none => rfl
  | some r =>
    have hpath := u.path_of_parse_text hparse
    have hsame := u.project.ownerAndRepo_suffix u.noSuffix suffix hsuffix
    simp only [Option.map_some, hpath, List.cons_append, hsame, hostRoot]

theorem alike_parseGiteaURL (u : RepoURL) : u.Alike (parseGiteaURL parseAuthority) := by
  intro form hform
  obtain ⟨suffix, hsuffix, rfl⟩ := List.mem_map.mp hform
  unfold parseGiteaURL
  rw [u.parse_form_eq hsuffix]
  cases hparse : parse parseAuthority u.text with
  | none => rfl
  | some r =>
    have hpath := u.path_of_parse_text hparse
    have hsame := u.project.ownerAndRepo_suffix u.noSuffix suffix hsuffix
    simp only [Option.map_some, hpath, List.cons_append, hsame, hostRoot]

/-- GitLab removes the slash before the project path. -/
theorem parseGitLabURL_text (u : RepoURL) {r : URL} (h : parse parseAuthority u.text = some r) :
    parseGitLabURL parseAuthority u.text = (pathEscape u.project.path, hostRoot r "/api/v4") := by
  have htrim : trimPrefix r.path [47] = u.project.path := by
    rw [u.path_of_parse_text h]
    rfl
  unfold parseGitLabURL
  simp only [h, htrim, trimSuffix_of_not_suffix u.noSuffix]

/-- GitLab keeps a slash after the project path. -/
theorem parseGitLabURL_slash (u : RepoURL) {r : URL} (h : parse parseAuthority u.text = some r) :
    parseGitLabURL parseAuthority (u.form [47])
      = (pathEscape (u.project.path ++ [47]), hostRoot r "/api/v4") := by
  have htrim : trimPrefix (r.path ++ [47]) [47] = u.project.path ++ [47] := by
    rw [u.path_of_parse_text h]
    rfl
  have hsuffix := trimSuffix_of_not_suffix (not_dotGit_suffix_slash u.project.path)
  unfold parseGitLabURL
  rw [u.parse_form_eq (by decide), h]
  simp only [Option.map_some, htrim, hsuffix, hostRoot]

/-- GitLab treats the forms alike exactly if `url.Parse` refuses the URL. -/
theorem alike_parseGitLabURL_iff (u : RepoURL) :
    u.Alike (parseGitLabURL parseAuthority) ↔ parse parseAuthority u.text = none := by
  constructor
  · intro h
    cases hparse : parse parseAuthority u.text with
    | none => rfl
    | some r =>
      have hslash := h (u.form [47]) (List.mem_map_of_mem (by decide))
      rw [u.parseGitLabURL_slash hparse, u.parseGitLabURL_text hparse, Prod.mk.injEq] at hslash
      -- An escaped path reads back, and the two paths differ in length.
      have hread := congrArg unescape hslash.1
      rw [unescape_pathEscape, unescape_pathEscape, Option.some.injEq] at hread
      have hlength := congrArg List.length hread
      rw [List.length_append] at hlength
      simp at hlength
  · intro h form hform
    obtain ⟨suffix, hsuffix, rfl⟩ := List.mem_map.mp hform
    unfold parseGitLabURL
    rw [u.parse_form_eq hsuffix, h]
    rfl

/-- For every URL of a project, GitHub and Gitea read the same from the four forms. All three
parsers do exactly if `url.Parse` refuses the URL, and then they return their defaults. -/
theorem alike_iff (parseAuthority : Bytes → Option Bytes) (u : RepoURL) :
    (u.Alike (parseGitHubURL parseAuthority) ∧ u.Alike (parseGiteaURL parseAuthority)) ∧
      ((u.Alike (parseGitHubURL parseAuthority) ∧ u.Alike (parseGitLabURL parseAuthority) ∧
        u.Alike (parseGiteaURL parseAuthority)) ↔ parse parseAuthority u.text = none) := by
  refine ⟨⟨u.alike_parseGitHubURL, u.alike_parseGiteaURL⟩, ?_⟩
  constructor
  · intro h
    exact u.alike_parseGitLabURL_iff.mp h.2.1
  · intro h
    exact ⟨u.alike_parseGitHubURL, u.alike_parseGitLabURL_iff.mpr h, u.alike_parseGiteaURL⟩

/-- `https://gitlab.com/group/project`. -/
def exampleURL : RepoURL where
  scheme := { text := utf8 "https", begins := ⟨104, by decide, by decide⟩,
              bytes := List.all_eq_true.mp (by decide) }
  authority := { text := utf8 "gitlab.com", slash := by decide, question := by decide,
                 hash := by decide }
  project := { parents := [utf8 "group"], name := utf8 "project", parents_segment := by decide,
               name_segment := by decide }
  noSuffix := by decide
  spelling := utf8 "group/project"
  spelled := by decide
  question := by decide
  hash := by decide

/-- GitLab reads another project from the URL with a slash. -/
theorem slash_in_project :
    parseGitLabURL some (utf8 "https://gitlab.com/group/project")
        = (utf8 "group%2Fproject", utf8 "https://gitlab.com/api/v4") ∧
      parseGitLabURL some (utf8 "https://gitlab.com/group/project/")
        = (utf8 "group%2Fproject%2F", utf8 "https://gitlab.com/api/v4") ∧
      exampleURL.text = utf8 "https://gitlab.com/group/project" ∧
      ¬ (exampleURL.Alike (parseGitHubURL some) ∧ exampleURL.Alike (parseGitLabURL some) ∧
        exampleURL.Alike (parseGiteaURL some)) := by
  refine ⟨by decide +kernel, by decide +kernel, by decide, ?_⟩
  intro h
  have hnone := exampleURL.alike_parseGitLabURL_iff.mp h.2.1
  revert hnone
  decide +kernel

end RepoURL

end OtelHive.Gitsync.RepoUrls
