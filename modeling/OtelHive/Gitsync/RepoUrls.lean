import Mathlib.Data.List.DropRight
import OtelHive.Basic
import OtelHive.Lib.UrlParse

/-!
# `OtelHive.Gitsync.RepoUrls`: the repository of a URL

`parseGitHubURL`, `parseGitLabURL` and `parseGiteaURL` of `internal/gitsync/providers`: what the
constructors of the clients read from the URL of a source. GitHub and Gitea read the first two
segments of the path, GitLab the whole path.

`RepoURL` is the URL of a project on a host, with the path spelled in any way that decodes to the
project, and its four forms are those that a user may paste.
-/

set_option autoImplicit false

namespace OtelHive.Gitsync.RepoUrls

open OtelHive.Lib.Url

/-! ### The parsers -/

/-- `strings.Trim(s, "/")`. -/
def trimSlashes (s : Bytes) : Bytes := (s.dropWhile (· == 47)).rdropWhile (· == 47)

/-- `strings.TrimPrefix`. -/
def trimPrefix (s pre : Bytes) : Bytes := if pre.isPrefixOf s then s.drop pre.length else s

/-- `strings.TrimSuffix`. -/
def trimSuffix (s suffix : Bytes) : Bytes :=
  if suffix.isSuffixOf s then s.take (s.length - suffix.length) else s

/-- `".git"`. -/
def dotGit : Bytes := utf8 ".git"

/-- The owner and the repository of GitHub and Gitea, from the first two segments. -/
def ownerAndRepo (path : Bytes) : Bytes × Bytes :=
  match (trimSlashes path).splitOn 47 with
  | owner :: repo :: _ => (owner, trimSuffix repo dotGit)
  | _ => ([], [])

/-- `"<scheme>://<host><root>"`. -/
def hostRoot (u : URL) (root : String) : Bytes := u.scheme ++ utf8 "://" ++ u.host ++ utf8 root

section Parsers

variable (parseAuthority : Bytes → Option Bytes)

/-- `parseGitHubURL`: the owner, the repository and the root of the API. -/
def parseGitHubURL (raw : Bytes) : Bytes × Bytes × Bytes :=
  match parse parseAuthority raw with
  | none => ([], [], utf8 "https://api.github.com")
  | some u =>
    let (owner, repo) := ownerAndRepo u.path
    if u.host = utf8 "github.com" then (owner, repo, utf8 "https://api.github.com")
    -- GitHub Enterprise.
    else (owner, repo, hostRoot u "/api/v3")

/-- `parseGitLabURL`: the escaped project path and the root of the API. -/
def parseGitLabURL (raw : Bytes) : Bytes × Bytes :=
  match parse parseAuthority raw with
  | none => ([], utf8 "https://gitlab.com/api/v4")
  | some u =>
    let path := trimSuffix (trimPrefix u.path [47]) dotGit
    (pathEscape path, hostRoot u "/api/v4")

/-- `parseGiteaURL`. -/
def parseGiteaURL (raw : Bytes) : Bytes × Bytes × Bytes :=
  match parse parseAuthority raw with
  | none => ([], [], [])
  | some u =>
    let (owner, repo) := ownerAndRepo u.path
    (owner, repo, hostRoot u "/api/v1")

end Parsers

/-! ### Repository URLs -/

/-- A project: the groups or the owner above it, and its name. No segment is empty. -/
structure Project where
  parents : List Bytes
  name : Bytes
  parents_segment : ∀ segment ∈ parents, segment ≠ [] ∧ 47 ∉ segment
  name_segment : name ≠ [] ∧ 47 ∉ name

/-- The project path. -/
def Project.path (project : Project) : Bytes := [47].intercalate (project.parents ++ [project.name])

/-- The URL of a project without the suffix `.git`. -/
structure RepoURL where
  scheme : Scheme
  authority : Authority
  project : Project
  noSuffix : ¬ dotGit <:+ project.path
  /-- The project path as the URL spells it. -/
  spelling : Bytes
  spelled : unescape spelling = some project.path
  question : 63 ∉ spelling
  hash : 35 ∉ spelling

namespace RepoURL

/-- The URL with a suffix. -/
def form (u : RepoURL) (suffix : Bytes) : Bytes :=
  absolute u.scheme u.authority (47 :: (u.spelling ++ suffix))

def text (u : RepoURL) : Bytes := u.form []

/-- Nothing, a slash, `.git`, and `.git` with a slash. -/
def suffixes : List Bytes := [[], [47], dotGit, dotGit ++ [47]]

/-- The forms of the URL. -/
def forms (u : RepoURL) : List Bytes := suffixes.map u.form

end RepoURL

end OtelHive.Gitsync.RepoUrls
