import OtelHive.Gitsync.Matcher
import OtelHive.Lib.Base64
import OtelHive.Lib.Url

/-!
# `OtelHive.Gitsync.Providers`: the clients of the hosting APIs

`internal/gitsync/providers`, for GitHub, GitLab and Gitea. A client formats an endpoint, asks
the API and decodes the answer. The API is a parameter: a function of the request target that
the endpoint denotes (`OtelHive.Lib.Url`). Paths and branches come from JSON, so they are
`String`; the endpoints are bytes.

`fetchFileByRef` of GitLab is left out, because nothing calls it. So are the headers. A client
starts with its owner and repository, or its project; `OtelHive.Gitsync.RepoUrls` reads them from
the repository URL.
-/

set_option autoImplicit false

namespace OtelHive.Gitsync.Providers

open OtelHive.Lib
open OtelHive.Lib.Url

/-! ### Answers -/

/-- An entry of a tree. -/
structure TreeItem where
  path : String
  type : String
  sha : String
deriving DecidableEq

/-- What the JSON decoder finds in a body. -/
inductive Json where
  /-- The SHA of a commit: `sha` of GitHub, `id` of GitLab and `commit.id` of Gitea. -/
  | commit (sha : String)
  | tree (items : List TreeItem)
  | blob (content : Bytes) (encoding : String)
deriving DecidableEq

/-- An answer: the bytes of the body that can be read, and what decodes from them. -/
structure Response where
  status : Nat
  body : Bytes
  json : Option Json
deriving DecidableEq

/-- The errors of the clients. -/
inductive ProviderError where
  /-- `http.NewRequest` refuses the URL. -/
  | newRequest
  | transport (text : String)
  /-- `"<name> API <endpoint>: HTTP <status>"`. -/
  | http (name : String) (endpoint : Bytes) (status : Nat)
  /-- The body does not decode. -/
  | decode
  /-- `"unexpected blob encoding: "` of GitHub and `"unexpected encoding: "` of Gitea. -/
  | encoding (message : String)
  /-- The content is not base64. -/
  | base64
deriving DecidableEq

/-- A hosting API. -/
abbrev Api : Type := Target → Except String Response

/-- A number, as `%d` writes it. -/
def decimal (n : Nat) : Bytes := (Nat.toDigits 10 n).map fun c => UInt8.ofNat c.toNat

/-- `do`: an answer with an error status is an error. -/
def request (api : Api) (name : String) (endpoint : Bytes) : Except ProviderError Response :=
  match parseTarget endpoint with
  | none => .error .newRequest
  | some target =>
    match api target with
    | .error err => .error (.transport err)
    | .ok resp =>
      if resp.status ≥ 400 then .error (.http name endpoint resp.status) else .ok resp

/-- Decode a commit. -/
def decodeCommit (resp : Response) : Except ProviderError String :=
  match resp.json with
  | some (.commit sha) => .ok sha
  | _ => .error .decode

/-- Decode the entries of a tree. -/
def decodeTree (resp : Response) : Except ProviderError (List TreeItem) :=
  match resp.json with
  | some (.tree items) => .ok items
  | _ => .error .decode

/-- Decode a blob. The line breaks in the base64 text are removed. -/
def decodeBlob (message : String) (resp : Response) : Except ProviderError Bytes :=
  match resp.json with
  | some (.blob content encoding) =>
    if encoding ≠ "base64" then .error (.encoding (message ++ encoding))
    else
      match Base64.decode (content.filter (· != 10)) with
      | none => .error .base64
      | some bytes => .ok bytes
  | _ => .error .decode

/-- The filter of the listings: YAML files under the root. -/
def isListed (rootPath : String) (item : TreeItem) : Bool :=
  let pre := trimSuffix rootPath.toList ['/'] ++ ['/']
  item.type == "blob" && (pre.isPrefixOf item.path.toList || item.path == rootPath)
    && (".yaml".toList.isSuffixOf item.path.toList || ".yml".toList.isSuffixOf item.path.toList)

/-- The listed entries. -/
def listed (rootPath : String) (items : List TreeItem) : List FileEntry :=
  (items.filter (isListed rootPath)).map fun item => { path := item.path, sha := item.sha }

/-! ### GitHub -/

/-- `GitHub`. -/
structure GitHub where
  owner : String
  repo : String
deriving DecidableEq

namespace GitHub

variable (g : GitHub) (api : Api)

/-- `"/repos/<owner>/<repo>"`. -/
def repoPath : Bytes :=
  utf8 "/repos/" ++ pathEscape (utf8 g.owner) ++ utf8 "/" ++ pathEscape (utf8 g.repo)

/-- `LatestCommitSHA`. -/
def latestCommitSHA (branch : String) : Except ProviderError String := do
  let resp ← request api "github" (g.repoPath ++ utf8 "/commits/" ++ pathEscape (utf8 branch))
  decodeCommit resp

/-- `ListFiles`. -/
def listFiles (branch rootPath : String) : Except ProviderError (List FileEntry) := do
  let commitSHA ← g.latestCommitSHA api branch
  let resp ← request api "github"
    (g.repoPath ++ utf8 "/git/trees/" ++ utf8 commitSHA ++ utf8 "?recursive=1")
  let items ← decodeTree resp
  pure (listed rootPath items)

/-- `FetchFile`: the blob with the SHA. -/
def fetchFile (_path sha : String) : Except ProviderError Bytes := do
  let resp ← request api "github" (g.repoPath ++ utf8 "/git/blobs/" ++ utf8 sha)
  decodeBlob "unexpected blob encoding: " resp

end GitHub

/-! ### GitLab -/

/-- `GitLab`. -/
structure GitLab where
  project : String
deriving DecidableEq

namespace GitLab

variable (g : GitLab) (api : Api)

/-- `"/projects/<projectID>"`. -/
def projectPath : Bytes := utf8 "/projects/" ++ pathEscape (utf8 g.project)

/-- `LatestCommitSHA`. -/
def latestCommitSHA (branch : String) : Except ProviderError String := do
  let resp ← request api "gitlab"
    (g.projectPath ++ utf8 "/repository/commits/" ++ pathEscape (utf8 branch))
  decodeCommit resp

/-- One page of the listing. -/
def listPage (branch rootPath : String) (page : Nat) : Except ProviderError (List TreeItem) := do
  let resp ← request api "gitlab"
    (g.projectPath ++ utf8 "/repository/tree?ref=" ++ queryEscape (utf8 branch) ++ utf8 "&path="
      ++ queryEscape (utf8 rootPath) ++ utf8 "&recursive=true&per_page=100&page="
      ++ decimal page)
  decodeTree resp

/-- The loop of `ListFiles` from a page on, for `fuel` pages at most. A page with less than 100
entries is the last one. -/
def listPages (branch rootPath : String) :
    Nat → Nat → Option (Except ProviderError (List FileEntry))
  | 0, _ => none
  | fuel + 1, page =>
    match g.listPage api branch rootPath page with
    | .error err => some (.error err)
    | .ok items =>
      if items.length < 100 then some (.ok (listed rootPath items))
      else
        (listPages branch rootPath fuel (page + 1)).map fun rest =>
          rest.map (listed rootPath items ++ ·)

/-- `FetchFile`: the file at the path, at `HEAD`. -/
def fetchFile (filePath _sha : String) : Except ProviderError Bytes := do
  let resp ← request api "gitlab"
    (g.projectPath ++ utf8 "/repository/files/" ++ pathEscape (utf8 filePath)
      ++ utf8 "/raw?ref=HEAD")
  pure resp.body

end GitLab

/-! ### Gitea -/

/-- `Gitea`. -/
structure Gitea where
  owner : String
  repo : String
deriving DecidableEq

namespace Gitea

variable (g : Gitea) (api : Api)

/-- `"/repos/<owner>/<repo>"`. -/
def repoPath : Bytes :=
  utf8 "/repos/" ++ pathEscape (utf8 g.owner) ++ utf8 "/" ++ pathEscape (utf8 g.repo)

/-- `LatestCommitSHA`. -/
def latestCommitSHA (branch : String) : Except ProviderError String := do
  let resp ← request api "gitea" (g.repoPath ++ utf8 "/branches/" ++ pathEscape (utf8 branch))
  decodeCommit resp

/-- `ListFiles`. -/
def listFiles (branch rootPath : String) : Except ProviderError (List FileEntry) := do
  let sha ← g.latestCommitSHA api branch
  let resp ← request api "gitea"
    (g.repoPath ++ utf8 "/git/trees/" ++ utf8 sha ++ utf8 "?recursive=1")
  let items ← decodeTree resp
  pure (listed rootPath items)

/-- `fetchViaContents`. -/
def fetchViaContents (filePath : String) : Except ProviderError Bytes := do
  let resp ← request api "gitea" (g.repoPath ++ utf8 "/contents/" ++ utf8 filePath)
  decodeBlob "unexpected encoding: " resp

/-- `FetchFile`: the raw file at the path, which is not escaped. The contents API is the
fallback. -/
def fetchFile (filePath _sha : String) : Except ProviderError Bytes :=
  match request api "gitea" (g.repoPath ++ utf8 "/raw/" ++ utf8 filePath) with
  -- Any error of the raw endpoint, also one that is not a missing file.
  | .error _ => g.fetchViaContents api filePath
  | .ok resp => .ok resp.body

end Gitea

/-! ### The interface -/

/-- `Provider`: one of the three clients. -/
inductive Client where
  | github (g : GitHub)
  | gitlab (g : GitLab)
  | gitea (g : Gitea)
deriving DecidableEq

namespace Client

/-- `ListFiles`. Of GitLab, `fuel` pages at most. -/
def listFiles (client : Client) (api : Api) (fuel : Nat) (branch rootPath : String) :
    Option (Except ProviderError (List FileEntry)) :=
  match client with
  | .github g => some (g.listFiles api branch rootPath)
  | .gitlab g => g.listPages api branch rootPath fuel 1
  | .gitea g => some (g.listFiles api branch rootPath)

/-- `FetchFile`. -/
def fetchFile (client : Client) (api : Api) (path sha : String) : Except ProviderError Bytes :=
  match client with
  | .github g => g.fetchFile api path sha
  | .gitlab g => g.fetchFile api path sha
  | .gitea g => g.fetchFile api path sha

end Client

/-! ### Repositories -/

/-- The hexadecimal texts. -/
def IsHex (s : String) : Prop := ∀ c ∈ utf8 s, (hexValue c).isSome

instance (s : String) : Decidable (IsHex s) :=
  List.decidableBAll (fun c => (hexValue c).isSome = true) (utf8 s)

/-- A commit with its tree: one entry for each path. -/
structure Commit where
  sha : String
  tree : List TreeItem
  hex : IsHex sha
  hexTree : ∀ item ∈ tree, IsHex item.sha
  distinct : (tree.map fun item => utf8 item.path).Nodup

/-- A repository: the commits that refs name, be they branches, tags or SHAs, the default
branch, and the contents of the blobs. -/
structure Repository where
  defaultBranch : String
  commit : Bytes → Option Commit
  blob : String → Bytes

namespace Repository

/-- The file at a path of a commit. -/
def file (r : Repository) (c : Commit) (path : Bytes) : Option Bytes :=
  (c.tree.find? fun item => item.type == "blob" && utf8 item.path == path).map
    fun item => r.blob item.sha

/-- The file at a path, at a ref or at the default branch. -/
def fileAt (r : Repository) (ref : Option Bytes) (path : Bytes) : Option Bytes :=
  (r.commit (ref.getD (utf8 r.defaultBranch))).bind fun c => r.file c path

end Repository

end OtelHive.Gitsync.Providers
