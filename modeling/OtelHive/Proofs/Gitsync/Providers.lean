import OtelHive.Gitsync.Providers

/-!
# `OtelHive.Proofs.Gitsync.Providers`: which file a client fetches

`ListFiles` lists a branch. `FetchFile` gets a path and the SHA of a blob from that list, and no
branch. GitHub asks for the blob. GitLab asks for the path at `HEAD`, and Gitea for the path
without a ref, which is the default branch in both cases. Gitea also puts the path into the
URL unescaped, so that a path with `%`, `#` or `?` asks for another one.

`Serves` says what the hosting APIs answer. `fetchFile_iff`: `FetchFile` returns the bytes of a
listed entry exactly if what the client asks for is a file with the same bytes.
-/

set_option autoImplicit false

namespace OtelHive.Gitsync.Providers

open OtelHive.Lib
open OtelHive.Lib.Url

/-! ### What the hosting APIs answer -/

/-- The segments of `"/repos/<owner>/<repo>"`. -/
def GitHub.segments (g : GitHub) : List Bytes := [utf8 "repos", utf8 g.owner, utf8 g.repo]

/-- The API of GitHub serves the repository. A listing can be truncated. -/
structure GitHub.Serves (g : GitHub) (r : Repository) (api : Api) : Prop where
  commit : ∀ branch c resp, r.commit (utf8 branch) = some c →
    api ⟨g.segments ++ [utf8 "commits", utf8 branch], []⟩ = .ok resp → resp.status < 400 →
    resp.json = some (.commit c.sha)
  tree : ∀ branch c resp items, r.commit (utf8 branch) = some c →
    api ⟨g.segments ++ [utf8 "git", utf8 "trees", utf8 c.sha], [(utf8 "recursive", utf8 "1")]⟩
      = .ok resp → resp.status < 400 → resp.json = some (.tree items) →
    ∀ item ∈ items, item ∈ c.tree
  blob : ∀ branch c item, r.commit (utf8 branch) = some c → item ∈ c.tree → item.type = "blob" →
    ∃ body content, api ⟨g.segments ++ [utf8 "git", utf8 "blobs", utf8 item.sha], []⟩
        = .ok ⟨200, body, some (.blob content "base64")⟩ ∧
      content.filter (· != 10) = Base64.encode (r.blob item.sha)

/-- The segments of `"/projects/<projectID>"`. -/
def GitLab.segments (g : GitLab) : List Bytes := [utf8 "projects", utf8 g.project]

/-- The query of one page of a listing. -/
def GitLab.pageQuery (branch rootPath : String) (page : Nat) : List (Bytes × Bytes) :=
  [(utf8 "ref", utf8 branch), (utf8 "path", utf8 rootPath), (utf8 "recursive", utf8 "true"),
    (utf8 "per_page", utf8 "100"), (utf8 "page", decimal page)]

/-- The API of GitLab serves the repository. `HEAD` is the default branch. -/
structure GitLab.Serves (g : GitLab) (r : Repository) (api : Api) : Prop where
  tree : ∀ branch rootPath page c resp items, r.commit (utf8 branch) = some c →
    api ⟨g.segments ++ [utf8 "repository", utf8 "tree"], pageQuery branch rootPath page⟩
      = .ok resp → resp.status < 400 → resp.json = some (.tree items) →
        ∀ item ∈ items, item ∈ c.tree
  raw : ∀ path bytes, r.fileAt none path = some bytes →
    ∃ json, api ⟨g.segments ++ [utf8 "repository", utf8 "files", path, utf8 "raw"],
      [(utf8 "ref", utf8 "HEAD")]⟩ = .ok ⟨200, bytes, json⟩
  notFound : ∀ path resp, r.fileAt none path = none →
    api ⟨g.segments ++ [utf8 "repository", utf8 "files", path, utf8 "raw"],
      [(utf8 "ref", utf8 "HEAD")]⟩ = .ok resp → resp.status ≥ 400

/-- The segments of `"/repos/<owner>/<repo>"`. -/
def Gitea.segments (g : Gitea) : List Bytes := [utf8 "repos", utf8 g.owner, utf8 g.repo]

/-- The file that a target of Gitea names by the rest of its path, at the ref of its query or at
the default branch. -/
def Repository.named (r : Repository) (path : List Bytes) (query : List (Bytes × Bytes)) :
    Option Bytes :=
  r.fileAt (query.lookup (utf8 "ref")) ([47].intercalate path)

/-- The API of Gitea serves the repository. -/
structure Gitea.Serves (g : Gitea) (r : Repository) (api : Api) : Prop where
  branch : ∀ branch c resp, r.commit (utf8 branch) = some c →
    api ⟨g.segments ++ [utf8 "branches", utf8 branch], []⟩ = .ok resp → resp.status < 400 →
    resp.json = some (.commit c.sha)
  tree : ∀ branch c resp items, r.commit (utf8 branch) = some c →
    api ⟨g.segments ++ [utf8 "git", utf8 "trees", utf8 c.sha], [(utf8 "recursive", utf8 "1")]⟩
      = .ok resp → resp.status < 400 → resp.json = some (.tree items) →
    ∀ item ∈ items, item ∈ c.tree
  raw : ∀ path query bytes, r.named path query = some bytes →
    ∃ json, api ⟨g.segments ++ utf8 "raw" :: path, query⟩ = .ok ⟨200, bytes, json⟩
  notFound : ∀ path query resp, r.named path query = none →
    api ⟨g.segments ++ utf8 "raw" :: path, query⟩ = .ok resp → resp.status ≥ 400
  noContents : ∀ path query resp content, r.named path query = none →
    api ⟨g.segments ++ utf8 "contents" :: path, query⟩ = .ok resp → resp.status < 400 →
    resp.json ≠ some (.blob content "base64")

namespace Client

/-- The API of the client serves the repository. -/
def Serves (client : Client) (r : Repository) (api : Api) : Prop :=
  match client with
  | .github g => g.Serves r api
  | .gitlab g => g.Serves r api
  | .gitea g => g.Serves r api

/-- What the client asks for is a file with the bytes of the blob: the blob itself of GitHub, the
path on the default branch of GitLab, and of Gitea the file that the URL with the unescaped
path names. -/
def Addresses (client : Client) (r : Repository) (entry : FileEntry) : Prop :=
  match client with
  | .github _ => True
  | .gitlab _ => r.fileAt none (utf8 entry.path) = some (r.blob entry.sha)
  | .gitea _ => ∃ t, parseTarget (47 :: utf8 entry.path) = some t ∧
      r.named t.segments t.query = some (r.blob entry.sha)

end Client

/-! ### Requests -/

/-- A request for an escaped target. -/
theorem request_target_eq_ok {api : Api} {name : String} {segments : List Bytes}
    {query : List (Bytes × Bytes)} {resp : Response} :
    request api name (target segments query) = .ok resp ↔
      api ⟨segments, query⟩ = .ok resp ∧ resp.status < 400 := by
  unfold request
  rw [parseTarget_target]
  dsimp only
  cases api ⟨segments, query⟩ with
  | error err => simp
  | ok answer =>
    by_cases hstatus : answer.status ≥ 400
    · simp only [hstatus, if_true, reduceCtorEq, false_iff, not_and, Except.ok.injEq]
      rintro rfl
      omega
    · simp only [hstatus, if_false, Except.ok.injEq]
      constructor
      · rintro rfl
        exact ⟨rfl, by omega⟩
      · exact And.left

theorem decodeCommit_eq_ok {resp : Response} {sha : String} :
    decodeCommit resp = .ok sha ↔ resp.json = some (.commit sha) := by
  unfold decodeCommit
  split <;> simp_all

theorem decodeTree_eq_ok {resp : Response} {items : List TreeItem} :
    decodeTree resp = .ok items ↔ resp.json = some (.tree items) := by
  unfold decodeTree
  split <;> simp_all

/-- A blob in base64 decodes to its bytes. -/
theorem decodeBlob_base64 {message : String} {status : Nat} {body content bytes : Bytes}
    (h : content.filter (· != 10) = Base64.encode bytes) :
    decodeBlob message ⟨status, body, some (.blob content "base64")⟩ = .ok bytes := by
  simp [decodeBlob, h, Base64.decode_encode]

/-- What decodes as a blob is one in base64. -/
theorem json_of_decodeBlob {message : String} {resp : Response} {bytes : Bytes}
    (h : decodeBlob message resp = .ok bytes) :
    ∃ content, resp.json = some (.blob content "base64") := by
  unfold decodeBlob at h
  split at h
  · rename_i content encoding hjson
    split at h
    · cases h
    · rename_i hencoding
      rw [Classical.not_not.mp hencoding] at hjson
      exact ⟨content, hjson⟩
  · cases h

/-- A listed entry is a blob of the listing. -/
theorem mem_listed {rootPath : String} {items : List TreeItem} {entry : FileEntry}
    (h : entry ∈ listed rootPath items) :
    ∃ item ∈ items, item.type = "blob" ∧ item.path = entry.path ∧ item.sha = entry.sha := by
  obtain ⟨item, hitem, rfl⟩ := List.mem_map.mp h
  obtain ⟨hmem, hlisted⟩ := List.mem_filter.mp hitem
  have htype : item.type = "blob" := by
    simp only [isListed, Bool.and_eq_true] at hlisted
    simpa using hlisted.1.1
  exact ⟨item, hmem, htype, rfl, rfl⟩

/-- The file at the path of a blob of the tree. -/
theorem Repository.file_of_mem {r : Repository} {c : Commit} {item : TreeItem}
    (hmem : item ∈ c.tree) (htype : item.type = "blob") :
    r.file c (utf8 item.path) = some (r.blob item.sha) := by
  have hfound : (c.tree.find? fun other =>
      other.type == "blob" && utf8 other.path == utf8 item.path) = some item := by
    have hexists : (c.tree.find? fun other =>
        other.type == "blob" && utf8 other.path == utf8 item.path).isSome :=
      List.find?_isSome.mpr ⟨item, hmem, by simp [htype]⟩
    obtain ⟨other, hother⟩ := Option.isSome_iff_exists.mp hexists
    have hpath : utf8 other.path = utf8 item.path := by
      have hcond := List.find?_some hother
      simp only [Bool.and_eq_true, beq_iff_eq] at hcond
      exact hcond.2
    -- There is one entry for each path.
    have hsame : other = item :=
      List.inj_on_of_nodup_map c.distinct (List.mem_of_find?_eq_some hother) hmem hpath
    rw [hother, hsame]
  unfold Repository.file
  rw [hfound]
  rfl

/-! ### Endpoints -/

theorem pathOf_append (a b : List Bytes) : pathOf (a ++ b) = pathOf a ++ pathOf b :=
  List.flatMap_append

/-- A hexadecimal digit needs no escape. -/
theorem keptInPath_of_hex : ∀ c, (hexValue c).isSome → keptInPath c = true :=
  forall_byte (by decide +kernel)

theorem pathEscape_hex {s : String} (h : IsHex s) : pathEscape (utf8 s) = utf8 s :=
  pathEscape_of_unreserved fun c hc => keptInPath_of_hex c (h c hc)

theorem GitHub.repoPath_eq (g : GitHub) : g.repoPath = pathOf g.segments := by
  have hrepos : utf8 "/repos/" = 47 :: pathEscape (utf8 "repos") ++ [47] := rfl
  have hslash : utf8 "/" = [47] := rfl
  unfold GitHub.repoPath GitHub.segments
  rw [hrepos, hslash]
  simp [pathOf]

theorem GitHub.commits_eq (g : GitHub) (branch : String) :
    g.repoPath ++ utf8 "/commits/" ++ pathEscape (utf8 branch)
      = target (g.segments ++ [utf8 "commits", utf8 branch]) [] := by
  have htext : utf8 "/commits/" = 47 :: pathEscape (utf8 "commits") ++ [47] := rfl
  rw [g.repoPath_eq, htext]
  simp [target, pathOf]

/-- The endpoint of a tree, of GitHub and of Gitea. -/
theorem trees_eq (segments : List Bytes) {sha : String} (h : IsHex sha) :
    pathOf segments ++ utf8 "/git/trees/" ++ utf8 sha ++ utf8 "?recursive=1"
      = target (segments ++ [utf8 "git", utf8 "trees", utf8 sha])
        [(utf8 "recursive", utf8 "1")] := by
  have htext : utf8 "/git/trees/"
      = 47 :: pathEscape (utf8 "git") ++ 47 :: pathEscape (utf8 "trees") ++ [47] := rfl
  have hquery : utf8 "?recursive=1" = 63 :: queryOf [(utf8 "recursive", utf8 "1")] := rfl
  rw [htext, hquery]
  simp [target, pathOf, pathEscape_hex h]

theorem GitHub.blobs_eq (g : GitHub) {sha : String} (h : IsHex sha) :
    g.repoPath ++ utf8 "/git/blobs/" ++ utf8 sha
      = target (g.segments ++ [utf8 "git", utf8 "blobs", utf8 sha]) [] := by
  have htext : utf8 "/git/blobs/"
      = 47 :: pathEscape (utf8 "git") ++ 47 :: pathEscape (utf8 "blobs") ++ [47] := rfl
  rw [g.repoPath_eq, htext]
  simp [target, pathOf, pathEscape_hex h]

theorem GitLab.projectPath_eq (g : GitLab) : g.projectPath = pathOf g.segments := by
  have htext : utf8 "/projects/" = 47 :: pathEscape (utf8 "projects") ++ [47] := rfl
  unfold GitLab.projectPath GitLab.segments
  rw [htext]
  simp [pathOf]

/-- A digit needs no escape in a query. -/
theorem queryEscape_decimal (n : Nat) : queryEscape (decimal n) = decimal n := by
  have hkept : ∀ k, k ≤ 57 → 48 ≤ k →
      UInt8.ofNat k ≠ 32 ∧ unreserved (UInt8.ofNat k) = true := by
    decide
  have hdigits : ∀ c ∈ decimal n, c ≠ 32 ∧ unreserved c = true := by
    intro c hc
    obtain ⟨d, hd, rfl⟩ := List.mem_map.mp hc
    have hdigit : d.isDigit = true := Nat.isDigit_of_mem_toDigits (by decide) (by decide) hd
    have hrange : 48 ≤ d.toNat ∧ d.toNat ≤ 57 := Char.isDigit_iff_toNat.mp hdigit
    exact hkept d.toNat hrange.2 hrange.1
  unfold queryEscape
  generalize decimal n = s at hdigits
  induction s with
  | nil => rfl
  | cons c s ih =>
    obtain ⟨hspace, hkeep⟩ := hdigits c List.mem_cons_self
    rw [List.flatMap_cons, if_neg hspace, if_pos hkeep,
      ih fun x hx => hdigits x (List.mem_cons_of_mem c hx)]
    rfl

theorem GitLab.page_eq (g : GitLab) (branch rootPath : String) (page : Nat) :
    g.projectPath ++ utf8 "/repository/tree?ref=" ++ queryEscape (utf8 branch) ++ utf8 "&path="
        ++ queryEscape (utf8 rootPath) ++ utf8 "&recursive=true&per_page=100&page=" ++ decimal page
      = target (g.segments ++ [utf8 "repository", utf8 "tree"])
        (GitLab.pageQuery branch rootPath page) := by
  have htext : utf8 "/repository/tree?ref="
      = 47 :: pathEscape (utf8 "repository") ++ 47 :: pathEscape (utf8 "tree")
        ++ 63 :: queryEscape (utf8 "ref") ++ [61] := rfl
  have hpath : utf8 "&path=" = 38 :: queryEscape (utf8 "path") ++ [61] := rfl
  have hrest : utf8 "&recursive=true&per_page=100&page="
      = 38 :: queryEscape (utf8 "recursive") ++ 61 :: queryEscape (utf8 "true")
        ++ 38 :: queryEscape (utf8 "per_page") ++ 61 :: queryEscape (utf8 "100")
        ++ 38 :: queryEscape (utf8 "page") ++ [61] := rfl
  rw [g.projectPath_eq, htext, hpath, hrest]
  simp [target, pathOf, queryOf, GitLab.pageQuery, queryEscape_decimal,
    List.intercalate_cons_cons, List.intercalate_singleton]

theorem GitLab.raw_eq (g : GitLab) (filePath : String) :
    g.projectPath ++ utf8 "/repository/files/" ++ pathEscape (utf8 filePath)
        ++ utf8 "/raw?ref=HEAD"
      = target (g.segments ++ [utf8 "repository", utf8 "files", utf8 filePath, utf8 "raw"])
        [(utf8 "ref", utf8 "HEAD")] := by
  have htext : utf8 "/repository/files/"
      = 47 :: pathEscape (utf8 "repository") ++ 47 :: pathEscape (utf8 "files") ++ [47] := rfl
  have hraw : utf8 "/raw?ref=HEAD"
      = 47 :: pathEscape (utf8 "raw") ++ 63 :: queryOf [(utf8 "ref", utf8 "HEAD")] := rfl
  rw [g.projectPath_eq, htext, hraw]
  simp [target, pathOf]

theorem Gitea.repoPath_eq (g : Gitea) : g.repoPath = pathOf g.segments :=
  GitHub.repoPath_eq ⟨g.owner, g.repo⟩

theorem Gitea.branches_eq (g : Gitea) (branch : String) :
    g.repoPath ++ utf8 "/branches/" ++ pathEscape (utf8 branch)
      = target (g.segments ++ [utf8 "branches", utf8 branch]) [] := by
  have htext : utf8 "/branches/" = 47 :: pathEscape (utf8 "branches") ++ [47] := rfl
  rw [g.repoPath_eq, htext]
  simp [target, pathOf]

/-- The endpoints with an unescaped path. -/
theorem Gitea.raw_eq (g : Gitea) (path : Bytes) :
    g.repoPath ++ utf8 "/raw/" ++ path = pathOf (g.segments ++ [utf8 "raw"]) ++ 47 :: path := by
  have htext : utf8 "/raw/" = 47 :: pathEscape (utf8 "raw") ++ [47] := rfl
  rw [g.repoPath_eq, htext, pathOf_append]
  simp [pathOf]

theorem Gitea.contents_eq (g : Gitea) (path : Bytes) :
    g.repoPath ++ utf8 "/contents/" ++ path
      = pathOf (g.segments ++ [utf8 "contents"]) ++ 47 :: path := by
  have htext : utf8 "/contents/" = 47 :: pathEscape (utf8 "contents") ++ [47] := rfl
  rw [g.repoPath_eq, htext, pathOf_append]
  simp [pathOf]

/-! ### Listings -/

section Listings

variable {r : Repository} {api : Api} {branch rootPath : String} {c : Commit}
  {entries : List FileEntry} {entry : FileEntry}

/-- A listed entry is a blob of the branch. -/
def IsBlobOf (c : Commit) (entry : FileEntry) : Prop :=
  ∃ item ∈ c.tree, item.type = "blob" ∧ item.path = entry.path ∧ item.sha = entry.sha

theorem isBlobOf_of_mem_listed {items : List TreeItem} (hitems : ∀ item ∈ items, item ∈ c.tree)
    (h : entry ∈ listed rootPath items) : IsBlobOf c entry := by
  obtain ⟨item, hitem, hblob⟩ := mem_listed h
  exact ⟨item, hitems item hitem, hblob⟩

/-- GitHub and Gitea read the commit of the branch and then list its tree. -/
theorem isBlobOf_of_tree {name : String} {segments : List Bytes}
    {getCommit : Except ProviderError String}
    (hcommit : ∀ sha, getCommit = .ok sha → sha = c.sha)
    (htree : ∀ resp items,
      api ⟨segments ++ [utf8 "git", utf8 "trees", utf8 c.sha], [(utf8 "recursive", utf8 "1")]⟩
        = .ok resp → resp.status < 400 → resp.json = some (.tree items) →
      ∀ item ∈ items, item ∈ c.tree)
    (hlist : (do
      let sha ← getCommit
      let resp ← request api name
        (pathOf segments ++ utf8 "/git/trees/" ++ utf8 sha ++ utf8 "?recursive=1")
      let items ← decodeTree resp
      pure (listed rootPath items)) = Except.ok entries)
    (hentry : entry ∈ entries) : IsBlobOf c entry := by
  obtain ⟨sha, hsha, hrest⟩ := bind_eq_ok hlist
  obtain ⟨resp, hresp, hrest⟩ := bind_eq_ok hrest
  obtain ⟨items, hitems, hpure⟩ := bind_eq_ok hrest
  have hsame := hcommit sha hsha
  subst hsame
  rw [trees_eq _ c.hex, request_target_eq_ok] at hresp
  rw [decodeTree_eq_ok] at hitems
  cases hpure
  exact isBlobOf_of_mem_listed (htree resp items hresp.1 hresp.2 hitems) hentry

theorem GitHub.isBlobOf {g : GitHub} (hserves : g.Serves r api)
    (hbranch : r.commit (utf8 branch) = some c)
    (hlist : g.listFiles api branch rootPath = .ok entries) (hentry : entry ∈ entries) :
    IsBlobOf c entry := by
  have hcommit : ∀ sha, g.latestCommitSHA api branch = .ok sha → sha = c.sha := by
    intro sha hsha
    obtain ⟨resp, hresp, hdecode⟩ := bind_eq_ok hsha
    rw [g.commits_eq, request_target_eq_ok] at hresp
    rw [decodeCommit_eq_ok, hserves.commit branch c resp hbranch hresp.1 hresp.2] at hdecode
    cases hdecode
    rfl
  unfold GitHub.listFiles at hlist
  rw [g.repoPath_eq] at hlist
  exact isBlobOf_of_tree hcommit (hserves.tree branch c · · hbranch) hlist hentry

theorem Gitea.isBlobOf {g : Gitea} (hserves : g.Serves r api)
    (hbranch : r.commit (utf8 branch) = some c)
    (hlist : g.listFiles api branch rootPath = .ok entries) (hentry : entry ∈ entries) :
    IsBlobOf c entry := by
  have hcommit : ∀ sha, g.latestCommitSHA api branch = .ok sha → sha = c.sha := by
    intro sha hsha
    obtain ⟨resp, hresp, hdecode⟩ := bind_eq_ok hsha
    rw [g.branches_eq, request_target_eq_ok] at hresp
    rw [decodeCommit_eq_ok, hserves.branch branch c resp hbranch hresp.1 hresp.2] at hdecode
    cases hdecode
    rfl
  unfold Gitea.listFiles at hlist
  rw [g.repoPath_eq] at hlist
  exact isBlobOf_of_tree hcommit (hserves.tree branch c · · hbranch) hlist hentry

/-- The items of a page are entries of the tree. -/
theorem GitLab.mem_tree_of_listPage {g : GitLab} (hserves : g.Serves r api)
    (hbranch : r.commit (utf8 branch) = some c) {page : Nat} {items : List TreeItem}
    (hpage : g.listPage api branch rootPath page = .ok items) : ∀ item ∈ items, item ∈ c.tree := by
  obtain ⟨resp, hresp, hitems⟩ := bind_eq_ok hpage
  rw [g.page_eq, request_target_eq_ok] at hresp
  rw [decodeTree_eq_ok] at hitems
  exact hserves.tree branch rootPath page c resp items hbranch hresp.1 hresp.2 hitems

/-- The loop over the pages lists blobs of the branch. -/
theorem GitLab.isBlobOf {g : GitLab} (hserves : g.Serves r api)
    (hbranch : r.commit (utf8 branch) = some c) {fuel page : Nat}
    (hlist : g.listPages api branch rootPath fuel page = some (.ok entries))
    (hentry : entry ∈ entries) : IsBlobOf c entry := by
  -- The induction is on the fuel, for every page that the loop can be at.
  induction fuel generalizing page entries with
  | zero => cases hlist
  | succ fuel ih =>
    unfold GitLab.listPages at hlist
    split at hlist
    · cases hlist
    · rename_i items hpage
      have hitems := GitLab.mem_tree_of_listPage hserves hbranch hpage
      split at hlist
      · cases hlist
        exact isBlobOf_of_mem_listed hitems hentry
      · obtain ⟨rest, hrest, hmap⟩ := Option.map_eq_some_iff.mp hlist
        cases rest with
        | error err => cases hmap
        | ok rest =>
          cases hmap
          rcases List.mem_append.mp hentry with hentry | hentry
          · exact isBlobOf_of_mem_listed hitems hentry
          · exact ih hrest hentry

/-- The loop ends if some page is short or cannot be read. -/
theorem GitLab.listPages_isSome {g : GitLab} {n page : Nat}
    (h : ∀ items, g.listPage api branch rootPath (page + n) = .ok items → items.length < 100) :
    ∃ fuel, (g.listPages api branch rootPath fuel page).isSome := by
  -- On the number of pages before the short one.
  induction n generalizing page with
  | zero =>
    refine ⟨1, ?_⟩
    unfold GitLab.listPages
    split
    · rfl
    · rename_i items hpage
      rw [if_pos (h items hpage)]
      rfl
  | succ n ih =>
    have hnext : page + 1 + n = page + (n + 1) := by omega
    obtain ⟨fuel, hfuel⟩ := @ih (page + 1) (by rw [hnext]; exact h)
    refine ⟨fuel + 1, ?_⟩
    unfold GitLab.listPages
    split
    · rfl
    · split
      · rfl
      · rw [Option.isSome_map]
        exact hfuel

end Listings

/-! ### Fetches -/

section Fetches

variable {r : Repository} {api : Api} {branch : String} {c : Commit} {entry : FileEntry}

/-- GitHub returns the blob. -/
theorem GitHub.fetchFile_eq {g : GitHub} (hserves : g.Serves r api)
    (hbranch : r.commit (utf8 branch) = some c) (hblob : IsBlobOf c entry) :
    g.fetchFile api entry.path entry.sha = .ok (r.blob entry.sha) := by
  obtain ⟨item, hitem, htype, _, hsha⟩ := hblob
  obtain ⟨body, content, hanswer, hcontent⟩ := hserves.blob branch c item hbranch hitem htype
  have hhex : IsHex entry.sha := hsha ▸ c.hexTree item hitem
  rw [hsha] at hanswer hcontent
  -- The SHA goes into the path unescaped, which is safe for hexadecimal digits.
  unfold GitHub.fetchFile
  rw [g.blobs_eq hhex]
  have hstatus : 200 < 400 := by decide
  exact bind_ok (request_target_eq_ok.mpr ⟨hanswer, hstatus⟩) (decodeBlob_base64 hcontent)

/-- GitLab returns the file at the path of the default branch. -/
theorem GitLab.fetchFile_eq_ok {g : GitLab} (hserves : g.Serves r api) {bytes : Bytes} :
    g.fetchFile api entry.path entry.sha = .ok bytes ↔
      r.fileAt none (utf8 entry.path) = some bytes := by
  unfold GitLab.fetchFile
  rw [g.raw_eq]
  cases hfile : r.fileAt none (utf8 entry.path) with
  | some found =>
    obtain ⟨json, hanswer⟩ := hserves.raw (utf8 entry.path) found hfile
    have hstatus : 200 < 400 := by decide
    have hresp := (@request_target_eq_ok api "gitlab" _ _ _).mpr ⟨hanswer, hstatus⟩
    rw [hresp]
    simp [bind, Except.bind, pure, Except.pure]
  | none =>
    constructor
    · intro hfetch
      obtain ⟨resp, hresp, _⟩ := bind_eq_ok hfetch
      rw [request_target_eq_ok] at hresp
      have hstatus := hserves.notFound (utf8 entry.path) resp hfile hresp.1
      omega
    · intro h
      cases h

/-- A request of Gitea with an unescaped path. -/
theorem request_append {name : String} {segments : List Bytes} {path : Bytes} :
    request api name (pathOf segments ++ 47 :: path) =
      match parseTarget (47 :: path) with
      | none => .error .newRequest
      | some t =>
        match api ⟨segments ++ t.segments, t.query⟩ with
        | .error err => .error (.transport err)
        | .ok resp =>
          if resp.status ≥ 400 then .error (.http name (pathOf segments ++ 47 :: path) resp.status)
          else .ok resp := by
  unfold request
  rw [parseTarget_append]
  cases parseTarget (47 :: path) <;> rfl

/-- The contents API has no file where the raw one has none. -/
theorem Gitea.fetchViaContents_ne_ok {g : Gitea} (hserves : g.Serves r api) {path : String}
    {bytes : Bytes} (hnone : ∀ t, parseTarget (47 :: utf8 path) = some t →
      r.named t.segments t.query = none) : g.fetchViaContents api path ≠ .ok bytes := by
  intro hfetch
  obtain ⟨resp, hresp, hdecode⟩ := bind_eq_ok hfetch
  rw [g.contents_eq, request_append] at hresp
  split at hresp
  · cases hresp
  · rename_i t ht
    split at hresp
    · cases hresp
    · rename_i answer hanswer
      split at hresp
      · cases hresp
      · cases hresp
        obtain ⟨content, hjson⟩ := json_of_decodeBlob hdecode
        have happend : g.segments ++ [utf8 "contents"] ++ t.segments
            = g.segments ++ utf8 "contents" :: t.segments := by simp
        rw [happend] at hanswer
        exact hserves.noContents _ _ resp content (hnone t ht) hanswer (by omega) hjson

/-- Gitea returns the file that the URL with the path names. -/
theorem Gitea.fetchFile_eq_ok {g : Gitea} (hserves : g.Serves r api) {bytes : Bytes} :
    g.fetchFile api entry.path entry.sha = .ok bytes ↔
      ∃ t, parseTarget (47 :: utf8 entry.path) = some t ∧
        r.named t.segments t.query = some bytes := by
  unfold Gitea.fetchFile
  rw [g.raw_eq, request_append]
  cases ht : parseTarget (47 :: utf8 entry.path) with
  | none =>
    have hfails := @Gitea.fetchViaContents_ne_ok r api g hserves entry.path bytes
      (fun t h => by rw [ht] at h; cases h)
    simp [hfails]
  | some t =>
    have happend : g.segments ++ [utf8 "raw"] ++ t.segments
        = g.segments ++ utf8 "raw" :: t.segments := by simp
    dsimp only
    rw [happend]
    cases hnamed : r.named t.segments t.query with
    | some found =>
      obtain ⟨json, hanswer⟩ := hserves.raw _ _ found hnamed
      rw [hanswer]
      simp [hnamed]
    | none =>
      -- The raw API fails, and the fallback asks for the same file.
      have hfails := @Gitea.fetchViaContents_ne_ok r api g hserves entry.path bytes
        (fun t' h => by rw [ht] at h; cases h; exact hnamed)
      cases hanswer : api ⟨g.segments ++ utf8 "raw" :: t.segments, t.query⟩ with
      | error err => simp [hfails, hnamed]
      | ok resp =>
        have hstatus := hserves.notFound _ _ resp hnamed hanswer
        simp [hstatus, hfails, hnamed]

end Fetches

/-! ### The interface -/

/-- What a client lists are blobs of the branch. -/
theorem Client.isBlobOf {client : Client} {r : Repository} {api : Api} {branch rootPath : String}
    {c : Commit} {entries : List FileEntry} {entry : FileEntry} {fuel : Nat}
    (hserves : client.Serves r api) (hbranch : r.commit (utf8 branch) = some c)
    (hlist : client.listFiles api fuel branch rootPath = some (.ok entries))
    (hentry : entry ∈ entries) : IsBlobOf c entry := by
  cases client with
  | github g => exact GitHub.isBlobOf hserves hbranch (Option.some.inj hlist) hentry
  | gitlab g => exact GitLab.isBlobOf hserves hbranch hlist hentry
  | gitea g => exact Gitea.isBlobOf hserves hbranch (Option.some.inj hlist) hentry

/-- Take any repository, any client whose hosting API serves it, any branch and any root. Then
`FetchFile` on an entry that `ListFiles` returned gives the bytes of its path on the branch, which
are those of the blob with its SHA, if and only if the client asks for a file with these bytes. -/
theorem fetchFile_iff (client : Client) (r : Repository) (api : Api)
    (hserves : client.Serves r api) (branch rootPath : String) (c : Commit)
    (hbranch : r.commit (utf8 branch) = some c) (fuel : Nat) (entries : List FileEntry)
    (hlist : client.listFiles api fuel branch rootPath = some (.ok entries))
    (entry : FileEntry) (hentry : entry ∈ entries) :
    (r.file c (utf8 entry.path) = some (r.blob entry.sha) ∧
      client.fetchFile api entry.path entry.sha = .ok (r.blob entry.sha)) ↔
      client.Addresses r entry := by
  have hblob := Client.isBlobOf hserves hbranch hlist hentry
  -- The branch has the blob at the path in any case, so the fetch decides.
  have hfile : r.file c (utf8 entry.path) = some (r.blob entry.sha) := by
    obtain ⟨item, hitem, htype, hpath, hsha⟩ := hblob
    rw [← hpath, ← hsha]
    exact Repository.file_of_mem hitem htype
  have hfetch : client.fetchFile api entry.path entry.sha = .ok (r.blob entry.sha) ↔
      client.Addresses r entry := by
    cases client with
    | github g => exact ⟨fun _ => trivial, fun _ => GitHub.fetchFile_eq hserves hbranch hblob⟩
    | gitlab g => exact GitLab.fetchFile_eq_ok hserves
    | gitea g => exact Gitea.fetchFile_eq_ok hserves
  rw [hfetch]
  exact ⟨And.right, fun h => ⟨hfile, h⟩⟩

/-- For a path without `%`, `#`, `?` and control characters, Gitea asks for the path on the
default branch. -/
theorem Client.addresses_gitea_iff {g : Gitea} {r : Repository} {entry : FileEntry}
    (hplain : ∀ c ∈ utf8 entry.path, isPlain c = true) :
    (Client.gitea g).Addresses r entry ↔
      r.fileAt none (utf8 entry.path) = some (r.blob entry.sha) := by
  have hparse := parseTarget_plain hplain
  have hnamed : r.named ((utf8 entry.path).splitOn 47) [] = r.fileAt none (utf8 entry.path) := by
    unfold Repository.named
    rw [List.intercalate_splitOn]
    rfl
  constructor
  · rintro ⟨t, ht, hfound⟩
    rw [hparse] at ht
    cases ht
    rwa [hnamed] at hfound
  · intro hfound
    exact ⟨_, hparse, by rwa [hnamed]⟩

/-! ### A branch that is not the default one -/

/-- A server of the API of GitLab, with all entries on the first page. -/
def gitlabServer (g : GitLab) (r : Repository) : Api := fun t =>
  if t.segments = g.segments ++ [utf8 "repository", utf8 "tree"] then
    match (t.query.lookup (utf8 "ref")).bind r.commit with
    | some c =>
      .ok ⟨200, [], some (.tree
        (if t.query.lookup (utf8 "page") = some (decimal 1) then c.tree else []))⟩
    | none => .ok ⟨404, [], none⟩
  else
    match t.segments with
    | [_, _, _, _, path, _] =>
      if t = ⟨g.segments ++ [utf8 "repository", utf8 "files", path, utf8 "raw"],
          [(utf8 "ref", utf8 "HEAD")]⟩ then
        match r.fileAt none path with
        | some bytes => .ok ⟨200, bytes, none⟩
        | none => .ok ⟨404, [], none⟩
      else .ok ⟨404, [], none⟩
    | _ => .ok ⟨404, [], none⟩

theorem gitlabServer_serves (g : GitLab) (r : Repository) : g.Serves r (gitlabServer g r) := by
  -- The targets of the raw files and of the listing differ, so the server tells them apart.
  have hne : ∀ path, g.segments ++ [utf8 "repository", utf8 "files", path, utf8 "raw"]
      ≠ g.segments ++ [utf8 "repository", utf8 "tree"] := by
    intro path h
    cases List.append_cancel_left h
  have hraw : ∀ path, gitlabServer g r
      ⟨g.segments ++ [utf8 "repository", utf8 "files", path, utf8 "raw"],
        [(utf8 "ref", utf8 "HEAD")]⟩
      = match r.fileAt none path with
        | some bytes => .ok ⟨200, bytes, none⟩
        | none => .ok ⟨404, [], none⟩ := by
    intro path
    unfold gitlabServer
    dsimp only
    rw [if_neg (hne path)]
    exact if_pos rfl
  refine ⟨?_, ?_, ?_⟩
  · intro branch rootPath page c resp items hbranch hanswer _ hitems
    have href : (GitLab.pageQuery branch rootPath page).lookup (utf8 "ref")
        = some (utf8 branch) := by
      simp [GitLab.pageQuery]
    unfold gitlabServer at hanswer
    dsimp only at hanswer
    rw [if_pos rfl, href, Option.bind_some, hbranch] at hanswer
    cases hanswer
    cases hitems
    intro item hitem
    split at hitem
    · exact hitem
    · cases hitem
  · intro path bytes hfile
    rw [hraw, hfile]
    exact ⟨none, rfl⟩
  · intro path resp hfile hanswer
    rw [hraw, hfile] at hanswer
    cases hanswer
    decide

/-- A commit with one file. -/
def oneFile (sha : String) (hex : IsHex sha) : Commit where
  sha
  tree := [{ path := "configs/a.yaml", type := "blob", sha }]
  hex
  hexTree := by simpa using hex
  distinct := by simp

theorem hex_aa : IsHex "aa" := by decide

theorem hex_bb : IsHex "bb" := by decide

/-- Two branches with different contents at one path. The default branch is `main`. -/
def twoBranches : Repository where
  defaultBranch := "main"
  commit ref :=
    if ref = utf8 "main" then some (oneFile "aa" hex_aa)
    else if ref = utf8 "dev" then some (oneFile "bb" hex_bb)
    else none
  blob sha := utf8 ("content of " ++ sha)

theorem commit_main : twoBranches.commit (utf8 "main") = some (oneFile "aa" hex_aa) := by
  unfold twoBranches
  dsimp only
  rw [if_pos rfl]

theorem commit_dev : twoBranches.commit (utf8 "dev") = some (oneFile "bb" hex_bb) := by
  have hne : utf8 "dev" ≠ utf8 "main" := by decide
  unfold twoBranches
  dsimp only
  rw [if_neg hne, if_pos rfl]

/-- The project of the repository. -/
def project : GitLab := ⟨"team/configs"⟩

/-- The file of the branch `main`. -/
def onMain : FileEntry := ⟨"configs/a.yaml", "aa"⟩

/-- The file of the branch `dev`. -/
def onDev : FileEntry := ⟨"configs/a.yaml", "bb"⟩

/-- The default branch is fetched. -/
theorem fetched_main :
    twoBranches.file (oneFile "aa" hex_aa) (utf8 "configs/a.yaml")
        = some (utf8 "content of aa") ∧
      (Client.gitlab project).fetchFile (gitlabServer project twoBranches) "configs/a.yaml" "aa"
        = .ok (utf8 "content of aa") :=
  (fetchFile_iff (.gitlab project) twoBranches (gitlabServer project twoBranches)
    (gitlabServer_serves project twoBranches) "main" "configs" (oneFile "aa" hex_aa)
    commit_main 1 [onMain] (by decide +kernel) onMain List.mem_cons_self).mpr (by
      show twoBranches.fileAt none (utf8 "configs/a.yaml") = some (utf8 "content of aa")
      decide +kernel)

/-- The file of `dev` is listed, and the one of `main` is fetched. -/
theorem fetched_other :
    ¬ ∀ (client : Client) (r : Repository) (api : Api), client.Serves r api →
      ∀ (branch rootPath : String) (c : Commit), r.commit (utf8 branch) = some c →
      ∀ (fuel : Nat) (entries : List FileEntry),
        client.listFiles api fuel branch rootPath = some (.ok entries) →
      ∀ entry ∈ entries, r.file c (utf8 entry.path) = some (r.blob entry.sha) ∧
        client.fetchFile api entry.path entry.sha = .ok (r.blob entry.sha) := by
  intro hall
  have hfetch := (hall (.gitlab project) twoBranches (gitlabServer project twoBranches)
    (gitlabServer_serves project twoBranches) "dev" "configs" (oneFile "bb" hex_bb)
    commit_dev 1 [onDev] (by decide +kernel) onDev List.mem_cons_self).2
  have hfile : twoBranches.fileAt none (utf8 onDev.path) = some (twoBranches.blob onDev.sha) :=
    (GitLab.fetchFile_eq_ok (gitlabServer_serves project twoBranches)).mp hfetch
  revert hfile
  decide +kernel

end OtelHive.Gitsync.Providers
