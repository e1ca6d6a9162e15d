import OtelHive.Proofs.Gitsync.Providers

/-!
# `OtelHive.Proofs.Gitsync.Listing`: the pages of a GitLab listing

GitLab lists a tree in pages of 100 items. The loop of `ListFiles` ends at the first page that is
not full, so a tree of `n` items takes `n / 100 + 1` pages, the last of which is empty when `n` is a
multiple of 100. At each page the loop still has to list the items that are left
(`GitLab.listPages_eq_ok`).

`GitLab.listFiles_complete`: the loop ends. If all these pages can be read, it lists the YAML
files under the root, each once and in order, and else it returns an error.
-/

set_option autoImplicit false

namespace OtelHive.Gitsync.Providers

open OtelHive.Lib
open OtelHive.Lib.Url

/-! ### What is listed -/

/-- A YAML file under the root, or at it. -/
def IsConfigFile (rootPath : String) (item : TreeItem) : Prop :=
  item.type = "blob" ∧
    (trimSuffix rootPath.toList ['/'] ++ ['/'] <+: item.path.toList ∨ item.path = rootPath) ∧
    (".yaml".toList <:+ item.path.toList ∨ ".yml".toList <:+ item.path.toList)

instance (rootPath : String) (item : TreeItem) : Decidable (IsConfigFile rootPath item) := by
  unfold IsConfigFile
  infer_instance

/-- The YAML files of the tree under the root, in order. -/
def configFiles (rootPath : String) (items : List TreeItem) : List FileEntry :=
  (items.filter fun item => decide (IsConfigFile rootPath item)).map fun item =>
    { path := item.path, sha := item.sha }

theorem listed_eq (rootPath : String) (items : List TreeItem) :
    listed rootPath items = configFiles rootPath items := by
  unfold listed configFiles
  congr 1
  refine List.filter_congr fun item _ => ?_
  rw [Bool.eq_iff_iff, decide_eq_true_iff]
  unfold isListed IsConfigFile
  simp only [Bool.and_eq_true, Bool.or_eq_true, beq_iff_eq, List.isPrefixOf_iff_prefix,
    List.isSuffixOf_iff_suffix, and_assoc]

theorem listed_append (rootPath : String) (a b : List TreeItem) :
    listed rootPath (a ++ b) = listed rootPath a ++ listed rootPath b := by
  simp [listed]

namespace GitLab

/-! ### Pages -/

/-- The items `100 (page - 1) + 1` to `100 page`. -/
def pageItems (items : List TreeItem) (page : Nat) : List TreeItem :=
  (items.drop (100 * (page - 1))).take 100

/-- The pages of a tree up to the first that is not full. -/
def pageCount (items : List TreeItem) : Nat := items.length / 100 + 1

section

variable (g : GitLab) (api : Api) (branch rootPath : String) (items : List TreeItem) (page : Nat)

/-- The answer of the API to the request for the page. -/
def pageAnswer : Except String Response :=
  api ⟨g.segments ++ [utf8 "repository", utf8 "tree"], pageQuery branch rootPath page⟩

/-- The API answers with the items of the page. -/
def ServesPage : Prop :=
  ∃ resp, g.pageAnswer api branch rootPath page = .ok resp ∧ resp.status < 400 ∧
    resp.json = some (.tree (pageItems items page))

/-- The request for the page fails, or its answer does not decode. -/
def PageFails : Prop :=
  ∀ resp, g.pageAnswer api branch rootPath page = .ok resp → resp.status < 400 →
    ∀ page, resp.json ≠ some (.tree page)

end

section

variable {g : GitLab} {api : Api} {branch rootPath : String} {items : List TreeItem}

/-- A page that is served is read. -/
theorem listPage_of_servesPage {page : Nat} (h : g.ServesPage api branch rootPath items page) :
    g.listPage api branch rootPath page = .ok (pageItems items page) := by
  obtain ⟨resp, hanswer, hstatus, hjson⟩ := h
  unfold listPage
  rw [g.page_eq, request_target_eq_ok.mpr ⟨hanswer, hstatus⟩]
  exact decodeTree_eq_ok.mpr hjson

/-- A page that fails is an error. -/
theorem listPage_of_pageFails {page : Nat} (h : g.PageFails api branch rootPath page) :
    ∃ err, g.listPage api branch rootPath page = .error err := by
  cases hpage : g.listPage api branch rootPath page with
  | error err => exact ⟨err, rfl⟩
  | ok read =>
    obtain ⟨resp, hresp, hread⟩ := bind_eq_ok hpage
    rw [g.page_eq, request_target_eq_ok] at hresp
    exact absurd (decodeTree_eq_ok.mp hread) (h resp hresp.1 hresp.2 read)

/-- A page before the last one is full. -/
theorem length_pageItems {page : Nat} (hpage : 1 ≤ page) (hlt : page < pageCount items) :
    (pageItems items page).length = 100 := by
  unfold pageItems
  unfold pageCount at hlt
  rw [List.length_take, List.length_drop]
  omega

/-- The last page is not full. It has all items that are left. -/
theorem pageItems_last (items : List TreeItem) :
    (pageItems items (pageCount items)).length < 100 ∧
      pageItems items (pageCount items) = items.drop (100 * (pageCount items - 1)) := by
  have hrest : (items.drop (100 * (pageCount items - 1))).length < 100 := by
    unfold pageCount
    rw [List.length_drop]
    omega
  unfold pageItems
  rw [List.take_of_length_le hrest.le]
  exact ⟨hrest, rfl⟩

/-- From a page on, the loop lists the items that are left. -/
theorem listPages_eq_ok {fuel page : Nat} (hpage : 1 ≤ page) (hle : page ≤ pageCount items)
    (hserved : ∀ p, page ≤ p → p ≤ pageCount items → g.ServesPage api branch rootPath items p)
    (hfuel : pageCount items < page + fuel) :
    g.listPages api branch rootPath fuel page
      = some (.ok (listed rootPath (items.drop (100 * (page - 1))))) := by
  induction fuel generalizing page with
  | zero => omega
  | succ fuel ih =>
    unfold listPages
    rw [listPage_of_servesPage (hserved page le_rfl hle)]
    dsimp only
    rcases hle.lt_or_eq with hlt | rfl
    · have hfull := length_pageItems hpage hlt
      have hnext : items.drop (100 * (page - 1))
          = pageItems items page ++ items.drop (100 * (page + 1 - 1)) := by
        have hindex : 100 * (page + 1 - 1) = 100 * (page - 1) + 100 := by omega
        rw [hindex, ← List.drop_drop]
        exact (List.take_append_drop 100 _).symm
      rw [if_neg (by omega), ih (by omega) hlt
        (fun p hp hcount => hserved p (by omega) hcount) (by omega), hnext, listed_append]
      rfl
    · obtain ⟨hshort, hlast⟩ := pageItems_last items
      rw [if_pos hshort, hlast]

/-- The loop returns an error if one of the pages it comes to fails. -/
theorem listPages_eq_error {fuel page : Nat} (hpage : 1 ≤ page)
    (hserves : ∀ p, page ≤ p → p ≤ pageCount items →
      g.ServesPage api branch rootPath items p ∨ g.PageFails api branch rootPath p)
    (hfails : ∃ p, page ≤ p ∧ p ≤ pageCount items ∧ g.PageFails api branch rootPath p)
    (hfuel : pageCount items < page + fuel) :
    ∃ err, g.listPages api branch rootPath fuel page = some (.error err) := by
  induction fuel generalizing page with
  | zero =>
    obtain ⟨p, hp, hcount, _⟩ := hfails
    omega
  | succ fuel ih =>
    obtain ⟨p, hp, hcount, hfail⟩ := hfails
    unfold listPages
    rcases hserves page le_rfl (by omega) with hserved | hfailed
    · rw [listPage_of_servesPage hserved]
      dsimp only
      rcases hp.lt_or_eq with hlt | rfl
      · -- The page that fails comes later, so this one is full.
        have hfull := length_pageItems hpage (hlt.trans_le hcount)
        obtain ⟨err, herr⟩ := ih (by omega) (fun q hq => hserves q (by omega))
          ⟨p, hlt, hcount, hfail⟩ (by omega)
        rw [if_neg (by omega), herr]
        exact ⟨err, rfl⟩
      · obtain ⟨err, herr⟩ := listPage_of_pageFails hfail
        rw [listPage_of_servesPage hserved] at herr
        cases herr
    · obtain ⟨err, herr⟩ := listPage_of_pageFails hfailed
      rw [herr]
      exact ⟨err, rfl⟩

end

/-- The loop over the pages of a tree ends. It lists the YAML files under the root, each once and in
order, if all its pages can be read, and else it returns an error. -/
theorem listFiles_complete (g : GitLab) (api : Api) (branch rootPath : String)
    (items : List TreeItem)
    (hserves : ∀ page, 1 ≤ page → page ≤ pageCount items →
      g.ServesPage api branch rootPath items page ∨ g.PageFails api branch rootPath page)
    (fuel : Nat) (hfuel : pageCount items ≤ fuel) :
    ((∀ page, 1 ≤ page → page ≤ pageCount items → ¬ g.PageFails api branch rootPath page) →
      g.listPages api branch rootPath fuel 1 = some (.ok (configFiles rootPath items))) ∧
    ((∃ page, 1 ≤ page ∧ page ≤ pageCount items ∧ g.PageFails api branch rootPath page) →
      ∃ err, g.listPages api branch rootPath fuel 1 = some (.error err)) := by
  constructor
  · intro hread
    have hserved : ∀ page, 1 ≤ page → page ≤ pageCount items →
        g.ServesPage api branch rootPath items page := fun page hpage hcount =>
      (hserves page hpage hcount).resolve_right (hread page hpage hcount)
    have hone : 1 ≤ pageCount items := Nat.le_add_left 1 _
    rw [listPages_eq_ok le_rfl hone hserved (by omega), listed_eq]
    rfl
  · intro hfails
    exact listPages_eq_error le_rfl hserves hfails (by omega)

/-- A tree of one directory and one file. -/
def smallTree : List TreeItem :=
  [{ path := "configs/groups", type := "tree", sha := "t1" },
    { path := "configs/groups/ops.yaml", type := "blob", sha := "b1" }]

/-- An API that answers every request with the tree. -/
def smallApi : Api := fun _ => .ok ⟨200, [], some (.tree smallTree)⟩

theorem smallApi_servesPage (page : Nat) (hpage : 1 ≤ page) (hcount : page ≤ pageCount smallTree) :
    GitLab.ServesPage ⟨"team/configs"⟩ smallApi "main" "configs" smallTree page := by
  have hcountOne : pageCount smallTree = 1 := rfl
  have hone : page = 1 := by omega
  subst hone
  exact ⟨_, rfl, by decide, rfl⟩

/-- The file is listed. -/
theorem listFiles_smallTree :
    listPages ⟨"team/configs"⟩ smallApi "main" "configs" 1 1
      = some (.ok [{ path := "configs/groups/ops.yaml", sha := "b1" }]) :=
  (listFiles_complete ⟨"team/configs"⟩ smallApi "main" "configs" smallTree
    (fun page hpage hcount => .inl (smallApi_servesPage page hpage hcount)) 1 le_rfl).1 (by
      intro page hpage hcount hfails
      obtain ⟨resp, hanswer, hstatus, hjson⟩ := smallApi_servesPage page hpage hcount
      exact hfails resp hanswer hstatus _ hjson)

end GitLab

end OtelHive.Gitsync.Providers
